/-!
# Decimal digits

Natural numbers are written with ASCII digits, without leading zeros, and read from any
non-empty run of ASCII digits. Reading a written number gives the number back
(`readNat_natDigits`). An integer may carry one sign.
-/

namespace RecordQuery.Text

/-- The digit character of a number below ten. -/
def digitChar (digit : Nat) : Char :=
  Char.ofNat (48 + digit)

/-- The value of an ASCII digit. -/
def digitValue? (c : Char) : Option Nat :=
  if 48 ≤ c.toNat ∧ c.toNat ≤ 57 then some (c.toNat - 48) else none

/-- The decimal digits of a number, at least one. -/
def natDigits (number : Nat) : List Char :=
  if number < 10 then [digitChar number]
  else natDigits (number / 10) ++ [digitChar (number % 10)]

/-- Extends a number by one digit on the right. -/
def pushDigit (number : Option Nat) (c : Char) : Option Nat := do
  let head ← number
  let digit ← digitValue? c
  pure (head * 10 + digit)

/-- Reads a non-empty run of ASCII digits. -/
def readNat? (text : List Char) : Option Nat :=
  if text.isEmpty then none else text.foldl pushDigit (some 0)

/-- Reads an integer: digits, after at most one sign. -/
def readInt? : List Char → Option Int
  | '-' :: digits => (readNat? digits).map fun number => -(number : Int)
  | '+' :: digits => (readNat? digits).map Int.ofNat
  | digits => (readNat? digits).map Int.ofNat

/-- Reads a natural number, after at most one plus sign. -/
def readPlusNat? : List Char → Option Nat
  | '+' :: digits => readNat? digits
  | digits => readNat? digits

/-- The digits of an integer, after a minus sign when it is negative. -/
def intDigits (number : Int) : List Char :=
  if number < 0 then '-' :: natDigits number.natAbs else natDigits number.natAbs

/-- Zeros in front, up to a width. -/
def padZeros (width : Nat) (digits : List Char) : List Char :=
  List.replicate (width - digits.length) '0' ++ digits

/-- An integer as text. -/
def ofInt (number : Int) : String :=
  String.ofList (intDigits number)

/-- A natural number as text. -/
def ofNat (number : Nat) : String :=
  String.ofList (natDigits number)

/-- A digit's character has the digit's value. -/
theorem digitValue_digitChar (digit : Nat) (small : digit < 10) :
    digitValue? (digitChar digit) = some digit := by
  revert small
  revert digit
  decide

/-- Reading the digits of a number gives the number. -/
theorem foldl_natDigits (number : Nat) :
    (natDigits number).foldl pushDigit (some 0) = some number := by
  induction number using Nat.strongRecOn with
  | ind number ih =>
    unfold natDigits
    split
    · rename_i small
      simp [pushDigit, digitValue_digitChar number small]
    · rename_i large
      have smaller : number / 10 < number := by omega
      have digit := digitValue_digitChar (number % 10) (Nat.mod_lt _ (by decide))
      rw [List.foldl_append, ih _ smaller]
      simp [pushDigit, digit]
      omega

/-- Numbers have at least one digit. -/
theorem natDigits_ne_nil (number : Nat) : natDigits number ≠ [] := by
  unfold natDigits
  split <;> simp

/-- Reading what was written gives the number back. -/
theorem readNat_natDigits (number : Nat) : readNat? (natDigits number) = some number := by
  simp [readNat?, natDigits_ne_nil, foldl_natDigits]

end RecordQuery.Text
