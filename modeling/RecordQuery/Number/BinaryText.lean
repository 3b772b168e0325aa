import RecordQuery.Number.Binary
import RecordQuery.Text.Digits

/-!
# Reading binary numbers

A text is an optional sign, then one of the words for the infinite and the undefined
number in any case, or digits with at most one point and an optional exponent. It denotes an
exact decimal, and the result is the nearest number of the format.
-/

namespace RecordQuery.Binary

/-- A run of digits in front of a text, as digits and rest. -/
def digitRun (text : List Char) : List Char × List Char :=
  text.span fun c => (Text.digitValue? c).isSome

/-- The number written by digits, zero for none. -/
def digitsValue (digits : List Char) : Nat :=
  (Text.readNat? digits).getD 0

/-- An unsigned decimal in scientific form: `digits * 10 ^ exponent`. -/
structure Scientific where
  digits : Nat
  exponent : Int
  deriving DecidableEq, Repr

/-- An exponent after its letter: digits, after at most one sign. -/
def readExponent? : List Char → Option Int
  | [] => some 0
  | letter :: rest =>
      if letter = 'e' ∨ letter = 'E' then Text.readInt? rest else none

/-- Reads digits with at most one point and an optional exponent. -/
def readScientific? (text : List Char) : Option Scientific := do
  let (whole, rest) := digitRun text
  let (fraction, rest) :=
    match rest with
    | '.' :: rest => digitRun rest
    | rest => ([], rest)
  if whole.isEmpty && fraction.isEmpty then none
  let exponent ← readExponent? rest
  pure ⟨digitsValue (whole ++ fraction), exponent - fraction.length⟩

/-- The nearest number to a decimal. A decimal of more than 400 places before the point, or
    of 400 zeros after it, is beyond every format and its power of ten is never built. -/
def ofScientific (format : Format) (negative : Bool) (decimal : Scientific) : Binary :=
  let magnitude := decimal.exponent + (Text.natDigits decimal.digits).length
  if decimal.digits = 0 ∨ magnitude < -400 then finite negative 0 format.least
  else if 400 < magnitude then infinite negative
  else
    match decimal.exponent with
    | .ofNat zeros => round format negative (decimal.digits * tenTo zeros) 1
    | .negSucc places => round format negative decimal.digits (tenTo (places + 1))

/-- Reads an unsigned number. -/
def readMagnitude? (format : Format) (negative : Bool) (text : List Char) : Option Binary :=
  match String.ofList (text.map Char.toLower) with
  | "inf" | "infinity" => some (infinite negative)
  | "nan" => some nan
  | _ => (readScientific? text).map (ofScientific format negative)

/-- Reads a number: a sign at most, then its magnitude. -/
def read? (format : Format) : List Char → Option Binary
  | '-' :: text => readMagnitude? format true text
  | '+' :: text => readMagnitude? format false text
  | text => readMagnitude? format false text

end RecordQuery.Binary
