import RecordQuery.Number.Power
import RecordQuery.Proofs.Number.Numeral
import RecordQuery.Proofs.Text.Blank

/-!
# Digits that are read and written

The digits of a number are read as the number, behind a sign or zeros as well. A number has no
more digits than the power of ten above it, and a run of digits stands for less than the power of
ten that has one digit more. No digit is blank.
-/

namespace RecordQuery.Text

/-- A digit is one of ten characters. -/
theorem toNat_of_isDigit {c : Char} (isDigit : c.isDigit = true) :
    48 ≤ c.toNat ∧ c.toNat ≤ 57 := by
  simp only [Char.isDigit, Bool.and_eq_true, decide_eq_true_eq, ge_iff_le,
    UInt32.le_iff_toNat_le] at isDigit
  exact isDigit

/-- Digits are not blank. -/
theorem isBlank_of_isDigit {c : Char} (isDigit : c.isDigit = true) : isBlank c = false := by
  obtain ⟨lower, upper⟩ := toNat_of_isDigit isDigit
  simp only [isBlank, Bool.or_eq_false_iff, Bool.and_eq_false_iff, beq_eq_false_iff_ne,
    decide_eq_false_iff_not]
  omega

/-- A numeral has no blanks, nor has the sign in front of it. So trimming leaves it as it is. -/
theorem isBlank_of_isSignedNumeral {text : String} (written : IsSignedNumeral text) :
    ∀ c ∈ text.toList, isBlank c = false := by
  obtain ⟨negative, digits, isNumeral, rfl⟩ := written
  have solid : ∀ c ∈ digits, isBlank c = false := by
    cases isNumeral with
    | whole _ all => exact fun c member => isBlank_of_isDigit (all c member)
    | fraction _ before _ behind =>
      intro c member
      rcases List.mem_append.mp member with earlier | rest
      · exact isBlank_of_isDigit (before c earlier)
      · rcases List.mem_cons.mp rest with rfl | later
        · decide
        · exact isBlank_of_isDigit (behind c later)
  rw [String.toList_ofList]
  cases negative with
  | false => exact solid
  | true => exact List.forall_mem_cons.mpr ⟨by decide, solid⟩

/-- Digits have a value below ten. -/
theorem digitValue_lt {c : Char} {digit : Nat} (read : digitValue? c = some digit) :
    digit < 10 := by
  unfold digitValue? at read
  split at read
  · cases read
    omega
  · cases read

/-- A number below a power of ten has no more digits than the power has zeros. The induction is on
    the width, with one digit taken off at each step. -/
theorem length_natDigits_le {number width : Nat} (positive : 0 < width)
    (small : number < tenTo width) : (natDigits number).length ≤ width := by
  induction width generalizing number with
  | zero => cases positive
  | succ width inductionHypothesis =>
    unfold natDigits
    split
    · exact Nat.le_add_left 1 width
    · rename_i large
      have below : number / 10 < tenTo width := by
        rw [tenTo, Nat.pow_eq, Nat.pow_succ] at small
        exact Nat.div_lt_of_lt_mul (Nat.mul_comm _ _ ▸ small)
      have fewer : 0 < width := by
        rcases width with _ | width
        · have one : tenTo 0 = 1 := rfl
          omega
        · exact Nat.succ_pos width
      have shorter := inductionHypothesis fewer below
      rw [List.length_append, List.length_singleton]
      omega

/-- Zeros fill a number below a power of ten up to exactly the width of the power. A longer number
    would be kept whole. -/
theorem length_padZeros {number width : Nat} (positive : 0 < width)
    (small : number < tenTo width) : (padZeros width (natDigits number)).length = width := by
  have fits := length_natDigits_le positive small
  rw [padZeros, List.length_append, List.length_replicate]
  omega

/-- Zeros in front of a number leave it as it is. The zeros are read as zero, with which reading
    begins anyway. -/
theorem readNat_padZeros (width number : Nat) :
    readNat? (padZeros width (natDigits number)) = some number := by
  have zeros (count : Nat) : (List.replicate count '0').foldl pushDigit (some 0) = some 0 := by
    induction count with
    | zero => rfl
    | succ count inductionHypothesis =>
      rw [List.replicate_succ, List.foldl_cons]
      exact inductionHypothesis
  simp [readNat?, padZeros, natDigits_ne_nil, zeros, foldl_natDigits]

/-- The digits of an integer behind its sign are read as the integer. A number that is not negative
    starts with a digit, which is no sign. -/
theorem readInt_intDigits (number : Int) : readInt? (intDigits number) = some number := by
  unfold intDigits
  split
  · rename_i negative
    rw [readInt?, readNat_natDigits]
    show some (-(number.natAbs : Int)) = some number
    congr 1
    omega
  · rename_i positive
    obtain ⟨c, rest, digits⟩ := List.exists_cons_of_ne_nil (natDigits_ne_nil number.natAbs)
    have isDigit : c.isDigit = true :=
      isDigit_natDigits number.natAbs c (digits ▸ List.mem_cons_self)
    have unsigned : readInt? (natDigits number.natAbs) =
        (readNat? (natDigits number.natAbs)).map Int.ofNat := by
      rw [digits]
      unfold readInt?
      split
      · rename_i sign
        cases sign
        cases isDigit
      · rename_i sign
        cases sign
        cases isDigit
      · rfl
    rw [unsigned, readNat_natDigits, Option.map_some, Int.ofNat_eq_natCast]
    congr 1
    omega

/-- What follows no number is no number either. -/
theorem foldl_pushDigit_none (digits : List Char) : digits.foldl pushDigit none = none := by
  induction digits with
  | nil => rfl
  | cons c rest inductionHypothesis => exact inductionHypothesis

/-- A number that is read on begins with the value of the next character, which is a digit.
    Otherwise the reading would have come to nothing there. -/
theorem foldl_pushDigit_cons {c : Char} {rest : List Char} {head number : Nat}
    (read : (c :: rest).foldl pushDigit (some head) = some number) :
    ∃ digit, digitValue? c = some digit ∧
      rest.foldl pushDigit (some (head * 10 + digit)) = some number := by
  rw [List.foldl_cons] at read
  cases value : digitValue? c with
  | none =>
    have stopped : pushDigit (some head) c = none := by simp [pushDigit, value]
    rw [stopped, foldl_pushDigit_none] at read
    cases read
  | some digit =>
    have pushed : pushDigit (some head) c = some (head * 10 + digit) := by simp [pushDigit, value]
    rw [pushed] at read
    exact ⟨digit, rfl, read⟩

/-- A number that is read on does not become smaller. Every further digit multiplies what is read so
    far. -/
theorem le_of_foldl_pushDigit {digits : List Char} {head number : Nat}
    (read : digits.foldl pushDigit (some head) = some number) : head ≤ number := by
  induction digits generalizing head with
  | nil =>
    cases read
    exact Nat.le_refl _
  | cons c rest inductionHypothesis =>
    obtain ⟨digit, -, readRest⟩ := foldl_pushDigit_cons read
    have further := inductionHypothesis readRest
    omega

/-- A number is read digit by digit, beginning with zero. -/
theorem foldl_of_readNat {digits : List Char} {number : Nat}
    (read : readNat? digits = some number) : digits.foldl pushDigit (some 0) = some number := by
  unfold readNat? at read
  split at read
  · cases read
  · exact read

/-- Digits behind a number move it to the left by as many places. The induction is from the end,
    where the last digit is the smallest place. -/
theorem foldl_pushDigit_of_readNat {digits : List Char} {number : Nat}
    (read : readNat? digits = some number) (head : Nat) :
    digits.foldl pushDigit (some head) = some (head * tenTo digits.length + number) := by
  have folded := foldl_of_readNat read
  clear read
  induction digits using List.reverseRecOn generalizing number with
  | nil =>
    cases folded
    simp [tenTo]
  | append_singleton before c inductionHypothesis =>
    rw [List.foldl_append, List.foldl_cons, List.foldl_nil] at folded
    obtain ⟨earlier, readEarlier, rest⟩ := Option.bind_eq_some_iff.mp folded
    obtain ⟨digit, readDigit, same⟩ := Option.bind_eq_some_iff.mp rest
    cases same
    have power : tenTo (before.length + 1) = tenTo before.length * 10 := Nat.pow_succ ..
    rw [List.foldl_append, inductionHypothesis readEarlier, List.length_append,
      List.length_singleton, power]
    simp [pushDigit, readDigit, Nat.add_mul, Nat.mul_assoc, Nat.add_assoc]

/-- A run of digits stands for less than the power of ten with as many zeros. Zeros in front only
    make the bound larger than need be. -/
theorem readNat_lt {digits : List Char} {number : Nat} (read : readNat? digits = some number) :
    number < tenTo digits.length := by
  have folded := foldl_of_readNat read
  clear read
  induction digits using List.reverseRecOn generalizing number with
  | nil =>
    cases folded
    decide
  | append_singleton before c inductionHypothesis =>
    rw [List.foldl_append, List.foldl_cons, List.foldl_nil] at folded
    obtain ⟨head, readHead, rest⟩ := Option.bind_eq_some_iff.mp folded
    obtain ⟨digit, readDigit, same⟩ := Option.bind_eq_some_iff.mp rest
    cases same
    have earlier := inductionHypothesis readHead
    have small := digitValue_lt readDigit
    rw [List.length_append, List.length_singleton]
    simp only [tenTo, Nat.pow_eq, Nat.pow_succ] at earlier ⊢
    omega

end RecordQuery.Text
