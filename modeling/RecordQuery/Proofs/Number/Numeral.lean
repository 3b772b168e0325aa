import RecordQuery.Number.Basic

/-!
# How numbers are written

A finite number of any kind is written with digits alone: a sign if it is negative, digits, and a
point with digits behind it if it has places. There is no exponent and no word, so the text of a
number is one in SQL as well.
-/

namespace RecordQuery

/-- Digits, or digits before and behind a point. -/
inductive IsNumeral : List Char → Prop
  | whole {digits : List Char} (some : digits ≠ []) (all : ∀ c ∈ digits, c.isDigit = true) :
      IsNumeral digits
  | fraction {before behind : List Char} (someBefore : before ≠ [])
      (allBefore : ∀ c ∈ before, c.isDigit = true) (someBehind : behind ≠ [])
      (allBehind : ∀ c ∈ behind, c.isDigit = true) : IsNumeral (before ++ '.' :: behind)

/-- A numeral begins with a digit. There is a digit in front of the point, if there is one. -/
theorem IsNumeral.exists_digit {text : List Char} (isNumeral : IsNumeral text) :
    ∃ c rest, text = c :: rest ∧ c.isDigit = true := by
  cases isNumeral with
  | whole some all =>
    obtain ⟨c, rest, rfl⟩ := List.exists_cons_of_ne_nil some
    exact ⟨c, rest, rfl, all c List.mem_cons_self⟩
  | fraction someBefore allBefore =>
    obtain ⟨c, rest, rfl⟩ := List.exists_cons_of_ne_nil someBefore
    exact ⟨c, _, rfl, allBefore c List.mem_cons_self⟩

/-- A numeral, or one behind a minus sign. -/
def IsSignedNumeral (text : String) : Prop :=
  ∃ (negative : Bool) (digits : List Char), IsNumeral digits ∧
    text = String.ofList (if negative then '-' :: digits else digits)

namespace Text

/-- The character of a digit is a digit. -/
theorem isDigit_digitChar {digit : Nat} (small : digit < 10) :
    (digitChar digit).isDigit = true := by
  revert small
  revert digit
  decide

/-- A natural number is written with digits. The induction is on the number, as digits are split off
    from its end. -/
theorem isDigit_natDigits (number : Nat) : ∀ c ∈ natDigits number, c.isDigit = true := by
  induction number using Nat.strongRecOn with
  | ind number inductionHypothesis =>
    intro c member
    unfold natDigits at member
    split at member
    · rename_i small
      rw [List.mem_singleton.mp member]
      exact isDigit_digitChar small
    · rename_i large
      rcases List.mem_append.mp member with earlier | last
      · exact inductionHypothesis (number / 10) (by omega) c earlier
      · rw [List.mem_singleton.mp last]
        exact isDigit_digitChar (Nat.mod_lt _ (by decide))

/-- Digits with zeros in front are digits. Zeros are digits too. -/
theorem isDigit_padZeros (width : Nat) {digits : List Char}
    (all : ∀ c ∈ digits, c.isDigit = true) : ∀ c ∈ padZeros width digits, c.isDigit = true := by
  intro c member
  rcases List.mem_append.mp member with zero | known
  · rw [(List.mem_replicate.mp zero).2]
    rfl
  · exact all c known

/-- Zeros fill digits up to a width. -/
theorem le_length_padZeros (width : Nat) (digits : List Char) :
    width ≤ (padZeros width digits).length := by
  rw [padZeros, List.length_append, List.length_replicate]
  omega

/-- The digits of a natural number are a numeral. -/
theorem isNumeral_natDigits (number : Nat) : IsNumeral (natDigits number) :=
  .whole (natDigits_ne_nil number) (isDigit_natDigits number)

end Text

/-- A decimal written positionally is a numeral. It is written out without an exponent, however
    large or small it is. -/
theorem Binary.DecimalPoint.isNumeral_positional (point : DecimalPoint) :
    IsNumeral point.positional := by
  have digits := Text.isDigit_natDigits point.digits
  unfold positional
  split
  · rename_i zeros _
    refine .whole (by simp [Text.natDigits_ne_nil]) fun c member => ?_
    rcases List.mem_append.mp member with known | zero
    · exact digits c known
    · rw [(List.mem_replicate.mp zero).2]
      rfl
  · rename_i places _
    -- The digits are padded so that one is left before the point.
    have padded := Text.isDigit_padZeros (places + 2) digits
    have long := Text.le_length_padZeros (places + 2) (Text.natDigits point.digits)
    refine .fraction ?_ (fun c member => padded c (List.mem_of_mem_take member)) ?_
      (fun c member => padded c (List.mem_of_mem_drop member))
    · rw [ne_eq, List.take_eq_nil_iff, not_or]
      refine ⟨by omega, fun empty => ?_⟩
      rw [empty] at long
      simp at long
    · rw [ne_eq, List.drop_eq_nil_iff]
      omega

/-- A finite binary number is written as a numeral. Its digits are the shortest that lead back to
    it, but nothing depends on this here. -/
theorem Binary.isSignedNumeral_text (format : Format) {value : Binary}
    (finite : value.isFinite = true) : IsSignedNumeral (value.text format) := by
  cases value with
  | nan => cases finite
  | infinite negative => cases finite
  | finite negative significand exponent =>
    refine ⟨negative, _, ?_, rfl⟩
    split
    · exact .whole (List.cons_ne_nil _ _) (List.forall_mem_singleton.mpr rfl)
    · exact DecimalPoint.isNumeral_positional _

/-- A decimal is written as a numeral. Places are written with their zeros at the end. -/
theorem Decimal.isSignedNumeral_text (decimal : Decimal) : IsSignedNumeral decimal.text := by
  refine ⟨decimal.negative, _, ?_, rfl⟩
  split
  · exact Text.isNumeral_natDigits _
  · rename_i placed
    have behind := Text.isDigit_padZeros decimal.scale (Text.isDigit_natDigits decimal.fractionPart)
    refine .fraction (Text.natDigits_ne_nil _) (Text.isDigit_natDigits _) ?_ behind
    intro empty
    have long := Text.le_length_padZeros decimal.scale (Text.natDigits decimal.fractionPart)
    rw [empty, List.length_nil] at long
    omega

/-- An integer is written as a numeral. -/
theorem Text.isSignedNumeral_ofInt (value : Int) : IsSignedNumeral (ofInt value) :=
  ⟨decide (value < 0), _, isNumeral_natDigits value.natAbs, by simp [ofInt, intDigits]⟩

/-- A finite number of any kind is written as a numeral. So every number that has a literal has one
    that falls into a sign and a number. -/
theorem Number.isSignedNumeral_text {number : Number} (finite : number.isFinite = true) :
    IsSignedNumeral number.text := by
  cases number with
  | integer kind value fits => exact Text.isSignedNumeral_ofInt value
  | single value =>
    have finiteSingle : value.isFinite = true := by
      cases value with
      | finite => rfl
      | nan => cases finite
      | infinite => cases finite
    exact Binary.isSignedNumeral_text .single finiteSingle
  | double value => exact Binary.isSignedNumeral_text .double finite
  | decimal value => exact value.isSignedNumeral_text

end RecordQuery
