import RecordQuery.Proofs.Number.DecimalText
import RecordQuery.Proofs.Number.Exact
import Mathlib.Data.Rat.Floor
import Mathlib.Tactic.Linarith
import Mathlib.Tactic.Positivity

/-!
# Decimals narrowed to integers

The digits before the point of a decimal are its rational number cut off towards zero. An integer
kind takes a decimal exactly if it holds this integer, except that an unsigned kind looks at the
sign as well: it refuses a decimal with a minus sign even if nothing is left of it but zero.
-/

namespace RecordQuery

/-- What is left of a number that is cut off towards zero. -/
def towardZero (value : ℚ) : Int :=
  if value < 0 then ⌈value⌉ else ⌊value⌋

/-- Numbers are cut off alike on both sides of zero. -/
theorem towardZero_neg (value : ℚ) : towardZero (-value) = -towardZero value := by
  unfold towardZero
  rcases lt_trichotomy value 0 with below | rfl | above
  · rw [if_neg (by linarith), if_pos below, Int.floor_neg]
  · simp
  · rw [if_pos (by linarith), if_neg (by linarith), Int.ceil_neg]

/-- A fraction that is not negative is cut off by division. -/
theorem towardZero_div (numerator denominator : ℕ) :
    towardZero (numerator / denominator) = (numerator / denominator : ℕ) := by
  have positive : (0 : ℚ) ≤ numerator / denominator := by positivity
  rw [towardZero, if_neg (not_lt.mpr positive), Rat.floor_natCast_div_natCast, Int.natCast_ediv]

namespace Decimal

variable {decimal : Decimal}

/-- A decimal without a minus sign is a fraction of natural numbers. -/
theorem toRat_of_positive (positive : decimal.negative = false) :
    decimal.toRat = decimal.mantissa / (tenTo decimal.scale : ℕ) := by
  rw [toRat, signedMantissa, positive, if_neg Bool.false_ne_true, Int.cast_natCast]

/-- A decimal with a minus sign is the opposite of such a fraction. -/
theorem toRat_of_negative (negative : decimal.negative = true) :
    decimal.toRat = -(decimal.mantissa / (tenTo decimal.scale : ℕ)) := by
  rw [toRat, signedMantissa, negative, if_pos rfl, Int.cast_neg, Int.cast_natCast, neg_div]

/-- Without the digits behind its point a decimal is cut off towards zero. The sign is kept apart
    from the digits, so cutting off the digits goes towards zero for both signs. -/
theorem truncated_eq (decimal : Decimal) : decimal.truncated = towardZero decimal.toRat := by
  cases negative : decimal.negative with
  | false =>
    rw [truncated, negative, if_neg Bool.false_ne_true, toRat_of_positive negative, towardZero_div]
    rfl
  | true =>
    rw [truncated, negative, if_pos rfl, toRat_of_negative negative, towardZero_neg, towardZero_div]
    rfl

/-- A decimal is zero exactly if its digits are. -/
theorem toRat_eq_zero (decimal : Decimal) : decimal.toRat = 0 ↔ decimal.mantissa = 0 := by
  have power : ((tenTo decimal.scale : ℕ) : ℚ) ≠ 0 := by exact_mod_cast (tenTo_pos _).ne'
  cases negative : decimal.negative with
  | false => simp [toRat_of_positive negative, power]
  | true => simp [toRat_of_negative negative, power]

/-- A zero without its sign is the same number. -/
theorem toRat_unsignedZero (decimal : Decimal) : decimal.unsignedZero.toRat = decimal.toRat := by
  by_cases zero : decimal.mantissa = 0
  · rw [decimal.toRat_eq_zero.mpr zero]
    exact decimal.unsignedZero.toRat_eq_zero.mpr zero
  · rw [unsignedZero_eq_self fun _ => zero]

/-- Where no zero has a sign, the decimals with a minus sign are those below zero. With signed zeros
    only one direction would hold. -/
theorem negative_unsignedZero (decimal : Decimal) :
    decimal.unsignedZero.negative = true ↔ decimal.toRat < 0 := by
  have kept : decimal.unsignedZero.negative = true ↔
      decimal.negative = true ∧ decimal.mantissa ≠ 0 := by simp [unsignedZero]
  have power : (0 : ℚ) < (tenTo decimal.scale : ℕ) := by exact_mod_cast tenTo_pos decimal.scale
  rw [kept]
  cases negative : decimal.negative with
  | false =>
    have positive : (0 : ℚ) ≤ decimal.mantissa / (tenTo decimal.scale : ℕ) := by positivity
    rw [toRat_of_positive negative]
    simp [not_lt.mpr positive]
  | true =>
    rw [toRat_of_negative negative, neg_lt_zero, div_pos_iff_of_pos_right power, Nat.cast_pos,
      Nat.pos_iff_ne_zero, and_iff_right rfl]

end Decimal

namespace Number

/-- An integer is of a kind exactly if the kind holds it. The number carries the proof that it fits,
    so there is no other way to make one. -/
theorem ofInt_eq_some {kind : IntegerKind} {value : Int} {number : Number} :
    ofInt? kind value = some number ↔ ∃ fits, number = .integer kind value fits := by
  unfold ofInt?
  split
  · rename_i fits
    constructor
    · intro made
      exact ⟨fits, (Option.some.inj made).symm⟩
    · rintro ⟨_, rfl⟩
      rfl
  · rename_i outside
    constructor
    · intro made
      cases made
    · rintro ⟨fits, -⟩
      exact absurd fits outside

/-- An integer kind takes the integer that a decimal is cut off to if it holds it, and an unsigned
    one if the decimal has no minus sign besides. The two conditions are independent: minus a half
    is refused for its sign, though what is left of it fits. -/
theorem ofDecimal_integer_eq_some {kind : IntegerKind} {value : Decimal} {result : Number} :
    ofDecimal? value (.integer kind) = some result ↔
      (kind.signed = true ∨ value.negative = false) ∧
        ∃ fits, result = .integer kind (towardZero value.toRat) fits := by
  rw [ofDecimal?, value.truncated_eq]
  split
  · rename_i taken
    have admitted : kind.signed = true ∨ value.negative = false := by simpa using taken
    rw [ofInt_eq_some, and_iff_right admitted]
  · rename_i refused
    have excluded : ¬(kind.signed = true ∨ value.negative = false) := by simpa using refused
    constructor
    · intro made
      cases made
    · rintro ⟨admitted, -⟩
      exact absurd admitted excluded

end Number

end RecordQuery
