import RecordQuery.Proofs.Number.Exact
import RecordQuery.Proofs.Number.Order
import Mathlib.Algebra.Order.Field.Power
import Mathlib.Tactic.Ring

/-!
# Numbers that stay finite

A power of two is itself a number of 64 bits, so a fraction of at most this power rounds to a number
of at most this power, unless the power is beyond the format. Integers and decimals are far from
there, and so are all numbers on the way from a decimal to its 64 bits. They stand for finite
numbers: only binary numbers can be infinite or undefined.
-/

namespace RecordQuery

namespace Binary

/-- Whether a number is finite and, apart from its sign, at most a bound. -/
def Within (bound : ℚ) : Binary → Prop
  | finite _ significand exponent => (significand : ℚ) * 2 ^ exponent ≤ bound
  | _ => False

variable {value : Binary} {numerator denominator places : Nat}

/-- A number within a bound is finite. -/
theorem Within.isFinite {bound : ℚ} (within : value.Within bound) : value.isFinite = true := by
  cases value with
  | finite _ _ _ => rfl
  | _ => exact within.elim

/-- A shifted fraction is the fraction times the power of two. A negative exponent multiplies the
    denominator, so both stay natural numbers. -/
theorem shifted_ratio (numerator denominator : Nat) (exponent : Int) :
    ((shifted numerator denominator exponent).1 : ℚ) /
        (shifted numerator denominator exponent).2 =
      numerator / denominator * 2 ^ exponent := by
  cases exponent with
  | ofNat places =>
    simp only [shifted, twoTo, Nat.pow_eq, Nat.cast_mul, Nat.cast_pow, Nat.cast_ofNat,
      Int.ofNat_eq_natCast, zpow_natCast]
    exact mul_div_right_comm _ _ _
  | negSucc places =>
    simp only [shifted, twoTo, Nat.pow_eq, Nat.cast_mul, Nat.cast_pow, Nat.cast_ofNat,
      zpow_negSucc]
    exact (div_div _ _ _).symm.trans (div_eq_mul_inv _ _)

/-- Shifting keeps denominators positive. -/
theorem shifted_pos (positive : 0 < denominator) (numerator : Nat) (exponent : Int) :
    0 < (shifted numerator denominator exponent).2 := by
  cases exponent with
  | ofNat places => exact positive
  | negSucc places => exact Nat.mul_pos positive (twoTo_pos _)

/-- A shifted fraction is at most a natural number if the fraction times the power is. The code
    compares natural numbers, where proofs speak of rational ones. -/
theorem shifted_le (positive : 0 < denominator) {exponent : Int} {bound : Nat}
    (le : (numerator / denominator * 2 ^ exponent : ℚ) ≤ bound) :
    (shifted numerator denominator exponent).1 ≤
      (shifted numerator denominator exponent).2 * bound := by
  have bottom : (0 : ℚ) < (shifted numerator denominator exponent).2 := by
    exact_mod_cast shifted_pos positive numerator exponent
  rw [← shifted_ratio, div_le_iff₀' bottom] at le
  exact_mod_cast le

/-- The integer nearest to a fraction is at most any natural number that the fraction is at most.
    The bound is a natural number itself, so rounding up does not get past it. -/
theorem nearest_le {bound : Nat} (positive : 0 < denominator)
    (le : numerator ≤ denominator * bound) : nearest numerator denominator ≤ bound := by
  have whole := Nat.div_add_mod numerator denominator
  have quotientLe : numerator / denominator ≤ bound :=
    Nat.div_le_of_le_mul le
  unfold nearest
  dsimp only
  split
  · rename_i up
    -- A fraction that is rounded up is no natural number, so its whole part is below the bound.
    refine Nat.lt_of_le_of_ne quotientLe fun same => ?_
    rw [same] at whole
    omega
  · exact quotientLe

/-- A fraction of at most a power of two fills its significand at an exponent below this power. A
    fraction that is small takes the least exponent of the format. -/
theorem fillingExponent_le (format : Format) (nonzero : numerator ≠ 0)
    (le : numerator ≤ denominator * twoTo places) :
    fillingExponent format numerator denominator ≤
      max format.least ((places : Int) - format.precision + 1) := by
  have bits : numerator.log2 < denominator.log2 + 1 + places := by
    rw [Nat.log2_lt nonzero, pow_add]
    exact lt_of_le_of_lt le (Nat.mul_lt_mul_of_pos_right Nat.lt_log2_self (twoTo_pos places))
  unfold fillingExponent
  dsimp only
  split <;> omega

/-- A fraction of at most a power of two that the format has rounds to a number of at most this
    power.

    Proof: the significand at the filling exponent is at most the power divided by that of the
    exponent, and rounding it to an integer does not pass this bound, as it is an integer itself. So
    no overflow happens at the upper end. -/
theorem within_round (small : places ≤ 1022) (positive : 0 < denominator)
    (le : (numerator / denominator : ℚ) ≤ 2 ^ places) (negative : Bool) :
    (round .double negative numerator denominator).Within (2 ^ places) := by
  by_cases zero : numerator = 0
  · simp [round, zero, Within]
  have leProduct : numerator ≤ denominator * twoTo places := by
    rw [div_le_iff₀' (by exact_mod_cast positive)] at le
    exact_mod_cast le
  have filled := fillingExponent_le .double zero leProduct
  rw [round, if_neg zero]
  generalize fillingExponent .double numerator denominator = exponent at filled ⊢
  have least : Format.double.least = -1074 := rfl
  have precision : Format.double.precision = 53 := rfl
  have greatest : Format.double.greatest = 971 := rfl
  rw [least, precision] at filled
  obtain ⟨rest, isRest⟩ : ∃ rest : Nat, (places : Int) = exponent + rest :=
    ⟨(places - exponent).toNat, by omega⟩
  have power : (2 : ℚ) ^ places = 2 ^ rest * 2 ^ exponent := by
    rw [← zpow_natCast, ← zpow_natCast, ← zpow_add₀ two_ne_zero, isRest, add_comm]
  have inverse : (2 : ℚ) ^ exponent * 2 ^ (-exponent) = 1 := by
    rw [← zpow_add₀ two_ne_zero, add_neg_cancel, zpow_zero]
  have shiftedLe : (numerator / denominator * 2 ^ (-exponent) : ℚ) ≤ (2 ^ rest : Nat) :=
    calc (numerator / denominator * 2 ^ (-exponent) : ℚ)
        ≤ 2 ^ places * 2 ^ (-exponent) := by gcongr
      _ = ((2 ^ rest : Nat) : ℚ) := by
        rw [power, mul_assoc, inverse, mul_one]
        norm_cast
  have significandLe := nearest_le (shifted_pos positive _ _) (shifted_le positive shiftedLe)
  dsimp only
  generalize nearest _ _ = significand at significandLe ⊢
  have scaled : (significand : ℚ) * 2 ^ exponent ≤ 2 ^ places := by
    rw [power]
    gcongr
    exact_mod_cast significandLe
  split
  · -- A significand that has become a power of two gives its last bit to the exponent.
    rename_i full
    rw [if_neg (by omega)]
    have carried : ((twoTo 52 : Nat) : ℚ) * 2 ^ (exponent + 1) = significand * 2 ^ exponent := by
      rw [full, precision, zpow_add₀ two_ne_zero]
      norm_num [twoTo]
      ring
    exact carried.trans_le scaled
  · rw [if_neg (by omega)]
    exact scaled

/-- A significand at an exponent is not negative. -/
theorem scaled_nonneg (significand : Nat) (exponent : Int) :
    (0 : ℚ) ≤ significand * 2 ^ exponent :=
  mul_nonneg significand.cast_nonneg (zpow_nonneg zero_le_two exponent)

/-- A shifted fraction rounds to a number within the bound of the shifted value. -/
theorem within_round_shifted (small : places ≤ 1022) (positive : 0 < denominator) {exponent : Int}
    (le : (numerator / denominator * 2 ^ exponent : ℚ) ≤ 2 ^ places) (negative : Bool) :
    (round .double negative (shifted numerator denominator exponent).1
      (shifted numerator denominator exponent).2).Within (2 ^ places) :=
  within_round small (shifted_pos positive _ _) ((shifted_ratio ..).trans_le le) negative

/-- A significand at an exponent rounds to a number within its bound. A negative exponent makes it a
    fraction, and any other an integer. -/
theorem within_round_magnitude (small : places ≤ 1022) {significand : Nat} {exponent : Int}
    (le : (significand * 2 ^ exponent : ℚ) ≤ 2 ^ places) (negative : Bool) :
    (round .double negative (magnitude significand exponent).1
      (magnitude significand exponent).2).Within (2 ^ places) := by
  refine within_round_shifted small Nat.one_pos ?_ negative
  rw [Nat.cast_one, div_one]
  exact le

/-- An integer within a power of two stays within it. -/
theorem within_ofInt (small : places ≤ 1022) {integer : Int}
    (le : integer.natAbs ≤ twoTo places) : (ofInt .double integer).Within (2 ^ places) := by
  refine within_round small Nat.one_pos ?_ _
  rw [Nat.cast_one, div_one]
  exact_mod_cast le

/-- A quotient by a number of at least one stays within the bound of the dividend. Rounding keeps it
    there, as the bound is a number of the format. -/
theorem within_div (small : places ≤ 1022) (within : value.Within (2 ^ places))
    {significand : Nat} {exponent : Int} (large : (1 : ℚ) ≤ significand * 2 ^ exponent)
    (other : Bool) :
    (div .double value (finite other significand exponent)).Within (2 ^ places) := by
  have nonzero : significand ≠ 0 := by
    rintro rfl
    rw [Nat.cast_zero, zero_mul] at large
    exact absurd large (not_le.mpr one_pos)
  cases value with
  | finite negative dividend dividendExponent =>
    rw [div, if_neg nonzero]
    refine within_round_shifted small (Nat.pos_of_ne_zero nonzero) ?_ _
    have split : (dividend / significand * 2 ^ (dividendExponent - exponent) : ℚ) =
        dividend * 2 ^ dividendExponent / (significand * 2 ^ exponent) := by
      rw [zpow_sub₀ two_ne_zero]
      exact div_mul_div_comm _ _ _ _
    rw [split]
    exact (div_le_self (scaled_nonneg ..) large).trans within
  | _ => exact within.elim

/-- A sum of two numbers within a power of two is within twice this power. The sum is formed without
    rounding at the lesser of both exponents, and then rounded once. -/
theorem within_add (small : places < 1022) {left right : Binary}
    (leftWithin : left.Within (2 ^ places)) (rightWithin : right.Within (2 ^ places)) :
    (add .double left right).Within (2 ^ (places + 1)) := by
  cases left with
  | finite leftNegative leftSignificand leftExponent =>
    cases right with
    | finite rightNegative rightSignificand rightExponent =>
      refine within_round_magnitude small ?_ _
      generalize isCommon : min leftExponent rightExponent = common
      rw [Nat.cast_natAbs, Int.cast_abs, Int.cast_add,
        scaled_toRat _ _ _ (isCommon ▸ min_le_left ..),
        scaled_toRat _ _ _ (isCommon ▸ min_le_right ..), ← add_mul]
      have size (negative : Bool) (significand : Nat) (exponent : Int) :
          |(signed negative significand * 2 ^ exponent : ℚ)| = significand * 2 ^ exponent := by
        have power : (0 : ℚ) < 2 ^ exponent := zpow_pos two_pos exponent
        rw [abs_mul, abs_of_pos power]
        cases negative <;> simp [signed]
      have inverse : (2 : ℚ) ^ (-common) * 2 ^ common = 1 := by
        rw [← zpow_add₀ two_ne_zero, neg_add_cancel, zpow_zero]
      have power : (0 : ℚ) < 2 ^ (-common) := zpow_pos two_pos (-common)
      rw [abs_mul, abs_of_pos power, mul_assoc, inverse, mul_one]
      calc |(signed leftNegative leftSignificand * 2 ^ leftExponent +
            signed rightNegative rightSignificand * 2 ^ rightExponent : ℚ)|
          ≤ leftSignificand * 2 ^ leftExponent + rightSignificand * 2 ^ rightExponent := by
            refine (abs_add_le _ _).trans_eq ?_
            rw [size, size]
        _ ≤ 2 ^ places + 2 ^ places := add_le_add leftWithin rightWithin
        _ = 2 ^ (places + 1) := by ring
    | _ => exact rightWithin.elim
  | _ => exact leftWithin.elim

/-- A product of numbers within powers of two is within the product of these powers. Significands
    multiply and exponents add up, and only then it is rounded. -/
theorem within_mul {more : Nat} (small : places + more ≤ 1022) {left right : Binary}
    (leftWithin : left.Within (2 ^ places)) (rightWithin : right.Within (2 ^ more)) :
    (mul .double left right).Within (2 ^ (places + more)) := by
  cases left with
  | finite leftNegative leftSignificand leftExponent =>
    cases right with
    | finite rightNegative rightSignificand rightExponent =>
      refine within_round_magnitude small ?_ _
      rw [zpow_add₀ two_ne_zero, Nat.cast_mul, mul_mul_mul_comm, pow_add]
      exact mul_le_mul leftWithin rightWithin (scaled_nonneg ..) (pow_nonneg zero_le_two _)
    | _ => exact rightWithin.elim
  | _ => exact leftWithin.elim

/-- Rounding to an integer stays within a power of two. A half is rounded away from zero, so the
    bound has to be an integer. -/
theorem within_roundAway (small : places ≤ 1022) (within : value.Within (2 ^ places)) :
    (roundAway .double value).Within (2 ^ places) := by
  cases value with
  | finite negative significand exponent =>
    have positive := shifted_pos Nat.one_pos significand exponent
    have le : (magnitude significand exponent).1 ≤
        (magnitude significand exponent).2 * 2 ^ places := by
      refine shifted_le Nat.one_pos ?_
      rw [Nat.cast_one, div_one]
      exact_mod_cast within
    refine within_round small Nat.one_pos ?_ _
    rw [Nat.cast_one, div_one]
    have rounded : (2 * (magnitude significand exponent).1 + (magnitude significand exponent).2) /
        (2 * (magnitude significand exponent).2) ≤ 2 ^ places := by
      refine Nat.le_of_lt_succ (Nat.div_lt_of_lt_mul ?_)
      rw [Nat.mul_succ, mul_assoc]
      change 0 < (magnitude significand exponent).2 at positive
      omega
    exact_mod_cast rounded
  | _ => exact within.elim

/-- Whether a number is finite and, apart from its sign, at least one. -/
def reachesOne : Binary → Bool
  | finite _ significand exponent => decide (twoTo (-exponent).toNat ≤ significand)
  | _ => false

/-- A number that reaches one is a significand at an exponent, and at least one. Such a number can
    be divided by without leaving any bound. -/
theorem exists_of_reachesOne (reaches : value.reachesOne = true) :
    ∃ negative significand exponent, (1 : ℚ) ≤ (significand : Nat) * 2 ^ exponent ∧
      value = .finite negative significand exponent := by
  cases value with
  | finite negative significand exponent =>
    have large : (2 : ℚ) ^ (-exponent) ≤ significand :=
      calc (2 : ℚ) ^ (-exponent) ≤ 2 ^ ((-exponent).toNat : ℤ) :=
            zpow_le_zpow_right₀ one_le_two (Int.self_le_toNat _)
        _ ≤ significand := by exact_mod_cast of_decide_eq_true reaches
    refine ⟨negative, significand, exponent, ?_, rfl⟩
    calc (1 : ℚ) = 2 ^ (-exponent) * 2 ^ exponent := by
          rw [← zpow_add₀ two_ne_zero, neg_add_cancel, zpow_zero]
      _ ≤ significand * 2 ^ exponent := by gcongr
  | _ => cases reaches

end Binary

namespace Decimal

/-- A natural number within a power of two stays within it. -/
theorem within_doubleOfNat {value places : Nat} (small : places ≤ 1022)
    (le : value ≤ twoTo places) : (doubleOfNat value).Within (2 ^ places) :=
  Binary.within_ofInt small (by rwa [Int.natAbs_natCast])

/-- The units of decimals are finite and at least one. -/
theorem one_le_unit {scale : Nat} (le : scale ≤ 28) :
    ∃ negative significand exponent, (1 : ℚ) ≤ (significand : Nat) * 2 ^ exponent ∧
      doubleOfNat (tenTo scale) = .finite negative significand exponent := by
  have checked : ∀ scale < 29, (doubleOfNat (tenTo scale)).reachesOne = true := by decide
  exact Binary.exists_of_reachesOne (checked scale (by omega))

/-- The number of 64 bits that a decimal stands for is finite.

    Proof: a decimal has less than 97 bits, so its whole part and its fraction are far below the
    greatest number of the format. Quotient, sum, product and rounding keep to the bounds of the
    lemmas above. -/
theorem isFinite_toDouble (decimal : Decimal) : decimal.toDouble.isFinite = true := by
  have mantissa := decimal.mantissa_lt.le
  unfold toDouble
  split
  · refine (Binary.within_ofInt (by decide : 96 ≤ 1022) ?_).isFinite
    rw [signedMantissa]
    split
    · rwa [Int.natAbs_neg, Int.natAbs_natCast]
    · rwa [Int.natAbs_natCast]
  · obtain ⟨negative, significand, exponent, large, unitValue⟩ := one_le_unit decimal.scale_le
    have unitBound : tenTo decimal.scale ≤ twoTo 94 :=
      (Nat.pow_le_pow_right (by decide) decimal.scale_le).trans (by decide)
    have unit := within_doubleOfNat (by decide : 94 ≤ 1022) unitBound
    have wholeBound : decimal.wholePart ≤ twoTo 96 := (Nat.div_le_self _ _).trans mantissa
    have fractionBound : decimal.fractionPart ≤ twoTo 94 :=
      (Nat.mod_lt _ (tenTo_pos _)).le.trans unitBound
    have whole := within_doubleOfNat (by decide : 96 ≤ 1022) wholeBound
    have fraction :=
      within_doubleOfNat (by decide : 96 ≤ 1022) (fractionBound.trans (by decide))
    rw [unitValue] at unit ⊢
    have quotient := Binary.within_div (by decide) fraction large negative
    have sum := Binary.within_add (by decide) whole quotient
    have product := Binary.within_mul (by decide) sum unit
    have rounded := Binary.within_div (by decide) (Binary.within_roundAway (by decide) product)
      large negative
    have signs (magnitude : Binary) (finite : magnitude.isFinite = true) :
        (if decimal.negative then magnitude.negate else magnitude).isFinite = true := by
      cases magnitude with
      | finite _ _ _ => split <;> rfl
      | _ => cases finite
    apply signs
    split
    · exact whole.isFinite
    · exact rounded.isFinite

end Decimal

namespace Number

/-- Integers and decimals are finite: only binary numbers can be infinite or undefined. So only
    binary numbers can be without a literal. -/
theorem isFinite_of_exact {number : Number} (exact : number.isBinary = false) :
    number.isFinite = true := by
  cases number with
  | integer kind value fits =>
    exact (Binary.within_ofInt (by decide) (IntegerKind.natAbs_lt fits).le).isFinite
  | decimal value => exact value.isFinite_toDouble
  | single _ | double _ => cases exact

end Number

end RecordQuery
