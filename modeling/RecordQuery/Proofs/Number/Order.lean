import RecordQuery.Number.Basic
import RecordQuery.Proofs.Query.Comparators
import Mathlib.Algebra.Order.Field.Rat
import Mathlib.Algebra.Order.Field.Basic
import Mathlib.Order.Compare
import Mathlib.Tactic.FieldSimp

/-!
# The order of numbers

Decimals compare as the rational numbers that they stand for, and so do binary numbers, the
infinities lying to both sides of them. The numbers of one kind are therefore in order, except
for those that are not numbers.
-/

namespace RecordQuery

/-- Integers compare as they do among rational numbers. -/
theorem compare_intCast (left right : Int) :
    compare left right = compare (left : ℚ) (right : ℚ) := by
  rw [← cmp_eq_compare, ← cmp_eq_compare]
  exact ((Int.cast_strictMono (R := ℚ)).cmp_map_eq left right).symm

/-- Numbers compare as their products with a positive one. -/
theorem compare_mul_right {factor : ℚ} (positive : 0 < factor) (left right : ℚ) :
    compare (left * factor) (right * factor) = compare left right := by
  rw [← cmp_eq_compare, ← cmp_eq_compare]
  exact cmp_mul_pos_right positive left right

namespace Decimal

/-- The rational number that a decimal stands for. -/
def toRat (decimal : Decimal) : ℚ :=
  decimal.signedMantissa / tenTo decimal.scale

/-- Decimals compare by value. Both are brought to a common scale, which is a multiplication by a
    positive number. -/
theorem compare_toRat (left right : Decimal) :
    left.compare right = Ord.compare left.toRat right.toRat := by
  have leftScale : (0 : ℚ) < tenTo left.scale := by exact_mod_cast tenTo_pos left.scale
  have rightScale : (0 : ℚ) < tenTo right.scale := by exact_mod_cast tenTo_pos right.scale
  have leftProduct : ((left.signedMantissa * tenTo right.scale : Int) : ℚ) =
      left.toRat * (tenTo left.scale * tenTo right.scale) := by
    rw [toRat]
    push_cast
    field_simp
  have rightProduct : ((right.signedMantissa * tenTo left.scale : Int) : ℚ) =
      right.toRat * (tenTo left.scale * tenTo right.scale) := by
    rw [toRat]
    push_cast
    field_simp
  rw [compare, compare_intCast, leftProduct, rightProduct,
    compare_mul_right (mul_pos leftScale rightScale)]

end Decimal

namespace Binary

/-- The side on which an infinity lies: before all finite numbers or behind them. -/
def side : Binary → Int
  | infinite true => -1
  | infinite false => 1
  | _ => 0

/-- The rational number that a finite binary number stands for. -/
def toRat : Binary → ℚ
  | finite negative significand exponent => signed negative significand * 2 ^ exponent
  | _ => 0

/-- A significand at an exponent, times a smaller power of two. The code does this with integers,
    and this says which rational number they stand for. -/
theorem scaled_toRat (significand exponent common : Int) (le : common ≤ exponent) :
    ((significand * twoTo (exponent - common).toNat : Int) : ℚ) =
      significand * 2 ^ exponent * 2 ^ (-common) := by
  have power : (twoTo (exponent - common).toNat : ℚ) = 2 ^ (exponent - common) := by
    obtain ⟨places, difference⟩ := Int.eq_ofNat_of_zero_le (Int.sub_nonneg.mpr le)
    rw [difference]
    simp [twoTo]
  push_cast
  rw [power, sub_eq_add_neg, zpow_add₀ two_ne_zero, mul_assoc]

/-- Finite binary numbers compare by value. -/
theorem compareFinite_toRat (left leftExponent right rightExponent : Int) :
    compareFinite left leftExponent right rightExponent =
      compare (left * 2 ^ leftExponent : ℚ) (right * 2 ^ rightExponent) := by
  have positive : (0 : ℚ) < 2 ^ (-min leftExponent rightExponent) := zpow_pos two_pos _
  rw [compareFinite, compare_intCast, scaled_toRat _ _ _ (min_le_left ..),
    scaled_toRat _ _ _ (min_le_right ..), compare_mul_right positive]

/-- Binary numbers compare by the side that they lie on, and then by value. Infinite numbers lie on
    the outer sides, where the value does not count. -/
theorem compare_eq_of_numbers {left right : Binary} (leftNumber : left.isNan = false)
    (rightNumber : right.isNan = false) : left.compare? right =
      some ((compare left.side right.side).then (compare left.toRat right.toRat)) := by
  cases left with
  | nan => cases leftNumber
  | infinite negative =>
    cases right with
    | nan => cases rightNumber
    | infinite other => cases negative <;> cases other <;> rfl
    | finite _ _ _ => cases negative <;> rfl
  | finite leftNegative leftSignificand leftExponent =>
    cases right with
    | nan => cases rightNumber
    | infinite other => cases other <;> rfl
    | finite rightNegative rightSignificand rightExponent =>
      rw [compare?, compareFinite_toRat]
      rfl

/-- Binary numbers are in order if all of them are numbers, and tie if none of them is. Numbers and
    undefined ones are not in order together, since the latter compare with nothing. -/
theorem ordersOn (undefined : Bool) :
    OrdersOn (fun left right : Binary => (left.compare? right).getD .eq)
      fun value => value.isNan = undefined := by
  cases undefined with
  | true =>
    refine .of_ties fun left right leftNan _ => ?_
    cases left with
    | nan => rfl
    | infinite _ => cases leftNan
    | finite _ _ _ => cases leftNan
  | false =>
    have sides : OrdersOn (fun left right : Binary => compare left.side right.side)
        fun value => value.isNan = false := .of_key side fun _ _ _ _ => rfl
    have values : OrdersOn (fun left right : Binary => compare left.toRat right.toRat)
        fun value => value.isNan = false := .of_key toRat fun _ _ _ _ => rfl
    refine (sides.thenBy values).congr fun left right leftNumber rightNumber => ?_
    rw [compare_eq_of_numbers leftNumber rightNumber]
    rfl

end Binary

namespace Number

/-- Numbers of a binary kind are in order as 64-bit numbers are. Numbers of 32 bits are compared
    after they were widened, which loses nothing. -/
theorem ordersOn_binary (wrap : Binary → Number) (undefined : Bool)
    (same : ∀ left right : Binary,
      (wrap left).compare? (wrap right) = (wrap left).toDouble.compare? (wrap right).toDouble) :
    OrdersOn (fun left right => ((wrap left).compare? (wrap right)).getD .eq)
      fun value => (wrap value).isNan = undefined := by
  have doubles := (Binary.ordersOn undefined).comap (fun value => (wrap value).toDouble)
    fun _ known => known
  exact doubles.congr fun left right _ _ => congrArg (Option.getD · .eq) (same left right)

/-- The numbers of one kind are in order, those apart that are not numbers. Across kinds this is
    false, as binary numbers round the others. -/
theorem ordersOn (kind : NumberKind) (undefined : Bool) :
    OrdersOn (fun left right : Number => (left.compare? right).getD .eq)
      fun number => number.kind = kind ∧ number.isNan = undefined := by
  cases kind with
  | integer kind =>
    refine .of_key (fun number => number.toInt?.getD 0) fun left right leftKnown rightKnown => ?_
    cases left <;> cases right <;> simp_all [Number.kind, compare?, toInt?]
  | decimal =>
    have decimals : OrdersOn (fun left right => ((decimal left).compare? (decimal right)).getD .eq)
        fun _ => True := .of_key Decimal.toRat fun left right _ _ => left.compare_toRat right
    refine .of_image decimals fun number known => ?_
    cases number <;> simp_all [Number.kind]
  | single =>
    refine .of_image (ordersOn_binary single undefined fun _ _ => rfl) fun number known => ?_
    cases number <;> simp_all [Number.kind]
  | double =>
    refine .of_image (ordersOn_binary double undefined fun _ _ => rfl) fun number known => ?_
    cases number <;> simp_all [Number.kind]

end Number

end RecordQuery
