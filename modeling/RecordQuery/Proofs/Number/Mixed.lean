import RecordQuery.Proofs.Number.Order
import RecordQuery.Proofs.Number.Rounded

/-!
# The order of numbers of different kinds

Integers and decimals compare as rational numbers, but as soon as one side is a binary number both
are rounded to 64 bits. Rounding may tie two numbers that differ, and because a decimal is rounded
in several steps it may even turn two numbers around. A binary number that lies between their
roundings then no longer fits into the order. Where no binary number does, all numbers are in order.
-/

namespace RecordQuery

namespace Number

/-- The rational number that an integer or a decimal stands for. -/
def toRat : Number → ℚ
  | integer _ value _ => value
  | decimal value => value.toRat
  | _ => 0

/-- An integer compares with a decimal as a rational number. The code scales the integer up instead
    of dividing, so it stays with integers. -/
theorem compareIntDecimal_toRat (left : Int) (right : Decimal) :
    compareIntDecimal left right = compare (left : ℚ) right.toRat := by
  have positive : (0 : ℚ) < tenTo right.scale := by exact_mod_cast tenTo_pos right.scale
  have product : (right.signedMantissa : ℚ) = right.toRat * tenTo right.scale := by
    rw [Decimal.toRat]
    field_simp
  rw [compareIntDecimal, compare_intCast, product]
  push_cast
  exact compare_mul_right positive _ _

/-- Integers and decimals compare as rational numbers. The cases are the pairs of kinds, since the
    code treats each of them in its own way. -/
theorem compare_of_exact {left right : Number} (leftExact : left.isBinary = false)
    (rightExact : right.isBinary = false) :
    left.compare? right = some (compare left.toRat right.toRat) := by
  cases left with
  | single _ => cases leftExact
  | double _ => cases leftExact
  | integer _ left _ =>
    cases right with
    | single _ => cases rightExact
    | double _ => cases rightExact
    | integer _ right _ => exact congrArg some (compare_intCast left right)
    | decimal right => exact congrArg some (compareIntDecimal_toRat left right)
  | decimal left =>
    cases right with
    | single _ => cases rightExact
    | double _ => cases rightExact
    | integer _ right _ =>
      rw [compare?, compareIntDecimal_toRat]
      exact congrArg some Std.OrientedOrd.eq_swap.symm
    | decimal right => exact congrArg some (left.compare_toRat right)

/-- A binary number compares with all others as numbers of 64 bits do. -/
theorem compare_of_binary {left right : Number}
    (binary : left.isBinary = true ∨ right.isBinary = true) :
    left.compare? right = left.toDouble.compare? right.toDouble := by
  cases left <;> cases right <;> first | rfl | simp [isBinary] at binary

/-- Only binary numbers may be undefined. Turning them into a number of 64 bits may round, but
    leaves a number. -/
theorem isNan_of_exact {number : Number} (exact : number.isBinary = false) :
    number.isNan = false := by
  cases number with
  | integer _ value _ => exact Binary.isNan_of_sign (Binary.sign_round ..)
  | decimal value => exact value.isNan_toDouble
  | single _ => cases exact
  | double _ => cases exact

/-- The order of two numbers, which tie if one of them is undefined. -/
def order (left right : Number) : Ordering :=
  (left.compare? right).getD .eq

/-- The order of two numbers rounded to 64 bits. -/
def roundedOrder (left right : Number) : Ordering :=
  (left.toDouble.compare? right.toDouble).getD .eq

/-- Rounding two numbers to 64 bits leaves their order as it is. -/
def RoundsInOrder (left right : Number) : Prop :=
  left.compare? right = left.toDouble.compare? right.toDouble

/-- A number is defined and not after another. -/
def AtMost (left right : Number) : Prop :=
  left.compare? right = some .lt ∨ left.compare? right = some .eq

/-- The numbers of a kind are undistorted when no binary one of them lies between two that rounding
    does not leave in their order. -/
def Undistorted (kind : Number → Prop) : Prop :=
  ∀ lower middle upper, kind lower → kind middle → kind upper → middle.isBinary = true →
    lower.AtMost middle → middle.AtMost upper → lower.RoundsInOrder upper

/-- Numbers of 64 bits compare exactly when both are numbers. -/
theorem isSome_compare_toDouble (left right : Number) :
    (left.toDouble.compare? right.toDouble).isSome = (!left.isNan && !right.isNan) := by
  unfold isNan
  cases left.toDouble <;> cases right.toDouble <;> rfl

/-- Two numbers compare unless one of them is undefined. The two ways to compare agree on this,
    though not on the outcome. -/
theorem isSome_compare (left right : Number) :
    (left.compare? right).isSome = (!left.isNan && !right.isNan) := by
  by_cases binary : left.isBinary = true ∨ right.isBinary = true
  · rw [compare_of_binary binary, isSome_compare_toDouble]
  · rw [not_or, Bool.not_eq_true, Bool.not_eq_true] at binary
    rw [compare_of_exact binary.1 binary.2, isNan_of_exact binary.1, isNan_of_exact binary.2]
    rfl

/-- Numbers that are defined stay in order exactly when they compare as their roundings do. Both
    comparisons have an outcome then, so nothing is lost by the default for ties. -/
theorem roundsInOrder_iff {left right : Number} (leftNumber : left.isNan = false)
    (rightNumber : right.isNan = false) :
    left.RoundsInOrder right ↔ left.order right = left.roundedOrder right := by
  have compares := isSome_compare left right
  have rounded := isSome_compare_toDouble left right
  rw [leftNumber, rightNumber] at compares rounded
  obtain ⟨_, outcome⟩ := Option.isSome_iff_exists.mp compares
  obtain ⟨_, other⟩ := Option.isSome_iff_exists.mp rounded
  simp [RoundsInOrder, order, roundedOrder, outcome, other]

/-- A number is not after another exactly when both are defined and their order says so. An
    undefined number ties with everything in their order, so this has to rule it out. -/
theorem atMost_iff {left right : Number} :
    left.AtMost right ↔ (left.isNan = false ∧ right.isNan = false) ∧ left.order right ≠ .gt := by
  have compares := isSome_compare left right
  cases outcome : left.compare? right with
  | none =>
    rw [outcome, Option.isSome_none, eq_comm, Bool.and_eq_false_iff] at compares
    simp only [AtMost, outcome, reduceCtorEq, or_self, false_iff, not_and]
    rintro ⟨leftNumber, rightNumber⟩
    simp [leftNumber, rightNumber] at compares
  | some ordering =>
    rw [outcome, Option.isSome_some, eq_comm, Bool.and_eq_true] at compares
    simp only [Bool.not_eq_true'] at compares
    cases ordering <;> simp [AtMost, order, outcome, compares]

/-- Numbers rounded to 64 bits are in order. -/
theorem ordersOn_rounded : OrdersOn roundedOrder fun number => number.isNan = false :=
  (Binary.ordersOn false).comap toDouble fun _ number => number

/-- Integers and decimals are in order. -/
theorem ordersOn_exact : OrdersOn order fun number => number.isBinary = false :=
  .of_key toRat fun left right leftExact rightExact => by
    rw [order, compare_of_exact leftExact rightExact, Option.getD_some]

/-- Turning two rounded numbers around turns their order around, undefined ones included. Undefined
    ones tie in both directions. -/
theorem roundedOrder_swap (left right : Number) :
    right.roundedOrder left = (left.roundedOrder right).swap := by
  by_cases defined : left.isNan = false ∧ right.isNan = false
  · exact ordersOn_rounded.swap defined.1 defined.2
  · have forth := isSome_compare_toDouble left right
    have back := isSome_compare_toDouble right left
    have undefined : (!left.isNan && !right.isNan) = false := by
      simpa [Classical.or_iff_not_imp_left] using defined
    rw [undefined, Option.isSome_eq_false_iff, Option.isNone_iff_eq_none] at forth
    rw [Bool.and_comm, undefined, Option.isSome_eq_false_iff, Option.isNone_iff_eq_none] at back
    simp [roundedOrder, forth, back]

/-- Beside a binary number, numbers are in the order of their roundings. -/
theorem order_of_binary {left right : Number}
    (binary : left.isBinary = true ∨ right.isBinary = true) :
    left.order right = left.roundedOrder right := by
  rw [order, roundedOrder, compare_of_binary binary]

/-- Turning two numbers around turns their order around, undefined ones included. -/
theorem order_swap (left right : Number) : right.order left = (left.order right).swap := by
  by_cases binary : left.isBinary = true ∨ right.isBinary = true
  · rw [order_of_binary binary, order_of_binary binary.symm, roundedOrder_swap]
  · rw [not_or, Bool.not_eq_true, Bool.not_eq_true] at binary
    exact ordersOn_exact.swap binary.1 binary.2

/-- Where numbers are in order, a binary one lies between two others only if rounding leaves these
    in their order. The binary one compares with both by their roundings, so it carries the order of
    the roundings over from one to the other. -/
theorem undistorted_of_ordersOn {kind : Number → Prop}
    (orders : OrdersOn order fun number => kind number ∧ number.isNan = false) :
    Undistorted kind := by
  intro lower middle upper lowerKind middleKind upperKind binary above below
  obtain ⟨⟨lowerNumber, middleNumber⟩, notAfter⟩ := atMost_iff.mp above
  obtain ⟨⟨-, upperNumber⟩, notBefore⟩ := atMost_iff.mp below
  rw [roundsInOrder_iff lowerNumber upperNumber]
  have lowerKnown := And.intro lowerKind lowerNumber
  have middleKnown := And.intro middleKind middleNumber
  have upperKnown := And.intro upperKind upperNumber
  have forth : lower.order middle = lower.roundedOrder middle := order_of_binary (.inr binary)
  have back : middle.order upper = middle.roundedOrder upper := order_of_binary (.inl binary)
  have exactly := orders.trans lowerKnown middleKnown upperKnown notAfter notBefore
  have ties := orders.tie_iff_of_between lowerKnown middleKnown upperKnown notAfter notBefore
  rw [forth, back] at ties
  rw [forth] at notAfter
  rw [back] at notBefore
  have rounded := ordersOn_rounded.trans lowerNumber middleNumber upperNumber notAfter notBefore
  rw [← ordersOn_rounded.tie_iff_of_between lowerNumber middleNumber upperNumber notAfter notBefore]
    at ties
  cases outcome : lower.order upper <;> cases other : lower.roundedOrder upper <;> simp_all

/-- Undistorted numbers are in order.

    Proof: by cases on which of three numbers in a row is binary. With none, rational numbers are
    compared. If the middle one is, the outer two keep their order when they are rounded. If an
    outer one is and the third came before the first, a binary number would lie between two others
    that rounding turns around. -/
theorem ordersOn_of_undistorted {kind : Number → Prop} (undistorted : Undistorted kind) :
    OrdersOn order fun number => kind number ∧ number.isNan = false := by
  refine ⟨fun _ _ => order_swap _ _, ?_⟩
  rintro a b c ⟨first, firstNumber⟩ ⟨second, secondNumber⟩ ⟨third, thirdNumber⟩ forth back
  have firstSecond := atMost_iff.mpr ⟨⟨firstNumber, secondNumber⟩, forth⟩
  have secondThird := atMost_iff.mpr ⟨⟨secondNumber, thirdNumber⟩, back⟩
  by_cases secondBinary : b.isBinary = true
  · have kept := undistorted a b c first second third secondBinary firstSecond secondThird
    rw [(roundsInOrder_iff firstNumber thirdNumber).mp kept]
    rw [order_of_binary (.inr secondBinary)] at forth
    rw [order_of_binary (.inl secondBinary)] at back
    exact ordersOn_rounded.trans firstNumber secondNumber thirdNumber forth back
  by_cases firstBinary : a.isBinary = true
  · -- A third number before the first would lie before the second, whatever the rounding.
    intro after
    have before : c.order a = .lt := by rw [order_swap, after]; rfl
    have thirdFirst := atMost_iff.mpr ⟨⟨thirdNumber, firstNumber⟩, by simp [before]⟩
    have kept := undistorted c a b third first second firstBinary thirdFirst firstSecond
    rw [roundsInOrder_iff thirdNumber secondNumber] at kept
    rw [order_of_binary (.inr firstBinary)] at before
    rw [order_of_binary (.inl firstBinary)] at forth
    rw [ordersOn_rounded.lt_of_lt_of_not_gt thirdNumber firstNumber secondNumber before forth]
      at kept
    rw [order_swap, kept] at back
    exact back rfl
  by_cases thirdBinary : c.isBinary = true
  · intro after
    have before : c.order a = .lt := by rw [order_swap, after]; rfl
    have thirdFirst := atMost_iff.mpr ⟨⟨thirdNumber, firstNumber⟩, by simp [before]⟩
    have kept := undistorted b c a second third first thirdBinary secondThird thirdFirst
    rw [roundsInOrder_iff secondNumber firstNumber] at kept
    rw [order_of_binary (.inl thirdBinary)] at before
    rw [order_of_binary (.inr thirdBinary)] at back
    rw [ordersOn_rounded.lt_of_not_gt_of_lt secondNumber thirdNumber firstNumber back before]
      at kept
    rw [order_swap, kept] at forth
    exact forth rfl
  · rw [Bool.not_eq_true] at firstBinary secondBinary thirdBinary
    exact ordersOn_exact.trans firstBinary secondBinary thirdBinary forth back

end Number

end RecordQuery
