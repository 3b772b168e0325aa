import RecordQuery.Number.Power
import RecordQuery.Text.Digits

/-!
# Decimal numbers

A decimal is a sign, a mantissa of at most 96 bits and a scale of at most 28 places. The
scale is part of the text of a decimal (`1.50` has scale two) but not of its value. Order and
equality go by value.
-/

namespace RecordQuery

/-- The decimal `± mantissa / 10 ^ scale`. -/
structure Decimal where
  negative : Bool
  mantissa : Nat
  scale : Nat
  mantissa_lt : mantissa < twoTo 96 := by decide
  scale_le : scale ≤ 28 := by decide
  deriving DecidableEq, Repr

namespace Decimal

/-- The decimal of the given parts, if they are small enough. -/
def make? (negative : Bool) (mantissa scale : Nat) : Option Decimal :=
  if fits : mantissa < twoTo 96 ∧ scale ≤ 28 then
    some ⟨negative, mantissa, scale, fits.1, fits.2⟩
  else none

/-- The decimal of the given parts, with no sign on a zero. -/
def unsignedZero? (negative : Bool) (mantissa scale : Nat) : Option Decimal :=
  make? (negative && mantissa != 0) mantissa scale

/-- An integer as a decimal, if it has at most 96 bits. -/
def ofInt? (value : Int) : Option Decimal :=
  make? (decide (value < 0)) value.natAbs 0

/-- The mantissa with its sign. -/
def signedMantissa (decimal : Decimal) : Int :=
  if decimal.negative then -decimal.mantissa else decimal.mantissa

/-- The order of two decimals by value, whatever their scales. -/
def compare (left right : Decimal) : Ordering :=
  Ord.compare (left.signedMantissa * tenTo right.scale) (right.signedMantissa * tenTo left.scale)

/-- The part before the point. -/
def wholePart (decimal : Decimal) : Nat :=
  decimal.mantissa / tenTo decimal.scale

/-- The digits after the point, as a number. -/
def fractionPart (decimal : Decimal) : Nat :=
  decimal.mantissa % tenTo decimal.scale

/-- The integer that remains when the digits after the point are dropped. -/
def truncated (decimal : Decimal) : Int :=
  if decimal.negative then -(decimal.wholePart : Int) else decimal.wholePart

/-- The text of a decimal: its digits, with as many places after the point as its scale. -/
def text (decimal : Decimal) : String :=
  let whole := Text.natDigits decimal.wholePart
  let digits :=
    if decimal.scale = 0 then whole
    else whole ++ '.' :: Text.padZeros decimal.scale (Text.natDigits decimal.fractionPart)
  String.ofList (if decimal.negative then '-' :: digits else digits)

/-- Parts that are small enough make the decimal with these parts. -/
theorem make_eq_some {negative : Bool} {mantissa scale : Nat} {decimal : Decimal}
    (made : make? negative mantissa scale = some decimal) :
    decimal.negative = negative ∧ decimal.mantissa = mantissa ∧ decimal.scale = scale := by
  unfold make? at made
  split at made
  · cases made
    exact ⟨rfl, rfl, rfl⟩
  · cases made

end Decimal

end RecordQuery
