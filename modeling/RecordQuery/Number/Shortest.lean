import RecordQuery.Number.Binary
import RecordQuery.Text.Digits

/-!
# Shortest decimal text of a binary number

A finite binary number stands for every real number that rounds to it. Its text has the
fewest digits of any decimal in that interval, and of those the nearest to the exact value,
a tie going up. The digits are written positionally, however large or small the number
is, and an integer has no point.
-/

namespace RecordQuery.Binary

/-- A positive decimal: `digits * 10 ^ exponent`. -/
structure DecimalPoint where
  digits : Nat
  exponent : Int
  deriving DecidableEq, Repr

/-- The factors that compare `n * 10 ^ decimalExponent` with `m * 2 ^ binaryExponent`:
    the first is less exactly when `n * first < m * second`. -/
def gridFactors (decimalExponent binaryExponent : Int) : Nat × Nat :=
  (tenTo decimalExponent.toNat * twoTo (-binaryExponent).toNat,
    twoTo binaryExponent.toNat * tenTo (-decimalExponent).toNat)

/-- The point of the grid of multiples of `10 ^ place` that lies in the rounding interval
    of `significand * 2 ^ exponent` nearest to it, if the grid has one. The interval is
    measured in quarters of the last bit: half a bit upwards, and downwards half a bit,
    or a quarter at a power of two; its ends belong to it when the significand is even. -/
def gridPoint? (format : Format) (significand : Nat) (exponent place : Int) : Option Nat :=
  let (unit, bit) := gridFactors place (exponent - 2)
  let value := 4 * significand * bit
  let narrow := significand = twoTo (format.precision - 1) ∧ format.least < exponent
  let low := (4 * significand - (if narrow then 1 else 2)) * bit
  let high := (4 * significand + 2) * bit
  let closed := significand % 2 = 0
  let below := value / unit
  let above := below + 1
  let belowFits := low < below * unit ∨ (closed ∧ below * unit = low)
  let aboveFits := above * unit < high ∨ (closed ∧ above * unit = high)
  if belowFits then
    if aboveFits ∧ unit ≤ 2 * (value - below * unit) then some above else some below
  else if aboveFits then some above
  else none

/-- The first grid with a point in the interval, from coarse to fine. -/
def searchGrids (format : Format) (significand : Nat) (exponent : Int) :
    Nat → Int → DecimalPoint
  | 0, place => ⟨4 * significand, place⟩
  | steps + 1, place =>
      match gridPoint? format significand exponent place with
      | some digits => ⟨digits, place⟩
      | none => searchGrids format significand exponent steps (place - 1)

/-- A power of ten that is no less than the number. -/
def coarsePlace (significand : Nat) (exponent : Int) : Int :=
  ((significand.log2 : Int) + 1 + exponent) * 30103 / 100000 + 2

/-- The shortest decimal of a positive finite number. Grids are tried from one above the
    number down; forty places below it every grid is finer than the interval. -/
def shortest (format : Format) (significand : Nat) (exponent : Int) : DecimalPoint :=
  searchGrids format significand exponent 40 (coarsePlace significand exponent)

/-- A decimal written positionally. -/
def DecimalPoint.positional (point : DecimalPoint) : List Char :=
  let digits := Text.natDigits point.digits
  match point.exponent with
  | .ofNat zeros => digits ++ List.replicate zeros '0'
  | .negSucc places =>
      let padded := Text.padZeros (places + 2) digits
      padded.take (padded.length - (places + 1)) ++ '.' :: padded.drop (padded.length - (places + 1))

/-- The text of a number. -/
def text (format : Format) : Binary → String
  | nan => "NaN"
  | infinite true => "-inf"
  | infinite false => "inf"
  | finite negative significand exponent =>
      let digits :=
        if significand = 0 then ['0'] else (shortest format significand exponent).positional
      String.ofList (if negative then '-' :: digits else digits)

end RecordQuery.Binary
