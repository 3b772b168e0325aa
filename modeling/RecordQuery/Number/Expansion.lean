import RecordQuery.Number.Binary
import RecordQuery.Number.Decimal

/-!
# Between binary and decimal numbers

A binary number becomes a decimal by expanding its power of two inside 96 bits and then
dropping the digits that the binary format does not guarantee. A decimal becomes a binary
number from its whole part and its fraction, each rounded, with the sum rounded again at the
decimal's own scale.
-/

namespace RecordQuery.Decimal

/-- A mantissa halved so many times, as a mantissa and a scale. An even mantissa loses a factor
    of two; an odd one gains a factor of five and a place, or loses its last bit when it has no
    room for that. -/
def expand : Nat → Nat → Nat × Nat
  | 0, mantissa => (mantissa, 0)
  | halves + 1, mantissa =>
      if mantissa % 2 = 1 ∧ mantissa * 5 < twoTo 96 then
        let (mantissa, scale) := expand halves (mantissa * 5)
        (mantissa, scale + 1)
      else expand halves (mantissa / 2)

/-- Drops the last digit, a half rounding up. -/
def dropDigit (mantissa : Nat) : Nat :=
  (mantissa + 5) / 10

/-- Drops places beyond the 28th. A mantissa that vanishes leaves a zero without places. -/
def limitScale : Nat → Nat → Nat × Nat
  | mantissa, 0 => (mantissa, 0)
  | mantissa, scale + 1 =>
      if scale + 1 ≤ 28 then (mantissa, scale + 1)
      else if mantissa / 10 = 0 then (0, 0)
      else limitScale (dropDigit mantissa) scale

/-- Drops places while the mantissa has more bits than the binary format guarantees. -/
def limitBits (bits : Nat) : Nat → Nat → Nat × Nat
  | mantissa, 0 => (mantissa, 0)
  | mantissa, scale + 1 =>
      if mantissa < twoTo bits then (mantissa, scale + 1)
      else limitBits bits (dropDigit mantissa) scale

/-- Drops zeros at the end of the fraction. -/
def dropZeros : Nat → Nat → Nat × Nat
  | mantissa, 0 => (mantissa, 0)
  | mantissa, scale + 1 =>
      if mantissa % 10 = 0 then dropZeros (mantissa / 10) scale else (mantissa, scale + 1)

/-- A significand halved so many times, reduced to at most 28 places and to the guaranteed
    bits. -/
def ofHalves? (bits : Nat) (negative : Bool) (significand halves : Nat) : Option Decimal :=
  let (mantissa, scale) := expand halves significand
  let (mantissa, scale) := limitScale mantissa scale
  let (mantissa, scale) := limitBits bits mantissa scale
  let (mantissa, scale) := dropZeros mantissa scale
  make? negative mantissa scale

/-- A binary number as a decimal of so many guaranteed bits. Numbers that are not finite or
    need more than 96 bits have none. -/
def ofBinary? (bits : Nat) : Binary → Option Decimal
  | .finite negative significand (.ofNat doubles) =>
      make? negative (significand * twoTo doubles) 0
  | .finite negative significand (.negSucc halves) =>
      ofHalves? bits negative significand (halves + 1)
  | _ => none

/-- A number of 32 bits as a decimal of 24 bits. -/
def ofSingle? : Binary → Option Decimal := ofBinary? 24

/-- A number of 64 bits as a decimal of 52 bits. -/
def ofDouble? : Binary → Option Decimal := ofBinary? 52

/-- The nearest number of 64 bits to a natural number. -/
def doubleOfNat (value : Nat) : Binary :=
  .ofInt .double value

/-- A decimal as a number of 64 bits. -/
def toDouble (decimal : Decimal) : Binary :=
  if decimal.scale = 0 then .ofInt .double decimal.signedMantissa
  else
    let whole := doubleOfNat decimal.wholePart
    let unit := doubleOfNat (tenTo decimal.scale)
    let fraction := Binary.div .double (doubleOfNat decimal.fractionPart) unit
    let magnitude :=
      if fraction.isZero then whole
      else
        let sum := Binary.add .double whole fraction
        Binary.div .double (Binary.roundAway .double (Binary.mul .double sum unit)) unit
    if decimal.negative then magnitude.negate else magnitude

end RecordQuery.Decimal
