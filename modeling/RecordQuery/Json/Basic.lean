import RecordQuery.Number.Binary
import RecordQuery.Text.Digits

/-!
# JSON values

A JSON text is kept as written: a number as its digits, and a string with or without a
content, since an escape may name half of a surrogate pair. A reader that does not use a
member never asks whether its strings and numbers mean something.
-/

namespace RecordQuery

/-- A number as it is written. -/
structure Json.Numeral where
  negative : Bool
  whole : List Char
  fraction : List Char
  /-- The exponent, zero when none is written. -/
  exponent : Int
  /-- Whether there is neither a point nor an exponent. -/
  integral : Bool
  deriving DecidableEq, Repr

/-- A JSON value. A string without content has a lone surrogate. -/
inductive Json where
  | null
  | bool (value : Bool)
  | number (numeral : Json.Numeral)
  | string (content : Option String)
  | array (items : List Json)
  | object (members : List (Option String × Json))

namespace Json

/-- What a number in a JSON text denotes. -/
inductive Quantity where
  | integer (value : Int)
  | binary (value : Binary)
  deriving DecidableEq, Repr

namespace Numeral

/-- Digits gathered into a significand of at most 64 bits and a power of ten. -/
structure Gathered where
  significand : Nat
  exponent : Int
  /-- A digit has been left out, so that no further one is taken. -/
  full : Bool
  deriving DecidableEq, Repr

/-- The greatest significand. -/
def greatestSignificand : Nat := twoTo 64 - 1

/-- Takes a digit before the point. From the first that does not fit, digits only count as
    places. -/
def Gathered.takeWhole (gathered : Gathered) (c : Char) : Gathered :=
  let extended := gathered.significand * 10 + (Text.digitValue? c).getD 0
  if gathered.full ∨ greatestSignificand < extended then
    { gathered with exponent := gathered.exponent + 1, full := true }
  else { gathered with significand := extended }

/-- Takes a digit after the point. From the first that does not fit, digits are dropped. -/
def Gathered.takeFraction (gathered : Gathered) (c : Char) : Gathered :=
  let extended := gathered.significand * 10 + (Text.digitValue? c).getD 0
  if gathered.full ∨ greatestSignificand < extended then { gathered with full := true }
  else { gathered with significand := extended, exponent := gathered.exponent - 1 }

/-- The significand and the power of ten of a numeral. -/
def gather (numeral : Numeral) : Gathered :=
  let whole := numeral.whole.foldl Gathered.takeWhole ⟨0, 0, false⟩
  let all := numeral.fraction.foldl Gathered.takeFraction { whole with full := false }
  { all with exponent := all.exponent + numeral.exponent }

/-- A power of ten as a number of 64 bits. -/
def powerOfTen (places : Nat) : Binary :=
  .ofInt .double (tenTo places)

/-- Divides by a power of ten, 308 places at a time. -/
def scaleDown (value : Binary) (places : Nat) : Binary :=
  if places ≤ 308 then Binary.div .double value (powerOfTen places)
  else if value.isZero then value
  else scaleDown (Binary.div .double value (powerOfTen 308)) (places - 308)
termination_by places

/-- A significand times a power of ten, by one multiplication or by divisions; a product that
    is not finite is no number. -/
def scale? (significand : Nat) : Int → Option Binary
  | .negSucc places => some (scaleDown (.ofInt .double significand) (places + 1))
  | .ofNat places =>
      if significand = 0 then some (.ofInt .double 0)
      else if 308 < places then none
      else
        let product := Binary.mul .double (.ofInt .double significand) (powerOfTen places)
        if product.isFinite then some product else none

/-- The binary number of a numeral, if it is in range. -/
def binary? (numeral : Numeral) : Option Binary :=
  let gathered := numeral.gather
  (scale? gathered.significand gathered.exponent).map fun value =>
    if numeral.negative then value.negate else value

/-- The quantity of a numeral. Integers of 64 bits, signed or not, are exact; minus zero and
    all other numerals are binary numbers. -/
def quantity? (numeral : Numeral) : Option Quantity :=
  let size := (Text.readNat? numeral.whole).getD 0
  if numeral.integral ∧ !numeral.negative ∧ size < twoTo 64 then some (.integer size)
  else if numeral.integral ∧ numeral.negative ∧ 0 < size ∧ size ≤ twoTo 63 then
    some (.integer (-size))
  else numeral.binary?.map .binary

end Numeral

end Json

end RecordQuery
