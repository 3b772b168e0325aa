import RecordQuery.Number.Kind
import RecordQuery.Number.Shortest
import RecordQuery.Number.Expansion

/-!
# Numbers

A number remembers its exact kind. Integers and decimals of any kinds compare by their exact
values; as soon as one side is a binary number, both sides are compared as numbers of
64 bits.
-/

namespace RecordQuery

/-- A number of one of the kinds. -/
inductive Number where
  | integer (kind : IntegerKind) (value : Int) (fits : kind.Holds value)
  | single (value : Binary)
  | double (value : Binary)
  | decimal (value : Decimal)
  deriving DecidableEq, Repr

namespace Number

/-- An integer of a kind, if the kind holds it. -/
def ofInt? (kind : IntegerKind) (value : Int) : Option Number :=
  if fits : kind.Holds value then some (integer kind value fits) else none

/-- The kind of a number. -/
def kind : Number → NumberKind
  | integer kind .. => .integer kind
  | single _ => .single
  | double _ => .double
  | decimal _ => .decimal

/-- The integer value, for the integer kinds. -/
def toInt? : Number → Option Int
  | integer _ value _ => some value
  | _ => none

/-- The number as a binary number of 64 bits. -/
def toDouble : Number → Binary
  | integer _ value _ => .ofInt .double value
  | single value => value.convert .double
  | double value => value
  | decimal value => value.toDouble

/-- The number as a decimal; binary numbers that are not finite or too large have none. -/
def toDecimal? : Number → Option Decimal
  | integer _ value _ => Decimal.ofInt? value
  | single value => Decimal.ofSingle? value
  | double value => Decimal.ofDouble? value
  | decimal value => some value

/-- Whether the number is a binary one. -/
def isBinary : Number → Bool
  | single _ | double _ => true
  | _ => false

/-- The order of an integer and a decimal. -/
def compareIntDecimal (left : Int) (right : Decimal) : Ordering :=
  Ord.compare (left * tenTo right.scale) right.signedMantissa

/-- The order of two numbers. It is undefined exactly when one of them is not a number. -/
def compare? : Number → Number → Option Ordering
  | integer _ left _, integer _ right _ => some (Ord.compare left right)
  | integer _ left _, decimal right => some (compareIntDecimal left right)
  | decimal left, integer _ right _ => some (compareIntDecimal right left).swap
  | decimal left, decimal right => some (left.compare right)
  | left, right => left.toDouble.compare? right.toDouble

/-- The order of a number and an integer of no particular kind. -/
def compareInt? : Number → Int → Option Ordering
  | integer _ left _, right => some (Ord.compare left right)
  | decimal left, right => some (compareIntDecimal right left).swap
  | left, right => left.toDouble.compare? (.ofInt .double right)

/-- Whether the number is a binary one that is not a number. -/
def isNan (number : Number) : Bool :=
  number.toDouble.isNan

/-- Whether the number is not an infinite or undefined binary number. -/
def isFinite (number : Number) : Bool :=
  number.toDouble.isFinite

/-- The text of a number. -/
def text : Number → String
  | integer _ value _ => Text.ofInt value
  | single value => value.text .single
  | double value => value.text .double
  | decimal value => value.text

end Number

end RecordQuery
