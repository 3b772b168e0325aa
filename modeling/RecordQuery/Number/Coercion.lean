import RecordQuery.Number.Basic
import RecordQuery.Number.BinaryText
import RecordQuery.Number.DecimalText

/-!
# Coercion to an exact kind

A number becomes a number of another kind by way of a decimal, or of a binary number of 64
bits when the target is a binary kind. Integers take the part before the point; the unsigned
kinds refuse every decimal with a minus sign, even one that truncates to zero. Text is read
the same way: as a binary number for the binary kinds and as a decimal for all others.
-/

namespace RecordQuery.Number

/-- A binary number of 64 bits in one of the binary kinds. -/
def ofDouble (value : Binary) : NumberKind → Number
  | .single => single (value.convert .single)
  | _ => double value

/-- A decimal in one of the kinds: an integer kind takes the part before the point, and an
    unsigned one no minus sign. -/
def ofDecimal? (value : Decimal) : NumberKind → Option Number
  | .integer kind =>
      if kind.signed || !value.negative then ofInt? kind value.truncated else none
  | .decimal => some (decimal value)
  | kind => some (ofDouble value.toDouble kind)

/-- A number in another kind; a number of the kind itself stays as it is. -/
def coerce? (number : Number) (kind : NumberKind) : Option Number :=
  if number.kind = kind then some number
  else
    match kind with
    | .single | .double => some (ofDouble number.toDouble kind)
    | kind => number.toDecimal?.bind (ofDecimal? · kind)

/-- Reads the text of a number of exactly the kind, with no conversion between kinds. -/
def readExact? (kind : NumberKind) (text : List Char) : Option Number :=
  match kind with
  | .integer kind => (Text.readInt? text).bind (ofInt? kind)
  | .single => (Binary.read? .single text).map single
  | .double => (Binary.read? .double text).map double
  | .decimal => (Decimal.read? text).map decimal

end RecordQuery.Number
