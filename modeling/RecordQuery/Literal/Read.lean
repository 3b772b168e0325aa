import RecordQuery.DateTime.Text
import RecordQuery.Number.Coercion
import RecordQuery.Text.Blank
import RecordQuery.Text.LetterCase

/-!
# Reading literals against a type

A text becomes a truth value, a number of an exact kind or a date. A text that cannot be
read is an error that names the text as it was given and what it was read as.
-/

namespace RecordQuery

/-- What a literal was read as. -/
inductive LiteralTarget where
  | bool
  | date
  | number (kind : NumberKind)
  deriving DecidableEq, Repr

/-- The name of a target. -/
def LiteralTarget.name : LiteralTarget → String
  | bool => "bool"
  | date => "date"
  | number kind => kind.name

/-- A literal that cannot be read as its target. -/
structure LiteralError where
  literal : String
  target : LiteralTarget
  deriving DecidableEq, Repr

/-- The wording of the error. -/
def LiteralError.message (error : LiteralError) : String :=
  "cannot parse '" ++ error.literal ++ "' as " ++ error.target.name

namespace Literal

/-- The value if there is one, else the error that the text cannot be read. -/
def orUnreadable {α : Type} (literal : String) (target : LiteralTarget) :
    Option α → Except LiteralError α
  | some value => .ok value
  | none => .error ⟨literal, target⟩

/-- Reads `true` or `false`, in any case and between blanks. -/
def readBool (literal : String) : Except LiteralError Bool :=
  match Text.lowerAscii (Text.trim literal) with
  | "true" => .ok true
  | "false" => .ok false
  | _ => .error ⟨literal, .bool⟩

/-- Reads a date in one of its forms, between blanks. -/
def readDate (literal : String) : Except LiteralError DateTime :=
  orUnreadable literal .date (DateTime.read? (Text.trimChars literal.toList))

/-- Reads a decimal, plain or scientific, between blanks. -/
def readDecimal (literal : String) : Except LiteralError Decimal :=
  orUnreadable literal (.number .decimal) (Decimal.read? (Text.trimChars literal.toList))

/-- Reads a binary number of 64 bits, between blanks, for one of the binary kinds. -/
def readDouble (literal : String) (kind : NumberKind) : Except LiteralError Binary :=
  orUnreadable literal (.number kind) (Binary.read? .double (Text.trimChars literal.toList))

/-- Reads a number of an exact kind. A text that is no decimal is refused as a decimal, and a
    decimal that the kind does not hold is refused as that kind. -/
def readNumber (literal : String) (kind : NumberKind) : Except LiteralError Number :=
  match kind with
  | .single | .double => do
      let value ← readDouble literal kind
      pure (Number.ofDouble value kind)
  | kind => do
      let value ← readDecimal literal
      orUnreadable literal (.number kind) (Number.ofDecimal? value kind)

/-- A number in another kind; the error names the number by its text. -/
def coerceNumber (number : Number) (kind : NumberKind) : Except LiteralError Number :=
  orUnreadable number.text (.number kind) (number.coerce? kind)

end Literal

end RecordQuery
