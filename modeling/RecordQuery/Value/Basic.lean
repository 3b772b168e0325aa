import RecordQuery.DataType
import RecordQuery.DateTime.Text
import RecordQuery.Number.Basic
import RecordQuery.Text.Quoted

/-!
# Runtime values

A value is what a property reads, what a constant holds and what an expression evaluates to.
Null has no type of its own.
-/

namespace RecordQuery

/-- A runtime value. -/
inductive Value where
  | null
  | text (value : String)
  | bool (value : Bool)
  | number (value : Number)
  | date (value : DateTime)
  | ints (values : List Int)
  | texts (values : List String)
  deriving DecidableEq

namespace Value

/-- Whether the value is null. -/
def isNull : Value → Bool
  | null => true
  | _ => false

/-- The type of a value; null has none. -/
def type? : Value → Option DataType
  | null => none
  | text _ => some .text
  | bool _ => some .bool
  | number value => some (.number value.kind)
  | date _ => some .date
  | ints _ => some .ints
  | texts _ => some .texts

/-- The string of a text value. -/
def asText? : Value → Option String
  | text value => some value
  | _ => none

/-- The truth value of a boolean value. -/
def asBool? : Value → Option Bool
  | bool value => some value
  | _ => none

/-- The number of a number value. -/
def asNumber? : Value → Option Number
  | number value => some value
  | _ => none

/-- The date of a date value. -/
def asDate? : Value → Option DateTime
  | date value => some value
  | _ => none

/-- The word for a truth value. -/
def boolText (value : Bool) : String :=
  if value then "true" else "false"

/-- The text of a value: strings quoted, dates between hash marks, sequences in brackets. -/
def toText : Value → String
  | null => "null"
  | text value => Text.quoted value
  | bool value => boolText value
  | number value => value.text
  | date value => "#" ++ value.text ++ "#"
  | ints values => "[" ++ ", ".intercalate (values.map Text.ofInt) ++ "]"
  | texts values => "[" ++ ", ".intercalate (values.map Text.quoted) ++ "]"

end Value

end RecordQuery
