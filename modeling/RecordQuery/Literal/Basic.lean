import RecordQuery.Value.Basic
import RecordQuery.Text.Blank
import RecordQuery.Text.Split

/-!
# Literals of a filter

The right-hand side of a filter is a literal. Text is not yet of the property's type: it is
read against that type when the filter is compiled. A list is written with commas and holds
integers if every item is one.
-/

namespace RecordQuery

/-- The right-hand side of a filter. -/
inductive Literal where
  | text (value : String)
  | bool (value : Bool)
  | number (value : Number)
  | date (value : DateTime)
  | ints (values : List Int)
  | texts (values : List String)
  deriving DecidableEq

namespace Literal

/-- The word for the form of a literal. -/
def form : Literal → String
  | text _ => "text"
  | bool _ => "bool"
  | number _ => "number"
  | date _ => "date"
  | ints _ => "int list"
  | texts _ => "text list"

/-- The text of a literal, unquoted; lists have commas between their items. -/
def toText : Literal → String
  | text value => value
  | bool value => Value.boolText value
  | number value => value.text
  | date value => value.text
  | ints values => ",".intercalate (values.map Text.ofInt)
  | texts values => ",".intercalate values

/-- The items of a comma-separated list, trimmed, without the empty ones. -/
def items (list : String) : List String :=
  ((Text.split ',' list).map Text.trim).filter fun item => !item.isEmpty

/-- Reads a list item as an integer of 64 bits. -/
def readItem? (item : String) : Option Int := do
  let value ← Text.readInt? item.toList
  if IntegerKind.i64.Holds value then some value else none

/-- Reads a comma-separated list: integers if every item is one, texts otherwise. -/
def readList (list : String) : Literal :=
  match (items list).mapM readItem? with
  | some values => ints values
  | none => texts (items list)

/-- The literal that stands for a value; null is no literal. -/
def ofValue? : Value → Option Literal
  | .null => none
  | .text value => some (text value)
  | .bool value => some (bool value)
  | .number value => some (number value)
  | .date value => some (date value)
  | .ints values => some (ints values)
  | .texts values => some (texts values)

/-- The value of a literal as it stands. -/
def toValue : Literal → Value
  | text value => .text value
  | bool value => .bool value
  | number value => .number value
  | date value => .date value
  | ints values => .ints values
  | texts values => .texts values

/-- Every literal stands for its value. -/
theorem ofValue_toValue (literal : Literal) : ofValue? literal.toValue = some literal := by
  cases literal <;> rfl

end Literal

end RecordQuery
