import RecordQuery.Number.Kind

/-!
# Static types

Every expression has a static type. A nullable type is classified by its base, so that a
nullable integer is still an integer and a number; only a whole record is never nullable.
-/

namespace RecordQuery

/-- The static type of an expression. -/
inductive DataType where
  | text
  | bool
  | number (kind : NumberKind)
  | date
  | ints
  | texts
  | nullable (inner : DataType)
  /-- A whole record of the named type. -/
  | record (name : String)
  deriving DecidableEq, Repr

namespace DataType

/-- The type that also admits null. -/
def toNullable : DataType → DataType
  | nullable inner => nullable inner
  | other => nullable other

/-- Whether the type admits null. -/
def isNullable : DataType → Bool
  | nullable _ => true
  | _ => false

/-- The type without its nullable layers. -/
def base : DataType → DataType
  | nullable inner => inner.base
  | other => other

/-- Whether the base is text. -/
def isText (type : DataType) : Bool :=
  type.base == text

/-- Whether the base is boolean. -/
def isBool (type : DataType) : Bool :=
  type.base == bool

/-- The kind of number, if the base is one. -/
def numberKind? (type : DataType) : Option NumberKind :=
  match type.base with
  | number kind => some kind
  | _ => none

/-- Whether the base is a number. -/
def isNumber (type : DataType) : Bool :=
  type.numberKind?.isSome

/-- Whether the base is an integer kind. -/
def isInteger (type : DataType) : Bool :=
  type.numberKind?.any NumberKind.isInteger

/-- Whether the base is a number of a kind that has fractions. -/
def isFractional (type : DataType) : Bool :=
  type.numberKind?.any fun kind => !kind.isInteger

/-- Whether the base is a date. -/
def isDate (type : DataType) : Bool :=
  type.base == date

/-- Whether the base is a sequence of integers. -/
def isInts (type : DataType) : Bool :=
  type.base == ints

/-- Whether the base is a sequence of texts. -/
def isTexts (type : DataType) : Bool :=
  type.base == texts

/-- Whether the type is a whole record. -/
def isRecord : DataType → Bool
  | record _ => true
  | _ => false

/-- Whether a value of the second type fits where the first is expected: the types are equal,
    or the first is nullable and has the same base. -/
def accepts (expected actual : DataType) : Bool :=
  expected == actual || (expected.isNullable && expected.base == actual.base)

/-- The text of a type. -/
def name : DataType → String
  | text => "string"
  | bool => "bool"
  | number kind => kind.name
  | date => "date"
  | ints => "[int]"
  | texts => "[string]"
  | nullable inner => inner.name ++ "?"
  | record name => name

/-- Reads the name of a type, its characters from the last to the first; each mark at the end
    is one nullable layer. What is no type of values may name a type of records. -/
def readReversed? (recordNamed? : String → Option String) : List Char → Option DataType
  | '?' :: rest => (readReversed? recordNamed? rest).map nullable
  | reversed =>
      match String.ofList reversed.reverse with
      | "string" => some text
      | "bool" => some bool
      | "date" => some date
      | "[int]" => some ints
      | "[string]" => some texts
      | name => ((NumberKind.ofName? name).map number).or ((recordNamed? name).map record)

/-- Reads the name of a type, given how types of records are named. -/
def read? (recordNamed? : String → Option String) (name : String) : Option DataType :=
  readReversed? recordNamed? name.toList.reverse

/-- The base has no nullable layer left. -/
theorem isNullable_base (type : DataType) : type.base.isNullable = false := by
  induction type with
  | nullable inner ih => simpa [base] using ih
  | _ => rfl

/-- Making a type nullable keeps its base. -/
theorem base_toNullable (type : DataType) : type.toNullable.base = type.base := by
  cases type <;> rfl

/-- A type made nullable is nullable. -/
theorem isNullable_toNullable (type : DataType) : type.toNullable.isNullable = true := by
  cases type <;> rfl

end DataType

end RecordQuery
