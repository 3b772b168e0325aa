import RecordQuery.Text.Blank

/-!
# Declarations of record types

A record type is declared as a structure with named fields. The attributes of a field may leave
it out of the properties or name its property; their contents are kept as they are written until
the properties are derived.
-/

namespace RecordQuery

/-- What kind of item is declared. -/
inductive DeclaredShape where
  /-- A structure with named fields. -/
  | fields
  /-- A structure with numbered fields. -/
  | positions
  /-- A structure without fields. -/
  | unit
  /-- A choice between variants. -/
  | variants
  /-- Fields that share one place. -/
  | union
  deriving DecidableEq, Repr

/-- A generic parameter of a declaration. -/
inductive GenericParameter where
  | lifetime (name : String)
  | type (name : String)
  | constant (name : String)
  deriving DecidableEq, Repr

/-- What an attribute entry assigns. -/
inductive AssignedValue where
  /-- The content of a string literal. -/
  | text (content : String)
  /-- Any other expression. -/
  | other
  deriving DecidableEq, Repr

/-- One entry of an attribute. -/
inductive AttributeEntry where
  /-- A path alone. -/
  | word (path : String)
  /-- A path with a value. -/
  | assignment (path : String) (value : AssignedValue)
  /-- A path with a list of its own. -/
  | group (path : String)
  deriving DecidableEq, Repr

/-- What stands behind the path of an attribute. -/
inductive AttributeForm where
  /-- Nothing. -/
  | word
  /-- A content in parentheses, brackets or braces. -/
  | list (content : String)
  /-- A value behind a sign of equality. -/
  | assignment (value : AssignedValue)
  deriving DecidableEq, Repr

/-- An attribute of a field. -/
structure FieldAttribute where
  path : String
  form : AttributeForm
  deriving DecidableEq, Repr

/-- A field, with its identifier and its type as they are written. -/
structure DeclaredField where
  identifier : String
  type : String
  attributes : List FieldAttribute := []
  deriving DecidableEq, Repr

/-- A declaration of a type. -/
structure Declaration where
  shape : DeclaredShape
  name : String
  generics : List GenericParameter := []
  fields : List DeclaredField := []
  deriving DecidableEq, Repr

namespace GenericParameter

/-- Whether the parameter is a lifetime. -/
def isLifetime : GenericParameter → Bool
  | lifetime _ => true
  | _ => false

/-- The name of a parameter. -/
def name : GenericParameter → String
  | lifetime name => name
  | type name => name
  | constant name => name

/-- The name with the word that tells a constant from a type. -/
def title : GenericParameter → String
  | constant name => "const " ++ name
  | other => other.name

/-- Whether a character ends the name of a parameter. -/
def endsName (c : Char) : Bool :=
  Text.isBlank c || c == ':' || c == '='

/-- The name at the start of a text. -/
def leadingName (text : List Char) : String :=
  String.ofList (text.takeWhile fun c => !endsName c)

/-- Reads a parameter; its bounds do not count. -/
def read (text : String) : GenericParameter :=
  match Text.trimChars text.toList with
  | '\'' :: rest => lifetime ("'" ++ leadingName rest)
  | 'c' :: 'o' :: 'n' :: 's' :: 't' :: ' ' :: rest =>
      constant (leadingName (rest.dropWhile Text.isBlank))
  | other => type (leadingName other)

end GenericParameter

end RecordQuery
