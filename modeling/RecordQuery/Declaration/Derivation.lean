import RecordQuery.Declaration.Expression
import RecordQuery.Text.Identifier
import RecordQuery.Text.LetterCase
import RecordQuery.Text.Quoted
import RecordQuery.Text.Ticked

/-!
# Deriving properties from a declaration

The fields of a structure become properties in their order, each with a constant that holds
its name. A field may be left out and a property may be renamed; no two properties may share a
name, and the name of every constant has to be an identifier. A generic declaration asks that its
type parameters live forever and that every property's type is that of a field.
-/

namespace RecordQuery

/-- Why nothing is derived from a declaration. -/
inductive DeclarationError where
  /-- The structure has no named fields. -/
  | unnamedFields
  /-- The item is no structure. -/
  | notStructure
  /-- The structure has a lifetime parameter. -/
  | lifetime
  /-- A new name is no string literal. -/
  | nameNotText
  /-- A new name is blank. -/
  | nameBlank
  /-- An attribute has an unknown entry. -/
  | unknownEntry
  /-- Two properties share a name. -/
  | duplicate (name : String)
  /-- An attribute is no list of entries. -/
  | malformed (error : Malformed)
  /-- The name of a constant is no identifier, which breaks the derivation off. -/
  | notIdentifier (constant : String)
  deriving DecidableEq, Repr

/-- The wording of the error. -/
def DeclarationError.message : DeclarationError → String
  | unnamedFields => "Record can only be derived for structs with named fields"
  | notStructure => "Record can only be derived for structs"
  | lifetime => "Record types must be 'static and cannot have lifetime parameters"
  | nameNotText => "rename must be a string literal"
  | nameBlank => "rename must not be empty"
  | unknownEntry => "unknown record attribute. Expected: skip or rename = \"...\""
  | duplicate name => "duplicate record property " ++ ticked name
  | malformed error => error.message
  | notIdentifier constant => Text.quoted constant ++ " is not a valid Ident"

/-- What the attributes of a field say of its property. -/
structure FieldOptions where
  skip : Bool := false
  rename : Option String := none
  deriving DecidableEq, Repr

namespace FieldOptions

/-- The options after one more entry. -/
def addEntry (options : FieldOptions) : AttributeEntry → Except DeclarationError FieldOptions
  | .word path =>
      if path = "skip" then .ok { options with skip := true } else .error .unknownEntry
  | .assignment path value =>
      if path = "rename" then
        match value with
        | .text name =>
            if Text.isBlankText name then .error .nameBlank
            else .ok { options with rename := some name }
        | .other => .error .nameNotText
      else .error .unknownEntry
  | .group _ => .error .unknownEntry

/-- The options after one more attribute. All its entries are read before any of them counts;
    only attributes that speak of records do. -/
def addAttribute (options : FieldOptions) (source : FieldAttribute) :
    Except DeclarationError FieldOptions :=
  if source.path = "record" then do
    (← source.entries.mapError .malformed).foldlM addEntry options
  else .ok options

/-- The options of a field. -/
def ofAttributes (attributes : List FieldAttribute) : Except DeclarationError FieldOptions :=
  attributes.foldlM addAttribute {}

end FieldOptions

/-- A property derived from a field. -/
structure DerivedProperty where
  /-- The name of the property. -/
  name : String
  /-- The identifier of the field that it reads. -/
  identifier : String
  /-- The type of the field. -/
  type : String
  deriving DecidableEq, Repr

namespace DerivedProperty

/-- An identifier without the mark that makes a keyword one. -/
def plainIdentifier (identifier : String) : String :=
  match identifier.toList with
  | 'r' :: '#' :: rest => String.ofList rest
  | _ => identifier

/-- The property of a field, unless the field is left out. -/
def ofField? (field : DeclaredField) : Except DeclarationError (Option DerivedProperty) := do
  let options ← FieldOptions.ofAttributes field.attributes
  if options.skip then return none
  else
    let name := options.rename.getD (plainIdentifier field.identifier)
    return some ⟨name, field.identifier, field.type⟩

/-- The properties of a list of fields, given the names already taken. -/
def ofFields (taken : List String) :
    List DeclaredField → Except DeclarationError (List DerivedProperty)
  | [] => .ok []
  | field :: rest => do
      match ← ofField? field with
      | none => ofFields taken rest
      | some property =>
          if taken.contains property.name then .error (.duplicate property.name)
          else return property :: (← ofFields (property.name :: taken) rest)

/-- The name of a constant, given whether the character before is small or a digit. A capital
    after one of those starts a new word. -/
def constantChars (afterSmall : Bool) : List Char → List Char
  | [] => []
  | c :: rest =>
      (if afterSmall && Text.isUppercase c then ['_'] else []) ++
        (if Text.isAlphanumeric c then Text.capitals c else ['_']) ++
        constantChars (Text.isLowercase c || c.isDigit) rest

/-- The name of the constant for a property: capitals in words, with an underscore for every
    other character and in front of a digit. -/
def constantName (name : String) : String :=
  match constantChars false name.toList with
  | [] => "_"
  | c :: rest => String.ofList (if c.isDigit then '_' :: c :: rest else c :: rest)

/-- Refuses a property whose constant has a name that is no identifier. -/
def checkConstant (property : DerivedProperty) : Except DeclarationError Unit :=
  if Text.isIdentifier (constantName property.name).toList then .ok ()
  else .error (.notIdentifier (constantName property.name))

/-- The documentation of the constant. -/
def constantDoc (property : DerivedProperty) : String :=
  "Property name of " ++ ticked property.identifier ++ "."

/-- The expression that reads the field of a record. -/
def reads (property : DerivedProperty) : String :=
  "&record." ++ property.identifier

end DerivedProperty

namespace Declaration

/-- Refuses all but structures with named fields. -/
def checkShape (declaration : Declaration) : Except DeclarationError Unit :=
  match declaration.shape with
  | .fields => .ok ()
  | .positions | .unit => .error .unnamedFields
  | .variants | .union => .error .notStructure

/-- Refuses lifetime parameters. -/
def checkGenerics (declaration : Declaration) : Except DeclarationError Unit :=
  if declaration.generics.any GenericParameter.isLifetime then .error .lifetime else .ok ()

/-- The properties of a declared record type, in the order of their fields. Their constants are
    checked after all fields. -/
def properties (declaration : Declaration) : Except DeclarationError (List DerivedProperty) := do
  declaration.checkShape
  declaration.checkGenerics
  let properties ← DerivedProperty.ofFields [] declaration.fields
  properties.forM DerivedProperty.checkConstant
  return properties

/-- The declared type with its parameters. -/
def target (declaration : Declaration) : String :=
  match declaration.generics with
  | [] => declaration.name
  | generics => declaration.name ++ "<" ++ ",".intercalate (generics.map GenericParameter.name) ++ ">"

/-- A text without its blanks. -/
def withoutBlanks (text : String) : String :=
  String.ofList (text.toList.filter (!Text.isBlank ·))

/-- The bound that a type parameter lives forever. -/
def lifetimeBound? : GenericParameter → Option String
  | .type name => some (name ++ ":'static")
  | _ => none

/-- The bound that a property's type is that of a field, in terms of a library. -/
def fieldBound (library : String) (property : DerivedProperty) : String :=
  withoutBlanks property.type ++ ":" ++ library ++ "::Field"

/-- The bounds that the properties of a declaration ask for. -/
def bounds (library : String) (declaration : Declaration) (properties : List DerivedProperty) :
    List String :=
  declaration.generics.filterMap lifetimeBound? ++ properties.map (fieldBound library)

end Declaration

end RecordQuery
