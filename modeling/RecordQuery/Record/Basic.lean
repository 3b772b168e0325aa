import RecordQuery.Value.Basic

/-!
# Records

A record type lists its readable properties in order, or says why it cannot. It may also
give its records a value of their own, so that a record can be compared without naming a
property. A record holds one value for each property, in the order of its type.
-/

namespace RecordQuery

/-- A named and typed property. -/
structure Property where
  name : String
  type : DataType
  deriving DecidableEq, Repr

/-- A record type that cannot list its properties. -/
structure IntrospectionError where
  typeName : String
  reason : String
  deriving DecidableEq, Repr

/-- The wording of the error. -/
def IntrospectionError.message (error : IntrospectionError) : String :=
  "cannot introspect " ++ error.typeName ++ ": " ++ error.reason

/-- What is known of a type of records. The name is its identity. -/
structure RecordType where
  name : String
  /-- The declared properties, in order; a name may occur twice. -/
  declared : Except IntrospectionError (List Property)
  /-- The type of a record's own value, if records of this type have one. -/
  selfType : Option DataType

namespace RecordType

/-- The properties, none if the type cannot list them. -/
def properties (type : RecordType) : List Property :=
  match type.declared with
  | .ok properties => properties
  | .error _ => []

/-- The static type of a whole record. -/
def dataType (type : RecordType) : DataType :=
  .record type.name

end RecordType

/-- A record: the name of its type, the values of its properties in order, and its own value. -/
structure Record where
  typeName : String
  values : List Value
  self : Option Value
  deriving DecidableEq

/-- Where a member finds its value in a record. -/
inductive Slot where
  /-- The record's own value. -/
  | self
  /-- The value of the property at a position. -/
  | position (index : Nat)
  deriving DecidableEq, Repr

/-- A readable part of the records of one type. -/
structure Member where
  /-- The name of the record type. -/
  owner : String
  /-- The property's name; empty for the record itself. -/
  name : String
  type : DataType
  slot : Slot
  deriving DecidableEq, Repr

namespace Member

/-- Whether the member is the record itself. -/
def isSelf (member : Member) : Bool :=
  member.name.isEmpty

/-- The value of a slot. -/
def valueAt? (record : Record) : Slot → Option Value
  | .self => record.self
  | .position index => record.values[index]?

/-- The value of the member in a record, unless the record is of another type or has none. -/
def read? (member : Member) (record : Record) : Option Value :=
  if record.typeName = member.owner then valueAt? record member.slot else none

/-- The member of a record's own value. -/
def ofSelf (type : RecordType) (valueType : DataType) : Member :=
  ⟨type.name, "", valueType, .self⟩

/-- The member of a property at its position. -/
def ofProperty (type : RecordType) (index : Nat) (property : Property) : Member :=
  ⟨type.name, property.name, property.type, .position index⟩

/-- Members are the same when owner, name and type are. -/
def same (left right : Member) : Bool :=
  left.owner == right.owner && left.name == right.name && left.type == right.type

end Member

end RecordQuery
