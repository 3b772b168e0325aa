import RecordQuery.Projection.Basic
import Mathlib.Data.List.Forall2

/-!
# Records as rows of columns

A record conforms to its type when it has one value for each declared property, of the declared
base type, or null where the declared type admits null. The row of a record has a column for
every property name; of properties declared under one name the first gives the column. A name
resolves to the projection that reads this column, and to none without such a property.
-/

namespace RecordQuery

/-- Whether a property of the type may read a value: one of the base type, or null where the
    type admits it. -/
def DataType.Admits (type : DataType) (value : Value) : Prop :=
  value.type? = some type.base ∨ (value = .null ∧ type.isNullable = true)

/-- Admission is decided by the type of the value. -/
instance (type : DataType) (value : Value) : Decidable (type.Admits value) :=
  inferInstanceAs (Decidable (_ ∨ _))

/-- A type that does not admit null reads no null. -/
theorem DataType.Admits.ne_null {type : DataType} {value : Value} (admits : type.Admits value)
    (required : type.isNullable = false) : value ≠ .null := by
  rintro rfl
  rcases admits with typed | ⟨-, nullable⟩
  · simp [Value.type?] at typed
  · simp [required] at nullable

namespace RecordType

/-- A record has the shape of its type when it has one value for each property. -/
structure Shapes (type : RecordType) (record : Record) : Prop where
  named : record.typeName = type.name
  counted : record.values.length = type.properties.length

/-- A record conforms to its type when each property reads a value that its type admits. -/
structure Conforms (type : RecordType) (record : Record) : Prop where
  named : record.typeName = type.name
  admits : List.Forall₂ (fun (property : Property) value => property.type.Admits value)
    type.properties record.values

/-- A record conforms in full when its own value, if its type declares one, can be read as well. -/
structure ConformsInFull (type : RecordType) (record : Record) : Prop where
  columns : type.Conforms record
  self : ∀ valueType, type.selfType = some valueType →
    ∃ value, record.self = some value ∧ valueType.Admits value

/-- The position of the first property declared under a name. -/
def position? (type : RecordType) (name : String) : Option Nat :=
  type.properties.findIdx? fun property => name == property.name

/-- The value of a column in the row of a record; a column that the type does not have reads
    null. -/
def columns (type : RecordType) (record : Record) (name : String) : Value :=
  ((type.position? name).bind fun index => record.values[index]?).getD .null

/-- Whether a member reads a column: the first property declared under its name. -/
def IsColumn (type : RecordType) (m : Member) : Prop :=
  ∃ index property, type.position? property.name = some index ∧
    type.properties[index]? = some property ∧ m = .ofProperty type index property

/-- Whether a member can be read by a name or without one: a column or the record itself. -/
def IsReadable (type : RecordType) (m : Member) : Prop :=
  type.IsColumn m ∨ ∃ valueType, type.selfType = some valueType ∧ m = .ofSelf type valueType

variable {type : RecordType}

/-- A name with a position has a property there, declared under it. -/
theorem property_of_position {name : String} {index : Nat}
    (found : type.position? name = some index) :
    ∃ property, type.properties[index]? = some property ∧ property.name = name := by
  obtain ⟨bounded, named, -⟩ := List.findIdx?_eq_some_iff_getElem.mp found
  exact ⟨type.properties[index], List.getElem?_eq_getElem bounded, (beq_iff_eq.mp named).symm⟩

/-- A conforming record has the shape of its type. -/
theorem Conforms.shapes {record : Record} (conforms : type.Conforms record) :
    type.Shapes record :=
  ⟨conforms.named, conforms.admits.length_eq.symm⟩

/-- The value of a column stands at the position of its property. A record has as many values as its
    type has properties, so there is one. -/
theorem value_at_position {record : Record} (shapes : type.Shapes record) {name : String}
    {index : Nat} (first : type.position? name = some index) :
    record.values[index]? = some (type.columns record name) := by
  obtain ⟨property, declared, -⟩ := property_of_position first
  obtain ⟨bounded, -⟩ := List.getElem?_eq_some_iff.mp declared
  have inRange : index < record.values.length := by
    rw [shapes.counted]
    exact bounded
  simp [columns, first, List.getElem?_eq_getElem inRange]

/-- The member of a column reads its value. -/
theorem read_column {record : Record} (shapes : type.Shapes record) {m : Member}
    (column : type.IsColumn m) : m.read? record = some (type.columns record m.name) := by
  obtain ⟨index, property, first, -, rfl⟩ := column
  have valued := type.value_at_position shapes first
  simp [Member.ofProperty, Member.read?, Member.valueAt?, shapes.named, valued]

/-- What holds of the types of all properties and the values of a record holds of every column. It
    carries a condition on declared types over to what columns read, for whatever condition is
    asked. -/
theorem related_column {related : DataType → Value → Prop} {record : Record}
    (named : record.typeName = type.name)
    (each : List.Forall₂ (fun (property : Property) value => related property.type value)
      type.properties record.values)
    {m : Member} (column : type.IsColumn m) : related m.type (type.columns record m.name) := by
  obtain ⟨index, property, first, declared, rfl⟩ := column
  obtain ⟨bounded, located⟩ := List.getElem?_eq_some_iff.mp declared
  obtain ⟨inRange, valued⟩ := List.getElem?_eq_some_iff.mp
    (type.value_at_position ⟨named, each.length_eq.symm⟩ first)
  have relatedThere := (List.forall₂_iff_get.mp each).2 index bounded inRange
  simp only [List.get_eq_getElem, located, valued] at relatedThere
  exact relatedThere

/-- The declared type of a column admits its value. -/
theorem admits_column {record : Record} (conforms : type.Conforms record) {m : Member}
    (column : type.IsColumn m) : m.type.Admits (type.columns record m.name) :=
  type.related_column conforms.named conforms.admits column

/-- What holds of the types of all properties and the values of a record, and of the type and the
    value of the record itself, holds of every member that can be read. Columns are looked up by
    name, so the first property of a name counts. -/
theorem related_readable {related : DataType → Value → Prop} {record : Record}
    (named : record.typeName = type.name)
    (each : List.Forall₂ (fun (property : Property) value => related property.type value)
      type.properties record.values)
    (own : ∀ valueType, type.selfType = some valueType →
      ∃ value, record.self = some value ∧ related valueType value)
    {m : Member} (readable : type.IsReadable m) :
    ∃ value, m.read? record = some value ∧ related m.type value := by
  rcases readable with column | ⟨valueType, declared, rfl⟩
  · exact ⟨_, type.read_column ⟨named, each.length_eq.symm⟩ column,
      type.related_column named each column⟩
  · obtain ⟨value, given, relatedToType⟩ := own valueType declared
    refine ⟨value, ?_, relatedToType⟩
    simp [Member.ofSelf, Member.read?, Member.valueAt?, named, given]

/-- A record that conforms in full has an admitted value for every member that can be read. -/
theorem ConformsInFull.reads {record : Record} (conforms : type.ConformsInFull record) {m : Member}
    (readable : type.IsReadable m) :
    ∃ value, m.read? record = some value ∧ m.type.Admits value :=
  type.related_readable conforms.columns.named conforms.columns.admits conforms.self readable

end RecordType

namespace Projections

/-- Looking a name up in an indexed list finds the entry of the first item of that name. Positions
    are counted from the front, so the induction shifts the entries by one. -/
theorem lookup_mapIdx {α : Type} (entry : Nat → Property → α) (properties : List Property)
    (name : String) :
    (properties.mapIdx fun index property => (property.name, entry index property)).lookup name =
      (properties.findIdx? fun property => name == property.name).bind fun index =>
        properties[index]?.map (entry index) := by
  induction properties generalizing entry with
  | nil => rfl
  | cons first rest inductionHypothesis =>
    rw [List.mapIdx_cons, List.lookup_cons, List.findIdx?_cons]
    cases name == first.name with
    | true => rfl
    | false =>
      rw [inductionHypothesis fun index => entry (index + 1)]
      cases List.findIdx? (fun property => name == property.name) rest <;> rfl

variable {type : RecordType} {id : Nat} {name : String}

/-- A property name resolves to the projection that reads its column. The column is the first of its
    name, and its position is that of the property. -/
theorem get?_eq_some {projection : Projection}
    (found : (ofType type id).get? name = some projection) :
    ∃ m, type.IsColumn m ∧ m.name = name ∧
      projection = .ofMember (sharedParameter type id) m := by
  simp only [get?, ofType, lookup_mapIdx] at found
  obtain ⟨index, first, located⟩ := Option.bind_eq_some_iff.mp found
  obtain ⟨property, declared, rfl⟩ := Option.map_eq_some_iff.mp located
  obtain ⟨other, same, named⟩ := type.property_of_position first
  obtain rfl : property = other := Option.some.inj (declared.symm.trans same)
  refine ⟨.ofProperty type index property, ⟨index, property, ?_, declared, rfl⟩, named, rfl⟩
  rw [named]
  exact first

/-- A name resolves to no projection exactly when no property is declared under it. A type that
    cannot list its properties has none here. -/
theorem get?_eq_none :
    (ofType type id).get? name = none ↔ ∀ property ∈ type.properties, property.name ≠ name := by
  simp only [get?, ofType, lookup_mapIdx, Option.bind_eq_none_iff]
  constructor
  · intro absent property declared same
    cases found : type.properties.findIdx? (fun property => name == property.name) with
    | none => simpa [same] using List.findIdx?_eq_none_iff.mp found property declared
    | some index =>
      obtain ⟨other, located, -⟩ := type.property_of_position found
      simpa [located] using absent index found
  · intro absent index found
    obtain ⟨property, located, named⟩ := type.property_of_position found
    exact absurd named (absent property (List.mem_of_getElem? located))

/-- A name, or none, resolves to the projection of a member that can be read, or else to that of a
    whole record. A whole record is what no name leads to, where the type declares no value of its
    own. -/
theorem resolve_eq_some {name : Option String} {projection : Projection}
    (resolved : (ofType type id).resolve? name = some projection) :
    projection.type.isRecord = true ∨
      ∃ m, type.IsReadable m ∧ projection = .ofMember (sharedParameter type id) m := by
  unfold resolve? at resolved
  split at resolved
  · obtain ⟨m, column, -, rfl⟩ := get?_eq_some resolved
    exact .inr ⟨m, .inl column, rfl⟩
  · cases resolved
    cases declared : type.selfType with
    | none => simp [ofType, selfOf, declared, Projection.type, Expr.type, sharedParameter,
        RecordType.dataType, DataType.isRecord]
    | some valueType =>
      refine .inr ⟨.ofSelf type valueType, .inr ⟨valueType, declared, rfl⟩, ?_⟩
      simp [ofType, selfOf, declared]

end Projections

end RecordQuery
