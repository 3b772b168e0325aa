import RecordQuery.Expr.Replacement
import RecordQuery.Text.Blank

/-!
# Projections

A projection is a lambda of one parameter that reads a property of a record, or the record
itself. All projections of a record type share their parameter, so that conditions on several
properties meet in one body. A name leads to the first property declared under it; a blank
name, or none, leads to the record itself.
-/

namespace RecordQuery

/-- A lambda of one parameter, read from a record. -/
structure Projection where
  parameter : Parameter
  body : Expr

namespace Projection

/-- The projection as a lambda. -/
def toLambda (projection : Projection) : Lambda :=
  ⟨[projection.parameter], projection.body⟩

/-- The type of what is read. -/
def type (projection : Projection) : DataType :=
  projection.body.type

/-- The same part read from another target. -/
def applyTo (projection : Projection) (target : Expr) : Expr :=
  projection.body.substitute (.single projection.parameter.id target)

/-- The projection to a member. -/
def ofMember (parameter : Parameter) (member : Member) : Projection :=
  ⟨parameter, .member (.parameter parameter) member⟩

/-- Whether two projections read the same part from the same parameter. -/
def same (left right : Projection) : Bool :=
  left.parameter == right.parameter && left.body.same right.body

end Projection

/-- The projections of one record type. -/
structure Projections where
  /-- The projection to the record itself. -/
  self : Projection
  /-- The projections to the declared properties, in order; a name may occur twice. -/
  named : List (String × Projection)

namespace Projections

/-- The parameter that the projections of a record type share. -/
def sharedParameter (type : RecordType) (id : Nat) : Parameter :=
  ⟨id, "p", type.dataType⟩

/-- The projection to the record itself: to its own value, or the bare parameter if it has
    none. -/
def selfOf (type : RecordType) (parameter : Parameter) : Projection :=
  match type.selfType with
  | some valueType => .ofMember parameter (.ofSelf type valueType)
  | none => ⟨parameter, .parameter parameter⟩

/-- The projections of a record type over a parameter of the given identity. A type that
    cannot list its properties has the projection to the record itself only. -/
def ofType (type : RecordType) (id : Nat) : Projections :=
  let parameter := sharedParameter type id
  { self := selfOf type parameter
    named := type.properties.mapIdx fun index property =>
      (property.name, .ofMember parameter (.ofProperty type index property)) }

/-- The shared parameter. -/
def parameter (projections : Projections) : Parameter :=
  projections.self.parameter

/-- The projection to the first property declared under a name. -/
def get? (projections : Projections) (name : String) : Option Projection :=
  projections.named.lookup name

/-- The projection that an optional name leads to. Blanks around a name do not count. -/
def resolve? (projections : Projections) (name : Option String) : Option Projection :=
  match name.bind Text.nonBlank? with
  | some trimmed => projections.get? trimmed
  | none => some projections.self

/-- The names of the properties in ascending order, each once. -/
def names (projections : Projections) : List String :=
  (projections.named.map Prod.fst).eraseDups.mergeSort fun left right => decide (left ≤ right)

end Projections

end RecordQuery
