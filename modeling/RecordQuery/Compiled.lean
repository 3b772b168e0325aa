import RecordQuery.Literal.Read
import RecordQuery.Predicate
import RecordQuery.Projection.Basic
import RecordQuery.Request.Filter

/-!
# Compiled filters

A filter names a property, a comparison and a literal. The literal is read as a constant of
the property's type, whether that admits null or not; a literal that cannot be read is an
error. The constant then decides which comparisons apply. A filter whose name, literal or
comparison does not go with the record type is dropped, with a reason, and keeps all records.
-/

namespace RecordQuery

/-- Why a filter is dropped. -/
inductive DropReason where
  /-- No property has this name. -/
  | unresolved (name : String)
  /-- The comparison does not apply to the type. -/
  | unsupported (comparison : Comparison) (type : DataType)
  /-- A literal of this form does not compare with the type. -/
  | mismatch (form : String) (type : DataType)
  deriving DecidableEq, Repr

/-- The wording of a reason. -/
def DropReason.message : DropReason → String
  | unresolved name => "no property named '" ++ name ++ "'"
  | unsupported comparison type =>
      "'" ++ comparison.name ++ "' does not apply to " ++ type.name
  | mismatch form type => form ++ " value cannot be compared with " ++ type.name

/-- What a filter comes to. -/
inductive Compiled where
  | ready (predicate : Predicate)
  | dropped (reason : DropReason)

/-- The predicate of a filter that was not dropped. -/
def Compiled.predicate? : Compiled → Option Predicate
  | ready predicate => some predicate
  | dropped _ => none

namespace Literal

/-- The constant that a literal stands for beside a property of a base type, or nothing if
    the two do not compare. Text is read as the type asks; a list stands beside its items, and
    a list of integers also beside dates. -/
def constantFor? (base : DataType) (literal : Literal) : Except LiteralError (Option Value) :=
  match base, literal with
  | .text, text content => .ok (some (.text content))
  | .bool, bool value => .ok (some (.bool value))
  | .bool, text content => do return some (.bool (← readBool content))
  | .number kind, number value => do return some (.number (← coerceNumber value kind))
  | .number kind, text content => do return some (.number (← readNumber content kind))
  | .date, date value => .ok (some (.date value))
  | .date, text content => do return some (.date (← readDate content))
  | .number _, ints values => .ok (some (.ints values))
  | .date, ints values => .ok (some (.ints values))
  | .text, texts values => .ok (some (.texts values))
  | _, _ => .ok none

end Literal

namespace Comparison

/-- The method behind a text test or its opposite. -/
def textTest? : Comparison → Option Method
  | contains | notContains => some .contains
  | startsWith | notStartsWith => some .startsWith
  | endsWith | notEndsWith => some .endsWith
  | _ => none

/-- A text compared with a constant text. -/
def textCondition? (comparison : Comparison) (subject constant : Expr) : Option Expr :=
  match comparison with
  | equals => some (.relate .eq subject constant)
  | notEquals => some (.relate .ne subject constant)
  | other => do
      let test := Expr.call (← other.textTest?) [subject, constant]
      return if other.isNegated then .not test else test

/-- A truth value compared with a constant one. -/
def boolCondition? (comparison : Comparison) (subject constant : Expr) : Option Expr :=
  match comparison with
  | equals => some (.relate .eq subject constant)
  | notEquals => some (.relate .ne subject constant)
  | _ => none

/-- A number or date compared with a constant one. -/
def orderedCondition? (comparison : Comparison) (subject constant : Expr) : Option Expr :=
  comparison.relation?.map fun relation => .relate relation subject constant

/-- Membership in a constant set: of the month of a date, and of all else itself. -/
def setCondition? (comparison : Comparison) (subject set : Expr) : Option Expr :=
  if subject.type.isDate then
    if comparison = monthIsIn then some (.call .inSet [set, .call .month [subject]]) else none
  else if comparison = isIn then some (.call .inSet [set, subject])
  else none

/-- An expression compared with a constant, if the comparison applies to it. -/
def condition? (comparison : Comparison) (subject : Expr) (constant : Value) : Option Expr :=
  match constant with
  | .null => none
  | .text _ => comparison.textCondition? subject (.ofValue constant)
  | .bool _ => comparison.boolCondition? subject (.ofValue constant)
  | .number _ | .date _ => comparison.orderedCondition? subject (.ofValue constant)
  | .ints _ | .texts _ => comparison.setCondition? subject (.ofValue constant)

end Comparison

namespace Compiled

/-- Compiles a comparison of what a projection reads with a literal. -/
def ofProjection (projection : Projection) (comparison : Comparison) (literal : Literal) :
    Except LiteralError Compiled := do
  match ← literal.constantFor? projection.type.base with
  | none => return dropped (.mismatch literal.form projection.type)
  | some constant =>
      match comparison.condition? projection.body constant with
      | none => return dropped (.unsupported comparison projection.type)
      | some body => return ready ⟨projection.parameter, body⟩

/-- Compiles a comparison of a named property, or of the record itself, with a literal. -/
def ofParts (projections : Projections) (property : Option String) (comparison : Comparison)
    (literal : Literal) : Except LiteralError Compiled :=
  match projections.resolve? property with
  | none => .ok (dropped (.unresolved (property.getD "")))
  | some projection => ofProjection projection comparison literal

/-- Compiles a filter. -/
def ofFilter (projections : Projections) (filter : Filter) : Except LiteralError Compiled :=
  ofParts projections filter.property? filter.comparison filter.literal

/-- Compiles filters into their conjunction; there is none if all of them are dropped. -/
def conjunction? (projections : Projections) (filters : List Filter) :
    Except LiteralError (Option Predicate) := do
  let compiled ← filters.mapM (ofFilter projections)
  return Predicate.conjunction? (compiled.filterMap predicate?)

end Compiled

end RecordQuery
