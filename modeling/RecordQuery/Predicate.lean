import RecordQuery.Lambda.Algebra

/-!
# Predicates and sort keys of records

A predicate is a lambda from a record to a truth value, a selector one from a record to the
value that it is sorted by. Both are checked when they are made from a lambda: one parameter,
of the record's type, and for a predicate a body that yields a truth value.
-/

namespace RecordQuery

/-- The single parameter of a lambda over a type of records. -/
def Lambda.recordParameter (lambda : Lambda) (type : DataType) :
    Except CombinationError Parameter :=
  match lambda.parameters with
  | [p] => if p.type = type then .ok p else .error (.otherRecord lambda p.type type)
  | _ => .error (.notUnary lambda)

/-- A condition on a record. -/
structure Predicate where
  parameter : Parameter
  body : Expr

namespace Predicate

/-- The predicate as a lambda. -/
def toLambda (predicate : Predicate) : Lambda :=
  ⟨[predicate.parameter], predicate.body⟩

/-- The predicate of a lambda over a type of records. -/
def ofLambda (type : DataType) (lambda : Lambda) : Except CombinationError Predicate := do
  let p ← lambda.recordParameter type
  lambda.checkBool
  return ⟨p, lambda.body⟩

/-- Holds of all records, or of none. -/
def constant (parameter : Parameter) (holds : Bool) : Predicate :=
  ⟨parameter, .ofValue (.bool holds)⟩

/-- Two bodies joined by a connective over the parameter of the first predicate. -/
def merge (connective : Operator) (first second : Predicate) : Predicate :=
  ⟨first.parameter,
    .binary connective first.body
      (second.body.substitute (.single second.parameter.id (.parameter first.parameter)))⟩

/-- Holds where both predicates hold. -/
def and : Predicate → Predicate → Predicate := merge .and

/-- Holds where one of the predicates holds. -/
def or : Predicate → Predicate → Predicate := merge .or

/-- Holds where the predicate does not. -/
def not (predicate : Predicate) : Predicate :=
  ⟨predicate.parameter, .not predicate.body⟩

/-- The predicates of a list joined from the left by `and`, if there are any. -/
def conjunction? : List Predicate → Option Predicate
  | [] => none
  | first :: rest => some (rest.foldl and first)

/-- Whether the predicate holds of a record. -/
def evaluate (predicate : Predicate) (record : Record) : Except EvaluationError Bool :=
  predicate.toLambda.test [.record record]

/-- Whether the predicate holds of a record; one that has no truth value does not. -/
def isSatisfiedBy (predicate : Predicate) (record : Record) : Bool :=
  match predicate.evaluate record with
  | .ok holds => holds
  | .error _ => false

/-- The text of a predicate. -/
def toText (predicate : Predicate) : String :=
  predicate.toLambda.toText

end Predicate

/-- What a record is sorted by. -/
structure Selector where
  parameter : Parameter
  body : Expr

namespace Selector

/-- The selector as a lambda. -/
def toLambda (selector : Selector) : Lambda :=
  ⟨[selector.parameter], selector.body⟩

/-- The selector of a lambda over a type of records. -/
def ofLambda (type : DataType) (lambda : Lambda) : Except CombinationError Selector := do
  let p ← lambda.recordParameter type
  return ⟨p, lambda.body⟩

/-- The sort key of a record. -/
def key (selector : Selector) (record : Record) : Except EvaluationError Value :=
  selector.toLambda.callValue [.record record]

end Selector

end RecordQuery
