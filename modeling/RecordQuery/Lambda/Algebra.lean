import RecordQuery.Expr.Eval
import RecordQuery.Expr.Replacement
import RecordQuery.Expr.Text

/-!
# Combining lambdas

Every combination is a new lambda. Where two bodies meet, the parameters of the second are
replaced by those of the first, position by position. Combinations of truth values need
bodies that yield one; all others need types that fit.
-/

namespace RecordQuery

/-- Why lambdas do not combine. -/
inductive CombinationError where
  /-- A lambda has another number of parameters, or a position is beyond its parameters. -/
  | arity (expected actual : Nat)
  /-- The body yields no truth value. -/
  | notBool (lambda : Lambda)
  /-- The types of two parameters at one position differ. -/
  | parameterTypes (source target : Parameter)
  /-- The first parameter of the wider list is of another type. -/
  | widening (lambda : Lambda) (type : DataType)
  /-- The result of one lambda does not fit the parameter of the next. -/
  | composition (inner outer : Lambda) (expected : DataType)
  /-- The converter does not map the type of the argument to itself. -/
  | converter (converter : Lambda) (type : DataType)
  /-- A position is bound twice. -/
  | boundTwice (position : Nat)
  /-- A record has no constant form. -/
  | recordParameter (name : String)
  /-- The value does not fit the parameter. -/
  | misfit (value : Value) (parameter : Parameter)
  /-- The lambda takes another number of parameters than the single record. -/
  | notUnary (lambda : Lambda)
  /-- The lambda takes a parameter of another type than the record. -/
  | otherRecord (lambda : Lambda) (actual expected : DataType)

/-- The name and type of a parameter. -/
def Parameter.signature (p : Parameter) : String :=
  ticked (p.name ++ ": " ++ p.type.name)

/-- The wording of the cause. -/
def CombinationError.message : CombinationError → String
  | arity expected actual => arityMessage expected actual
  | notBool lambda =>
      "invalid predicate: " ++ ticked lambda.toText ++ " returns " ++ lambda.type.name ++ ", not bool"
  | parameterTypes source target =>
      "invalid predicate: parameter " ++ source.signature ++ " cannot be rebound to " ++
        target.signature
  | widening lambda type =>
      "invalid predicate: cannot widen " ++ ticked lambda.toText ++
        " over a first parameter of type " ++ type.name
  | composition inner outer expected =>
      "invalid predicate: " ++ ticked inner.toText ++ " yields " ++ inner.type.name ++ ", " ++
        ticked outer.toText ++ " expects " ++ expected.name
  | converter lambda type =>
      "invalid predicate: converter " ++ ticked lambda.toText ++ " does not map " ++ type.name ++
        " to itself"
  | boundTwice position =>
      "invalid predicate: position " ++ Text.ofNat position ++ " bound twice"
  | recordParameter name =>
      "invalid predicate: record parameter " ++ ticked name ++ " cannot be bound to a constant"
  | misfit value parameter =>
      "invalid predicate: " ++ value.toText ++ " does not fit parameter " ++ parameter.signature
  | notUnary lambda =>
      "invalid predicate: " ++ ticked lambda.toText ++ " takes " ++ Text.ofNat lambda.arity ++
        " parameters, expected 1"
  | otherRecord lambda actual expected =>
      "invalid predicate: " ++ ticked lambda.toText ++ " takes " ++ actual.name ++ ", expected " ++
        expected.name

namespace Lambda

/-- Two bodies joined by an operator over the parameters of the first lambda. -/
def merge (operator : Operator) (first second : Lambda) : Lambda :=
  ⟨first.parameters,
    .binary operator first.body
      (second.body.substitute (.positional second.parameters first.parameters))⟩

/-- Refuses a lambda whose body yields no truth value. -/
def checkBool (lambda : Lambda) : Except CombinationError Unit :=
  if lambda.isPredicate then .ok () else .error (.notBool lambda)

/-- Refuses a lambda with another number of parameters. -/
def checkArity (lambda : Lambda) (expected : Nat) : Except CombinationError Unit :=
  if lambda.arity = expected then .ok () else .error (.arity expected lambda.arity)

/-- Refuses parameters whose types differ at some position. -/
def checkTypes : List Parameter → List Parameter → Except CombinationError Unit
  | first :: firsts, second :: seconds =>
      if first.type = second.type then checkTypes firsts seconds
      else .error (.parameterTypes second first)
  | _, _ => .ok ()

/-- Merges two predicates of the same parameter types. -/
def combine (operator : Operator) (first second : Lambda) : Except CombinationError Lambda := do
  first.checkBool
  second.checkBool
  if first.arity ≠ second.arity then .error (.arity first.arity second.arity)
  checkTypes first.parameters second.parameters
  return merge operator first second

/-- Holds where both predicates hold. -/
def and : Lambda → Lambda → Except CombinationError Lambda := combine .and

/-- Holds where one of the predicates holds. -/
def or : Lambda → Lambda → Except CombinationError Lambda := combine .or

/-- Holds where the predicate does not. -/
def not (lambda : Lambda) : Except CombinationError Lambda := do
  lambda.checkBool
  return ⟨lambda.parameters, .not lambda.body⟩

/-- The single parameter of a lambda. -/
def onlyParameter (lambda : Lambda) : Except CombinationError Parameter :=
  match lambda.parameters with
  | [p] => .ok p
  | parameters => .error (.arity 1 parameters.length)

/-- A unary lambda over a longer list of parameters, of which it reads the first. -/
def widen (lambda : Lambda) (parameters : List Parameter) : Except CombinationError Lambda := do
  let own ← lambda.onlyParameter
  match parameters with
  | [] => .error (.arity 1 0)
  | first :: _ =>
      if own.type ≠ first.type then .error (.widening lambda first.type)
      else return ⟨parameters, lambda.body.substitute (.single own.id (.parameter first))⟩

/-- A unary predicate of the first parameter, and then the wider predicate. -/
def andWidened (lambda wide : Lambda) : Except CombinationError Lambda := do
  (← lambda.widen wide.parameters).and wide

/-- The second lambda applied to the result of the first. -/
def compose (inner outer : Lambda) : Except CombinationError Lambda := do
  let _ ← inner.onlyParameter
  let target ← outer.onlyParameter
  if target.type.accepts inner.type then
    return ⟨inner.parameters, outer.body.substitute (.single target.id inner.body)⟩
  else .error (.composition inner outer target.type)

/-- The parameter at a position. -/
def parameterAt (lambda : Lambda) (position : Nat) : Except CombinationError Parameter :=
  match lambda.parameters[position]? with
  | some p => .ok p
  | none => .error (.arity lambda.arity (position + 1))

/-- The lambda with one argument passed through a converter first. -/
def convertArgument (lambda : Lambda) (position : Nat) (converter : Lambda) :
    Except CombinationError Lambda := do
  let input ← converter.onlyParameter
  let target ← lambda.parameterAt position
  if input.type = target.type ∧ target.type.accepts converter.type then
    let converted := converter.body.substitute (.single input.id (.parameter target))
    return ⟨lambda.parameters, lambda.body.substitute (.single target.id converted)⟩
  else .error (.converter converter target.type)

/-- Whether a value may be bound where a type is expected. Null fits nullable types only. -/
def fits (type : DataType) (value : Value) : Bool :=
  match value.type? with
  | some valueType => type.accepts valueType
  | none => type.isNullable

/-- The constants bound so far, by the identity of their parameter. -/
abbrev Bindings := List (Nat × Expr)

/-- One more argument bound to a constant. -/
def bindConstant (lambda : Lambda) (seen : List Nat) (position : Nat) (value : Value) :
    Except CombinationError (Nat × Expr) := do
  let p ← lambda.parameterAt position
  if seen.contains position then .error (.boundTwice position)
  else if p.type.isRecord then .error (.recordParameter p.name)
  else if fits p.type value then return (p.id, .constant value p.type)
  else .error (.misfit value p)

/-- The constants for a list of positions and values, in order. -/
def bindConstants (lambda : Lambda) :
    List Nat → List (Nat × Value) → Except CombinationError Bindings
  | _, [] => .ok []
  | seen, (position, value) :: rest => do
      let binding ← lambda.bindConstant seen position value
      return binding :: (← lambda.bindConstants (position :: seen) rest)

/-- The lambda with some arguments fixed; the other parameters keep their order. -/
def partialApply (lambda : Lambda) (arguments : List (Nat × Value)) :
    Except CombinationError Lambda := do
  let bindings ← lambda.bindConstants [] arguments
  let bound := bindings.map Prod.fst
  return ⟨lambda.parameters.filter fun p => !bound.contains p.id,
    lambda.body.substitute (.ofPairs bindings)⟩

/-- The lambda with its first argument fixed. -/
def applyFirst (lambda : Lambda) (value : Value) : Except CombinationError Lambda :=
  lambda.partialApply [(0, value)]

/-- The first predicate of one argument and the second of another, over two parameters whose
    identities are given. -/
def cartesian (firstId secondId : Nat) (first second : Lambda) :
    Except CombinationError Lambda := do
  let firstOwn ← first.onlyParameter
  let secondOwn ← second.onlyParameter
  first.checkBool
  second.checkBool
  let a : Parameter := ⟨firstId, "a", firstOwn.type⟩
  let b : Parameter := ⟨secondId, "b", secondOwn.type⟩
  return ⟨[a, b],
    .binary .and (first.body.substitute (.single firstOwn.id (.parameter a)))
      (second.body.substitute (.single secondOwn.id (.parameter b)))⟩

end Lambda

end RecordQuery
