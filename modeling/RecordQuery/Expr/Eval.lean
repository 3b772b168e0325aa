import RecordQuery.Expr.Basic
import RecordQuery.Text.Ticked
import RecordQuery.Value.Order

/-!
# Evaluation in memory

A lambda is called with a record or a value for each parameter. Comparisons are lifted over
null: null equals only null, differs from all else, and no ordering or text test holds of it.
Null counts as false, and its negation as true, so a predicate and its negation divide all
records between them.
-/

namespace RecordQuery

/-- An argument of a lambda, or a result. -/
inductive Operand where
  | record (record : Record)
  | value (value : Value)
  deriving DecidableEq

/-- Why an expression has no value. -/
inductive EvaluationError where
  /-- A lambda or method was called with another number of arguments. -/
  | arity (expected actual : Nat)
  /-- A parameter has no argument. -/
  | unbound (name : String)
  /-- The record has no value for the member. -/
  | unreadable (member : String)
  /-- A member was read from a value that is no record. -/
  | notRecord (member : String) (value : Value)
  /-- A record stands where a value is needed. -/
  | notValue
  /-- A value stands where a truth value is needed. -/
  | notBool (value : Value)
  /-- The negated value is no truth value. -/
  | notNegatable (value : Value)
  /-- The values are of types that do not compare. -/
  | incomparable (left right : Value)
  /-- The method does not apply to these values. -/
  | undefinedCall (method : Method) (arguments : List Value)
  deriving DecidableEq

/-- The wording of an arity error. -/
def arityMessage (expected actual : Nat) : String :=
  "arity mismatch: expected " ++ Text.ofNat expected ++ " parameter(s), got " ++ Text.ofNat actual

/-- The wording of the error. -/
def EvaluationError.message : EvaluationError → String
  | arity expected actual => arityMessage expected actual
  | unbound name => "evaluation failed: parameter " ++ ticked name ++ " is not bound"
  | unreadable member =>
      "evaluation failed: member " ++ ticked member ++ " cannot be read from this record"
  | notRecord member value =>
      "evaluation failed: member " ++ ticked member ++ " read from non-record value " ++ value.toText
  | notValue => "evaluation failed: expected a value, found a record"
  | notBool value => "evaluation failed: expected a boolean, found " ++ value.toText
  | notNegatable value => "evaluation failed: cannot negate " ++ value.toText
  | incomparable left right =>
      "evaluation failed: cannot compare " ++ left.toText ++ " with " ++ right.toText
  | undefinedCall method arguments =>
      "evaluation failed: " ++ ticked method.name ++ " is not defined for (" ++
        ", ".intercalate (arguments.map Value.toText) ++ ")"

namespace Operand

/-- The value of an operand that is no record. -/
def toValue : Operand → Except EvaluationError Value
  | value v => .ok v
  | record _ => .error .notValue

/-- The truth value of an operand; null counts as false. -/
def truth (operand : Operand) : Except EvaluationError Bool := do
  match ← operand.toValue with
  | .bool holds => pure holds
  | .null => pure false
  | other => .error (.notBool other)

end Operand

/-- What is bound to the parameters of a call. Later bindings hide earlier ones. -/
abbrev Scope := List (Nat × Operand)

/-- The last operand bound to an identity. -/
def Scope.find? (scope : Scope) (id : Nat) : Option Operand :=
  match scope with
  | [] => none
  | (bound, operand) :: rest =>
      (Scope.find? rest id).or (if bound = id then some operand else none)

namespace Relation

/-- Whether an ordering satisfies one of the four ordering relations, or equality. -/
def admits : Relation → Ordering → Bool
  | eq, ordering => ordering == .eq
  | ne, ordering => ordering != .eq
  | lt, ordering => ordering == .lt
  | le, ordering => ordering != .gt
  | gt, ordering => ordering == .gt
  | ge, ordering => ordering != .lt

/-- Whether two values stand in a relation. Null and undefined comparisons satisfy no
    ordering relation. -/
def holds : Relation → Value → Value → Bool
  | eq, left, right => left.equals right
  | ne, left, right => !left.equals right
  | relation, left, right =>
      if left.isNull || right.isNull then false
      else (left.compare? right).any relation.admits

end Relation

namespace Value

/-- Whether two values may be compared: null with all, numbers with numbers, and otherwise
    values of one type. -/
def comparable (left right : Value) : Bool :=
  match left.type?, right.type? with
  | some leftType, some rightType =>
      (leftType.isNumber && rightType.isNumber) || leftType == rightType
  | _, _ => true

/-- The truth of a relation between comparable values. -/
def relate (relation : Relation) (left right : Value) : Except EvaluationError Value :=
  if left.comparable right then .ok (.bool (relation.holds left right))
  else .error (.incomparable left right)

/-- Whether a text occurs inside another. -/
def occursIn (pattern : List Char) : List Char → Bool
  | [] => pattern.isEmpty
  | c :: rest => pattern.isPrefixOf (c :: rest) || occursIn pattern rest

/-- Whether a text test holds. -/
def textTest (method : Method) (subject pattern : String) : Bool :=
  match method with
  | .contains => occursIn pattern.toList subject.toList
  | .startsWith => pattern.toList.isPrefixOf subject.toList
  | .endsWith => pattern.toList.isSuffixOf subject.toList
  | _ => false

/-- Whether a number equals one of the integers. -/
def memberOf (number : Number) (items : List Int) : Bool :=
  items.any fun item => number.compareInt? item == some .eq

/-- The month of a date as a number. -/
def monthNumber (d : DateTime) : Number :=
  .integer .i32 d.month (by
    have inYear := d.proper.2.1
    have lower : IntegerKind.i32.lower = -2147483648 := rfl
    have upper : IntegerKind.i32.upper = 2147483647 := rfl
    unfold IntegerKind.Holds
    omega)

/-- The result of a method on as many values as it takes. A method on null yields null or
    false. -/
def callMethod (method : Method) (arguments : List Value) : Except EvaluationError Value :=
  match method, arguments with
  | .month, [.date d] => .ok (.number (monthNumber d))
  | .month, [.null] => .ok .null
  | .inSet, [_, .null] | .inSet, [.null, _] => .ok (.bool false)
  | .inSet, [.ints items, .number item] => .ok (.bool (memberOf item items))
  | .inSet, [.texts items, .text item] => .ok (.bool (items.contains item))
  | method, [.text subject, .text pattern] =>
      if method.isTextTest then .ok (.bool (textTest method subject pattern))
      else .error (.undefinedCall method arguments)
  | method, [left, right] =>
      if method.isTextTest ∧ (left.isNull || right.isNull) then .ok (.bool false)
      else .error (.undefinedCall method arguments)
  | method, arguments => .error (.undefinedCall method arguments)

/-- The negation of a truth value; the negation of null is true. -/
def negated : Value → Except EvaluationError Value
  | bool value => .ok (.bool !value)
  | null => .ok (.bool true)
  | other => .error (.notNegatable other)

end Value

/-- Reads a member from an operand. The record itself is already read when the operand is a
    value. -/
def Member.readFrom (member : Member) : Operand → Except EvaluationError Operand
  | .record record =>
      match member.read? record with
      | some value => .ok (.value value)
      | none => .error (.unreadable member.name)
  | .value value =>
      if member.isSelf then .ok (.value value) else .error (.notRecord member.name value)

namespace Expr

mutual

/-- The value of an expression, or the record that it stands for. -/
def eval (scope : Scope) : Expr → Except EvaluationError Operand
  | parameter p =>
      match scope.find? p.id with
      | some operand => .ok operand
      | none => .error (.unbound p.name)
  | member target m => do
      m.readFrom (← eval scope target)
  | constant value _ => .ok (.value value)
  | not operand => do
      let value ← (← eval scope operand).toValue
      return .value (← value.negated)
  | lift operand => eval scope operand
  | binary .and left right => do
      if ← (← eval scope left).truth then
        return .value (.bool (← (← eval scope right).truth))
      else return .value (.bool false)
  | binary .or left right => do
      if ← (← eval scope left).truth then return .value (.bool true)
      else return .value (.bool (← (← eval scope right).truth))
  | binary (.relation relation) left right => do
      let leftValue ← (← eval scope left).toValue
      let rightValue ← (← eval scope right).toValue
      return .value (← Value.relate relation leftValue rightValue)
  | call method arguments =>
      if arguments.length = method.arity then do
        return .value (← Value.callMethod method (← evalAll scope arguments))
      else .error (.arity method.arity arguments.length)

/-- The values of a list of expressions, from the first to the last. -/
def evalAll (scope : Scope) : List Expr → Except EvaluationError (List Value)
  | [] => .ok []
  | expr :: rest => do
      let value ← (← eval scope expr).toValue
      return value :: (← evalAll scope rest)

end

end Expr

namespace Lambda

/-- The arguments bound to the parameters of the same positions. -/
def bind (parameters : List Parameter) (arguments : List Operand) : Scope :=
  (parameters.map Parameter.id).zip arguments

/-- Calls a lambda with one argument for each parameter. -/
def call (lambda : Lambda) (arguments : List Operand) : Except EvaluationError Operand :=
  if arguments.length = lambda.arity then
    lambda.body.eval (bind lambda.parameters arguments)
  else .error (.arity lambda.arity arguments.length)

/-- Calls a lambda for a value. -/
def callValue (lambda : Lambda) (arguments : List Operand) : Except EvaluationError Value := do
  (← lambda.call arguments).toValue

/-- Calls a lambda for a truth value. -/
def test (lambda : Lambda) (arguments : List Operand) : Except EvaluationError Bool := do
  (← lambda.call arguments).truth

end Lambda

end RecordQuery
