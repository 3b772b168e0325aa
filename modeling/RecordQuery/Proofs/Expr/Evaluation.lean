import RecordQuery.Expr.Eval
import RecordQuery.Proofs.Expr.Induction
import RecordQuery.Proofs.Outcome
import Mathlib.Data.List.Infix

/-!
# What evaluation takes and gives

For every kind of expression, when it has a value and which. An expression in the place of a
condition has a truth value: null counts as false there. A conjunction that fails on the left
and a disjunction that holds on the left say nothing about their right sides.
-/

namespace RecordQuery

namespace Value

/-- The truth of a value in the place of a condition. -/
def truth? : Value → Option Bool
  | bool holds => some holds
  | null => some false
  | _ => none

/-- Only truth values and null have a negation, and it is a truth value. -/
theorem negated_eq_ok {value result : Value} :
    value.negated = .ok result ↔ ∃ holds, value.truth? = some holds ∧ result = bool !holds := by
  cases value <;> simp [negated, truth?, eq_comm]

/-- Comparable values stand in a relation or not. All other pairs are an error, whatever the
    relation. -/
theorem relate_eq_ok {relation : Relation} {left right result : Value} :
    relate relation left right = .ok result ↔
      left.comparable right = true ∧ result = bool (relation.holds left right) := by
  unfold relate
  split
  · rename_i compares
    simp [compares, eq_comm]
  · rename_i differs
    simp [differs]

/-- The month of a date is a number, that of null is null, and nothing else has one. -/
theorem callMethod_month {subject result : Value} :
    callMethod .month [subject] = .ok result ↔
      (∃ d, subject = date d ∧ result = number (monthNumber d)) ∨
      (subject = null ∧ result = null) := by
  cases subject with
  | date d =>
    have called : callMethod .month [date d] = .ok (number (monthNumber d)) := rfl
    simp [called, eq_comm]
  | null =>
    have called : callMethod .month [null] = .ok null := rfl
    simp [called, eq_comm]
  | _ =>
    constructor
    · rintro ⟨⟩
    · rintro (⟨d, ⟨⟩, -⟩ | ⟨⟨⟩, -⟩)

/-- A text occurs inside another when it is a run of consecutive characters of it. The induction
    follows the text that is searched, as the search does. -/
theorem occursIn_iff_infix {part subject : List Char} :
    occursIn part subject = true ↔ part <:+: subject := by
  induction subject with
  | nil => simp [occursIn]
  | cons c rest inductionHypothesis =>
    rw [occursIn, Bool.or_eq_true, inductionHypothesis, List.isPrefixOf_iff_prefix,
      List.infix_cons_iff]

/-- Whether a text test holds; none holds of null, and none applies to values of other types. -/
def textTest? (method : Method) : Value → Value → Option Bool
  | text content, text part => some (textTest method content part)
  | null, _ | _, null => some false
  | _, _ => none

/-- A text test compares two texts; it fails as soon as one side is null. Without a null, anything
    but two texts is an error. -/
theorem callMethod_textTest {method : Method} (isTest : method.isTextTest = true)
    {subject pattern result : Value} :
    callMethod method [subject, pattern] = .ok result ↔
      (∃ content part, subject = text content ∧ pattern = text part ∧
        result = bool (textTest method content part)) ∨
      ((subject = null ∨ pattern = null) ∧ result = bool false) := by
  have called : callMethod method [subject, pattern] = match textTest? method subject pattern with
      | some holds => .ok (bool holds)
      | none => .error (.undefinedCall method [subject, pattern]) := by
    cases method <;> cases isTest <;> cases subject <;> cases pattern <;> rfl
  rw [called]
  cases subject <;> cases pattern <;> simp [textTest?, eq_comm]

/-- Whether a set has an item; null is in no set, and no set has items of another type. -/
def inSet? : Value → Value → Option Bool
  | _, null | null, _ => some false
  | ints items, number item => some (memberOf item items)
  | texts items, text item => some (items.contains item)
  | _, _ => none

/-- A membership test has the truth value of the membership. There is none if the set and the item
    do not go together. -/
theorem callMethod_inSet {set item result : Value} :
    callMethod .inSet [set, item] = .ok result ↔
      ∃ holds, inSet? set item = some holds ∧ result = bool holds := by
  have called : callMethod .inSet [set, item] = match inSet? set item with
      | some holds => .ok (bool holds)
      | none => .error (.undefinedCall .inSet [set, item]) := by
    cases set <;> cases item <;> rfl
  rw [called]
  cases inSet? set item <;> simp [eq_comm]

end Value

namespace Expr

variable {scope : Scope}

attribute [local simp] eval evalAll

/-- The value of an expression that stands for no record. -/
def valueIn (scope : Scope) (expr : Expr) : Except EvaluationError Value := do
  (← expr.eval scope).toValue

/-- The truth of an expression in the place of a condition. -/
def truthIn (scope : Scope) (expr : Expr) : Except EvaluationError Bool := do
  (← expr.eval scope).truth

/-- An expression has a truth value exactly when it has a value with one. Null counts as false in
    the place of a condition. -/
theorem truthIn_eq_ok {expr : Expr} {holds : Bool} :
    expr.truthIn scope = .ok holds ↔
      ∃ value, expr.valueIn scope = .ok value ∧ value.truth? = some holds := by
  unfold truthIn valueIn
  cases expr.eval scope with
  | error cause => simp [bind, Except.bind]
  | ok operand =>
    cases operand with
    | record record => simp [bind, Except.bind, Operand.truth, Operand.toValue]
    | value value =>
      cases value <;>
        simp [bind, Except.bind, pure, Except.pure, Operand.truth, Operand.toValue, Value.truth?]

/-- The truth of an expression with a truth value is this value. -/
theorem truthIn_of_valueIn {expr : Expr} {holds : Bool}
    (evaluated : expr.valueIn scope = .ok (.bool holds)) : expr.truthIn scope = .ok holds :=
  truthIn_eq_ok.mpr ⟨_, evaluated, rfl⟩

/-- A constant has its value. -/
theorem valueIn_constant (value : Value) (type : DataType) :
    (constant value type).valueIn scope = .ok value := rfl

/-- Lifting leaves the value as it is. -/
theorem valueIn_lift (operand : Expr) :
    (lift operand).valueIn scope = operand.valueIn scope := rfl

/-- A member of the record bound to a parameter has the value that it reads. -/
theorem valueIn_member {p : Parameter} {m : Member} {record : Record}
    (bound : scope.find? p.id = some (.record record)) {value : Value} :
    (member (.parameter p) m).valueIn scope = .ok value ↔ m.read? record = some value := by
  cases read : m.read? record with
  | none => simp [valueIn, bound, bind, Except.bind, Member.readFrom, read]
  | some found => simp [valueIn, bound, bind, Except.bind, Member.readFrom, read, Operand.toValue]

/-- Where a record is bound to a parameter alone, a member of the parameter has the value that the
    record reads. -/
theorem valueIn_member_sole {p : Parameter} {m : Member} {record : Record} {value : Value} :
    (member (.parameter p) m).valueIn [(p.id, .record record)] = .ok value ↔
      m.read? record = some value :=
  valueIn_member (by simp [Scope.find?])

/-- A negation has a value if its operand has a truth, which is turned over. As null counts as
    false, its negation is true. -/
theorem valueIn_not {operand : Expr} {value : Value} :
    (not operand).valueIn scope = .ok value ↔
      ∃ holds, operand.truthIn scope = .ok holds ∧ value = .bool !holds := by
  have evaluated : (not operand).valueIn scope =
      (do let inner ← operand.valueIn scope; inner.negated) := by
    unfold valueIn
    rw [eval]
    cases operand.eval scope with
    | error cause => rfl
    | ok result =>
      simp only [bind, Except.bind]
      cases result.toValue with
      | error cause => rfl
      | ok inner =>
        simp only
        cases inner.negated <;> rfl
  simp only [evaluated, bind_eq_ok, Value.negated_eq_ok, truthIn_eq_ok]
  grind

/-- A conjunction asks for the truth of its right side where its left side holds. -/
theorem eval_and (left right : Expr) : (binary .and left right).eval scope = (do
    if ← left.truthIn scope then return .value (.bool (← right.truthIn scope))
    else return .value (.bool false)) := by
  simp only [eval, truthIn, bind_assoc]

/-- A disjunction asks for the truth of its right side where its left side does not hold. -/
theorem eval_or (left right : Expr) : (binary .or left right).eval scope = (do
    if ← left.truthIn scope then return .value (.bool true)
    else return .value (.bool (← right.truthIn scope))) := by
  simp only [eval, truthIn, bind_assoc]

/-- A conjunction leaves its truth to the right side where the left holds. An error on the right is
    not seen where the left side does not hold. -/
theorem truthIn_and_eq (left right : Expr) : (binary .and left right).truthIn scope = (do
    if ← left.truthIn scope then right.truthIn scope else return false) := by
  rw [truthIn, eval_and]
  cases left.truthIn scope with
  | error cause => rfl
  | ok holds =>
    cases holds with
    | false => rfl
    | true => cases right.truthIn scope <;> rfl

/-- A disjunction leaves its truth to the right side where the left fails to hold. An error on the
    right is not seen where the left side holds. -/
theorem truthIn_or_eq (left right : Expr) : (binary .or left right).truthIn scope = (do
    if ← left.truthIn scope then return true else right.truthIn scope) := by
  rw [truthIn, eval_or]
  cases left.truthIn scope with
  | error cause => rfl
  | ok holds =>
    cases holds with
    | true => rfl
    | false => cases right.truthIn scope <;> rfl

/-- A conjunction looks at its right side only if the left one holds. Where the left one does not
    hold, the right one may even fail. -/
theorem valueIn_and {left right : Expr} {value : Value} :
    (binary .and left right).valueIn scope = .ok value ↔
      (left.truthIn scope = .ok false ∧ value = .bool false) ∨
      (left.truthIn scope = .ok true ∧
        ∃ holds, right.truthIn scope = .ok holds ∧ value = .bool holds) := by
  rw [valueIn, eval_and]
  cases left.truthIn scope with
  | error cause => simp [bind, Except.bind]
  | ok holds =>
    cases holds with
    | false => simp [bind, Except.bind, pure, Except.pure, Operand.toValue, eq_comm]
    | true =>
      cases right.truthIn scope <;>
        simp [bind, Except.bind, pure, Except.pure, Operand.toValue, eq_comm]

/-- A disjunction looks at its right side only if the left one does not hold. Where the left one
    holds, the right one may even fail. -/
theorem valueIn_or {left right : Expr} {value : Value} :
    (binary .or left right).valueIn scope = .ok value ↔
      (left.truthIn scope = .ok true ∧ value = .bool true) ∨
      (left.truthIn scope = .ok false ∧
        ∃ holds, right.truthIn scope = .ok holds ∧ value = .bool holds) := by
  rw [valueIn, eval_or]
  cases left.truthIn scope with
  | error cause => simp [bind, Except.bind]
  | ok holds =>
    cases holds with
    | true => simp [bind, Except.bind, pure, Except.pure, Operand.toValue, eq_comm]
    | false =>
      cases right.truthIn scope <;>
        simp [bind, Except.bind, pure, Except.pure, Operand.toValue, eq_comm]

/-- A relation has a value if both sides have one and the two can be compared. Both are evaluated
    first, the left one before the right one. -/
theorem valueIn_relation {relation : Relation} {left right : Expr} {value : Value} :
    (binary (.relation relation) left right).valueIn scope = .ok value ↔
      ∃ leftValue rightValue, left.valueIn scope = .ok leftValue ∧
        right.valueIn scope = .ok rightValue ∧ leftValue.comparable rightValue = true ∧
        value = .bool (relation.holds leftValue rightValue) := by
  have evaluated : (binary (.relation relation) left right).valueIn scope = (do
      let leftValue ← left.valueIn scope
      let rightValue ← right.valueIn scope
      Value.relate relation leftValue rightValue) := by
    unfold valueIn
    rw [eval]
    cases left.eval scope with
    | error cause => rfl
    | ok result =>
      simp only [bind, Except.bind]
      cases result.toValue with
      | error cause => rfl
      | ok leftValue =>
        simp only
        cases right.eval scope with
        | error cause => rfl
        | ok other =>
          simp only
          cases other.toValue with
          | error cause => rfl
          | ok rightValue =>
            simp only
            cases Value.relate relation leftValue rightValue <;> rfl
  simp only [evaluated, bind_eq_ok, Value.relate_eq_ok]
  grind

/-- The arguments of a call have values exactly when each of them has one. They are evaluated from
    the left, up to the first error. -/
theorem evalAll_eq_mapM (arguments : List Expr) :
    evalAll scope arguments = arguments.mapM (valueIn scope) := by
  induction arguments with
  | nil => rfl
  | cons argument rest inductionHypothesis =>
    rw [evalAll, List.mapM_cons, ← inductionHypothesis]
    unfold valueIn
    cases argument.eval scope with
    | error cause => rfl
    | ok operand => rfl

/-- A call has a value if it has as many arguments as its method takes, all of them have values, and
    the method has one for these. The number of arguments is looked at first. -/
theorem valueIn_call {method : Method} {arguments : List Expr} {value : Value} :
    (call method arguments).valueIn scope = .ok value ↔
      arguments.length = method.arity ∧
        ∃ values, List.Forall₂ (fun argument given => argument.valueIn scope = .ok given)
          arguments values ∧ Value.callMethod method values = .ok value := by
  have evaluated : (call method arguments).valueIn scope =
      if arguments.length = method.arity then
        evalAll scope arguments >>= Value.callMethod method
      else .error (.arity method.arity arguments.length) := by
    unfold valueIn
    rw [eval]
    split
    · cases evalAll scope arguments with
      | error cause => rfl
      | ok values =>
        simp only [bind, Except.bind]
        cases Value.callMethod method values <;> rfl
    · rfl
  rw [evaluated]
  split
  · rename_i counted
    simp only [counted, true_and, bind_eq_ok, evalAll_eq_mapM, mapM_eq_ok]
  · rename_i miscounted
    simp [miscounted]

/-- The value of an operator is a truth value. What its sides are decides only whether it has one. -/
theorem truth_of_binary {operator : Operator} {left right : Expr} {value : Value}
    (evaluated : (binary operator left right).valueIn scope = .ok value) :
    ∃ holds, value = .bool holds := by
  cases operator with
  | relation relation =>
    obtain ⟨leftValue, rightValue, -, -, -, rfl⟩ := valueIn_relation.mp evaluated
    exact ⟨_, rfl⟩
  | and =>
    rcases valueIn_and.mp evaluated with ⟨-, rfl⟩ | ⟨-, holds, -, rfl⟩
    · exact ⟨false, rfl⟩
    · exact ⟨holds, rfl⟩
  | or =>
    rcases valueIn_or.mp evaluated with ⟨-, rfl⟩ | ⟨-, holds, -, rfl⟩
    · exact ⟨true, rfl⟩
    · exact ⟨holds, rfl⟩

/-- The value of a call is a truth value unless it is a month. All other methods are tests of two
    arguments, and a test of null fails. -/
theorem truth_of_call {method : Method} {arguments : List Expr} {value : Value}
    (test : method ≠ .month) (evaluated : (call method arguments).valueIn scope = .ok value) :
    ∃ holds, value = .bool holds := by
  obtain ⟨counted, values, given, called⟩ := valueIn_call.mp evaluated
  have two : method.arity = 2 := by cases method <;> first | rfl | contradiction
  obtain ⟨subject, argument, rfl⟩ :=
    List.length_eq_two.mp (given.length_eq.symm.trans (counted.trans two))
  cases method with
  | month => exact absurd rfl test
  | inSet =>
    obtain ⟨holds, -, rfl⟩ := Value.callMethod_inSet.mp called
    exact ⟨holds, rfl⟩
  | contains | startsWith | endsWith =>
    rcases (Value.callMethod_textTest rfl).mp called with ⟨content, part, -, -, rfl⟩ | ⟨-, rfl⟩
    · exact ⟨_, rfl⟩
    · exact ⟨false, rfl⟩

end Expr

/-- A lambda of one parameter holds of a record when its body does with the record bound. -/
theorem Lambda.test_unary {lambda : Lambda} {p : Parameter} (unary : lambda.parameters = [p])
    (record : Record) :
    lambda.test [.record record] = lambda.body.truthIn [(p.id, .record record)] := by
  simp [test, call, arity, unary, bind, Expr.truthIn]

/-- A lambda of one parameter has the value of its body with the record bound. -/
theorem Lambda.callValue_unary {lambda : Lambda} {p : Parameter} (unary : lambda.parameters = [p])
    (record : Record) :
    lambda.callValue [.record record] = lambda.body.valueIn [(p.id, .record record)] := by
  simp [callValue, call, arity, unary, bind, Expr.valueIn]

end RecordQuery
