import RecordQuery.Proofs.Compiled.Body
import RecordQuery.Proofs.Expr.Evaluation

/-!
# Evaluation of compiled predicates

A condition on a subject has a truth value for every value of the subject's base type, and for
null whether or not the type admits it: the constant was read for that type, so nothing is compared
with a value of another one. What the truth value says is what the method tests; null passes no
test. The connectives take this over, so compiled predicates never fail on records whose members
read such values.
-/

namespace RecordQuery

namespace Value

/-- Null compares with every value. -/
theorem comparable_null (value : Value) : null.comparable value = true := by
  simp [comparable, type?]

/-- A number that equals an integer of a constant set, or a text of one. -/
def IsItem (constant given : Value) : Prop :=
  (∃ items number, constant = .ints items ∧ given = .number number ∧
    ∃ item ∈ items, number.compareInt? item = some .eq) ∨
  ∃ items content, constant = .texts items ∧ given = .text content ∧ content ∈ items

/-- A date in a month of a constant set. -/
def IsInMonth (constant given : Value) : Prop :=
  ∃ items d, constant = .ints items ∧ given = .date d ∧ (d.month : Int) ∈ items

end Value

namespace Expr

variable {reads : Member → Prop} {p : Parameter} {m : Member} {scope : Scope}
  {expr subject : Expr} {given : Value}

/-- An expression has a truth value, and this says whether something is the case. -/
def Means (scope : Scope) (expr : Expr) (meaning : Prop) : Prop :=
  ∃ holds, expr.valueIn scope = .ok (.bool holds) ∧ (holds = true ↔ meaning)

/-- What an expression means can be said in other words. -/
theorem Means.of_iff {meaning other : Prop} (means : expr.Means scope meaning)
    (same : meaning ↔ other) : expr.Means scope other := by
  obtain ⟨holds, evaluated, meant⟩ := means
  exact ⟨holds, evaluated, meant.trans same⟩

/-- A negation means the opposite of its operand. -/
theorem Means.not {meaning : Prop} (means : expr.Means scope meaning) :
    (not expr).Means scope ¬meaning := by
  obtain ⟨holds, evaluated, same⟩ := means
  refine ⟨!holds, valueIn_not.mpr ⟨holds, truthIn_of_valueIn evaluated, rfl⟩, ?_⟩
  rw [← same, Bool.not_eq_true', Bool.not_eq_true]

/-- The value of a side is the same whether it is lifted or not. -/
theorem valueIn_of_lifted {lifted side : Expr} (same : lifted = side ∨ lifted = lift side) :
    lifted.valueIn scope = side.valueIn scope := by
  rcases same with rfl | rfl
  · rfl
  · exact valueIn_lift side

/-- A relation of comparable values has a truth value, whatever is lifted in it. The values that a
    relation sees are those of the bare sides, since a lift passes them on. -/
theorem valueIn_relate {relation : Relation} {left right : Expr} {leftValue rightValue : Value}
    (leftGiven : left.valueIn scope = .ok leftValue)
    (rightGiven : right.valueIn scope = .ok rightValue)
    (comparable : leftValue.comparable rightValue = true) :
    (relate relation left right).valueIn scope =
      .ok (.bool (relation.holds leftValue rightValue)) := by
  obtain ⟨first, second, leftSame, rightSame, related⟩ := relate_eq relation left right
  rw [related, valueIn_relation]
  rw [← valueIn_of_lifted leftSame] at leftGiven
  rw [← valueIn_of_lifted rightSame] at rightGiven
  exact ⟨leftValue, rightValue, leftGiven, rightGiven, comparable, rfl⟩

/-- A call of two arguments has the value of the method on their values. The number of arguments is
    checked before any of them is evaluated. -/
theorem valueIn_call_two {method : Method} (binary : method.arity = 2) {first second : Expr}
    {firstValue secondValue value : Value} (firstGiven : first.valueIn scope = .ok firstValue)
    (secondGiven : second.valueIn scope = .ok secondValue)
    (called : Value.callMethod method [firstValue, secondValue] = .ok value) :
    (call method [first, second]).valueIn scope = .ok value :=
  valueIn_call.mpr
    ⟨binary.symm, _, .cons firstGiven (.cons secondGiven .nil), called⟩

/-- A text test takes two arguments. -/
theorem arity_of_isTextTest {method : Method} (isTest : method.isTextTest = true) :
    method.arity = 2 := by
  cases method <;> first | rfl | simp [Method.isTextTest] at isTest

/-- A text test means that the subject is a text that passes it. A text that is missing passes no
    test, which is why the negated comparisons hold of it. -/
theorem means_textTest {method : Method} (isTest : method.isTextTest = true) (part : String)
    (read : subject.valueIn scope = .ok given) (typed : given.type? = some .text ∨ given = .null) :
    (call method [subject, ofValue (.text part)]).Means scope
      (∃ content, given = .text content ∧ Value.textTest method content part = true) := by
  have called : ∃ holds, Value.callMethod method [given, .text part] = .ok (.bool holds) ∧
      (holds = true ↔
        ∃ content, given = .text content ∧ Value.textTest method content part = true) := by
    rcases typed with isText | rfl
    · cases given <;> simp [Value.type?] at isText
      exact ⟨_, (Value.callMethod_textTest isTest).mpr (.inl ⟨_, _, rfl, rfl, rfl⟩), by simp⟩
    · exact ⟨false, (Value.callMethod_textTest isTest).mpr (.inr ⟨.inl rfl, rfl⟩), by simp⟩
  obtain ⟨holds, outcome, same⟩ := called
  exact ⟨holds,
    valueIn_call_two (arity_of_isTextTest isTest) read (valueIn_constant _ _) outcome, same⟩

/-- A membership test means that its set has the item. The types rule out an item that does not go
    with the set, which would be an error. -/
theorem means_inSet {set : Value} (read : subject.valueIn scope = .ok given)
    (isSet : (∃ items kind, set = .ints items ∧ subject.type.base = .number kind) ∨
      ∃ items, set = .texts items ∧ subject.type.base = .text)
    (typed : given.type? = some subject.type.base ∨ given = .null) :
    (call .inSet [ofValue set, subject]).Means scope (set.IsItem given) := by
  have called : ∃ holds, Value.callMethod .inSet [set, given] = .ok (.bool holds) ∧
      (holds = true ↔ set.IsItem given) := by
    rcases typed with typed | rfl
    · rcases isSet with ⟨items, kind, rfl, base⟩ | ⟨items, rfl, base⟩
      · rw [base] at typed
        cases given <;> simp [Value.type?] at typed
        exact ⟨_, rfl, by simp [Value.IsItem, Value.memberOf]⟩
      · rw [base] at typed
        cases given <;> simp [Value.type?] at typed
        exact ⟨_, rfl, by simp [Value.IsItem]⟩
    · refine ⟨false, ?_, by simp [Value.IsItem]⟩
      cases set <;> rfl
  obtain ⟨holds, outcome, same⟩ := called
  exact ⟨holds, valueIn_call_two rfl (valueIn_constant _ _) read outcome, same⟩

/-- A membership test of the month of a date means that the set has the month. The month of a
    missing date is missing too, and in no set. -/
theorem means_monthIn (items : List Int) (read : subject.valueIn scope = .ok given)
    (typed : given.type? = some .date ∨ given = .null) :
    (call .inSet [ofValue (.ints items), .call .month [subject]]).Means scope
      ((Value.ints items).IsInMonth given) := by
  have called : ∃ month, Value.callMethod .month [given] = .ok month ∧ ∃ holds,
      Value.callMethod .inSet [.ints items, month] = .ok (.bool holds) ∧
        (holds = true ↔ (Value.ints items).IsInMonth given) := by
    rcases typed with isDate | rfl
    · cases given <;> simp [Value.type?] at isDate
      refine ⟨_, rfl, _, rfl, ?_⟩
      simp [Value.IsInMonth, Value.memberOf, Value.monthNumber, Number.compareInt?]
    · exact ⟨_, rfl, _, rfl, by simp [Value.IsInMonth]⟩
  obtain ⟨month, extracted, holds, outcome, same⟩ := called
  have monthRead : (call .month [subject]).valueIn scope = .ok month :=
    valueIn_call.mpr ⟨rfl, _, .cons read .nil, extracted⟩
  exact ⟨holds, valueIn_call_two rfl (valueIn_constant _ _) monthRead outcome, same⟩

/-- A condition on a member has a truth value for every value that the member may read. Nullable
    members are included: the admitted values are those of the base type and null. -/
theorem Leaf.evaluates (leaf : Leaf p m expr) {value : Value}
    (read : (member (.parameter p) m).valueIn scope = .ok value) (admits : m.type.Admits value) :
    ∃ holds, expr.valueIn scope = .ok (.bool holds) := by
  have typed : value.type? = some m.type.base ∨ value = .null := admits.imp_right And.left
  cases leaf with
  | relation relation constant valued compares =>
    have comparable : value.comparable constant = true := by
      rcases typed with typed | rfl
      · exact compares value typed
      · exact Value.comparable_null constant
    exact ⟨_, valueIn_relate read (valueIn_constant _ _) comparable⟩
  | textTest method isTest content isText =>
    rw [isText] at typed
    obtain ⟨holds, evaluated, -⟩ := means_textTest isTest content read typed
    exact ⟨holds, evaluated⟩
  | inInts values isNumber =>
    obtain ⟨kind, base⟩ := isNumber
    obtain ⟨holds, evaluated, -⟩ := means_inSet read (.inl ⟨values, kind, rfl, base⟩) typed
    exact ⟨holds, evaluated⟩
  | inTexts values isText =>
    obtain ⟨holds, evaluated, -⟩ := means_inSet read (.inr ⟨values, rfl, isText⟩) typed
    exact ⟨holds, evaluated⟩
  | monthIn values isDate =>
    rw [isDate] at typed
    obtain ⟨holds, evaluated, -⟩ := means_monthIn values read typed
    exact ⟨holds, evaluated⟩

/-- A body of such conditions has a truth value where its members may read what they do. -/
theorem FilterBody.evaluates (body : FilterBody reads p expr)
    (given : ∀ m, reads m → ∃ value,
      (member (.parameter p) m).valueIn scope = .ok value ∧ m.type.Admits value) :
    ∃ holds, expr.valueIn scope = .ok (.bool holds) := by
  induction body with
  | leaf member shape =>
    obtain ⟨value, read, admits⟩ := given _ member
    exact shape.evaluates read admits
  | constant holds => exact ⟨holds, valueIn_constant _ _⟩
  | not _ inductionHypothesis =>
    obtain ⟨holds, evaluated⟩ := inductionHypothesis
    exact ⟨!holds, valueIn_not.mpr ⟨holds, truthIn_of_valueIn evaluated, rfl⟩⟩
  | and _ _ leftHypothesis rightHypothesis =>
    obtain ⟨left, leftEvaluated⟩ := leftHypothesis
    obtain ⟨right, rightEvaluated⟩ := rightHypothesis
    cases left with
    | false => exact ⟨false, valueIn_and.mpr (.inl ⟨truthIn_of_valueIn leftEvaluated, rfl⟩)⟩
    | true =>
      exact ⟨right, valueIn_and.mpr
        (.inr ⟨truthIn_of_valueIn leftEvaluated, right, truthIn_of_valueIn rightEvaluated, rfl⟩)⟩
  | or _ _ leftHypothesis rightHypothesis =>
    obtain ⟨left, leftEvaluated⟩ := leftHypothesis
    obtain ⟨right, rightEvaluated⟩ := rightHypothesis
    cases left with
    | true => exact ⟨true, valueIn_or.mpr (.inl ⟨truthIn_of_valueIn leftEvaluated, rfl⟩)⟩
    | false =>
      exact ⟨right, valueIn_or.mpr
        (.inr ⟨truthIn_of_valueIn leftEvaluated, right, truthIn_of_valueIn rightEvaluated, rfl⟩)⟩

end Expr

end RecordQuery
