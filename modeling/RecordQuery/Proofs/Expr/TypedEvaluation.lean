import RecordQuery.Proofs.Expr.Typing

/-!
# Evaluation of typed expressions

A typed expression has a value: node by node the values of its operands are of their types, or null,
and evaluation goes on. Where the types are those of what the record reads, and nothing counts but
what evaluation reaches, an expression that has a value is typed. The expressions that have a truth
over a record are therefore the typed conditions.
-/

namespace RecordQuery

namespace Expr

variable {typing : Typing} {record : Record} {nulls : Prop} {expr : Expr} {value : Value}

/-- An expression in the place of a condition has a truth if it has a value and its values may stand
    there. Null may stand there, since it counts as false. -/
theorem truthIn_of_isCondition (reads : expr.Reads typing record nulls)
    (evaluated : ∃ value, expr.valueIn (typing.scope record) = .ok value)
    (condition : expr.isCondition typing = true) :
    ∃ holds, expr.truthIn (typing.scope record) = .ok holds := by
  obtain ⟨value, given⟩ := evaluated
  obtain ⟨holds, known⟩ := Value.truth_of_stands (stands_of_valueIn reads given) condition
  exact ⟨holds, truthIn_eq_ok.mpr ⟨value, given, known⟩⟩

/-- A typed conjunction has a value if each side has a truth as soon as it is a typed condition. The
    right side is one where evaluation reaches it. -/
theorem valueIn_and_of_isTyped {left right : Expr}
    (follows : ∀ holds, left.truthIn (typing.scope record) = .ok holds →
      typing.reached left holds = true)
    (typed : (binary .and left right).isTyped typing = true)
    (leftTruth : left.isTypedCondition typing = true →
      ∃ holds, left.truthIn (typing.scope record) = .ok holds)
    (rightTruth : right.isTypedCondition typing = true →
      ∃ holds, right.truthIn (typing.scope record) = .ok holds) :
    ∃ value, (binary .and left right).valueIn (typing.scope record) = .ok value := by
  rw [isTyped, Bool.and_eq_true] at typed
  obtain ⟨leftTyped, rest⟩ := typed
  obtain ⟨holds, truth⟩ := leftTruth leftTyped
  cases holds with
  | false => exact ⟨_, valueIn_and.mpr (.inl ⟨truth, rfl⟩)⟩
  | true =>
    rw [follows true truth, Bool.not_true, Bool.false_or] at rest
    obtain ⟨other, otherTruth⟩ := rightTruth rest
    exact ⟨_, valueIn_and.mpr (.inr ⟨truth, other, otherTruth, rfl⟩)⟩

/-- A typed disjunction has a value if each side has a truth as soon as it is a typed condition. The
    right side is one where evaluation reaches it. -/
theorem valueIn_or_of_isTyped {left right : Expr}
    (follows : ∀ holds, left.truthIn (typing.scope record) = .ok holds →
      typing.reached left holds = true)
    (typed : (binary .or left right).isTyped typing = true)
    (leftTruth : left.isTypedCondition typing = true →
      ∃ holds, left.truthIn (typing.scope record) = .ok holds)
    (rightTruth : right.isTypedCondition typing = true →
      ∃ holds, right.truthIn (typing.scope record) = .ok holds) :
    ∃ value, (binary .or left right).valueIn (typing.scope record) = .ok value := by
  rw [isTyped, Bool.and_eq_true] at typed
  obtain ⟨leftTyped, rest⟩ := typed
  obtain ⟨holds, truth⟩ := leftTruth leftTyped
  cases holds with
  | true => exact ⟨_, valueIn_or.mpr (.inl ⟨truth, rfl⟩)⟩
  | false =>
    rw [follows false truth, Bool.not_true, Bool.false_or] at rest
    obtain ⟨other, otherTruth⟩ := rightTruth rest
    exact ⟨_, valueIn_or.mpr (.inr ⟨truth, other, otherTruth, rfl⟩)⟩

/-- A typed expression has a value: at every node evaluation goes on, whatever the record reads.

    Proof: induction on the expression. The operands have values by induction, and these stand for
    their types, which is what each operator asks of them. The right side of a connective is typed
    where evaluation reaches it, and elsewhere it is not needed. -/
theorem valueIn_of_isTyped (reads : expr.Reads typing record nulls)
    (follows : ∀ left holds, left.truthIn (typing.scope record) = .ok holds →
      typing.reached left holds = true) (typed : expr.isTyped typing = true) :
    ∃ value, expr.valueIn (typing.scope record) = .ok value := by
  induction expr with
  | parameter q => cases typed
  | member target m inductionHypothesis =>
    rw [isTyped, Bool.or_eq_true, Bool.and_eq_true] at typed
    rcases typed with isRecord | ⟨isSelf, targetTyped⟩
    · obtain ⟨value, read, -⟩ := reads target m (self_mem_parts _) isRecord
      exact ⟨value, valueIn_member_iff.mpr
        (.inl ⟨record, eval_eq_record.mpr ⟨isRecord, rfl⟩, read⟩)⟩
    · obtain ⟨value, given⟩ := inductionHypothesis reads.of_member targetTyped
      exact ⟨value, valueIn_member_iff.mpr (.inr ⟨isSelf, given⟩)⟩
  | constant value type => exact ⟨value, rfl⟩
  | not operand inductionHypothesis =>
    obtain ⟨operandTyped, condition⟩ := Bool.and_eq_true_iff.mp typed
    obtain ⟨holds, truth⟩ := truthIn_of_isCondition reads.of_not
      (inductionHypothesis reads.of_not operandTyped) condition
    exact ⟨_, valueIn_not.mpr ⟨holds, truth, rfl⟩⟩
  | lift operand inductionHypothesis => exact inductionHypothesis reads.of_lift typed
  | binary operator left right leftHypothesis rightHypothesis =>
    obtain ⟨leftReads, rightReads⟩ := reads.of_binary
    have leftTruth (condition : left.isTypedCondition typing = true) :
        ∃ holds, left.truthIn (typing.scope record) = .ok holds := by
      obtain ⟨leftTyped, leftCondition⟩ := Bool.and_eq_true_iff.mp condition
      exact truthIn_of_isCondition leftReads (leftHypothesis leftReads leftTyped) leftCondition
    have rightTruth (condition : right.isTypedCondition typing = true) :
        ∃ holds, right.truthIn (typing.scope record) = .ok holds := by
      obtain ⟨rightTyped, rightCondition⟩ := Bool.and_eq_true_iff.mp condition
      exact truthIn_of_isCondition rightReads (rightHypothesis rightReads rightTyped) rightCondition
    cases operator with
    | relation relation =>
      rw [isTyped, Bool.and_eq_true, Bool.and_eq_true] at typed
      obtain ⟨⟨leftTyped, rightTyped⟩, compares⟩ := typed
      obtain ⟨leftValue, leftGiven⟩ := leftHypothesis leftReads leftTyped
      obtain ⟨rightValue, rightGiven⟩ := rightHypothesis rightReads rightTyped
      exact ⟨_, valueIn_relation.mpr ⟨leftValue, rightValue, leftGiven, rightGiven,
        Value.comparable_of_stands (stands_of_valueIn leftReads leftGiven)
          (stands_of_valueIn rightReads rightGiven) compares, rfl⟩⟩
    | and => exact valueIn_and_of_isTyped (follows left) typed leftTruth rightTruth
    | or => exact valueIn_or_of_isTyped (follows left) typed leftTruth rightTruth
  | call method arguments inductionHypothesis =>
    rw [isTyped, Bool.and_eq_true, Bool.and_eq_true, areTyped_iff] at typed
    obtain ⟨⟨counted, each⟩, takes⟩ := typed
    have counted := of_decide_eq_true counted
    obtain ⟨values, evaluated⟩ := mapM_succeeds_iff.mpr fun argument member =>
      inductionHypothesis argument member (reads.of_call argument member) (each argument member)
    have given := mapM_eq_ok.mp evaluated
    have taken := Value.takes_of_stands (stand_of_valuesIn reads.of_call given) takes
    obtain ⟨result, called⟩ :=
      (Value.exists_callMethod (given.length_eq.symm.trans counted)).mpr taken
    exact ⟨result, valueIn_call.mpr ⟨counted, values, given, called⟩⟩

/-- Where what is read is exactly of its type, so is the value of an expression. -/
theorem type_of_valueIn (reads : expr.Reads typing record False)
    (evaluated : expr.valueIn (typing.scope record) = .ok value) :
    value.type? = expr.valueType? typing :=
  (stands_of_valueIn reads evaluated).resolve_right And.right

/-- Where what is read is exactly of its type, an expression that has a truth may stand in the place
    of a condition. It would fail with nulls in the place of numbers: null has a truth, but a number
    has none. -/
theorem isCondition_of_truthIn (reads : expr.Reads typing record False) {holds : Bool}
    (truth : expr.truthIn (typing.scope record) = .ok holds) :
    (∃ value, expr.valueIn (typing.scope record) = .ok value) ∧
      expr.isCondition typing = true := by
  obtain ⟨value, given, known⟩ := truthIn_eq_ok.mp truth
  refine ⟨⟨value, given⟩, ?_⟩
  rw [isCondition, ← type_of_valueIn reads given]
  exact Value.exists_truth.mp ⟨holds, known⟩

/-- A conjunction that has a value is typed if each side is a typed condition as soon as it has a
    truth. What is right of a side that does not hold is not reached. -/
theorem isTyped_and_of_valueIn {left right : Expr}
    (exact : ∀ holds, typing.reached left holds = true →
      left.truthIn (typing.scope record) = .ok holds)
    (given : (binary .and left right).valueIn (typing.scope record) = .ok value)
    (leftTyped : ∀ holds, left.truthIn (typing.scope record) = .ok holds →
      left.isTypedCondition typing = true)
    (rightTyped : ∀ holds, right.truthIn (typing.scope record) = .ok holds →
      right.isTypedCondition typing = true) :
    (binary .and left right).isTyped typing = true := by
  rw [isTyped, Bool.and_eq_true, Bool.or_eq_true]
  rcases valueIn_and.mp given with ⟨fails, -⟩ | ⟨succeeds, holds, truth, -⟩
  · refine ⟨leftTyped false fails, .inl ?_⟩
    simpa [fails] using exact true
  · exact ⟨leftTyped true succeeds, .inr (rightTyped holds truth)⟩

/-- A disjunction that has a value is typed if each side is a typed condition as soon as it has a
    truth. What is right of a side that holds is not reached. -/
theorem isTyped_or_of_valueIn {left right : Expr}
    (exact : ∀ holds, typing.reached left holds = true →
      left.truthIn (typing.scope record) = .ok holds)
    (given : (binary .or left right).valueIn (typing.scope record) = .ok value)
    (leftTyped : ∀ holds, left.truthIn (typing.scope record) = .ok holds →
      left.isTypedCondition typing = true)
    (rightTyped : ∀ holds, right.truthIn (typing.scope record) = .ok holds →
      right.isTypedCondition typing = true) :
    (binary .or left right).isTyped typing = true := by
  rw [isTyped, Bool.and_eq_true, Bool.or_eq_true]
  rcases valueIn_or.mp given with ⟨succeeds, -⟩ | ⟨fails, holds, truth, -⟩
  · refine ⟨leftTyped true succeeds, .inl ?_⟩
    simpa [succeeds] using exact false
  · exact ⟨leftTyped false fails, .inr (rightTyped holds truth)⟩

/-- Where values are exactly of their types and nothing counts but what evaluation reaches, an
    expression that has a value is typed.

    Proof: induction on the expression, against the order of evaluation: if a node has a value, then
    the operands that it evaluates have one and go with it, and as values are exactly of their
    types, so do the types. -/
theorem isTyped_of_valueIn (reads : expr.Reads typing record False)
    (exact : ∀ left holds, typing.reached left holds = true →
      left.truthIn (typing.scope record) = .ok holds)
    (evaluated : ∃ value, expr.valueIn (typing.scope record) = .ok value) :
    expr.isTyped typing = true := by
  obtain ⟨value, given⟩ := evaluated
  induction expr generalizing value with
  | parameter q => exact absurd given (not_valueIn_parameter q)
  | member target m inductionHypothesis =>
    rw [isTyped, Bool.or_eq_true, Bool.and_eq_true]
    rcases valueIn_member_iff.mp given with ⟨other, isOther, -⟩ | ⟨isSelf, inner⟩
    · exact .inl (eval_eq_record.mp isOther).1
    · exact .inr ⟨isSelf, inductionHypothesis reads.of_member value inner⟩
  | constant constant type => rfl
  | not operand inductionHypothesis =>
    obtain ⟨holds, truth, -⟩ := valueIn_not.mp given
    obtain ⟨⟨inner, innerGiven⟩, condition⟩ := isCondition_of_truthIn reads.of_not truth
    exact Bool.and_eq_true_iff.mpr ⟨inductionHypothesis reads.of_not inner innerGiven, condition⟩
  | lift operand inductionHypothesis => exact inductionHypothesis reads.of_lift value given
  | binary operator left right leftHypothesis rightHypothesis =>
    obtain ⟨leftReads, rightReads⟩ := reads.of_binary
    have leftTyped (holds : Bool) (truth : left.truthIn (typing.scope record) = .ok holds) :
        left.isTypedCondition typing = true := by
      obtain ⟨⟨inner, innerGiven⟩, condition⟩ := isCondition_of_truthIn leftReads truth
      exact Bool.and_eq_true_iff.mpr ⟨leftHypothesis leftReads inner innerGiven, condition⟩
    have rightTyped (holds : Bool) (truth : right.truthIn (typing.scope record) = .ok holds) :
        right.isTypedCondition typing = true := by
      obtain ⟨⟨inner, innerGiven⟩, condition⟩ := isCondition_of_truthIn rightReads truth
      exact Bool.and_eq_true_iff.mpr ⟨rightHypothesis rightReads inner innerGiven, condition⟩
    cases operator with
    | relation relation =>
      obtain ⟨leftValue, rightValue, leftGiven, rightGiven, compares, -⟩ :=
        valueIn_relation.mp given
      rw [Value.comparable_eq, type_of_valueIn leftReads leftGiven,
        type_of_valueIn rightReads rightGiven] at compares
      rw [isTyped, Bool.and_eq_true, Bool.and_eq_true]
      exact ⟨⟨leftHypothesis leftReads leftValue leftGiven,
        rightHypothesis rightReads rightValue rightGiven⟩, compares⟩
    | and => exact isTyped_and_of_valueIn (exact left) given leftTyped rightTyped
    | or => exact isTyped_or_of_valueIn (exact left) given leftTyped rightTyped
  | call method arguments inductionHypothesis =>
    obtain ⟨counted, values, valuesGiven, called⟩ := valueIn_call.mp given
    have each := mapM_succeeds_iff.mp ⟨values, mapM_eq_ok.mpr valuesGiven⟩
    have types : values.map Value.type? = arguments.map (valueType? typing) := by
      rw [← List.forall₂_eq_eq_eq, List.forall₂_map_left_iff]
      exact (stand_of_valuesIn reads.of_call valuesGiven).imp
        fun _ _ stands => stands.resolve_right And.right
    have takes :=
      (Value.exists_callMethod (valuesGiven.length_eq.symm.trans counted)).mp ⟨value, called⟩
    rw [isTyped, Bool.and_eq_true, Bool.and_eq_true, areTyped_iff, ← types]
    refine ⟨⟨decide_eq_true counted, fun argument member => ?_⟩, takes⟩
    obtain ⟨inner, innerGiven⟩ := each argument member
    exact inductionHypothesis argument member (reads.of_call argument member) inner innerGiven

/-- A typed condition has a truth, whatever the record reads. -/
theorem truthIn_of_isTypedCondition (reads : expr.Reads typing record nulls)
    (follows : ∀ left holds, left.truthIn (typing.scope record) = .ok holds →
      typing.reached left holds = true) (typed : expr.isTypedCondition typing = true) :
    ∃ holds, expr.truthIn (typing.scope record) = .ok holds := by
  obtain ⟨isTyped, condition⟩ := Bool.and_eq_true_iff.mp typed
  exact truthIn_of_isCondition reads (valueIn_of_isTyped reads follows isTyped) condition

end Expr

namespace Typing

variable {p : Parameter} {record : Record} {expr : Expr}

/-- An expression has a truth exactly when it is a typed condition by what the record reads, as far
    as evaluation reaches it. The typing is made from the record itself, so both directions of the
    induction above apply to it. -/
theorem exists_truthIn_iff (readable : ∀ target m, .member target m ∈ expr.parts →
      target.isRecord p = true → ∃ value, m.read? record = some value) :
    (∃ holds, expr.truthIn [(p.id, .record record)] = .ok holds) ↔
      expr.isTypedCondition (ofRecord p record) = true := by
  have reads : expr.Reads (ofRecord p record) record False := by
    intro target m occurs isRecord
    obtain ⟨value, read⟩ := readable target m occurs isRecord
    exact ⟨value, read, .inl (by simp [ofRecord, read])⟩
  constructor
  · rintro ⟨holds, truth⟩
    obtain ⟨evaluated, condition⟩ := Expr.isCondition_of_truthIn reads truth
    have typed := Expr.isTyped_of_valueIn reads (fun _ _ => reached_ofRecord.mp) evaluated
    exact Bool.and_eq_true_iff.mpr ⟨typed, condition⟩
  · exact Expr.truthIn_of_isTypedCondition reads fun _ _ => reached_ofRecord.mpr

end Typing

end RecordQuery
