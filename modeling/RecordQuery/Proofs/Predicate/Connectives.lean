import RecordQuery.Predicate
import RecordQuery.Proofs.Expr.Evaluation
import RecordQuery.Proofs.Expr.Substitution

/-!
# Connectives of predicates

Two predicates meet over the parameter of the first. A closed predicate reads no parameter but its
own, so that it says of a record what it said before its parameter was replaced. A conjunction then
evaluates its second predicate only where the first holds, a disjunction only where it fails, and a
negation turns every outcome around; all of them fail where a predicate that they evaluate does.
-/

namespace RecordQuery

namespace Expr

variable {scope : Scope} {holds : Bool}

/-- An expression whose values are truth values has the truth that it has as a value. Conditions are
    of this kind, while a nullable column is not: its null has the truth false. -/
theorem truthIn_iff_valueIn {expr : Expr}
    (isTruth : ∀ value, expr.valueIn scope = .ok value → ∃ holds, value = .bool holds) :
    expr.truthIn scope = .ok holds ↔ expr.valueIn scope = .ok (.bool holds) := by
  refine ⟨fun truth => ?_, truthIn_of_valueIn⟩
  obtain ⟨value, evaluated, same⟩ := truthIn_eq_ok.mp truth
  obtain ⟨other, rfl⟩ := isTruth value evaluated
  cases same
  exact evaluated

/-- A conjunction fails on the left, or leaves its truth to the right. The right side need not have
    a truth where the left side decides. -/
theorem truthIn_and {left right : Expr} :
    (binary .and left right).truthIn scope = .ok holds ↔
      (left.truthIn scope = .ok false ∧ holds = false) ∨
      (left.truthIn scope = .ok true ∧ right.truthIn scope = .ok holds) := by
  rw [truthIn_and_eq]
  cases left.truthIn scope with
  | error cause => simp [bind, Except.bind]
  | ok first => cases first <;> simp [bind, Except.bind, pure, Except.pure, eq_comm]

/-- A disjunction holds on the left, or leaves its truth to the right. The right side need not have
    a truth where the left side decides. -/
theorem truthIn_or {left right : Expr} :
    (binary .or left right).truthIn scope = .ok holds ↔
      (left.truthIn scope = .ok true ∧ holds = true) ∨
      (left.truthIn scope = .ok false ∧ right.truthIn scope = .ok holds) := by
  rw [truthIn_or_eq]
  cases left.truthIn scope with
  | error cause => simp [bind, Except.bind]
  | ok first => cases first <;> simp [bind, Except.bind, pure, Except.pure, eq_comm]

/-- A negation has the opposite truth of its operand. Null is false and its negation true, so this
    holds of nulls too. -/
theorem truthIn_not {operand : Expr} :
    (not operand).truthIn scope = .ok holds ↔ operand.truthIn scope = .ok !holds := by
  rw [truthIn_iff_valueIn]
  · rw [valueIn_not]
    constructor
    · rintro ⟨inner, truth, same⟩
      cases same
      rwa [Bool.not_not]
    · exact fun truth => ⟨!holds, truth, by rw [Bool.not_not]⟩
  · intro value evaluated
    obtain ⟨inner, -, rfl⟩ := valueIn_not.mp evaluated
    exact ⟨_, rfl⟩

end Expr

namespace Predicate

variable {first second predicate : Predicate} {record : Record} {holds : Bool}

/-- A closed predicate reads no parameter but its own. -/
def Closed (predicate : Predicate) : Prop :=
  ∀ p, .parameter p ∈ predicate.body.parts → p = predicate.parameter

/-- A predicate has the truth of its body with the record bound to its parameter. -/
theorem evaluate_eq_truthIn (predicate : Predicate) (record : Record) :
    predicate.evaluate record =
      predicate.body.truthIn [(predicate.parameter.id, .record record)] :=
  Lambda.test_unary rfl record

/-- A record satisfies a predicate when this evaluates to true. -/
theorem isSatisfiedBy_iff : predicate.isSatisfiedBy record = true ↔
    predicate.evaluate record = .ok true := by
  unfold isSatisfiedBy
  cases predicate.evaluate record <;> simp

/-- A closed predicate says of a record over another parameter what it says over its own. A
    predicate that reads other parameters would read them over the new scope. -/
theorem truthIn_rebound (closed : predicate.Closed) (target : Parameter) (record : Record) :
    (predicate.body.substitute (.single predicate.parameter.id (.parameter target))).truthIn
        [(target.id, .record record)] = predicate.evaluate record := by
  have same : (predicate.body.substitute
      (.single predicate.parameter.id (.parameter target))).eval [(target.id, .record record)] =
      predicate.body.eval [(predicate.parameter.id, .record record)] := by
    refine Expr.eval_substitute predicate.body fun p occurs => ?_
    obtain rfl := closed p occurs
    simp [Substitution.single, Substitution.extend, Expr.eval, Scope.find?]
  rw [evaluate_eq_truthIn, Expr.truthIn, Expr.truthIn, same]

/-- A conjunction evaluates its second predicate where the first holds. -/
theorem evaluate_and (closed : second.Closed) : (first.and second).evaluate record = .ok holds ↔
    (first.evaluate record = .ok false ∧ holds = false) ∨
      (first.evaluate record = .ok true ∧ second.evaluate record = .ok holds) := by
  rw [evaluate_eq_truthIn, evaluate_eq_truthIn first,
    ← truthIn_rebound closed first.parameter record]
  exact Expr.truthIn_and

/-- A disjunction evaluates its second predicate where the first fails. -/
theorem evaluate_or (closed : second.Closed) : (first.or second).evaluate record = .ok holds ↔
    (first.evaluate record = .ok true ∧ holds = true) ∨
      (first.evaluate record = .ok false ∧ second.evaluate record = .ok holds) := by
  rw [evaluate_eq_truthIn, evaluate_eq_truthIn first,
    ← truthIn_rebound closed first.parameter record]
  exact Expr.truthIn_or

/-- A negation evaluates to the opposite truth. -/
theorem evaluate_not :
    predicate.not.evaluate record = .ok holds ↔ predicate.evaluate record = .ok !holds := by
  rw [evaluate_eq_truthIn, evaluate_eq_truthIn]
  exact Expr.truthIn_not

/-- A conjunction evaluates exactly when the first predicate does and, where this holds, the second
    does. So a second predicate that fails on some records is safe behind a first that does not hold
    of them. -/
theorem decides_and (closed : second.Closed) :
    (∃ holds, (first.and second).evaluate record = .ok holds) ↔
      (∃ holds, first.evaluate record = .ok holds) ∧
        (first.isSatisfiedBy record = true → ∃ holds, second.evaluate record = .ok holds) := by
  simp only [isSatisfiedBy_iff]
  constructor
  · rintro ⟨holds, evaluated⟩
    rcases (evaluate_and closed).mp evaluated with ⟨fails, -⟩ | ⟨succeeds, other⟩
    · refine ⟨⟨false, fails⟩, fun succeeds => ?_⟩
      rw [fails] at succeeds
      cases succeeds
    · exact ⟨⟨true, succeeds⟩, fun _ => ⟨holds, other⟩⟩
  · rintro ⟨⟨_ | _, evaluated⟩, decided⟩
    · exact ⟨false, (evaluate_and closed).mpr (.inl ⟨evaluated, rfl⟩)⟩
    · obtain ⟨holds, other⟩ := decided evaluated
      exact ⟨holds, (evaluate_and closed).mpr (.inr ⟨evaluated, other⟩)⟩

/-- A record satisfies a conjunction when it satisfies both predicates. -/
theorem isSatisfiedBy_and (closed : second.Closed) : (first.and second).isSatisfiedBy record =
    (first.isSatisfiedBy record && second.isSatisfiedBy record) := by
  rw [Bool.eq_iff_iff, Bool.and_eq_true, isSatisfiedBy_iff, isSatisfiedBy_iff, isSatisfiedBy_iff,
    evaluate_and closed]
  simp

end Predicate

end RecordQuery
