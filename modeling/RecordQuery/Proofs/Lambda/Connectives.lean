import RecordQuery.Proofs.Expr.Scope
import RecordQuery.Proofs.Lambda.WellFormed
import RecordQuery.Proofs.Predicate.Connectives

/-!
# Connectives of lambdas

Two lambdas meet over the parameters of the first, each parameter of the second replaced by the one
at its position, all at once. A conjunction then calls the second lambda where the first holds, a
disjunction where it fails, with the same arguments and the same errors. A negation turns the truth
of a call around and fails where the call does. This holds for lambdas that share parameters too.
-/

namespace RecordQuery

namespace Lambda

variable {lambda first second both either opposite : Lambda} {arguments : List Operand}

/-- A test with as many arguments as parameters has the truth of the body with them bound. -/
theorem test_of_counted (counted : arguments.length = lambda.arity) :
    lambda.test arguments = lambda.body.truthIn (bind lambda.parameters arguments) := by
  rw [test, call_of_counted counted, Expr.truthIn]

/-- A test with another number of arguments fails, whatever the body is. -/
theorem test_of_miscounted (miscounted : arguments.length ≠ lambda.arity) :
    lambda.test arguments = .error (.arity lambda.arity arguments.length) := by
  rw [test, call_of_miscounted miscounted]
  rfl

/-- The body of a closed lambda, taken over to distinct parameters by position, stands for what it
    stood for over its own. The two lists may share parameters in another order, since all of them
    are replaced at once. -/
theorem Closed.eval_rebound (closed : lambda.Closed) {targets : List Parameter}
    (distinct : (targets.map Parameter.id).Nodup) (counted : arguments.length = lambda.arity)
    (matched : arguments.length = targets.length) :
    (lambda.body.substitute (.positional lambda.parameters targets)).eval (bind targets arguments) =
      lambda.body.eval (bind lambda.parameters arguments) := by
  refine Expr.eval_substitute _ fun p occurs => ?_
  have bound : (bind lambda.parameters arguments).find? p.id ≠ none := by
    rw [Ne, Scope.find?_eq_none, ids_bind counted, not_not]
    exact closed.id_mem occurs
  have related := Scope.rel_find? (forall₂_eval_bind distinct matched)
    (lambda.parameters.map Parameter.id) p.id
  rw [Expr.eval]
  unfold bind at bound ⊢
  rw [Substitution.positional]
  generalize Scope.find? _ p.id = operand at bound related ⊢
  generalize Substitution.ofPairs _ p.id = replacement at related ⊢
  cases related with
  | some stands => exact stands
  | none => exact absurd rfl bound

/-- A merged lambda tests its second body as the second lambda tests the same arguments. Outside of
    the first lambda's parameters nothing is bound, and the second reads nothing else. -/
theorem truthIn_rebound (distinct : (first.parameters.map Parameter.id).Nodup)
    (closed : second.Closed) (sameArity : first.arity = second.arity)
    (counted : arguments.length = first.arity) :
    (second.body.substitute (.positional second.parameters first.parameters)).truthIn
        (bind first.parameters arguments) = second.test arguments := by
  have supplied : arguments.length = second.arity := counted.trans sameArity
  rw [test_of_counted supplied, Expr.truthIn, Expr.truthIn,
    closed.eval_rebound distinct supplied counted]

/-- A conjunction tests the second lambda where the first holds. A wrong number of arguments is
    refused by the first lambda, and by the conjunction in the same words. -/
theorem test_and (distinct : (first.parameters.map Parameter.id).Nodup) (closed : second.Closed)
    (made : first.and second = .ok both) (arguments : List Operand) :
    both.test arguments = (do
      if ← first.test arguments then second.test arguments else return false) := by
  obtain ⟨-, -, sameArity, -, rfl⟩ := combined_eq_ok.mp made
  have merged : (merge .and first second).arity = first.arity := rfl
  by_cases counted : arguments.length = first.arity
  · rw [test_of_counted (counted.trans merged.symm), test_of_counted counted, merge,
      Expr.truthIn_and_eq, truthIn_rebound distinct closed sameArity counted]
  · rw [test_of_miscounted (merged ▸ counted), test_of_miscounted counted]
    rfl

/-- A disjunction tests the second lambda where the first fails to hold. As for conjunctions, the
    number of arguments decides first. -/
theorem test_or (distinct : (first.parameters.map Parameter.id).Nodup) (closed : second.Closed)
    (made : first.or second = .ok either) (arguments : List Operand) :
    either.test arguments = (do
      if ← first.test arguments then return true else second.test arguments) := by
  obtain ⟨-, -, sameArity, -, rfl⟩ := combined_eq_ok.mp made
  have merged : (merge .or first second).arity = first.arity := rfl
  by_cases counted : arguments.length = first.arity
  · rw [test_of_counted (counted.trans merged.symm), test_of_counted counted, merge,
      Expr.truthIn_or_eq, truthIn_rebound distinct closed sameArity counted]
  · rw [test_of_miscounted (merged ▸ counted), test_of_miscounted counted]
    rfl

/-- A negation holds of the arguments of which the lambda fails to hold, and the other way round.
    Null counts as false, so the negation of a lambda that is null holds. -/
theorem test_not (made : lambda.not = .ok opposite) {holds : Bool} :
    opposite.test arguments = .ok holds ↔ lambda.test arguments = .ok !holds := by
  obtain ⟨-, rfl⟩ := not_eq_ok.mp made
  have negated : arity ⟨lambda.parameters, .not lambda.body⟩ = lambda.arity := rfl
  by_cases counted : arguments.length = lambda.arity
  · rw [test_of_counted (counted.trans negated.symm), test_of_counted counted]
    exact Expr.truthIn_not
  · rw [test_of_miscounted (negated ▸ counted), test_of_miscounted counted]
    simp

/-- Conjunction, disjunction and negation say of every list of arguments what they mean, errors
    included. The first lambda has distinct parameters, which the second may share in any order, and
    the second reads no others than its own.

    Proof: with the right number of arguments, the second body, taken over to the parameters of the
    first, is tested as the second lambda is, and the connective asks for it only where the first
    leaves the truth open. With another number both sides are the same error. -/
theorem test_of_connectives (distinct : (first.parameters.map Parameter.id).Nodup)
    (closed : second.Closed) (arguments : List Operand) :
    (∀ both, first.and second = .ok both → both.test arguments = (do
      if ← first.test arguments then second.test arguments else return false)) ∧
    (∀ either, first.or second = .ok either → either.test arguments = (do
      if ← first.test arguments then return true else second.test arguments)) ∧
    (∀ opposite, first.not = .ok opposite →
      match first.test arguments with
      | .ok holds => opposite.test arguments = .ok !holds
      | .error _ => ∃ cause, opposite.test arguments = .error cause) := by
  refine ⟨fun both made => test_and distinct closed made arguments,
    fun either made => test_or distinct closed made arguments, fun opposite made => ?_⟩
  split
  · rename_i holds tested
    exact (test_not made).mpr (by rw [tested, Bool.not_not])
  · rename_i cause failed
    cases tested : opposite.test arguments with
    | error other => exact ⟨other, rfl⟩
    | ok holds => cases failed.symm.trans ((test_not made).mp tested)

/-- The second lambda lists the parameters of the first the other way round. Each takes the place of
    the other at once, so both comparisons read the first argument on the left. -/
theorem test_of_swapped_parameters :
    let a : Parameter := ⟨0, "a", .text⟩
    let b : Parameter := ⟨1, "b", .text⟩
    let first : Lambda := ⟨[a, b], .binary (.relation .lt) (.parameter a) (.parameter b)⟩
    let second : Lambda := ⟨[b, a], .binary (.relation .gt) (.parameter b) (.parameter a)⟩
    let arguments : List Operand := [.value (.text "x"), .value (.text "y")]
    (first.parameters.map Parameter.id).Nodup ∧ second.Closed ∧
      ∃ both either opposite, first.and second = .ok both ∧ first.or second = .ok either ∧
        first.not = .ok opposite ∧ both.toText = "|a, b| ((a < b) && (a > b))" ∧
        both.test arguments = .ok false ∧ either.test arguments = .ok true ∧
        opposite.test arguments = .ok false := by
  intro a b first second arguments
  have distinct : (first.parameters.map Parameter.id).Nodup := by decide
  have closed : second.Closed := by
    intro id occurs
    simp only [second, a, b, Expr.references, Bool.or_eq_true, beq_iff_eq] at occurs
    rcases occurs with rfl | rfl <;> decide
  obtain ⟨conjunction, disjunction, negation⟩ := test_of_connectives distinct closed arguments
  exact ⟨distinct, closed, _, _, _, rfl, rfl, rfl, by decide, (conjunction _ rfl).trans rfl,
    (disjunction _ rfl).trans rfl, negation _ rfl⟩

end Lambda

end RecordQuery
