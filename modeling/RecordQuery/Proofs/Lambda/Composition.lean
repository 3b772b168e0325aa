import RecordQuery.Proofs.Expr.Renaming
import RecordQuery.Proofs.Expr.Scope
import RecordQuery.Proofs.Lambda.WellFormed

/-!
# Composition of lambdas

Composition replaces the parameter of the outer lambda by the body of the inner one, wherever it
occurs. Where the inner lambda has a value, every copy of its body has it, so the composite does
what the outer lambda does with this value. Where the inner lambda fails, evaluation of the
composite either meets a copy of its body and fails with the same error, or meets none; then the
outer lambda does not look at its argument.

Composition is associative. The type of a composite is worked out from its own body and may have
lost the null of the lambda applied last, but what was expected of this lambda still fits.
-/

namespace RecordQuery

/-- Whether an outcome is a given error, or what comes out in every scope. -/
def FailsOrIgnores {α : Type} (cause : EvaluationError) (within : Scope → Except EvaluationError α)
    (outcome : Except EvaluationError α) : Prop :=
  outcome = .error cause ∨ ∀ scope, within scope = outcome

namespace FailsOrIgnores

variable {α β : Type} {cause : EvaluationError}

/-- What looks at no scope comes out the same in all of them. -/
theorem fixed (outcome : Except EvaluationError α) :
    FailsOrIgnores cause (fun _ => outcome) outcome :=
  .inr fun _ => rfl

/-- Two steps in a row fail or ignore the scope if the first does and the second does on every
    value. The second step may depend on the value of the first, so it is asked about all of
    them. -/
theorem chain {within : Scope → Except EvaluationError α} {outcome : Except EvaluationError α}
    {next : Scope → α → Except EvaluationError β} {rest : α → Except EvaluationError β}
    (first : FailsOrIgnores cause within outcome)
    (second : ∀ value, FailsOrIgnores cause (fun scope => next scope value) (rest value)) :
    FailsOrIgnores cause (fun scope => within scope >>= next scope) (outcome >>= rest) := by
  rcases first with rfl | same
  · exact .inl rfl
  · cases outcome with
    | error other => exact .inr fun scope => congrArg (· >>= next scope) (same scope)
    | ok value =>
      exact (second value).imp id fun sameNext scope =>
        (congrArg (· >>= next scope) (same scope)).trans (sameNext scope)

end FailsOrIgnores

namespace Expr

variable {substitution : Substitution} {outer : Scope} {cause : EvaluationError}

/-- Arguments of which each fails with a given error or ignores the scope do so as a list. Arguments
    are evaluated one after the other, so the list is a chain of such steps. -/
theorem evalAll_failsOrIgnores {arguments : List Expr}
    (each : ∀ argument ∈ arguments, FailsOrIgnores cause (fun scope => argument.eval scope)
      ((argument.substitute substitution).eval outer)) :
    FailsOrIgnores cause (fun scope => evalAll scope arguments)
      (evalAll outer (substituteAll substitution arguments)) := by
  induction arguments with
  | nil => exact .fixed _
  | cons argument rest inductionHypothesis =>
    have others := inductionHypothesis fun other member =>
      each other (List.mem_cons_of_mem argument member)
    simp only [substituteAll, evalAll]
    refine (each argument List.mem_cons_self).chain fun operand => ?_
    refine (FailsOrIgnores.fixed operand.toValue).chain fun value => ?_
    exact others.chain fun values => .fixed _

/-- If all that takes the place of its parameters fails with one error, an expression fails with it
    as well, or it comes out as it does in every scope, because evaluation meets no parameter. Both
    happen: a connective may be decided before its parameter is met.

    Proof: induction on the expression. Every node is a chain of evaluations of its operands, and
    what it does with their values ignores the scope. -/
theorem eval_failsOrIgnores (expr : Expr)
    (fails : ∀ p, parameter p ∈ expr.parts →
      ((substitution p.id).getD (parameter p)).eval outer = .error cause) :
    FailsOrIgnores cause (fun scope => expr.eval scope)
      ((expr.substitute substitution).eval outer) := by
  induction expr with
  | parameter p => exact .inl (fails p (self_mem_parts _))
  | member target m inductionHypothesis =>
    have operand := inductionHypothesis fun p occurs => fails p (by simp [parts, occurs])
    simp only [substitute, eval]
    exact operand.chain fun read => .fixed _
  | constant value type => exact .fixed _
  | not operand inductionHypothesis =>
    have inner := inductionHypothesis fun p occurs => fails p (by simp [parts, occurs])
    simp only [substitute, eval]
    exact inner.chain fun found => .fixed _
  | lift operand inductionHypothesis =>
    simp only [substitute, eval]
    exact inductionHypothesis fun p occurs => fails p (by simp [parts, occurs])
  | binary operator left right leftHypothesis rightHypothesis =>
    have first := leftHypothesis fun p occurs => fails p (by simp [parts, occurs])
    have second := rightHypothesis fun p occurs => fails p (by simp [parts, occurs])
    cases operator with
    | relation relation =>
      simp only [substitute, eval]
      refine first.chain fun found => (FailsOrIgnores.fixed found.toValue).chain fun value => ?_
      exact second.chain fun other => .fixed _
    | and =>
      simp only [substitute, eval]
      refine first.chain fun found => (FailsOrIgnores.fixed found.truth).chain fun holds => ?_
      cases holds with
      | false => exact .fixed _
      | true => exact second.chain fun other => .fixed _
    | or =>
      simp only [substitute, eval]
      refine first.chain fun found => (FailsOrIgnores.fixed found.truth).chain fun holds => ?_
      cases holds with
      | true => exact .fixed _
      | false => exact second.chain fun other => .fixed _
  | call method arguments inductionHypothesis =>
    have all := evalAll_failsOrIgnores fun argument member =>
      inductionHypothesis argument member fun p occurs => fails p
        (List.mem_cons_of_mem _ (parts_subset_partsOfAll member occurs))
    simp only [substitute, eval, length_substituteAll]
    split
    · exact all.chain fun values => .fixed _
    · exact .fixed _

end Expr

namespace Lambda

variable {lambda inner outer result : Lambda} {p : Parameter}

/-- A lambda of one parameter has the value of its body with the argument bound. -/
theorem call_unary (unary : lambda.parameters = [p]) (argument : Operand) :
    lambda.call [argument] = lambda.body.eval [(p.id, argument)] := by
  rw [call_of_counted (by simp [arity, unary]), unary]
  rfl

/-- Composition of lambdas is composition of functions. The composite of two unary lambdas, of which
    the outer one reads nothing but its own parameter, gives for an argument what the outer lambda
    gives for the value of the inner one. Where the inner lambda fails, the composite fails with the
    same error or has the outcome that the outer lambda has for every argument.

    Proof: where the inner lambda has a value, the outer body with the inner one in it is evaluated
    as with this value bound. Where it fails, evaluation of the outer body either meets its
    parameter, and fails with this error, or does not, and is the same for every argument. -/
theorem call_of_composed (made : inner.compose outer = .ok result) (closed : outer.Closed)
    (argument : Operand) :
    match inner.call [argument] with
    | .ok value => result.call [argument] = outer.call [value]
    | .error cause => result.call [argument] = .error cause ∨
        ∀ other, outer.call [other] = result.call [argument] := by
  obtain ⟨own, target, single, outerSingle, -, composed⟩ := compose_eq_ok.mp made
  have resultSingle : result.parameters = [own] := by rw [composed, single]
  have sameId (p : Parameter) (occurs : .parameter p ∈ outer.body.parts) : p.id = target.id := by
    simpa [outerSingle] using closed.id_mem occurs
  have copied (p : Parameter) (occurs : .parameter p ∈ outer.body.parts) :
      (Substitution.single target.id inner.body p.id).getD (.parameter p) = inner.body := by
    rw [Substitution.single_apply, if_pos (sameId p occurs), Option.getD_some]
  rw [call_unary single, call_unary resultSingle, composed]
  cases evaluated : inner.body.eval [(own.id, argument)] with
  | ok value =>
    dsimp only
    rw [call_unary outerSingle]
    refine Expr.eval_substitute _ fun p occurs => ?_
    rw [copied p occurs, evaluated, Expr.eval, sameId p occurs]
    simp [Scope.find?]
  | error cause =>
    refine (Expr.eval_failsOrIgnores outer.body fun p occurs => ?_).imp id fun same other => ?_
    · rw [copied p occurs, evaluated]
    · rw [call_unary outerSingle]
      exact same _

/-- Two lambdas over one parameter compose. What the inner one cannot negate, the composite cannot
    negate either. -/
theorem call_of_composed_negations :
    let p : Parameter := ⟨0, "p", .bool⟩
    let inner : Lambda := ⟨[p], .not (.parameter p)⟩
    let outer : Lambda := ⟨[p], .binary .or (.parameter p) (.not (.parameter p))⟩
    outer.Closed ∧ ∃ result, inner.compose outer = .ok result ∧
      result.toText = "|p| (!p || !!p)" ∧
      result.call [.value (.bool true)] = outer.call [.value (.bool false)] ∧
      result.call [.value (.text "x")] = .error (.notNegatable (.text "x")) := by
  intro p inner outer
  have closed : outer.Closed := by
    intro id occurs
    simp only [outer, p, Expr.references, Bool.or_eq_true, beq_iff_eq] at occurs
    rcases occurs with rfl | rfl <;> decide
  refine ⟨closed, _, rfl, by decide, ?_, ?_⟩
  · exact call_of_composed (show inner.compose outer = .ok _ from rfl) closed (.value (.bool true))
  · rcases call_of_composed (show inner.compose outer = .ok _ from rfl) closed
      (.value (.text "x")) with failed | ignores
    · exact failed
    · -- The outer lambda tells a truth value from a text.
      cases (ignores (.value (.bool true))).trans (ignores (.value (.text "x"))).symm

section Associativity

variable {middle front back : Lambda} {own target : Parameter} {replacement : Expr}

/-- What expects the result of a unary lambda also takes it where its parameter is replaced by
    something that fits. Types are computed from the leaves, so the type of the result may become
    narrower but not wider. -/
theorem WellFormed.accepts_replaced (formed : lambda.WellFormed) (unary : lambda.parameters = [own])
    (fits : own.type.accepts replacement.type = true) :
    lambda.type.accepts (lambda.body.substitute (.single own.id replacement)).type = true := by
  refine Expr.accepts_substitute _ fun p occurs => ?_
  have known := formed.closed p occurs
  rw [unary, List.mem_singleton] at known
  rw [known, Substitution.single_apply, if_pos rfl, Option.getD_some]
  exact fits

/-- Replacing parameters in what took the place of the only parameter is replacing them first. The
    body reads no other parameter, so the outer replacement finds nothing else to replace. -/
theorem Closed.substitute_replaced (closed : outer.Closed) (unary : outer.parameters = [target])
    (substitution : Substitution) :
    (outer.body.substitute (.single target.id replacement)).substitute substitution =
      outer.body.substitute (.single target.id (replacement.substitute substitution)) := by
  refine Expr.substitute_substitute _ fun p occurs => ?_
  have own : p.id = target.id := by simpa [unary] using closed.id_mem occurs
  rw [Substitution.single_apply, Substitution.single_apply, if_pos own, if_pos own,
    Option.getD_some, Option.getD_some]

/-- Composition is associative. Of three unary lambdas, of which the second and the third read
    nothing but their own parameter, let each compose with the next. Then the composite of the first
    two composes with the third, the first composes with the composite of the other two, and both
    give the same lambda, node for node.

    Proof: the types are the point, as the type of a composite is computed from its leaves and may
    be narrower than that of its outer part. What fits the wider type fits this one too, and the
    bodies are the same since replacing twice is replacing once. -/
theorem compose_associative (formed : middle.WellFormed) (closed : outer.Closed)
    (begun : inner.compose middle = .ok front) (ended : middle.compose outer = .ok back) :
    ∃ whole, front.compose outer = .ok whole ∧ inner.compose back = .ok whole := by
  obtain ⟨own, between, single, middleSingle, fits, rfl⟩ := compose_eq_ok.mp begun
  obtain ⟨_, target, same, outerSingle, outerFits, rfl⟩ := compose_eq_ok.mp ended
  obtain rfl := List.singleton_inj.mp (middleSingle.symm.trans same)
  have narrower := formed.accepts_replaced middleSingle fits
  refine ⟨_, compose_eq_ok.mpr ⟨own, target, single, outerSingle, ?_, rfl⟩,
    compose_eq_ok.mpr ⟨own, between, single, middleSingle, fits, ?_⟩⟩
  · exact DataType.accepts_trans outerFits narrower
  · rw [closed.substitute_replaced outerSingle]

/-- The months of a date that may be missing may be missing, those of a date may not. The third
    lambda expects months that may be missing and takes the others as well. -/
theorem compose_associative_narrowed :
    let day : Parameter := ⟨0, "day", .date⟩
    let date : Parameter := ⟨1, "date", .nullable .date⟩
    let months : Parameter := ⟨2, "months", .nullable (.number (.integer .i32))⟩
    let inner : Lambda := ⟨[day], .parameter day⟩
    let middle : Lambda := ⟨[date], .call .month [.parameter date]⟩
    let outer : Lambda :=
      ⟨[months], .binary (.relation .eq) (.parameter months) (.constant .null months.type)⟩
    middle.WellFormed ∧ outer.Closed ∧ ∃ front back whole,
      inner.compose middle = .ok front ∧ middle.compose outer = .ok back ∧
        middle.type.isNullable = true ∧ front.type.isNullable = false ∧
        front.compose outer = .ok whole ∧ inner.compose back = .ok whole ∧
        whole.toText = "|day| (day.month() == null)" := by
  intro day date months inner middle outer
  have formed : middle.WellFormed := ⟨by decide, by simp [middle, Expr.parts, Expr.partsOfAll]⟩
  have closed : outer.Closed := by
    intro id occurs
    simp only [outer, Expr.references, Bool.or_false, beq_iff_eq] at occurs
    exact occurs ▸ List.mem_cons_self
  have begun : inner.compose middle = .ok ⟨[day], .call .month [.parameter day]⟩ := rfl
  have ended : middle.compose outer = .ok ⟨[date], .binary (.relation .eq)
    (.call .month [.parameter date]) (.constant .null months.type)⟩ := rfl
  obtain ⟨whole, left, right⟩ := compose_associative formed closed begun ended
  obtain rfl : ⟨[day], .binary (.relation .eq) (.call .month [.parameter day])
    (.constant .null months.type)⟩ = whole := Except.ok.inj left
  exact ⟨formed, closed, _, _, _, begun, ended, rfl, rfl, left, right, by decide⟩

end Associativity

end Lambda

end RecordQuery
