import RecordQuery.Proofs.Lambda.Composition

/-!
# Lambdas applied within lambdas

The body of a unary lambda stands for a call of it wherever something that stands for the argument
takes the place of its parameter. So an argument that goes through a converter first is one whose
value is exchanged before the call. The converter is put in the place of the argument's parameter,
which occurs in the converter's body as well, and is not replaced there a second time; the other
arguments stay as they are even where the converter has a parameter of the lambda for its own.
-/

namespace RecordQuery.Lambda

variable {lambda converter result : Lambda} {own : Parameter} {replacement : Expr}
  {scope : Scope} {arguments : List Operand} {argument value : Operand}

section Applied

/-- The body of a unary lambda stands for its call if what takes the place of the parameter stands
    for the argument. A call binds nothing besides, so what else the body reads is to be unbound. -/
theorem eval_applied (unary : lambda.parameters = [own])
    (stands : replacement.eval scope = .ok argument)
    (unbound : ∀ p, .parameter p ∈ lambda.body.parts → p.id ≠ own.id → scope.find? p.id = none) :
    (lambda.body.substitute (.single own.id replacement)).eval scope = lambda.call [argument] := by
  rw [call_unary unary]
  refine Expr.eval_substitute _ fun p occurs => ?_
  rw [Substitution.single_apply, Expr.eval]
  by_cases same : p.id = own.id
  · rw [if_pos same, Option.getD_some, stands]
    simp [Scope.find?, same]
  · rw [if_neg same, Option.getD_none, Expr.eval, unbound p occurs same]
    simp [Scope.find?, Ne.symm same]

/-- The body of a closed unary lambda reads nothing else, whatever is bound. -/
theorem Closed.eval_applied (closed : lambda.Closed) (unary : lambda.parameters = [own])
    (stands : replacement.eval scope = .ok argument) :
    (lambda.body.substitute (.single own.id replacement)).eval scope = lambda.call [argument] :=
  Lambda.eval_applied unary stands fun p occurs other =>
    absurd (by simpa [unary] using closed.id_mem occurs) other

end Applied

section Converted

variable {position : Nat}

/-- A converted argument is converted before the call. Of a lambda with distinct parameters and a
    unary converter that reads nothing but its own parameter, which may be one of the lambda, the
    result gives for all arguments, value or error, what the lambda gives for them with the one at
    the position exchanged for what the converter makes of it.

    Proof: the body is evaluated with the converter in the place of the parameter. The converter's
    body stands for its call, since nothing that it reads is bound otherwise, and the other
    parameters have the arguments that they had. -/
theorem call_of_converted (distinct : (lambda.parameters.map Parameter.id).Nodup)
    (closed : converter.Closed) (made : lambda.convertArgument position converter = .ok result)
    (given : arguments[position]? = some argument)
    (converted : converter.call [argument] = .ok value) :
    result.call arguments = lambda.call (arguments.set position value) := by
  obtain ⟨input, target, single, located, -, -, rfl⟩ := convertArgument_eq_ok.mp made
  have sameArity (body : Expr) : arity ⟨lambda.parameters, body⟩ = lambda.arity := rfl
  have sameLength : (arguments.set position value).length = arguments.length := List.length_set
  by_cases counted : arguments.length = lambda.arity
  · have before := find?_bind_position distinct counted located given
    have after : (bind lambda.parameters (arguments.set position value)).find? target.id =
        some value :=
      find?_bind_position distinct (sameLength.trans counted) located <| by
        rw [List.getElem?_set_self (List.getElem?_eq_some_iff.mp given).1]
    rw [call_of_counted (counted.trans (sameArity _).symm),
      call_of_counted (sameLength.trans counted)]
    refine Expr.eval_substitute _ fun p occurs => ?_
    rw [Substitution.single_apply]
    by_cases same : p.id = target.id
    · -- The converter reads the argument as it was given.
      have stands : (Expr.parameter target).eval (bind lambda.parameters arguments) =
          .ok argument := by rw [Expr.eval, before]
      rw [if_pos same, Option.getD_some, closed.eval_applied single stands, converted, Expr.eval,
        same, after]
    · rw [if_neg same, Option.getD_none, Expr.eval, Expr.eval, find?_bind_set located same]
  · rw [call_of_miscounted (counted <| ·.trans (sameArity _)),
      call_of_miscounted (sameLength ▸ counted), sameLength, sameArity]

/-- The first argument is negated by a converter over the parameter of the second, which stays. The
    lambda fails on the exchanged argument, and the result fails in the same way. -/
theorem call_of_converted_sharing :
    let a : Parameter := ⟨0, "a", .bool⟩
    let b : Parameter := ⟨1, "b", .bool⟩
    let less : Lambda := ⟨[a, b], .binary (.relation .lt) (.parameter a) (.parameter b)⟩
    let opposite : Lambda := ⟨[b], .not (.parameter b)⟩
    let truth (holds : Bool) : Operand := .value (.bool holds)
    (less.parameters.map Parameter.id).Nodup ∧ opposite.Closed ∧
      opposite.call [truth true] = .ok (truth false) ∧
      ∃ result, less.convertArgument 0 opposite = .ok result ∧
        result.toText = "|a, b| (!a < b)" ∧
        result.call [truth true, truth true] = .ok (truth true) ∧
        result.call [truth true, .value (.text "x")] =
          .error (.incomparable (.bool false) (.text "x")) := by
  intro a b less opposite truth
  have distinct : (less.parameters.map Parameter.id).Nodup := by decide
  have closed : opposite.Closed := by
    intro id occurs
    simp only [opposite, Expr.references, beq_iff_eq] at occurs
    exact occurs ▸ List.mem_cons_self
  have converted : opposite.call [truth true] = .ok (truth false) := rfl
  have exchanged (other : Operand) := call_of_converted distinct closed
    (show less.convertArgument 0 opposite = .ok _ from rfl)
    (show [truth true, other][0]? = some (truth true) from rfl) converted
  exact ⟨distinct, closed, converted, _, rfl, by decide, (exchanged _).trans rfl,
    (exchanged _).trans rfl⟩

end Converted

end RecordQuery.Lambda
