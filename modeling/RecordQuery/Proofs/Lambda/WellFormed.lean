import RecordQuery.Projection.Catalog
import RecordQuery.Proofs.Expr.Narrowing
import RecordQuery.Proofs.Lambda.Outcome

/-!
# Well-formed lambdas

A lambda is well-formed when its parameters are distinct and its body reads no others. However
lambdas are made from well-formed ones, they are well-formed again: where two bodies meet, no
parameter of the one that is taken over is left behind. The type of such a lambda is that of the
one that is applied last, apart from whether it admits null, and a truth value if none is.
-/

namespace RecordQuery

namespace Lambda

/-- A lambda is a predicate when its base type is a truth value. -/
theorem isPredicate_iff {lambda : Lambda} :
    lambda.isPredicate = true ↔ lambda.type.base = .bool :=
  beq_iff_eq

/-- A closed lambda reads its own parameters only: no other identity occurs in its body. -/
def Closed (lambda : Lambda) : Prop :=
  ∀ id, lambda.body.references id = true → id ∈ lambda.parameters.map Parameter.id

/-- What a closed lambda reads has the identity of one of its parameters. -/
theorem Closed.id_mem {lambda : Lambda} {p : Parameter} (closed : lambda.Closed)
    (occurs : .parameter p ∈ lambda.body.parts) : p.id ∈ lambda.parameters.map Parameter.id :=
  closed p.id ((Expr.references_iff _).mpr ⟨p, occurs, rfl⟩)

/-- Parameters that differ, by identity, and a body that reads only them. An identity is dealt out
    once, with one name and type, so what the body reads are the parameters themselves. -/
structure WellFormed (lambda : Lambda) : Prop where
  distinct : (lambda.parameters.map Parameter.id).Nodup
  closed : ∀ p, .parameter p ∈ lambda.body.parts → p ∈ lambda.parameters

namespace WellFormed

variable {lambda second : Lambda} {p q own : Parameter} {replacement : Expr}

/-- Two parameters of one identity are the same. -/
theorem eq_of_id (formed : lambda.WellFormed) (first : p ∈ lambda.parameters)
    (other : q ∈ lambda.parameters) (same : p.id = q.id) : p = q :=
  List.inj_on_of_nodup_map formed.distinct first other same

/-- Every identity that occurs in the body is that of a parameter. -/
theorem id_mem_of_references (formed : lambda.WellFormed) {id : Nat}
    (occurs : lambda.body.references id = true) : id ∈ lambda.parameters.map Parameter.id := by
  obtain ⟨p, inBody, rfl⟩ := (Expr.references_iff _).mp occurs
  exact List.mem_map_of_mem (formed.closed p inBody)

/-- Replacing the only parameter leaves the parameters of what takes its place. The body reads no
    other parameter, so nothing else can be left. -/
theorem parameter_of_single (formed : lambda.WellFormed) (unary : lambda.parameters = [own])
    (occurs : .parameter q ∈ (lambda.body.substitute (.single own.id replacement)).parts) :
    .parameter q ∈ replacement.parts := by
  obtain ⟨p, inBody, brought⟩ := (Expr.parameter_mem_substitute _).mp occurs
  have known := formed.closed p inBody
  rw [unary, List.mem_singleton] at known
  subst known
  simpa [Substitution.single_apply] using brought

/-- Replacing one parameter leaves the others and those of what takes its place. The parameter
    itself may be among them, as it may occur in its own replacement. -/
theorem parameter_of_replaced (formed : lambda.WellFormed)
    (occurs : .parameter q ∈ (lambda.body.substitute (.single own.id replacement)).parts) :
    .parameter q ∈ replacement.parts ∨ q ∈ lambda.parameters := by
  obtain ⟨p, inBody, brought⟩ := (Expr.parameter_mem_substitute _).mp occurs
  rw [Substitution.single_apply] at brought
  split at brought
  · exact .inl brought
  · obtain rfl : q = p := by simpa [Expr.parts] using brought
    exact .inr (formed.closed q inBody)

/-- Replacing a parameter by something of its base type keeps the base type of the body. Only base
    types are compared, since a replacement may admit null where the parameter does not. -/
theorem base_of_replaced (formed : lambda.WellFormed) (member : own ∈ lambda.parameters)
    (same : replacement.type.base = own.type.base) :
    (lambda.body.substitute (.single own.id replacement)).type.base = lambda.body.type.base := by
  refine Expr.base_type_substitute _ fun p occurs => ?_
  rw [Substitution.single_apply]
  split
  · rename_i sameId
    rw [formed.eq_of_id (formed.closed p occurs) member sameId]
    exact same
  · rfl

/-- Replacing the parameters of a body by those at the same positions leaves no others. Both lists
    are of one length, so every parameter has one to take its place. -/
theorem parameter_of_positional (formed : second.WellFormed) {targets : List Parameter}
    (counted : targets.length = second.parameters.length)
    (occurs : .parameter q ∈
      (second.body.substitute (.positional second.parameters targets)).parts) : q ∈ targets := by
  obtain ⟨p, inBody, brought⟩ := (Expr.parameter_mem_substitute _).mp occurs
  have known : p.id ∈ second.parameters.map Parameter.id :=
    List.mem_map_of_mem (formed.closed p inBody)
  have replaced : Substitution.positional second.parameters targets p.id ≠ none := by
    rw [Substitution.positional, Ne, Substitution.ofPairs_eq_none, not_not, List.map_fst_zip]
    · exact known
    · simp [counted]
  obtain ⟨target, found⟩ := Option.ne_none_iff_exists'.mp replaced
  rw [found, Option.getD_some] at brought
  obtain ⟨other, member, rfl⟩ :=
    List.mem_map.mp (List.of_mem_zip (Substitution.mem_of_ofPairs found)).2
  obtain rfl : q = other := by simpa [Expr.parts] using brought
  exact member

/-- Merging two lambdas of as many parameters keeps both well-formed. Only the numbers of parameters
    are compared here, and not their types. -/
theorem merge (formed : lambda.WellFormed) (other : second.WellFormed)
    (counted : lambda.arity = second.arity) (operator : Operator) :
    (Lambda.merge operator lambda second).WellFormed := by
  refine ⟨formed.distinct, fun p occurs => ?_⟩
  simp only [Lambda.merge, Expr.parts, List.mem_cons, reduceCtorEq, List.mem_append, false_or]
    at occurs
  rcases occurs with own | taken
  · exact formed.closed p own
  · exact other.parameter_of_positional counted taken

/-- Applying a lambda to what reads given parameters leaves a lambda over these. -/
theorem applied (formed : lambda.WellFormed) (unary : lambda.parameters = [own])
    {parameters : List Parameter} (distinct : (parameters.map Parameter.id).Nodup)
    (reads : ∀ p, .parameter p ∈ replacement.parts → p ∈ parameters) :
    WellFormed ⟨parameters, lambda.body.substitute (.single own.id replacement)⟩ :=
  ⟨distinct, fun p occurs => reads p (formed.parameter_of_single unary occurs)⟩

/-- Replacing one of the parameters by what reads the same ones keeps a lambda well-formed. The
    parameter that is replaced stays a parameter of the lambda, whether or not it still occurs. -/
theorem replaced (formed : lambda.WellFormed)
    (reads : ∀ p, .parameter p ∈ replacement.parts → p ∈ lambda.parameters) :
    WellFormed ⟨lambda.parameters, lambda.body.substitute (.single own.id replacement)⟩ := by
  refine ⟨formed.distinct, fun p occurs => ?_⟩
  rcases formed.parameter_of_replaced occurs with brought | stays
  · exact reads p brought
  · exact stays

/-- Binding some parameters to constants keeps a lambda well-formed over the others. What is left is
    in the order of before. -/
theorem bound (formed : lambda.WellFormed) {arguments : List (Nat × Value)} {bindings : Bindings}
    (binds : List.Forall₂ lambda.Binds arguments bindings) :
    WellFormed ⟨lambda.parameters.filter fun p => !(bindings.map Prod.fst).contains p.id,
      lambda.body.substitute (.ofPairs bindings)⟩ := by
  refine ⟨formed.distinct.sublist (List.filter_sublist.map _), fun q occurs => ?_⟩
  obtain ⟨p, inBody, brought⟩ := (Expr.parameter_mem_substitute _).mp occurs
  cases found : Substitution.ofPairs bindings p.id with
  | some replacement =>
    -- A constant has no parameters.
    obtain ⟨argument, -, q, -, -, -, same⟩ :=
      (exists_binds binds).2 _ (Substitution.mem_of_ofPairs found)
    obtain ⟨-, rfl⟩ := Prod.mk.inj same
    simp [found, Expr.parts] at brought
  | none =>
    obtain rfl : q = p := by simpa [found, Expr.parts] using brought
    refine List.mem_filter.mpr ⟨formed.closed q inBody, ?_⟩
    simpa using Substitution.ofPairs_eq_none.mp found

/-- Binding some parameters to constants of their types keeps the base type of the body. A constant
    is of the type of the parameter that it is bound to, by construction. -/
theorem base_of_bound (formed : lambda.WellFormed) {arguments : List (Nat × Value)}
    {bindings : Bindings} (binds : List.Forall₂ lambda.Binds arguments bindings) :
    (lambda.body.substitute (.ofPairs bindings)).type.base = lambda.body.type.base := by
  refine Expr.base_type_substitute _ fun p occurs => ?_
  cases found : Substitution.ofPairs bindings p.id with
  | none => rfl
  | some replacement =>
    obtain ⟨argument, -, q, located, -, -, same⟩ :=
      (exists_binds binds).2 _ (Substitution.mem_of_ofPairs found)
    obtain ⟨sameId, rfl⟩ := Prod.mk.inj same
    rw [formed.eq_of_id (formed.closed p occurs) (List.mem_of_getElem? located) sameId]
    rfl

end WellFormed

end Lambda

end RecordQuery
