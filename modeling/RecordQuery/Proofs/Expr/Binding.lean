import RecordQuery.Proofs.Expr.Scope

/-!
# Replacing parameters and binding them

Replacing parameters of an expression comes to the same as binding them: the new expression stands,
in every scope, for what the old one stands for with each replaced parameter bound besides to what
its replacement stands for. All parameters are replaced at once, so a replacement that mentions a
replaced parameter means the one that was bound before. The parameters of the new expression are
those of the old one that stay, and those of the replacements that come in.
-/

namespace RecordQuery.Expr

variable {expr : Expr} {pairs : List (Nat × Expr)} {scope : Scope} {values : Nat → Operand}

/-- The parameters of an expression that a list of pairs replaces, each bound to a value. -/
def bindings (expr : Expr) (pairs : List (Nat × Expr)) (values : Nat → Operand) : Scope :=
  ((pairs.map Prod.fst).filter fun id => expr.references id).map fun id => (id, values id)

/-- A parameter of the expression has the value of its replacement, if it is replaced. -/
theorem find?_bindings {id : Nat} (occurs : expr.references id = true) :
    (bindings expr pairs values).find? id =
      if id ∈ pairs.map Prod.fst then some (values id) else none := by
  rw [bindings, Scope.find?_map]
  simp only [List.mem_filter, occurs, and_true]

/-- If the replacements that come into an expression have values, the expression with its parameters
    replaced stands for what it stands for with these values bound. Replacements of parameters that
    do not occur need no value. A parameter without a replacement stays as the scope binds it. -/
theorem eval_substitute_bindings
    (evaluate : ∀ id replacement, expr.references id = true →
      Substitution.ofPairs pairs id = some replacement →
      replacement.eval scope = .ok (values id)) :
    (expr.substitute (.ofPairs pairs)).eval scope =
      expr.eval (scope ++ bindings expr pairs values) := by
  refine eval_substitute expr fun p inParts => ?_
  have occurs : expr.references p.id = true := (references_iff expr).mpr ⟨p, inParts, rfl⟩
  rw [eval, Scope.find?_append, find?_bindings occurs]
  cases replaced : Substitution.ofPairs pairs p.id with
  | none =>
    rw [if_neg (Substitution.ofPairs_eq_none.mp replaced), Option.none_or, Option.getD_none, eval]
  | some replacement =>
    have listed : p.id ∈ pairs.map Prod.fst :=
      List.mem_map.mpr ⟨_, Substitution.mem_of_ofPairs replaced, rfl⟩
    rw [if_pos listed, Option.some_or, Option.getD_some, evaluate p.id replacement occurs replaced]

/-- A parameter occurs in an expression after replacement if it did before and is not replaced, or
    if it occurs in the replacement of a parameter that did. The second case uses the parameters of
    the replacement as they are: they are not replaced again. -/
theorem references_substitute {substitution : Substitution} {id : Nat} :
    (expr.substitute substitution).references id = true ↔
      (expr.references id = true ∧ substitution id = none) ∨
        ∃ replaced replacement, expr.references replaced = true ∧
          substitution replaced = some replacement ∧ replacement.references id = true := by
  rw [references_iff]
  constructor
  · rintro ⟨q, inParts, rfl⟩
    obtain ⟨p, occurs, brought⟩ := (parameter_mem_substitute expr).mp inParts
    have known : expr.references p.id = true := (references_iff expr).mpr ⟨p, occurs, rfl⟩
    cases replaced : substitution p.id with
    | none =>
      obtain rfl : q = p := by simpa [replaced, parts] using brought
      exact .inl ⟨known, replaced⟩
    | some replacement =>
      rw [replaced, Option.getD_some] at brought
      exact .inr ⟨p.id, replacement, known, replaced, (references_iff _).mpr ⟨q, brought, rfl⟩⟩
  · rintro (⟨occurs, stays⟩ | ⟨replaced, replacement, occurs, found, brought⟩)
    · obtain ⟨p, inParts, rfl⟩ := (references_iff expr).mp occurs
      refine ⟨p, (parameter_mem_substitute expr).mpr ⟨p, inParts, ?_⟩, rfl⟩
      rw [stays, Option.getD_none]
      exact self_mem_parts _
    · obtain ⟨p, inParts, rfl⟩ := (references_iff expr).mp occurs
      obtain ⟨q, inReplacement, same⟩ := (references_iff replacement).mp brought
      refine ⟨q, (parameter_mem_substitute expr).mpr ⟨p, inParts, ?_⟩, same⟩
      rwa [found, Option.getD_some]

/-- Replacing parameters is binding them. If every replacement that comes into an expression has a
    value in a scope, the new expression has in this scope, value or error, what the old one has
    with each replaced parameter bound to the value of its replacement. A parameter occurs in the
    new expression exactly if it occurs in the old one and stays, or occurs in the replacement of
    one that occurs in the old one.

    Proof: a general lemma on replacement asks that each parameter that occurs means in the inner
    scope what takes its place means in the outer one. The bindings are put behind the scope, where
    they hide what it binds, and only of parameters that are replaced. -/
theorem substitute_is_binding (expr : Expr) (pairs : List (Nat × Expr)) :
    (∀ (scope : Scope) (values : Nat → Operand),
      (∀ id replacement, expr.references id = true →
        Substitution.ofPairs pairs id = some replacement →
        replacement.eval scope = .ok (values id)) →
      (expr.substitute (.ofPairs pairs)).eval scope =
        expr.eval (scope ++ bindings expr pairs values)) ∧
    ∀ id, (expr.substitute (.ofPairs pairs)).references id = true ↔
      (expr.references id = true ∧ Substitution.ofPairs pairs id = none) ∨
        ∃ replaced replacement, expr.references replaced = true ∧
          Substitution.ofPairs pairs replaced = some replacement ∧
          replacement.references id = true :=
  ⟨fun _ _ evaluate => eval_substitute_bindings evaluate, fun _ => references_substitute⟩

/-- Two parameters replaced by expressions over each other, in a scope that binds one of them twice:
    each replacement means the parameter as it was bound, not as it is replaced. A replacement one
    after the other would give another truth. -/
theorem substitute_exchanged :
    let a : Parameter := ⟨0, "a", .bool⟩
    let b : Parameter := ⟨1, "b", .bool⟩
    let less : Expr := .binary (.relation .lt) (.parameter a) (.parameter b)
    let pairs : List (Nat × Expr) := [(0, .parameter b), (1, .not (.parameter a))]
    let truth (holds : Bool) : Operand := .value (.bool holds)
    let scope : Scope := [(0, .value (.text "x")), (0, truth false), (1, truth false)]
    let values : Nat → Operand := fun id => truth (id == 1)
    (∀ id replacement, less.references id = true →
      Substitution.ofPairs pairs id = some replacement →
      replacement.eval scope = .ok (values id)) ∧
    less.eval (scope ++ bindings less pairs values) = .ok (truth true) ∧
    (less.substitute (.ofPairs pairs)).eval scope = .ok (truth true) ∧
    (less.substitute (.ofPairs pairs)).references 0 = true := by
  intro a b less pairs truth scope values
  have evaluate : ∀ id replacement, less.references id = true →
      Substitution.ofPairs pairs id = some replacement →
      replacement.eval scope = .ok (values id) := by
    intro id replacement _ found
    have listed := Substitution.mem_of_ofPairs found
    simp only [pairs, List.mem_cons, Prod.mk.injEq, List.not_mem_nil, or_false] at listed
    rcases listed with ⟨rfl, rfl⟩ | ⟨rfl, rfl⟩ <;> rfl
  have bound : less.eval (scope ++ bindings less pairs values) = .ok (truth true) := rfl
  obtain ⟨same, occurs⟩ := substitute_is_binding less pairs
  refine ⟨evaluate, bound, (same scope values evaluate).trans bound, (occurs 0).mpr (.inr ?_)⟩
  exact ⟨1, .not (.parameter a), rfl, rfl, rfl⟩

end RecordQuery.Expr
