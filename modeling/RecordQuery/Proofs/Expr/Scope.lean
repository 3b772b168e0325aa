import RecordQuery.Expr.Eval
import RecordQuery.Proofs.Expr.Parameters

/-!
# What a scope binds

A call binds each argument to the parameter of its position. Of two bindings of one identity the
later counts, in a scope as in a list of replacements, so replacements that stand one by one for
the arguments of a call stand for what the call binds, even if an identity occurs twice.
-/

namespace RecordQuery

namespace Scope

variable {scope : Scope} {id : Nat} {operand : Operand}

/-- What is found under an identity is the last that is bound to it. Later bindings hide earlier
    ones. -/
theorem find?_eq_lookup (scope : Scope) (id : Nat) : scope.find? id = scope.reverse.lookup id := by
  induction scope with
  | nil => rfl
  | cons binding rest inductionHypothesis =>
    obtain ⟨bound, first⟩ := binding
    rw [find?, inductionHypothesis, List.reverse_cons, List.lookup_append]
    refine congrArg (Option.or _) ?_
    by_cases same : bound = id
    · simp [same]
    · simp [same, List.lookup_cons, beq_eq_false_iff_ne.mpr (Ne.symm same)]

/-- Nothing is found under exactly the identities that are not bound. -/
theorem find?_eq_none : scope.find? id = none ↔ id ∉ scope.map Prod.fst := by
  rw [find?_eq_lookup, lookup_eq_none, List.map_reverse, List.mem_reverse]

/-- Where identities are bound once, what is bound to each is found under it. -/
theorem find?_eq_some (distinct : (scope.map Prod.fst).Nodup) :
    scope.find? id = some operand ↔ (id, operand) ∈ scope := by
  rw [find?_eq_lookup, lookup_eq_some (nodup_keys_reverse distinct), List.mem_reverse]

/-- Of two scopes in a row, the later one counts where it binds an identity. -/
theorem find?_append (earlier later : Scope) (id : Nat) :
    find? (earlier ++ later) id = (later.find? id).or (earlier.find? id) := by
  rw [find?_eq_lookup, find?_eq_lookup, find?_eq_lookup, List.reverse_append, List.lookup_append]

/-- Where each of a list of identities is bound to a value of its own, no matter how often, this
    value is found under it. An identity that is listed twice is bound to the same value twice. -/
theorem find?_map (ids : List Nat) (values : Nat → Operand) (id : Nat) :
    find? (ids.map fun bound => (bound, values bound)) id =
      if id ∈ ids then some (values id) else none := by
  induction ids with
  | nil => rfl
  | cons first rest inductionHypothesis =>
    rw [List.map_cons, find?, inductionHypothesis]
    by_cases same : first = id
    · subst first
      by_cases later : id ∈ rest <;> simp [later]
    · simp [same, Ne.symm same]

/-- Replacements and operands that stand in a relation one by one do so under every identity, if
    both are listed under the same ones. Identities without a partner at the end are left out on
    both sides. -/
theorem rel_find? {relation : Expr → Operand → Prop} {replacements : List Expr}
    {operands : List Operand} (each : List.Forall₂ relation replacements operands)
    (ids : List Nat) (id : Nat) :
    Option.Rel relation (Substitution.ofPairs (ids.zip replacements) id)
      (Scope.find? (ids.zip operands) id) := by
  induction each generalizing ids with
  | nil =>
    rw [List.zip_nil_right, List.zip_nil_right]
    exact .none
  | cons first _ inductionHypothesis =>
    cases ids with
    | nil => exact .none
    | cons key others =>
      rw [List.zip_cons_cons, List.zip_cons_cons, Substitution.ofPairs_cons, find?]
      -- The later pairs count first; the pair in front only where they have nothing.
      have later := inductionHypothesis others
      generalize Substitution.ofPairs _ id = replacement at later ⊢
      generalize find? _ id = operand at later ⊢
      cases later with
      | some related => exact .some related
      | none =>
        rw [Option.none_or, Option.none_or]
        split
        · exact .some first
        · exact .none

end Scope

namespace Lambda

variable {lambda : Lambda} {parameters : List Parameter} {arguments : List Operand}
  {p : Parameter}

/-- A call with as many arguments as parameters has the value of the body with them bound. -/
theorem call_of_counted (counted : arguments.length = lambda.arity) :
    lambda.call arguments = lambda.body.eval (bind lambda.parameters arguments) :=
  if_pos counted

/-- A call with another number of arguments fails, whatever the body is. -/
theorem call_of_miscounted (miscounted : arguments.length ≠ lambda.arity) :
    lambda.call arguments = .error (.arity lambda.arity arguments.length) :=
  if_neg miscounted

/-- A call with as many arguments as parameters binds the identities of the parameters. -/
theorem ids_bind (counted : arguments.length = parameters.length) :
    (bind parameters arguments).map Prod.fst = parameters.map Parameter.id :=
  List.map_fst_zip (by simp [counted])

/-- Distinct parameters have the arguments at their positions. If two of them were one, the later
    argument would hide the earlier. -/
theorem find?_bind_position (distinct : (parameters.map Parameter.id).Nodup)
    (counted : arguments.length = parameters.length) {position : Nat} {operand : Operand}
    (located : parameters[position]? = some p) (given : arguments[position]? = some operand) :
    (bind parameters arguments).find? p.id = some operand := by
  rw [Scope.find?_eq_some (by rwa [ids_bind counted])]
  refine List.mem_of_getElem? (i := position) ?_
  rw [bind, List.getElem?_zip_eq_some, List.getElem?_map, located]
  exact ⟨rfl, given⟩

/-- Another argument at a position changes nothing about the other parameters. No distinctness is
    asked for: the position alone is rebound. -/
theorem find?_bind_set {position : Nat} (located : parameters[position]? = some p) {id : Nat}
    (other : id ≠ p.id) (operand : Operand) :
    (bind parameters (arguments.set position operand)).find? id =
      (bind parameters arguments).find? id := by
  unfold bind
  induction parameters generalizing position arguments with
  | nil => cases located
  | cons first rest inductionHypothesis =>
    cases arguments with
    | nil => rfl
    | cons given others =>
      cases position with
      | zero =>
        obtain rfl : first = p := Option.some.inj located
        simp [Scope.find?, Ne.symm other]
      | succ position =>
        have later := @inductionHypothesis others position located
        simp only [List.set_cons_succ, List.map_cons, List.zip_cons_cons, Scope.find?, later]

/-- Distinct parameters stand for the arguments of a call, one by one. With it, a lambda can be seen
    as another with its own parameters put in. -/
theorem forall₂_eval_bind (distinct : (parameters.map Parameter.id).Nodup)
    (counted : arguments.length = parameters.length) :
    List.Forall₂ (fun replacement operand =>
        replacement.eval (bind parameters arguments) = .ok operand)
      (parameters.map Expr.parameter) arguments := by
  rw [List.forall₂_map_left_iff, List.forall₂_iff_get]
  refine ⟨counted.symm, fun position below given => ?_⟩
  have found := find?_bind_position distinct counted (List.getElem?_eq_getElem below)
    (List.getElem?_eq_getElem given)
  rw [Expr.eval]
  exact found ▸ rfl

end Lambda

end RecordQuery
