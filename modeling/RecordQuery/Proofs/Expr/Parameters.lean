import RecordQuery.Proofs.Expr.Substitution
import RecordQuery.Proofs.Lookup
import Mathlib.Data.List.Induction

/-!
# Parameters of an expression

After replacement, the parameters of an expression are those of what took the place of its
parameters. Its base type stays what it was if everything is of the base type of the parameter that
it replaces; whether it admits null may change, for a type is worked out from the new tree.
-/

namespace RecordQuery

namespace Expr

variable {substitution : Substitution} {arguments : List Expr}

/-- The parts of arguments are those of each of them. -/
theorem mem_partsOfAll {part : Expr} :
    part ∈ partsOfAll arguments ↔ ∃ argument ∈ arguments, part ∈ argument.parts := by
  induction arguments with
  | nil => simp [partsOfAll]
  | cons argument rest inductionHypothesis => simp [partsOfAll, inductionHypothesis]

/-- A parameter occurs in arguments when it occurs in one of them. -/
theorem anyReferences_iff {id : Nat} :
    anyReferences id arguments = true ↔ ∃ argument ∈ arguments, argument.references id = true := by
  induction arguments with
  | nil => simp [anyReferences]
  | cons argument rest inductionHypothesis => simp [anyReferences, inductionHypothesis]

/-- The arguments after replacement are those before, each with its parameters replaced. -/
theorem substituteAll_eq_map :
    substituteAll substitution arguments = arguments.map (substitute substitution) := by
  induction arguments with
  | nil => rfl
  | cons argument rest inductionHypothesis =>
    rw [substituteAll, inductionHypothesis, List.map_cons]

/-- An identity occurs in an expression when a parameter of this identity is a part of it. The
    program asks for identities only, while proofs need the parameter with its type. -/
theorem references_iff {id : Nat} (expr : Expr) :
    expr.references id = true ↔ ∃ p, parameter p ∈ expr.parts ∧ p.id = id := by
  induction expr with
  | parameter p => simp [references, parts]
  | member target m inductionHypothesis => simpa [references, parts] using inductionHypothesis
  | constant value type => simp [references, parts]
  | not operand inductionHypothesis => simpa [references, parts] using inductionHypothesis
  | lift operand inductionHypothesis => simpa [references, parts] using inductionHypothesis
  | binary operator left right leftHypothesis rightHypothesis =>
    simp only [references, Bool.or_eq_true, leftHypothesis, rightHypothesis, parts, List.mem_cons,
      reduceCtorEq, List.mem_append, false_or, or_and_right, exists_or]
  | call method arguments inductionHypothesis =>
    simp only [references, anyReferences_iff, parts, List.mem_cons, reduceCtorEq, false_or,
      mem_partsOfAll]
    constructor
    · rintro ⟨argument, member, occurs⟩
      obtain ⟨p, inArgument, same⟩ := (inductionHypothesis argument member).mp occurs
      exact ⟨p, ⟨argument, member, inArgument⟩, same⟩
    · rintro ⟨p, ⟨argument, member, inArgument⟩, same⟩
      exact ⟨argument, member, (inductionHypothesis argument member).mpr ⟨p, inArgument, same⟩⟩

/-- The parameters of an expression after replacement are those of what takes the place of its own
    parameters. A parameter that is not replaced takes its own place. -/
theorem parameter_mem_substitute {q : Parameter} (expr : Expr) :
    parameter q ∈ (expr.substitute substitution).parts ↔
      ∃ p, parameter p ∈ expr.parts ∧
        parameter q ∈ ((substitution p.id).getD (parameter p)).parts := by
  induction expr with
  | parameter p => simp [substitute, parts]
  | member target m inductionHypothesis =>
    simpa [substitute, parts] using inductionHypothesis
  | constant value type => simp [substitute, parts]
  | not operand inductionHypothesis => simpa [substitute, parts] using inductionHypothesis
  | lift operand inductionHypothesis => simpa [substitute, parts] using inductionHypothesis
  | binary operator left right leftHypothesis rightHypothesis =>
    simp only [substitute, parts, List.mem_cons, reduceCtorEq, List.mem_append, false_or,
      leftHypothesis, rightHypothesis, or_and_right, exists_or]
  | call method arguments inductionHypothesis =>
    simp only [substitute, parts, List.mem_cons, reduceCtorEq, false_or, substituteAll_eq_map,
      mem_partsOfAll, List.mem_map, exists_exists_and_eq_and]
    constructor
    · rintro ⟨argument, member, occurs⟩
      obtain ⟨p, inArgument, brought⟩ := (inductionHypothesis argument member).mp occurs
      exact ⟨p, ⟨argument, member, inArgument⟩, brought⟩
    · rintro ⟨p, ⟨argument, member, inArgument⟩, brought⟩
      exact ⟨argument, member, (inductionHypothesis argument member).mpr ⟨p, inArgument, brought⟩⟩

/-- The base type of months is one kind of number. -/
theorem base_monthType (nullable : Bool) : (monthType nullable).base = .number (.integer .i32) := by
  cases nullable <;> rfl

/-- An expression keeps its base type if all that takes the place of its parameters does. Nullable
    layers may come and go, which changes lifts but no base type. -/
theorem base_type_substitute (expr : Expr)
    (keeps : ∀ p, parameter p ∈ expr.parts →
      ((substitution p.id).getD (parameter p)).type.base = p.type.base) :
    (expr.substitute substitution).type.base = expr.type.base := by
  induction expr with
  | parameter p => exact keeps p (self_mem_parts _)
  | lift operand inductionHypothesis =>
    have same := inductionHypothesis fun p occurs => keeps p (by simp [parts, occurs])
    rw [substitute, type, type, DataType.base_toNullable, DataType.base_toNullable, same]
  | call method arguments =>
    cases method with
    | month => rw [substitute, type, type, base_monthType, base_monthType]
    | _ => rfl
  | _ => rfl

end Expr

namespace Substitution

/-- A single replacement is made of its own parameter only. -/
theorem single_apply (id other : Nat) (replacement : Expr) :
    single id replacement other = if other = id then some replacement else Option.none := rfl

/-- What replaces a parameter is the last of what a list of pairs gives it. A later pair for the
    same identity takes the place of an earlier one, as in a map that is filled in this order. -/
theorem ofPairs_eq_lookup (pairs : List (Nat × Expr)) (id : Nat) :
    ofPairs pairs id = pairs.reverse.lookup id := by
  induction pairs using List.reverseRecOn with
  | nil => rfl
  | append_singleton earlier last inductionHypothesis =>
    obtain ⟨key, value⟩ := last
    rw [ofPairs, List.foldl_append, List.reverse_append]
    simp only [List.foldl_cons, List.foldl_nil, extend, List.reverse_singleton,
      List.singleton_append, List.lookup_cons]
    by_cases same : id = key
    · simp [same]
    · rw [if_neg same, beq_eq_false_iff_ne.mpr same]
      exact inductionHypothesis

/-- What a list of pairs replaces a parameter by, it lists beside the identity. -/
theorem mem_of_ofPairs {pairs : List (Nat × Expr)} {id : Nat} {replacement : Expr}
    (found : ofPairs pairs id = some replacement) : (id, replacement) ∈ pairs := by
  rw [ofPairs_eq_lookup] at found
  exact List.mem_reverse.mp (mem_of_lookup found)

/-- A list of pairs leaves exactly the parameters as they are whose identity it does not list. -/
theorem ofPairs_eq_none {pairs : List (Nat × Expr)} {id : Nat} :
    ofPairs pairs id = Option.none ↔ id ∉ pairs.map Prod.fst := by
  rw [ofPairs_eq_lookup, lookup_eq_none, List.map_reverse, List.mem_reverse]

/-- Of two lists of pairs, the later one counts where it has a replacement. -/
theorem ofPairs_append (earlier later : List (Nat × Expr)) (id : Nat) :
    ofPairs (earlier ++ later) id = (ofPairs later id).or (ofPairs earlier id) := by
  rw [ofPairs_eq_lookup, ofPairs_eq_lookup, ofPairs_eq_lookup, List.reverse_append,
    List.lookup_append]

/-- The first pair of a list counts where no later one does. It is the form in which an induction on
    the list uses it. -/
theorem ofPairs_cons (key : Nat) (replacement : Expr) (rest : List (Nat × Expr)) (id : Nat) :
    ofPairs ((key, replacement) :: rest) id =
      (ofPairs rest id).or (if key = id then some replacement else Option.none) := by
  rw [← List.singleton_append, ofPairs_append]
  refine congrArg (Option.or _) ?_
  rw [ofPairs, List.foldl_cons, List.foldl_nil, extend]
  simp [none, eq_comm]

/-- Where identities are listed once, each is replaced by what stands beside it. -/
theorem ofPairs_eq_some {pairs : List (Nat × Expr)} {id : Nat} {replacement : Expr}
    (distinct : (pairs.map Prod.fst).Nodup) :
    ofPairs pairs id = some replacement ↔ (id, replacement) ∈ pairs := by
  rw [ofPairs_eq_lookup, lookup_eq_some (nodup_keys_reverse distinct), List.mem_reverse]

/-- Where identities are listed once, the order of the pairs does not matter. -/
theorem ofPairs_perm {pairs others : List (Nat × Expr)} (distinct : (pairs.map Prod.fst).Nodup)
    (rearranged : pairs.Perm others) : ofPairs pairs = ofPairs others := by
  funext id
  refine Option.ext fun replacement => ?_
  rw [ofPairs_eq_some distinct, ofPairs_eq_some ((rearranged.map _).nodup_iff.mp distinct),
    rearranged.mem_iff]

end Substitution

end RecordQuery
