import RecordQuery.Lambda.Algebra
import RecordQuery.Proofs.Outcome
import Mathlib.Data.List.Nodup

/-!
# When lambdas combine

For every combination of lambdas, exactly when it is made and what it is then. Truth values are
combined over parameters of the same types, a lambda is applied to a result that fits its parameter,
and constants are bound at different positions, each to a parameter that it fits.
-/

namespace RecordQuery.Lambda

variable {lambda first second inner outer wide converter result : Lambda}

/-- Lambdas that yield a truth value pass as predicates. -/
theorem checkBool_eq_ok : lambda.checkBool = .ok () ↔ lambda.isPredicate = true := by
  unfold checkBool
  split <;> simp_all

/-- Parameters pass that have the same types as those at their positions. What is left over of the
    longer list is not looked at, as the number of parameters is checked before. -/
theorem checkTypes_eq_ok {firsts seconds : List Parameter} :
    checkTypes firsts seconds = .ok () ↔
      ∀ pair ∈ firsts.zip seconds, pair.1.type = pair.2.type := by
  induction firsts generalizing seconds with
  | nil => simp [checkTypes]
  | cons p rest inductionHypothesis =>
    cases seconds with
    | nil => simp [checkTypes]
    | cons q others =>
      rw [checkTypes, List.zip_cons_cons, List.forall_mem_cons]
      by_cases same : p.type = q.type <;> simp [same, inductionHypothesis]

/-- Two predicates over parameters of the same types merge. Which of the checks fails first decides
    on the error only. -/
theorem combined_eq_ok {operator : Operator} :
    combine operator first second = .ok result ↔
      first.isPredicate = true ∧ second.isPredicate = true ∧ first.arity = second.arity ∧
        (∀ pair ∈ first.parameters.zip second.parameters, pair.1.type = pair.2.type) ∧
        result = merge operator first second := by
  unfold combine
  rw [check_eq_ok, checkBool_eq_ok, check_eq_ok, checkBool_eq_ok]
  by_cases same : first.arity = second.arity
  · rw [if_neg (not_not.mpr same), check_eq_ok, checkTypes_eq_ok, pure_eq_ok, eq_comm (b := result)]
    simp only [same, true_and]
  · rw [if_pos same]
    constructor
    · rintro ⟨-, -, ⟨⟩⟩
    · rintro ⟨-, -, counted, -⟩
      exact absurd counted same

/-- A predicate has a negation. -/
theorem not_eq_ok : lambda.not = .ok result ↔
    lambda.isPredicate = true ∧ result = ⟨lambda.parameters, .not lambda.body⟩ := by
  unfold not
  rw [check_eq_ok, checkBool_eq_ok, pure_eq_ok, eq_comm (b := result)]

/-- Only a lambda of one parameter has an only parameter. The number is an error otherwise. -/
theorem onlyParameter_eq_ok {p : Parameter} :
    lambda.onlyParameter = .ok p ↔ lambda.parameters = [p] := by
  unfold onlyParameter
  split
  · rename_i own single
    simp [single]
  · rename_i parameters several
    constructor
    · rintro ⟨⟩
    · intro single
      exact absurd single (several p)

/-- A unary lambda is widened over a list that starts with a parameter of its type. The other
    parameters of the list are of any type. -/
theorem widen_eq_ok {parameters : List Parameter} :
    lambda.widen parameters = .ok result ↔
      ∃ own target rest, lambda.parameters = [own] ∧ parameters = target :: rest ∧
        own.type = target.type ∧
        result = ⟨parameters, lambda.body.substitute (.single own.id (.parameter target))⟩ := by
  unfold widen
  rw [bind_eq_ok]
  simp only [onlyParameter_eq_ok]
  constructor
  · rintro ⟨own, single, made⟩
    cases parameters with
    | nil => cases made
    | cons target rest =>
      dsimp only at made
      split at made
      · cases made
      · rename_i same
        exact ⟨own, target, rest, single, rfl, not_not.mp same, (pure_eq_ok.mp made).symm⟩
  · rintro ⟨own, target, rest, single, rfl, same, rfl⟩
    refine ⟨own, single, ?_⟩
    dsimp only
    rw [if_neg (not_not.mpr same)]
    rfl

/-- A unary predicate is widened over the parameters of another and then merged with it. -/
theorem andWidened_eq_ok : lambda.andWidened wide = .ok result ↔
    ∃ widened, lambda.widen wide.parameters = .ok widened ∧ widened.and wide = .ok result :=
  bind_eq_ok

/-- A lambda is applied to the result of another that fits its parameter. The type that fits is the
    one computed for the body of the inner lambda. -/
theorem compose_eq_ok : compose inner outer = .ok result ↔
    ∃ own target, inner.parameters = [own] ∧ outer.parameters = [target] ∧
      target.type.accepts inner.type = true ∧
      result = ⟨inner.parameters, outer.body.substitute (.single target.id inner.body)⟩ := by
  unfold compose
  simp only [bind_eq_ok, onlyParameter_eq_ok]
  constructor
  · rintro ⟨own, single, target, outerSingle, made⟩
    split at made
    · rename_i fits
      exact ⟨own, target, single, outerSingle, fits, (pure_eq_ok.mp made).symm⟩
    · cases made
  · rintro ⟨own, target, single, outerSingle, fits, rfl⟩
    refine ⟨own, single, target, outerSingle, ?_⟩
    rw [if_pos fits]
    rfl

/-- A position has a parameter when it is one of the list. -/
theorem parameterAt_eq_ok {position : Nat} {p : Parameter} :
    lambda.parameterAt position = .ok p ↔ lambda.parameters[position]? = some p := by
  unfold parameterAt
  split <;> simp_all

/-- An argument is converted by a unary lambda that maps the type of the parameter to itself. The
    result has to fit the parameter, while its own parameter has to be of the very same type. -/
theorem convertArgument_eq_ok {position : Nat} :
    lambda.convertArgument position converter = .ok result ↔
      ∃ input target, converter.parameters = [input] ∧
        lambda.parameters[position]? = some target ∧ input.type = target.type ∧
        target.type.accepts converter.type = true ∧
        result = ⟨lambda.parameters, lambda.body.substitute (.single target.id
          (converter.body.substitute (.single input.id (.parameter target))))⟩ := by
  unfold convertArgument
  simp only [bind_eq_ok, onlyParameter_eq_ok, parameterAt_eq_ok]
  constructor
  · rintro ⟨input, single, target, located, made⟩
    split at made
    · rename_i fits
      exact ⟨input, target, single, located, fits.1, fits.2, (pure_eq_ok.mp made).symm⟩
    · cases made
  · rintro ⟨input, target, single, located, same, fits, rfl⟩
    refine ⟨input, single, target, located, ?_⟩
    rw [if_pos ⟨same, fits⟩]
    rfl

/-- Distinct parameters have distinct positions. So an identity stands for a position, and proofs
    may go from one to the other. -/
theorem position_of_id (distinct : (lambda.parameters.map Parameter.id).Nodup) {first other : Nat}
    {p q : Parameter} (located : lambda.parameters[first]? = some p)
    (otherLocated : lambda.parameters[other]? = some q) (same : p.id = q.id) : first = other := by
  obtain ⟨inRange, -⟩ := List.getElem?_eq_some_iff.mp located
  have below : first < (lambda.parameters.map Parameter.id).length := by simpa using inRange
  refine (List.getElem?_inj below distinct).mp ?_
  rw [List.getElem?_map, List.getElem?_map, located, otherLocated, Option.map_some, Option.map_some,
    same]

/-- Whether a binding is the constant of an argument, bound to the parameter at its position. -/
def Binds (lambda : Lambda) (argument : Nat × Value) (binding : Nat × Expr) : Prop :=
  ∃ p, lambda.parameters[argument.1]? = some p ∧ p.type.isRecord = false ∧
    fits p.type argument.2 = true ∧ binding = (p.id, .constant argument.2 p.type)

/-- A constant is bound at a position that is not taken and whose parameter it fits. No constant
    fits the parameter of a record. -/
theorem bindConstant_eq_ok {seen : List Nat} {position : Nat} {value : Value}
    {binding : Nat × Expr} :
    lambda.bindConstant seen position value = .ok binding ↔
      position ∉ seen ∧ lambda.Binds (position, value) binding := by
  unfold bindConstant Binds
  rw [bind_eq_ok]
  simp only [parameterAt_eq_ok]
  by_cases taken : position ∈ seen
  · simp [taken]
  · simp only [List.contains_iff_mem, taken, if_false, not_false_eq_true, true_and]
    refine exists_congr fun p => and_congr_right fun _ => ?_
    cases p.type.isRecord with
    | true => simp
    | false => cases fits p.type value <;> simp [pure, Except.pure, eq_comm]

/-- Constants are bound at different positions, each to a parameter that it fits. The positions are
    checked against those seen before, so the induction keeps these general. -/
theorem bindConstants_eq_ok {seen : List Nat} {arguments : List (Nat × Value)}
    {bindings : Bindings} :
    lambda.bindConstants seen arguments = .ok bindings ↔
      List.Forall₂ lambda.Binds arguments bindings ∧ (arguments.map Prod.fst).Nodup ∧
        ∀ position ∈ arguments.map Prod.fst, position ∉ seen := by
  induction arguments generalizing seen bindings with
  | nil =>
    rw [bindConstants]
    simp [eq_comm]
  | cons argument rest inductionHypothesis =>
    obtain ⟨position, value⟩ := argument
    rw [bindConstants, combine_eq_ok]
    simp only [bindConstant_eq_ok, inductionHypothesis, List.map_cons, List.nodup_cons,
      List.forall_mem_cons]
    simp only [List.mem_cons, not_or]
    constructor
    · rintro ⟨binding, others, ⟨fresh, binds⟩, ⟨bindsRest, distinct, unseen⟩, rfl⟩
      exact ⟨.cons binds bindsRest, ⟨fun taken => (unseen position taken).1 rfl, distinct⟩, fresh,
        fun other member => (unseen other member).2⟩
    · rintro ⟨_ | ⟨binds, bindsRest⟩, ⟨untaken, distinct⟩, fresh, unseen⟩
      refine ⟨_, _, ⟨fresh, binds⟩, ⟨bindsRest, distinct, fun other member => ⟨?_, ?_⟩⟩, rfl⟩
      · rintro rfl
        exact untaken member
      · exact unseen other member

/-- Every argument has its binding, and every binding comes from an argument. It is used where
    membership in one of the two lists is known and not the position in it. -/
theorem exists_binds {arguments : List (Nat × Value)} {bindings : Bindings}
    (binds : List.Forall₂ lambda.Binds arguments bindings) :
    (∀ argument ∈ arguments, ∃ binding ∈ bindings, lambda.Binds argument binding) ∧
      ∀ binding ∈ bindings, ∃ argument ∈ arguments, lambda.Binds argument binding := by
  induction binds with
  | nil => simp
  | cons first _ inductionHypothesis =>
    obtain ⟨forth, back⟩ := inductionHypothesis
    constructor
    · refine List.forall_mem_cons.mpr ⟨⟨_, List.mem_cons_self, first⟩, fun argument member => ?_⟩
      obtain ⟨binding, known, bound⟩ := forth argument member
      exact ⟨binding, List.mem_cons_of_mem _ known, bound⟩
    · refine List.forall_mem_cons.mpr ⟨⟨_, List.mem_cons_self, first⟩, fun binding member => ?_⟩
      obtain ⟨argument, known, bound⟩ := back binding member
      exact ⟨argument, List.mem_cons_of_mem _ known, bound⟩

/-- A binding of constants binds a parameter exactly when one is given for its position. Without
    distinct parameters a binding would also bind another one of the same identity. -/
theorem bound_iff (distinct : (lambda.parameters.map Parameter.id).Nodup)
    {arguments : List (Nat × Value)} {bindings : Bindings}
    (binds : List.Forall₂ lambda.Binds arguments bindings) {position : Nat} {p : Parameter}
    (located : lambda.parameters[position]? = some p) :
    p.id ∈ bindings.map Prod.fst ↔ position ∈ arguments.map Prod.fst := by
  obtain ⟨forth, back⟩ := exists_binds binds
  constructor
  · intro bound
    obtain ⟨binding, member, same⟩ := List.mem_map.mp bound
    obtain ⟨argument, given, q, place, -, -, rfl⟩ := back binding member
    exact position_of_id distinct place located same ▸ List.mem_map_of_mem given
  · intro given
    obtain ⟨argument, member, rfl⟩ := List.mem_map.mp given
    obtain ⟨binding, known, q, place, -, -, rfl⟩ := forth argument member
    obtain rfl : p = q := Option.some.inj (located.symm.trans place)
    exact List.mem_map_of_mem known

/-- Arguments are fixed at different positions, each to a constant that fits its parameter. The
    bindings determine both the parameters that are left and the replacement. -/
theorem partialApply_eq_ok {arguments : List (Nat × Value)} :
    lambda.partialApply arguments = .ok result ↔
      ∃ bindings, List.Forall₂ lambda.Binds arguments bindings ∧
        (arguments.map Prod.fst).Nodup ∧
        result = ⟨lambda.parameters.filter fun p => !(bindings.map Prod.fst).contains p.id,
          lambda.body.substitute (.ofPairs bindings)⟩ := by
  unfold partialApply
  rw [change_eq_ok]
  simp only [bindConstants_eq_ok, List.not_mem_nil, not_false_eq_true, implies_true, and_true,
    and_assoc]

/-- Two unary predicates are joined over two new parameters. Their identities are dealt out by the
    catalog, and their names are always the same. -/
theorem cartesian_eq_ok {firstId secondId : Nat} :
    cartesian firstId secondId first second = .ok result ↔
      ∃ own other, first.parameters = [own] ∧ second.parameters = [other] ∧
        first.isPredicate = true ∧ second.isPredicate = true ∧
        result = ⟨[⟨firstId, "a", own.type⟩, ⟨secondId, "b", other.type⟩], .binary .and
          (first.body.substitute (.single own.id (.parameter ⟨firstId, "a", own.type⟩)))
          (second.body.substitute
            (.single other.id (.parameter ⟨secondId, "b", other.type⟩)))⟩ := by
  unfold cartesian
  simp only [bind_eq_ok (α := Parameter), onlyParameter_eq_ok, check_eq_ok, checkBool_eq_ok,
    pure_eq_ok, eq_comm (b := result)]
  constructor
  · rintro ⟨own, single, other, otherSingle, isBool, otherIsBool, made⟩
    exact ⟨own, other, single, otherSingle, isBool, otherIsBool, made⟩
  · rintro ⟨own, other, single, otherSingle, isBool, otherIsBool, made⟩
    exact ⟨own, single, other, otherSingle, isBool, otherIsBool, made⟩

end RecordQuery.Lambda
