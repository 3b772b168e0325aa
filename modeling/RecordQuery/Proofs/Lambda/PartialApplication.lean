import RecordQuery.Proofs.Expr.Renaming
import RecordQuery.Proofs.Expr.Scope
import RecordQuery.Proofs.Lambda.Outcome
import RecordQuery.Proofs.Lambda.Positions
import Mathlib.Data.List.Perm.Basic

/-!
# Partial application

A lambda with some arguments fixed is called with the others. It gives what the lambda gives for the
fixed values at their positions and the other arguments, in order, at the rest. Arguments may be
fixed in any order, and some of them first and the others later, counted anew among the parameters
that are left: the result is the same lambda.
-/

namespace RecordQuery.Lambda

variable {lambda result : Lambda} {arguments others first second : List (Nat × Value)}
  {bindings : Bindings}

/-- The parameters without a binding are those at the positions that are not fixed. The program
    keeps parameters by their identity, and the arguments of a call are left by their position; here
    the two agree. -/
theorem unbound_eq_unfixed (distinct : (lambda.parameters.map Parameter.id).Nodup)
    (binds : List.Forall₂ lambda.Binds arguments bindings) :
    (lambda.parameters.filter fun p => !(bindings.map Prod.fst).contains p.id) =
      unfixed (arguments.map Prod.fst) lambda.parameters := by
  have kept : ∀ placed ∈ lambda.parameters.zipIdx,
      (!(bindings.map Prod.fst).contains placed.1.id) =
        !(arguments.map Prod.fst).contains placed.2 := by
    intro placed member
    have located := List.mem_zipIdx_iff_getElem?.mp member
    rw [Bool.not_inj_iff, Bool.eq_iff_iff, List.contains_iff_mem, List.contains_iff_mem]
    exact bound_iff distinct binds located
  rw [unfixed, unfixedFrom, ← List.filter_congr kept]
  conv_lhs => rw [← List.zipIdx_map_fst 0 lambda.parameters, List.filter_map]
  rfl

section Call

/-- Over the parameters that are left, the body stands for what it stands for over all of them, if
    the fixed arguments have their values. A fixed parameter is replaced by its constant, which has
    the value that the argument there has. -/
theorem eval_bound (distinct : (lambda.parameters.map Parameter.id).Nodup)
    (binds : List.Forall₂ lambda.Binds arguments bindings) {operands : List Operand}
    (counted : operands.length = lambda.arity)
    (valued : ∀ argument ∈ arguments, operands[argument.1]? = some (.value argument.2)) :
    (lambda.body.substitute (.ofPairs bindings)).eval
        (bind (unfixed (arguments.map Prod.fst) lambda.parameters)
          (unfixed (arguments.map Prod.fst) operands)) =
      lambda.body.eval (bind lambda.parameters operands) := by
  have countedLeft : (unfixed (arguments.map Prod.fst) operands).length =
      (unfixed (arguments.map Prod.fst) lambda.parameters).length := by
    rw [length_unfixed, length_unfixed, counted, arity]
  have idsLeft := (unfixed_sublist (arguments.map Prod.fst) lambda.parameters).map Parameter.id
  refine Expr.eval_substitute _ fun p occurs => ?_
  cases found : Substitution.ofPairs bindings p.id with
  | some replacement =>
    obtain ⟨argument, member, q, located, -, -, same⟩ :=
      (exists_binds binds).2 _ (Substitution.mem_of_ofPairs found)
    obtain ⟨sameId, rfl⟩ := Prod.mk.inj same
    rw [Option.getD_some, Expr.eval, Expr.eval, sameId,
      find?_bind_position distinct counted located (valued argument member)]
  | none =>
    have unbound := Substitution.ofPairs_eq_none.mp found
    rw [Option.getD_none, Expr.eval, Expr.eval]
    by_cases known : p.id ∈ lambda.parameters.map Parameter.id
    · obtain ⟨q, member, sameId⟩ := List.mem_map.mp known
      obtain ⟨position, located⟩ := List.mem_iff_getElem?.mp member
      rw [← sameId] at unbound ⊢
      have untaken := mt (bound_iff distinct binds located).mpr unbound
      obtain ⟨below, -⟩ := List.getElem?_eq_some_iff.mp located
      have inRange : position < operands.length := counted ▸ below
      have given := List.getElem?_eq_getElem inRange
      rw [find?_bind_position distinct counted located given,
        find?_bind_position (distinct.sublist idsLeft) countedLeft
          (getElem?_unfixed located untaken) (getElem?_unfixed given untaken)]
    · have foreign := mt (fun inLeft => idsLeft.subset inLeft) known
      rw [Scope.find?_eq_none.mpr (by rwa [ids_bind countedLeft]),
        Scope.find?_eq_none.mpr (by rwa [ids_bind counted])]

/-- Calling a lambda with some arguments fixed is calling the lambda with the fixed values at their
    positions and the given arguments, in order, at the others: the same value, or the same error.
    Its parameters are distinct.

    Proof: the arguments of the whole call are put together from the fixed values and the given
    ones. The body with constants in it, over what is left, is evaluated as the body over all of
    them, and the parameters that are left are those at the positions that are not fixed. -/
theorem call_of_partialApply (distinct : (lambda.parameters.map Parameter.id).Nodup)
    (applied : lambda.partialApply arguments = .ok result) (given : List Operand)
    (counted : given.length = result.arity) :
    (lambda.argumentsWith arguments given).length = lambda.arity ∧
      (∀ argument ∈ arguments,
        (lambda.argumentsWith arguments given)[argument.1]? = some (.value argument.2)) ∧
      unfixed (arguments.map Prod.fst) (lambda.argumentsWith arguments given) = given ∧
      result.call given = lambda.call (lambda.argumentsWith arguments given) := by
  obtain ⟨bindings, binds, once, rfl⟩ := partialApply_eq_ok.mp applied
  rw [unbound_eq_unfixed distinct binds] at counted ⊢
  have complete : (lambda.argumentsWith arguments given).length = lambda.arity :=
    length_argumentsWith counted
  have left : unfixed (arguments.map Prod.fst) (lambda.argumentsWith arguments given) = given :=
    unfixed_argumentsWith counted
  have valued : ∀ argument ∈ arguments,
      (lambda.argumentsWith arguments given)[argument.1]? = some (.value argument.2) := by
    intro argument member
    obtain ⟨-, -, q, located, -⟩ := (exists_binds binds).1 argument member
    obtain ⟨below, -⟩ := List.getElem?_eq_some_iff.mp located
    exact getElem?_argumentsWith counted once member below
  refine ⟨complete, valued, left, ?_⟩
  rw [call_of_counted counted, call_of_counted complete,
    ← eval_bound distinct binds complete valued,
    left]

/-- The first and the last of three arguments are fixed, the last one first; the second is left. An
    argument of the wrong type is refused by the comparison that it comes into, and the fixed value
    is shown there. -/
theorem call_of_partialApply_ends :
    let a : Parameter := ⟨0, "a", .text⟩
    let b : Parameter := ⟨1, "b", .text⟩
    let c : Parameter := ⟨2, "c", .text⟩
    let ascending : Lambda := ⟨[a, b, c], .binary .and
      (.binary (.relation .lt) (.parameter a) (.parameter b))
      (.binary (.relation .lt) (.parameter b) (.parameter c))⟩
    (ascending.parameters.map Parameter.id).Nodup ∧
      ∃ result, ascending.partialApply [(2, .text "z"), (0, .text "x")] = .ok result ∧
        result.toText = "|b| ((\"x\" < b) && (b < \"z\"))" ∧
        result.call [.value (.text "y")] =
          ascending.call [.value (.text "x"), .value (.text "y"), .value (.text "z")] ∧
        result.call [.value (.bool true)] = .error (.incomparable (.text "x") (.bool true)) := by
  intro a b c ascending
  have distinct : (ascending.parameters.map Parameter.id).Nodup := by decide
  have applied : ascending.partialApply [(2, .text "z"), (0, .text "x")] = .ok _ := rfl
  refine ⟨distinct, _, applied, by decide, ?_, ?_⟩
  · exact (call_of_partialApply distinct applied [.value (.text "y")] rfl).2.2.2
  · exact (call_of_partialApply distinct applied [.value (.bool true)] rfl).2.2.2.trans rfl

end Call

section Order

/-- Different positions bind different parameters. So the replacement that the bindings make does
    not depend on their order. -/
theorem nodup_bound (distinct : (lambda.parameters.map Parameter.id).Nodup)
    (binds : List.Forall₂ lambda.Binds arguments bindings)
    (once : (arguments.map Prod.fst).Nodup) : (bindings.map Prod.fst).Nodup := by
  induction binds with
  | nil => exact List.nodup_nil
  | cons first rest inductionHypothesis =>
    rw [List.map_cons, List.nodup_cons] at once ⊢
    obtain ⟨p, located, -, -, rfl⟩ := first
    exact ⟨mt (bound_iff distinct rest located).mp once.1, inductionHypothesis once.2⟩

/-- The order in which arguments are fixed does not matter. Each binding belongs to its argument,
    and distinct identities make the order of replacements irrelevant. -/
theorem partialApply_of_perm (distinct : (lambda.parameters.map Parameter.id).Nodup)
    (rearranged : arguments.Perm others) (applied : lambda.partialApply arguments = .ok result) :
    lambda.partialApply others = .ok result := by
  obtain ⟨bindings, binds, once, rfl⟩ := partialApply_eq_ok.mp applied
  obtain ⟨otherBindings, otherBinds, sameBindings⟩ := List.perm_comp_forall₂ rearranged.symm binds
  refine partialApply_eq_ok.mpr
    ⟨otherBindings, otherBinds, (rearranged.map Prod.fst).nodup_iff.mp once, ?_⟩
  have sameIds (p : Parameter) : (!(bindings.map Prod.fst).contains p.id) =
      !(otherBindings.map Prod.fst).contains p.id := by
    rw [Bool.not_inj_iff, Bool.eq_iff_iff, List.contains_iff_mem, List.contains_iff_mem,
      (sameBindings.map Prod.fst).mem_iff]
  rw [Substitution.ofPairs_perm (nodup_bound distinct binds once) sameBindings.symm,
    List.filter_congr fun p _ => sameIds p]

end Order

section Stages

/-- A binding of a parameter that is left binds it at its new position. -/
theorem Binds.staged {staged : Lambda} {argument : Nat × Value} {binding : Nat × Expr}
    {fixed : List Nat}
    (left : staged.parameters = unfixed fixed lambda.parameters) (untaken : argument.1 ∉ fixed)
    (bound : lambda.Binds argument binding) :
    staged.Binds (recount fixed argument.1, argument.2) binding := by
  obtain ⟨p, located, plain, fitting, rfl⟩ := bound
  exact ⟨p, left ▸ getElem?_unfixed located untaken, plain, fitting, rfl⟩

/-- Positions that are left and have parameters stay different when they are counted anew. Counting
    anew keeps the order of the positions that are left, so no two of them come to the same. -/
theorem nodup_recounted (distinct : (lambda.parameters.map Parameter.id).Nodup) {fixed : List Nat}
    (located : ∀ argument ∈ arguments, ∃ p, lambda.parameters[argument.1]? = some p)
    (untaken : ∀ argument ∈ arguments, argument.1 ∉ fixed)
    (once : (arguments.map Prod.fst).Nodup) :
    ((recounted fixed arguments).map Prod.fst).Nodup := by
  have positions : (recounted fixed arguments).map Prod.fst =
      (arguments.map Prod.fst).map (recount fixed) := by
    rw [recounted, List.map_map, List.map_map]
    rfl
  rw [positions]
  refine List.Nodup.map_on (fun position member other otherMember same => ?_) once
  obtain ⟨argument, given, rfl⟩ := List.mem_map.mp member
  obtain ⟨otherArgument, otherGiven, rfl⟩ := List.mem_map.mp otherMember
  obtain ⟨p, place⟩ := located argument given
  obtain ⟨q, otherPlace⟩ := located otherArgument otherGiven
  have moved := getElem?_unfixed place (untaken argument given)
  rw [same, getElem?_unfixed otherPlace (untaken otherArgument otherGiven)] at moved
  exact position_of_id distinct place otherPlace
    (congrArg Parameter.id (Option.some.inj moved).symm)

/-- Replacing by one list of constants and then by another, of other identities, is replacing by
    both. Constants have no parameters that the second replacement could find. -/
theorem substitute_staged {earlier later : Bindings} (body : Expr)
    (constants : ∀ binding ∈ earlier, ∃ value type, binding.2 = .constant value type)
    (apart : ((earlier ++ later).map Prod.fst).Nodup) :
    (body.substitute (.ofPairs earlier)).substitute (.ofPairs later) =
      body.substitute (.ofPairs (earlier ++ later)) := by
  refine Expr.substitute_substitute _ fun p _ => ?_
  rw [Substitution.ofPairs_append]
  cases found : Substitution.ofPairs earlier p.id with
  | none => rw [Option.getD_none, Option.or_none, Expr.substitute]
  | some replacement =>
    have member := Substitution.mem_of_ofPairs found
    have absent : Substitution.ofPairs later p.id = none := by
      rw [List.map_append, List.nodup_append] at apart
      exact Substitution.ofPairs_eq_none.mpr fun listed =>
        apart.2.2 p.id (List.mem_map_of_mem member) p.id listed rfl
    obtain ⟨value, type, same⟩ := constants _ member
    obtain rfl : replacement = .constant value type := same
    rw [absent, Option.none_or, Option.getD_some, Expr.substitute]

/-- Fixing arguments in two stages gives what fixing them at once gives. What the bindings of the
    second stage bind is the same as before, though their positions have moved. -/
theorem partialApply_append (distinct : (lambda.parameters.map Parameter.id).Nodup)
    (applied : lambda.partialApply (first ++ second) = .ok result) :
    ∃ staged, lambda.partialApply first = .ok staged ∧
      staged.partialApply (recounted (first.map Prod.fst) second) = .ok result := by
  obtain ⟨bindings, binds, once, rfl⟩ := partialApply_eq_ok.mp applied
  have firstBinds : List.Forall₂ lambda.Binds first (bindings.take first.length) := by
    simpa using List.forall₂_take first.length binds
  have secondBinds : List.Forall₂ lambda.Binds second (bindings.drop first.length) := by
    simpa using List.forall₂_drop first.length binds
  have apart := nodup_bound distinct binds once
  rw [← List.take_append_drop first.length bindings] at apart ⊢
  generalize bindings.take first.length = earlier at firstBinds apart ⊢
  generalize bindings.drop first.length = later at secondBinds apart ⊢
  rw [List.map_append, List.nodup_append] at once
  obtain ⟨onceFirst, onceSecond, different⟩ := once
  have untaken : ∀ argument ∈ second, argument.1 ∉ first.map Prod.fst :=
    fun argument member taken => different _ taken _ (List.mem_map_of_mem member) rfl
  refine ⟨_, partialApply_eq_ok.mpr ⟨earlier, firstBinds, onceFirst, rfl⟩,
    partialApply_eq_ok.mpr ⟨later, ?_, ?_, ?_⟩⟩
  · rw [recounted, List.forall₂_map_left_iff]
    exact ((List.forall₂_and_left _ _).mpr ⟨untaken, secondBinds⟩).imp fun argument binding given =>
      given.2.staged (unbound_eq_unfixed distinct firstBinds) given.1
  · refine nodup_recounted distinct (fun argument member => ?_) untaken onceSecond
    obtain ⟨binding, -, p, located, -⟩ := (exists_binds secondBinds).1 argument member
    exact ⟨p, located⟩
  · refine congrArg₂ Lambda.mk ?_ (substitute_staged _ (fun binding member => ?_) apart).symm
    · rw [List.filter_filter]
      refine List.filter_congr fun p _ => ?_
      rw [List.map_append, List.contains_append, Bool.not_or, Bool.and_comm]
    · obtain ⟨argument, -, p, -, -, -, rfl⟩ := (exists_binds firstBinds).2 binding member
      exact ⟨_, _, rfl⟩

/-- Partial application does not depend on the order of the arguments and can be staged. Over
    distinct parameters, arguments in another order are accepted when they were before, and give the
    same lambda. However accepted arguments are divided in two, fixing the first and then the
    second, at the positions that they have among the parameters that are left, succeeds and gives
    the lambda that fixing all of them gives.

    Proof: a lambda with fixed arguments is given by bindings of parameters to constants. Rearranged
    arguments give rearranged bindings, which replace the same, and in two stages the second finds
    its parameters at the positions that recounting gives. -/
theorem partialApply_in_any_order_and_stages
    (distinct : (lambda.parameters.map Parameter.id).Nodup) (arguments : List (Nat × Value)) :
    (∀ others, arguments.Perm others → ∀ result,
      lambda.partialApply arguments = .ok result ↔ lambda.partialApply others = .ok result) ∧
    ∀ first second, arguments.Perm (first ++ second) → ∀ result,
      lambda.partialApply arguments = .ok result →
        ∃ staged, lambda.partialApply first = .ok staged ∧
          staged.partialApply (recounted (first.map Prod.fst) second) = .ok result :=
  ⟨fun _ rearranged _ => ⟨partialApply_of_perm distinct rearranged,
      partialApply_of_perm distinct rearranged.symm⟩,
    fun _ _ divided _ applied =>
      partialApply_append distinct (partialApply_of_perm distinct divided applied)⟩

/-- The last of three arguments is fixed after the first, at the second of two positions. The
    recounted position is one less, since one parameter before it is gone. -/
theorem partialApply_in_two_stages :
    let a : Parameter := ⟨0, "a", .text⟩
    let b : Parameter := ⟨1, "b", .bool⟩
    let c : Parameter := ⟨2, "c", .text⟩
    let compared : Lambda := ⟨[a, b, c], .binary .or (.parameter b)
      (.binary (.relation .lt) (.parameter a) (.parameter c))⟩
    let last : Nat × Value := (2, .text "z")
    let first : Nat × Value := (0, .text "x")
    (compared.parameters.map Parameter.id).Nodup ∧ [last, first].Perm ([first] ++ [last]) ∧
      ∃ result staged, compared.partialApply [last, first] = .ok result ∧
        result.toText = "|b| (b || (\"x\" < \"z\"))" ∧
        compared.partialApply [first, last] = .ok result ∧
        compared.partialApply [first] = .ok staged ∧
        staged.partialApply [(1, .text "z")] = .ok result := by
  intro a b c compared last first
  have distinct : (compared.parameters.map Parameter.id).Nodup := by decide
  have swapped : [last, first].Perm ([first] ++ [last]) := List.Perm.swap first last []
  obtain ⟨reordered, stages⟩ := partialApply_in_any_order_and_stages distinct [last, first]
  obtain ⟨staged, begun, completed⟩ := stages [first] [last] swapped _ rfl
  exact ⟨distinct, swapped, _, staged, rfl, by decide, (reordered _ swapped _).mp rfl, begun,
    completed⟩

end Stages

end RecordQuery.Lambda
