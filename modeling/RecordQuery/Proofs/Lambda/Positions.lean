import RecordQuery.Expr.Eval
import RecordQuery.Proofs.Lookup

/-!
# Positions of fixed arguments

Fixing some arguments of a lambda leaves the items at the other positions, in order, so an item
that is left moves up by the fixed ones before it. The arguments of the whole call are the fixed
values at their positions and, at the others, those that are given, one after the other.
-/

namespace RecordQuery.Lambda

universe u
variable {α : Type u} {fixed : List Nat} {items : List α} {position : Nat}

section Unfixed

/-- The items of a list, counted from a position, that are not at a fixed one. -/
def unfixedFrom (fixed : List Nat) (position : Nat) (items : List α) : List α :=
  ((items.zipIdx position).filter fun placed => !fixed.contains placed.2).map Prod.fst

/-- The items of a list that are not at a fixed position. -/
def unfixed (fixed : List Nat) (items : List α) : List α :=
  unfixedFrom fixed 0 items

/-- Where the item of a position stands among those that are left. -/
def recount (fixed : List Nat) (position : Nat) : Nat :=
  (List.range position).countP fun earlier => !fixed.contains earlier

/-- Arguments at the positions that they have among those that are left. -/
def recounted (fixed : List Nat) (arguments : List (Nat × Value)) : List (Nat × Value) :=
  arguments.map fun argument => (recount fixed argument.1, argument.2)

/-- An item at a fixed position is not left. -/
theorem unfixedFrom_cons_fixed (taken : position ∈ fixed) (item : α) (rest : List α) :
    unfixedFrom fixed position (item :: rest) = unfixedFrom fixed (position + 1) rest := by
  simp [unfixedFrom, List.zipIdx_cons, taken]

/-- An item at any other position is left in front of those behind it. -/
theorem unfixedFrom_cons_left (untaken : position ∉ fixed) (item : α) (rest : List α) :
    unfixedFrom fixed position (item :: rest) = item :: unfixedFrom fixed (position + 1) rest := by
  simp [unfixedFrom, List.zipIdx_cons, untaken]

/-- What is left of a list is in its order. -/
theorem unfixed_sublist (fixed : List Nat) (items : List α) :
    (unfixed fixed items).Sublist items := by
  conv_rhs => rw [← List.zipIdx_map_fst 0 items]
  exact List.filter_sublist.map Prod.fst

/-- As many items are left as positions before the end of the list. -/
theorem length_unfixed (fixed : List Nat) (items : List α) :
    (unfixed fixed items).length = recount fixed items.length := by
  rw [unfixed, unfixedFrom, List.length_map, ← List.countP_eq_length_filter, recount,
    List.range_eq_range', ← List.zipIdx_map_snd 0 items, List.countP_map]
  rfl

/-- What is left of two lists in a row, the second of them counted on from the first. -/
theorem unfixed_append (fixed : List Nat) (front back : List α) :
    unfixed fixed (front ++ back) = unfixed fixed front ++ unfixedFrom fixed front.length back := by
  simp [unfixed, unfixedFrom, List.zipIdx_append]

/-- The item of a position that is not fixed is left, at its new position. Its new position is the
    number of positions before it that are not fixed. -/
theorem getElem?_unfixed {item : α} (located : items[position]? = some item)
    (untaken : position ∉ fixed) :
    (unfixed fixed items)[recount fixed position]? = some item := by
  obtain ⟨below, rfl⟩ := List.getElem?_eq_some_iff.mp located
  have counted : (items.take position).length = position :=
    List.length_take_of_le (Nat.le_of_lt below)
  have parted : items = items.take position ++ items[position] :: items.drop (position + 1) := by
    rw [List.getElem_cons_drop, List.take_append_drop]
  conv_lhs => rw [parted]
  rw [unfixed_append, counted, unfixedFrom_cons_left untaken]
  have moved : (unfixed fixed (items.take position)).length = recount fixed position := by
    rw [length_unfixed, counted]
  rw [List.getElem?_append_right (Nat.le_of_eq moved), moved, Nat.sub_self,
    List.getElem?_cons_zero]

end Unfixed

section Arguments

/-- The arguments for a list of parameters, counted from a position: the fixed value where there is
    one, and otherwise the next of those that are given. It ends where arguments are missing, which
    does not happen when their number is right. -/
def argumentsFrom (fixed : List (Nat × Value)) :
    Nat → List Parameter → List Operand → List Operand
  | _, [], _ => []
  | position, _ :: others, given =>
      match fixed.lookup position with
      | some value => .value value :: argumentsFrom fixed (position + 1) others given
      | none =>
          match given with
          | [] => []
          | next :: rest => next :: argumentsFrom fixed (position + 1) others rest

/-- All arguments of a lambda: the fixed values at their positions and the given arguments, in
    order, at the others. -/
def argumentsWith (lambda : Lambda) (fixed : List (Nat × Value)) (given : List Operand) :
    List Operand :=
  argumentsFrom fixed 0 lambda.parameters given

variable {fixed : List (Nat × Value)} {parameters : List Parameter} {given : List Operand}
  {value : Value}

/-- At a fixed position the fixed value is the argument, and no given argument is used up. -/
theorem argumentsFrom_fixed (found : fixed.lookup position = some value) (p : Parameter)
    (others : List Parameter) (given : List Operand) :
    argumentsFrom fixed position (p :: others) given =
      .value value :: argumentsFrom fixed (position + 1) others given := by
  simp only [argumentsFrom, found]

/-- At any other position the next given argument is the argument. -/
theorem argumentsFrom_left (absent : fixed.lookup position = none) (p : Parameter)
    (others : List Parameter) (next : Operand) (rest : List Operand) :
    argumentsFrom fixed position (p :: others) (next :: rest) =
      next :: argumentsFrom fixed (position + 1) others rest := by
  simp only [argumentsFrom, absent]

/-- With as many arguments as there are parameters left, every parameter has one: at fixed positions
    the fixed value, and at the others the given arguments in order. The induction goes along the
    parameters, with the position and the given arguments general. -/
theorem argumentsFrom_complete
    (counted : given.length = (unfixedFrom (fixed.map Prod.fst) position parameters).length) :
    (argumentsFrom fixed position parameters given).length = parameters.length ∧
      unfixedFrom (fixed.map Prod.fst) position (argumentsFrom fixed position parameters given) =
        given ∧
      ∀ placed ∈ (argumentsFrom fixed position parameters given).zipIdx position,
        ∀ value, fixed.lookup placed.2 = some value → placed.1 = .value value := by
  induction parameters generalizing position given with
  | nil =>
    obtain rfl := List.length_eq_zero_iff.mp counted
    exact ⟨rfl, rfl, by simp [argumentsFrom]⟩
  | cons p others inductionHypothesis =>
    cases found : fixed.lookup position with
    | some value =>
      have taken : position ∈ fixed.map Prod.fst := List.mem_map_of_mem (mem_of_lookup found)
      rw [unfixedFrom_cons_fixed taken] at counted
      obtain ⟨complete, left, valued⟩ := inductionHypothesis counted
      rw [argumentsFrom_fixed found, unfixedFrom_cons_fixed taken, List.zipIdx_cons,
        List.forall_mem_cons]
      refine ⟨congrArg (· + 1) complete, left, fun other same => ?_, valued⟩
      rw [Option.some.inj (found.symm.trans same)]
    | none =>
      have untaken := lookup_eq_none.mp found
      rw [unfixedFrom_cons_left untaken] at counted
      obtain ⟨next, rest, rfl⟩ := List.exists_cons_of_length_eq_add_one counted
      obtain ⟨complete, left, valued⟩ := inductionHypothesis (Nat.succ.inj counted)
      rw [argumentsFrom_left found, unfixedFrom_cons_left untaken, left, List.zipIdx_cons,
        List.forall_mem_cons]
      refine ⟨congrArg (· + 1) complete, rfl, fun other same => ?_, valued⟩
      cases found.symm.trans same

variable {lambda : Lambda} {fixed : List (Nat × Value)}

/-- As many arguments as are left make one for every parameter. -/
theorem length_argumentsWith
    (counted : given.length = (unfixed (fixed.map Prod.fst) lambda.parameters).length) :
    (lambda.argumentsWith fixed given).length = lambda.arity :=
  (argumentsFrom_complete counted).1

/-- The arguments at positions that are not fixed are those that are given. -/
theorem unfixed_argumentsWith
    (counted : given.length = (unfixed (fixed.map Prod.fst) lambda.parameters).length) :
    unfixed (fixed.map Prod.fst) (lambda.argumentsWith fixed given) = given :=
  (argumentsFrom_complete counted).2.1

/-- The argument at a fixed position is the value that it is fixed to. Each position is fixed once,
    so that there is one value for it. -/
theorem getElem?_argumentsWith
    (counted : given.length = (unfixed (fixed.map Prod.fst) lambda.parameters).length)
    (once : (fixed.map Prod.fst).Nodup) (member : (position, value) ∈ fixed)
    (within : position < lambda.arity) :
    (lambda.argumentsWith fixed given)[position]? = some (.value value) := by
  have below : position < (lambda.argumentsWith fixed given).length := by
    rwa [length_argumentsWith counted]
  have located := List.getElem?_eq_getElem below
  rw [located]
  exact congrArg some ((argumentsFrom_complete counted).2.2 (_, position)
    (List.mem_zipIdx_iff_getElem?.mpr located) value ((lookup_eq_some once).mpr member))

end Arguments

end RecordQuery.Lambda
