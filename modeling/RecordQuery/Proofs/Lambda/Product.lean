import RecordQuery.Proofs.Lambda.Application
import RecordQuery.Proofs.Lambda.Connectives

/-!
# Predicates of several arguments

A unary predicate is widened over the parameters of another predicate, of which it reads the first,
and two unary predicates meet in a product over two parameters of its own. Either way one predicate
is asked of its argument, and where it holds the other one of its arguments. Bodies are taken over
to parameters that they may know under another meaning, so neither side may take the argument of the
other for its own. The parameters of a product are dealt out anew, after all that its sides read.
-/

namespace RecordQuery

/-- Whether a catalog has dealt out all that a lambda reads besides its own parameters. -/
def Catalog.Supplies (catalog : Catalog) (lambda : Lambda) : Prop :=
  ∀ id, lambda.body.references id = true →
    id ∈ lambda.parameters.map Parameter.id ∨ id < catalog.next

namespace Lambda

variable {lambda wide widened both first second : Lambda} {own other a b : Parameter}
  {arguments rest : List Operand} {argument : Operand}

section Widened

/-- A widened lambda asks the first of its arguments. The other arguments are bound and never
    read. -/
theorem Closed.test_widened (closed : lambda.Closed) {parameters : List Parameter}
    (distinct : (parameters.map Parameter.id).Nodup) (made : lambda.widen parameters = .ok widened)
    (counted : (argument :: rest).length = parameters.length) :
    widened.test (argument :: rest) = lambda.test [argument] := by
  obtain ⟨own, target, others, single, rfl, -, rfl⟩ := widen_eq_ok.mp made
  have found : (bind (target :: others) (argument :: rest)).find? target.id = some argument :=
    find?_bind_position distinct counted (show (target :: others)[0]? = some target from rfl) rfl
  have stands : (Expr.parameter target).eval (bind (target :: others) (argument :: rest)) =
      .ok argument := by rw [Expr.eval, found]
  rw [test_of_counted counted, Expr.truthIn, closed.eval_applied single stands, test]

/-- A widened lambda has the parameters that it was given. -/
theorem parameters_of_widen {parameters : List Parameter}
    (made : lambda.widen parameters = .ok widened) : widened.parameters = parameters := by
  obtain ⟨own, target, others, -, -, -, rfl⟩ := widen_eq_ok.mp made
  rfl

/-- Only over a first parameter can a predicate be widened. -/
theorem arity_of_andWidened (made : lambda.andWidened wide = .ok both) : wide.arity ≠ 0 := by
  obtain ⟨widened, ofUnary, -⟩ := andWidened_eq_ok.mp made
  obtain ⟨own, target, others, -, starts, -, -⟩ := widen_eq_ok.mp ofUnary
  rw [arity, starts]
  exact Nat.succ_ne_zero _

/-- A predicate that is widened over another one is asked of the first argument and, where it holds,
    the other one of all. The widened lambda has the parameters of the wide one, so their
    conjunction is one over the same list. -/
theorem test_andWidened (closed : lambda.Closed)
    (distinct : (wide.parameters.map Parameter.id).Nodup) (wideClosed : wide.Closed)
    (made : lambda.andWidened wide = .ok both) (counted : (argument :: rest).length = wide.arity) :
    both.test (argument :: rest) = (do
      if ← lambda.test [argument] then wide.test (argument :: rest) else return false) := by
  obtain ⟨widened, ofUnary, merged⟩ := andWidened_eq_ok.mp made
  have distinctWidened : (widened.parameters.map Parameter.id).Nodup := by
    rwa [parameters_of_widen ofUnary]
  rw [test_and distinctWidened wideClosed merged, closed.test_widened distinct ofUnary counted]

/-- With another number of arguments it fails as the other one does. This includes no arguments at
    all, where there is no first one to ask about. -/
theorem test_andWidened_of_miscounted (made : lambda.andWidened wide = .ok both)
    (miscounted : arguments.length ≠ wide.arity) : both.test arguments = wide.test arguments := by
  obtain ⟨widened, ofUnary, merged⟩ := andWidened_eq_ok.mp made
  obtain ⟨-, -, -, -, rfl⟩ := combined_eq_ok.mp merged
  have taken := parameters_of_widen ofUnary
  have sameArity : (merge .and widened wide).arity = wide.arity := congrArg List.length taken
  rw [test_of_miscounted miscounted, test_of_miscounted (sameArity ▸ miscounted), sameArity]

end Widened

section Product

variable {catalog : Catalog}

/-- A closed lambda reads nothing that may still be dealt out. -/
theorem Closed.supplied (closed : lambda.Closed) (catalog : Catalog) : catalog.Supplies lambda :=
  fun id occurs => .inl (closed id occurs)

/-- What a unary lambda reads besides its parameter is not among what is dealt out next. Identities
    are dealt out in order, and whatever was dealt before is smaller. -/
theorem fresh_of_supplied (supplied : catalog.Supplies lambda) (single : lambda.parameters = [own])
    {p : Parameter} (occurs : .parameter p ∈ lambda.body.parts) (foreign : p.id ≠ own.id) :
    p.id ∉ [catalog.freshId.1, catalog.freshId.2.freshId.1] := by
  have read : lambda.body.references p.id = true := (Expr.references_iff _).mpr ⟨p, occurs, rfl⟩
  have before : p.id < catalog.next := by
    rcases supplied p.id read with known | dealt
    · rw [single] at known
      exact absurd (List.mem_singleton.mp known) foreign
    · exact dealt
  simp only [Catalog.freshId, List.mem_cons, List.not_mem_nil, or_false]
  omega

/-- Over two distinct parameters that neither of two unary predicates reads besides its own, each
    side of their product is asked of its own argument. The two predicates may even be the same one,
    since each gets a parameter of its own. -/
theorem test_product (different : a.id ≠ b.id) (single : first.parameters = [own])
    (otherSingle : second.parameters = [other])
    (fresh : ∀ p, .parameter p ∈ first.body.parts → p.id ≠ own.id → p.id ∉ [a.id, b.id])
    (otherFresh : ∀ p, .parameter p ∈ second.body.parts → p.id ≠ other.id → p.id ∉ [a.id, b.id])
    (x y : Operand) :
    test ⟨[a, b], .binary .and (first.body.substitute (.single own.id (.parameter a)))
        (second.body.substitute (.single other.id (.parameter b)))⟩ [x, y] = (do
      if ← first.test [x] then second.test [y] else return false) := by
  have readsFirst : (Expr.parameter a).eval (bind [a, b] [x, y]) = .ok x := by
    simp [Expr.eval, bind, Scope.find?, different.symm]
  have readsSecond : (Expr.parameter b).eval (bind [a, b] [x, y]) = .ok y := by
    simp [Expr.eval, bind, Scope.find?]
  have left := eval_applied single readsFirst fun p occurs foreign =>
    Scope.find?_eq_none.mpr (fresh p occurs foreign)
  have right := eval_applied otherSingle readsSecond fun p occurs foreign =>
    Scope.find?_eq_none.mpr (otherFresh p occurs foreign)
  rw [test_of_counted rfl, Expr.truthIn_and_eq, Expr.truthIn, Expr.truthIn, left, right, test, test]

end Product

/-- Widening and products keep each predicate to its own argument. A closed unary predicate that is
    widened over a closed one of distinct parameters is asked of the first argument and, where it
    holds, the other one of all arguments; another number of arguments is refused as the other one
    refuses it. Any two unary predicates, whatever they share, have a product over two distinct
    parameters, where the first is asked of one argument and, where it holds, the second of the
    other. Errors are those of the predicate that is asked.

    Proof: widening replaces the only parameter by the first of the list, so the widened predicate
    is tested on the first argument, and the rest is the conjunction of two lambdas. A product
    replaces the two parameters by new ones, which occur in neither body. -/
theorem test_of_widened_and_product :
    (∀ {lambda wide both : Lambda}, lambda.Closed → (wide.parameters.map Parameter.id).Nodup →
      wide.Closed → lambda.andWidened wide = .ok both →
        wide.arity ≠ 0 ∧
        (∀ argument rest, (argument :: rest).length = wide.arity →
          both.test (argument :: rest) = (do
            if ← lambda.test [argument] then wide.test (argument :: rest) else return false)) ∧
        ∀ arguments, arguments.length ≠ wide.arity → both.test arguments = wide.test arguments) ∧
    ∀ (catalog : Catalog) {first second : Lambda},
      first.arity = 1 → first.isPredicate = true → second.arity = 1 → second.isPredicate = true →
      catalog.Supplies first → catalog.Supplies second →
        ∃ product a b, cartesian catalog.freshId.1 catalog.freshId.2.freshId.1 first second =
            .ok product ∧ product.parameters = [a, b] ∧ a.id ≠ b.id ∧
          ∀ x y, product.test [x, y] = (do
            if ← first.test [x] then second.test [y] else return false) := by
  constructor
  · intro lambda wide both closed distinct wideClosed made
    refine ⟨arity_of_andWidened made, fun argument rest counted => ?_, fun arguments => ?_⟩
    · exact test_andWidened closed distinct wideClosed made counted
    · exact test_andWidened_of_miscounted made
  · intro catalog first second unary isBool otherUnary otherIsBool supplied otherSupplied
    obtain ⟨own, single⟩ := List.length_eq_one_iff.mp unary
    obtain ⟨other, otherSingle⟩ := List.length_eq_one_iff.mp otherUnary
    have different : catalog.freshId.1 ≠ catalog.freshId.2.freshId.1 := by simp [Catalog.freshId]
    refine ⟨_, _, _,
      cartesian_eq_ok.mpr ⟨own, other, single, otherSingle, isBool, otherIsBool, rfl⟩,
      rfl, different, test_product different single otherSingle ?_ ?_⟩
    · intro p occurs foreign
      exact fresh_of_supplied supplied single occurs foreign
    · intro p occurs foreign
      exact fresh_of_supplied otherSupplied otherSingle occurs foreign

/-- The parameter of the unary predicate is the last of the wide one, and it is widened to the
    first. The product of the predicate with itself asks two texts. -/
theorem test_of_shared_parameter :
    let x : Parameter := ⟨0, "x", .text⟩
    let y : Parameter := ⟨1, "y", .text⟩
    let early : Lambda :=
      ⟨[x], .binary (.relation .lt) (.parameter x) (.constant (.text "m") .text)⟩
    let ordered : Lambda := ⟨[y, x], .binary (.relation .lt) (.parameter y) (.parameter x)⟩
    let catalog : Catalog := { next := 2 }
    let text (content : String) : Operand := .value (.text content)
    early.Closed ∧ (ordered.parameters.map Parameter.id).Nodup ∧ ordered.Closed ∧
      (∃ both, early.andWidened ordered = .ok both ∧
        both.toText = "|y, x| ((y < \"m\") && (y < x))" ∧
        both.test [text "a", text "k"] = .ok true ∧ both.test [text "p", text "z"] = .ok false ∧
        both.test [.value (.bool true), text "z"] =
          .error (.incomparable (.bool true) (.text "m")) ∧
        both.test [text "p"] = .error (.arity 2 1)) ∧
      early.arity = 1 ∧ early.isPredicate = true ∧ catalog.Supplies early ∧
      ∃ product a b, cartesian 2 3 early early = .ok product ∧ product.parameters = [a, b] ∧
        a.id ≠ b.id ∧ product.toText = "|a, b| ((a < \"m\") && (b < \"m\"))" ∧
        product.test [text "a", text "p"] = .ok false := by
  intro x y early ordered catalog text
  have closed : early.Closed := by
    intro id occurs
    simp only [early, Expr.references, Bool.or_false, beq_iff_eq] at occurs
    exact occurs ▸ List.mem_cons_self
  have distinct : (ordered.parameters.map Parameter.id).Nodup := by decide
  have wideClosed : ordered.Closed := by
    intro id occurs
    simp only [ordered, x, y, Expr.references, Bool.or_eq_true, beq_iff_eq] at occurs
    rcases occurs with rfl | rfl <;> decide
  have supplied : catalog.Supplies early := closed.supplied catalog
  obtain ⟨widens, products⟩ := test_of_widened_and_product
  obtain ⟨-, asked, refused⟩ :=
    widens closed distinct wideClosed (show early.andWidened ordered = .ok _ from rfl)
  obtain ⟨product, a, b, made, taken, different, meets⟩ :=
    products catalog (rfl : early.arity = 1) rfl (rfl : early.arity = 1) rfl supplied supplied
  obtain rfl := Except.ok.inj ((show cartesian 2 3 early early = .ok _ from rfl).symm.trans made)
  refine ⟨closed, distinct, wideClosed, ⟨_, rfl, by decide, ?_, ?_, ?_, ?_⟩, rfl, rfl, supplied,
    _, a, b, made, taken, different, by decide, ?_⟩
  · exact (asked _ _ rfl).trans rfl
  · exact (asked _ _ rfl).trans rfl
  · exact (asked _ _ rfl).trans rfl
  · exact (refused _ (by decide)).trans rfl
  · exact (meets _ _).trans rfl

end Lambda

end RecordQuery
