import RecordQuery.Proofs.Lambda.PartialApplication
import RecordQuery.Proofs.Lambda.WellFormed

/-!
# Lambdas made from lambdas

Each way to make a lambda has inputs, parameters that the result takes and, where the result has the
value of one of the inputs, an outer lambda that gives its type. Whenever a lambda is made from
well-formed ones, it is well-formed over these parameters, whatever else the inputs read, and of
this type; what is made from predicates is a predicate.
-/

namespace RecordQuery

/-- A way to make a lambda from others. They are collected in one type, so that a statement on all
    of them is one statement. -/
inductive Construction where
  | and (first second : Lambda)
  | or (first second : Lambda)
  | not (lambda : Lambda)
  | widen (lambda : Lambda) (parameters : List Parameter)
  | andWidened (lambda wide : Lambda)
  | compose (inner outer : Lambda)
  | convertArgument (lambda : Lambda) (position : Nat) (converter : Lambda)
  | partialApply (lambda : Lambda) (arguments : List (Nat × Value))
  | cartesian (first second : Lambda)

namespace Construction

/-- The lambda that is made, if the inputs fit. A catalog deals out the identities of new
    parameters. -/
def build (catalog : Catalog) : Construction → Except CombinationError Lambda
  | and first second => first.and second
  | or first second => first.or second
  | not lambda => lambda.not
  | widen lambda parameters => lambda.widen parameters
  | andWidened lambda wide => lambda.andWidened wide
  | compose inner outer => inner.compose outer
  | convertArgument lambda position converter => lambda.convertArgument position converter
  | partialApply lambda arguments => lambda.partialApply arguments
  | cartesian first second =>
      let (firstId, next) := catalog.freshId
      Lambda.cartesian firstId next.freshId.1 first second

/-- The lambdas that the new one is made from. -/
def inputs : Construction → List Lambda
  | and first second | or first second | cartesian first second => [first, second]
  | not lambda | widen lambda _ | partialApply lambda _ => [lambda]
  | andWidened lambda wide => [lambda, wide]
  | compose inner outer => [inner, outer]
  | convertArgument lambda _ converter => [lambda, converter]

/-- The parameters that are given besides those of the inputs. -/
def given : Construction → List Parameter
  | widen _ parameters => parameters
  | _ => []

/-- The parameters of the new lambda. Of a lambda with fixed arguments, those at the other
    positions are left. -/
def parameters (catalog : Catalog) : Construction → List Parameter
  | and first _ | or first _ => first.parameters
  | not lambda => lambda.parameters
  | widen _ parameters => parameters
  | andWidened _ wide => wide.parameters
  | compose inner _ => inner.parameters
  | convertArgument lambda _ _ => lambda.parameters
  | partialApply lambda arguments =>
      (lambda.parameters.zipIdx.filter fun placed =>
        !(arguments.map Prod.fst).contains placed.2).map Prod.fst
  | cartesian first second =>
      (first.parameters.map fun p => ⟨catalog.next, "a", p.type⟩) ++
        second.parameters.map fun p => ⟨catalog.next + 1, "b", p.type⟩

/-- The input whose value the new lambda has, unless it has a truth value of its own. -/
def outer? : Construction → Option Lambda
  | and .. | or .. | not _ | andWidened .. | cartesian .. => none
  | widen lambda _ | convertArgument lambda _ _ | partialApply lambda _ => some lambda
  | compose _ outer => some outer

/-- The type of the new lambda, apart from whether it admits null. -/
def base (construction : Construction) : DataType :=
  construction.outer?.elim .bool fun outer => outer.type.base

variable {catalog : Catalog} {construction : Construction} {result : Lambda}

/-- What is made has the parameters of its construction. What is made reads none besides, as the
    next lemma shows. -/
theorem parameters_of_build (formed : ∀ input ∈ construction.inputs, input.WellFormed)
    (made : construction.build catalog = .ok result) :
    result.parameters = construction.parameters catalog := by
  cases construction with
  | and first second | or first second =>
    obtain ⟨-, -, -, -, rfl⟩ := Lambda.combined_eq_ok.mp made
    rfl
  | not lambda =>
    obtain ⟨-, rfl⟩ := Lambda.not_eq_ok.mp made
    rfl
  | widen lambda parameters =>
    obtain ⟨own, target, rest, -, -, -, rfl⟩ := Lambda.widen_eq_ok.mp made
    rfl
  | andWidened lambda wide =>
    obtain ⟨widened, ofUnary, merged⟩ := Lambda.andWidened_eq_ok.mp made
    obtain ⟨own, target, rest, -, -, -, rfl⟩ := Lambda.widen_eq_ok.mp ofUnary
    obtain ⟨-, -, -, -, rfl⟩ := Lambda.combined_eq_ok.mp merged
    rfl
  | compose inner outer =>
    obtain ⟨own, target, -, -, -, rfl⟩ := Lambda.compose_eq_ok.mp made
    rfl
  | convertArgument lambda position converter =>
    obtain ⟨input, target, -, -, -, -, rfl⟩ := Lambda.convertArgument_eq_ok.mp made
    rfl
  | partialApply lambda arguments =>
    obtain ⟨bindings, binds, -, rfl⟩ := Lambda.partialApply_eq_ok.mp made
    exact Lambda.unbound_eq_unfixed (formed lambda (by simp [inputs])).distinct binds
  | cartesian first second =>
    obtain ⟨own, other, single, otherSingle, -, -, rfl⟩ := Lambda.cartesian_eq_ok.mp made
    rw [parameters, single, otherSingle]
    rfl

/-- What is made from well-formed lambdas is well-formed. The cases are the ways of construction,
    and each comes to replacing parameters in bodies and joining them, which have their lemmas. -/
theorem wellFormed_of_build (formed : ∀ input ∈ construction.inputs, input.WellFormed)
    (distinct : (construction.given.map Parameter.id).Nodup)
    (made : construction.build catalog = .ok result) : result.WellFormed := by
  cases construction with
  | and first second | or first second =>
    obtain ⟨-, -, counted, -, rfl⟩ := Lambda.combined_eq_ok.mp made
    exact (formed first (by simp [inputs])).merge (formed second (by simp [inputs])) counted _
  | not lambda =>
    obtain ⟨-, rfl⟩ := Lambda.not_eq_ok.mp made
    have lambdaFormed := formed lambda (by simp [inputs])
    exact ⟨lambdaFormed.distinct, fun p occurs =>
      lambdaFormed.closed p (by simpa [Expr.parts] using occurs)⟩
  | widen lambda parameters =>
    obtain ⟨own, target, rest, single, starts, -, rfl⟩ := Lambda.widen_eq_ok.mp made
    exact (formed lambda (by simp [inputs])).applied single distinct (by simp [Expr.parts, starts])
  | andWidened lambda wide =>
    obtain ⟨widened, ofUnary, merged⟩ := Lambda.andWidened_eq_ok.mp made
    obtain ⟨own, target, rest, single, starts, -, rfl⟩ := Lambda.widen_eq_ok.mp ofUnary
    obtain ⟨-, -, counted, -, rfl⟩ := Lambda.combined_eq_ok.mp merged
    have wideFormed := formed wide (by simp [inputs])
    have widenedFormed : Lambda.WellFormed
        ⟨wide.parameters, lambda.body.substitute (.single own.id (.parameter target))⟩ :=
      (formed lambda (by simp [inputs])).applied single wideFormed.distinct
        (by simp [Expr.parts, starts])
    exact widenedFormed.merge wideFormed counted _
  | compose inner outer =>
    obtain ⟨own, target, single, outerSingle, -, rfl⟩ := Lambda.compose_eq_ok.mp made
    have innerFormed := formed inner (by simp [inputs])
    exact (formed outer (by simp [inputs])).applied outerSingle innerFormed.distinct
      innerFormed.closed
  | convertArgument lambda position converter =>
    obtain ⟨input, target, single, located, -, -, rfl⟩ := Lambda.convertArgument_eq_ok.mp made
    have converterFormed := formed converter (by simp [inputs])
    refine (formed lambda (by simp [inputs])).replaced fun p occurs => ?_
    have only := converterFormed.parameter_of_single single occurs
    obtain rfl : p = target := by simpa [Expr.parts] using only
    exact List.mem_of_getElem? located
  | partialApply lambda arguments =>
    obtain ⟨bindings, binds, -, rfl⟩ := Lambda.partialApply_eq_ok.mp made
    exact (formed lambda (by simp [inputs])).bound binds
  | cartesian first second =>
    obtain ⟨own, other, single, otherSingle, -, -, rfl⟩ := Lambda.cartesian_eq_ok.mp made
    refine ⟨by simp [Catalog.freshId], fun p occurs => ?_⟩
    simp only [Expr.parts, List.mem_cons, reduceCtorEq, List.mem_append, false_or] at occurs
    rcases occurs with left | right
    · have only := (formed first (by simp [inputs])).parameter_of_single single left
      simp only [Expr.parts, List.mem_singleton, Expr.parameter.injEq] at only
      simp [only]
    · have only := (formed second (by simp [inputs])).parameter_of_single otherSingle right
      simp only [Expr.parts, List.mem_singleton, Expr.parameter.injEq] at only
      simp [only]

/-- What is made from well-formed lambdas is of the base type of its construction. Whether it admits
    null may change, since arguments of another kind may take the place of parameters. -/
theorem base_of_build (formed : ∀ input ∈ construction.inputs, input.WellFormed)
    (made : construction.build catalog = .ok result) :
    result.type.base = construction.base := by
  cases construction with
  | and first second | or first second =>
    obtain ⟨-, -, -, -, rfl⟩ := Lambda.combined_eq_ok.mp made
    rfl
  | not lambda =>
    obtain ⟨-, rfl⟩ := Lambda.not_eq_ok.mp made
    rfl
  | widen lambda parameters =>
    obtain ⟨own, target, rest, single, -, same, rfl⟩ := Lambda.widen_eq_ok.mp made
    refine (formed lambda (by simp [inputs])).base_of_replaced (by simp [single]) ?_
    rw [Expr.type, same]
  | andWidened lambda wide =>
    obtain ⟨widened, -, merged⟩ := Lambda.andWidened_eq_ok.mp made
    obtain ⟨-, -, -, -, rfl⟩ := Lambda.combined_eq_ok.mp merged
    rfl
  | compose inner outer =>
    obtain ⟨own, target, -, outerSingle, fits, rfl⟩ := Lambda.compose_eq_ok.mp made
    refine (formed outer (by simp [inputs])).base_of_replaced (by simp [outerSingle]) ?_
    exact DataType.base_eq_of_accepts fits
  | convertArgument lambda position converter =>
    obtain ⟨input, target, single, located, same, fits, rfl⟩ :=
      Lambda.convertArgument_eq_ok.mp made
    refine (formed lambda (by simp [inputs])).base_of_replaced (List.mem_of_getElem? located) ?_
    have converted :
        (converter.body.substitute (.single input.id (.parameter target))).type.base =
          converter.type.base :=
      (formed converter (by simp [inputs])).base_of_replaced (by simp [single])
        (by rw [Expr.type, same])
    exact converted.trans (DataType.base_eq_of_accepts fits)
  | partialApply lambda arguments =>
    obtain ⟨bindings, binds, -, rfl⟩ := Lambda.partialApply_eq_ok.mp made
    exact (formed lambda (by simp [inputs])).base_of_bound binds
  | cartesian first second =>
    obtain ⟨own, other, -, -, -, -, rfl⟩ := Lambda.cartesian_eq_ok.mp made
    rfl

/-- Every way to make lambdas keeps them well-formed and keeps their types. What is made from
    well-formed lambdas, over distinct parameters where these are given, is well-formed and has the
    parameters of its construction. No other parameter of its inputs is left in it. Its type is that
    of the outer lambda, apart from whether it admits null, and a truth value without one, so what
    has the value of a predicate is a predicate.

    Proof: well-formedness, parameters and base type are proved one after the other, each by cases
    on the construction. That no other parameter is left follows from the result being closed. -/
theorem build_wellFormed_and_typed (catalog : Catalog)
    (formed : ∀ input ∈ construction.inputs, input.WellFormed)
    (distinct : (construction.given.map Parameter.id).Nodup)
    (made : construction.build catalog = .ok result) :
    result.WellFormed ∧ result.parameters = construction.parameters catalog ∧
      (∀ input ∈ construction.inputs, ∀ p ∈ input.parameters,
        p.id ∉ (construction.parameters catalog).map Parameter.id →
          result.body.references p.id = false) ∧
      result.type.base = construction.base ∧
      ((∀ outer ∈ construction.outer?, outer.isPredicate = true) → result.isPredicate = true) := by
  have resultFormed := wellFormed_of_build formed distinct made
  have sameParameters := parameters_of_build formed made
  have sameBase := base_of_build formed made
  refine ⟨resultFormed, sameParameters, fun input _ p _ foreign => ?_, sameBase,
    fun predicate => ?_⟩
  · rw [← sameParameters] at foreign
    rw [Bool.eq_false_iff]
    exact fun occurs => foreign (resultFormed.id_mem_of_references occurs)
  · rw [Lambda.isPredicate_iff, sameBase, base]
    cases known : construction.outer? with
    | none => rfl
    | some outer => exact Lambda.isPredicate_iff.mp (predicate outer known)

/-- A converter with the parameter of another position negates the argument that it is made for. Its
    own parameter is one of the lambda, and is not mixed up with it. -/
theorem build_converted_argument :
    let a : Parameter := ⟨0, "a", .bool⟩
    let b : Parameter := ⟨1, "b", .bool⟩
    let both : Lambda := ⟨[a, b], .binary .and (.parameter a) (.parameter b)⟩
    let opposite : Lambda := ⟨[a], .not (.parameter a)⟩
    both.WellFormed ∧ opposite.WellFormed ∧
      ∃ result, (convertArgument both 1 opposite).build {} = .ok result ∧
        result.toText = "|a, b| (a && !b)" ∧ result.WellFormed ∧ result.isPredicate = true := by
  intro a b both opposite
  have bothFormed : both.WellFormed := ⟨by decide, by simp [both, Expr.parts]⟩
  have oppositeFormed : opposite.WellFormed := ⟨by decide, by simp [opposite, Expr.parts]⟩
  have formed : ∀ input ∈ (convertArgument both 1 opposite).inputs, input.WellFormed := by
    simp [inputs, bothFormed, oppositeFormed]
  obtain ⟨resultFormed, -, -, -, predicate⟩ :=
    build_wellFormed_and_typed {} formed List.nodup_nil rfl
  refine ⟨bothFormed, oppositeFormed, _, rfl, by decide, resultFormed, ?_⟩
  apply predicate
  rintro outer ⟨⟩
  rfl

end Construction

end RecordQuery
