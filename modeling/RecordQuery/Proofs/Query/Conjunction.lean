import RecordQuery.Proofs.Compiled.Body
import RecordQuery.Proofs.Predicate.Connectives
import RecordQuery.Proofs.Query.Rows
import RecordQuery.Proofs.Sql.Translation
import RecordQuery.Query.Application
import RecordQuery.Query.Select

/-!
# Filters one by one and all at once

Filters are applied one after the other, or their conjunction is applied once. On rows, a filter
is asked about what the ones before it kept, and the conjunction asks it where those before it
hold: one succeeds where the other does, though they may fail with the errors of different
records, and both keep the same records in the same order. In a statement, the conjunction has one
condition in place of the conditions of all filters, which are its operands from the left. Either
way, filters that are dropped leave no trace, and a literal that cannot be read fails both.
-/

namespace RecordQuery

/-- Conditions joined from the left, each pair in parentheses, if there are any. -/
def Sql.conjoined? : List Sql → Option Sql
  | [] => none
  | first :: rest => some (rest.foldl (fun joined condition => group (and joined condition)) first)

example (a b c : Sql) :
    Sql.conjoined? [a, b, c] = some (.group (.and (.group (.and a b)) c)) := rfl

/-- The statement with more conditions. -/
def Select.restrict (select : Select) (conditions : List Sql) : Select :=
  { select with conditions := select.conditions ++ conditions }

namespace Predicate

variable {first second : Predicate} {rest : List Predicate} {sql : Sql}

/-- A predicate on the records bound to a parameter: it yields a truth value and reads no other
    parameter. -/
structure Over (p : Parameter) (predicate : Predicate) : Prop where
  bound : predicate.parameter = p
  isBool : predicate.body.isBool = true
  closed : predicate.Closed

/-- A predicate that yields a truth value has the form of its body as its condition. -/
theorem toCondition_eq_ok (isBool : first.body.isBool = true) :
    first.toLambda.toCondition = .ok sql ↔ Sql.ofExpr first.body = .ok sql := by
  rw [Lambda.toCondition_eq_ok]
  exact ⟨fun ⟨_, _, form⟩ => form, fun form => ⟨rfl, isBool, form⟩⟩

/-- The condition of a conjunction over one parameter joins the conditions of both predicates. Over
    one parameter nothing is replaced, so the conditions are the same ones. -/
theorem toCondition_and {p : Parameter} (bound : first.parameter = p)
    (isBool : first.body.isBool = true) (proper : second.Over p) :
    (first.and second).toLambda.toCondition = .ok sql ↔
      ∃ left right, first.toLambda.toCondition = .ok left ∧
        second.toLambda.toCondition = .ok right ∧ sql = .group (.and left right) := by
  have unchanged : second.body.substitute
      (.single second.parameter.id (.parameter first.parameter)) = second.body := by
    refine second.body.substitute_self fun other occurs => ?_
    rw [proper.closed other occurs, proper.bound, bound]
    simp [Substitution.single, Substitution.extend]
  have joined : (first.and second).body = .binary .and first.body second.body := by
    rw [Predicate.and, merge, unchanged]
  rw [toCondition_eq_ok (by rw [joined]; rfl), joined]
  simp only [toCondition_eq_ok isBool, toCondition_eq_ok proper.isBool]
  exact Sql.ofExpr_and

/-- The condition of a conjunction of many predicates over one parameter joins the conditions of all
    of them from the left. The induction takes the first predicate general, since it grows. -/
theorem toCondition_foldl_and {p : Parameter} (bound : first.parameter = p)
    (isBool : first.body.isBool = true) (proper : ∀ predicate ∈ rest, predicate.Over p) :
    (rest.foldl and first).toLambda.toCondition = .ok sql ↔
      ∃ conditions, (first :: rest).mapM (fun predicate => predicate.toLambda.toCondition) =
        .ok conditions ∧ Sql.conjoined? conditions = some sql := by
  simp only [mapM_eq_ok]
  induction rest generalizing first with
  | nil =>
    constructor
    · intro translated
      exact ⟨[sql], .cons translated .nil, rfl⟩
    · rintro ⟨_, _ | ⟨translated, _ | _⟩, joined⟩
      cases joined
      exact translated
  | cons second rest inductionHypothesis =>
    obtain ⟨properSecond, properRest⟩ := List.forall_mem_cons.mp proper
    -- The conjunction of the first two predicates takes the place of the first.
    have shared : (first.and second).parameter = p := bound
    rw [List.foldl_cons, inductionHypothesis shared rfl properRest]
    constructor
    · rintro ⟨_, _ | ⟨translated, others⟩, joined⟩
      obtain ⟨left, right, ofFirst, ofSecond, rfl⟩ :=
        (toCondition_and bound isBool properSecond).mp translated
      exact ⟨_, .cons ofFirst (.cons ofSecond others), joined⟩
    · rintro ⟨_, _ | ⟨ofFirst, _ | ⟨ofSecond, others⟩⟩, joined⟩
      exact ⟨_, .cons ((toCondition_and bound isBool properSecond).mpr
        ⟨_, _, ofFirst, ofSecond, rfl⟩) others, joined⟩

end Predicate

/-- A statement is filtered exactly when the predicate has a condition, which it then gains. -/
theorem Select.filter_eq_ok {select final : Select} {predicate : Predicate} :
    Source.filter select predicate = .ok final ↔
      ∃ condition, predicate.toLambda.toCondition = .ok condition ∧
        final = select.restrict [condition] :=
  mapError_eq_ok.trans change_eq_ok

/-- A statement filtered by predicates gains the conditions of all of them, in order. If one of them
    has no condition, nothing is filtered. -/
theorem Select.foldlM_filter_eq_ok {select final : Select} {predicates : List Predicate} :
    predicates.foldlM Source.filter select = .ok final ↔
      ∃ conditions, predicates.mapM (fun predicate => predicate.toLambda.toCondition) =
        .ok conditions ∧ final = select.restrict conditions := by
  simp only [mapM_eq_ok]
  induction predicates generalizing select with
  | nil =>
    rw [List.foldlM_nil, pure_eq_ok]
    constructor
    · rintro rfl
      exact ⟨[], .nil, by simp [restrict]⟩
    · rintro ⟨_, _ | _, rfl⟩
      simp [restrict]
  | cons first rest inductionHypothesis =>
    rw [foldlM_cons_eq_ok]
    constructor
    · rintro ⟨next, filtered, remaining⟩
      obtain ⟨condition, translated, rfl⟩ := filter_eq_ok.mp filtered
      obtain ⟨conditions, others, rfl⟩ := inductionHypothesis.mp remaining
      exact ⟨condition :: conditions, .cons translated others, by simp [restrict]⟩
    · rintro ⟨_, _ | ⟨translated, others⟩, rfl⟩
      exact ⟨_, filter_eq_ok.mpr ⟨_, translated, rfl⟩,
        inductionHypothesis.mpr ⟨_, others, by simp [restrict]⟩⟩

/-- A statement filtered by the conjunction of predicates over one parameter gains the conditions of
    all of them as one. Without predicates there is no condition, and the statement stays as it
    is. -/
theorem Select.filter_conjunction_eq_ok {p : Parameter} {select final : Select}
    {predicates : List Predicate} (proper : ∀ predicate ∈ predicates, predicate.Over p) :
    (Predicate.conjunction? predicates).elim (.ok select) (Source.filter select) = .ok final ↔
      ∃ conditions, predicates.mapM (fun predicate => predicate.toLambda.toCondition) =
        .ok conditions ∧ final = select.restrict (Sql.conjoined? conditions).toList := by
  cases predicates with
  | nil =>
    simp only [mapM_eq_ok]
    constructor
    · rintro ⟨⟩
      exact ⟨[], .nil, by simp [restrict, Sql.conjoined?]⟩
    · rintro ⟨_, _ | _, rfl⟩
      simp [restrict, Sql.conjoined?, Predicate.conjunction?]
  | cons first rest =>
    obtain ⟨properFirst, properRest⟩ := List.forall_mem_cons.mp proper
    have joins {condition : Sql} :
        (rest.foldl Predicate.and first).toLambda.toCondition = .ok condition ↔ _ :=
      Predicate.toCondition_foldl_and properFirst.bound properFirst.isBool properRest
    rw [Predicate.conjunction?, Option.elim_some, Select.filter_eq_ok]
    constructor
    · rintro ⟨condition, translated, rfl⟩
      obtain ⟨conditions, each, joined⟩ := joins.mp translated
      exact ⟨conditions, each, by rw [joined, Option.toList_some]⟩
    · rintro ⟨conditions, each, rfl⟩
      obtain ⟨joined, known⟩ : ∃ joined, Sql.conjoined? conditions = some joined := by
        cases mapM_eq_ok.mp each with
        | cons _ _ => exact ⟨_, rfl⟩
      refine ⟨joined, joins.mpr ⟨conditions, each, known⟩, ?_⟩
      rw [known, Option.toList_some]

namespace Rows

variable {α : Type} {rows final : Rows α} {first second : Predicate} {rest : List Predicate}

/-- Filtering by two predicates is filtering by their conjunction: the second is asked of the
    records of which the first holds. On the others it need not have a truth value. -/
theorem filter_and (closed : second.Closed) :
    Source.filter rows (first.and second) = .ok final ↔ ∃ middle,
      Source.filter rows first = .ok middle ∧ Source.filter middle second = .ok final := by
  simp only [source_filter_eq_ok, Predicate.decides_and closed, Predicate.isSatisfiedBy_and closed]
  constructor
  · rintro ⟨decided, rfl⟩
    refine ⟨_, ⟨fun item member => (decided item member).1, rfl⟩, fun item member => ?_, ?_⟩
    · obtain ⟨inRows, satisfied⟩ := List.mem_filter.mp member
      exact (decided item inRows).2 satisfied
    · simp only [List.filter_filter, Bool.and_comm]
  · rintro ⟨_, ⟨decided, rfl⟩, decidedKept, rfl⟩
    refine ⟨fun item member => ⟨decided item member, fun satisfied => ?_⟩, ?_⟩
    · exact decidedKept item (List.mem_filter.mpr ⟨member, satisfied⟩)
    · simp only [List.filter_filter, Bool.and_comm]

/-- Filtering by many predicates is filtering by their conjunction. The induction goes along the
    list and takes the first two predicates together. -/
theorem foldlM_filter_eq_ok (closed : ∀ predicate ∈ rest, predicate.Closed) :
    (first :: rest).foldlM Source.filter rows = .ok final ↔
      Source.filter rows (rest.foldl Predicate.and first) = .ok final := by
  induction rest generalizing first rows with
  | nil => simp
  | cons second rest inductionHypothesis =>
    obtain ⟨closedSecond, closedRest⟩ := List.forall_mem_cons.mp closed
    rw [List.foldl_cons, ← inductionHypothesis closedRest]
    simp only [foldlM_cons_eq_ok, filter_and closedSecond]
    constructor
    · rintro ⟨next, ofFirst, middle, ofSecond, remaining⟩
      exact ⟨middle, ⟨next, ofFirst, ofSecond⟩, remaining⟩
    · rintro ⟨middle, ⟨next, ofFirst, ofSecond⟩, remaining⟩
      exact ⟨next, ofFirst, middle, ofSecond, remaining⟩

end Rows

namespace Source

variable {σ : Type} [Source σ] {projections : Projections} {source final : σ}
  {filters : List Filter}

/-- A first compiled filter applies before the rest if it is not dropped. A dropped filter leaves
    the source as it is. -/
theorem foldlM_filterMap_cons {first : Compiled} {rest : List Compiled} :
    ((first :: rest).filterMap Compiled.predicate?).foldlM filter source = .ok final ↔
      ∃ next, applyCompiled source first = .ok next ∧
        (rest.filterMap Compiled.predicate?).foldlM filter next = .ok final := by
  cases first with
  | ready predicate => exact foldlM_cons_eq_ok
  | dropped reason =>
    constructor
    · exact fun folded => ⟨source, rfl, folded⟩
    · rintro ⟨_, ⟨⟩, folded⟩
      exact folded

/-- Filters apply one by one exactly when all of them can be compiled and the predicates of those
    that are not dropped apply one by one. One by one, compiling and applying take turns, but
    compiling does not look at the source. -/
theorem applyFilters_eq_ok :
    applyFilters projections source filters = .ok final ↔
      ∃ compiled, filters.mapM (Compiled.ofFilter projections) = .ok compiled ∧
        (compiled.filterMap Compiled.predicate?).foldlM filter source = .ok final := by
  simp only [mapM_eq_ok]
  induction filters generalizing source with
  | nil =>
    constructor
    · intro same
      exact ⟨[], .nil, same⟩
    · rintro ⟨_, _ | _, same⟩
      exact same
  | cons request rest inductionHypothesis =>
    rw [applyFilters, foldlM_cons_eq_ok]
    constructor
    · rintro ⟨next, applied, remaining⟩
      obtain ⟨compiled, compiles, applied⟩ := bind_eq_ok.mp applied
      obtain ⟨others, compileRest, foldRest⟩ := inductionHypothesis.mp remaining
      exact ⟨compiled :: others, .cons (mapError_eq_ok.mp compiles) compileRest,
        foldlM_filterMap_cons.mpr ⟨next, applied, foldRest⟩⟩
    · rintro ⟨_, _ | ⟨compiles, compileRest⟩, folded⟩
      obtain ⟨next, applied, foldRest⟩ := foldlM_filterMap_cons.mp folded
      exact ⟨next, bind_eq_ok.mpr ⟨_, mapError_eq_ok.mpr compiles, applied⟩,
        inductionHypothesis.mpr ⟨_, compileRest, foldRest⟩⟩

/-- The conjunction of filters applies exactly when all of them can be compiled and the conjunction
    of the predicates of those that are not dropped, if there are any, applies. Compiling comes
    first here, which makes a difference for errors only. -/
theorem applyConjunction_eq_ok :
    applyConjunction projections source filters = .ok final ↔
      ∃ compiled, filters.mapM (Compiled.ofFilter projections) = .ok compiled ∧
        (Predicate.conjunction? (compiled.filterMap Compiled.predicate?)).elim (.ok source)
          (filter source) = .ok final := by
  rw [applyConjunction, bind_eq_ok]
  constructor
  · rintro ⟨_, conjoined, done⟩
    obtain ⟨compiled, compiles, rfl⟩ := change_eq_ok.mp (mapError_eq_ok.mp conjoined)
    refine ⟨compiled, compiles, ?_⟩
    cases known : Predicate.conjunction? (compiled.filterMap Compiled.predicate?) <;>
      rw [known] at done <;> exact done
  · rintro ⟨compiled, compiles, done⟩
    refine ⟨_, mapError_eq_ok.mpr (change_eq_ok.mpr ⟨compiled, compiles, rfl⟩), ?_⟩
    cases known : Predicate.conjunction? (compiled.filterMap Compiled.predicate?) <;>
      rw [known] at done <;> exact done

end Source

namespace Compiled

variable {type : RecordType} {id : Nat} {filters : List Filter} {compiled : List Compiled}

/-- The predicates of filters over one parameter are predicates over it. This is what makes the
    conjunction of their predicates a matter of bodies alone. -/
theorem over_of_mapM (done : filters.mapM (ofFilter (.ofType type id)) = .ok compiled) :
    ∀ predicate ∈ compiled.filterMap predicate?,
      predicate.Over (Projections.sharedParameter type id) := by
  rw [mapM_eq_ok] at done
  induction done with
  | nil => simp
  | @cons filter outcome filters rest compiles _ inductionHypothesis =>
    cases outcome with
    | dropped reason => exact inductionHypothesis
    | ready predicate =>
      refine List.forall_mem_cons.mpr ⟨?_, inductionHypothesis⟩
      obtain ⟨bound, body⟩ := body_of_ready compiles
      exact ⟨bound, body.isBool, fun _ occurs => body.parameters occurs⟩

end Compiled

namespace Source

/-- Applying filters one by one and applying their conjunction come to the same. On rows, one
    succeeds exactly when the other does, with the same rows in the same order. On a statement, both
    succeed or neither does, and the one condition of the conjunction joins from the left the
    conditions of the filters.

    Proof: both succeed only if all filters can be compiled, so the predicates that they come to can
    be compared. On rows, a conjunction asks the second predicate of the records that the first
    keeps. On a statement, the predicates share their parameter, so no body changes when they are
    joined. -/
theorem applyFilters_agrees_with_conjunction (type : RecordType) (id : Nat)
    (filters : List Filter) :
    (∀ {α : Type} (rows final : Rows α),
      applyFilters (.ofType type id) rows filters = .ok final ↔
        applyConjunction (.ofType type id) rows filters = .ok final) ∧
    ∀ select : Select,
      (∃ conditions,
        applyFilters (.ofType type id) select filters = .ok (select.restrict conditions) ∧
        applyConjunction (.ofType type id) select filters =
          .ok (select.restrict (Sql.conjoined? conditions).toList)) ∨
      ∀ final, applyFilters (.ofType type id) select filters ≠ .ok final ∧
        applyConjunction (.ofType type id) select filters ≠ .ok final := by
  constructor
  · intro α rows final
    rw [applyFilters_eq_ok, applyConjunction_eq_ok]
    refine exists_congr fun compiled => and_congr_right fun compiles => ?_
    have proper := Compiled.over_of_mapM compiles
    cases known : compiled.filterMap Compiled.predicate? with
    | nil => rfl
    | cons first rest =>
      rw [known] at proper
      exact Rows.foldlM_filter_eq_ok fun predicate member =>
        (proper predicate (List.mem_cons_of_mem first member)).closed
  · intro select
    by_cases translates : ∃ compiled conditions,
        filters.mapM (Compiled.ofFilter (.ofType type id)) = .ok compiled ∧
        (compiled.filterMap Compiled.predicate?).mapM
          (fun predicate => predicate.toLambda.toCondition) = .ok conditions
    · obtain ⟨compiled, conditions, compiles, translated⟩ := translates
      have proper := Compiled.over_of_mapM compiles
      refine .inl ⟨conditions, applyFilters_eq_ok.mpr ⟨compiled, compiles, ?_⟩,
        applyConjunction_eq_ok.mpr ⟨compiled, compiles, ?_⟩⟩
      · exact Select.foldlM_filter_eq_ok.mpr ⟨conditions, translated, rfl⟩
      · exact (Select.filter_conjunction_eq_ok proper).mpr ⟨conditions, translated, rfl⟩
    · refine .inr fun final => ⟨fun applied => translates ?_, fun applied => translates ?_⟩
      · obtain ⟨compiled, compiles, folded⟩ := applyFilters_eq_ok.mp applied
        obtain ⟨conditions, translated, -⟩ := Select.foldlM_filter_eq_ok.mp folded
        exact ⟨compiled, conditions, compiles, translated⟩
      · obtain ⟨compiled, compiles, filtered⟩ := applyConjunction_eq_ok.mp applied
        have proper := Compiled.over_of_mapM compiles
        obtain ⟨conditions, translated, -⟩ :=
          (Select.filter_conjunction_eq_ok proper).mp filtered
        exact ⟨compiled, conditions, compiles, translated⟩

end Source

end RecordQuery
