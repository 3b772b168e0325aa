import RecordQuery.Proofs.Query.Rows
import RecordQuery.Projection.Basic
import RecordQuery.Query.Source

/-!
# Runs of filters and orderings

A run applies filters and orderings to a source in any order. On rows, filtering first and
ordering then comes to the same: the keys stay with the rows, every ordering sorts by all of
them, and keeping items commutes with a stable sort. What carries the induction over a run is
that the rows are sorted by their keys and that these are readable and uniform.
-/

namespace RecordQuery

/-- One step of a run. -/
inductive Step where
  | filter (predicate : Predicate)
  | orderBy (selector : Selector) (ascending first : Bool)

namespace Step

/-- The source after a step. -/
def apply {σ : Type} [Source σ] (source : σ) : Step → Except QueryError σ
  | filter predicate => Source.filter source predicate
  | orderBy selector ascending first => Source.orderBy source selector ascending first

/-- The source after the steps of a run, from the first to the last. -/
def run {σ : Type} [Source σ] (source : σ) (steps : List Step) : Except QueryError σ :=
  steps.foldlM apply source

/-- Whether the step is an ordering. -/
def isOrdering : Step → Bool
  | filter _ => false
  | orderBy .. => true

/-- The orderings of a run, without its filters. -/
def orderings (steps : List Step) : List Step :=
  steps.filter isOrdering

/-- Whether a record satisfies the predicate of a step; orderings have none. -/
def admits (record : Record) : Step → Bool
  | filter predicate => predicate.isSatisfiedBy record
  | orderBy .. => true

/-- Whether a record satisfies the predicates of a run. -/
def admitsAll (steps : List Step) (record : Record) : Bool :=
  steps.all (admits record)

/-- The sort keys of a run after one more step. -/
def keysAfter (keys : List RowKey) : Step → List RowKey
  | filter _ => keys
  | orderBy selector ascending first =>
      (if first then [] else keys) ++ [⟨selector, ascending⟩]

/-- The sort keys that a run leaves, the primary one first. -/
def sortKeys (steps : List Step) : List RowKey :=
  steps.foldl keysAfter []

/-- A run with a first step succeeds when the step does and the rest of the run on its result. -/
theorem run_cons {σ : Type} [Source σ] {source final : σ} {step : Step} {rest : List Step} :
    run source (step :: rest) = .ok final ↔
      ∃ next, apply source step = .ok next ∧ run next rest = .ok final :=
  foldlM_cons_eq_ok

end Step

variable {α : Type}

/-- The keys of a selector have one type wherever they can be read and are not null. -/
def Selector.Uniform (selector : Selector) (view : α → Record) (items : List α) : Prop :=
  ∃ type, ∀ item ∈ items, ∀ value, selector.key (view item) = .ok value → value.HasType type

/-- Uniform keys stay uniform when items are removed or moved. -/
theorem Selector.Uniform.mono {selector : Selector} {view : α → Record} {items fewer : List α}
    (uniform : selector.Uniform view items) (subset : ∀ item ∈ fewer, item ∈ items) :
    selector.Uniform view fewer := by
  obtain ⟨type, typed⟩ := uniform
  exact ⟨type, fun item member => typed item (subset item member)⟩

/-- A readable key stays readable when items are removed or moved. -/
theorem RowKey.Readable.mono {key : RowKey} {view : α → Record} {items fewer : List α}
    (readable : key.Readable view items) (subset : ∀ item ∈ fewer, item ∈ items) :
    key.Readable view fewer :=
  fun item member => readable item (subset item member)

/-- A step can be evaluated on every item. -/
def Step.Evaluates (view : α → Record) (items : List α) : Step → Prop
  | filter predicate => ∀ item ∈ items, ∃ holds, predicate.evaluate (view item) = .ok holds
  | orderBy selector .. => ∀ item ∈ items, ∃ value, selector.key (view item) = .ok value

/-- The keys of an ordering are uniform. -/
def Step.Uniform (view : α → Record) (items : List α) : Step → Prop
  | filter _ => True
  | orderBy selector .. => selector.Uniform view items

/-- The column of a uniform selector is uniform. Items on which the selector fails have the value
    null in the column, which goes with every type. -/
theorem RowKey.uniform_column {view : α → Record} {items : List α} {key : RowKey}
    (uniform : key.selector.Uniform view items) : (key.column view).Uniform items := by
  obtain ⟨type, typed⟩ := uniform
  refine ⟨type, fun item member => ?_⟩
  cases read : key.selector.key (view item) with
  | ok value =>
    rw [key.column_read read]
    exact typed item member value read
  | error _ =>
    left
    simp [RowKey.column, read, Except.toOption]

namespace Rows

/-- The rows with some of their items only. -/
def keeping (rows : Rows α) (keeps : α → Bool) : Rows α :=
  { rows with items := rows.items.filter keeps }

/-- Rows are sorted when no item is after a later one by the current keys. -/
def Sorted (rows : Rows α) : Prop :=
  rows.items.Pairwise fun earlier later => ∃ left right,
    keyValues rows.keys (rows.view earlier) = .ok left ∧
      keyValues rows.keys (rows.view later) = .ok right ∧ compareKeyRows rows.keys left right ≠ .gt

/-- Rows in order have readable and uniform keys and are sorted by their columns. -/
structure InOrder (rows : Rows α) : Prop where
  readable : ∀ key ∈ rows.keys, key.Readable rows.view rows.items
  uniform : ∀ key ∈ rows.keys, key.selector.Uniform rows.view rows.items
  sorted : rows.items.Pairwise fun earlier later =>
    KeyColumn.lexicographic (columns rows.view rows.keys) earlier later ≠ .gt

/-- Uniform keys have the items in order. It is the hypothesis under which stable sorts are
    unique. -/
theorem ordersOn_columns {view : α → Record} {keys : List RowKey} {items : List α}
    (uniform : ∀ key ∈ keys, key.selector.Uniform view items) :
    OrdersOn (KeyColumn.lexicographic (columns view keys)) (· ∈ items) := by
  apply KeyColumn.ordersOn_lexicographic
  intro column member
  obtain ⟨key, known, rfl⟩ := List.mem_map.mp member
  exact RowKey.uniform_column (uniform key known)

/-- Rows in order are sorted by their current keys. The source compares rows of key values, and rows
    in order are about columns, which give these values. -/
theorem InOrder.isSorted {rows : Rows α} (inOrder : rows.InOrder) : rows.Sorted := by
  apply inOrder.sorted.imp_of_mem
  intro earlier later earlierKnown laterKnown notAfter
  have left := keyValues_eq_ok.mpr
    ⟨fun key member => inOrder.readable key member earlier earlierKnown, rfl⟩
  have right := keyValues_eq_ok.mpr
    ⟨fun key member => inOrder.readable key member later laterKnown, rfl⟩
  refine ⟨_, _, left, right, ?_⟩
  rw [compareKeyRows_eq]
  exact notAfter

/-- Rows without keys are in order. Without keys all items tie. -/
theorem inOrder_of_no_keys {rows : Rows α} (unordered : rows.keys = []) : rows.InOrder := by
  have noKey (key : RowKey) (member : key ∈ rows.keys) : False := by
    simp [unordered] at member
  constructor
  · exact fun key member => (noKey key member).elim
  · exact fun key member => (noKey key member).elim
  · apply List.pairwise_of_forall
    intro earlier later
    simp [unordered, columns, KeyColumn.lexicographic]

/-- A filter keeps the items that its predicate admits, if it evaluates on all of them. -/
theorem apply_filter {rows next : Rows α} {predicate : Predicate} :
    Step.apply rows (.filter predicate) = .ok next ↔
      Step.Evaluates rows.view rows.items (.filter predicate) ∧
        next = rows.keeping fun item => predicate.isSatisfiedBy (rows.view item) :=
  mapError_eq_ok.trans filter_eq_ok

/-- An ordering sorts the items by the keys that stay and the new one, if all are readable. -/
theorem apply_orderBy {rows next : Rows α} {selector : Selector} {ascending first : Bool} :
    Step.apply rows (.orderBy selector ascending first) = .ok next ↔
      ∃ keys, keys = (if first then [] else rows.keys) ++ [⟨selector, ascending⟩] ∧
        (∀ key ∈ keys, key.Readable rows.view rows.items) ∧ next = rows.sortedBy keys :=
  mapError_eq_ok.trans orderBy_eq_ok

/-- A step leaves the keys that it says, whatever the rows are. Keys are neither looked up nor
    dropped because of what they read. -/
theorem keys_apply {rows next : Rows α} {step : Step} (applied : Step.apply rows step = .ok next) :
    next.keys = step.keysAfter rows.keys := by
  cases step with
  | filter predicate =>
    obtain ⟨-, rfl⟩ := apply_filter.mp applied
    rfl
  | orderBy selector ascending first =>
    obtain ⟨keys, rfl, -, rfl⟩ := apply_orderBy.mp applied
    rfl

/-- A run leaves the keys that its steps say one after the other. Filters leave them alone, so only
    the orderings since the last that starts anew have left any. -/
theorem keys_run {rows final : Rows α} {steps : List Step}
    (done : Step.run rows steps = .ok final) :
    final.keys = steps.foldl Step.keysAfter rows.keys := by
  induction steps generalizing rows with
  | nil =>
    obtain rfl : rows = final := pure_eq_ok.mp done
    rfl
  | cons step rest inductionHypothesis =>
    obtain ⟨next, applied, remaining⟩ := Step.run_cons.mp done
    rw [inductionHypothesis remaining, keys_apply applied, List.foldl_cons]

/-- The keys of an ordering are those that stay and the new one. The two cases are what the later
    proofs need of the new keys. -/
theorem mem_keys {keys : List RowKey} {key : RowKey} {selector : Selector}
    {ascending first : Bool}
    (member : key ∈ (if first then [] else keys) ++ [⟨selector, ascending⟩]) :
    key ∈ keys ∨ key.selector = selector := by
  rcases List.mem_append.mp member with stays | new
  · left
    cases first with
    | true => cases stays
    | false => exact stays
  · right
    rw [List.mem_singleton.mp new]

/-- The keys of an ordering by a uniform selector are uniform. Those that stay are uniform since
    they were before. -/
theorem InOrder.uniform_keys {rows : Rows α} {selector : Selector} {ascending first : Bool}
    (inOrder : rows.InOrder) (uniform : selector.Uniform rows.view rows.items) {key : RowKey}
    (member : key ∈ (if first then [] else rows.keys) ++ [⟨selector, ascending⟩]) :
    key.selector.Uniform rows.view rows.items := by
  rcases mem_keys member with stays | new
  · exact inOrder.uniform key stays
  · rw [new]
    exact uniform

/-- Rows narrow others when they are seen alike and have no other items. -/
structure Narrows (next rows : Rows α) : Prop where
  view : next.view = rows.view
  subset : ∀ item ∈ next.items, item ∈ rows.items

/-- A step keeps rows in order and only narrows them. A filter takes items away, which leaves the
    others in order, and an ordering sorts by keys that are then the current ones. -/
theorem InOrder.apply {rows next : Rows α} {step : Step} (inOrder : rows.InOrder)
    (uniform : step.Uniform rows.view rows.items) (applied : Step.apply rows step = .ok next) :
    next.InOrder ∧ next.Narrows rows := by
  cases step with
  | filter predicate =>
    obtain ⟨-, rfl⟩ := apply_filter.mp applied
    have subset (item : α) (member : item ∈ (rows.keeping fun item =>
        predicate.isSatisfiedBy (rows.view item)).items) : item ∈ rows.items :=
      List.mem_of_mem_filter member
    refine ⟨⟨?_, ?_, inOrder.sorted.sublist List.filter_sublist⟩, ⟨rfl, subset⟩⟩
    · exact fun key member => (inOrder.readable key member).mono subset
    · exact fun key member => (inOrder.uniform key member).mono subset
  | orderBy selector ascending first =>
    obtain ⟨keys, extended, readable, rfl⟩ := apply_orderBy.mp applied
    have allUniform : ∀ key ∈ keys, key.selector.Uniform rows.view rows.items := by
      subst extended
      exact fun key member => inOrder.uniform_keys uniform member
    have sorts := stablySorted_stableSort (ordersOn_columns allUniform)
    have subset (item : α) (member : item ∈ (rows.sortedBy keys).items) : item ∈ rows.items :=
      mem_sortedBy.mp member
    refine ⟨⟨?_, ?_, sorts.sorted⟩, ⟨rfl, subset⟩⟩
    · exact fun key member => (readable key member).mono subset
    · exact fun key member => (allUniform key member).mono subset

/-- Ordering some of the items gives what is left of them when all are ordered. This is what fails
    without uniform keys, as a stable sort of some items could then differ from that of all. -/
theorem InOrder.apply_keeping {rows next : Rows α} {selector : Selector}
    {ascending first : Bool} (inOrder : rows.InOrder)
    (uniform : selector.Uniform rows.view rows.items)
    (applied : Step.apply rows (.orderBy selector ascending first) = .ok next)
    (keeps : α → Bool) :
    Step.apply (rows.keeping keeps) (.orderBy selector ascending first) =
      .ok (next.keeping keeps) := by
  obtain ⟨keys, extended, readable, rfl⟩ := apply_orderBy.mp applied
  have allUniform : ∀ key ∈ keys, key.selector.Uniform rows.view rows.items := by
    subst extended
    exact fun key member => inOrder.uniform_keys uniform member
  have commutes := stableSort_filter (ordersOn_columns allUniform) keeps
  refine apply_orderBy.mpr ⟨keys, extended, ?_, ?_⟩
  · exact fun key member => (readable key member).mono fun item => List.mem_of_mem_filter
  · simp only [keeping, sortedBy, commutes]

end Rows

namespace Step

/-- Steps that are uniform on rows are so on narrower ones. Fewer items have no more types. -/
theorem Uniform.narrow {rows next : Rows α} {step : Step}
    (uniform : step.Uniform rows.view rows.items) (narrows : next.Narrows rows) :
    step.Uniform next.view next.items := by
  rw [narrows.view]
  cases step with
  | filter predicate => trivial
  | orderBy selector ascending first => exact Selector.Uniform.mono uniform narrows.subset

/-- Steps that evaluate on rows do so on narrower ones. So later steps never fail on account of
    earlier ones. -/
theorem Evaluates.narrow {rows next : Rows α} {step : Step}
    (evaluates : step.Evaluates rows.view rows.items) (narrows : next.Narrows rows) :
    step.Evaluates next.view next.items := by
  rw [narrows.view]
  cases step with
  | filter predicate => exact fun item member => evaluates item (narrows.subset item member)
  | orderBy selector ascending first =>
    exact fun item member => evaluates item (narrows.subset item member)

end Step

namespace Rows

/-- A run on rows in order ends with rows in order, and with the same rows when its orderings are
    applied to the items that its predicates admit.

    Proof: induction on the steps, with the rows general. A filter and what the rest admits are one
    selection of items, and an ordering commutes with the selection. -/
theorem InOrder.run {rows final : Rows α} {steps : List Step} (inOrder : rows.InOrder)
    (uniform : ∀ step ∈ steps, step.Uniform rows.view rows.items)
    (done : Step.run rows steps = .ok final) :
    final.InOrder ∧ Step.run (rows.keeping fun item => Step.admitsAll steps (rows.view item))
      (Step.orderings steps) = .ok final := by
  induction steps generalizing rows with
  | nil =>
    obtain rfl : rows = final := pure_eq_ok.mp done
    refine ⟨inOrder, ?_⟩
    have all : rows.keeping (fun item => Step.admitsAll [] (rows.view item)) = rows := by
      simp [keeping, Step.admitsAll]
    rw [all]
    rfl
  | cons step rest inductionHypothesis =>
    obtain ⟨next, applied, remaining⟩ := Step.run_cons.mp done
    have first := uniform step List.mem_cons_self
    obtain ⟨nextInOrder, narrows⟩ := inOrder.apply first applied
    have others : ∀ other ∈ rest, other.Uniform next.view next.items := by
      intro other member
      exact (uniform other (List.mem_cons_of_mem step member)).narrow narrows
    obtain ⟨finalInOrder, orderingsDone⟩ := inductionHypothesis nextInOrder others remaining
    refine ⟨finalInOrder, ?_⟩
    rw [narrows.view] at orderingsDone
    cases step with
    | filter predicate =>
      obtain ⟨-, rfl⟩ := apply_filter.mp applied
      have both : (rows.keeping fun item => predicate.isSatisfiedBy (rows.view item)).keeping
            (fun item => Step.admitsAll rest (rows.view item)) =
          rows.keeping fun item =>
            Step.admitsAll (.filter predicate :: rest) (rows.view item) := by
        simp [keeping, Step.admitsAll, Step.admits, List.filter_filter, Bool.and_comm]
      rw [both] at orderingsDone
      exact orderingsDone
    | orderBy selector ascending restarts =>
      have moved := inOrder.apply_keeping first applied
        fun item => Step.admitsAll rest (rows.view item)
      exact Step.run_cons.mpr ⟨_, moved, orderingsDone⟩

/-- A run on rows in order succeeds if all steps evaluate on all items. Each step leaves fewer items
    with the same view, so what is known of all items stays known. -/
theorem InOrder.run_succeeds {rows : Rows α} {steps : List Step} (inOrder : rows.InOrder)
    (uniform : ∀ step ∈ steps, step.Uniform rows.view rows.items)
    (evaluates : ∀ step ∈ steps, step.Evaluates rows.view rows.items) :
    ∃ final, Step.run rows steps = .ok final := by
  induction steps generalizing rows with
  | nil => exact ⟨rows, rfl⟩
  | cons step rest inductionHypothesis =>
    have first := evaluates step List.mem_cons_self
    obtain ⟨next, applied⟩ : ∃ next, Step.apply rows step = .ok next := by
      cases step with
      | filter predicate => exact ⟨_, apply_filter.mpr ⟨first, rfl⟩⟩
      | orderBy selector ascending restarts =>
        refine ⟨_, apply_orderBy.mpr ⟨_, rfl, fun key member => ?_, rfl⟩⟩
        rcases mem_keys member with stays | new
        · exact inOrder.readable key stays
        · unfold RowKey.Readable
          rw [new]
          exact first
    obtain ⟨nextInOrder, narrows⟩ := inOrder.apply (uniform step List.mem_cons_self) applied
    have restUniform : ∀ other ∈ rest, other.Uniform next.view next.items := by
      intro other member
      exact (uniform other (List.mem_cons_of_mem step member)).narrow narrows
    have restEvaluates : ∀ other ∈ rest, other.Evaluates next.view next.items := by
      intro other member
      exact (evaluates other (List.mem_cons_of_mem step member)).narrow narrows
    obtain ⟨final, remaining⟩ := inductionHypothesis nextInOrder restUniform restEvaluates
    exact ⟨final, Step.run_cons.mpr ⟨next, applied, remaining⟩⟩

/-- Filters and orderings in any order give the rows, in order, that the orderings alone give of the
    items that all predicates admit. The rows have the keys that the orderings leave, each behind
    those before it unless it starts anew, and are always sorted by them. If the predicates and keys
    can be evaluated on all items, there is such an outcome.

    Proof: induction on the run, with rows in order as its invariant. A filter and the selection of
    the items that the later predicates admit are one selection, and an ordering of the items
    admitted gives what is left of the ordering of all, since a stable sort by readable and uniform
    keys does not depend on the items beside. -/
theorem run_normal_form {rows : Rows α} {steps : List Step} (unordered : rows.keys = [])
    (uniform : ∀ step ∈ steps, step.Uniform rows.view rows.items) :
    (∀ final, Step.run rows steps = .ok final →
      Step.run (rows.keeping fun item => Step.admitsAll steps (rows.view item))
          (Step.orderings steps) = .ok final ∧
        final.keys = Step.sortKeys steps ∧ final.Sorted) ∧
    ((∀ step ∈ steps, step.Evaluates rows.view rows.items) →
      ∃ final, Step.run rows steps = .ok final) := by
  have inOrder := inOrder_of_no_keys unordered
  constructor
  · intro final done
    obtain ⟨finalInOrder, orderingsDone⟩ := inOrder.run uniform done
    have keys : final.keys = Step.sortKeys steps := by
      rw [keys_run done, unordered, Step.sortKeys]
    exact ⟨orderingsDone, keys, finalInOrder.isSorted⟩
  · exact inOrder.run_succeeds uniform

/-- Three rows are sorted, the missing number last, lose it, and are sorted the other way by the
    last key alone, which turns the two that are left around. The last key starts anew, so nothing
    of the first is left. -/
theorem run_sort_filter_sort :
    let property : Property := ⟨"n", .nullable (.number (.integer .i32))⟩
    let type : RecordType := ⟨"S", .ok [property], none⟩
    let p := Projections.sharedParameter type 0
    let column : Expr := .member (.parameter p) (.ofProperty type 0 property)
    let present : Predicate := ⟨p, .relate .ne column (.ofValue .null)⟩
    let three : Record := ⟨"S", [.number (.integer .i32 3 (by decide))], none⟩
    let five : Record := ⟨"S", [.number (.integer .i32 5 (by decide))], none⟩
    let rows : Rows Record := ⟨id, [three, ⟨"S", [.null], none⟩, five], []⟩
    let steps : List Step := [.orderBy ⟨p, column⟩ true true, .filter present,
      .orderBy ⟨p, column⟩ false true]
    ∃ final, Step.run rows steps = .ok final ∧ final.items = [five, three] ∧
      final.keys = [⟨⟨p, column⟩, false⟩] ∧ final.Sorted := by
  intro property type p column present three five rows steps
  have selected : Selector.Uniform ⟨p, column⟩ rows.view rows.items := by
    refine ⟨.number (.integer .i32), fun item member value read => ?_⟩
    simp only [rows, List.mem_cons, List.not_mem_nil, or_false] at member
    rcases member with rfl | rfl | rfl
    · cases read
      exact .inr rfl
    · cases read
      exact .inl rfl
    · cases read
      exact .inr rfl
  have uniform : ∀ step ∈ steps, step.Uniform rows.view rows.items := by
    intro step member
    simp only [steps, List.mem_cons, List.not_mem_nil, or_false] at member
    rcases member with rfl | rfl | rfl
    · exact selected
    · trivial
    · exact selected
  have done : Step.run rows steps = .ok ⟨id, [five, three], [⟨⟨p, column⟩, false⟩]⟩ := rfl
  obtain ⟨-, keys, sorted⟩ := (run_normal_form rfl uniform).1 _ done
  exact ⟨_, done, rfl, keys, sorted⟩

end Rows

end RecordQuery
