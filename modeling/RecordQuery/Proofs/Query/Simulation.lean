import RecordQuery.Proofs.Query.Conjunction
import RecordQuery.Proofs.Query.Sorting
import RecordQuery.Proofs.Sql.Pushdown

/-!
# A statement simulates rows

One run of filters, sort keys and requests drives any source. Whatever relation between two sources
every single filter and every single ordering keeps, a whole run keeps: both sources drop the same
filters, skip the same sort keys and begin their orderings anew at the same places. A statement and
the rows of conforming records are so related. The sort terms of the statement write out the keys of
the rows, and the rows left are those in which all conditions of the statement are true.
-/

namespace RecordQuery

/-- One call that drives a source. -/
inductive Operation where
  | applyFilter (filter : Filter)
  | applyFilters (filters : List Filter)
  | applySort (key : SortKey) (first : Bool)
  | applySorts (keys : List SortKey)
  | applyRequest (request : Request)

namespace Operation

/-- The filters that an operation applies. -/
def filters : Operation → List Filter
  | applyFilter filter => [filter]
  | applyFilters filters => filters
  | applySort _ _ | applySorts _ => []
  | applyRequest request => request.filters

/-- The source after an operation. The operations are those that both kinds of sources offer. -/
def apply {σ : Type} [Source σ] (projections : Projections) (source : σ) :
    Operation → Except QueryError σ
  | applyFilter filter => Source.applyFilter projections source filter
  | applyFilters filters => Source.applyFilters projections source filters
  | applySort key first => Source.applySort projections source key first
  | applySorts keys => Source.applySorts projections source keys
  | applyRequest request => Source.applyRequest projections source request

/-- The source as it is and after each operation of a run. -/
def states {σ : Type} [Source σ] (projections : Projections) :
    σ → List Operation → Except QueryError (List σ)
  | source, [] => .ok [source]
  | source, operation :: rest => do
      let next ← operation.apply projections source
      return source :: (← states projections next rest)

end Operation

/-- Wherever the first of two steps succeeds on related sources, the second succeeds as well, and
    the outcomes are related again. -/
def Follows {σ τ : Type} (Related : σ → τ → Prop) (first : σ → Except QueryError σ)
    (second : τ → Except QueryError τ) : Prop :=
  ∀ source target next, Related source target → first source = .ok next →
    ∃ result, second target = .ok result ∧ Related next result

namespace Follows

variable {σ τ : Type} [Source σ] [Source τ] {Related : σ → τ → Prop} {projections : Projections}

/-- A filter keeps a relation if its predicate does. A filter that is dropped leaves both sources as
    they are, and one that cannot be compiled stops both. -/
theorem applyFilter {filter : Filter}
    (ready : ∀ predicate, Compiled.ofFilter projections filter = .ok (.ready predicate) →
      Follows Related (Source.filter · predicate) (Source.filter · predicate)) :
    Follows Related (Source.applyFilter projections · filter)
      (Source.applyFilter projections · filter) := by
  intro source target next related applied
  obtain ⟨compiled, compiles, applied⟩ := bind_eq_ok.mp applied
  cases compiled with
  | ready predicate =>
    obtain ⟨result, filtered, kept⟩ :=
      ready predicate (mapError_eq_ok.mp compiles) source target next related applied
    exact ⟨result, bind_eq_ok.mpr ⟨_, compiles, filtered⟩, kept⟩
  | dropped reason =>
    cases applied
    exact ⟨target, bind_eq_ok.mpr ⟨_, compiles, rfl⟩, related⟩

/-- Filters one after the other keep a relation if each does. The induction goes along the filters,
    each from wherever the one before led. -/
theorem applyFilters {filters : List Filter}
    (each : ∀ filter ∈ filters, Follows Related (Source.applyFilter projections · filter)
      (Source.applyFilter projections · filter)) :
    Follows Related (Source.applyFilters projections · filters)
      (Source.applyFilters projections · filters) := by
  induction filters with
  | nil =>
    intro source target next related applied
    cases applied
    exact ⟨target, rfl, related⟩
  | cons filter rest inductionHypothesis =>
    obtain ⟨ofFilter, ofRest⟩ := List.forall_mem_cons.mp each
    intro source target next related applied
    obtain ⟨middle, first, remaining⟩ := foldlM_cons_eq_ok.mp applied
    obtain ⟨reached, firstDone, related⟩ := ofFilter source target middle related first
    obtain ⟨result, restDone, related⟩ :=
      inductionHypothesis ofRest middle reached next related remaining
    exact ⟨result, foldlM_cons_eq_ok.mpr ⟨reached, firstDone, restDone⟩, related⟩

/-- A relation that orderings by named properties keep. -/
def Orders (Related : σ → τ → Prop) (projections : Projections) : Prop :=
  ∀ name projection, projections.get? name = some projection → ∀ ascending first,
    Follows Related (Source.orderBy · projection.toSelector ascending first)
      (Source.orderBy · projection.toSelector ascending first)

/-- A sort key keeps a relation that orderings keep. A key that names no property leaves both
    sources as they are. -/
theorem applySort (orders : Orders Related projections) (key : SortKey) (first : Bool) :
    Follows Related (Source.applySort projections · key first)
      (Source.applySort projections · key first) := by
  intro source target next related applied
  cases found : projections.get? key.property with
  | none =>
    simp only [Source.applySort, found] at applied ⊢
    cases applied
    exact ⟨target, rfl, related⟩
  | some projection =>
    simp only [Source.applySort, found] at applied ⊢
    exact orders _ projection found _ _ source target next related applied

/-- Sort keys keep a relation that orderings keep, whether or not the ordering has begun. Both
    sources begin their ordering with the same key, the first that names a property. -/
theorem applySortsFrom (orders : Orders Related projections) (begun : Bool)
    (keys : List SortKey) : Follows Related (Source.applySortsFrom projections begun · keys)
      (Source.applySortsFrom projections begun · keys) := by
  induction keys generalizing begun with
  | nil =>
    intro source target next related applied
    cases applied
    exact ⟨target, rfl, related⟩
  | cons key rest inductionHypothesis =>
    intro source target next related applied
    cases found : projections.get? key.property with
    | none =>
      simp only [Source.applySortsFrom, found] at applied ⊢
      exact inductionHypothesis begun source target next related applied
    | some projection =>
      simp only [Source.applySortsFrom, found] at applied ⊢
      obtain ⟨middle, first, remaining⟩ := bind_eq_ok.mp applied
      obtain ⟨reached, firstDone, related⟩ :=
        orders _ projection found _ _ source target middle related first
      obtain ⟨result, restDone, related⟩ :=
        inductionHypothesis true middle reached next related remaining
      exact ⟨result, bind_eq_ok.mpr ⟨reached, firstDone, restDone⟩, related⟩

/-- An operation keeps a relation that its filters and all orderings keep. A request is filters
    followed by sort keys, so it is covered by the other operations. -/
theorem operation (orders : Orders Related projections) {operation : Operation}
    (filtering : ∀ filter ∈ operation.filters, ∀ predicate,
      Compiled.ofFilter projections filter = .ok (.ready predicate) →
        Follows Related (Source.filter · predicate) (Source.filter · predicate)) :
    Follows Related (operation.apply projections ·) (operation.apply projections ·) := by
  have each : ∀ filter ∈ operation.filters, Follows Related
      (Source.applyFilter projections · filter) (Source.applyFilter projections · filter) :=
    fun filter member => applyFilter (filtering filter member)
  cases operation with
  | applyFilter filter => exact each filter List.mem_cons_self
  | applyFilters filters => exact applyFilters each
  | applySort key first => exact applySort orders key first
  | applySorts keys => exact applySortsFrom orders false keys
  | applyRequest request =>
    intro source target next related applied
    obtain ⟨middle, filtered, sorted⟩ := bind_eq_ok.mp applied
    obtain ⟨reached, filteredDone, related⟩ :=
      applyFilters each source target middle related filtered
    obtain ⟨result, sortedDone, related⟩ :=
      applySortsFrom orders false request.sorts middle reached next related sorted
    exact ⟨result, bind_eq_ok.mpr ⟨reached, filteredDone, sortedDone⟩, related⟩

/-- After every operation of a run the sources are related, if every operation keeps the relation.
    They are compared after each operation and not only at the end. -/
theorem states {operations : List Operation}
    (each : ∀ operation ∈ operations,
      Follows Related (operation.apply projections ·) (operation.apply projections ·))
    {source : σ} {target : τ} (related : Related source target) {sources : List σ}
    (run : Operation.states projections source operations = .ok sources) :
    ∃ targets, Operation.states projections target operations = .ok targets ∧
      List.Forall₂ Related sources targets := by
  induction operations generalizing source target sources with
  | nil =>
    cases run
    exact ⟨[target], rfl, .cons related .nil⟩
  | cons operation rest inductionHypothesis =>
    obtain ⟨ofFirst, ofRest⟩ := List.forall_mem_cons.mp each
    obtain ⟨next, applied, remaining⟩ := bind_eq_ok.mp run
    obtain ⟨later, restRun, rfl⟩ := change_eq_ok.mp remaining
    obtain ⟨result, done, kept⟩ := ofFirst source target next related applied
    obtain ⟨targets, restDone, relatedRest⟩ := inductionHypothesis ofRest kept restRun
    exact ⟨target :: targets, bind_eq_ok.mpr ⟨result, done, change_eq_ok.mpr
      ⟨targets, restDone, rfl⟩⟩, .cons related relatedRest⟩

end Follows

namespace Comparison

open RecordQuery.Expr (ofValue relate)

variable {comparison : Comparison} {p : Parameter} {m : Member} {constant value : Value}
  {condition : Expr} {type : DataType}

/-- The only constant in a condition on a member is the one that it was made for. A relation may
    lift its sides, which adds no constant. -/
theorem constant_of_condition
    (applies : comparison.condition? (.member (.parameter p) m) constant = some condition)
    (occurs : .constant value type ∈ condition.parts) : value = constant := by
  have related (relation : Relation) (inRelation : .constant value type ∈
      (relate relation (.member (.parameter p) m) (ofValue constant)).parts) :
      value = constant := by
    rcases Expr.mem_parts_relate inRelation with inLeft | inRight | ⟨_, absurd⟩ | ⟨_, _, absurd⟩
    · simp [Expr.parts] at inLeft
    · simp only [ofValue, Expr.parts, List.mem_singleton, Expr.constant.injEq] at inRight
      exact inRight.1
    · cases absurd
    · cases absurd
  cases shape_of_condition applies with
  | relation relation valued single => exact related relation occurs
  | textTest | negatedTest | inSet | monthIn =>
    simp only [Expr.parts, Expr.partsOfAll, ofValue, List.mem_cons, List.mem_append,
      List.not_mem_nil, reduceCtorEq, false_or, or_false, Expr.constant.injEq] at occurs
    exact occurs.1

end Comparison

/-- Whether the constant that a filter compares with, if any, is no date with a fraction of a
    second. -/
def Filter.IsWhole (projections : Projections) (filter : Filter) : Prop :=
  ∀ projection constant, projections.resolve? filter.property? = some projection →
    filter.literal.constantFor? projection.type.base = .ok (some constant) → constant.IsWhole

/-- The constants in the condition of such a filter have no fraction of a second. So whatever date
    the condition has is written out in full. -/
theorem Filter.IsWhole.constants {type : RecordType} {id : Nat} {filter : Filter}
    (whole : filter.IsWhole (.ofType type id)) {predicate : Predicate}
    (compiled : Compiled.ofFilter (.ofType type id) filter = .ok (.ready predicate))
    (value : Value) (valueType : DataType)
    (occurs : .constant value valueType ∈ predicate.body.parts) : value.IsWhole := by
  obtain ⟨projection, constant, body, resolved, read, applied, rfl⟩ :=
    Compiled.ofParts_eq_ready compiled
  obtain ⟨m, -, rfl⟩ := Compiled.member_of_constant (Projections.resolve_eq_some resolved)
    (Literal.suits_of_constantFor read)
  rw [Comparison.constant_of_condition applied occurs]
  exact whole _ constant resolved read

/-- Whether all conditions of a statement are true in a row. -/
def Select.admits (select : Select) (row : String → Value) : Bool :=
  select.conditions.all fun condition => condition.meaning row == .bool true

/-- A further condition has to be true as well. -/
theorem Select.admits_restrict (select : Select) (condition : Sql) (row : String → Value) :
    (select.restrict [condition]).admits row =
      (select.admits row && condition.meaning row == .bool true) := by
  simp [admits, restrict]

/-- Whether a sort term writes out a key of rows: the quoted name of the property that the key
    reads, and the direction of the key. -/
def SortTerm.Writes (projections : Projections) (quote : Char) (term : SortTerm) (key : RowKey) :
    Prop :=
  ∃ name projection, projections.get? name = some projection ∧
    key.selector = projection.toSelector ∧
    Select.termText quote term =
      Sql.identifier quote name ++ if key.ascending then " ASC" else " DESC"

/-- A statement simulates rows that stem from others: its sort terms write out the keys of the rows,
    one for one and in order, and the rows are, up to their order, the original ones in which all
    conditions of the statement are true. -/
structure Simulates {α : Type} (type : RecordType) (id : Nat) (original : Rows α) (select : Select)
    (rows : Rows α) : Prop where
  view : rows.view = original.view
  order : List.Forall₂ (SortTerm.Writes (.ofType type id) select.quote) select.order rows.keys
  items : rows.items.Perm
    (original.items.filter fun item => select.admits (type.columns (original.view item)))

/-- A statement is ordered exactly when the selector has a sort term, which it then gains. An
    ordering that starts anew drops the terms before it. -/
theorem Select.orderBy_eq_ok {select final : Select} {selector : Selector}
    {ascending first : Bool} :
    Source.orderBy select selector ascending first = .ok final ↔
      ∃ term, selector.toLambda.toSortTerm = .ok term ∧
        final = { select with
          order := (if first then [] else select.order) ++ [⟨term, ascending⟩] } :=
  mapError_eq_ok.trans change_eq_ok

namespace Simulates

variable {α : Type} {type : RecordType} {id : Nat} {original rows : Rows α} {select next : Select}

/-- Rows that are simulated are among the original ones. -/
theorem subset (simulates : Simulates type id original select rows) {item : α}
    (member : item ∈ rows.items) : item ∈ original.items :=
  List.mem_of_mem_filter (simulates.items.mem_iff.mp member)

/-- Keys that sort terms write out can be read from records of the type. A sort term writes out the
    name of a column, which records of the type have. -/
theorem readable (simulates : Simulates type id original select rows)
    (conforms : ∀ item ∈ original.items, type.ConformsInFull (original.view item)) {key : RowKey}
    (member : key ∈ rows.keys) : key.Readable rows.view rows.items := by
  obtain ⟨index, bounded, rfl⟩ := List.mem_iff_getElem.mp member
  obtain ⟨name, projection, found, reads, -⟩ := (List.forall₂_iff_get.mp simulates.order).2 index
    (simulates.order.length_eq ▸ bounded) bounded
  intro item known
  rw [simulates.view]
  have shapes := (conforms item (simulates.subset known)).columns.shapes
  exact ⟨_, reads ▸ Projections.key_toSelector id found shapes⟩

/-- A statement without conditions and sort terms simulates rows without keys. Its condition is the
    empty one, which all records meet. -/
theorem fresh (unsorted : original.keys = []) (table : String) (quote : Char) :
    Simulates type id original ⟨table, quote, [], []⟩ original := by
  refine ⟨rfl, ?_, ?_⟩
  · rw [unsorted]
    exact .nil
  · have all : original.items.filter (fun item =>
        Select.admits ⟨table, quote, [], []⟩ (type.columns (original.view item))) =
          original.items := List.filter_eq_self.mpr fun _ _ => rfl
    rw [all]

/-- Filtering by a predicate on readable members keeps the simulation: its condition is true in the
    rows that satisfy it. On conforming records such a predicate never fails, so it keeps those that
    satisfy it and no error comes in between. -/
theorem filter (conforms : ∀ item ∈ original.items, type.ConformsInFull (original.view item))
    {predicate : Predicate}
    (body : Expr.FilterBody type.IsReadable predicate.parameter predicate.body)
    (whole : ∀ value valueType, .constant value valueType ∈ predicate.body.parts → value.IsWhole) :
    Follows (Simulates type id original) (Source.filter · predicate)
      (Source.filter · predicate) := by
  intro select rows next simulates filtered
  obtain ⟨condition, translated, rfl⟩ := Select.filter_eq_ok.mp filtered
  have decided (item : α) (member : item ∈ rows.items) :
      predicate.evaluate (rows.view item) =
        .ok (predicate.isSatisfiedBy (rows.view item)) := by
    rw [simulates.view]
    exact Predicate.evaluate_of_body body (conforms item (simulates.subset member))
  refine ⟨_, Rows.source_filter_eq_ok.mpr ⟨fun item member => ⟨_, decided item member⟩, rfl⟩,
    simulates.view, simulates.order, ?_⟩
  rw [simulates.view]
  refine (simulates.items.filter _).trans (List.Perm.of_eq ?_)
  rw [List.filter_filter]
  apply List.filter_congr
  intro item member
  have same := Predicate.condition_true_iff_satisfied body whole translated (conforms item member)
  rw [Select.admits_restrict, Bool.and_comm]
  congr 1
  rw [Bool.eq_iff_iff, beq_iff_eq, same]

/-- Ordering by a named property keeps the simulation. The sort term and the key of rows come from
    the same projection, and start anew together. -/
theorem orderBy (conforms : ∀ item ∈ original.items, type.ConformsInFull (original.view item)) :
    Follows.Orders (Simulates type id original) (.ofType type id) := by
  intro name projection found ascending first select rows next simulates ordered
  obtain ⟨term, translated, rfl⟩ := Select.orderBy_eq_ok.mp ordered
  obtain ⟨m, -, rfl, rfl⟩ := Projections.get?_eq_some found
  have form : Sql.ofExpr (.member (.parameter (Projections.sharedParameter type id)) m) =
      .ok term := translated
  obtain ⟨_, -, -, rfl⟩ := Sql.ofExpr_member.mp form
  have writes : SortTerm.Writes (.ofType type id) select.quote ⟨.column m.name, ascending⟩
      ⟨(Projection.ofMember (Projections.sharedParameter type id) m).toSelector, ascending⟩ :=
    ⟨m.name, _, found, rfl, rfl⟩
  have earlier : List.Forall₂ (SortTerm.Writes (.ofType type id) select.quote)
      (if first then [] else select.order) (if first then [] else rows.keys) := by
    cases first with
    | true => exact .nil
    | false => exact simulates.order
  have readable : ∀ key ∈ (if first then [] else rows.keys) ++
      [⟨(Projection.ofMember (Projections.sharedParameter type id) m).toSelector, ascending⟩],
      key.Readable rows.view rows.items := by
    intro key member
    rcases List.mem_append.mp member with stays | new
    · cases first with
      | true => cases stays
      | false => exact simulates.readable conforms stays
    · rw [List.mem_singleton.mp new]
      intro item known
      rw [simulates.view]
      exact ⟨_, Projections.key_toSelector id found
        (conforms item (simulates.subset known)).columns.shapes⟩
  refine ⟨_, mapError_eq_ok.mpr (Rows.orderBy_eq_ok.mpr ⟨_, rfl, readable, rfl⟩), simulates.view,
    List.rel_append earlier (.cons writes .nil), ?_⟩
  exact (stableSort_perm _ _).trans simulates.items

end Simulates

/-- A statement that starts without conditions and sort terms simulates rows of conforming records
    that start without keys, through every run. Whenever the run of the statement succeeds, so does
    that of the rows, and after every operation the sort terms write out the keys of the rows and
    the rows are, up to their order, the original ones in which all conditions are true.

    Proof: the relation between statement and rows is kept by filters and orderings, hence by the
    operations made of them, and then by induction along a run. A filter keeps it since its
    condition is true exactly in the rows of the records that satisfy it. -/
theorem Select.simulates_rows {α : Type} {type : RecordType} (id : Nat) {rows : Rows α}
    (unsorted : rows.keys = [])
    (conforms : ∀ item ∈ rows.items, type.ConformsInFull (rows.view item))
    {operations : List Operation}
    (whole : ∀ operation ∈ operations, ∀ filter ∈ operation.filters,
      filter.IsWhole (.ofType type id))
    (table : String) (quote : Char) {selects : List Select}
    (run : Operation.states (.ofType type id) (⟨table, quote, [], []⟩ : Select) operations =
      .ok selects) :
    ∃ results, Operation.states (.ofType type id) rows operations = .ok results ∧
      List.Forall₂ (Simulates type id rows) selects results := by
  refine Follows.states (fun operation member => ?_) (Simulates.fresh unsorted table quote) run
  refine Follows.operation (Simulates.orderBy conforms) fun filter known predicate compiled => ?_
  obtain ⟨-, body⟩ := Compiled.body_of_ready compiled
  exact Simulates.filter conforms body ((whole operation member filter known).constants compiled)

/-- Records with a number or without one: a filter, an ordering that a second one breaks off and a
    request are followed, and the row left is the one in which both conditions are true. The null in
    the number is kept by the inequality in both. -/
theorem Select.simulates_request :
    let property : Property := ⟨"n", .nullable (.number (.integer .i32))⟩
    let type : RecordType := ⟨"S", .ok [property, ⟨"t", .text⟩], none⟩
    let record (value : Value) (text : String) : Record := ⟨"S", [value, .text text], none⟩
    let one : Value := .number (.integer .i32 1 (by decide))
    let rows : Rows Record := ⟨fun item => item, [record .null "a", record one "b"], []⟩
    let operations : List Operation := [.applyFilter ⟨some "n", .notEquals, .text "3"⟩,
      .applySort ⟨"n", false⟩ true,
      .applyRequest ⟨[⟨some "t", .contains, .text "a"⟩], [⟨"t", true⟩]⟩]
    ∃ selects results,
      Operation.states (.ofType type 0) (⟨"t", '"', [], []⟩ : Select) operations = .ok selects ∧
      Operation.states (.ofType type 0) rows operations = .ok results ∧
      List.Forall₂ (Simulates type 0 rows) selects results ∧
      results.getLast?.map Rows.items = some [record .null "a"] := by
  intro property type record one rows operations
  have conforms : ∀ item ∈ rows.items, type.ConformsInFull (rows.view item) := by
    intro item member
    refine ⟨?_, fun _ declared => by cases declared⟩
    simp only [rows, List.mem_cons, List.not_mem_nil, or_false] at member
    rcases member with rfl | rfl
    · exact ⟨rfl, .cons (.inr ⟨rfl, rfl⟩) (.cons (.inl rfl) .nil)⟩
    · exact ⟨rfl, .cons (.inl rfl) (.cons (.inl rfl) .nil)⟩
  have whole : ∀ operation ∈ operations, ∀ filter ∈ operation.filters,
      filter.IsWhole (.ofType type 0) := by
    intro operation member filter known projection constant resolved read
    simp only [operations, List.mem_cons, List.not_mem_nil, or_false] at member
    rcases member with rfl | rfl | rfl
    · obtain rfl := List.mem_singleton.mp known
      cases resolved
      cases read
      trivial
    · cases known
    · obtain rfl := List.mem_singleton.mp known
      cases resolved
      cases read
      trivial
  obtain ⟨results, run, simulates⟩ :=
    Select.simulates_rows 0 rfl conforms whole "t" '"' rfl
  refine ⟨_, results, rfl, run, simulates, ?_⟩
  cases run.symm.trans rfl
  rfl

/-- A record without the own value that its type declares is in no empty set for a database, while
    the same filter fails in memory. So the records must have their own values, where their type
    declares them. -/
theorem Select.missing_self_not_simulated :
    let property : Property := ⟨"n", .number (.integer .i32)⟩
    let type : RecordType := ⟨"S", .ok [property], some (.nullable (.number (.integer .i32)))⟩
    let record : Record := ⟨"S", [.number (.integer .i32 1 (by decide))], none⟩
    let rows : Rows Record := ⟨fun item => item, [record], []⟩
    let operation : Operation := .applyFilter ⟨none, .isIn, .ints []⟩
    (∀ item ∈ rows.items, type.Conforms (rows.view item)) ∧
      (∀ filter ∈ operation.filters, filter.IsWhole (.ofType type 0)) ∧
      (∃ selects, Operation.states (.ofType type 0) (⟨"t", '"', [], []⟩ : Select) [operation] =
        .ok selects) ∧
      ¬∃ results, Operation.states (.ofType type 0) rows [operation] = .ok results := by
  intro property type record rows operation
  refine ⟨fun item member => ?_, fun filter member => ?_, ⟨_, rfl⟩, ?_⟩
  · rw [List.mem_singleton.mp member]
    exact ⟨rfl, .cons (.inl rfl) .nil⟩
  · rw [List.mem_singleton.mp member]
    intro projection constant resolved read
    cases resolved
    cases read
    trivial
  · rintro ⟨results, run⟩
    cases run

end RecordQuery
