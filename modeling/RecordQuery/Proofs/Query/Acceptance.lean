import RecordQuery.Proofs.Compiled.Meaning
import RecordQuery.Proofs.Query.Sorting

/-!
# Which requests are accepted

Filters are compiled one after the other, each once those before it were applied to the rows. On
rows that read values of their declared types this makes no difference: no compiled filter fails on
them and every sort key can be read, so a request fails for its literals or not at all. Filters only
take rows away, and which ones does not depend on their order.
-/

namespace RecordQuery

/-- Whether a property of the type may read a value, if the kinds of numbers are not told apart. -/
def DataType.AdmitsUpToKind (type : DataType) (value : Value) : Prop :=
  type.Admits value ∨ ∃ kind number, type.base = .number kind ∧ value = .number number

/-- A record conforms up to the kinds of its numbers when every property, and the record itself if
    its type declares a value of its own, reads a value of the declared base type, with a number of
    any kind for a number, or null where the declared type admits it. -/
structure RecordType.ConformsUpToKind (type : RecordType) (record : Record) : Prop where
  named : record.typeName = type.name
  admits : List.Forall₂ (fun (property : Property) value => property.type.AdmitsUpToKind value)
    type.properties record.values
  self : ∀ valueType, type.selfType = some valueType →
    ∃ value, record.self = some value ∧ valueType.AdmitsUpToKind value

/-- Such a record has the shape of its type. -/
theorem RecordType.ConformsUpToKind.shapes {type : RecordType} {record : Record}
    (conforms : type.ConformsUpToKind record) : type.Shapes record :=
  ⟨conforms.named, conforms.admits.length_eq.symm⟩

namespace Comparison

variable {comparison : Comparison} {constant : Value} {subject condition : Expr} {scope : Scope}
  {kind : NumberKind} {number : Number}

/-- A condition on a number has a truth value for numbers of all kinds. Numbers of different kinds
    compare, and a set of integers takes numbers of every kind. -/
theorem decides_number (base : subject.type.base = .number kind)
    (suits : constant.suits (.number kind) = true)
    (applies : comparison.condition? subject constant = some condition)
    (read : subject.valueIn scope = .ok (.number number)) :
    ∃ holds, condition.valueIn scope = .ok (.bool holds) := by
  cases constant with
  | number other =>
    obtain ⟨relation, -, rfl⟩ := Option.map_eq_some_iff.mp applies
    exact ⟨_, Expr.valueIn_relate read (Expr.valueIn_constant _ _) rfl⟩
  | ints items =>
    have noDate : subject.type.isDate = false := by simp [DataType.isDate, base]
    simp only [condition?, setCondition?, noDate, Bool.false_eq_true, if_false] at applies
    split at applies <;> cases applies
    exact ⟨_, Expr.valueIn_call_two rfl (Expr.valueIn_constant _ _) read rfl⟩
  | _ => cases suits

/-- A condition with a constant that goes with its subject has a truth value for every value of the
    type of the subject, with numbers of all kinds among them. A number of another kind than the
    declared one still compares, so conforming up to kinds is enough. -/
theorem decides_condition (suits : constant.suits subject.type.base = true)
    (applies : comparison.condition? subject constant = some condition) {value : Value}
    (read : subject.valueIn scope = .ok value) (admits : subject.type.AdmitsUpToKind value) :
    ∃ holds, condition.valueIn scope = .ok (.bool holds) := by
  rcases admits with admits | ⟨kind, number, base, rfl⟩
  · obtain ⟨holds, evaluated, -⟩ :=
      means_condition suits applies read (admits.imp_right And.left)
    exact ⟨holds, evaluated⟩
  · rw [base] at suits
    exact decides_number base suits applies read

end Comparison

/-- A compiled filter never fails on a record that conforms up to kinds. So only compiling can fail,
    which does not look at records. -/
theorem Compiled.evaluates_of_ready {type : RecordType} {id : Nat} {filter : Filter}
    {predicate : Predicate} (compiled : ofFilter (.ofType type id) filter = .ok (ready predicate))
    {record : Record} (conforms : type.ConformsUpToKind record) :
    ∃ holds, predicate.evaluate record = .ok holds := by
  obtain ⟨projection, constant, body, resolved, read, applied, rfl⟩ := ofParts_eq_ready compiled
  have suits := Literal.suits_of_constantFor read
  obtain ⟨m, readable, rfl⟩ := member_of_constant (Projections.resolve_eq_some resolved) suits
  obtain ⟨value, given, admits⟩ :=
    type.related_readable conforms.named conforms.admits conforms.self readable
  obtain ⟨holds, evaluated⟩ :=
    Comparison.decides_condition suits applied (Expr.valueIn_member_sole.mpr given) admits
  refine ⟨holds, ?_⟩
  rw [Predicate.evaluate_eq_truthIn]
  exact Expr.truthIn_of_valueIn evaluated

/-- Whether a filter keeps a record; one that is dropped or cannot be compiled keeps all. -/
def Filter.keeps (projections : Projections) (record : Record) (filter : Filter) : Bool :=
  match Compiled.ofFilter projections filter with
  | .ok (.ready predicate) => predicate.isSatisfiedBy record
  | _ => true

namespace Rows

variable {α : Type} {type : RecordType} {id : Nat} {rows : Rows α}

/-- The rows that all filters keep. -/
def kept (projections : Projections) (rows : Rows α) (filters : List Filter) : Rows α :=
  rows.keeping fun item => filters.all (Filter.keeps projections (rows.view item))

/-- No filter takes no row away. -/
theorem kept_nil (projections : Projections) (rows : Rows α) : rows.kept projections [] = rows := by
  simp [kept, keeping]

/-- What a first filter keeps is left to the others. -/
theorem kept_cons (projections : Projections) (rows : Rows α) (filter : Filter)
    (rest : List Filter) : rows.kept projections (filter :: rest) =
      (rows.kept projections [filter]).kept projections rest := by
  simp [kept, keeping, List.filter_filter, Bool.and_comm]

/-- The order of filters makes no difference to what they keep. An item stays if all filters keep
    it, in whatever order they are asked. -/
theorem kept_perm {filters reordered : List Filter} (same : reordered.Perm filters)
    (projections : Projections) (rows : Rows α) :
    rows.kept projections reordered = rows.kept projections filters := by
  have asMany (item : α) : reordered.all (Filter.keeps projections (rows.view item)) =
      filters.all (Filter.keeps projections (rows.view item)) := by
    rw [Bool.eq_iff_iff, List.all_eq_true, List.all_eq_true]
    simp only [same.mem_iff]
  simp only [kept, asMany]

/-- A filter applies to conforming rows exactly when it can be compiled. The items that stay are
    those of which it holds, and all if it was dropped. -/
theorem applyFilter_eq (conforms : ∀ item ∈ rows.items, type.ConformsUpToKind (rows.view item))
    (filter : Filter) : Source.applyFilter (.ofType type id) rows filter = (do
      let _ ← (Compiled.ofFilter (.ofType type id) filter).mapError .literal
      return rows.kept (.ofType type id) [filter]) := by
  have step : Source.applyFilter (.ofType type id) rows filter =
      ((Compiled.ofFilter (.ofType type id) filter).mapError .literal >>=
        Source.applyCompiled rows) := rfl
  rw [step]
  cases compiled : Compiled.ofFilter (.ofType type id) filter with
  | error error => rfl
  | ok outcome =>
    have applied : Source.applyCompiled rows outcome =
        .ok (rows.kept (.ofType type id) [filter]) := by
      cases outcome with
      | ready predicate =>
        refine source_filter_eq_ok.mpr ⟨fun item member => ?_, ?_⟩
        · exact Compiled.evaluates_of_ready compiled (conforms item member)
        · simp [kept, keeping, Filter.keeps, compiled]
      | dropped reason => simp [Source.applyCompiled, kept, keeping, Filter.keeps, compiled]
    exact applied

/-- Filters apply to conforming rows exactly when all of them can be compiled. The first that cannot
    be compiled gives the error, whatever the items are. The induction uses that what is kept
    conforms as well. -/
theorem applyFilters_eq (conforms : ∀ item ∈ rows.items, type.ConformsUpToKind (rows.view item))
    (filters : List Filter) : Source.applyFilters (.ofType type id) rows filters = (do
      let _ ← (filters.mapM (Compiled.ofFilter (.ofType type id))).mapError .literal
      return rows.kept (.ofType type id) filters) := by
  induction filters generalizing rows with
  | nil =>
    rw [kept_nil]
    rfl
  | cons filter rest inductionHypothesis =>
    have stillConforms : ∀ item ∈ (rows.kept (.ofType type id) [filter]).items,
        type.ConformsUpToKind (rows.view item) :=
      fun item member => conforms item (List.mem_of_mem_filter member)
    have remaining := inductionHypothesis stillConforms
    unfold Source.applyFilters at remaining ⊢
    rw [List.foldlM_cons, applyFilter_eq conforms, List.mapM_cons,
      kept_cons _ rows filter rest]
    cases Compiled.ofFilter (.ofType type id) filter with
    | error error => rfl
    | ok outcome =>
      refine Eq.trans remaining ?_
      cases rest.mapM (Compiled.ofFilter (.ofType type id)) <;> rfl

/-- Further sort keys apply to rows of the shape of their type, if the keys so far can be read. The
    first key that names a property drops those of before, and each later one is put behind. -/
theorem applySortsFrom_succeeds (id : Nat) (begun : Bool)
    (shapes : ∀ item ∈ rows.items, type.Shapes (rows.view item))
    (readable : begun = true → ∀ key ∈ rows.keys, key.Readable rows.view rows.items)
    (sorts : List SortKey) :
    ∃ result, Source.applySortsFrom (.ofType type id) begun rows sorts = .ok result := by
  induction sorts generalizing begun rows with
  | nil => exact ⟨rows, rfl⟩
  | cons sort rest inductionHypothesis =>
    rw [Source.applySortsFrom]
    cases found : (Projections.ofType type id).get? sort.property with
    | none => exact inductionHypothesis begun shapes readable
    | some projection =>
      obtain ⟨keys, extended⟩ : ∃ keys : List RowKey, keys =
          (if !begun then [] else rows.keys) ++ [⟨projection.toSelector, sort.ascending⟩] :=
        ⟨_, rfl⟩
      have allReadable : ∀ key ∈ keys, key.Readable rows.view rows.items := by
        intro key member
        rw [extended] at member
        rcases List.mem_append.mp member with stays | new
        · cases begun with
          | false => cases stays
          | true => exact readable rfl key stays
        · rw [List.mem_singleton.mp new]
          exact fun item known => ⟨_, Projections.key_toSelector id found (shapes item known)⟩
      have ordered : Source.orderBy rows projection.toSelector sort.ascending (!begun) =
          .ok (rows.sortedBy keys) :=
        apply_orderBy.mpr ⟨keys, extended, allReadable, rfl⟩
      have sortedShapes : ∀ item ∈ (rows.sortedBy keys).items,
          type.Shapes ((rows.sortedBy keys).view item) :=
        fun item member => shapes item (mem_sortedBy.mp member)
      have sortedReadable : ∀ key ∈ keys,
          key.Readable (rows.sortedBy keys).view (rows.sortedBy keys).items :=
        fun key member => (allReadable key member).mono fun item => mem_sortedBy.mp
      obtain ⟨result, remaining⟩ := inductionHypothesis true sortedShapes fun _ => sortedReadable
      refine ⟨result, ?_⟩
      simp only [ordered, bind, Except.bind]
      exact remaining

/-- A request applies to conforming rows exactly when all its filters can be compiled: what they
    keep is then sorted. Sorting conforming rows never fails, so the filters decide. -/
theorem applyRequest_eq (id : Nat)
    (conforms : ∀ item ∈ rows.items, type.ConformsUpToKind (rows.view item)) (request : Request) :
    ∃ result, Source.applySorts (.ofType type id) (rows.kept (.ofType type id) request.filters)
        request.sorts = .ok result ∧
      Source.applyRequest (.ofType type id) rows request = (do
        let _ ← (request.filters.mapM (Compiled.ofFilter (.ofType type id))).mapError .literal
        return result) := by
  have shapes : ∀ item ∈ (rows.kept (.ofType type id) request.filters).items,
      type.Shapes (rows.view item) :=
    fun item member => (conforms item (List.mem_of_mem_filter member)).shapes
  obtain ⟨result, sorted⟩ :=
    applySortsFrom_succeeds id false shapes (fun absurd => by cases absurd) request.sorts
  refine ⟨result, sorted, ?_⟩
  rw [Source.applyRequest, applyFilters_eq conforms]
  cases request.filters.mapM (Compiled.ofFilter (.ofType type id)) with
  | error error => rfl
  | ok compiled => exact sorted

end Rows

namespace Source

variable {type : RecordType} {α β : Type} {rows : Rows α} {others : Rows β}

/-- A request on conforming rows fails for the first literal that cannot be read, or it does not
    fail. The error is that of compiling, in which the rows have no part. -/
theorem applyRequest_eq_error (id : Nat)
    (conforms : ∀ item ∈ rows.items, type.ConformsUpToKind (rows.view item)) (request : Request)
    (error : QueryError) :
    applyRequest (.ofType type id) rows request = .error error ↔
      ∃ cause, request.filters.mapM (Compiled.ofFilter (.ofType type id)) = .error cause ∧
        error = .literal cause := by
  obtain ⟨result, -, applied⟩ := Rows.applyRequest_eq id conforms request
  rw [applied]
  cases request.filters.mapM (Compiled.ofFilter (.ofType type id)) with
  | error cause => simp [Except.mapError, bind, Except.bind, eq_comm]
  | ok compiled => simp [Except.mapError, bind, Except.bind, pure, Except.pure]

/-- A request on conforming rows succeeds when each of its filters can be compiled. The condition
    does not mention the rows. -/
theorem applyRequest_succeeds_iff (id : Nat)
    (conforms : ∀ item ∈ rows.items, type.ConformsUpToKind (rows.view item)) (request : Request) :
    (∃ result, applyRequest (.ofType type id) rows request = .ok result) ↔
      ∀ filter ∈ request.filters, ∃ compiled,
        Compiled.ofFilter (.ofType type id) filter = .ok compiled := by
  obtain ⟨result, -, applied⟩ := Rows.applyRequest_eq id conforms request
  rw [applied, ← mapM_succeeds_iff]
  cases request.filters.mapM (Compiled.ofFilter (.ofType type id)) with
  | error cause => simp [Except.mapError, bind, Except.bind]
  | ok compiled => simp [Except.mapError, bind, Except.bind, pure, Except.pure]

/-- What a request on conforming rows gives is what its filters keep, sorted. Sorting starts with
    what the filters keep, so it does not depend on how they are ordered. -/
theorem sorts_of_applyRequest {id : Nat} {request : Request} {result : Rows α}
    (conforms : ∀ item ∈ rows.items, type.ConformsUpToKind (rows.view item))
    (done : applyRequest (.ofType type id) rows request = .ok result) :
    applySorts (.ofType type id) (rows.kept (.ofType type id) request.filters) request.sorts =
      .ok result := by
  obtain ⟨final, sorted, applied⟩ := Rows.applyRequest_eq id conforms request
  rw [applied] at done
  cases accepted : request.filters.mapM (Compiled.ofFilter (.ofType type id)) with
  | error cause =>
    rw [accepted] at done
    cases done
  | ok compiled =>
    rw [accepted] at done
    cases done
    exact sorted

/-- Whether a request is accepted depends neither on the rows nor on the order of its filters. On
    any two sources of conforming rows, which may have been sorted before, a request fails with the
    same error or succeeds on both. With its filters in another order it succeeds again, with the
    same rows in the same order, or fails again.

    Proof: on conforming rows, filters fail in compiling only and sorting does not fail at all. So
    acceptance is a condition on the filters, each by itself, and what they keep does not depend on
    their order. -/
theorem acceptance_independent (id : Nat) (request : Request)
    (conforms : ∀ item ∈ rows.items, type.ConformsUpToKind (rows.view item))
    (otherConforms : ∀ item ∈ others.items, type.ConformsUpToKind (others.view item)) :
    (∀ error, applyRequest (.ofType type id) rows request = .error error ↔
      applyRequest (.ofType type id) others request = .error error) ∧
    ((∃ result, applyRequest (.ofType type id) rows request = .ok result) ↔
      ∃ result, applyRequest (.ofType type id) others request = .ok result) ∧
    ∀ filters, filters.Perm request.filters →
      (∃ result, applyRequest (.ofType type id) rows request = .ok result ∧
        applyRequest (.ofType type id) rows { request with filters } = .ok result) ∨
      ∃ error other, applyRequest (.ofType type id) rows request = .error error ∧
        applyRequest (.ofType type id) rows { request with filters } = .error other := by
  refine ⟨fun error => ?_, ?_, fun filters reordered => ?_⟩
  · rw [applyRequest_eq_error id conforms, applyRequest_eq_error id otherConforms]
  · rw [applyRequest_succeeds_iff id conforms, applyRequest_succeeds_iff id otherConforms]
  · have sameAcceptance := applyRequest_succeeds_iff id conforms { request with filters }
    simp only [reordered.mem_iff] at sameAcceptance
    rw [← applyRequest_succeeds_iff id conforms request] at sameAcceptance
    cases done : applyRequest (.ofType type id) rows request with
    | ok result =>
      obtain ⟨other, otherDone⟩ := sameAcceptance.mpr ⟨result, done⟩
      have sorted := sorts_of_applyRequest conforms done
      have otherSorted := sorts_of_applyRequest conforms otherDone
      rw [Rows.kept_perm reordered, sorted] at otherSorted
      cases otherSorted
      exact .inl ⟨result, rfl, otherDone⟩
    | error error =>
      cases otherDone : applyRequest (.ofType type id) rows { request with filters } with
      | ok other =>
        obtain ⟨result, succeeds⟩ := sameAcceptance.mp ⟨other, otherDone⟩
        rw [done] at succeeds
        cases succeeds
      | error other => exact .inr ⟨error, other, rfl, rfl⟩

/-- A literal that cannot be read is refused although the filter before it keeps no record, and
    although there is no record at all. With the two filters in another order it is refused as
    well. -/
theorem acceptance_independent_refused :
    let count : Property := ⟨"n", .nullable (.number (.integer .i32))⟩
    let type : RecordType := ⟨"R", .ok [count], some .text⟩
    let above : Filter := ⟨some "n", .greaterThan, .number (.integer .i32 5 (by decide))⟩
    let unreadable : Filter := ⟨some "n", .equals, .text "x"⟩
    let request : Request := ⟨[above, unreadable], [⟨"n", false⟩]⟩
    let rows : Rows Record :=
      ⟨fun item => item, [⟨"R", [.number (.integer .i64 3 (by decide))], some (.text "a")⟩], []⟩
    let others : Rows Record := ⟨fun item => item, [], []⟩
    ∃ error, applyRequest (.ofType type 0) rows request = .error error ∧
      applyRequest (.ofType type 0) others request = .error error ∧
      ∃ other, applyRequest (.ofType type 0) rows ⟨[unreadable, above], [⟨"n", false⟩]⟩ =
        .error other := by
  intro count type above unreadable request rows others
  have conforms : ∀ item ∈ rows.items, type.ConformsUpToKind (rows.view item) := by
    intro item member
    obtain rfl := List.mem_singleton.mp member
    refine ⟨rfl, .cons (.inr ⟨_, _, rfl, rfl⟩) .nil, ?_⟩
    rintro valueType ⟨⟩
    exact ⟨.text "a", rfl, .inl (.inl rfl)⟩
  have otherConforms : ∀ item ∈ others.items, type.ConformsUpToKind (others.view item) := by
    intro item member
    cases member
  obtain ⟨sameError, -, reordered⟩ := acceptance_independent 0 request conforms otherConforms
  obtain ⟨error, refused⟩ : ∃ error, applyRequest (.ofType type 0) rows request = .error error :=
    ⟨_, rfl⟩
  refine ⟨error, refused, (sameError error).mp refused, ?_⟩
  rcases reordered [unreadable, above] (.swap above unreadable []) with
    ⟨result, done, -⟩ | ⟨_, other, -, otherRefused⟩
  · rw [refused] at done
    cases done
  · exact ⟨other, otherRefused⟩

end Source

end RecordQuery
