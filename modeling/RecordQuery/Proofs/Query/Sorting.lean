import RecordQuery.Proofs.Expr.Evaluation
import RecordQuery.Proofs.Query.Runs
import RecordQuery.Proofs.Record.Columns
import RecordQuery.Query.Application

/-!
# Sorting by several keys

Rows are sorted again by every further key, each time by all keys so far. A key added to others
only decides more ties, so all but the last of these sorts have no influence: the rows are a
stable sort of what they were, by the columns that the keys name, whatever keys the rows had
before. Keys that name no property do nothing.
-/

namespace RecordQuery

variable {α : Type}

namespace RecordType

/-- The sort keys that name a property, in order. -/
def resolving (type : RecordType) (keys : List SortKey) : List SortKey :=
  keys.filter fun key => type.properties.any fun property => property.name == key.property

/-- The columns that sort keys name, the primary one first. -/
def keyColumns (type : RecordType) (view : α → Record) (keys : List SortKey) :
    List (KeyColumn α) :=
  (type.resolving keys).map fun key =>
    ⟨fun item => type.columns (view item) key.property, key.ascending⟩

/-- The first of several sort keys has a column if it names a property. Whether it does depends on
    the type and not on the records. -/
theorem keyColumns_cons (type : RecordType) (view : α → Record) (key : SortKey)
    (rest : List SortKey) : type.keyColumns view (key :: rest) =
      if type.properties.any fun property => property.name == key.property then
        ⟨fun item => type.columns (view item) key.property, key.ascending⟩ ::
          type.keyColumns view rest
      else type.keyColumns view rest := by
  unfold keyColumns resolving
  rw [List.filter_cons]
  split <;> rfl

end RecordType

namespace Projections

/-- The keys of rows that sort keys come to, by the projections that they name. -/
def rowKeys (projections : Projections) (keys : List SortKey) : List RowKey :=
  keys.filterMap fun key =>
    (projections.get? key.property).map fun projection => ⟨projection.toSelector, key.ascending⟩

/-- The first of several sort keys comes to a key of rows if it names a property. It is looked up as
    it is, without trimming. -/
theorem rowKeys_cons (projections : Projections) (sort : SortKey) (rest : List SortKey) :
    projections.rowKeys (sort :: rest) = match projections.get? sort.property with
      | none => projections.rowKeys rest
      | some projection => ⟨projection.toSelector, sort.ascending⟩ :: projections.rowKeys rest := by
  unfold rowKeys
  rw [List.filterMap_cons]
  cases projections.get? sort.property <;> rfl

end Projections

namespace Rows

/-- Sorting rows by keys and then by further ones is sorting them once, by all. The first sort is by
    a coarser comparator, so it makes no difference to a stable sort by the finer one. -/
theorem sortedBy_sortedBy {rows : Rows α} {keys further : List RowKey}
    (uniform : ∀ key ∈ keys ++ further, key.selector.Uniform rows.view rows.items) :
    (rows.sortedBy keys).sortedBy (keys ++ further) = rows.sortedBy (keys ++ further) := by
  have coarser := ordersOn_columns fun key member => uniform key (List.mem_append_left _ member)
  have refines (a b : α) (tie : KeyColumn.lexicographic (columns rows.view (keys ++ further)) a b =
      .eq) : KeyColumn.lexicographic (columns rows.view keys) a b = .eq := by
    rw [columns, List.map_append] at tie
    exact KeyColumn.lexicographic_refines _ _ a b tie
  have once := stableSort_coarser coarser (ordersOn_columns uniform) refines
  rw [sortedBy, sortedBy, sortedBy, once]

/-- Sorting by further keys sorts once, by the keys that stay and all that are added. The program
    sorts again at each key, and what comes out is one sort.

    Proof: induction on the sort keys, with the rows and whether the ordering has begun general.
    Sorting by the keys so far and then by one more is sorting by all of them. -/
theorem applySortsFrom_eq_ok {projections : Projections} (begun : Bool) (rows : Rows α)
    {sorts : List SortKey} {keys : List RowKey}
    (extended : keys = (if begun then rows.keys else []) ++ projections.rowKeys sorts)
    (readable : ∀ key ∈ keys, key.Readable rows.view rows.items)
    (uniform : ∀ key ∈ keys, key.selector.Uniform rows.view rows.items) :
    Source.applySortsFrom projections begun rows sorts =
      .ok (if projections.rowKeys sorts = [] then rows else rows.sortedBy keys) := by
  induction sorts generalizing begun rows with
  | nil => rfl
  | cons sort rest inductionHypothesis =>
    cases found : projections.get? sort.property with
    | none =>
      have skipped : projections.rowKeys (sort :: rest) = projections.rowKeys rest := by
        rw [Projections.rowKeys_cons, found]
      rw [skipped] at extended ⊢
      rw [Source.applySortsFrom, found]
      exact inductionHypothesis begun rows extended readable uniform
    | some projection =>
      have added : projections.rowKeys (sort :: rest) =
          ⟨projection.toSelector, sort.ascending⟩ :: projections.rowKeys rest := by
        rw [Projections.rowKeys_cons, found]
      obtain ⟨first, firstKeys⟩ : ∃ first : List RowKey, first =
          (if !begun then [] else rows.keys) ++ [⟨projection.toSelector, sort.ascending⟩] :=
        ⟨_, rfl⟩
      have parted : keys = first ++ projections.rowKeys rest := by
        rw [extended, added, firstKeys]
        cases begun <;> simp
      have ordered : Source.orderBy rows projection.toSelector sort.ascending (!begun) =
          .ok (rows.sortedBy first) := by
        refine apply_orderBy.mpr ⟨first, firstKeys, fun key member => readable key ?_, rfl⟩
        rw [parted]
        exact List.mem_append_left _ member
      have subset (item : α) (member : item ∈ (rows.sortedBy first).items) : item ∈ rows.items :=
        mem_sortedBy.mp member
      have remaining := inductionHypothesis true (rows.sortedBy first) parted
        (fun key member => (readable key member).mono subset)
        (fun key member => (uniform key member).mono subset)
      have once : (rows.sortedBy first).sortedBy keys = rows.sortedBy keys := by
        rw [parted]
        exact sortedBy_sortedBy fun key member => uniform key (parted ▸ member)
      rw [Source.applySortsFrom, found, added, if_neg (List.cons_ne_nil _ _)]
      simp only [ordered, bind, Except.bind]
      rw [remaining, once]
      split
      · rename_i noMore
        rw [parted, noMore, List.append_nil]
      · rfl

/-- Sorting rows by keys sorts them stably by the columns of all, or does nothing without any.
    Earlier keys of the rows have no part in it, since the first new key starts anew. -/
theorem applySorts_rowKeys {projections : Projections} {rows : Rows α} {sorts : List SortKey}
    (readable : ∀ key ∈ projections.rowKeys sorts, key.Readable rows.view rows.items)
    (uniform : ∀ key ∈ projections.rowKeys sorts, key.selector.Uniform rows.view rows.items) :
    ∃ result, Source.applySorts projections rows sorts = .ok result ∧ result.view = rows.view ∧
      StablySorted (KeyColumn.lexicographic (columns rows.view (projections.rowKeys sorts)))
        rows.items result.items ∧
      (projections.rowKeys sorts = [] → result = rows) := by
  have applied := applySortsFrom_eq_ok false rows rfl readable uniform
  by_cases noKey : projections.rowKeys sorts = []
  · rw [if_pos noKey] at applied
    refine ⟨rows, applied, rfl, .of_sorted ?_, fun _ => rfl⟩
    rw [noKey]
    apply List.pairwise_of_forall
    intro earlier later
    simp [columns, KeyColumn.lexicographic]
  · rw [if_neg noKey] at applied
    exact ⟨_, applied, rfl, stablySorted_stableSort (ordersOn_columns uniform),
      fun noneAdded => absurd noneAdded noKey⟩

end Rows

namespace Projections

variable {type : RecordType} (id : Nat)

/-- A property name resolves exactly when a property is declared under it. -/
theorem isSome_get? (type : RecordType) (name : String) : ((ofType type id).get? name).isSome =
    type.properties.any fun property => property.name == name := by
  rw [Bool.eq_iff_iff, Option.isSome_iff_ne_none, ne_eq, get?_eq_none]
  simp

/-- The sort key of a projection is the value of its column. -/
theorem key_toSelector {name : String} {projection : Projection}
    (found : (ofType type id).get? name = some projection) {record : Record}
    (shapes : type.Shapes record) :
    projection.toSelector.key record = .ok (type.columns record name) := by
  obtain ⟨m, column, rfl, rfl⟩ := get?_eq_some found
  exact Expr.valueIn_member_sole.mpr (type.read_column shapes column)

/-- Records compare by the keys of rows as by the columns that the sort keys name. The keys are
    selectors that may fail, but not on records of the shape of the type. -/
theorem lexicographic_rowKeys {view : α → Record} (sorts : List SortKey) {left right : α}
    (leftShapes : type.Shapes (view left)) (rightShapes : type.Shapes (view right)) :
    KeyColumn.lexicographic (Rows.columns view ((ofType type id).rowKeys sorts)) left right =
      KeyColumn.lexicographic (type.keyColumns view sorts) left right := by
  induction sorts with
  | nil => rfl
  | cons sort rest inductionHypothesis =>
    have resolves := isSome_get? id type sort.property
    rw [rowKeys_cons, RecordType.keyColumns_cons, ← resolves]
    cases found : (ofType type id).get? sort.property with
    | none => exact inductionHypothesis
    | some projection =>
      have leftKey := RowKey.column_read ⟨projection.toSelector, sort.ascending⟩
        (key_toSelector id found leftShapes)
      have rightKey := RowKey.column_read ⟨projection.toSelector, sort.ascending⟩
        (key_toSelector id found rightShapes)
      simp only [Rows.columns, List.map_cons, Option.isSome_some, if_true, KeyColumn.lexicographic,
        KeyColumn.compare, leftKey, rightKey]
      exact congrArg _ inductionHypothesis

/-- Sort keys that name no property come to no key of rows. Then nothing is sorted, and no key is
    dropped either. -/
theorem rowKeys_eq_nil {sorts : List SortKey} (noneResolves : type.resolving sorts = []) :
    (ofType type id).rowKeys sorts = [] := by
  apply List.filterMap_eq_nil_iff.mpr
  intro sort member
  have unknown := List.filter_eq_nil_iff.mp noneResolves sort member
  rw [← isSome_get? id type, Bool.not_eq_true, Option.isSome_eq_false_iff,
    Option.isNone_iff_eq_none] at unknown
  rw [unknown, Option.map_none]

/-- The keys of rows that sort keys come to can be read from all records of the type. -/
theorem readable_rowKeys {view : α → Record} {items : List α}
    (shapes : ∀ item ∈ items, type.Shapes (view item)) {sorts : List SortKey} {key : RowKey}
    (member : key ∈ (ofType type id).rowKeys sorts) : key.Readable view items := by
  obtain ⟨sort, -, named⟩ := List.mem_filterMap.mp member
  obtain ⟨projection, found, rfl⟩ := Option.map_eq_some_iff.mp named
  exact fun item known => ⟨_, key_toSelector id found (shapes item known)⟩

/-- The keys of rows that sort keys come to are uniform when their columns are. Reading a key of a
    named property is reading its column. -/
theorem uniform_rowKeys {view : α → Record} {items : List α}
    (shapes : ∀ item ∈ items, type.Shapes (view item)) {sorts : List SortKey}
    (uniform : ∀ column ∈ type.keyColumns view sorts, column.Uniform items) {key : RowKey}
    (member : key ∈ (ofType type id).rowKeys sorts) : key.selector.Uniform view items := by
  obtain ⟨sort, inSorts, named⟩ := List.mem_filterMap.mp member
  obtain ⟨projection, found, rfl⟩ := Option.map_eq_some_iff.mp named
  have resolves : sort ∈ type.resolving sorts := by
    refine List.mem_filter.mpr ⟨inSorts, ?_⟩
    rw [← isSome_get? id type, found]
    rfl
  obtain ⟨valueType, typed⟩ := uniform _ (List.mem_map_of_mem resolves)
  refine ⟨valueType, fun item known value read => ?_⟩
  rw [key_toSelector id found (shapes item known)] at read
  cases read
  exact typed item known

end Projections

/-- Sort keys that name no property have no effect on any source, wherever they stand. The induction
    carries along whether the ordering has begun, which such a key leaves as it is. -/
theorem Source.applySorts_resolving {σ : Type} [Source σ] (type : RecordType) (id : Nat)
    (source : σ) (sorts : List SortKey) :
    applySorts (.ofType type id) source (type.resolving sorts) =
      applySorts (.ofType type id) source sorts := by
  unfold applySorts
  generalize false = begun
  induction sorts generalizing begun source with
  | nil => rfl
  | cons sort rest inductionHypothesis =>
    have resolves := Projections.isSome_get? id type sort.property
    unfold RecordType.resolving at inductionHypothesis ⊢
    rw [List.filter_cons, ← resolves]
    cases found : (Projections.ofType type id).get? sort.property with
    | none =>
      simp only [applySortsFrom, found]
      exact inductionHypothesis source begun
    | some projection =>
      rw [Option.isSome_some, if_pos rfl, applySortsFrom, applySortsFrom, found]
      simp only [inductionHypothesis]

/-- Sorting rows by keys succeeds and gives the one stable sort of them by the columns that the keys
    name, whatever keys they had before. It leaves them as they are if no key names a property, and
    a key that names none makes no difference anywhere.

    Proof: the program sorts once more at each key, which comes to one stable sort by all of them.
    The keys that it sorts by read the columns that the sort keys name, and a stable sort by a
    comparator that orders the items is the only one. -/
theorem Rows.applySorts_stablySorted {type : RecordType} (id : Nat) {rows : Rows α}
    {sorts : List SortKey} (shapes : ∀ item ∈ rows.items, type.Shapes (rows.view item))
    (uniform : ∀ column ∈ type.keyColumns rows.view sorts, column.Uniform rows.items) :
    ∃ result, Source.applySorts (.ofType type id) rows sorts = .ok result ∧
      result.view = rows.view ∧
      (∀ items, StablySorted (KeyColumn.lexicographic (type.keyColumns rows.view sorts))
        rows.items items ↔ items = result.items) ∧
      (type.resolving sorts = [] → result = rows) ∧
      Source.applySorts (.ofType type id) rows (type.resolving sorts) = .ok result := by
  obtain ⟨result, applied, sameView, sorted, unchanged⟩ := applySorts_rowKeys
    (fun key => Projections.readable_rowKeys id shapes)
    (fun key => Projections.uniform_rowKeys id shapes uniform)
  have same (a : α) (first : a ∈ rows.items) (b : α) (second : b ∈ rows.items) :=
    Projections.lexicographic_rowKeys id sorts (shapes a first) (shapes b second)
  have byColumns := sorted.congr fun a first b second => (same a first b second).symm
  have orders := KeyColumn.ordersOn_lexicographic uniform
  refine ⟨result, applied, sameView, fun items => ?_, ?_, ?_⟩
  · constructor
    · exact fun other => byColumns.unique orders other
    · rintro rfl
      exact byColumns
  · exact fun noneResolves => unchanged (Projections.rowKeys_eq_nil id noneResolves)
  · rw [Source.applySorts_resolving]
    exact applied

/-- Three rows are sorted downwards: the missing number comes first, and the two that tie stay
    as they were. The key before it names no property. -/
theorem Rows.applySorts_descending :
    let number : Property := ⟨"n", .nullable (.number (.integer .i32))⟩
    let type : RecordType := ⟨"S", .ok [number, ⟨"t", .text⟩], none⟩
    let three : Value := .number (.integer .i32 3 (by decide))
    let record (value : Value) (text : String) : Record := ⟨"S", [value, .text text], none⟩
    let rows : Rows Record :=
      ⟨fun item => item, [record three "b", record three "a", record .null "c"], []⟩
    let sorts : List SortKey := [⟨"missing", true⟩, ⟨"n", false⟩]
    let arranged : List Record := [record .null "c", record three "b", record three "a"]
    Source.applySorts (.ofType type 0) rows sorts =
        .ok ⟨rows.view, arranged, (Projections.ofType type 0).rowKeys sorts⟩ ∧
      ∀ items, StablySorted (KeyColumn.lexicographic (type.keyColumns rows.view sorts))
        rows.items items ↔ items = arranged := by
  intro number type three record rows sorts arranged
  have shapes : ∀ item ∈ rows.items, type.Shapes (rows.view item) := by
    intro item member
    simp only [rows, List.mem_cons, List.not_mem_nil, or_false] at member
    rcases member with rfl | rfl | rfl
    · exact ⟨rfl, rfl⟩
    · exact ⟨rfl, rfl⟩
    · exact ⟨rfl, rfl⟩
  have uniform : ∀ column ∈ type.keyColumns rows.view sorts, column.Uniform rows.items := by
    intro column member
    have only : type.keyColumns rows.view sorts =
      [⟨fun item => type.columns item "n", false⟩] := rfl
    rw [only, List.mem_singleton] at member
    subst column
    refine ⟨.number (.integer .i32), fun item known => ?_⟩
    simp only [rows, List.mem_cons, List.not_mem_nil, or_false] at known
    rcases known with rfl | rfl | rfl
    · exact .inr rfl
    · exact .inr rfl
    · exact .inl rfl
  obtain ⟨result, applied, -, unique, -, -⟩ := applySorts_stablySorted 0 shapes uniform
  have same : Source.applySorts (.ofType type 0) rows sorts =
      .ok ⟨rows.view, arranged, (Projections.ofType type 0).rowKeys sorts⟩ := rfl
  cases applied.symm.trans same
  exact ⟨same, unique⟩

end RecordQuery
