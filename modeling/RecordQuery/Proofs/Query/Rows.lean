import RecordQuery.Proofs.Outcome
import RecordQuery.Proofs.Query.KeyColumns
import RecordQuery.Proofs.Query.StablySorted
import RecordQuery.Query.Rows

/-!
# Filtering and sorting rows

A step on rows succeeds exactly when the predicate, or every key, can be evaluated on every
item. It then keeps the items that satisfy the predicate, or sorts them by the columns of all
keys.
-/

namespace RecordQuery

variable {α : Type}

namespace RowKey

/-- The column of a key; an item that the key cannot be evaluated on has null there. -/
def column (view : α → Record) (key : RowKey) : KeyColumn α :=
  ⟨fun item => (key.selector.key (view item)).toOption.getD .null, key.ascending⟩

/-- A key is readable when it can be evaluated on every item. -/
def Readable (view : α → Record) (items : List α) (key : RowKey) : Prop :=
  ∀ item ∈ items, ∃ value, key.selector.key (view item) = .ok value

/-- The value of a readable key stands in its column. -/
theorem column_read {view : α → Record} (key : RowKey) {item : α} {value : Value}
    (read : key.selector.key (view item) = .ok value) : (key.column view).read item = value := by
  simp [column, read, Except.toOption]

end RowKey

namespace Rows

/-- The columns of keys, in order. -/
def columns (view : α → Record) (keys : List RowKey) : List (KeyColumn α) :=
  keys.map (RowKey.column view)

/-- The rows sorted by the columns of keys, which become their keys. -/
def sortedBy (rows : Rows α) (keys : List RowKey) : Rows α :=
  ⟨rows.view, stableSort (KeyColumn.lexicographic (columns rows.view keys)) rows.items, keys⟩

/-- Sorting neither adds nor removes an item. -/
@[simp]
theorem mem_sortedBy {rows : Rows α} {keys : List RowKey} {item : α} :
    item ∈ (rows.sortedBy keys).items ↔ item ∈ rows.items :=
  (stableSort_perm _ _).mem_iff

/-- The sort keys of a record are those that its columns hold. -/
theorem keyValues_eq_ok {view : α → Record} {keys : List RowKey} {item : α}
    {values : List Value} :
    keyValues keys (view item) = .ok values ↔
      (∀ key ∈ keys, ∃ value, key.selector.key (view item) = .ok value) ∧
        values = keys.map fun key => (key.column view).read item :=
  mapM_eq_ok_map fun key _ read => (key.column_read read).symm

/-- Sort keys compare as the items do by the columns. The program reads all keys first and compares
    the rows of their values. -/
theorem compareKeyRows_eq (view : α → Record) (keys : List RowKey) (left right : α) :
    compareKeyRows keys (keys.map fun key => (key.column view).read left)
        (keys.map fun key => (key.column view).read right) =
      KeyColumn.lexicographic (columns view keys) left right := by
  induction keys with
  | nil => rfl
  | cons key rest inductionHypothesis =>
    simp only [List.map_cons, compareKeyRows, inductionHypothesis]
    rfl

/-- Items are decorated exactly when all keys are readable. A key that cannot be read is an error
    even where it would not be needed to tell items apart. -/
theorem decorate_eq_ok {view : α → Record} {keys : List RowKey} {items : List α}
    {decorated : List (List Value × α)} :
    decorate view keys items = .ok decorated ↔
      (∀ key ∈ keys, key.Readable view items) ∧
        decorated = items.map fun item =>
          (keys.map fun key => (key.column view).read item, item) := by
  have known (item : α) (entry : List Value × α)
      (done : (do return (← keyValues keys (view item), item)) = .ok entry) :
      entry = (keys.map fun key => (key.column view).read item, item) := by
    obtain ⟨values, read, rfl⟩ := change_eq_ok.mp done
    rw [(keyValues_eq_ok.mp read).2]
  rw [decorate, mapM_eq_ok_map known]
  refine and_congr_left fun _ => ?_
  constructor
  · intro each key member item known
    obtain ⟨entry, done⟩ := each item known
    obtain ⟨values, read, -⟩ := change_eq_ok.mp done
    exact (keyValues_eq_ok.mp read).1 key member
  · intro readable item known
    have read := keyValues_eq_ok.mpr ⟨fun key member => readable key member item known, rfl⟩
    exact ⟨_, change_eq_ok.mpr ⟨_, read, rfl⟩⟩

/-- Rows are sorted exactly when all keys are readable, and then by their columns. Items that stand
    beside the values of their keys are sorted as they are by themselves. -/
theorem sorted_eq_ok {rows result : Rows α} :
    rows.sorted = .ok result ↔
      (∀ key ∈ rows.keys, key.Readable rows.view rows.items) ∧
        result = rows.sortedBy rows.keys := by
  have arranged : (stableSort (fun left right : List Value × α =>
        compareKeyRows rows.keys left.1 right.1)
        (rows.items.map fun item =>
          (rows.keys.map fun key => (key.column rows.view).read item, item))).map Prod.snd =
      stableSort (KeyColumn.lexicographic (columns rows.view rows.keys)) rows.items := by
    rw [stableSort_map, List.map_map]
    simp only [compareKeyRows_eq]
    exact List.map_id _
  rw [sorted, change_eq_ok]
  constructor
  · rintro ⟨decorated, done, rfl⟩
    obtain ⟨readable, rfl⟩ := decorate_eq_ok.mp done
    exact ⟨readable, by rw [arranged, sortedBy]⟩
  · rintro ⟨readable, rfl⟩
    exact ⟨_, decorate_eq_ok.mpr ⟨readable, rfl⟩, by rw [arranged, sortedBy]⟩

/-- Rows are ordered by one more key exactly when it and the keys that stay are readable. -/
theorem orderBy_eq_ok {rows result : Rows α} {selector : Selector} {ascending first : Bool} :
    rows.orderBy selector ascending first = .ok result ↔
      ∃ keys, keys = (if first then [] else rows.keys) ++ [⟨selector, ascending⟩] ∧
        (∀ key ∈ keys, key.Readable rows.view rows.items) ∧ result = rows.sortedBy keys := by
  rw [orderBy, sorted_eq_ok]
  simp [sortedBy]

/-- A predicate is decided by an item when it evaluates to a truth value on it. It holds of an item
    that is kept, and one item without a truth value is an error for all. -/
theorem keep_eq_ok {view : α → Record} {predicate : Predicate} {items kept : List α} :
    keep view predicate items = .ok kept ↔
      (∀ item ∈ items, ∃ holds, predicate.evaluate (view item) = .ok holds) ∧
        kept = items.filter fun item => predicate.isSatisfiedBy (view item) := by
  induction items generalizing kept with
  | nil => simp [keep, eq_comm]
  | cons item rest inductionHypothesis =>
    rw [keep, combine_eq_ok]
    constructor
    · rintro ⟨holds, others, decided, done, rfl⟩
      obtain ⟨each, rfl⟩ := inductionHypothesis.mp done
      refine ⟨List.forall_mem_cons.mpr ⟨⟨holds, decided⟩, each⟩, ?_⟩
      rw [List.filter_cons, Predicate.isSatisfiedBy, decided]
    · rintro ⟨each, rfl⟩
      obtain ⟨⟨holds, decided⟩, others⟩ := List.forall_mem_cons.mp each
      refine ⟨holds, _, decided, inductionHypothesis.mpr ⟨others, rfl⟩, ?_⟩
      rw [List.filter_cons, Predicate.isSatisfiedBy, decided]

/-- Rows are filtered exactly when the predicate evaluates on every item. The keys stay, and so does
    the order of what is kept. -/
theorem filter_eq_ok {rows result : Rows α} {predicate : Predicate} :
    rows.filter predicate = .ok result ↔
      (∀ item ∈ rows.items, ∃ holds, predicate.evaluate (rows.view item) = .ok holds) ∧
        result = { rows with
          items := rows.items.filter fun item => predicate.isSatisfiedBy (rows.view item) } := by
  rw [filter, change_eq_ok]
  constructor
  · rintro ⟨kept, done, rfl⟩
    obtain ⟨each, rfl⟩ := keep_eq_ok.mp done
    exact ⟨each, rfl⟩
  · rintro ⟨each, rfl⟩
    exact ⟨_, keep_eq_ok.mpr ⟨each, rfl⟩, rfl⟩

/-- As a source, rows are filtered in the same way. -/
theorem source_filter_eq_ok {rows result : Rows α} {predicate : Predicate} :
    Source.filter rows predicate = .ok result ↔
      (∀ item ∈ rows.items, ∃ holds, predicate.evaluate (rows.view item) = .ok holds) ∧
        result = { rows with
          items := rows.items.filter fun item => predicate.isSatisfiedBy (rows.view item) } :=
  mapError_eq_ok.trans filter_eq_ok

end Rows

end RecordQuery
