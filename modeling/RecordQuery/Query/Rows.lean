import RecordQuery.Query.Source
import RecordQuery.Query.StableSort

/-!
# Rows in memory

Rows are items that are each seen as a record. Filtering keeps their order. The sort keys are
remembered: a further key sorts all rows again, by all keys so far. An item that cannot be
evaluated fails the whole step.
-/

namespace RecordQuery

/-- One key of the ordering of rows. -/
structure RowKey where
  selector : Selector
  ascending : Bool

/-- Items in memory and the keys they are sorted by. -/
structure Rows (α : Type) where
  /-- The record that an item is seen as. -/
  view : α → Record
  items : List α
  /-- The keys of the current ordering, the primary one first. -/
  keys : List RowKey := []

namespace Rows

variable {α : Type}

/-- The items whose record satisfies a predicate. -/
def keep (view : α → Record) (predicate : Predicate) : List α → Except EvaluationError (List α)
  | [] => .ok []
  | item :: rest => do
      let holds ← predicate.evaluate (view item)
      let kept ← keep view predicate rest
      return if holds then item :: kept else kept

/-- The rows that satisfy a predicate, in their order. -/
def filter (rows : Rows α) (predicate : Predicate) : Except EvaluationError (Rows α) := do
  return { rows with items := ← keep rows.view predicate rows.items }

/-- The sort keys of a record. -/
def keyValues (keys : List RowKey) (record : Record) : Except EvaluationError (List Value) :=
  keys.mapM fun key => key.selector.key record

/-- Two rows of sort keys, compared from the first key to the last, each in its direction. -/
def compareKeyRows : List RowKey → List Value → List Value → Ordering
  | key :: keys, left :: lefts, right :: rights =>
      (Value.compareKeys key.ascending left right).then (compareKeyRows keys lefts rights)
  | _, _, _ => .eq

/-- The items beside their sort keys. -/
def decorate (view : α → Record) (keys : List RowKey) (items : List α) :
    Except EvaluationError (List (List Value × α)) :=
  items.mapM fun item => do return (← keyValues keys (view item), item)

/-- The rows sorted by their keys. -/
def sorted (rows : Rows α) : Except EvaluationError (Rows α) := do
  let decorated ← decorate rows.view rows.keys rows.items
  let arranged := stableSort (fun left right => compareKeyRows rows.keys left.1 right.1) decorated
  return { rows with items := arranged.map Prod.snd }

/-- The rows ordered by one more key, or by a first one. -/
def orderBy (rows : Rows α) (selector : Selector) (ascending first : Bool) :
    Except EvaluationError (Rows α) :=
  let earlier := if first then [] else rows.keys
  { rows with keys := earlier ++ [⟨selector, ascending⟩] : Rows α }.sorted

instance : Source (Rows α) where
  filter rows predicate := (rows.filter predicate).mapError .evaluation
  orderBy rows selector ascending first :=
    (rows.orderBy selector ascending first).mapError .evaluation

end Rows

end RecordQuery
