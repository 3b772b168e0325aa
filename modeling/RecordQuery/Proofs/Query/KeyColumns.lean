import RecordQuery.Proofs.Query.Comparators
import RecordQuery.Proofs.Value.Order

/-!
# Columns of sort keys

A column gives every item a sort key and has a direction. Items compare by a list of columns
from the first column to the last, each deciding what those before it leave tied. When every
column is uniform, its keys of one type wherever they are not null, the items are in order.
-/

namespace RecordQuery

/-- One column of sort keys. -/
structure KeyColumn (α : Type) where
  /-- The sort key of an item. -/
  read : α → Value
  ascending : Bool

namespace KeyColumn

variable {α : Type}

/-- Two items compared by one column. -/
def compare (column : KeyColumn α) (left right : α) : Ordering :=
  Value.compareKeys column.ascending (column.read left) (column.read right)

/-- Two items compared lexicographically by several columns, the primary one first. -/
def lexicographic : List (KeyColumn α) → α → α → Ordering
  | [], _, _ => .eq
  | column :: rest, left, right =>
      (column.compare left right).then (lexicographic rest left right)

/-- A column is uniform when its keys have one type, nulls aside. -/
def Uniform (column : KeyColumn α) (items : List α) : Prop :=
  ∃ type, ∀ item ∈ items, (column.read item).HasType type

variable {columns : List (KeyColumn α)} {items : List α}

/-- A uniform column has its items in order. -/
theorem Uniform.ordersOn {column : KeyColumn α} (uniform : column.Uniform items) :
    OrdersOn column.compare (· ∈ items) := by
  obtain ⟨type, typed⟩ := uniform
  exact (Value.ordersOn_keys column.ascending type).comap column.read typed

/-- Uniform columns have their items in lexicographic order. Values of one type and nulls are in
    order, and values of several types need not be. -/
theorem ordersOn_lexicographic (uniform : ∀ column ∈ columns, column.Uniform items) :
    OrdersOn (lexicographic columns) (· ∈ items) := by
  induction columns with
  | nil => exact .of_ties fun _ _ _ _ => rfl
  | cons column rest inductionHypothesis =>
    have first := (uniform column List.mem_cons_self).ordersOn
    have others := inductionHypothesis fun other member =>
      uniform other (List.mem_cons_of_mem column member)
    exact first.thenBy others

/-- Further columns compare what the first ones leave tied. So sorting by more columns refines
    sorting by fewer. -/
theorem lexicographic_append (columns others : List (KeyColumn α)) (left right : α) :
    lexicographic (columns ++ others) left right =
      (lexicographic columns left right).then (lexicographic others left right) := by
  induction columns with
  | nil => rfl
  | cons column rest inductionHypothesis =>
    rw [List.cons_append, lexicographic, lexicographic, inductionHypothesis,
      Ordering.then_assoc]

/-- What ties under all columns ties under the first ones. -/
theorem lexicographic_refines (columns others : List (KeyColumn α)) (left right : α)
    (tie : lexicographic (columns ++ others) left right = .eq) :
    lexicographic columns left right = .eq := by
  rw [lexicographic_append, Ordering.then_eq_eq] at tie
  exact tie.1

end KeyColumn

end RecordQuery
