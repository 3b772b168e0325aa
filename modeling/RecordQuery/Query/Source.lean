import RecordQuery.Literal.Read
import RecordQuery.Predicate
import RecordQuery.Sql.Condition

/-!
# Query sources

A source is anything that predicates filter and selectors order. What differs is when the work
is done: rows in memory are filtered and sorted at once, a statement gathers conditions and
sort terms for a database.
-/

namespace RecordQuery

/-- Why a query cannot be applied. -/
inductive QueryError where
  | literal (error : LiteralError)
  | evaluation (error : EvaluationError)
  | sql (error : SqlError)

/-- The wording of the error. -/
def QueryError.message : QueryError → String
  | literal error => error.message
  | evaluation error => error.message
  | sql error => error.message

/-- What filters and orderings are applied to. -/
class Source (σ : Type) where
  /-- Keeps the records that satisfy a predicate. -/
  filter : σ → Predicate → Except QueryError σ
  /-- Orders by a selector, ascending or not. The first key of an ordering replaces earlier
      ones; each further key breaks the ties that those before it leave. -/
  orderBy : σ → (selector : Selector) → (ascending first : Bool) → Except QueryError σ

end RecordQuery
