import RecordQuery.Compiled
import RecordQuery.Query.Source
import RecordQuery.Request.Basic

/-!
# Applying requests to sources

Filters are applied in order, each to what the ones before it kept. Sort keys make one
ordering, in which the first key with a property is the primary one. What does not go with the
record type leaves the source as it is.
-/

namespace RecordQuery

/-- The selector of what a projection reads. -/
def Projection.toSelector (projection : Projection) : Selector :=
  ⟨projection.parameter, projection.body⟩

namespace Source

variable {σ : Type} [Source σ]

/-- The source filtered by a compiled filter, or as it is if the filter was dropped. -/
def applyCompiled (source : σ) : Compiled → Except QueryError σ
  | .ready predicate => filter source predicate
  | .dropped _ => .ok source

/-- The source filtered by one comparison. -/
def applyComparison (projections : Projections) (source : σ) (property : Option String)
    (comparison : Comparison) (literal : Literal) : Except QueryError σ := do
  let compiled ← (Compiled.ofParts projections property comparison literal).mapError .literal
  applyCompiled source compiled

/-- The source filtered by one filter. -/
def applyFilter (projections : Projections) (source : σ) (request : Filter) :
    Except QueryError σ :=
  applyComparison projections source request.property? request.comparison request.literal

/-- The source filtered by all filters, in order. -/
def applyFilters (projections : Projections) (source : σ) (filters : List Filter) :
    Except QueryError σ :=
  filters.foldlM (applyFilter projections) source

/-- The source filtered by the conjunction of all filters, if any of them is left. -/
def applyConjunction (projections : Projections) (source : σ) (filters : List Filter) :
    Except QueryError σ := do
  match ← (Compiled.conjunction? projections filters).mapError .literal with
  | some predicate => filter source predicate
  | none => .ok source

/-- The source ordered by one key. The name of a sort key is taken as it is, blanks
    included. -/
def applySort (projections : Projections) (source : σ) (key : SortKey) (first : Bool) :
    Except QueryError σ :=
  match projections.get? key.property with
  | some projection => orderBy source projection.toSelector key.ascending first
  | none => .ok source

/-- The source ordered by further keys; the ordering has begun or not. -/
def applySortsFrom (projections : Projections) (begun : Bool) :
    σ → List SortKey → Except QueryError σ
  | source, [] => .ok source
  | source, key :: rest =>
      match projections.get? key.property with
      | none => applySortsFrom projections begun source rest
      | some projection => do
          let ordered ← orderBy source projection.toSelector key.ascending !begun
          applySortsFrom projections true ordered rest

/-- The source ordered by all keys as one ordering. -/
def applySorts (projections : Projections) (source : σ) (keys : List SortKey) :
    Except QueryError σ :=
  applySortsFrom projections false source keys

/-- The source filtered and then ordered as a request asks. -/
def applyRequest (projections : Projections) (source : σ) (request : Request) :
    Except QueryError σ := do
  let filtered ← applyFilters projections source request.filters
  applySorts projections filtered request.sorts

end Source

end RecordQuery
