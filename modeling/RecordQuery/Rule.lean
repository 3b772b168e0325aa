import RecordQuery.Query.Application

/-!
# Rules

A rule is a predicate with a business meaning: rules are made from filters, combined, asked
about single records and applied to sources. A filter that does not go with the record type is
a rule that every record satisfies.
-/

namespace RecordQuery

/-- A rule that a record satisfies or not. -/
structure Rule where
  predicate : Predicate

namespace Rule

/-- The rule that every record satisfies. -/
def any (projections : Projections) : Rule :=
  ⟨.constant projections.parameter true⟩

/-- The rule of a lambda over a type of records. -/
def ofLambda (type : DataType) (lambda : Lambda) : Except CombinationError Rule := do
  return ⟨← Predicate.ofLambda type lambda⟩

/-- The rule of a filter. -/
def ofFilter (projections : Projections) (filter : Filter) : Except LiteralError Rule := do
  match ← Compiled.ofFilter projections filter with
  | .ready predicate => return ⟨predicate⟩
  | .dropped _ => return any projections

/-- Both rules. -/
def and (first second : Rule) : Rule :=
  ⟨first.predicate.and second.predicate⟩

/-- One of the rules. -/
def or (first second : Rule) : Rule :=
  ⟨first.predicate.or second.predicate⟩

/-- The opposite of a rule. -/
def not (rule : Rule) : Rule :=
  ⟨rule.predicate.not⟩

/-- Whether a record satisfies the rule. -/
def isSatisfiedBy (rule : Rule) (record : Record) : Bool :=
  rule.predicate.isSatisfiedBy record

/-- The source filtered by the rule. -/
def apply {σ : Type} [Source σ] (rule : Rule) (source : σ) : Except QueryError σ :=
  Source.filter source rule.predicate

end Rule

end RecordQuery
