import RecordQuery.Comparison
import RecordQuery.Literal.Basic
import RecordQuery.Request.SyntaxError

/-!
# Filters

A filter compares a property with a literal; without a property it compares the record
itself. The compact form is `property:comparison:value`, where the value is all that follows
the second colon.
-/

namespace RecordQuery

/-- A comparison of a property, or of the record itself, with a literal. -/
structure Filter where
  /-- The name as it was given; a blank name means the record itself. -/
  named : Option String
  comparison : Comparison
  literal : Literal
  deriving DecidableEq

namespace Filter

/-- The property compared, or nothing for the record itself. -/
def property? (filter : Filter) : Option String :=
  filter.named.bind Text.nonBlank?

/-- The compact form. -/
def toText (filter : Filter) : String :=
  filter.property?.getD "" ++ ":" ++ filter.comparison.name ++ ":" ++ filter.literal.toText

/-- Reads the name of a comparison. -/
def readComparison (name : String) : Except SyntaxError Comparison :=
  match Comparison.ofName? name with
  | some comparison => .ok comparison
  | none => .error (.unknownComparison name)

/-- The literal of the compact form: a list for the comparisons that take one, else text. -/
def literalFor (comparison : Comparison) (value : String) : Literal :=
  if comparison.takesList then Literal.readList value else .text value

/-- The three parts of the compact form. -/
def parts? (text : String) : Option (String × String × String) := do
  let (property, rest) ← Text.cut? ':' text.toList
  let (comparison, value) ← Text.cut? ':' rest
  pure (String.ofList property, String.ofList comparison, String.ofList value)

/-- Reads the compact form. -/
def read (text : String) : Except SyntaxError Filter :=
  match parts? text with
  | none => .error (.filterParts text)
  | some (property, comparison, value) => do
      let comparison ← readComparison comparison
      pure ⟨Text.nonBlank? property, comparison, literalFor comparison value⟩

end Filter

end RecordQuery
