/-!
# Errors of compact request text
-/

namespace RecordQuery

/-- Why a compact filter or sort cannot be read, or a value is no filter literal. -/
inductive SyntaxError where
  /-- No comparison has this name. -/
  | unknownComparison (name : String)
  /-- The text of a filter has fewer than three parts. -/
  | filterParts (text : String)
  /-- A sort names a direction other than the two. -/
  | sortDirection (word : String)
  /-- A sort names no property. -/
  | sortProperty (text : String)
  /-- Null stands for no literal. -/
  | nullLiteral
  deriving DecidableEq, Repr

/-- The wording of the error. -/
def SyntaxError.message : SyntaxError → String
  | unknownComparison name => "unknown comparison '" ++ name ++ "'"
  | filterParts text =>
      "invalid filter syntax: expected 'property:comparison:value', got '" ++ text ++ "'"
  | sortDirection word => "invalid filter syntax: unknown sort direction '" ++ word ++ "'"
  | sortProperty text => "invalid filter syntax: sort '" ++ text ++ "' has no property"
  | nullLiteral => "invalid filter syntax: null is not a filter value"

end RecordQuery
