import RecordQuery.Json.Reader
import RecordQuery.Request.Basic

/-!
# Requests in JSON

Filters, sort keys and requests are JSON objects, or arrays of their fields in order. Members
with other names are ignored; a field given twice, under one name or two, is refused. A
literal takes the first form that fits.
-/

namespace RecordQuery

namespace Json

/-- The members of an object whose names all have a content. -/
def named? (members : List (Option String × Json)) : Option (List (String × Json)) :=
  members.mapM fun member => member.1.map (·, member.2)

/-- The member under one of the names; there must not be two. -/
def field? (names : List String) (members : List (String × Json)) : Option (Option Json) :=
  match members.filter fun member => names.contains member.1 with
  | [] => some none
  | [member] => some (some member.2)
  | _ => none

/-- The content of a string. -/
def toText? : Json → Option String
  | string content => content
  | _ => none

/-- The truth value of a boolean. -/
def toBool? : Json → Option Bool
  | bool value => some value
  | _ => none

/-- An integer of 64 bits. -/
def toInteger? : Json → Option Int
  | number numeral => do
      match ← numeral.quantity? with
      | .integer value => if IntegerKind.i64.Holds value then some value else none
      | .binary _ => none
  | _ => none

/-- The items of an array. -/
def toItems? : Json → Option (List Json)
  | array items => some items
  | _ => none

/-- A number: an integer of 64 bits, signed if possible, or a binary number. -/
def toNumber? (numeral : Numeral) : Option Number := do
  match ← numeral.quantity? with
  | .integer value => (Number.ofInt? .i64 value).or (Number.ofInt? .u64 value)
  | .binary value => some (.double value)

/-- The literal of a value: a boolean, a number, a string, or a list of integers or else of
    strings. -/
def toLiteral? : Json → Option Literal
  | bool value => some (.bool value)
  | number numeral => (toNumber? numeral).map .number
  | string content => content.map .text
  | array items =>
      ((items.mapM toInteger?).map .ints).or ((items.mapM toText?).map .texts)
  | _ => none

/-- The comparison that a string names. -/
def toComparison? (json : Json) : Option Comparison :=
  json.toText?.bind Comparison.ofName?

/-- The name of a property, which may be null or missing. -/
def toProperty? : Option Json → Option (Option String)
  | none | some null => some none
  | some (string content) => content.map some
  | some _ => none

/-- The direction of a sort key, ascending when missing. -/
def toDirection? : Option Json → Option Bool
  | none => some true
  | some json => json.toBool?

/-- The filter of its three fields. -/
def buildFilter? (property : Option Json) (comparison literal : Json) : Option Filter := do
  let property ← toProperty? property
  let comparison ← comparison.toComparison?
  let literal ← literal.toLiteral?
  pure ⟨property, comparison, literal⟩

/-- Decodes a filter. -/
def toFilter? : Json → Option Filter
  | object members => do
      let members ← named? members
      let property ← field? ["property", "field", "prop"] members
      let comparison ← field? ["comparison", "op"] members
      let literal ← field? ["value"] members
      buildFilter? property (← comparison) (← literal)
  | array [property, comparison, literal] => buildFilter? (some property) comparison literal
  | _ => none

/-- The sort key of its fields. -/
def buildSortKey? (property : Json) (ascending : Option Json) : Option SortKey := do
  let property ← property.toText?
  let ascending ← toDirection? ascending
  pure ⟨property, ascending⟩

/-- Decodes a sort key. -/
def toSortKey? : Json → Option SortKey
  | object members => do
      let members ← named? members
      let property ← field? ["property", "field", "prop"] members
      let ascending ← field? ["ascending"] members
      buildSortKey? (← property) ascending
  | array [property] => buildSortKey? property none
  | array [property, ascending] => buildSortKey? property (some ascending)
  | _ => none

/-- Decodes a list of items; a missing list is empty. -/
def toListOf? {α : Type} (decode : Json → Option α) : Option Json → Option (List α)
  | none => some []
  | some json => json.toItems?.bind (·.mapM decode)

/-- The request of its fields. -/
def buildRequest? (filters sorts : Option Json) : Option Request := do
  let filters ← toListOf? toFilter? filters
  let sorts ← toListOf? toSortKey? sorts
  pure ⟨filters, sorts⟩

/-- Decodes a request. -/
def toRequest? : Json → Option Request
  | object members => do
      let members ← named? members
      let filters ← field? ["filters"] members
      let sorts ← field? ["sort", "order_by"] members
      buildRequest? filters sorts
  | array [] => buildRequest? none none
  | array [filters] => buildRequest? (some filters) none
  | array [filters, sorts] => buildRequest? (some filters) (some sorts)
  | _ => none

end Json

/-- Reads a comparison from a JSON string. -/
def Comparison.ofJson? (text : String) : Option Comparison :=
  (Json.read? text.toList).bind Json.toComparison?

/-- Reads a filter from JSON. -/
def Filter.ofJson? (text : String) : Option Filter :=
  (Json.read? text.toList).bind Json.toFilter?

/-- Reads a sort key from JSON. -/
def SortKey.ofJson? (text : String) : Option SortKey :=
  (Json.read? text.toList).bind Json.toSortKey?

/-- Reads a request from JSON. -/
def Request.ofJson? (text : String) : Option Request :=
  (Json.read? text.toList).bind Json.toRequest?

end RecordQuery
