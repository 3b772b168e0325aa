import RecordQuery.Request.SyntaxError
import RecordQuery.Text.Blank
import RecordQuery.Text.LetterCase
import RecordQuery.Text.Split

/-!
# Sort keys

A sort key names a property and a direction. The compact forms are a name, a name after a plus
or minus sign, and a name with `:asc` or `:desc` behind it; a sign excludes the ending.
-/

namespace RecordQuery

/-- One key of an ordering. -/
structure SortKey where
  property : String
  ascending : Bool
  deriving DecidableEq, Repr

namespace SortKey

/-- The compact form with a minus sign for a descending key. -/
def toText (key : SortKey) : String :=
  (if key.ascending then "" else "-") ++ key.property

/-- The direction that a word names. -/
def readDirection (word : List Char) : Except SyntaxError Bool :=
  match Text.lowerAscii (Text.trim (String.ofList word)) with
  | "asc" => .ok true
  | "desc" => .ok false
  | other => .error (.sortDirection other)

/-- The name and the direction of a trimmed compact form. -/
def parts : List Char → Except SyntaxError (List Char × Bool)
  | '-' :: name => .ok (name, false)
  | '+' :: name => .ok (name, true)
  | text =>
      match Text.cut? ':' text with
      | some (name, word) => (readDirection word).map (name, ·)
      | none => .ok (text, true)

/-- Reads a compact form. -/
def read (text : String) : Except SyntaxError SortKey := do
  let trimmed := Text.trimChars text.toList
  let (name, ascending) ← parts trimmed
  let name := Text.trimChars name
  if name.isEmpty then .error (.sortProperty (String.ofList trimmed))
  else pure ⟨String.ofList name, ascending⟩

end SortKey

end RecordQuery
