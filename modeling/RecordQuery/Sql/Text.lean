import RecordQuery.Sql.Basic

/-!
# SQL text

How SQL expressions are written. Identifiers stand between quotes of a chosen character,
strings between apostrophes; inside either, its own quote is written twice. In a pattern a
backslash takes the next character literally.
-/

namespace RecordQuery

namespace Sql

/-- A text with every occurrence of a character written twice. -/
def doubled (quote : Char) : List Char → List Char
  | [] => []
  | c :: rest => if c = quote then quote :: quote :: doubled quote rest else c :: doubled quote rest

/-- A text between two quotes, with the quotes inside it doubled. -/
def enclosed (quote : Char) (content : List Char) : List Char :=
  quote :: (doubled quote content ++ [quote])

/-- A name as an identifier. -/
def identifier (quote : Char) (name : String) : String :=
  String.ofList (enclosed quote name.toList)

/-- A string literal. -/
def stringLiteral (content : List Char) : String :=
  String.ofList (enclosed '\'' content)

/-- A text as a pattern that matches nothing else. -/
def escapePattern : List Char → List Char
  | [] => []
  | c :: rest =>
      if c = '\\' ∨ c = '%' ∨ c = '_' then '\\' :: c :: escapePattern rest
      else c :: escapePattern rest

/-- The pattern for a text at an anchor. -/
def pattern (anchor : SqlAnchor) (text : String) : List Char :=
  let literal := escapePattern text.toList
  match anchor with
  | .anywhere => '%' :: (literal ++ ['%'])
  | .atStart => literal ++ ['%']
  | .atEnd => '%' :: literal

/-- The sign of a relation. -/
def relationSign : Relation → String
  | .eq => "="
  | .ne => "<>"
  | .lt => "<"
  | .le => "<="
  | .gt => ">"
  | .ge => ">="

/-- The texts of the members of a set. -/
def memberTexts : SqlMembers → List String
  | .ints values => values.map Text.ofInt
  | .texts values => values.map fun value => stringLiteral value.toList

/-- The word for a truth value. -/
def truthText (value : Bool) : String :=
  if value then "TRUE" else "FALSE"

/-- The text of an expression, with the given quote around identifiers. -/
def toText (quote : Char) : Sql → String
  | column name => identifier quote name
  | null => "NULL"
  | truth value => truthText value
  | text value => stringLiteral value.toList
  | number value => value.text
  | date value => stringLiteral value.text.toList
  | group inner => "(" ++ inner.toText quote ++ ")"
  | compare relation left right =>
      left.toText quote ++ " " ++ relationSign relation ++ " " ++ right.toText quote
  | and left right => left.toText quote ++ " AND " ++ right.toText quote
  | or left right => left.toText quote ++ " OR " ++ right.toText quote
  | not operand => "NOT " ++ operand.toText quote
  | isNull operand => operand.toText quote ++ " IS NULL"
  | isNotNull operand => operand.toText quote ++ " IS NOT NULL"
  | orFalse operand => "COALESCE(" ++ operand.toText quote ++ ", FALSE)"
  | month operand => "EXTRACT(MONTH FROM " ++ operand.toText quote ++ ")"
  | like subject anchor content =>
      subject.toText quote ++ " LIKE " ++ stringLiteral (pattern anchor content) ++ " ESCAPE '\\'"
  | within item members =>
      item.toText quote ++ " IN (" ++ ", ".intercalate (memberTexts members) ++ ")"

end Sql

end RecordQuery
