import RecordQuery.Query.Source
import RecordQuery.Sql.Text
import RecordQuery.Text.Split

/-!
# Select statements

A statement evaluates nothing. It gathers the conditions and sort terms that predicates and
selectors come to, for a database to run.
-/

namespace RecordQuery

/-- One term of an ordering. -/
structure SortTerm where
  term : Sql
  ascending : Bool

/-- A statement that selects from one table. -/
structure Select where
  /-- The name of the table; dots part it into schema and table. -/
  table : String
  /-- What stands around the names of columns. -/
  quote : Char := '"'
  conditions : List Sql := []
  order : List SortTerm := []

namespace Select

/-- The statement with one more condition. -/
def filter (select : Select) (predicate : Predicate) : Except SqlError Select := do
  let condition ← predicate.toLambda.toCondition
  return { select with conditions := select.conditions ++ [condition] }

/-- The statement with one more sort term, or with a first one. -/
def orderBy (select : Select) (selector : Selector) (ascending first : Bool) :
    Except SqlError Select := do
  let term ← selector.toLambda.toSortTerm
  let earlier := if first then [] else select.order
  return { select with order := earlier ++ [⟨term, ascending⟩] }

instance : Source Select where
  filter select predicate := (select.filter predicate).mapError .sql
  orderBy select selector ascending first :=
    (select.orderBy selector ascending first).mapError .sql

/-- The text of a sort term. -/
def termText (quote : Char) (term : SortTerm) : String :=
  term.term.toText quote ++ (if term.ascending then " ASC" else " DESC")

/-- The conditions joined, if there are any. -/
def whereText? (select : Select) : Option String :=
  if select.conditions.isEmpty then none
  else some (" AND ".intercalate (select.conditions.map (Sql.toText select.quote)))

/-- The sort terms listed, if there are any. -/
def orderText? (select : Select) : Option String :=
  if select.order.isEmpty then none
  else some (", ".intercalate (select.order.map (termText select.quote)))

/-- The name of a table: its parts stand between double quotes, whatever stands around the
    names of columns. -/
def tableText (table : String) : String :=
  ".".intercalate ((Text.split '.' table).map (Sql.identifier '"'))

/-- A clause with the word that opens it. -/
def clauseText (opening : String) : Option String → String
  | none => ""
  | some content => opening ++ content

/-- The whole statement. -/
def toText (select : Select) : String :=
  "SELECT * FROM " ++ tableText select.table ++ clauseText " WHERE " select.whereText? ++
    clauseText " ORDER BY " select.orderText?

end Select

end RecordQuery
