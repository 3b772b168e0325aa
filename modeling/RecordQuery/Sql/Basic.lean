import RecordQuery.Comparison
import RecordQuery.Number.Basic
import RecordQuery.DateTime.Text

/-!
# SQL conditions

The fragment of SQL that conditions and sort terms are written in. Parentheses are nodes of
the tree, so that the text of a tree adds none of its own.
-/

namespace RecordQuery

/-- The constant members of a set. -/
inductive SqlMembers where
  | ints (values : List Int)
  | texts (values : List String)
  deriving DecidableEq

/-- Whether a set has no members. -/
def SqlMembers.isEmpty : SqlMembers → Bool
  | ints values => values.isEmpty
  | texts values => values.isEmpty

/-- Where the text of a pattern has to lie in the subject. -/
inductive SqlAnchor where
  | anywhere
  | atStart
  | atEnd
  deriving DecidableEq, Repr

/-- An SQL expression. -/
inductive Sql where
  | column (name : String)
  | null
  | truth (value : Bool)
  | text (value : String)
  | number (value : Number)
  | date (value : DateTime)
  /-- An expression in parentheses. -/
  | group (inner : Sql)
  | compare (relation : Relation) (left right : Sql)
  | and (left right : Sql)
  | or (left right : Sql)
  | not (operand : Sql)
  /-- A null test, which is never unknown. -/
  | isNull (operand : Sql)
  | isNotNull (operand : Sql)
  /-- The operand, with false in place of unknown. -/
  | orFalse (operand : Sql)
  /-- The month of a date. -/
  | month (operand : Sql)
  /-- A pattern test: the subject has the text, taken literally, at the anchor. -/
  | like (subject : Sql) (anchor : SqlAnchor) (text : String)
  /-- Membership in a constant set. -/
  | within (item : Sql) (members : SqlMembers)
  deriving DecidableEq

end RecordQuery
