import RecordQuery.Text.Blank
import RecordQuery.Text.LetterCase

/-!
# Comparisons of a filter

The fourteen comparisons form a closed set. Each has a short name, which is how it is
written, and is read from its short name, its symbol or its long names, whatever the case.
-/

namespace RecordQuery

/-- The six relations between two values of one type. -/
inductive Relation where
  | eq | ne | lt | le | gt | ge
  deriving DecidableEq, Repr

/-- The comparison that a filter asks for. -/
inductive Comparison where
  | equals
  | notEquals
  | contains
  | notContains
  | startsWith
  | notStartsWith
  | endsWith
  | notEndsWith
  | lessThan
  | lessOrEqual
  | greaterThan
  | greaterOrEqual
  /-- The value is one of a set. -/
  | isIn
  /-- The month of the date is one of a set, January being 1. -/
  | monthIsIn
  deriving DecidableEq, Repr

namespace Comparison

/-- All comparisons. -/
def all : List Comparison :=
  [equals, notEquals, contains, notContains, startsWith, notStartsWith, endsWith, notEndsWith,
    lessThan, lessOrEqual, greaterThan, greaterOrEqual, isIn, monthIsIn]

/-- The relation of the comparisons that apply to numbers and dates. -/
def relation? : Comparison → Option Relation
  | equals => some .eq
  | notEquals => some .ne
  | lessThan => some .lt
  | lessOrEqual => some .le
  | greaterThan => some .gt
  | greaterOrEqual => some .ge
  | _ => none

/-- Whether the comparison applies to booleans. -/
def forBools : Comparison → Bool
  | equals | notEquals => true
  | _ => false

/-- Whether the comparison applies to texts. -/
def forTexts : Comparison → Bool
  | equals | notEquals | contains | notContains | startsWith | notStartsWith | endsWith
  | notEndsWith => true
  | _ => false

/-- Whether the comparison applies to numbers and dates. -/
def forOrdered (comparison : Comparison) : Bool :=
  comparison.relation?.isSome

/-- Whether the comparison is the opposite of a text test. -/
def isNegated : Comparison → Bool
  | notContains | notStartsWith | notEndsWith => true
  | _ => false

/-- Whether the right-hand side is a list. -/
def takesList : Comparison → Bool
  | isIn | monthIsIn => true
  | _ => false

/-- The short name. -/
def name : Comparison → String
  | equals => "eq"
  | notEquals => "ne"
  | contains => "contains"
  | notContains => "ncontains"
  | startsWith => "startswith"
  | notStartsWith => "nstartswith"
  | endsWith => "endswith"
  | notEndsWith => "nendswith"
  | lessThan => "lt"
  | lessOrEqual => "lte"
  | greaterThan => "gt"
  | greaterOrEqual => "gte"
  | isIn => "in"
  | monthIsIn => "monthin"

/-- The other names: symbols and long names, in small letters. -/
def synonyms : Comparison → List String
  | equals => ["=", "==", "equals"]
  | notEquals => ["!=", "<>", "notequals"]
  | contains => []
  | notContains => ["notcontains"]
  | startsWith => []
  | notStartsWith => ["notstartswith"]
  | endsWith => []
  | notEndsWith => ["notendswith"]
  | lessThan => ["<", "lessthan", "lesserthan"]
  | lessOrEqual => ["<=", "lessorequal", "lesserorequals"]
  | greaterThan => [">", "greaterthan"]
  | greaterOrEqual => [">=", "greaterorequal", "greaterorequals"]
  | isIn => ["isin"]
  | monthIsIn => ["monthisin"]

/-- Reads any name of a comparison, in any case and between blanks. -/
def ofName? (text : String) : Option Comparison :=
  let name := Text.lowerAscii (Text.trim text)
  all.find? fun comparison => comparison.name == name || comparison.synonyms.contains name

end Comparison

end RecordQuery
