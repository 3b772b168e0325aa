import RecordQuery.Sql.Text

/-!
# Tokens of SQL text

A database takes a text apart into tokens before it reads it. What stands between quotes is one
token, an identifier or a string. It ends at the first quote that is not doubled, and doubled quotes
in it stand for one. Letters outside quotes spell keywords, digits write numbers, and blanks and
comments only part the tokens around them. The text is scanned character by character: each either
continues the token at its end or finishes it and begins another.
-/

namespace RecordQuery

/-- The keywords that statements are written with. -/
inductive SqlWord where
  | AND | OR | NOT | IS | NULL | TRUE | FALSE | LIKE | ESCAPE | IN | COALESCE | EXTRACT | MONTH
  | FROM | SELECT | WHERE | ORDER | BY | ASC | DESC
  deriving DecidableEq, Repr

namespace SqlWord

/-- How a keyword is written. -/
def spelling : SqlWord → String
  | AND => "AND" | OR => "OR" | NOT => "NOT" | IS => "IS" | NULL => "NULL" | TRUE => "TRUE"
  | FALSE => "FALSE" | LIKE => "LIKE" | ESCAPE => "ESCAPE" | IN => "IN" | COALESCE => "COALESCE"
  | EXTRACT => "EXTRACT" | MONTH => "MONTH" | FROM => "FROM" | SELECT => "SELECT"
  | WHERE => "WHERE" | ORDER => "ORDER" | BY => "BY" | ASC => "ASC" | DESC => "DESC"

/-- All keywords. -/
def all : List SqlWord :=
  [AND, OR, NOT, IS, NULL, TRUE, FALSE, LIKE, ESCAPE, IN, COALESCE, EXTRACT, MONTH, FROM, SELECT,
    WHERE, ORDER, BY, ASC, DESC]

/-- The keyword that letters spell. -/
def ofLetters? (letters : List Char) : Option SqlWord :=
  all.find? fun word => word.spelling.toList == letters

/-- The word for a truth value. -/
def ofTruth (value : Bool) : SqlWord :=
  if value then TRUE else FALSE

end SqlWord

/-- A token of SQL text. -/
inductive SqlToken where
  /-- A quoted name, without its quotes. -/
  | identifier (name : String)
  /-- A quoted string, without its quotes. -/
  | string (content : String)
  /-- An unsigned number, as it is written. -/
  | number (digits : String)
  | word (word : SqlWord)
  | relation (relation : Relation)
  | opening
  | closing
  | comma
  | minus
  | dot
  | star
  deriving DecidableEq

namespace SqlToken

/-- What may still become a token, or be part of a longer one. Only quoted tokens and comments may
    hold characters of any kind. -/
inductive Pending where
  | nothing
  /-- A quoted token that has not met its end. -/
  | quoted (mark : Char) (content : List Char)
  /-- A quoted token behind a quote that may be its end, or the first of two. -/
  | closed (mark : Char) (content : List Char)
  | word (letters : List Char)
  | whole (digits : List Char)
  /-- A number with a point. -/
  | fraction (whole digits : List Char)
  | less
  | greater
  | minus
  | comment

/-- The token between quotes: apostrophes enclose strings, all other quotes identifiers. -/
def between (mark : Char) (content : List Char) : SqlToken :=
  if mark = '\'' then string (String.ofList content) else identifier (String.ofList content)

namespace Pending

/-- The tokens that are complete with a character that continues what is pending, and what is
    pending then. There are none where the character begins something else. -/
def extend? (pending : Pending) (c : Char) : Option (List SqlToken × Pending) :=
  match pending with
  | nothing => none
  | quoted mark content =>
      some ([], if c = mark then closed mark content else quoted mark (content ++ [c]))
  | closed mark content => if c = mark then some ([], quoted mark (content ++ [mark])) else none
  | word letters => if c.isAlphanum || c == '_' then some ([], word (letters ++ [c])) else none
  | whole digits =>
      if c.isDigit then some ([], whole (digits ++ [c]))
      else if c = '.' then some ([], fraction digits [])
      else none
  | fraction before digits =>
      if c.isDigit then some ([], fraction before (digits ++ [c])) else none
  | less =>
      if c = '=' then some ([.relation .le], nothing)
      else if c = '>' then some ([.relation .ne], nothing)
      else none
  | greater => if c = '=' then some ([.relation .ge], nothing) else none
  | minus => if c = '-' then some ([], comment) else none
  | comment => some ([], if c = '\n' then nothing else comment)

/-- The tokens that are complete when nothing continues what is pending. A quoted token without an
    end, an unknown word and a number without digits behind its point are none. -/
def finish? : Pending → Option (List SqlToken)
  | nothing | comment => some []
  | quoted _ _ => none
  | closed mark content => some [between mark content]
  | word letters => (SqlWord.ofLetters? letters).map fun known => [.word known]
  | whole digits => some [.number (String.ofList digits)]
  | fraction _ [] => none
  | fraction before digits => some [.number (String.ofList (before ++ '.' :: digits))]
  | less => some [.relation .lt]
  | greater => some [.relation .gt]
  | minus => some [.minus]

/-- The tokens that a character is by itself, and what is pending behind it. A character that begins
    no token makes the whole text unreadable. -/
def begin? (quote c : Char) : Option (List SqlToken × Pending) :=
  match c with
  | ' ' | '\t' | '\n' | '\r' => some ([], nothing)
  | '(' => some ([.opening], nothing)
  | ')' => some ([.closing], nothing)
  | ',' => some ([.comma], nothing)
  | '.' => some ([.dot], nothing)
  | '*' => some ([.star], nothing)
  | '=' => some ([.relation .eq], nothing)
  | '<' => some ([], less)
  | '>' => some ([], greater)
  | '-' => some ([], minus)
  | '\'' => some ([], quoted '\'' [])
  | other =>
      if other.isDigit then some ([], whole [other])
      else if other.isAlpha || other == '_' then some ([], word [other])
      else if other = quote then some ([], quoted quote [])
      else none

end Pending

/-- The tokens that are complete after one more character, and what is pending. A character that
    continues nothing ends what is pending, and is then looked at by itself. -/
def scan (quote : Char) (scanned : List SqlToken × Pending) (c : Char) :
    Option (List SqlToken × Pending) :=
  match scanned.2.extend? c with
  | some (more, pending) => some (scanned.1 ++ more, pending)
  | none => do
      let done ← scanned.2.finish?
      let (more, pending) ← Pending.begin? quote c
      return (scanned.1 ++ done ++ more, pending)

/-- The tokens of a text, with the given quote around identifiers. -/
def ofText? (quote : Char) (text : String) : Option (List SqlToken) := do
  let (tokens, pending) ← text.toList.foldlM (scan quote) ([], .nothing)
  return tokens ++ (← pending.finish?)

example : ofText? '"' "NOT (\"a\"\"b\" <= -1.5)" = some [.word .NOT, .opening, .identifier "a\"b",
    .relation .le, .minus, .number "1.5", .closing] := by decide +kernel

end SqlToken

end RecordQuery
