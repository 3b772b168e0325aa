import RecordQuery.Text.Blank

/-!
# Gaps between tokens

Blanks and comments stand between the tokens of a declaration. A comment reaches to the end of
its line, or from `/*` to the matching `*/`, with comments inside it. Comments that document
what follows are no gaps: they are attributes.
-/

namespace RecordQuery

/-- Where in a gap a text goes on. -/
inductive Gap where
  /-- Between comments. -/
  | blank
  /-- In a comment that ends with its line. -/
  | line
  /-- In a comment inside so many others. -/
  | nested (depth : Nat)
  deriving DecidableEq, Repr

namespace Gap

/-- Whether a text starts with a comment that documents something. -/
def opensDocumentation : List Char → Bool
  | '/' :: '/' :: '/' :: rest => rest.head? != some '/'
  | '/' :: '/' :: '!' :: _ => true
  | '/' :: '*' :: '*' :: c :: _ => c != '*' && c != '/'
  | '/' :: '*' :: '!' :: _ => true
  | _ => false

/-- The text behind a gap. -/
def skip : Gap → List Char → List Char
  | _, [] => []
  | line, c :: rest => skip (if c = '\n' then blank else line) rest
  | nested 0, '*' :: '/' :: rest => skip blank rest
  | nested (depth + 1), '*' :: '/' :: rest => skip (nested depth) rest
  | nested depth, '/' :: '*' :: rest => skip (nested (depth + 1)) rest
  | nested depth, _ :: rest => skip (nested depth) rest
  | blank, c :: d :: rest =>
      if opensDocumentation (c :: d :: rest) then c :: d :: rest
      else if c = '/' ∧ d = '/' then skip line rest
      else if c = '/' ∧ d = '*' then skip (nested 0) rest
      else if Text.isBlank c then skip blank (d :: rest)
      else c :: d :: rest
  | blank, [c] => if Text.isBlank c then [] else [c]

end Gap

end RecordQuery
