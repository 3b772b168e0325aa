import RecordQuery.Text.Alphanumeric

/-!
# String literals of declarations

A string literal is a text between double quotes with escapes, or a raw text whose quotes may be
fenced by number signs. A word attached to a literal does not count.
-/

namespace RecordQuery

namespace StringLiteral

/-- The value of a hexadecimal digit. -/
def hexDigit? (c : Char) : Option Nat :=
  if c.isDigit then some (c.toNat - 48)
  else if 'a' ≤ c ∧ c ≤ 'f' then some (c.toNat - 87)
  else if 'A' ≤ c ∧ c ≤ 'F' then some (c.toNat - 55)
  else none

/-- The character of a hexadecimal code point; underscores do not count. -/
def codePoint? (digits : List Char) : Option Char := do
  let values ← (digits.filter (· != '_')).mapM hexDigit?
  let code := values.foldl (fun code digit => 16 * code + digit) 0
  if values.isEmpty then none
  else if code.isValidChar then some (Char.ofNat code)
  else none

/-- The character of an escape with one letter. -/
def letterEscape? : Char → Option Char
  | 'n' => some '\n'
  | 'r' => some '\r'
  | 't' => some '\t'
  | '0' => some '\x00'
  | '\\' => some '\\'
  | '\'' => some '\''
  | '"' => some '"'
  | _ => none

/-- Where in a literal a text goes on. -/
inductive Position where
  /-- In its text. -/
  | text
  /-- Behind an escaped line end: blanks do not count until something else stands. -/
  | continued
  /-- In an escape by code point, behind these digits, from the last to the first. -/
  | codePoint (digits : List Char)
  deriving DecidableEq, Repr

/-- Whether a character is left out behind an escaped line end. -/
def isIndent (c : Char) : Bool :=
  c == ' ' || c == '\t' || c == '\n' || c == '\r'

/-- A character in front of what is read after it. -/
def before (c : Char) (read : List Char × List Char) : List Char × List Char :=
  (c :: read.1, read.2)

/-- The content of a plain literal up to its closing quote, and what follows it. A line end of
    two characters counts as one. -/
def plain? : Position → List Char → Option (List Char × List Char)
  | _, [] => none
  | .codePoint digits, '}' :: rest => do
      return before (← codePoint? digits.reverse) (← plain? .text rest)
  | .codePoint digits, c :: rest => plain? (.codePoint (c :: digits)) rest
  | _, '"' :: rest => some ([], rest)
  | _, '\\' :: '\n' :: rest => plain? .continued rest
  | _, '\\' :: '\r' :: '\n' :: rest => plain? .continued rest
  | _, '\\' :: 'u' :: '{' :: rest => plain? (.codePoint []) rest
  | _, '\\' :: 'x' :: high :: low :: rest => do
      return before (← codePoint? [high, low]) (← plain? .text rest)
  | _, '\\' :: letter :: rest => do
      return before (← letterEscape? letter) (← plain? .text rest)
  | .text, '\r' :: '\n' :: rest => before '\n' <$> plain? .text rest
  | position, c :: rest =>
      if position = .continued ∧ isIndent c then plain? .continued rest
      else before c <$> plain? .text rest

/-- The content of a raw literal up to the first quote with the fence behind it, and what
    follows the fence. -/
def fenced? (fence : List Char) : List Char → Option (List Char × List Char)
  | [] => none
  | c :: rest =>
      if c = '"' ∧ rest.take fence.length = fence then some ([], rest.drop fence.length)
      else before c <$> fenced? fence rest

/-- The content of the literal that a text starts with, and what follows it. -/
def read? : List Char → Option (List Char × List Char)
  | '"' :: rest => plain? .text rest
  | 'r' :: rest =>
      let fence := rest.takeWhile (· == '#')
      match rest.drop fence.length with
      | '"' :: rest => fenced? fence rest
      | _ => none
  | _ => none

/-- Whether a character can stand in a word. -/
def isWordChar (c : Char) : Bool :=
  Text.isAlphanumeric c || c == '_'

/-- Whether a character can stand first in a word. -/
def startsWord (c : Char) : Bool :=
  isWordChar c && !c.isDigit

/-- A text without the word that it starts with, if it does. -/
def withoutWord : List Char → List Char
  | [] => []
  | c :: rest => if startsWord c then rest.dropWhile isWordChar else c :: rest

end StringLiteral

end RecordQuery
