import RecordQuery.Declaration.Gap
import RecordQuery.Declaration.StringLiteral

/-!
# Tokens

The content of an attribute is a list of tokens: words, literals, lifetimes, marks of one
character and delimiters. A gap stands for nothing, a comment that documents something for an
attribute. Every text has tokens: a character that starts nothing else is a mark.
-/

namespace RecordQuery

/-- A token of a declaration. -/
inductive Token where
  /-- An identifier or a keyword. -/
  | word (name : String)
  /-- A string literal, by its content. -/
  | string (content : String)
  /-- A numeral, which may be whole or have a fraction or an exponent. -/
  | number (whole : Bool)
  /-- A character, or a string of another kind. -/
  | literal
  /-- A lifetime or a label. -/
  | lifetime
  /-- A sign, which may touch another one behind it. -/
  | mark (sign : Char) (joint : Bool)
  /-- The start of a group. -/
  | opening (sign : Char)
  /-- The end of a group. -/
  | closing (sign : Char)
  deriving DecidableEq, Repr

namespace Token

open StringLiteral (isWordChar startsWord withoutWord)

/-- Whether a text starts with a sign that marks are made of. -/
def startsMark : List Char → Bool
  | '/' :: '/' :: _ => false
  | '/' :: '*' :: _ => false
  | c :: _ => "~!@#$%^&*-=+|;:,<.>/?'".toList.contains c
  | [] => false

/-- Whether a character can stand between the digits of a numeral. -/
def isDigitOrGap (c : Char) : Bool :=
  c.isDigit || c == '_'

/-- Whether a text is the exponent of a numeral, its sign included. -/
def startsExponent : List Char → Bool
  | letter :: rest =>
      (letter == 'e' || letter == 'E') &&
        match rest.dropWhile (· == '_') with
        | sign :: digits =>
            sign.isDigit || (sign == '+' || sign == '-') &&
              (digits.dropWhile (· == '_')).head?.any Char.isDigit
        | [] => false
  | [] => false

/-- The numeral whose digits end here, and the text behind its exponent and the name of its
    kind. -/
def behindDigits (whole : Bool) (text : List Char) : Token × List Char :=
  if startsExponent text then
    match (text.drop 1).dropWhile (· == '_') with
    | sign :: rest =>
        (number false,
          (if sign == '+' || sign == '-' then rest else sign :: rest).dropWhile isWordChar)
    | [] => (number false, [])
  else (number whole, withoutWord text)

/-- The numeral that a text starts with, and the text behind it. A point belongs to the
    numeral unless it starts a range or a member. -/
def readNumber : List Char → Token × List Char
  | '0' :: 'x' :: rest => (number true, rest.dropWhile isWordChar)
  | '0' :: 'o' :: rest => (number true, rest.dropWhile isWordChar)
  | '0' :: 'b' :: rest => (number true, rest.dropWhile isWordChar)
  | text =>
      match text.dropWhile isDigitOrGap with
      | '.' :: rest =>
          if rest.head?.any fun c => c == '.' || startsWord c then (number true, '.' :: rest)
          else behindDigits false (rest.dropWhile isDigitOrGap)
      | rest => behindDigits true rest

/-- The token that starts with a single quote, and the text behind it. -/
def readQuote : List Char → Token × List Char
  | '\\' :: 'x' :: _ :: _ :: '\'' :: rest => (literal, withoutWord rest)
  | '\\' :: 'u' :: '{' :: rest =>
      match rest.dropWhile (· != '}') with
      | '}' :: '\'' :: rest => (literal, withoutWord rest)
      | _ => (mark '\'' true, '\\' :: 'u' :: '{' :: rest)
  | '\\' :: _ :: '\'' :: rest => (literal, withoutWord rest)
  | _ :: '\'' :: rest => (literal, withoutWord rest)
  | c :: rest =>
      if startsWord c then (lifetime, rest.dropWhile isWordChar)
      else (mark '\'' true, c :: rest)
  | [] => (mark '\'' false, [])

/-- The word that a text starts with, and the text behind it. -/
def readWord (text : List Char) : Token × List Char :=
  (word (String.ofList (text.takeWhile isWordChar)), text.dropWhile isWordChar)

/-- The token of a text that starts with neither a gap nor a string literal, and the text
    behind it. -/
def readOther : List Char → Token × List Char
  | 'b' :: '\'' :: rest => readQuote rest
  | '\'' :: rest => readQuote rest
  | 'r' :: '#' :: c :: rest =>
      if startsWord c then
        let name := (c :: rest).takeWhile isWordChar
        (word (String.ofList ('r' :: '#' :: name)), rest.dropWhile isWordChar)
      else readWord ('r' :: '#' :: c :: rest)
  | c :: rest =>
      if c.isDigit then readNumber (c :: rest)
      else if startsWord c then readWord (c :: rest)
      else if ['(', '[', '{'].contains c then (opening c, rest)
      else if [')', ']', '}'].contains c then (closing c, rest)
      else (mark c (startsMark rest), rest)
  | [] => (mark ' ' false, [])

/-- The tokens that a comment stands for which documents what follows, or what it is in. The
    text of the comment does not count. -/
def ofDocumentation (inner : Bool) : List Token :=
  [mark '#' false] ++ (if inner then [mark '!' false] else []) ++
    [opening '[', word "doc", mark '=' false, string "", closing ']']

/-- The tokens at the start of a text that starts with no gap, and the text behind them. -/
def readFirst (text : List Char) : List Token × List Char :=
  if Gap.opensDocumentation text then
    let inner := text[2]? == some '!'
    (ofDocumentation inner,
      Gap.skip (if text[1]? == some '/' then .line else .nested 0) (text.drop 2))
  else
    match StringLiteral.read? text with
    | some (content, rest) => ([string (String.ofList content)], withoutWord rest)
    | none =>
        match text with
        | 'b' :: quoted | 'c' :: quoted =>
            match StringLiteral.read? quoted with
            | some (_, rest) => ([literal], withoutWord rest)
            | none => ([(readOther text).1], (readOther text).2)
        | _ => ([(readOther text).1], (readOther text).2)

/-- The tokens of a text, in so many steps. -/
def readWithin : Nat → List Char → List Token
  | 0, _ => []
  | count + 1, text =>
      match Gap.skip .blank text with
      | [] => []
      | start => (readFirst start).1 ++ readWithin count (readFirst start).2

/-- The tokens of a text. Every step takes a character, so that its length is enough. -/
def readAll (text : String) : List Token :=
  readWithin text.length text.toList

/-- The words that are no identifiers. -/
def keywords : List String :=
  ["_", "abstract", "as", "async", "await", "become", "box", "break", "const", "continue",
    "crate", "do", "dyn", "else", "enum", "extern", "false", "final", "fn", "for", "if", "impl",
    "in", "let", "loop", "macro", "match", "mod", "move", "mut", "override", "priv", "pub",
    "ref", "return", "Self", "self", "static", "struct", "super", "trait", "true", "try",
    "type", "typeof", "unsafe", "unsized", "use", "virtual", "where", "while", "yield"]

/-- The words that name a place in a path although they are no identifiers. -/
def pathKeywords : List String :=
  ["super", "self", "Self", "crate"]

end Token

end RecordQuery
