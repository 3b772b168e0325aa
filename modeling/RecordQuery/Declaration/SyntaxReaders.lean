import RecordQuery.Declaration.Entry
import RecordQuery.Declaration.Pattern
import RecordQuery.Declaration.Precedence

/-!
# Readers of expressions and their parts

Expressions, types, patterns and blocks stand in each other. The readers of all of them together
are one value: a reader of something is written for given readers of what is inside.
-/

namespace RecordQuery

/-- What an expression is, as far as it matters for what may follow. -/
inductive ExpressionForm where
  /-- One string literal. -/
  | string (content : String)
  | range
  | comparison
  | other
  deriving DecidableEq, Repr

/-- The value that an expression stands for in an attribute. -/
def ExpressionForm.value : ExpressionForm → AssignedValue
  | string content => .text content
  | _ => .other

/-- The readers of what stands in an expression. Those for operands are told whether a group in
    braces may belong to a path in front of it. -/
structure SyntaxReaders where
  /-- Takes an operand with the operators in front of it and the parts behind it. -/
  operand : Bool → TokenReader ExpressionForm
  /-- Goes on behind a left operand with operators that bind as tightly as this. -/
  operation : Bool → Precedence → ExpressionForm → TokenReader ExpressionForm
  /-- Goes on behind a right operand with operators that bind more tightly than this. -/
  rightOperand : Bool → Precedence → ExpressionForm → TokenReader ExpressionForm
  /-- Takes the calls, members and indices behind an operand. -/
  parts : ExpressionForm → TokenReader ExpressionForm
  /-- Takes a type, which may be a sum of bounds. -/
  type : Bool → TokenReader Unit
  /-- Takes a pattern, which may be one of alternatives. -/
  pattern : Bool → TokenReader Unit
  /-- Takes a block in braces. -/
  block : TokenReader Unit
  /-- Takes the arms of a match in braces. -/
  arms : TokenReader Unit

namespace SyntaxReaders

open TokenReader

/-- Takes an expression. -/
def expression (readers : SyntaxReaders) (braces : Bool) : TokenReader ExpressionForm := do
  readers.operation braces .loosest (← readers.operand braces)

/-- Takes an expression for its extent. -/
def skipExpression (readers : SyntaxReaders) (braces : Bool) : TokenReader Unit := do
  let _ ← readers.expression braces

/-- Takes the expressions of a group, with commas between them. -/
def skipExpressions (readers : SyntaxReaders) (sign : Char) : TokenReader Unit :=
  within sign do
    let _ ← allSeparated (readers.skipExpression true)

/-- Takes the right operand of an operator. -/
def skipRight (readers : SyntaxReaders) (braces : Bool) (precedence : Precedence) :
    TokenReader Unit := do
  let _ ← readers.rightOperand braces precedence (← readers.operand braces)

/-- Takes an attribute behind its mark. -/
def markedAttribute (readers : SyntaxReaders) : TokenReader Unit :=
  within '[' do
    let _ ← AttributeEntry.take (ExpressionForm.value <$> readers.expression true)

/-- Takes attributes, so many at most, and tells whether there are any. -/
def someAttributes (readers : SyntaxReaders) : Nat → TokenReader Bool
  | 0 => return false
  | count + 1 => do
      if ← accept "#" then
        readers.markedAttribute
        let _ ← readers.someAttributes count
        return true
      else return false

/-- Takes the attributes in front of something, and tells whether there are any. -/
def attributes (readers : SyntaxReaders) : TokenReader Bool := do
  readers.someAttributes (← get).length

/-- The marks that end a range whose end is open. -/
def rangeClosers : List String :=
  [",", ";", "?", "=>", "=", "+", "/", "%", "^", ">", "<=", "!=", "-=", "*=", "&=", "|=", "<<="]

/-- Whether a range with an open end ends here. -/
def rangeEnds (braces : Bool) (tokens : List Token) : Bool :=
  Token.isAtEnd tokens || rangeClosers.any (Token.startsWith · tokens) ||
    Token.startsMember tokens || !braces && Token.startsGroup '{' tokens ||
    Token.startsWithWord "as" tokens

/-- Takes a range from its mark on. -/
def rangeTail (readers : SyntaxReaders) (braces : Bool) : TokenReader ExpressionForm := do
  if ← accept "..=" then readers.skipRight braces .range
  else if Token.startsWith "..." (← get) then refuse .rangeMark
  else
    need ".."
    if !rangeEnds braces (← get) then readers.skipRight braces .range
  return .range

end SyntaxReaders

end RecordQuery
