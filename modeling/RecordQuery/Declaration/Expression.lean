import RecordQuery.Declaration.Statement

/-!
# Expressions

An expression is read to know where it ends and whether it is one string literal. Operators
bind as their precedence says; comparisons do not chain, and a range is no left operand.
-/

namespace RecordQuery

namespace SyntaxReaders

open TokenReader

/-- Refuses what may not stand behind a cast. -/
def checkCast : TokenReader Unit := do
  let tokens ← get
  if Token.startsMember tokens then
    let part := tokens.drop 1
    if Token.startsWithWord "await" part then refuse (.nothingBehindCast (ticked ".await"))
    else if Token.startsIdentifier part &&
        (Token.startsGroup '(' (part.drop 1) || Token.startsWith "::" (part.drop 1)) then
      refuse (.nothingBehindCast "a method call")
    else refuse (.nothingBehindCast "a field access")
  else if Token.startsWith "?" tokens then refuse (.nothingBehindCast (ticked "?"))
  else if Token.startsGroup '[' tokens then refuse (.nothingBehindCast "indexing")
  else if Token.startsGroup '(' tokens then refuse (.nothingBehindCast "a function call")

/-- Goes on behind a left operand. -/
def operationStep (readers : SyntaxReaders) (braces : Bool) (base : Precedence)
    (left : ExpressionForm) : TokenReader ExpressionForm := do
  let tokens ← get
  match left, Precedence.operator? tokens with
  | .range, _ => return .range
  | left, some (signs, precedence) =>
      if precedence.level < base.level then return left
      else if left = .comparison ∧ precedence = .comparison then refuse .unchained
      else
        need signs
        readers.skipRight braces precedence
        readers.operation braces base (if precedence = .comparison then .comparison else .other)
  | left, none =>
      if base.level ≤ Precedence.level .assignment && Precedence.startsAssignment tokens then
        need "="
        readers.skipRight braces .assignment
        readers.operation braces base .other
      else if base.level ≤ Precedence.level .range && Token.startsWith ".." tokens then
        readers.rangeTail braces
      else if ← acceptWord "as" then
        readers.type false
        checkCast
        readers.operation braces base .other
      else return left

/-- Goes on behind a right operand. An assignment is the right operand of another. -/
def rightOperandStep (readers : SyntaxReaders) (braces : Bool) (precedence : Precedence)
    (operand : ExpressionForm) : TokenReader ExpressionForm := do
  let tokens ← get
  let next := Precedence.ofTokens tokens
  if precedence.level < next.level ∨ precedence = .assignment ∧ next = .assignment then
    let extended ← readers.operation braces next operand
    if (← get).length < tokens.length then readers.rightOperand braces precedence extended
    else return extended
  else return operand

/-- The readers that read what is inside with these. -/
def step (readers : SyntaxReaders) : SyntaxReaders where
  operand := readers.operandStep
  operation := readers.operationStep
  rightOperand := readers.rightOperandStep
  parts := readers.partsStep
  type := typeStep readers.type (readers.skipExpression true)
  pattern := patternStep readers.type readers.pattern
  block := readers.blockStep
  arms := readers.armsStep

/-- The readers that take nothing. -/
def empty : SyntaxReaders where
  operand _ := refuse .expression
  operation _ _ := pure
  rightOperand _ _ := pure
  parts := pure
  type _ := refuse .type
  pattern _ := refuse .pattern
  block := refuse .braces
  arms := refuse .braces

/-- The readers of what lies in each other so often at most. -/
def ofDepth : Nat → SyntaxReaders
  | 0 => empty
  | depth + 1 => (ofDepth depth).step

end SyntaxReaders

/-- Takes an expression. Of readers in each other at least one in six takes a token. -/
def TokenReader.expression : TokenReader ExpressionForm := do
  (SyntaxReaders.ofDepth (6 * (← get).length + 6)).expression true

/-- Reads the content of an attribute. -/
def AttributeEntry.readAll (content : String) : Except Malformed (List AttributeEntry) :=
  (TokenReader.allSeparated
    (AttributeEntry.take (ExpressionForm.value <$> TokenReader.expression))).run'
      (Token.readAll content)

/-- The entries of an attribute. One that has no content is refused. -/
def FieldAttribute.entries (source : FieldAttribute) : Except Malformed (List AttributeEntry) :=
  match source.form with
  | .word => .error ⟨.attributeContent source.path, true⟩
  | .list content => AttributeEntry.readAll content
  | .assignment _ => .error ⟨.attributeParentheses source.path, false⟩

end RecordQuery
