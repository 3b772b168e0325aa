import RecordQuery.Declaration.SyntaxReaders

/-!
# Operands

An operand of an expression is a literal, a path with what belongs to it, a group, a block with
its keyword, or a closure. Its form matters only if it is a string literal or a range.
-/

namespace RecordQuery

namespace SyntaxReaders

open TokenReader

/-- Whether an expression may start here. -/
def startsExpression (tokens : List Token) : Bool :=
  match tokens.head? with
  | some (.word _) | some (.string _) | some (.number _) | some .literal | some .lifetime
  | some (.opening _) => true
  | _ =>
      Token.startsAlone "!" ["!="] tokens || Token.startsAlone "-" ["-=", "->"] tokens ||
        Token.startsAlone "*" ["*="] tokens || Token.startsAlone "|" ["|="] tokens ||
        Token.startsAlone "&" ["&="] tokens || Token.startsAlone "<" ["<=", "<<="] tokens ||
        ["..", "::", "#"].any (Token.startsWith · tokens)

/-- Takes the value that goes with a jump, if there is one. -/
def jumpValue (readers : SyntaxReaders) (braces : Bool) : TokenReader Unit := do
  let tokens ← get
  if startsExpression tokens && (braces || !Token.startsGroup '{' tokens) then
    readers.skipExpression true

/-- Takes a jump out of a loop behind its keyword. What follows a label may not have it. -/
def leave (readers : SyntaxReaders) (braces : Bool) : TokenReader Unit := do
  let tokens ← get
  if tokens.head? == some .lifetime && Token.startsWith ":" (tokens.drop 1) then
    readers.skipExpression true
    refuse .labelInParentheses
  else
    acceptLifetime
    readers.jumpValue braces

/-- Takes the parameters of a closure up to the mark behind them, so many at most. -/
def parameters (readers : SyntaxReaders) : Nat → TokenReader Unit
  | 0 => pure ()
  | count + 1 => do
      if !Token.startsWith "|" (← get) then
        let _ ← readers.attributes
        readers.pattern false
        if ← accept ":" then readers.type true
        if !Token.startsWith "|" (← get) then
          need ","
          readers.parameters count

/-- Takes a closure. There is one more step for parameters than tokens, to refuse the end. -/
def closure (readers : SyntaxReaders) (braces : Bool) : TokenReader Unit := do
  boundLifetimes (arguments readers.type)
  let _ ← acceptWord "const"
  let _ ← acceptWord "static"
  let _ ← acceptWord "async"
  let _ ← acceptWord "move"
  need "|"
  readers.parameters ((← get).length + 1)
  need "|"
  if ← accept "->" then
    readers.type true
    readers.block
  else readers.skipExpression braces

/-- Takes a choice from its keyword on, with so many branches at most. -/
def branches (readers : SyntaxReaders) : Nat → TokenReader Unit
  | 0 => pure ()
  | count + 1 => do
      needWord "if"
      readers.skipExpression false
      readers.block
      if ← acceptWord "else" then
        let tokens ← get
        if Token.startsWithWord "if" tokens then readers.branches count
        else if Token.startsGroup '{' tokens then readers.block
        else refuse .branch

/-- Takes a loop over a collection behind its keyword. -/
def iteration (readers : SyntaxReaders) : TokenReader Unit := do
  readers.pattern true
  needWord "in"
  readers.skipExpression false
  readers.block

/-- Takes a condition that a pattern fits, behind its keyword. -/
def binding (readers : SyntaxReaders) (braces : Bool) : TokenReader Unit := do
  readers.pattern true
  need "="
  let _ ← readers.operation braces .comparison (← readers.operand braces)

/-- Takes a field of a structure and its value. -/
def fieldValue (readers : SyntaxReaders) : TokenReader Unit := do
  let _ ← readers.attributes
  let tokens ← get
  if tokens.head? == some (.number true) then
    advance
    need ":"
    readers.skipExpression true
  else if Token.startsIdentifier tokens then
    advance
    if ← accept ":" then readers.skipExpression true
  else refuse .member

/-- Takes the fields of a structure, so many at most. The rest of them may be those of another
    structure. -/
def fieldValues (readers : SyntaxReaders) : Nat → TokenReader Unit
  | 0 => pure ()
  | count + 1 => do
      if Token.isAtEnd (← get) then return ()
      else if ← accept ".." then
        if !Token.isAtEnd (← get) then readers.skipExpression true
      else
        readers.fieldValue
        if !Token.isAtEnd (← get) then
          need ","
          readers.fieldValues count

/-- Takes an operand that starts with a path: a name, a macro or a structure. -/
def named (readers : SyntaxReaders) (braces : Bool) : TokenReader Unit := do
  let plain ← path readers.type false
  let tokens ← get
  if plain && startsMacro tokens then macroArguments
  else if braces && Token.startsGroup '{' tokens then
    within '{' (readers.fieldValues tokens.length)

/-- Takes the items of brackets: a list, or one item and how often it stands there. -/
def items (readers : SyntaxReaders) : TokenReader Unit := do
  if !Token.isAtEnd (← get) then
    readers.skipExpression true
    let tokens ← get
    if Token.startsWith "," tokens then
      advance
      let _ ← allSeparated (readers.skipExpression true)
    else if Token.startsWith ";" tokens then
      advance
      readers.skipExpression true
    else if !Token.isAtEnd tokens then refuse .itemSeparator

/-- Takes a keyword and the block behind it. -/
def wordBlock (readers : SyntaxReaders) : TokenReader Unit := do
  advance
  readers.block

/-- Whether tokens behind the word for a loop bind lifetimes instead. -/
def bindsLifetimes (tokens : List Token) : Bool :=
  Token.startsWith "<" tokens &&
    ((tokens.drop 1).head? == some .lifetime || Token.startsWith ">" (tokens.drop 1))

/-- Takes an operand that starts with a word. -/
def wordOperand (readers : SyntaxReaders) (braces : Bool) (name : String)
    (rest : List Token) : TokenReader Unit :=
  match name with
  | "true" | "false" | "_" => advance
  | "async" =>
      if Token.startsGroup '{' rest then readers.wordBlock
      else if Token.startsWithWord "move" rest && Token.startsGroup '{' (rest.drop 1) then do
        advance
        readers.wordBlock
      else if Token.startsWith "|" rest || Token.startsWithWord "move" rest then
        readers.closure braces
      else refuse .expression
  | "try" =>
      if Token.startsGroup '{' rest then readers.wordBlock
      else if Token.startsWith "!" rest || Token.startsWith "::" rest then readers.named braces
      else refuse .expression
  | "const" =>
      if Token.startsGroup '{' rest then readers.wordBlock else readers.closure braces
  | "move" | "static" => readers.closure braces
  | "for" =>
      if bindsLifetimes rest then readers.closure braces
      else do
        advance
        readers.iteration
  | "unsafe" | "loop" => readers.wordBlock
  | "if" => do readers.branches (← get).length
  | "while" => do
      advance
      readers.skipExpression false
      readers.block
  | "match" => do
      advance
      readers.skipExpression false
      readers.arms
  | "let" => do
      advance
      readers.binding braces
  | "return" | "yield" => do
      advance
      readers.jumpValue true
  | "break" => do
      advance
      readers.leave braces
  | "continue" => do
      advance
      acceptLifetime
  | "become" => do
      advance
      readers.skipExpression true
  | _ => do
      let tokens ← get
      if Token.startsPathKeyword tokens || Token.startsIdentifier tokens then
        readers.named braces
      else refuse .expression

/-- Takes a label and what it stands for. -/
def labelled (readers : SyntaxReaders) (braces : Bool) : TokenReader Unit := do
  advance
  need ":"
  match ← get with
  | .opening '{' :: _ => readers.block
  | .word name :: rest =>
      if ["while", "for", "loop"].contains name then readers.wordOperand braces name rest
      else refuse .labelled
  | _ => refuse .labelled

/-- Takes an operand without the operators in front of it and the parts behind it. -/
def atom (readers : SyntaxReaders) (braces : Bool) : TokenReader ExpressionForm := do
  let tokens ← get
  match tokens with
  | .string content :: _ => do
      advance
      return .string content
  | .number _ :: _ | .literal :: _ => advance
  | .word name :: rest => readers.wordOperand braces name rest
  | .opening '(' :: _ => readers.skipExpressions '('
  | .opening '[' :: _ => within '[' readers.items
  | .opening '{' :: _ => readers.block
  | .lifetime :: _ => readers.labelled braces
  | _ =>
      if Token.startsWith "|" tokens then readers.closure braces
      else if Token.startsWith "::" tokens || Token.startsWith "<" tokens then
        readers.named braces
      else if Token.startsWith ".." tokens then return ← readers.rangeTail braces
      else refuse .expression
  return .other

/-- Takes a member behind its point. Only a call may follow its types. -/
def memberName (readers : SyntaxReaders) : TokenReader Unit := do
  match (← get).head? with
  | some (.number _) => advance
  | some (.word "await") => advance
  | _ =>
      if Token.startsIdentifier (← get) then
        advance
        if ← accept "::" then
          arguments readers.type
          readers.skipExpressions '('
      else refuse .member

/-- Takes what may stand behind an operand: calls, indices, members, and marks of failure. -/
def partsStep (readers : SyntaxReaders) (operand : ExpressionForm) :
    TokenReader ExpressionForm := do
  let tokens ← get
  if Token.startsGroup '(' tokens then
    readers.skipExpressions '('
    readers.parts .other
  else if Token.startsGroup '[' tokens then
    within '[' (readers.skipExpression true)
    readers.parts .other
  else if operand = .range then return operand
  else if Token.startsMember tokens then
    advance
    readers.memberName
    readers.parts .other
  else if ← accept "?" then readers.parts .other
  else return operand

/-- Takes the words behind the mark of a reference. -/
def referenceWords : TokenReader Unit := do
  match ← get with
  | .word "raw" :: .word "mut" :: rest => set rest
  | .word "raw" :: .word "const" :: rest => set rest
  | .word "mut" :: rest => set rest
  | _ => pure ()

/-- Takes an operand, with the attributes and the operators in front of it. -/
def operandStep (readers : SyntaxReaders) (braces : Bool) : TokenReader ExpressionForm := do
  let marked ← readers.attributes
  match (← get).head? with
  | some (.mark '&' _) => do
      advance
      referenceWords
      let _ ← readers.operand braces
      return .other
  | some (.mark '*' _) | some (.mark '!' _) | some (.mark '-' _) => do
      advance
      let _ ← readers.operand braces
      return .other
  | _ => do
      let form ← readers.parts (← readers.atom braces)
      if marked && form = .range then refuse .plainRange
      else if marked then return .other
      else return form

end SyntaxReaders

end RecordQuery
