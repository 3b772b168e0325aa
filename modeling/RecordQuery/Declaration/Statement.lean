import RecordQuery.Declaration.Operand

/-!
# Blocks and arms

A block holds statements, which end with a semicolon unless they end with a block or are the
last one. The arms of a match end with a comma on the same terms. Items in a block are not
read.
-/

namespace RecordQuery

namespace SyntaxReaders

open TokenReader

/-- Whether an expression that starts here ends with its block where it is a statement. -/
def startsBlock (tokens : List Token) : Bool :=
  match tokens with
  | .opening '{' :: _ | .lifetime :: _ => true
  | .word name :: rest =>
      ["if", "while", "loop", "match", "unsafe"].contains name ||
        name == "for" && !bindsLifetimes rest ||
        ["try", "const"].contains name && Token.startsGroup '{' rest
  | _ => false

/-- Takes an expression that may end with its block, and tells whether it does not. -/
def openExpression (readers : SyntaxReaders) : TokenReader Bool := do
  let _ ← readers.attributes
  if startsBlock (← get) then
    let form ← readers.atom true
    let tokens ← get
    if Token.startsMember tokens || Token.startsWith "?" tokens then
      let _ ← readers.operation true .loosest (← readers.parts form)
      return true
    else return false
  else
    readers.skipExpression true
    return true

/-- The tokens behind the path of a macro, if they start with one. -/
def behindMacroPath? (tokens : List Token) : Option (List Token) :=
  match AttributeEntry.plainPath.run tokens with
  | .ok (_, rest) => if Token.startsWith "!" rest then some (rest.drop 1) else none
  | .error _ => none

/-- Whether a statement is a macro that ends with its braces. -/
def startsMacroBlock (tokens : List Token) : Bool :=
  match behindMacroPath? tokens with
  | some rest =>
      Token.startsGroup '{' rest &&
        !(Token.startsMember (Token.behindGroup 0 (rest.drop 1)) ||
          Token.startsWith "?" (Token.behindGroup 0 (rest.drop 1)))
  | none => false

/-- Whether an item starts with this word. -/
def startsItem (name : String) (rest : List Token) : Bool :=
  let next (names : List String) := names.any (Token.startsWithWord · rest)
  match name with
  | "pub" | "extern" | "use" | "fn" | "mod" | "type" | "struct" | "enum" | "trait" | "impl"
  | "macro" => true
  | "crate" => !Token.startsWith "::" rest
  | "static" => next ["mut"] || Token.startsIdentifier rest
  | "const" =>
      !(Token.startsGroup '{' rest || next ["static", "move"] || Token.startsWith "|" rest ||
        next ["async"] &&
          !(["unsafe", "extern", "fn"].any (Token.startsWithWord · (rest.drop 1))))
  | "unsafe" => !Token.startsGroup '{' rest
  | "async" => next ["unsafe", "extern", "fn"]
  | "union" => Token.startsIdentifier rest
  | "auto" => next ["trait"]
  | "default" => next ["unsafe", "impl"]
  | _ => false

/-- Takes an item: up to its semicolon, or with its braces. A constant has both. -/
def skipItem (name : String) : TokenReader Unit := do
  let isConstant := ["use", "static", "const", "type"].contains name
  let stops (token : Token) : Bool :=
    match token with
    | .mark ';' _ => true
    | .opening sign => sign == '{' && !isConstant
    | _ => false
  modify (Token.dropUntil stops 0)
  if !(← accept ";") then skipGroup '{'

/-- Takes a local name with its type and its value. -/
def localName (readers : SyntaxReaders) : TokenReader Unit := do
  readers.pattern false
  if ← accept ":" then readers.type true
  if ← accept "=" then
    readers.skipExpression true
    if ← acceptWord "else" then readers.block
  need ";"

/-- Takes a statement, and tells whether only the end may follow. -/
def statement (readers : SyntaxReaders) : TokenReader Bool := do
  let _ ← readers.attributes
  let tokens ← get
  if startsMacroBlock tokens then
    let _ ← AttributeEntry.plainPath
    macroArguments
    let _ ← accept ";"
    return false
  else
    match tokens with
    | .word "let" :: _ => do
        advance
        readers.localName
        return false
    | .word name :: rest =>
        if startsItem name rest || (behindMacroPath? tokens).any Token.startsIdentifier then
          skipItem name
          return false
        else
          let separate ← readers.openExpression
          return !(← accept ";") && separate
    | _ =>
        let separate ← readers.openExpression
        return !(← accept ";") && separate

/-- Takes the statements up to the end of a block, so many at most. -/
def statements (readers : SyntaxReaders) : Nat → TokenReader Unit
  | 0 => pure ()
  | count + 1 => do
      if ← accept ";" then readers.statements count
      else if !Token.isAtEnd (← get) then
        let last ← readers.statement
        if last && !Token.isAtEnd (← get) then refuse .statementEnd
        else readers.statements count

/-- Takes a block. -/
def blockStep (readers : SyntaxReaders) : TokenReader Unit :=
  within '{' do readers.statements (← get).length

/-- Takes an arm of a match. -/
def arm (readers : SyntaxReaders) : TokenReader Unit := do
  let _ ← readers.attributes
  readers.pattern true
  if ← acceptWord "if" then readers.skipExpression true
  need "=>"
  let separate ← readers.openExpression
  if separate && !Token.isAtEnd (← get) then need ","
  else
    let _ ← accept ","

/-- Takes the arms up to the end of a match, so many at most. -/
def someArms (readers : SyntaxReaders) : Nat → TokenReader Unit
  | 0 => pure ()
  | count + 1 => do
      if !Token.isAtEnd (← get) then
        readers.arm
        readers.someArms count

/-- Takes the arms of a match. -/
def armsStep (readers : SyntaxReaders) : TokenReader Unit :=
  within '{' do readers.someArms (← get).length

end SyntaxReaders

end RecordQuery
