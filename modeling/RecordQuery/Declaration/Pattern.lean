import RecordQuery.Declaration.TypePath

/-!
# Patterns

A pattern stands where something is taken apart: behind `let`, in a loop, in an arm, in the
parameters of a closure. A reader here is given readers of the types and of the patterns inside;
the latter is told whether alternatives are patterns.
-/

namespace RecordQuery

namespace TokenReader

/-- Whether a range of patterns ends here without an end. -/
def boundMissing (tokens : List Token) : Bool :=
  Token.isAtEnd tokens || ["|", "=", ",", ";"].any (Token.startsWith · tokens) ||
    Token.startsAlone ":" ["::"] tokens || Token.startsWithWord "if" tokens

/-- Takes an end of a range of patterns if there is one, and tells whether. -/
def rangeBound (type : Bool → TokenReader Unit) : TokenReader Bool := do
  let tokens ← get
  if boundMissing tokens then return false
  else if ← acceptLiteral then return true
  else if Token.startsWithWord "const" tokens then
    advance
    skipGroup '{'
    return true
  else if Token.startsIdentifier tokens || Token.startsPathKeyword tokens ||
      Token.startsWith "::" tokens || Token.startsWith "<" tokens then
    let _ ← path type true
    return true
  else refuse .rangeBound

/-- Takes the rest of a range behind its start, if it is one. -/
def rangeRest (type : Bool → TokenReader Unit) : TokenReader Unit := do
  if Token.startsWith ".." (← get) then
    let closed ← do
      if ← accept "..=" then pure true else accept "..."
    if !closed then need ".."
    if !(← rangeBound type) then
      if closed then refuse .upperBound

/-- Takes a literal or a range that starts with one. -/
def literalPattern (type : Bool → TokenReader Unit) : TokenReader Unit := do
  let _ ← rangeBound type
  rangeRest type

/-- Takes a range that has no start, or the mark that stands for what is left. -/
def openPattern (type : Bool → TokenReader Unit) : TokenReader Unit := do
  let closed ← accept "..="
  if !closed then need ".."
  if !(← rangeBound type) then
    if closed then refuse .upperBound

/-- Takes an identifier. -/
def needIdentifier : TokenReader Unit := do
  let tokens ← get
  if Token.startsIdentifier tokens then advance
  else
    match tokens.head? with
    | some (.word name) => refuse (.noKeyword name)
    | _ => refuse .identifier

/-- Takes the name that a pattern gives, and the pattern of what it names. -/
def namePattern (pattern : Bool → TokenReader Unit) : TokenReader Unit := do
  let _ ← acceptWord "ref"
  let _ ← acceptWord "mut"
  if !(← acceptWord "self") then needIdentifier
  if ← accept "@" then pattern false

/-- Takes the pattern of a field. -/
def fieldPattern (pattern : Bool → TokenReader Unit) : TokenReader Unit := do
  let boxed ← acceptWord "box"
  let byReference ← acceptWord "ref"
  let mutable ← acceptWord "mut"
  if boxed || byReference || mutable then needIdentifier
  else
    let tokens ← get
    if tokens.head? == some (.number true) then
      advance
      need ":"
      pattern true
    else if Token.startsIdentifier tokens then
      advance
      if ← accept ":" then pattern true
    else refuse .member

/-- Takes the patterns of fields, so many at most. -/
def fieldPatterns (pattern : Bool → TokenReader Unit) : Nat → TokenReader Unit
  | 0 => pure ()
  | count + 1 => do
      if Token.isAtEnd (← get) then return ()
      else if Token.startsWith ".." (← get) then need ".."
      else
        fieldPattern pattern
        if !Token.isAtEnd (← get) then
          need ","
          fieldPatterns pattern count

/-- Takes a pattern that starts with a path: a constant, a range, a macro or a structure. -/
def pathPattern (type pattern : Bool → TokenReader Unit) : TokenReader Unit := do
  let plain ← path type false
  let tokens ← get
  if plain && startsMacro tokens then macroArguments
  else if Token.startsGroup '{' tokens then within '{' (fieldPatterns pattern tokens.length)
  else if Token.startsGroup '(' tokens then
    within '(' do
      let _ ← allSeparated (pattern true)
  else rangeRest type

/-- Whether a path goes on behind its first identifier, or what it names is taken apart. -/
def continuesPath (tokens : List Token) : Bool :=
  ["::", "!", ".."].any (Token.startsWith · tokens) || Token.startsGroup '{' tokens ||
    Token.startsGroup '(' tokens

/-- Takes a pattern that starts with a word. -/
def wordPattern (type pattern : Bool → TokenReader Unit) (name : String) (rest : List Token) :
    TokenReader Unit := do
  if name == "_" then advance
  else if name == "box" then
    advance
    pattern false
  else if name == "true" || name == "false" || name == "const" then literalPattern type
  else if name == "ref" || name == "mut" then namePattern pattern
  else if name == "self" then
    if Token.startsWith "::" rest then pathPattern type pattern else namePattern pattern
  else if Token.pathKeywords.contains name then pathPattern type pattern
  else if Token.keywords.contains name then refuse .pattern
  else if continuesPath rest then pathPattern type pattern
  else namePattern pattern

/-- Takes a pattern that is no alternative. -/
def singlePattern (type pattern : Bool → TokenReader Unit) : TokenReader Unit := do
  let tokens ← get
  match tokens with
  | .word name :: rest => wordPattern type pattern name rest
  | .string _ :: _ | .number _ :: _ | .literal :: _ | .mark '-' _ :: _ => literalPattern type
  | .mark '&' _ :: _ => do
      advance
      let _ ← acceptWord "mut"
      pattern false
  | .opening '(' :: _ =>
      within '(' do
        let _ ← allSeparated (pattern true)
  | .opening '[' :: _ =>
      within '[' do
        let _ ← allSeparated (pattern true)
  | _ =>
      if Token.startsWith "::" tokens || Token.startsWith "<" tokens then pathPattern type pattern
      else if Token.startsAlone ".." ["..."] tokens then openPattern type
      else refuse .pattern

/-- Takes the alternatives behind the first one, so many at most. -/
def moreAlternatives (pattern : TokenReader Unit) : Nat → TokenReader Unit
  | 0 => pure ()
  | count + 1 => do
      if Token.startsAlone "|" ["||", "|="] (← get) then
        need "|"
        pattern
        moreAlternatives pattern count

/-- Takes a pattern, given the readers of the types and of the patterns in it. -/
def patternStep (type pattern : Bool → TokenReader Unit) (alternatives : Bool) :
    TokenReader Unit := do
  if alternatives then
    let _ ← accept "|"
    singlePattern type pattern
    moreAlternatives (singlePattern type pattern) (← get).length
  else singlePattern type pattern

end TokenReader

end RecordQuery
