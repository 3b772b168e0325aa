import RecordQuery.Declaration.TokenReader

/-!
# Paths and types

Types stand behind casts and in paths, and paths stand in types. A reader here is given a reader
of the types inside, which is told whether sums of bounds are types.
-/

namespace RecordQuery

namespace TokenReader

/-- Takes a lifetime if one stands there. -/
def acceptLifetime : TokenReader Unit := do
  if (← get).head? == some .lifetime then advance

/-- Takes a literal if one stands there, and tells whether. -/
def acceptLiteral : TokenReader Bool := do
  match ← get with
  | .string _ :: rest | .number _ :: rest | .literal :: rest | .word "true" :: rest
  | .word "false" :: rest | .mark '-' _ :: .number _ :: rest => do
      set rest
      return true
  | _ => return false

/-- Takes an argument of a path that is a constant, if one stands there, and tells whether. -/
def acceptConstant : TokenReader Bool := do
  if Token.startsGroup '{' (← get) then
    skipGroup '{'
    return true
  else acceptLiteral

/-- Takes the words that bind lifetimes. -/
def boundLifetimes (arguments : TokenReader Unit) : TokenReader Unit := do
  if ← acceptWord "for" then arguments

/-- Whether a bound may start here. -/
def startsBound (tokens : List Token) : Bool :=
  match tokens.head? with
  | some (.word _) | some .lifetime | some (.opening '(') => true
  | _ => Token.startsWith "::" tokens || Token.startsWith "?" tokens

/-- Takes the bounds behind the first one, so many at most. -/
def moreBounds (bound : TokenReader Unit) : Nat → TokenReader Unit
  | 0 => pure ()
  | count + 1 => do
      if ← accept "+" then
        if startsBound (← get) then
          bound
          moreBounds bound count

/-- Takes what a type has to keep to. -/
def bounds (type : Bool → TokenReader Unit) : TokenReader Unit := do
  let bound := do
    let _ ← accept "?"
    type false
  if startsBound (← get) then
    bound
    moreBounds bound (← get).length

/-- Takes an argument of a path. -/
def argument (type : Bool → TokenReader Unit) : TokenReader Unit := do
  if (← get).head? == some .lifetime then advance
  else if !(← acceptConstant) then
    type true
    if ← accept "=" then
      if !(← acceptConstant) then type true
    else if ← accept ":" then bounds type

/-- Takes arguments up to the mark that closes them, so many at most. -/
def moreArguments (type : Bool → TokenReader Unit) : Nat → TokenReader Unit
  | 0 => pure ()
  | count + 1 => do
      if !Token.startsWith ">" (← get) then
        argument type
        if !Token.startsWith ">" (← get) then
          need ","
          moreArguments type count

/-- Takes the arguments of a path. There is one more step than tokens, to refuse the end. -/
def arguments (type : Bool → TokenReader Unit) : TokenReader Unit := do
  need "<"
  moreArguments type ((← get).length + 1)
  need ">"

/-- Takes the arguments of a path's segment if there are any, and tells whether there are none.
    In a type they need no mark in front. -/
def noArguments (type : Bool → TokenReader Unit) (ofType : Bool) : TokenReader Bool := do
  let tokens ← get
  if ofType && Token.startsAlone "<" ["<="] tokens then
    arguments type
    return false
  else if Token.startsWith "::" tokens && Token.startsWith "<" (tokens.drop 2) then
    need "::"
    arguments type
    return false
  else return true

/-- Takes a segment of a path, and tells whether it has no arguments. -/
def segment (type : Bool → TokenReader Unit) (ofType : Bool) : TokenReader Bool := do
  match (← get).head? with
  | some (.word name) =>
      if name == "super" || name == "self" || name == "crate" || name == "try" then
        advance
        return true
      else if name == "Self" || !Token.keywords.contains name then
        advance
        noArguments type ofType
      else refuse (.noKeyword name)
  | _ => refuse .identifier

/-- Takes the other segments of a path, so many at most, and tells whether none has arguments. -/
def moreSegments (type : Bool → TokenReader Unit) (ofType : Bool) : Nat → TokenReader Bool
  | 0 => return true
  | count + 1 => do
      let tokens ← get
      if Token.startsWith "::" tokens && !Token.startsGroup '(' (tokens.drop 2) then
        need "::"
        let plain ← segment type ofType
        return plain && (← moreSegments type ofType count)
      else return true

/-- Takes a path, and tells whether it has no arguments. -/
def simplePath (type : Bool → TokenReader Unit) (ofType : Bool) : TokenReader Bool := do
  let _ ← accept "::"
  let plain ← segment type ofType
  return plain && (← moreSegments type ofType (← get).length)

/-- Takes a path that may start at a type, and tells whether it has no types in it. -/
def path (type : Bool → TokenReader Unit) (ofType : Bool) : TokenReader Bool := do
  if ← accept "<" then
    type true
    if ← acceptWord "as" then
      let _ ← simplePath type true
    need ">"
    need "::"
    let _ ← segment type ofType
    let _ ← moreSegments type ofType (← get).length
    return false
  else simplePath type ofType

/-- Whether tokens start with the mark of a macro behind its path. -/
def startsMacro (tokens : List Token) : Bool :=
  Token.startsAlone "!" ["!="] tokens

/-- Takes the arguments of a macro behind its path. -/
def macroArguments : TokenReader Unit := do
  need "!"
  skipAnyGroup

/-- Takes the type that an arrow points to, if there is an arrow. -/
def result (type : Bool → TokenReader Unit) : TokenReader Unit := do
  if ← accept "->" then type false

/-- Takes the types in parentheses. -/
def typeGroup (type : Bool → TokenReader Unit) : TokenReader Unit :=
  within '(' do
    if !Token.isAtEnd (← get) then
      type true
      if ← accept "," then
        let _ ← allSeparated (type true)

/-- Takes a type that is named by a path. It may be a macro, or have arguments in parentheses;
    where sums are types, bounds may be added to it. -/
def namedType (type : Bool → TokenReader Unit) (sums : Bool) : TokenReader Unit := do
  let plain ← path type true
  let tokens ← get
  if plain && startsMacro tokens then macroArguments
  else
    if plain && Token.startsGroup '(' tokens then
      typeGroup type
      result type
    if sums then moreBounds (type false) (← get).length

/-- Takes the type of a function. -/
def functionType (type : Bool → TokenReader Unit) : TokenReader Unit := do
  let _ ← acceptWord "unsafe"
  if ← acceptWord "extern" then
    match (← get).head? with
    | some (.string _) => advance
    | _ => pure ()
  needWord "fn"
  skipGroup '('
  result type

/-- Takes what makes a type of the type behind it. -/
def pointer : TokenReader Unit := do
  if !(← acceptWord "const") then
    if !(← acceptWord "mut") then refuse .pointee

/-- Takes the types of a list, and its length if it is fixed. -/
def listType (type : Bool → TokenReader Unit) (length : TokenReader Unit) : TokenReader Unit :=
  within '[' do
    type true
    if ← accept ";" then length

/-- Takes a type, given the readers of the types and of the lengths in it. -/
def typeStep (type : Bool → TokenReader Unit) (length : TokenReader Unit) (sums : Bool) :
    TokenReader Unit := do
  let tokens ← get
  match tokens.head? with
  | some (.opening '(') => typeGroup type
  | some (.opening '[') => listType type length
  | some .lifetime => do
      advance
      if sums then moreBounds (type false) (← get).length
  | some (.mark '*' _) => do
      advance
      pointer
      type false
  | some (.mark '&' _) => do
      advance
      acceptLifetime
      let _ ← acceptWord "mut"
      type false
  | some (.mark '!' _) => advance
  | some (.word name) =>
      if name == "_" then advance
      else if name == "fn" || name == "unsafe" || name == "extern" then functionType type
      else if name == "dyn" || name == "impl" then do
        advance
        let _ ← accept "?"
        type sums
      else if name == "for" then do
        boundLifetimes (arguments type)
        type sums
      else if Token.startsPathKeyword tokens || Token.startsIdentifier tokens then
        namedType type sums
      else refuse .type
  | _ =>
      if Token.startsWith "::" tokens || Token.startsWith "<" tokens then namedType type sums
      else refuse .type

end TokenReader

end RecordQuery
