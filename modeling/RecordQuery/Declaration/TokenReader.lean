import RecordQuery.Declaration.Malformed
import RecordQuery.Declaration.Token

/-!
# Reading tokens

A reader takes tokens from the front of those that are left, or refuses them. The end of a
group ends what a reader inside it sees, as the end of the content does.
-/

namespace RecordQuery

namespace Token

/-- Whether nothing is left of a content or of a group. -/
def isAtEnd : List Token → Bool
  | [] => true
  | closing _ :: _ => true
  | _ => false

/-- The tokens behind a mark of these signs, all of which but the last touch the next one. -/
def behindSigns? : List Char → List Token → Option (List Token)
  | [], tokens => some tokens
  | [c], mark sign _ :: rest => if sign = c then some rest else none
  | c :: signs, mark sign true :: rest => if sign = c then behindSigns? signs rest else none
  | _, _ => none

/-- Whether tokens start with a mark. -/
def startsWith (signs : String) (tokens : List Token) : Bool :=
  (behindSigns? signs.toList tokens).isSome

/-- Whether tokens start with a keyword. -/
def startsWithWord (name : String) (tokens : List Token) : Bool :=
  tokens.head? == some (word name)

/-- Whether tokens start with a group of one kind. -/
def startsGroup (sign : Char) (tokens : List Token) : Bool :=
  tokens.head? == some (opening sign)

/-- Whether tokens start with an identifier. -/
def startsIdentifier : List Token → Bool
  | word name :: _ => !keywords.contains name
  | _ => false

/-- The tokens behind the group that so many groups lie in. -/
def behindGroup : Nat → List Token → List Token
  | _, [] => []
  | depth, opening _ :: rest => behindGroup (depth + 1) rest
  | 0, closing _ :: rest => rest
  | depth + 1, closing _ :: rest => behindGroup depth rest
  | depth, _ :: rest => behindGroup depth rest

/-- The tokens from the first one on that ends the search, or from the end of the group. What
    so many groups lie around does not end it. -/
def dropUntil (stops : Token → Bool) : Nat → List Token → List Token
  | _, [] => []
  | depth, opening sign :: rest =>
      if depth = 0 && stops (opening sign) then opening sign :: rest
      else dropUntil stops (depth + 1) rest
  | 0, closing sign :: rest => closing sign :: rest
  | depth + 1, closing _ :: rest => dropUntil stops depth rest
  | depth, token :: rest =>
      if depth = 0 && stops token then token :: rest else dropUntil stops depth rest

/-- Whether tokens start with a mark, but with none of these longer ones. -/
def startsAlone (signs : String) (longer : List String) (tokens : List Token) : Bool :=
  startsWith signs tokens && !longer.any (startsWith · tokens)

/-- Whether tokens start with the point in front of a member. -/
def startsMember (tokens : List Token) : Bool :=
  startsAlone "." [".."] tokens

/-- Whether tokens start with a word that a path may have, although it is no identifier. -/
def startsPathKeyword : List Token → Bool
  | word name :: _ => pathKeywords.contains name
  | _ => false

end Token

/-- Takes tokens from the front. -/
abbrev TokenReader := StateT (List Token) (Except Malformed)

namespace TokenReader

/-- Takes nothing that something else should stand for. -/
def refuse {α : Type} (expectation : Expectation) : TokenReader α :=
  fun tokens => .error ⟨expectation, Token.isAtEnd tokens⟩

/-- Takes the first token. -/
def advance : TokenReader Unit :=
  modify (List.drop 1)

/-- Takes a mark if it stands there, and tells whether. -/
def accept (signs : String) : TokenReader Bool := do
  match Token.behindSigns? signs.toList (← get) with
  | some rest => do
      set rest
      return true
  | none => return false

/-- Takes a mark. -/
def need (signs : String) : TokenReader Unit := do
  if !(← accept signs) then refuse (.mark signs)

/-- Takes a keyword if it stands there, and tells whether. -/
def acceptWord (name : String) : TokenReader Bool := do
  if Token.startsWithWord name (← get) then
    advance
    return true
  else return false

/-- Takes a keyword. -/
def needWord (name : String) : TokenReader Unit := do
  if !(← acceptWord name) then refuse (.keyword name)

/-- What should stand where a group should. -/
def groupExpectation : Char → Expectation
  | '(' => .parentheses
  | '[' => .brackets
  | _ => .braces

/-- Takes a group, and reads its tokens first. What is left of them does not count. -/
def within {α : Type} (sign : Char) (reader : TokenReader α) : TokenReader α := do
  if Token.startsGroup sign (← get) then
    advance
    let result ← reader
    modify (Token.behindGroup 0)
    return result
  else refuse (groupExpectation sign)

/-- Takes a group whatever is in it. -/
def skipGroup (sign : Char) : TokenReader Unit :=
  within sign (pure ())

/-- Takes a group of any kind. -/
def skipAnyGroup : TokenReader Unit := do
  match (← get).head? with
  | some (.opening sign) => skipGroup sign
  | _ => refuse .group

/-- Reads so many items at most up to the end, with commas between them; one may close them. -/
def separated {α : Type} (item : TokenReader α) : Nat → TokenReader (List α)
  | 0 => return []
  | count + 1 => do
      if Token.isAtEnd (← get) then return []
      else
        let first ← item
        if Token.isAtEnd (← get) then return [first]
        else
          need ","
          return first :: (← separated item count)

/-- Reads the items up to the end. Each takes a token. -/
def allSeparated {α : Type} (item : TokenReader α) : TokenReader (List α) := do
  separated item (← get).length

end TokenReader

end RecordQuery
