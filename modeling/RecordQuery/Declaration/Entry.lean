import RecordQuery.Declaration.Basic
import RecordQuery.Declaration.TokenReader

/-!
# Entries of attributes

An entry is a path, alone, with a value or with a group of its own. The value is an expression,
which is read by a reader that is given.
-/

namespace RecordQuery

namespace AttributeEntry

open TokenReader

/-- Takes the segments of the path of an entry behind those that were taken, so many at most. -/
def pathSegments (taken : String) : Nat → TokenReader String
  | 0 => return taken
  | count + 1 => do
      let tokens ← get
      match tokens.head? with
      | some (.word name) =>
          if Token.startsPathKeyword tokens || Token.startsIdentifier tokens then
            advance
            if ← accept "::" then pathSegments (taken ++ name ++ "::") count
            else return taken ++ name
          else return taken
      | _ => return taken

/-- Refuses a path that has no segments, or whose last one is missing. -/
def checkPath (leading path : String) : TokenReader Unit := do
  if path == leading then
    match (← get).head? with
    | some (.word name) => refuse (.noKeyword name)
    | _ => refuse .identifier
  else if path.toList.getLast? == some ':' then refuse .segment

/-- Takes a path without arguments, as it is written without gaps. -/
def plainPath : TokenReader String := do
  let leading := if ← accept "::" then "::" else ""
  let path ← pathSegments leading (← get).length
  checkPath leading path
  return path

/-- Takes the path of an entry. -/
def takePath : TokenReader String := do
  if ← acceptWord "unsafe" then return "unsafe"
  else plainPath

/-- Takes the value of an entry. An attribute in front of it is refused. -/
def takeValue (value : TokenReader AssignedValue) : TokenReader AssignedValue := do
  let tokens ← get
  if Token.startsWith "#" tokens && Token.startsGroup '[' (tokens.drop 1) then refuse .noAttribute
  else value

/-- Takes an entry. -/
def take (value : TokenReader AssignedValue) : TokenReader AttributeEntry := do
  let path ← takePath
  match (← get).head? with
  | some (.opening sign) => do
      skipGroup sign
      return .group path
  | _ =>
      if ← accept "=" then return .assignment path (← takeValue value)
      else return .word path

end AttributeEntry

end RecordQuery
