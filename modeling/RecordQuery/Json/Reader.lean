import RecordQuery.Json.Basic

/-!
# Reading JSON

The reader accepts the standard grammar and nothing more: no leading zeros, no trailing
commas, no raw control characters in strings, and only blanks after the value. Every step
consumes text, so the length of the text bounds the steps.
-/

namespace RecordQuery.Json

/-- The four blanks of the grammar. -/
def isSpace (c : Char) : Bool :=
  c == ' ' || c == '\n' || c == '\t' || c == '\r'

/-- The text without the blanks in front. -/
def skipSpace (text : List Char) : List Char :=
  text.dropWhile isSpace

/-- The value of a hexadecimal digit. -/
def hexValue? (c : Char) : Option Nat :=
  if '0' ≤ c ∧ c ≤ '9' then some (c.toNat - 48)
  else if 'a' ≤ c ∧ c ≤ 'f' then some (c.toNat - 87)
  else if 'A' ≤ c ∧ c ≤ 'F' then some (c.toNat - 55)
  else none

/-- Reads four hexadecimal digits. -/
def readHex? : List Char → Option (Nat × List Char)
  | a :: b :: c :: d :: rest => do
      let a ← hexValue? a
      let b ← hexValue? b
      let c ← hexValue? c
      let d ← hexValue? d
      pure (((a * 16 + b) * 16 + c) * 16 + d, rest)
  | _ => none

/-- One unit of a string: a character, or a code unit written by its number. -/
inductive Unit16 where
  | char (c : Char)
  | code (unit : Nat)
  deriving DecidableEq, Repr

/-- The character of a one-letter escape. -/
def escaped? : Char → Option Char
  | '"' => some '"'
  | '\\' => some '\\'
  | '/' => some '/'
  | 'b' => some '\x08'
  | 'f' => some '\x0c'
  | 'n' => some '\n'
  | 'r' => some '\r'
  | 't' => some '\t'
  | _ => none

/-- Reads the units of a string up to its closing quote. -/
def readUnits? : Nat → List Char → Option (List Unit16 × List Char)
  | 0, _ => none
  | _ + 1, [] => none
  | _ + 1, '"' :: rest => some ([], rest)
  | fuel + 1, '\\' :: 'u' :: rest => do
      let (unit, rest) ← readHex? rest
      let (units, rest) ← readUnits? fuel rest
      pure (.code unit :: units, rest)
  | fuel + 1, '\\' :: letter :: rest => do
      let c ← escaped? letter
      let (units, rest) ← readUnits? fuel rest
      pure (.char c :: units, rest)
  | fuel + 1, c :: rest =>
      if c.toNat < 32 ∨ c = '\\' then none
      else do
        let (units, rest) ← readUnits? fuel rest
        pure (.char c :: units, rest)

/-- The characters of the units: surrogates must come in pairs. -/
def content? : List Unit16 → Option (List Char)
  | [] => some []
  | .char c :: rest => (content? rest).map (c :: ·)
  | .code high :: .code low :: rest =>
      if 0xD800 ≤ high ∧ high < 0xDC00 then
        if 0xDC00 ≤ low ∧ low < 0xE000 then
          (content? rest).map
            (Char.ofNat (0x10000 + (high - 0xD800) * 0x400 + (low - 0xDC00)) :: ·)
        else none
      else if 0xDC00 ≤ high ∧ high < 0xE000 then none
      else (content? (.code low :: rest)).map (Char.ofNat high :: ·)
  | .code unit :: rest =>
      if 0xD800 ≤ unit ∧ unit < 0xE000 then none
      else (content? rest).map (Char.ofNat unit :: ·)

/-- Reads a string after its opening quote. -/
def readString? (text : List Char) : Option (Option String × List Char) := do
  let (units, rest) ← readUnits? (text.length + 1) text
  pure ((content? units).map String.ofList, rest)

/-- The digits in front of a text, as digits and rest. -/
def digitRun (text : List Char) : List Char × List Char :=
  text.span fun c => (Text.digitValue? c).isSome

/-- The digits before the point: a single zero, or digits that start with another one. -/
def readWhole? (text : List Char) : Option (List Char × List Char) :=
  match digitRun text with
  | (['0'], rest) => some (['0'], rest)
  | ('0' :: _, _) => none
  | ([], _) => none
  | (digits, rest) => some (digits, rest)

/-- An optional point with at least one digit behind it. -/
def readPoint? : List Char → Option (Option (List Char) × List Char)
  | '.' :: text =>
      match digitRun text with
      | ([], _) => none
      | (digits, rest) => some (some digits, rest)
  | text => some (none, text)

/-- The digits of an exponent, with the sign before them. -/
def readPower? (negative : Bool) (text : List Char) : Option (Option Int × List Char) :=
  match digitRun text with
  | ([], _) => none
  | (digits, rest) =>
      let size : Int := (Text.readNat? digits).getD 0
      some (some (if negative then -size else size), rest)

/-- An optional exponent: a letter, a sign at most, and at least one digit. -/
def readExponent? : List Char → Option (Option Int × List Char)
  | [] => some (none, [])
  | letter :: text =>
      if letter = 'e' ∨ letter = 'E' then
        match text with
        | '-' :: digits => readPower? true digits
        | '+' :: digits => readPower? false digits
        | digits => readPower? false digits
      else some (none, letter :: text)

/-- Reads a number after its sign. -/
def readNumeral? (negative : Bool) (text : List Char) : Option (Numeral × List Char) := do
  let (whole, rest) ← readWhole? text
  let (fraction, rest) ← readPoint? rest
  let (exponent, rest) ← readExponent? rest
  pure (⟨negative, whole, fraction.getD [], exponent.getD 0, fraction.isNone && exponent.isNone⟩,
    rest)

mutual

/-- Reads a value, after blanks. -/
def readValue? : Nat → List Char → Option (Json × List Char)
  | 0, _ => none
  | fuel + 1, text =>
      match skipSpace text with
      | 'n' :: 'u' :: 'l' :: 'l' :: rest => some (.null, rest)
      | 't' :: 'r' :: 'u' :: 'e' :: rest => some (.bool true, rest)
      | 'f' :: 'a' :: 'l' :: 's' :: 'e' :: rest => some (.bool false, rest)
      | '"' :: rest => (readString? rest).map fun (content, rest) => (.string content, rest)
      | '-' :: rest =>
          (readNumeral? true rest).map fun (numeral, rest) => (.number numeral, rest)
      | '[' :: rest =>
          match skipSpace rest with
          | ']' :: rest => some (.array [], rest)
          | rest => (readItems? fuel rest).map fun (items, rest) => (.array items, rest)
      | '\x7b' :: rest =>
          match skipSpace rest with
          | '\x7d' :: rest => some (.object [], rest)
          | rest => (readMembers? fuel rest).map fun (members, rest) => (.object members, rest)
      | text => (readNumeral? false text).map fun (numeral, rest) => (.number numeral, rest)

/-- Reads the items of an array up to its closing bracket. -/
def readItems? : Nat → List Char → Option (List Json × List Char)
  | 0, _ => none
  | fuel + 1, text => do
      let (item, rest) ← readValue? fuel text
      match skipSpace rest with
      | ']' :: rest => pure ([item], rest)
      | ',' :: rest => do
          let (items, rest) ← readItems? fuel rest
          pure (item :: items, rest)
      | _ => none

/-- Reads the members of an object up to its closing brace. -/
def readMembers? : Nat → List Char → Option (List (Option String × Json) × List Char)
  | 0, _ => none
  | fuel + 1, text =>
      match skipSpace text with
      | '"' :: rest => do
          let (name, rest) ← readString? rest
          match skipSpace rest with
          | ':' :: rest => do
              let (value, rest) ← readValue? fuel rest
              match skipSpace rest with
              | '\x7d' :: rest => pure ([(name, value)], rest)
              | ',' :: rest => do
                  let (members, rest) ← readMembers? fuel rest
                  pure ((name, value) :: members, rest)
              | _ => none
          | _ => none
      | _ => none

end

/-- Reads a text that is one value. -/
def read? (text : List Char) : Option Json := do
  let (value, rest) ← readValue? (2 * text.length + 2) text
  if (skipSpace rest).isEmpty then some value else none

end RecordQuery.Json
