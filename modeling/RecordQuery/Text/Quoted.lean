import RecordQuery.Text.Printable

/-!
# Quoted text

Quoted text stands between double quotes. Quotes, backslashes and the usual control
characters are escaped by a backslash and a letter; characters that do not show as
themselves, or that would attach to the character before them, are written by their
hexadecimal code point in braces.
-/

namespace RecordQuery.Text

/-- A code point in small hexadecimal digits. -/
def hexDigits (code : Nat) : List Char :=
  Nat.toDigits 16 code

/-- The escape of a character by its code point. -/
def codePointEscape (c : Char) : List Char :=
  ['\\', 'u', '\x7b'] ++ hexDigits c.toNat ++ ['\x7d']

/-- A character as it stands inside double quotes. -/
def escapeChar (c : Char) : List Char :=
  match c with
  | '"' => ['\\', '"']
  | '\\' => ['\\', '\\']
  | '\n' => ['\\', 'n']
  | '\r' => ['\\', 'r']
  | '\t' => ['\\', 't']
  | '\x00' => ['\\', '0']
  | c => if isPrintable c && !isExtender c then [c] else codePointEscape c

/-- A string between double quotes, with its unprintable characters escaped. -/
def quoted (text : String) : String :=
  String.ofList (['"'] ++ text.toList.flatMap escapeChar ++ ['"'])

end RecordQuery.Text
