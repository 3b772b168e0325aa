/-!
# Blank characters

Blank means the White_Space property, of every script. Trimming removes blanks at both
ends and none inside.
-/

namespace RecordQuery.Text

/-- The characters with the White_Space property. -/
def isBlank (c : Char) : Bool :=
  let code := c.toNat
  (9 ≤ code && code ≤ 13) || code == 0x20 || code == 0x85 || code == 0xA0 ||
    code == 0x1680 || (0x2000 ≤ code && code ≤ 0x200A) || code == 0x2028 ||
    code == 0x2029 || code == 0x202F || code == 0x205F || code == 0x3000

/-- Removes blanks from the end. -/
def trimRight (text : List Char) : List Char :=
  (text.reverse.dropWhile isBlank).reverse

/-- Removes blanks from both ends. -/
def trimChars (text : List Char) : List Char :=
  trimRight (text.dropWhile isBlank)

/-- Removes blanks from both ends of a string. -/
def trim (text : String) : String :=
  String.ofList (trimChars text.toList)

/-- A text of blanks only, or of nothing. -/
def isBlankText (text : String) : Bool :=
  text.toList.all isBlank

/-- The trimmed text, unless nothing is left of it. -/
def nonBlank? (text : String) : Option String :=
  let trimmed := trim text
  if trimmed.isEmpty then none else some trimmed

end RecordQuery.Text
