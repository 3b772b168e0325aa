import RecordQuery.Text.Ticked

/-!
# Malformed attributes

Where an attribute has no content, or one that is no list of entries, the error says what should
stand there, and that nothing does if so. Where one mark should stand, or the content itself, it
does not say the latter.
-/

namespace RecordQuery

/-- What should stand somewhere in an attribute. -/
inductive Expectation where
  /-- A mark of one or more signs. -/
  | mark (signs : String)
  /-- A keyword. -/
  | keyword (name : String)
  | identifier
  /-- An identifier in place of a keyword. -/
  | noKeyword (name : String)
  | expression
  /-- The name or the number of a member. -/
  | member
  /-- The rest of a path. -/
  | segment
  | type
  | pattern
  /-- An end of a range of patterns. -/
  | rangeBound
  /-- The upper end of a range of patterns that includes it. -/
  | upperBound
  | parentheses
  | braces
  | brackets
  /-- A group of any kind. -/
  | group
  /-- A separator of items in brackets. -/
  | itemSeparator
  /-- The marks between the ends of a range. -/
  | rangeMark
  /-- What may follow a label. -/
  | labelled
  /-- What may follow the first branch of a choice. -/
  | branch
  /-- What kind of pointer a type is. -/
  | pointee
  /-- No second comparison beside the first. -/
  | unchained
  /-- No such part behind a cast. -/
  | nothingBehindCast (part : String)
  /-- No attribute for a value. -/
  | noAttribute
  /-- No attribute for a range that has no start. -/
  | plainRange
  /-- Parentheses around what a label that follows a jump stands for. -/
  | labelInParentheses
  /-- The end of a statement. -/
  | statementEnd
  /-- A content behind the path of an attribute, where nothing stands. -/
  | attributeContent (path : String)
  /-- A content behind the path of an attribute, in place of a value. -/
  | attributeParentheses (path : String)
  deriving DecidableEq, Repr

namespace Expectation

/-- Alternatives, separated by commas. -/
def oneOf (alternatives : List String) : String :=
  "expected one of: " ++ ", ".intercalate alternatives

/-- The wording of an expectation. -/
def message : Expectation → String
  | mark signs => "expected " ++ ticked signs
  | keyword name => "expected " ++ ticked name
  | identifier => "expected identifier"
  | noKeyword name => "expected identifier, found keyword " ++ ticked name
  | expression => "expected an expression"
  | member => "expected identifier or integer"
  | segment => "expected path segment after " ++ ticked "::"
  | type =>
      oneOf [ticked "for", "parentheses", ticked "fn", ticked "unsafe", ticked "extern",
        "identifier", ticked "::", ticked "<", ticked "dyn", "square brackets", ticked "*",
        ticked "&", ticked "!", ticked "impl", ticked "_", "lifetime"]
  | pattern =>
      oneOf ["identifier", ticked "::", ticked "<", ticked "_", "literal", ticked "const",
        ticked "ref", ticked "mut", ticked "&", "parentheses", "square brackets", ticked ".."]
  | rangeBound =>
      oneOf ["literal", "identifier", ticked "::", ticked "<", ticked "self", ticked "Self",
        ticked "super", ticked "crate", ticked "const"]
  | upperBound => "expected range upper bound"
  | parentheses => "expected parentheses"
  | braces => "expected curly braces"
  | brackets => "expected square brackets"
  | group => "expected delimiter"
  | itemSeparator => "expected " ++ ticked "," ++ " or " ++ ticked ";"
  | rangeMark => "expected " ++ ticked ".." ++ " or " ++ ticked "..="
  | labelled => "expected loop or block expression"
  | branch => "expected " ++ ticked "if" ++ " or curly braces"
  | pointee => "expected " ++ ticked "const" ++ " or " ++ ticked "mut"
  | unchained => "comparison operators cannot be chained"
  | nothingBehindCast part => "casts cannot be followed by " ++ part
  | noAttribute => "unexpected attribute inside of attribute"
  | plainRange =>
      "attributes are not allowed on range expressions starting with " ++ ticked ".."
  | labelInParentheses => "parentheses required"
  | statementEnd => "unexpected token, expected " ++ ticked ";"
  | attributeContent path =>
      "expected attribute arguments in parentheses: #[" ++ path ++ "(...)]"
  | attributeParentheses path => "expected parentheses: #[" ++ path ++ "(...)]"

/-- Whether the wording may say that the content ends. -/
def tellsEnd : Expectation → Bool
  | mark _ | plainRange | labelInParentheses | attributeContent _ | attributeParentheses _ => false
  | _ => true

end Expectation

/-- Why an attribute is no list of entries. -/
structure Malformed where
  /-- What should stand there. -/
  expectation : Expectation
  /-- Whether nothing stands there. -/
  atEnd : Bool
  deriving DecidableEq, Repr

/-- The wording of the error. -/
def Malformed.message (error : Malformed) : String :=
  (if error.atEnd && error.expectation.tellsEnd then "unexpected end of input, " else "") ++
    error.expectation.message

end RecordQuery
