import RecordQuery.Declaration.TokenReader

/-!
# Precedence

An operator between two operands binds as tightly as its precedence says; so do the words and
marks of assignments, ranges and casts.
-/

namespace RecordQuery

/-- How tightly an operator binds, from the loosest. -/
inductive Precedence where
  | loosest
  | assignment
  | range
  | or
  | and
  | comparison
  | bitOr
  | bitXor
  | bitAnd
  | shift
  | sum
  | product
  | cast
  deriving DecidableEq, Repr

namespace Precedence

/-- The place of a precedence among all of them. -/
def level : Precedence → Nat
  | loosest => 0
  | assignment => 1
  | range => 2
  | or => 3
  | and => 4
  | comparison => 5
  | bitOr => 6
  | bitXor => 7
  | bitAnd => 8
  | shift => 9
  | sum => 10
  | product => 11
  | cast => 12

/-- The operators between two operands. An operator comes before its beginnings. -/
def operators : List (String × Precedence) :=
  [("<<=", assignment), (">>=", assignment), ("+=", assignment), ("-=", assignment),
    ("*=", assignment), ("/=", assignment), ("%=", assignment), ("^=", assignment),
    ("&=", assignment), ("|=", assignment), ("&&", and), ("||", or), ("<<", shift),
    (">>", shift), ("==", comparison), ("<=", comparison), ("!=", comparison),
    (">=", comparison), ("+", sum), ("-", sum), ("*", product), ("/", product), ("%", product),
    ("^", bitXor), ("&", bitAnd), ("|", bitOr), ("<", comparison), (">", comparison)]

/-- The operator that tokens start with. -/
def operator? (tokens : List Token) : Option (String × Precedence) :=
  operators.find? fun operator => Token.startsWith operator.1 tokens

/-- Whether tokens start with the mark of an assignment. -/
def startsAssignment (tokens : List Token) : Bool :=
  Token.startsAlone "=" ["=>"] tokens

/-- How tightly what tokens start with binds to an operand in front of them. -/
def ofTokens (tokens : List Token) : Precedence :=
  match operator? tokens with
  | some operator => operator.2
  | none =>
      if startsAssignment tokens then assignment
      else if Token.startsWith ".." tokens then range
      else if Token.startsWithWord "as" tokens then cast
      else loosest

end Precedence

end RecordQuery
