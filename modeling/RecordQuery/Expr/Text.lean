import RecordQuery.Expr.Basic

/-!
# Expressions as text

The neutral infix form: binary expressions stand in parentheses, a lambda lists its parameters
between bars, and lifting and the record itself leave no trace.
-/

namespace RecordQuery

namespace Expr

/-- Whether an expression is a constant. -/
def isConstant : Expr → Bool
  | constant .. => true
  | _ => false

/-- A call of a method, given the texts of its arguments. Membership in a constant set reads
    as a question to the set. -/
def callText (method : Method) (constantSet : Bool) : List String → String
  | [] => method.name ++ "()"
  | [subject] => subject ++ "." ++ method.name ++ "()"
  | subject :: rest =>
      let name := if method = .inSet ∧ constantSet ∧ rest.length = 1 then "contains" else method.name
      subject ++ "." ++ name ++ "(" ++ ", ".intercalate rest ++ ")"

mutual

/-- The text of an expression. -/
def toText : Expr → String
  | parameter p => p.name
  | member target m => if m.isSelf then target.toText else target.toText ++ "." ++ m.name
  | constant value _ => value.toText
  | not operand => "!" ++ operand.toText
  | lift operand => operand.toText
  | binary operator left right =>
      "(" ++ left.toText ++ " " ++ operator.symbol ++ " " ++ right.toText ++ ")"
  | call method arguments =>
      callText method (arguments.head?.any isConstant) (textAll arguments)

/-- The texts of a list of expressions. -/
def textAll : List Expr → List String
  | [] => []
  | expr :: rest => expr.toText :: textAll rest

end

end Expr

/-- The text of a lambda. -/
def Lambda.toText (lambda : Lambda) : String :=
  "|" ++ ", ".intercalate (lambda.parameters.map Parameter.name) ++ "| " ++ lambda.body.toText

end RecordQuery
