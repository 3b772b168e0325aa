import RecordQuery.Expr.Eval
import RecordQuery.Expr.Text
import RecordQuery.Sql.Basic

/-!
# SQL conditions

A predicate of one record becomes a condition on its columns, a selector a sort term. SQL
compares with three truth values, evaluation in memory with two: where a nullable column
meets `<>`, rows without a value are admitted, and where an unknown condition could reach a
negation, it is made false first. Patterns and sets have to be constants.
-/

namespace RecordQuery

/-- Why an expression has no SQL form. -/
inductive SqlError where
  /-- Only lambdas of one parameter have an SQL form. -/
  | notUnary (lambda : Lambda)
  /-- A condition has to yield a truth value. -/
  | notPredicate (lambda : Lambda)
  /-- Only the properties of the parameter are columns. -/
  | notColumn (expr : Expr)
  /-- A whole record is no column. -/
  | bareParameter (name : String)
  /-- A pattern has to be a constant text. -/
  | openPattern (expr : Expr)
  /-- A set has to be constant. -/
  | openSet (expr : Expr)
  /-- The method is called with another number of arguments. -/
  | argumentCount (method : Method) (count : Nat)
  /-- Infinite and undefined numbers have no literal. -/
  | notFinite (number : Number)
  /-- A sequence is the set of a membership test or nothing. -/
  | sequence (value : Value)

/-- What the error says after its common beginning. -/
def SqlError.reason : SqlError → String
  | notUnary lambda =>
      "only single-parameter lambdas translate, " ++ ticked lambda.toText ++ " has " ++
        Text.ofNat lambda.arity
  | notPredicate lambda => ticked lambda.toText ++ " is not a predicate"
  | notColumn expr => "member access " ++ ticked expr.toText
  | bareParameter name => "bare parameter " ++ ticked name ++ " has no column"
  | openPattern expr => "pattern " ++ ticked expr.toText ++ " is not a string constant"
  | openSet expr => "set " ++ ticked expr.toText ++ " is not a constant"
  | argumentCount method count =>
      ticked method.name ++ " with " ++ Text.ofNat count ++ " arguments"
  | notFinite number => "non-finite number " ++ number.text
  | sequence value => "sequence " ++ value.toText ++ " outside a membership test"

/-- The wording of the error. -/
def SqlError.message (error : SqlError) : String :=
  "cannot translate expression: " ++ error.reason

namespace Expr

mutual

/-- Whether an expression is a column that admits null, or the month of one. -/
def isNullableColumn : Expr → Bool
  | lift operand => isNullableColumn operand
  | member _ m => m.type.isNullable
  | call .month arguments => anyNullableColumn arguments
  | _ => false

/-- Whether one of the expressions is a nullable column. -/
def anyNullableColumn : List Expr → Bool
  | [] => false
  | expr :: rest => isNullableColumn expr || anyNullableColumn rest

end

mutual

/-- Whether the SQL form of an expression may be unknown: whether it reads a nullable member
    or parameter. -/
def mayBeUnknown : Expr → Bool
  | member _ m => m.type.isNullable
  | parameter p => p.type.isNullable
  | constant .. => false
  | not operand => mayBeUnknown operand
  | lift operand => mayBeUnknown operand
  | binary _ left right => mayBeUnknown left || mayBeUnknown right
  | call _ arguments => anyMayBeUnknown arguments

/-- Whether one of the expressions may be unknown. -/
def anyMayBeUnknown : List Expr → Bool
  | [] => false
  | expr :: rest => mayBeUnknown expr || anyMayBeUnknown rest

end

/-- Whether an expression is the constant null. -/
def isNullConstant : Expr → Bool
  | constant value _ => value.isNull
  | lift operand => isNullConstant operand
  | _ => false

end Expr

namespace Sql

/-- The literal of a constant. -/
def ofValue : Value → Except SqlError Sql
  | .null => .ok null
  | .text value => .ok (text value)
  | .bool value => .ok (truth value)
  | .number value => if value.isFinite then .ok (number value) else .error (.notFinite value)
  | .date value => .ok (date value)
  | .ints values => .error (.sequence (.ints values))
  | .texts values => .error (.sequence (.texts values))

/-- A condition that also admits rows where a nullable side has no value. -/
def orNull (nullable : Bool) (condition side : Sql) : Sql :=
  if nullable then or condition (isNull side) else condition

/-- The negation of a condition; one that may be unknown counts as false first. -/
def negation (mayBeUnknown : Bool) (condition : Sql) : Sql :=
  not (group (if mayBeUnknown then orFalse condition else condition))

/-- Where the text of a text test has to lie. -/
def anchorOf : Method → SqlAnchor
  | .startsWith => .atStart
  | .endsWith => .atEnd
  | _ => .anywhere

/-- The text of a pattern. -/
def patternText : Expr → Except SqlError String
  | .constant (.text value) _ => .ok value
  | other => .error (.openPattern other)

/-- The members of a set. -/
def membersOf : Expr → Except SqlError SqlMembers
  | .constant (.ints values) _ => .ok (.ints values)
  | .constant (.texts values) _ => .ok (.texts values)
  | other => .error (.openSet other)

/-- A binary condition on the SQL forms of its sides, in parentheses. -/
def binaryCondition (operator : Operator) (left right : Expr) (leftSql rightSql : Sql) : Sql :=
  match operator with
  | .and => group (and leftSql rightSql)
  | .or => group (or leftSql rightSql)
  | .relation .ne =>
      group (orNull right.isNullableColumn
        (orNull left.isNullableColumn (compare .ne leftSql rightSql) leftSql) rightSql)
  | .relation relation => group (compare relation leftSql rightSql)

/-- The null test that an equality with the constant null comes to. -/
def nullTest? : Operator → Option (Sql → Sql)
  | .relation .eq => some fun side => group (isNull side)
  | .relation .ne => some fun side => group (isNotNull side)
  | _ => none

mutual

/-- The SQL form of an expression. -/
def ofExpr : Expr → Except SqlError Sql
  | .member (.parameter p) m =>
      if m.isSelf then .error (.notColumn (.member (.parameter p) m)) else .ok (column m.name)
  | .member target m => .error (.notColumn (.member target m))
  | .parameter p => .error (.bareParameter p.name)
  | .constant value _ => ofValue value
  | .lift operand => ofExpr operand
  | .not operand => do return negation operand.mayBeUnknown (← ofExpr operand)
  | .binary operator left right =>
      match nullTest? operator with
      | some test =>
          if right.isNullConstant then do return test (← ofExpr left)
          else if left.isNullConstant then do return test (← ofExpr right)
          else do
            let leftSql ← ofExpr left
            return binaryCondition operator left right leftSql (← ofExpr right)
      | none => do
          let leftSql ← ofExpr left
          return binaryCondition operator left right leftSql (← ofExpr right)
  | .call .month arguments => ofMonth arguments
  | .call .inSet arguments => ofInSet arguments
  | .call method arguments => ofTextTest method arguments

/-- The SQL form of a month. -/
def ofMonth : List Expr → Except SqlError Sql
  | [subject] => do return month (← ofExpr subject)
  | arguments => .error (.argumentCount .month arguments.length)

/-- The SQL form of a membership test. Nothing is in the empty set. -/
def ofInSet : List Expr → Except SqlError Sql
  | [set, item] => do
      let members ← membersOf set
      if members.isEmpty then return truth false
      else return group (within (← ofExpr item) members)
  | arguments => .error (.argumentCount .inSet arguments.length)

/-- The SQL form of a text test. -/
def ofTextTest (method : Method) : List Expr → Except SqlError Sql
  | [subject, constant] => do
      let content ← patternText constant
      return group (like (← ofExpr subject) (anchorOf method) content)
  | arguments => .error (.argumentCount method arguments.length)

end

end Sql

namespace Lambda

/-- Refuses lambdas of other than one parameter. -/
def checkUnary (lambda : Lambda) : Except SqlError Unit :=
  if lambda.arity = 1 then .ok () else .error (.notUnary lambda)

/-- The condition that a predicate of one record comes to. -/
def toCondition (lambda : Lambda) : Except SqlError Sql := do
  lambda.checkUnary
  if lambda.isPredicate then Sql.ofExpr lambda.body else .error (.notPredicate lambda)

/-- The sort term that a selector comes to. -/
def toSortTerm (lambda : Lambda) : Except SqlError Sql := do
  lambda.checkUnary
  Sql.ofExpr lambda.body

end Lambda

end RecordQuery
