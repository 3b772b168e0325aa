import RecordQuery.Comparison
import RecordQuery.Record.Basic

/-!
# Expressions

Predicates and sort keys are trees, so that they can be combined, changed and inspected
before they run. A tree is evaluated in memory or written out as SQL. Parameters have an
identity of their own: two of the same name are still different.
-/

namespace RecordQuery

/-- A placeholder, bound when a lambda is called. -/
structure Parameter where
  /-- What tells parameters apart. -/
  id : Nat
  name : String
  type : DataType
  deriving DecidableEq, Repr

/-- The operators between two expressions. -/
inductive Operator where
  | relation (relation : Relation)
  /-- Conjunction; the right side counts only if the left holds. -/
  | and
  /-- Disjunction; the right side counts only if the left fails. -/
  | or
  deriving DecidableEq, Repr

namespace Relation

/-- The symbol of a relation. -/
def symbol : Relation → String
  | eq => "=="
  | ne => "!="
  | lt => "<"
  | le => "<="
  | gt => ">"
  | ge => ">="

/-- The word for a relation. -/
def word : Relation → String
  | eq => "eq"
  | ne => "ne"
  | lt => "lt"
  | le => "le"
  | gt => "gt"
  | ge => "ge"

end Relation

namespace Operator

/-- The symbol of an operator. -/
def symbol : Operator → String
  | relation r => r.symbol
  | and => "&&"
  | or => "||"

/-- The word for an operator. -/
def word : Operator → String
  | relation r => r.word
  | and => "and"
  | or => "or"

/-- All operators. -/
def all : List Operator :=
  [relation .eq, relation .ne, relation .lt, relation .le, relation .gt, relation .ge, and, or]

/-- The operator for a word. -/
def ofWord? (word : String) : Option Operator :=
  all.find? fun operator => operator.word == word

end Operator

/-- The methods that an expression can call. -/
inductive Method where
  /-- Whether the first text has the second inside. -/
  | contains
  /-- Whether the first text starts with the second. -/
  | startsWith
  /-- Whether the first text ends with the second. -/
  | endsWith
  /-- The month of a date, from 1 to 12. -/
  | month
  /-- Whether the first sequence has the second value as an item. -/
  | inSet
  deriving DecidableEq, Repr

namespace Method

/-- The number of arguments. -/
def arity : Method → Nat
  | month => 1
  | _ => 2

/-- The name of a method. -/
def name : Method → String
  | contains => "contains"
  | startsWith => "starts_with"
  | endsWith => "ends_with"
  | month => "month"
  | inSet => "in_set"

/-- All methods. -/
def all : List Method :=
  [contains, startsWith, endsWith, month, inSet]

/-- The method with a name. -/
def ofName? (name : String) : Option Method :=
  all.find? fun method => method.name == name

/-- Whether the method tests a text. -/
def isTextTest : Method → Bool
  | contains | startsWith | endsWith => true
  | _ => false

end Method

/-- An expression. -/
inductive Expr where
  | parameter (parameter : Parameter)
  /-- A member read from a record. -/
  | member (target : Expr) (member : Member)
  | constant (value : Value) (type : DataType)
  | not (operand : Expr)
  /-- The operand, typed to admit null. -/
  | lift (operand : Expr)
  | binary (operator : Operator) (left right : Expr)
  | call (method : Method) (arguments : List Expr)

namespace Expr

/-- A constant of the type of its value; null counts as a nullable text. -/
def ofValue (value : Value) : Expr :=
  constant value (value.type?.getD (.nullable .text))

/-- The type of the months of dates: nullable when the dates are. -/
def monthType (nullable : Bool) : DataType :=
  let month := DataType.number (.integer .i32)
  if nullable then .nullable month else month

mutual

/-- The static type of an expression. -/
def type : Expr → DataType
  | parameter p => p.type
  | member _ m => m.type
  | constant _ valueType => valueType
  | not _ => .bool
  | lift operand => operand.type.toNullable
  | binary .. => .bool
  | call .month arguments => monthType (headNullable arguments)
  | call .. => .bool

/-- Whether the first argument admits null. -/
def headNullable : List Expr → Bool
  | [] => false
  | argument :: _ => argument.type.isNullable

end

/-- Whether an expression yields a truth value. -/
def isBool (expr : Expr) : Bool :=
  expr.type.isBool

/-- Two operands whose types differ only in that one admits null: the other is lifted. All
    other operands stay as they are. -/
def unify (left right : Expr) : Expr × Expr :=
  if left.type.base ≠ right.type.base then (left, right)
  else
    match left.type.isNullable, right.type.isNullable with
    | false, true => (lift left, right)
    | true, false => (left, lift right)
    | _, _ => (left, right)

/-- A relation between two operands after their types are unified. -/
def relate (relation : Relation) (left right : Expr) : Expr :=
  let operands := unify left right
  binary (.relation relation) operands.1 operands.2

/-- Whether two constants hold the same value. -/
def sameValue : Value → Value → Bool
  | .number left, .number right => left.kind == right.kind && left.compare? right == some .eq
  | left, right => left == right

mutual

/-- Whether two expressions are built alike, with the same parameters and members. Numbers
    are the same when they have one kind and are equal. -/
def same : Expr → Expr → Bool
  | parameter left, parameter right => left == right
  | member leftTarget left, member rightTarget right =>
      same leftTarget rightTarget && left.same right
  | constant left leftType, constant right rightType =>
      sameValue left right && leftType == rightType
  | not left, not right => same left right
  | lift left, lift right => same left right
  | binary leftOperator left right, binary rightOperator left' right' =>
      leftOperator == rightOperator && same left left' && same right right'
  | call left leftArguments, call right rightArguments =>
      left == right && sameAll leftArguments rightArguments
  | _, _ => false

/-- Whether two lists of expressions are the same, item by item. -/
def sameAll : List Expr → List Expr → Bool
  | [], [] => true
  | left :: lefts, right :: rights => same left right && sameAll lefts rights
  | _, _ => false

end

end Expr

/-- A parameter list and a body. -/
structure Lambda where
  parameters : List Parameter
  body : Expr

namespace Lambda

/-- The number of parameters. -/
def arity (lambda : Lambda) : Nat :=
  lambda.parameters.length

/-- The static type of the body. -/
def type (lambda : Lambda) : DataType :=
  lambda.body.type

/-- Whether the body yields a truth value. -/
def isPredicate (lambda : Lambda) : Bool :=
  lambda.body.isBool

end Lambda

end RecordQuery
