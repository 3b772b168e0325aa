import RecordQuery.Expr.Basic

/-!
# Replacement of parameters

Two lambdas built apart have different parameters, even over records of one type. Before
their bodies meet in one tree, the parameters of one are replaced by those of the other.
Replacement goes by the identity of a parameter. Trees of one connective are split into their
operands and joined again from the left.
-/

namespace RecordQuery

/-- What takes the place of a parameter, by its identity; other parameters stay. -/
abbrev Substitution := Nat → Option Expr

namespace Substitution

/-- Replaces nothing. -/
def none : Substitution := fun _ => .none

/-- Replaces one parameter, and the others as before. -/
def extend (substitution : Substitution) (id : Nat) (replacement : Expr) : Substitution :=
  fun other => if other = id then some replacement else substitution other

/-- Replaces one parameter. -/
def single (id : Nat) (replacement : Expr) : Substitution :=
  none.extend id replacement

/-- Replaces by the pairs of a list; of two pairs for one parameter the later counts. -/
def ofPairs (pairs : List (Nat × Expr)) : Substitution :=
  pairs.foldl (fun substitution pair => substitution.extend pair.1 pair.2) none

/-- Replaces parameters by those at the same positions of another list. -/
def positional (source target : List Parameter) : Substitution :=
  ofPairs ((source.map Parameter.id).zip (target.map Expr.parameter))

end Substitution

namespace Expr

mutual

/-- The expression with its parameters replaced, all at once. -/
def substitute (substitution : Substitution) : Expr → Expr
  | parameter p => (substitution p.id).getD (parameter p)
  | member target m => member (substitute substitution target) m
  | constant value type => constant value type
  | not operand => not (substitute substitution operand)
  | lift operand => lift (substitute substitution operand)
  | binary operator left right =>
      binary operator (substitute substitution left) (substitute substitution right)
  | call method arguments => call method (substituteAll substitution arguments)

/-- A list of expressions with their parameters replaced. -/
def substituteAll (substitution : Substitution) : List Expr → List Expr
  | [] => []
  | expr :: rest => substitute substitution expr :: substituteAll substitution rest

end

mutual

/-- Whether a parameter occurs in an expression. -/
def references (id : Nat) : Expr → Bool
  | parameter p => p.id == id
  | member target _ => references id target
  | constant .. => false
  | not operand => references id operand
  | lift operand => references id operand
  | binary _ left right => references id left || references id right
  | call _ arguments => anyReferences id arguments

/-- Whether a parameter occurs in one of the expressions. -/
def anyReferences (id : Nat) : List Expr → Bool
  | [] => false
  | expr :: rest => references id expr || anyReferences id rest

end

/-- The operands, from left to right, of a tree built by the given operators. -/
def split (operators : List Operator) : Expr → List Expr
  | binary operator left right =>
      if operators.contains operator then split operators left ++ split operators right
      else [binary operator left right]
  | other => [other]

/-- Joins expressions by an operator, from the left. -/
def join (operator : Operator) (first : Expr) (rest : List Expr) : Expr :=
  rest.foldl (binary operator) first

/-- Joins expressions by an operator, if there are any. -/
def join? (operator : Operator) : List Expr → Option Expr
  | [] => none
  | first :: rest => some (join operator first rest)

end Expr

end RecordQuery
