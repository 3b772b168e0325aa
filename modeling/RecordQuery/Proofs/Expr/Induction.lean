import RecordQuery.Expr.Basic
import Mathlib.Data.List.Basic

/-!
# Induction on expressions

The arguments of a call are a list of expressions, so the induction of the data type has a
second statement, about lists. Here both are one: a property of all arguments of a call
carries over to the call. The parts of an expression are itself and the parts of its operands.
-/

namespace RecordQuery.Expr

/-- A property that every node takes over from its operands holds of all expressions. Lean's own
    induction for this nested type speaks of lists of arguments beside expressions; here these are
    spoken of by their members. -/
@[elab_as_elim, induction_eliminator]
theorem induct {motive : Expr → Prop}
    (parameter : ∀ p, motive (.parameter p))
    (member : ∀ target m, motive target → motive (.member target m))
    (constant : ∀ value type, motive (.constant value type))
    (not : ∀ operand, motive operand → motive (.not operand))
    (lift : ∀ operand, motive operand → motive (.lift operand))
    (binary : ∀ operator left right, motive left → motive right →
      motive (.binary operator left right))
    (call : ∀ method arguments, (∀ argument ∈ arguments, motive argument) →
      motive (.call method arguments))
    (expr : Expr) : motive expr := by
  refine Expr.rec (motive_1 := motive)
    (motive_2 := fun arguments => ∀ argument ∈ arguments, motive argument)
    parameter member constant not lift binary call ?_ ?_ expr
  · intro argument member
    cases member
  · intro first rest holdsFirst holdsRest argument member
    rcases List.mem_cons.mp member with rfl | inRest
    · exact holdsFirst
    · exact holdsRest argument inRest

mutual

/-- The expression itself and the parts of its operands. Every proof goes by membership, so neither
    their order nor how often they occur is of account. -/
def parts : Expr → List Expr
  | parameter p => [parameter p]
  | member target m => member target m :: parts target
  | constant value type => [constant value type]
  | not operand => not operand :: parts operand
  | lift operand => lift operand :: parts operand
  | binary operator left right => binary operator left right :: (parts left ++ parts right)
  | call method arguments => call method arguments :: partsOfAll arguments

/-- The parts of a list of expressions. -/
def partsOfAll : List Expr → List Expr
  | [] => []
  | expr :: rest => parts expr ++ partsOfAll rest

end

/-- Every expression is a part of itself. -/
theorem self_mem_parts (expr : Expr) : expr ∈ expr.parts := by
  cases expr <;> simp [parts]

/-- The parts of an argument are parts of the call. It turns a hypothesis on the parts of a call
    into one on each argument. -/
theorem parts_subset_partsOfAll {arguments : List Expr} {argument : Expr}
    (member : argument ∈ arguments) : argument.parts ⊆ partsOfAll arguments := by
  induction arguments with
  | nil => cases member
  | cons first rest inductionHypothesis =>
    rw [partsOfAll]
    rcases List.mem_cons.mp member with rfl | inRest
    · exact List.subset_append_left _ _
    · exact List.Subset.trans (inductionHypothesis inRest) (List.subset_append_right _ _)

end RecordQuery.Expr
