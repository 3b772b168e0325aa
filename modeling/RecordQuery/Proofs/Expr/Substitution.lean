import RecordQuery.Expr.Eval
import RecordQuery.Expr.Replacement
import RecordQuery.Proofs.Expr.Induction

/-!
# Evaluation after replacement

Replacing parameters changes nothing about an expression if what takes the place of each parameter
stands for what the parameter stood for, even where it stood for nothing. Replacing a parameter by
itself does not change the expression at all.
-/

namespace RecordQuery.Expr

attribute [local simp] eval evalAll substitute substituteAll

/-- As many arguments are replaced as there are. -/
theorem length_substituteAll (substitution : Substitution) (arguments : List Expr) :
    (substituteAll substitution arguments).length = arguments.length := by
  induction arguments with
  | nil => rfl
  | cons argument rest inductionHypothesis => simp [inductionHypothesis]

/-- Arguments that each have one value before and after replacement do so as a list. The first error
    is then the same one too. -/
theorem evalAll_substituteAll {substitution : Substitution} {inner outer : Scope}
    {arguments : List Expr} (same : ∀ argument ∈ arguments,
      (argument.substitute substitution).eval outer = argument.eval inner) :
    evalAll outer (substituteAll substitution arguments) = evalAll inner arguments := by
  induction arguments with
  | nil => rfl
  | cons argument rest inductionHypothesis =>
    have first := same argument List.mem_cons_self
    have others := inductionHypothesis fun other member =>
      same other (List.mem_cons_of_mem argument member)
    simp only [substituteAll, evalAll, first, others]

/-- An expression with its parameters replaced stands in the outer scope for what it stands for in
    the inner one, if this holds of what takes the place of each parameter that occurs. All results
    on application, composition and renaming are instances of this one, with scopes of their own.

    Proof: induction on the expression. Every node evaluates its operands in the scope that it is
    evaluated in, so the hypothesis on the parameters passes down unchanged. -/
theorem eval_substitute {substitution : Substitution} {inner outer : Scope} (expr : Expr)
    (stands : ∀ p, parameter p ∈ expr.parts →
      ((substitution p.id).getD (.parameter p)).eval outer = (parameter p).eval inner) :
    (expr.substitute substitution).eval outer = expr.eval inner := by
  induction expr with
  | parameter p => exact stands p (self_mem_parts _)
  | member target m inductionHypothesis =>
    have same := inductionHypothesis fun p occurs => stands p (by simp [parts, occurs])
    simp only [substitute, eval, same]
  | constant value type => rfl
  | not operand inductionHypothesis =>
    have same := inductionHypothesis fun p occurs => stands p (by simp [parts, occurs])
    simp only [substitute, eval, same]
  | lift operand inductionHypothesis =>
    exact inductionHypothesis fun p occurs => stands p (by simp [parts, occurs])
  | binary operator left right leftHypothesis rightHypothesis =>
    have first := leftHypothesis fun p occurs => stands p (by simp [parts, occurs])
    have second := rightHypothesis fun p occurs => stands p (by simp [parts, occurs])
    cases operator <;> simp only [substitute, eval, first, second]
  | call method arguments inductionHypothesis =>
    have same (argument : Expr) (member : argument ∈ arguments) :=
      inductionHypothesis argument member fun p occurs => stands p
        (List.mem_cons_of_mem _ (parts_subset_partsOfAll member occurs))
    simp only [substitute, eval, length_substituteAll, evalAll_substituteAll same]

/-- Replacing the parameters of an expression by themselves changes nothing. What is given for
    parameters that do not occur makes no difference. -/
theorem substitute_self {substitution : Substitution} (expr : Expr)
    (stays : ∀ p, parameter p ∈ expr.parts →
      (substitution p.id).getD (.parameter p) = .parameter p) :
    expr.substitute substitution = expr := by
  induction expr with
  | parameter p => exact stays p (self_mem_parts _)
  | member target m inductionHypothesis =>
    have same := inductionHypothesis fun p occurs => stays p (by simp [parts, occurs])
    rw [substitute, same]
  | constant value type => rfl
  | not operand inductionHypothesis =>
    have same := inductionHypothesis fun p occurs => stays p (by simp [parts, occurs])
    rw [substitute, same]
  | lift operand inductionHypothesis =>
    have same := inductionHypothesis fun p occurs => stays p (by simp [parts, occurs])
    rw [substitute, same]
  | binary operator left right leftHypothesis rightHypothesis =>
    have first := leftHypothesis fun p occurs => stays p (by simp [parts, occurs])
    have second := rightHypothesis fun p occurs => stays p (by simp [parts, occurs])
    rw [substitute, first, second]
  | call method arguments inductionHypothesis =>
    have same (argument : Expr) (member : argument ∈ arguments) :=
      inductionHypothesis argument member fun p occurs => stays p
        (List.mem_cons_of_mem _ (parts_subset_partsOfAll member occurs))
    have all : substituteAll substitution arguments = arguments := by
      clear stays inductionHypothesis
      induction arguments with
      | nil => rfl
      | cons argument rest others =>
        rw [substituteAll, same argument List.mem_cons_self,
          others fun other member => same other (List.mem_cons_of_mem argument member)]
    rw [substitute, all]

end RecordQuery.Expr
