import RecordQuery.Expr.Replacement
import RecordQuery.Expr.Text
import RecordQuery.Proofs.Expr.Evaluation
import Mathlib.Data.List.Induction

/-!
# Splitting and joining

A tree of one operator is split into its operands from left to right, whatever its shape, and
operands are joined into the tree that leans to the left. Splitting what was joined gives the
operands back, each split as far as it goes. Joining what was split leans the tree to the left; for
a connective of truth values this changes nothing about its evaluation, because the operands are
asked in the same order and the same one decides or fails.
-/

namespace RecordQuery.Expr

variable {operator : Operator} {scope : Scope}

section Split

/-- A tree of the operator has the operands of its left side and then those of its right side. -/
theorem split_binary (operator : Operator) (left right : Expr) :
    (binary operator left right).split [operator] =
      left.split [operator] ++ right.split [operator] := by
  simp [split]

/-- An expression that is no tree of the operator is its only operand. Trees of the other connective
    are left whole in particular. -/
theorem split_of_other {expr : Expr} (other : ∀ left right, expr ≠ binary operator left right) :
    expr.split [operator] = [expr] := by
  cases expr with
  | binary root left right =>
    have different : root ≠ operator := by
      rintro rfl
      exact other left right rfl
    simp [split, different]
  | _ => rfl

/-- Every expression has a first operand. So there is always something to join again. -/
theorem exists_split_eq_cons (operator : Operator) (expr : Expr) :
    ∃ first rest, expr.split [operator] = first :: rest := by
  induction expr with
  | binary root left right leftHypothesis =>
    by_cases same : root = operator
    · subst same
      obtain ⟨first, rest, parted⟩ := leftHypothesis
      exact ⟨first, rest ++ right.split [root], by rw [split_binary, parted, List.cons_append]⟩
    · exact ⟨_, [], split_of_other fun _ _ equal => same (binary.inj equal).1⟩
  | _ => exact ⟨_, [], rfl⟩

/-- What was joined has the operands of each part, in order. The induction keeps the first operand
    general, as this is where the joined tree grows. -/
theorem split_join (operator : Operator) (first : Expr) (rest : List Expr) :
    (join operator first rest).split [operator] =
      (first :: rest).flatMap (split [operator]) := by
  induction rest generalizing first with
  | nil => rw [List.flatMap_singleton]; rfl
  | cons next others inductionHypothesis =>
    calc (join operator (binary operator first next) others).split [operator]
      _ = (binary operator first next :: others).flatMap (split [operator]) :=
        inductionHypothesis _
      _ = (first :: next :: others).flatMap (split [operator]) := by
        rw [List.flatMap_cons, split_binary, List.flatMap_cons, List.flatMap_cons,
          List.append_assoc]

end Split

section Join

/-- Expressions of the same values in the place of operands have the same value as a whole. -/
theorem eval_binary_congr {left right newLeft newRight : Expr}
    (first : newLeft.eval scope = left.eval scope)
    (second : newRight.eval scope = right.eval scope) :
    (binary operator newLeft newRight).eval scope = (binary operator left right).eval scope := by
  cases operator <;> simp only [eval, first, second]

/-- Three conditions in a row are asked in one order, however they are grouped. Errors are included:
    a condition is asked only if those before it leave the truth open. -/
theorem eval_connective_assoc (connective : operator = .and ∨ operator = .or)
    (first second third : Expr) :
    (binary operator (binary operator first second) third).eval scope =
      (binary operator first (binary operator second third)).eval scope := by
  rcases connective with rfl | rfl
  · rw [eval_and, eval_and, truthIn_and_eq, truthIn_and_eq]
    cases first.truthIn scope with
    | error cause => rfl
    | ok holds =>
      cases holds with
      | false => rfl
      | true =>
        cases second.truthIn scope with
        | error cause => rfl
        | ok other => cases other <;> rfl
  · rw [eval_or, eval_or, truthIn_or_eq, truthIn_or_eq]
    cases first.truthIn scope with
    | error cause => rfl
    | ok holds =>
      cases holds with
      | true => rfl
      | false =>
        cases second.truthIn scope with
        | error cause => rfl
        | ok other => cases other <;> rfl

/-- The last of several parts is joined last. -/
theorem join_concat (operator : Operator) (first : Expr) (rest : List Expr) (last : Expr) :
    join operator first (rest ++ [last]) = binary operator (join operator first rest) last :=
  List.foldl_concat ..

/-- Two lists of conditions joined as one have the value of the two joined apart. With it, the
    operands of a right side can be joined on their own. -/
theorem eval_join_append (connective : operator = .and ∨ operator = .or)
    (first : Expr) (front : List Expr) (next : Expr) (back : List Expr) :
    (join operator first (front ++ next :: back)).eval scope =
      (binary operator (join operator first front) (join operator next back)).eval scope := by
  -- From the end of the second list: its last condition moves over by one regrouping.
  induction back using List.reverseRecOn with
  | nil => rw [join_concat]; rfl
  | append_singleton back last inductionHypothesis =>
    rw [← List.cons_append, ← List.append_assoc, join_concat, join_concat]
    calc (binary operator (join operator first (front ++ next :: back)) last).eval scope
      _ = (binary operator (binary operator (join operator first front)
            (join operator next back)) last).eval scope :=
        eval_binary_congr inductionHypothesis rfl
      _ = (binary operator (join operator first front)
            (binary operator (join operator next back) last)).eval scope :=
        eval_connective_assoc connective _ _ _

/-- Conditions that were split and joined again have the value that they had. The shape of the tree
    may be another one than before, as it leans to the left now. -/
theorem eval_join_split (connective : operator = .and ∨ operator = .or) {expr first : Expr}
    {rest : List Expr} (parted : expr.split [operator] = first :: rest) :
    (join operator first rest).eval scope = expr.eval scope := by
  induction expr generalizing first rest with
  | binary root left right leftHypothesis rightHypothesis =>
    by_cases same : root = operator
    · subst same
      obtain ⟨start, front, leftParted⟩ := exists_split_eq_cons root left
      obtain ⟨next, back, rightParted⟩ := exists_split_eq_cons root right
      rw [split_binary, leftParted, rightParted, List.cons_append] at parted
      obtain ⟨rfl, rfl⟩ := List.cons.inj parted
      rw [eval_join_append connective]
      exact eval_binary_congr (leftHypothesis leftParted) (rightHypothesis rightParted)
    · rw [split_of_other fun _ _ equal => same (binary.inj equal).1] at parted
      obtain ⟨rfl, rfl⟩ := List.cons.inj parted
      rfl
  | _ =>
    obtain ⟨rfl, rfl⟩ := List.cons.inj parted
    rfl

end Join

/-- Splitting and joining undo each other up to regrouping. Parts that are joined by an operator and
    split again are the operands of each part, one after the other, and so the parts themselves
    where none is a tree of the operator. Conditions that are split at a conjunction or a
    disjunction and joined again have in every scope the value that they had, or the same error,
    whatever the shape of the tree.

    Proof: splitting a joined list gives the operands of each part, and a part that is no tree of
    the connective is its only operand. In the other direction only the grouping changes, and the
    order in which conditions are asked does not depend on it. -/
theorem split_and_join_inverse (operator : Operator) :
    (∀ parts, parts ≠ [] → ∃ joined, join? operator parts = some joined ∧
      joined.split [operator] = parts.flatMap (split [operator]) ∧
      ((∀ part ∈ parts, ∀ left right, part ≠ binary operator left right) →
        joined.split [operator] = parts)) ∧
    (operator = .and ∨ operator = .or → ∀ expr : Expr,
      ∃ joined, join? operator (expr.split [operator]) = some joined ∧
        ∀ scope, joined.eval scope = expr.eval scope) := by
  constructor
  · intro parts nonempty
    obtain ⟨first, rest, rfl⟩ := List.exists_cons_of_ne_nil nonempty
    have parted := split_join operator first rest
    refine ⟨_, rfl, parted, fun others => ?_⟩
    calc (join operator first rest).split [operator]
      _ = (first :: rest).flatMap (split [operator]) := parted
      _ = (first :: rest).flatMap List.singleton :=
        List.flatMap_congr fun part member => split_of_other (others part member)
      _ = first :: rest := List.flatMap_singleton' _
  · intro connective expr
    obtain ⟨first, rest, parted⟩ := exists_split_eq_cons operator expr
    exact ⟨join operator first rest, by rw [parted, join?],
      fun scope => eval_join_split connective parted⟩

/-- A conjunction that leans to both sides is split around a disjunction, which stays whole, and
    joined from the left. The tree that comes back is another one with the same value in every
    scope. -/
theorem split_and_join_leaning :
    let a : Expr := .parameter ⟨0, "a", .bool⟩
    let b : Expr := .parameter ⟨1, "b", .bool⟩
    let either : Expr := .binary .or a b
    let tree : Expr := .binary .and a (.binary .and (.binary .and b either) a)
    let parts : List Expr := [a, b, either, a]
    parts ≠ [] ∧ (∀ part ∈ parts, ∀ left right, part ≠ .binary .and left right) ∧
      ∃ joined, join? .and (tree.split [.and]) = some joined ∧
        joined.toText = "(((a && b) && (a || b)) && a)" ∧ joined.split [.and] = parts ∧
        ∀ scope, joined.eval scope = tree.eval scope := by
  intro a b either tree parts
  have nonempty : parts ≠ [] := List.cons_ne_nil _ _
  have others : ∀ part ∈ parts, ∀ left right, part ≠ .binary .and left right := by
    simp [parts, a, b, either]
  obtain ⟨splits, joins⟩ := split_and_join_inverse .and
  obtain ⟨joined, made, -, parted⟩ := splits parts nonempty
  obtain ⟨regrouped, remade, same⟩ := joins (.inl rfl) tree
  obtain rfl : joined = regrouped := Option.some.inj (made.symm.trans remade)
  obtain rfl := Option.some.inj made
  exact ⟨nonempty, others, _, remade, by decide, parted others, same⟩

end RecordQuery.Expr
