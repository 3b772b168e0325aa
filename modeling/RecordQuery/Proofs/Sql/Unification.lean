import RecordQuery.Proofs.Expr.Splitting
import RecordQuery.Proofs.Sql.Renaming

/-!
# Unified operands

An operator may lift one of its operands, so that both are of one type. Nothing that can be seen of
an expression tells a lifted operand from the operand itself: evaluation passes it on, its text and
its condition leave no trace of it, and the tests behind a condition look through it. Expressions
that agree in all of this agree in it as parts of a larger tree of operators, too. So an operator
with unified operands can take the place of the bare one anywhere in such a tree.
-/

namespace RecordQuery

namespace DataType

variable {type : DataType}

/-- Whether a type has one nullable layer at most. -/
def IsShallow (type : DataType) : Prop :=
  type = type.base ∨ type = .nullable type.base

/-- A type without a nullable layer is its base. -/
theorem IsShallow.eq_base (shallow : type.IsShallow) (required : type.isNullable = false) :
    type = type.base := by
  refine shallow.resolve_right fun same => ?_
  rw [same] at required
  cases required

/-- A nullable type with one layer is its base made nullable. -/
theorem IsShallow.eq_nullable (shallow : type.IsShallow) (optional : type.isNullable = true) :
    type = .nullable type.base := by
  refine shallow.resolve_left fun same => ?_
  rw [same, isNullable_base] at optional
  cases optional

/-- A type that is not nullable gets a layer of its own when it is made so. -/
theorem toNullable_of_required (required : type.isNullable = false) :
    type.toNullable = .nullable type := by
  cases type <;> first | rfl | cases required

end DataType

namespace Expr

/-- An operator between two operands after their types are unified. -/
def unified (operator : Operator) (left right : Expr) : Expr :=
  let operands := unify left right
  binary operator operands.1 operands.2

/-- Relations are built with unified operands. -/
theorem relate_eq_unified (relation : Relation) (left right : Expr) :
    relate relation left right = unified (.relation relation) left right := rfl

/-- A tree of operators with one open place. All other operands are given. -/
inductive Context where
  | place
  | not (operand : Context)
  | lift (operand : Context)
  | first (operator : Operator) (left : Context) (right : Expr)
  | second (operator : Operator) (left : Expr) (right : Context)

/-- The tree with an expression in its open place. -/
def Context.fill : Context → Expr → Expr
  | place, expr => expr
  | not operand, expr => .not (operand.fill expr)
  | lift operand, expr => .lift (operand.fill expr)
  | first operator left right, expr => .binary operator (left.fill expr) right
  | second operator left right, expr => .binary operator left (right.fill expr)

/-- Whether two expressions agree in their values, in their texts, in their conditions and in all
    that the condition of a larger tree asks of them. Together they are computed from those of the
    operands, which is why they carry over to larger trees. -/
structure Interchangeable (expr other : Expr) : Prop where
  eval : ∀ scope, expr.eval scope = other.eval scope
  toText : expr.toText = other.toText
  ofExpr : Sql.ofExpr expr = Sql.ofExpr other
  isNullConstant : expr.isNullConstant = other.isNullConstant
  isNullableColumn : expr.isNullableColumn = other.isNullableColumn
  mayBeUnknown : expr.mayBeUnknown = other.mayBeUnknown

namespace Interchangeable

variable {expr other left right newLeft newRight : Expr}

/-- An expression is interchangeable with itself. -/
theorem refl (expr : Expr) : Interchangeable expr expr :=
  ⟨fun _ => rfl, rfl, rfl, rfl, rfl, rfl⟩

/-- A lifted expression is interchangeable with the expression itself. -/
theorem lift_self (expr : Expr) : Interchangeable (.lift expr) expr :=
  ⟨fun scope => by rw [Expr.eval], by rw [Expr.toText], Sql.ofExpr_lift expr,
    by rw [Expr.isNullConstant], by rw [Expr.isNullableColumn], by rw [Expr.mayBeUnknown]⟩

/-- Negations of interchangeable expressions are interchangeable. -/
theorem not (same : Interchangeable expr other) : Interchangeable (.not expr) (.not other) where
  eval scope := by rw [Expr.eval, Expr.eval, same.eval]
  toText := by rw [Expr.toText, Expr.toText, same.toText]
  ofExpr := by rw [Sql.ofExpr, Sql.ofExpr, same.ofExpr, same.mayBeUnknown]
  isNullConstant := rfl
  isNullableColumn := rfl
  mayBeUnknown := same.mayBeUnknown

/-- Interchangeable expressions stay so when both are lifted. -/
theorem lift (same : Interchangeable expr other) : Interchangeable (.lift expr) (.lift other) where
  eval scope := by rw [Expr.eval, Expr.eval, same.eval]
  toText := same.toText
  ofExpr := same.ofExpr
  isNullConstant := same.isNullConstant
  isNullableColumn := same.isNullableColumn
  mayBeUnknown := same.mayBeUnknown

/-- Binary expressions with interchangeable sides are interchangeable. An inequality also asks which
    of its sides are nullable columns, on which both agree. -/
theorem binary (operator : Operator) (first : Interchangeable newLeft left)
    (second : Interchangeable newRight right) :
    Interchangeable (.binary operator newLeft newRight) (.binary operator left right) where
  eval scope := eval_binary_congr (first.eval scope) (second.eval scope)
  toText := by rw [Expr.toText, Expr.toText, first.toText, second.toText]
  ofExpr := by
    have joined : Sql.binaryCondition operator newLeft newRight =
        Sql.binaryCondition operator left right := by
      funext leftSql rightSql
      unfold Sql.binaryCondition
      rw [first.isNullableColumn, second.isNullableColumn]
    rw [Sql.ofExpr, Sql.ofExpr, first.ofExpr, second.ofExpr, first.isNullConstant,
      second.isNullConstant, joined]
  isNullConstant := rfl
  isNullableColumn := rfl
  mayBeUnknown := by
    rw [Expr.mayBeUnknown, Expr.mayBeUnknown, first.mayBeUnknown, second.mayBeUnknown]

/-- Interchangeable expressions make interchangeable trees. The induction is on the context, from
    the whole tree down to its open place. -/
theorem fill (context : Context) (same : Interchangeable expr other) :
    Interchangeable (context.fill expr) (context.fill other) := by
  induction context with
  | place => exact same
  | not operand inductionHypothesis => exact inductionHypothesis.not
  | lift operand inductionHypothesis => exact inductionHypothesis.lift
  | first operator left right inductionHypothesis =>
    exact inductionHypothesis.binary operator (refl right)
  | second operator left right inductionHypothesis =>
    exact (refl left).binary operator inductionHypothesis

/-- Unifying two operands leaves each as it is or lifts it. Operands of different base types are
    left alone, and so are two of the same nullability. -/
theorem unify_sides (left right : Expr) :
    Interchangeable (unify left right).1 left ∧ Interchangeable (unify left right).2 right := by
  unfold unify
  split
  · exact ⟨refl left, refl right⟩
  · split
    · exact ⟨lift_self left, refl right⟩
    · exact ⟨refl left, lift_self right⟩
    · exact ⟨refl left, refl right⟩

/-- An operator between unified operands is interchangeable with the bare operator. -/
theorem unified_binary (operator : Operator) (left right : Expr) :
    Interchangeable (unified operator left right) (.binary operator left right) :=
  (unify_sides left right).1.binary operator (unify_sides left right).2

end Interchangeable

/-- The type of a tree depends only on the type in its open place. Operators yield truth values
    whatever their operands are, so only lifts pass a type on. -/
theorem type_fill (context : Context) {expr other : Expr} (typed : expr.type = other.type) :
    (context.fill expr).type = (context.fill other).type := by
  induction context with
  | place => exact typed
  | lift operand inductionHypothesis =>
    rw [Context.fill, Context.fill, type, type, inductionHypothesis]
  | _ => rfl

/-- Operands of one base type, with one nullable layer at most, are unified to one type. Lifting
    adds one layer, so it does not make up for two. -/
theorem type_unify {left right : Expr} (leftShallow : left.type.IsShallow)
    (rightShallow : right.type.IsShallow) (sameBase : left.type.base = right.type.base) :
    (unify left right).1.type = (unify left right).2.type := by
  rw [unify, if_neg (not_not_intro sameBase)]
  cases leftNullable : left.type.isNullable <;> cases rightNullable : right.type.isNullable
  · exact (leftShallow.eq_base leftNullable).trans
      (sameBase.trans (rightShallow.eq_base rightNullable).symm)
  · calc left.type.toNullable
      _ = .nullable left.type := DataType.toNullable_of_required leftNullable
      _ = .nullable left.type.base := congrArg _ (leftShallow.eq_base leftNullable)
      _ = .nullable right.type.base := congrArg _ sameBase
      _ = right.type := (rightShallow.eq_nullable rightNullable).symm
  · calc left.type
      _ = .nullable left.type.base := leftShallow.eq_nullable leftNullable
      _ = .nullable right.type.base := congrArg _ sameBase
      _ = .nullable right.type := congrArg _ (rightShallow.eq_base rightNullable).symm
      _ = right.type.toNullable := (DataType.toNullable_of_required rightNullable).symm
  · exact (leftShallow.eq_nullable leftNullable).trans
      ((congrArg _ sameBase).trans (rightShallow.eq_nullable rightNullable).symm)

end Expr

namespace Lambda

variable {expr other : Expr}

/-- The text of the condition of a lambda, or the wording of why it has none. -/
def conditionText (quote : Char) (lambda : Lambda) : Except String String :=
  (Sql.report lambda.toCondition).map (Sql.toText quote)

/-- The text of the sort term of a lambda, or the wording of why it has none. -/
def sortTermText (quote : Char) (lambda : Lambda) : Except String String :=
  (Sql.report lambda.toSortTerm).map (Sql.toText quote)

/-- The errors about a lambda quote its text and its number of parameters. They say nothing else
    about its body. -/
theorem message_of_body (parameters : List Parameter) (same : expr.toText = other.toText) :
    (SqlError.notUnary ⟨parameters, expr⟩).message =
        (SqlError.notUnary ⟨parameters, other⟩).message ∧
      (SqlError.notPredicate ⟨parameters, expr⟩).message =
        (SqlError.notPredicate ⟨parameters, other⟩).message := by
  have text : toText ⟨parameters, expr⟩ = toText ⟨parameters, other⟩ := by
    rw [toText, toText, same]
  constructor
  · exact congrArg (fun text => "cannot translate expression: " ++
      ("only single-parameter lambdas translate, " ++ ticked text ++ " has " ++
        Text.ofNat parameters.length)) text
  · exact congrArg (fun text => "cannot translate expression: " ++
      (ticked text ++ " is not a predicate")) text

/-- Interchangeable bodies of one type make conditions and sort terms of one text. A refused lambda
    is refused in the same words on both sides. -/
theorem texts_of_interchangeable (same : expr.Interchangeable other)
    (typed : expr.type = other.type) (parameters : List Parameter) (quote : Char) :
    conditionText quote ⟨parameters, expr⟩ = conditionText quote ⟨parameters, other⟩ ∧
      sortTermText quote ⟨parameters, expr⟩ = sortTermText quote ⟨parameters, other⟩ := by
  obtain ⟨notUnary, notPredicate⟩ := message_of_body parameters same.toText
  have unary : Sql.report (checkUnary ⟨parameters, expr⟩) =
      Sql.report (checkUnary ⟨parameters, other⟩) := by
    unfold checkUnary
    by_cases single : parameters.length = 1
    · rw [arity, arity, if_pos single, if_pos single]
    · rw [arity, arity, if_neg single, if_neg single]
      exact congrArg Except.error notUnary
  have predicate : isPredicate ⟨parameters, expr⟩ = isPredicate ⟨parameters, other⟩ := by
    rw [isPredicate, isPredicate, Expr.isBool, Expr.isBool, typed]
  constructor
  · rw [conditionText, conditionText, toCondition, toCondition, Sql.report_bind, Sql.report_bind,
      unary, predicate, same.ofExpr]
    cases isPredicate ⟨parameters, other⟩ with
    | true => rfl
    | false =>
      simp only [Bool.false_eq_true, if_false, Sql.report_error]
      rw [notPredicate]
  · rw [sortTermText, sortTermText, toSortTerm, toSortTerm, Sql.report_bind, Sql.report_bind, unary,
      same.ofExpr]

end Lambda

namespace Expr

/-- Unification of operands is invisible. In every tree of operators, an operator with unified
    operands and the bare one evaluate alike in every scope, have the same text and, with whatever
    identifier quote, the same condition and sort term, or are refused in the same words. Operands
    of one base type, with one nullable layer at most, are of one type after it.

    Proof: a lift is interchangeable with its operand, so the unified operator is interchangeable
    with the bare one, and so are the trees that they fill a context to. Their types are equal since
    a context passes on the type in its open place, which is that of a truth value. One type after
    unification is computed for each nullability of the operands. -/
theorem unification_invisible (operator : Operator) (left right : Expr) :
    (∀ context : Context,
      let tree := context.fill (unified operator left right)
      let bare := context.fill (.binary operator left right)
      (∀ scope, tree.eval scope = bare.eval scope) ∧ tree.toText = bare.toText ∧
        ∀ parameters quote,
          Lambda.conditionText quote ⟨parameters, tree⟩ =
            Lambda.conditionText quote ⟨parameters, bare⟩ ∧
          Lambda.sortTermText quote ⟨parameters, tree⟩ =
            Lambda.sortTermText quote ⟨parameters, bare⟩) ∧
    (left.type.IsShallow → right.type.IsShallow → left.type.base = right.type.base →
      ∃ first second, unified operator left right = .binary operator first second ∧
        first.type = second.type) := by
  refine ⟨fun context => ?_, fun leftShallow rightShallow sameBase =>
    ⟨_, _, rfl, type_unify leftShallow rightShallow sameBase⟩⟩
  have same := Interchangeable.fill context (.unified_binary operator left right)
  have typed : (context.fill (unified operator left right)).type =
      (context.fill (.binary operator left right)).type := type_fill context rfl
  exact ⟨same.eval, same.toText, Lambda.texts_of_interchangeable same typed⟩

/-- A required constant beside a nullable column is lifted, and the negated inequality comes to the
    condition that it would come to without. -/
theorem unification_invisible_behind_negation :
    let p : Parameter := ⟨0, "p", .record "R"⟩
    let column : Expr :=
      .member (.parameter p) ⟨"R", "n", .nullable (.number (.integer .i32)), .position 0⟩
    let five : Expr := .ofValue (.number (.integer .i32 5 (by decide)))
    let condition := "NOT (COALESCE((5 <> \"n\" OR \"n\" IS NULL), FALSE))"
    unified (.relation .ne) five column = .binary (.relation .ne) (.lift five) column ∧
      (lift five).type = column.type ∧
      Lambda.conditionText '"' ⟨[p], .not (unified (.relation .ne) five column)⟩ = .ok condition ∧
      Lambda.conditionText '"' ⟨[p], .not (.binary (.relation .ne) five column)⟩ =
        .ok condition := by
  intro p column five condition
  obtain ⟨invisible, unifies⟩ := unification_invisible (.relation .ne) five column
  obtain ⟨first, second, built, sameType⟩ := unifies (.inl rfl) (.inr rfl) rfl
  obtain ⟨-, rfl, rfl⟩ := Expr.binary.inj built
  have written : Lambda.conditionText '"' ⟨[p], .not (unified (.relation .ne) five column)⟩ =
      .ok condition := by decide +kernel
  have same := ((invisible (.not .place)).2.2 [p] '"').1
  exact ⟨rfl, sameType, written, same.symm.trans written⟩

end Expr

end RecordQuery
