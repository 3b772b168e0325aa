import RecordQuery.Proofs.Expr.Induction
import RecordQuery.Proofs.Outcome
import RecordQuery.Proofs.Sql.Meaning

/-!
# Which conditions translation gives

For every kind of expression, when it has an SQL form and which. Lifting leaves no trace in the
form. Of an equality with the constant null, only the other side has a place in the form.
-/

namespace RecordQuery

namespace Expr

/-- One of the arguments may be unknown. -/
theorem anyMayBeUnknown_eq (arguments : List Expr) :
    anyMayBeUnknown arguments = arguments.any mayBeUnknown := by
  induction arguments with
  | nil => rfl
  | cons first rest inductionHypothesis =>
    rw [anyMayBeUnknown, inductionHypothesis, List.any_cons]

/-- One of the arguments is a nullable column. -/
theorem anyNullableColumn_eq (arguments : List Expr) :
    anyNullableColumn arguments = arguments.any isNullableColumn := by
  induction arguments with
  | nil => rfl
  | cons first rest inductionHypothesis =>
    rw [anyNullableColumn, inductionHypothesis, List.any_cons]

/-- The operand that a null test is written on in place of an equality: the one beside a constant
    null. The constant on the right is seen first, so `null = null` tests the left one. -/
def nullSide? (relation : Relation) (left right : Expr) : Option Expr :=
  if relation = .eq ∨ relation = .ne then
    if right.isNullConstant then some left
    else if left.isNullConstant then some right
    else none
  else none

/-- A null test takes the place of an equality or inequality. It is written on one of the sides,
    and the other is the constant null. -/
theorem sides_of_nullSide {relation : Relation} {left right side : Expr}
    (tested : nullSide? relation left right = some side) :
    (relation = .eq ∨ relation = .ne) ∧ ((side = left ∧ right.isNullConstant = true) ∨
      (side = right ∧ left.isNullConstant = true)) := by
  unfold nullSide? at tested
  split at tested <;> try cases tested
  rename_i equality
  refine ⟨equality, ?_⟩
  split at tested
  · rename_i nullRight
    exact .inl ⟨(Option.some.inj tested).symm, nullRight⟩
  · split at tested <;> try cases tested
    rename_i nullLeft
    exact .inr ⟨rfl, nullLeft⟩

end Expr

namespace Sql

/-- The null test in place of an equality or inequality with null. -/
def nullTest (relation : Relation) (side : Sql) : Sql :=
  if relation = .eq then isNull side else isNotNull side

variable {sql : Sql}

attribute [local simp] ofExpr ofMonth ofInSet ofTextTest

/-- A constant is written as its literal, whatever its declared type is. -/
theorem ofExpr_constant (value : Value) (type : DataType) :
    ofExpr (.constant value type) = ofValue value := rfl

/-- A lifted expression is written as its operand. -/
theorem ofExpr_lift (operand : Expr) : ofExpr (.lift operand) = ofExpr operand := rfl

/-- Only properties read from a parameter are columns. What is read deeper in a record has no
    column, nor has the record itself. -/
theorem ofExpr_member {target : Expr} {m : Member} :
    ofExpr (.member target m) = .ok sql ↔
      ∃ p, target = .parameter p ∧ m.isSelf = false ∧ sql = column m.name := by
  cases target with
  | parameter p =>
    cases self : m.isSelf <;> simp [self, eq_comm]
  | _ => simp

/-- A negation has a form if its operand has one. It depends on the operand whether unknown has to
    count as false in it. -/
theorem ofExpr_not {operand : Expr} :
    ofExpr (.not operand) = .ok sql ↔
      ∃ inner, ofExpr operand = .ok inner ∧ sql = negation operand.mayBeUnknown inner := by
  rw [ofExpr]
  exact change_eq_ok

/-- A conjunction has a form if both sides have one. The error is that of the first side without
    one. -/
theorem ofExpr_and {left right : Expr} :
    ofExpr (.binary .and left right) = .ok sql ↔
      ∃ leftSql rightSql, ofExpr left = .ok leftSql ∧ ofExpr right = .ok rightSql ∧
        sql = group (and leftSql rightSql) := by
  rw [ofExpr]
  exact combine_eq_ok

/-- A disjunction has a form if both sides have one. -/
theorem ofExpr_or {left right : Expr} :
    ofExpr (.binary .or left right) = .ok sql ↔
      ∃ leftSql rightSql, ofExpr left = .ok leftSql ∧ ofExpr right = .ok rightSql ∧
        sql = group (or leftSql rightSql) := by
  rw [ofExpr]
  exact combine_eq_ok

/-- An equality with a constant null becomes a null test on the other side. The constant itself is
    not written. -/
theorem ofExpr_nullTest {relation : Relation} {left right side : Expr}
    (found : Expr.nullSide? relation left right = some side) :
    ofExpr (.binary (.relation relation) left right) = .ok sql ↔
      ∃ inner, ofExpr side = .ok inner ∧ sql = group (nullTest relation inner) := by
  have written : ofExpr (.binary (.relation relation) left right) =
      (do return group (nullTest relation (← ofExpr side))) := by
    unfold Expr.nullSide? at found
    rw [ofExpr]
    cases relation <;> cases onRight : right.isNullConstant <;>
      cases onLeft : left.isNullConstant <;> simp [onRight, onLeft] at found <;>
      subst side <;> rfl
  rw [written]
  exact change_eq_ok

/-- Every other relation is written between the forms of its sides. What is written for a side that
    may be null depends on both operands, not only on their forms. -/
theorem ofExpr_relation {relation : Relation} {left right : Expr}
    (absent : Expr.nullSide? relation left right = none) :
    ofExpr (.binary (.relation relation) left right) = .ok sql ↔
      ∃ leftSql rightSql, ofExpr left = .ok leftSql ∧ ofExpr right = .ok rightSql ∧
        sql = binaryCondition (.relation relation) left right leftSql rightSql := by
  have written : ofExpr (.binary (.relation relation) left right) = (do
      let leftSql ← ofExpr left
      return binaryCondition (.relation relation) left right leftSql (← ofExpr right)) := by
    unfold Expr.nullSide? at absent
    rw [ofExpr]
    cases relation <;> cases onRight : right.isNullConstant <;>
      cases onLeft : left.isNullConstant <;> simp [onRight, onLeft] at absent <;> rfl
  rw [written]
  exact combine_eq_ok

/-- A month is taken of one argument that has a form, and there is no other form for it. -/
theorem ofExpr_month {arguments : List Expr} :
    ofExpr (.call .month arguments) = .ok sql ↔
      ∃ subject inner, arguments = [subject] ∧ ofExpr subject = .ok inner ∧ sql = month inner := by
  rcases arguments with _ | ⟨subject, _ | ⟨second, rest⟩⟩
  · simp
  · rw [ofExpr, ofMonth, change_eq_ok]
    simp
  · simp

/-- A membership test needs a constant set; nothing is in the empty one. So the item has to have a
    form only if the set has members. -/
theorem ofExpr_inSet {arguments : List Expr} :
    ofExpr (.call .inSet arguments) = .ok sql ↔
      ∃ set item members, arguments = [set, item] ∧ membersOf set = .ok members ∧
        if members.isEmpty then sql = truth false
        else ∃ inner, ofExpr item = .ok inner ∧ sql = group (within inner members) := by
  rcases arguments with _ | ⟨set, _ | ⟨item, _ | ⟨third, rest⟩⟩⟩
  · simp
  · simp
  · simp only [ofExpr, ofInSet, bind_eq_ok]
    constructor
    · rintro ⟨members, read, rest⟩
      refine ⟨set, item, members, rfl, read, ?_⟩
      split at rest <;> rename_i empty
      · rw [if_pos empty]
        exact (pure_eq_ok.mp rest).symm
      · rw [if_neg empty]
        obtain ⟨inner, translated, same⟩ := bind_eq_ok.mp rest
        exact ⟨inner, translated, (pure_eq_ok.mp same).symm⟩
    · rintro ⟨_, _, members, ⟨⟩, read, rest⟩
      refine ⟨members, read, ?_⟩
      split at rest <;> rename_i empty
      · rw [if_pos empty, rest]
        rfl
      · rw [if_neg empty]
        obtain ⟨inner, translated, rfl⟩ := rest
        exact bind_eq_ok.mpr ⟨inner, translated, rfl⟩
  · simp

/-- A text test needs a constant pattern. A pattern that is computed from the record has no form. -/
theorem ofExpr_textTest {method : Method} (isTest : method.isTextTest = true)
    {arguments : List Expr} :
    ofExpr (.call method arguments) = .ok sql ↔
      ∃ subject content type inner, arguments = [subject, .constant (.text content) type] ∧
        ofExpr subject = .ok inner ∧ sql = group (like inner (anchorOf method) content) := by
  have asTest : ofExpr (.call method arguments) = ofTextTest method arguments := by
    cases method with
    | month => simp [Method.isTextTest] at isTest
    | inSet => simp [Method.isTextTest] at isTest
    | _ => simp only [ofExpr]
  rw [asTest]
  have patternRead {constant : Expr} {content : String} :
      patternText constant = .ok content ↔ ∃ type, constant = .constant (.text content) type := by
    unfold patternText
    split <;> simp_all
  rcases arguments with _ | ⟨subject, _ | ⟨constant, _ | ⟨third, rest⟩⟩⟩
  · simp
  · simp
  · simp only [ofTextTest, bind_eq_ok, pure_eq_ok, patternRead]
    constructor
    · rintro ⟨content, ⟨type, rfl⟩, inner, translated, rfl⟩
      exact ⟨subject, content, type, inner, rfl, translated, rfl⟩
    · rintro ⟨_, content, type, inner, ⟨⟩, translated, rfl⟩
      exact ⟨content, ⟨type, rfl⟩, inner, translated, rfl⟩
  · simp

end Sql

/-- An accepted lambda has one parameter, yields a truth value and has a form. The form of its body
    is its condition. -/
theorem Lambda.toCondition_eq_ok {lambda : Lambda} {sql : Sql} :
    lambda.toCondition = .ok sql ↔
      lambda.arity = 1 ∧ lambda.isPredicate = true ∧ Sql.ofExpr lambda.body = .ok sql := by
  rw [toCondition, bind_eq_ok, checkUnary]
  by_cases unary : lambda.arity = 1
  · cases lambda.isPredicate <;> simp [unary]
  · simp [unary]

end RecordQuery
