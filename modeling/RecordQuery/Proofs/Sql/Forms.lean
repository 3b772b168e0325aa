import RecordQuery.Proofs.Sql.Translation

/-!
# The forms of expressions

Translation as a relation: how the form of each kind of expression is put together from the forms
of its operands. What is to be shown about all forms is shown along this relation, one case for each
kind, without a look into the translation itself.
-/

namespace RecordQuery

/-- An expression has an SQL form. It relates the two node by node, so that proofs about forms are
    inductions on it and translation need not be unfolded. -/
inductive Expr.HasForm : Expr → Sql → Prop
  | column {p : Parameter} {m : Member} (named : m.isSelf = false) :
      HasForm (member (parameter p) m) (.column m.name)
  | literal {value : Value} {type : DataType} {sql : Sql} (literal : Sql.ofValue value = .ok sql) :
      HasForm (constant value type) sql
  | lift {operand : Expr} {sql : Sql} (form : HasForm operand sql) : HasForm (lift operand) sql
  | negation {operand : Expr} {inner : Sql} (form : HasForm operand inner) :
      HasForm (not operand) (.negation operand.mayBeUnknown inner)
  | and {left right : Expr} {leftSql rightSql : Sql} (leftForm : HasForm left leftSql)
      (rightForm : HasForm right rightSql) :
      HasForm (binary .and left right) (.group (.and leftSql rightSql))
  | or {left right : Expr} {leftSql rightSql : Sql} (leftForm : HasForm left leftSql)
      (rightForm : HasForm right rightSql) :
      HasForm (binary .or left right) (.group (.or leftSql rightSql))
  | nullTest {relation : Relation} {left right side : Expr} {inner : Sql}
      (tested : nullSide? relation left right = some side) (form : HasForm side inner) :
      HasForm (binary (.relation relation) left right) (.group (.nullTest relation inner))
  | relation {relation : Relation} {left right : Expr} {leftSql rightSql : Sql}
      (valued : nullSide? relation left right = none) (leftForm : HasForm left leftSql)
      (rightForm : HasForm right rightSql) :
      HasForm (binary (.relation relation) left right)
        (.binaryCondition (.relation relation) left right leftSql rightSql)
  | month {subject : Expr} {inner : Sql} (form : HasForm subject inner) :
      HasForm (call .month [subject]) (.month inner)
  /-- Nothing is in the empty set. -/
  | nowhere {set item : Expr} {members : SqlMembers} (read : Sql.membersOf set = .ok members)
      (empty : members.isEmpty = true) : HasForm (call .inSet [set, item]) (.truth false)
  | within {set item : Expr} {members : SqlMembers} {inner : Sql}
      (read : Sql.membersOf set = .ok members) (nonempty : members.isEmpty = false)
      (form : HasForm item inner) :
      HasForm (call .inSet [set, item]) (.group (.within inner members))
  | like {method : Method} {subject : Expr} {content : String} {type : DataType} {inner : Sql}
      (isTest : method.isTextTest = true) (form : HasForm subject inner) :
      HasForm (call method [subject, constant (.text content) type])
        (.group (.like inner (Sql.anchorOf method) content))

namespace Sql

variable {expr : Expr} {sql : Sql}

/-- What translation gives is a form. The induction is on the expression, with one inversion of
    translation for each kind of node. -/
theorem hasForm_of_ofExpr (translated : ofExpr expr = .ok sql) : expr.HasForm sql := by
  induction expr generalizing sql with
  | parameter p => simp [ofExpr] at translated
  | member target m =>
    obtain ⟨p, rfl, named, rfl⟩ := ofExpr_member.mp translated
    exact .column named
  | constant value type =>
    rw [ofExpr_constant] at translated
    exact .literal translated
  | not operand inductionHypothesis =>
    obtain ⟨inner, form, rfl⟩ := ofExpr_not.mp translated
    exact .negation (inductionHypothesis form)
  | lift operand inductionHypothesis =>
    rw [ofExpr_lift] at translated
    exact .lift (inductionHypothesis translated)
  | binary operator left right leftHypothesis rightHypothesis =>
    cases operator with
    | and =>
      obtain ⟨leftSql, rightSql, leftForm, rightForm, rfl⟩ := ofExpr_and.mp translated
      exact .and (leftHypothesis leftForm) (rightHypothesis rightForm)
    | or =>
      obtain ⟨leftSql, rightSql, leftForm, rightForm, rfl⟩ := ofExpr_or.mp translated
      exact .or (leftHypothesis leftForm) (rightHypothesis rightForm)
    | relation relation =>
      cases tested : Expr.nullSide? relation left right with
      | some side =>
        obtain ⟨inner, form, rfl⟩ := (ofExpr_nullTest tested).mp translated
        refine .nullTest tested ?_
        rcases (Expr.sides_of_nullSide tested).2 with ⟨rfl, -⟩ | ⟨rfl, -⟩
        · exact leftHypothesis form
        · exact rightHypothesis form
      | none =>
        obtain ⟨leftSql, rightSql, leftForm, rightForm, rfl⟩ :=
          (ofExpr_relation tested).mp translated
        exact .relation tested (leftHypothesis leftForm) (rightHypothesis rightForm)
  | call method arguments inductionHypothesis =>
    cases method with
    | month =>
      obtain ⟨subject, inner, rfl, form, rfl⟩ := ofExpr_month.mp translated
      exact .month (inductionHypothesis subject List.mem_cons_self form)
    | inSet =>
      obtain ⟨set, item, members, rfl, read, form⟩ := ofExpr_inSet.mp translated
      cases empty : members.isEmpty with
      | true =>
        rw [if_pos empty] at form
        subst form
        exact .nowhere read empty
      | false =>
        rw [if_neg (by simp [empty])] at form
        obtain ⟨inner, form, rfl⟩ := form
        exact .within read empty (inductionHypothesis item (by simp) form)
    | _ =>
      obtain ⟨subject, content, type, inner, rfl, form, rfl⟩ := (ofExpr_textTest rfl).mp translated
      exact .like rfl (inductionHypothesis subject List.mem_cons_self form)

/-- Every form is what translation gives. With it both may be used for one another. -/
theorem ofExpr_of_hasForm (form : expr.HasForm sql) : ofExpr expr = .ok sql := by
  induction form with
  | column named => exact ofExpr_member.mpr ⟨_, rfl, named, rfl⟩
  | literal literal => exact literal
  | lift _ inductionHypothesis => exact inductionHypothesis
  | negation _ inductionHypothesis => exact ofExpr_not.mpr ⟨_, inductionHypothesis, rfl⟩
  | and _ _ leftHypothesis rightHypothesis =>
    exact ofExpr_and.mpr ⟨_, _, leftHypothesis, rightHypothesis, rfl⟩
  | or _ _ leftHypothesis rightHypothesis =>
    exact ofExpr_or.mpr ⟨_, _, leftHypothesis, rightHypothesis, rfl⟩
  | nullTest tested _ inductionHypothesis =>
    exact (ofExpr_nullTest tested).mpr ⟨_, inductionHypothesis, rfl⟩
  | relation valued _ _ leftHypothesis rightHypothesis =>
    exact (ofExpr_relation valued).mpr ⟨_, _, leftHypothesis, rightHypothesis, rfl⟩
  | month _ inductionHypothesis => exact ofExpr_month.mpr ⟨_, _, rfl, inductionHypothesis, rfl⟩
  | nowhere read empty => exact ofExpr_inSet.mpr ⟨_, _, _, rfl, read, by simp [empty]⟩
  | within read nonempty _ inductionHypothesis =>
    refine ofExpr_inSet.mpr ⟨_, _, _, rfl, read, ?_⟩
    rw [if_neg (by simp [nonempty])]
    exact ⟨_, inductionHypothesis, rfl⟩
  | like isTest _ inductionHypothesis =>
    exact (ofExpr_textTest isTest).mpr ⟨_, _, _, _, rfl, inductionHypothesis, rfl⟩

/-- Translation gives an expression its form. -/
theorem ofExpr_eq_ok : ofExpr expr = .ok sql ↔ expr.HasForm sql :=
  ⟨hasForm_of_ofExpr, ofExpr_of_hasForm⟩

end Sql

end RecordQuery
