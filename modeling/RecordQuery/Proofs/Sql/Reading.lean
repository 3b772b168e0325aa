import RecordQuery.Proofs.Sql.Translation

/-!
# How translated conditions are read

The form of an expression is a single item, a condition in parentheses, or a negation sign
before one. A test behind an item or a condition in parentheses is a test of its value; behind a
negation it is a test of what is negated, and the outcome is negated instead.
-/

namespace RecordQuery

namespace Expr

/-- The expression without the lifts around it. -/
def unlifted : Expr → Expr
  | lift operand => operand.unlifted
  | other => other

/-- Whether the SQL form of an expression opens with a negation sign. -/
def isNegation (expr : Expr) : Bool :=
  match expr.unlifted with
  | not _ => true
  | _ => false

/-- An expression that opens with a negation sign is the negation of another, or a lift of one.
    Lifts are written as what they lift. -/
theorem unlifted_of_isNegation {expr : Expr} (opens : expr.isNegation = true) :
    ∃ operand, expr.unlifted = not operand := by
  unfold isNegation at opens
  split at opens
  · rename_i operand found
    exact ⟨operand, found⟩
  · cases opens

/-- Lifts change nothing about a nullable column. -/
theorem isNullableColumn_unlifted (expr : Expr) :
    expr.unlifted.isNullableColumn = expr.isNullableColumn := by
  induction expr with
  | lift operand inductionHypothesis =>
    rw [unlifted, inductionHypothesis, isNullableColumn]
  | _ => rfl

/-- A nullable column opens with no negation sign. Negations have truth values and read no column as
    their own value. -/
theorem isNegation_of_isNullableColumn {expr : Expr} (column : expr.isNullableColumn = true) :
    expr.isNegation = false := by
  rw [← isNullableColumn_unlifted] at column
  unfold isNegation
  split
  · rename_i operand found
    rw [found] at column
    simp [isNullableColumn] at column
  · rfl

end Expr

namespace Sql

/-- Whether an expression is written as a single item or stands in parentheses. -/
def isItem : Sql → Bool
  | column _ | null | truth _ | text _ | number _ | date _ | group _ | orFalse _ | month _ => true
  | _ => false

/-- What a negation that may meet unknown negates: false in place of unknown. -/
def known (mayBeUnknown : Bool) (operand : Value) : Value :=
  if mayBeUnknown then .bool ((truthOf operand).getD false) else operand

variable {columns : String → Value} {sql : Sql}

/-- The form of an expression without its lifts is the form of the expression. -/
theorem ofExpr_unlifted (expr : Expr) : ofExpr expr.unlifted = ofExpr expr := by
  induction expr with
  | lift operand inductionHypothesis =>
    rw [Expr.unlifted, inductionHypothesis, ofExpr_lift]
  | _ => rfl

/-- The literal of a constant is a single item. -/
theorem isItem_of_ofValue {value : Value} (literal : ofValue value = .ok sql) :
    sql.isItem = true := by
  unfold ofValue at literal
  split at literal <;> try split at literal
  all_goals cases literal
  all_goals rfl

/-- Every form without a negation sign in front is an item or stands in parentheses. The induction
    passes through lifts only, since all other nodes are written with parentheses or as one item. -/
theorem isItem_of_ofExpr {expr : Expr} (translated : ofExpr expr = .ok sql)
    (plain : expr.isNegation = false) : sql.isItem = true := by
  induction expr with
  | parameter p => simp [ofExpr] at translated
  | member target m =>
    obtain ⟨p, -, -, rfl⟩ := ofExpr_member.mp translated
    rfl
  | constant value type =>
    rw [ofExpr_constant] at translated
    exact isItem_of_ofValue translated
  | not operand => simp [Expr.isNegation, Expr.unlifted] at plain
  | lift operand inductionHypothesis =>
    rw [ofExpr_lift] at translated
    exact inductionHypothesis translated plain
  | binary operator left right =>
    cases operator with
    | and =>
      obtain ⟨leftSql, rightSql, -, -, rfl⟩ := ofExpr_and.mp translated
      rfl
    | or =>
      obtain ⟨leftSql, rightSql, -, -, rfl⟩ := ofExpr_or.mp translated
      rfl
    | relation relation =>
      cases tested : Expr.nullSide? relation left right with
      | some side =>
        obtain ⟨inner, -, rfl⟩ := (ofExpr_nullTest tested).mp translated
        rfl
      | none =>
        obtain ⟨leftSql, rightSql, -, -, rfl⟩ := (ofExpr_relation tested).mp translated
        cases relation <;> rfl
  | call method arguments =>
    cases method with
    | month =>
      obtain ⟨subject, inner, -, -, rfl⟩ := ofExpr_month.mp translated
      rfl
    | inSet =>
      obtain ⟨set, item, members, -, -, form⟩ := ofExpr_inSet.mp translated
      split at form
      · rw [form]
        rfl
      · obtain ⟨inner, -, rfl⟩ := form
        rfl
    | _ =>
      obtain ⟨subject, content, type, inner, -, -, rfl⟩ := (ofExpr_textTest rfl).mp translated
      rfl

/-- A test behind an item is made on the item. -/
theorem beneath_item (test : Sql → Sql) (item : sql.isItem = true) :
    beneath test sql.asRead = test sql.asRead := by
  cases sql <;> first | rfl | cases item

/-- A negation negates what is known of its operand. -/
theorem meaning_negation (mayBeUnknown : Bool) (inner : Sql) :
    (negation mayBeUnknown inner).meaning columns =
      negated (known mayBeUnknown (inner.meaning columns)) := by
  cases mayBeUnknown <;> rfl

/-- A test behind a negation is made on what is negated, and the outcome is negated. -/
theorem beneath_negation {test : Sql → Sql} (outcome : Value → Value)
    (tested : ∀ subject, (test subject).value columns = outcome (subject.value columns))
    (mayBeUnknown : Bool) (inner : Sql) :
    (beneath test (negation mayBeUnknown inner).asRead).value columns =
      negated (outcome (known mayBeUnknown (inner.meaning columns))) := by
  cases mayBeUnknown <;> exact congrArg negated (tested _)

/-- A comparison behind an item compares its value. -/
theorem meaning_compare_item {relation : Relation} {left right : Sql}
    (item : left.isItem = true) :
    (compare relation left right).meaning columns =
      ofTruth (related relation (left.meaning columns) (right.meaning columns)) := by
  rw [meaning, asRead, beneath_item _ item]
  rfl

/-- A comparison behind a negation compares what is negated and is negated as a whole. It is read
    beneath the sign, as its text says. -/
theorem meaning_compare_negation {relation : Relation} (mayBeUnknown : Bool)
    (inner right : Sql) :
    (compare relation (negation mayBeUnknown inner) right).meaning columns =
      ofTruth ((related relation (known mayBeUnknown (inner.meaning columns))
        (right.meaning columns)).map (!·)) := by
  rw [meaning, asRead, beneath_negation
    (fun subject => ofTruth (related relation subject (right.meaning columns))) fun _ => rfl,
    negated_ofTruth]

/-- A null test behind an item tells whether its value is null. -/
theorem meaning_isNull_item {side : Sql} (item : side.isItem = true) :
    (isNull side).meaning columns = .bool (side.meaning columns).isNull := by
  rw [meaning, asRead, beneath_item _ item]
  rfl

/-- A condition that also admits rows without a value for a side holds for those rows, and for the
    others where it did before. It is only written where the side may be null. -/
theorem meaning_orNull {nullable : Bool} {condition side : Sql} {truth : Option Bool}
    (item : nullable = true → side.isItem = true)
    (decided : condition.meaning columns = ofTruth truth) :
    (orNull nullable condition side).meaning columns =
      ofTruth (if nullable && (side.meaning columns).isNull then some true else truth) := by
  cases nullable with
  | false => simpa [orNull] using decided
  | true =>
    have joined : (orNull true condition side).meaning columns =
        ofTruth (kleeneOr (truthOf (condition.meaning columns))
          (truthOf ((isNull side).meaning columns))) := rfl
    rw [joined, decided, meaning_isNull_item (item rfl), truthOf_ofTruth]
    cases (side.meaning columns).isNull <;> rcases truth with _ | _ | _ <;> rfl

end Sql

namespace Expr

/-- The value of the SQL form of an expression in a row, null if the expression has no form. -/
def sqlValue (columns : String → Value) (expr : Expr) : Value :=
  match Sql.ofExpr expr with
  | .ok sql => sql.meaning columns
  | .error _ => .null

/-- Whether an inequality admits a row because a nullable side of it has no value. -/
def admitsNull (columns : String → Value) (relation : Relation) (left right : Expr) : Bool :=
  relation == .ne &&
    (left.isNullableColumn && (left.sqlValue columns).isNull ||
      right.isNullableColumn && (right.sqlValue columns).isNull)

variable {columns : String → Value}

/-- The value of an expression in a row is that of its form. -/
theorem sqlValue_of_ofExpr {expr : Expr} {sql : Sql} (translated : Sql.ofExpr expr = .ok sql) :
    expr.sqlValue columns = sql.meaning columns := by
  simp only [sqlValue, translated]

end Expr

namespace Sql

variable {columns : String → Value}

/-- A relation holds where its comparison does and where it admits null. Only inequality admits
    null. -/
theorem meaning_relation {relation : Relation} {left right : Expr} {leftSql rightSql : Sql}
    {truth : Option Bool} (leftForm : ofExpr left = .ok leftSql)
    (rightForm : ofExpr right = .ok rightSql)
    (decided : (compare relation leftSql rightSql).meaning columns = ofTruth truth) :
    (binaryCondition (.relation relation) left right leftSql rightSql).meaning columns =
      ofTruth (if Expr.admitsNull columns relation left right then some true else truth) := by
  by_cases differs : relation = .ne
  · subst differs
    have leftItem (column : left.isNullableColumn = true) : leftSql.isItem = true :=
      isItem_of_ofExpr leftForm (Expr.isNegation_of_isNullableColumn column)
    have rightItem (column : right.isNullableColumn = true) : rightSql.isItem = true :=
      isItem_of_ofExpr rightForm (Expr.isNegation_of_isNullableColumn column)
    have admitted := meaning_orNull rightItem (meaning_orNull leftItem decided)
    refine Eq.trans admitted (congrArg ofTruth ?_)
    simp only [Expr.admitsNull, Expr.sqlValue_of_ofExpr leftForm,
      Expr.sqlValue_of_ofExpr rightForm, beq_self_eq_true, Bool.true_and, Bool.or_eq_true]
    grind
  · have plain : Expr.admitsNull columns relation left right = false := by
      simp [Expr.admitsNull, differs]
    rw [plain]
    cases relation <;> first | exact decided | contradiction

/-- Beneath negations a truth stays a truth. -/
theorem beneath_truth {test : Sql → Sql}
    (decided : ∀ subject, ∃ truth, (test subject).value columns = ofTruth truth) (sql : Sql) :
    ∃ truth, (beneath test sql).value columns = ofTruth truth := by
  induction sql with
  | not operand inductionHypothesis => exact ⟨_, rfl⟩
  | _ => exact decided _

/-- A comparison has a truth, if only an unknown one. -/
theorem truth_of_compare (relation : Relation) (left right : Sql) :
    ∃ truth, (compare relation left right).meaning columns = ofTruth truth :=
  beneath_truth (fun _ => ⟨_, rfl⟩) left.asRead

/-- Negations and binary conditions have a truth, if only an unknown one. So they never mean a text,
    a number or a date. -/
theorem truth_of_ofExpr {sql : Sql} {expr : Expr} (translated : ofExpr expr = .ok sql)
    (composed : (∃ operand, expr = .not operand) ∨
      ∃ operator left right, expr = .binary operator left right) :
    ∃ truth, sql.meaning columns = ofTruth truth := by
  rcases composed with ⟨operand, rfl⟩ | ⟨operator, left, right, rfl⟩
  · obtain ⟨inner, -, rfl⟩ := ofExpr_not.mp translated
    exact ⟨_, meaning_negation _ _⟩
  · cases operator with
    | and =>
      obtain ⟨leftSql, rightSql, -, -, rfl⟩ := ofExpr_and.mp translated
      exact ⟨_, rfl⟩
    | or =>
      obtain ⟨leftSql, rightSql, -, -, rfl⟩ := ofExpr_or.mp translated
      exact ⟨_, rfl⟩
    | relation relation =>
      cases tested : Expr.nullSide? relation left right with
      | some side =>
        obtain ⟨inner, -, rfl⟩ := (ofExpr_nullTest tested).mp translated
        rw [meaning, asRead, nullTest]
        split
        · exact beneath_truth (fun subject => ⟨some _, rfl⟩) _
        · exact beneath_truth (fun subject => ⟨some _, rfl⟩) _
      | none =>
        obtain ⟨leftSql, rightSql, leftForm, rightForm, rfl⟩ :=
          (ofExpr_relation tested).mp translated
        obtain ⟨truth, decided⟩ := truth_of_compare relation leftSql rightSql
        exact ⟨_, meaning_relation leftForm rightForm decided⟩

end Sql

end RecordQuery
