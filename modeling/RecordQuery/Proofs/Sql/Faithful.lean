import RecordQuery.Proofs.Sql.Carrying

/-!
# Where conditions agree with evaluation

Three places can break the agreement between a condition and evaluation: a comparison with an
unknown side, a null test or an ordering behind a negation sign, and a negation whose operand is
unknown although no nullable column is in sight. An expression is faithful in a row when none
of its parts that evaluation reaches breaks it. Its form then holds for the record exactly when
the expression does, and at the first part that breaks it the two differ.
-/

namespace RecordQuery

namespace Relation

/-- Whether a relation with a right side is turned over when a truth value on its left is. -/
def TurnsWith (relation : Relation) (right : Value) : Prop :=
  ∀ holds, relation.holds (.bool !holds) right = !relation.holds (.bool holds) right

/-- Whether a relation turns over is decided by trying both truth values. -/
instance (relation : Relation) (right : Value) : Decidable (relation.TurnsWith right) :=
  inferInstanceAs (Decidable (∀ _ : Bool, _))

end Relation

namespace Expr

open Sql (Stands)

section

variable (columns : String → Value) (scope : Scope)

/-- Whether a comparison keeps its outcome in a row. A null test must find null only where
    evaluation does, and must not stand behind a negation sign. Where a side is unknown, the
    comparison must hold in memory exactly if it admits null. Behind a negation sign the
    relation must turn over with the sign. -/
def KeepsRelation (relation : Relation) (left right : Expr) : Prop :=
  match nullSide? relation left right with
  | some side =>
      side.isNegation = false ∧
        (side.sqlValue columns = .null → side.valueIn scope = .ok .null)
  | none =>
      if left.sqlValue columns = .null ∨ right.sqlValue columns = .null then
        (binary (.relation relation) left right).truthIn scope = .ok true ↔
          admitsNull columns relation left right = true
      else left.isNegation = true → relation.TurnsWith (right.sqlValue columns)

/-- Whether a negation keeps its outcome in a row: its operand counts as false where unknown,
    or is not unknown. -/
def KeepsNegation (operand : Expr) : Prop :=
  operand.mayBeUnknown = true ∨ operand.sqlValue columns ≠ .null

/-- Whether an expression keeps in a row the outcome that its operands give it in memory. -/
def KeepsOutcome : Expr → Prop
  | not operand => operand.KeepsNegation columns
  | binary (.relation relation) left right => KeepsRelation columns scope relation left right
  | _ => True

/-- The operands that an expression takes truth from, as far as evaluation reaches them. -/
def reachedOperands : Expr → List Expr
  | not operand | lift operand => [operand]
  | binary .and left right => left :: if left.truthIn scope = .ok true then [right] else []
  | binary .or left right => left :: if left.truthIn scope = .ok false then [right] else []
  | binary (.relation _) left right => [left, right]
  | parameter _ | member _ _ | constant _ _ | call _ _ => []

/-- The parts that an expression takes truth from, as far as evaluation reaches them. The arguments
    of calls are not among them, as a call takes no truth from them. -/
def reached : Expr → List Expr
  | not operand => not operand :: reached operand
  | lift operand => lift operand :: reached operand
  | binary .and left right =>
      binary .and left right ::
        (reached left ++ if left.truthIn scope = .ok true then reached right else [])
  | binary .or left right =>
      binary .or left right ::
        (reached left ++ if left.truthIn scope = .ok false then reached right else [])
  | binary (.relation relation) left right =>
      binary (.relation relation) left right :: (reached left ++ reached right)
  | other => [other]

/-- Whether every part that evaluation reaches keeps its outcome in a row. -/
def Faithful (expr : Expr) : Prop :=
  ∀ part ∈ expr.reached scope, part.KeepsOutcome columns scope

/-- What the faithful parts of an expression carry over into a row: a value that stands for
    the value in memory, and behind a negation sign exactly what is negated there. -/
structure Carried (expr : Expr) : Prop where
  stands : ∀ value, expr.valueIn scope = .ok value → Stands (expr.sqlValue columns) value
  beneath : ∀ operand, expr.unlifted = not operand → ∀ holds, operand.truthIn scope = .ok holds →
    Sql.known operand.mayBeUnknown (operand.sqlValue columns) = .bool holds

end

variable {columns : String → Value} {scope : Scope} {sql : Sql}

/-- The constant null is null. It may be lifted any number of times. -/
theorem valueIn_of_isNullConstant {expr : Expr} (null : expr.isNullConstant = true) :
    expr.valueIn scope = .ok .null := by
  induction expr with
  | constant value type =>
    cases value <;> simp [isNullConstant, Value.isNull] at null
    exact valueIn_constant _ _
  | lift operand inductionHypothesis =>
    rw [valueIn_lift]
    exact inductionHypothesis null
  | _ => simp [isNullConstant] at null

/-- A condition that carries an expression over is true when the expression is. -/
theorem Carried.truth_iff {expr : Expr} (carried : expr.Carried columns scope) {holds : Bool}
    (truth : expr.truthIn scope = .ok holds) :
    Sql.truthOf (expr.sqlValue columns) = some true ↔ holds = true := by
  obtain ⟨value, evaluated, known⟩ := truthIn_eq_ok.mp truth
  rw [Sql.truthOf_eq_true, (carried.stands value evaluated).true_iff]
  cases value <;> simp_all [Value.truth?]

/-- What a negation that keeps its outcome negates is the truth of its operand. The split is by
    whether unknown counts as false there. -/
theorem known_of_keepsNegation {operand : Expr} (carried : operand.Carried columns scope)
    (keeps : operand.KeepsNegation columns) {holds : Bool}
    (truth : operand.truthIn scope = .ok holds) :
    Sql.known operand.mayBeUnknown (operand.sqlValue columns) = .bool holds := by
  obtain ⟨value, evaluated, known⟩ := truthIn_eq_ok.mp truth
  have stands := carried.stands value evaluated
  cases unknown : operand.mayBeUnknown with
  | true =>
    rcases stands with same | ⟨missing, rfl⟩
    · rw [same]
      cases value <;> simp_all [Value.truth?, Sql.known, Sql.truthOf]
    · rw [missing]
      simp_all [Value.truth?, Sql.known, Sql.truthOf]
  | false =>
    have valued : operand.sqlValue columns ≠ .null := by
      rcases keeps with absurd | valued
      · simp [unknown] at absurd
      · exact valued
    have same := stands.eq_of_ne_null valued
    rw [same] at valued ⊢
    cases value <;> simp_all [Value.truth?, Sql.known]

/-- The form of a negation stands for it exactly when the negation keeps its outcome. If the operand
    is unknown and does not count as false, the negation is unknown where it should hold. -/
theorem stands_not_iff {operand : Expr} (carried : operand.Carried columns scope)
    (translated : Sql.ofExpr (not operand) = .ok sql) {holds : Bool}
    (truth : operand.truthIn scope = .ok holds) :
    Stands (sql.meaning columns) (.bool !holds) ↔ operand.KeepsNegation columns := by
  obtain ⟨inner, operandForm, rfl⟩ := Sql.ofExpr_not.mp translated
  rw [Sql.meaning_negation, ← sqlValue_of_ofExpr operandForm]
  constructor
  · intro stands
    by_contra breaks
    obtain ⟨certain, missing⟩ := not_or.mp breaks
    have unknown : operand.sqlValue columns = .null := not_not.mp missing
    -- The unknown operand is false in memory, so its negation is true but still unknown.
    have fails : holds = false := by
      simpa [unknown, Sql.truthOf] using carried.truth_iff truth
    rw [unknown, fails] at stands
    simp [Sql.known, certain, Sql.negated, Sql.truthOf, Sql.ofTruth, Stands] at stands
  · intro keeps
    rw [known_of_keepsNegation carried keeps truth]
    exact .inl rfl

/-- A form stands for a conjunction when it does for the sides that count. The right side counts
    only where the left holds, as in evaluation. -/
theorem stands_and {left right : Expr} (leftCarried : left.Carried columns scope)
    (rightCarried : left.truthIn scope = .ok true → right.Carried columns scope)
    (translated : Sql.ofExpr (binary .and left right) = .ok sql) {value : Value}
    (evaluated : (binary .and left right).valueIn scope = .ok value) :
    Stands (sql.meaning columns) value := by
  obtain ⟨leftSql, rightSql, leftForm, rightForm, rfl⟩ := Sql.ofExpr_and.mp translated
  have joined : (Sql.group (.and leftSql rightSql)).meaning columns =
      Sql.ofTruth (Sql.kleeneAnd (Sql.truthOf (left.sqlValue columns))
        (Sql.truthOf (right.sqlValue columns))) := by
    rw [sqlValue_of_ofExpr leftForm, sqlValue_of_ofExpr rightForm]
    rfl
  rw [joined]
  rcases valueIn_and.mp evaluated with ⟨fails, rfl⟩ | ⟨first, holds, second, rfl⟩
  · rw [Sql.stands_ofTruth, Sql.kleeneAnd_eq_true, leftCarried.truth_iff fails]
    simp
  · rw [Sql.stands_ofTruth, Sql.kleeneAnd_eq_true, leftCarried.truth_iff first,
      (rightCarried first).truth_iff second]
    simp

/-- A form stands for a disjunction when it does for the sides that count. The right side counts
    only where the left fails to hold, as in evaluation. -/
theorem stands_or {left right : Expr} (leftCarried : left.Carried columns scope)
    (rightCarried : left.truthIn scope = .ok false → right.Carried columns scope)
    (translated : Sql.ofExpr (binary .or left right) = .ok sql) {value : Value}
    (evaluated : (binary .or left right).valueIn scope = .ok value) :
    Stands (sql.meaning columns) value := by
  obtain ⟨leftSql, rightSql, leftForm, rightForm, rfl⟩ := Sql.ofExpr_or.mp translated
  have joined : (Sql.group (.or leftSql rightSql)).meaning columns =
      Sql.ofTruth (Sql.kleeneOr (Sql.truthOf (left.sqlValue columns))
        (Sql.truthOf (right.sqlValue columns))) := by
    rw [sqlValue_of_ofExpr leftForm, sqlValue_of_ofExpr rightForm]
    rfl
  rw [joined]
  rcases valueIn_or.mp evaluated with ⟨first, rfl⟩ | ⟨fails, holds, second, rfl⟩
  · rw [Sql.stands_ofTruth, Sql.kleeneOr_eq_true, leftCarried.truth_iff first]
    simp
  · rw [Sql.stands_ofTruth, Sql.kleeneOr_eq_true, leftCarried.truth_iff fails,
      (rightCarried fails).truth_iff second]
    simp

/-- The outcome of a null test in place of a relation. -/
def nullTested (relation : Relation) (missing : Bool) : Bool :=
  if relation = .eq then missing else !missing

/-- The outcome of a null test tells null from all else. -/
theorem nullTested_inj {relation : Relation} {first second : Bool} :
    nullTested relation first = nullTested relation second ↔ first = second := by
  unfold nullTested
  split <;> simp

/-- Beside the constant null, an equality comes to a null test of the other side. The other side is
    null in memory exactly if the equality holds. -/
theorem holds_of_nullSide {relation : Relation} {left right side : Expr}
    (tested : nullSide? relation left right = some side) {holds : Bool}
    (evaluated : (binary (.relation relation) left right).valueIn scope = .ok (.bool holds)) :
    ∃ value, side.valueIn scope = .ok value ∧ holds = nullTested relation value.isNull := by
  obtain ⟨leftValue, rightValue, leftGiven, rightGiven, -, outcome⟩ :=
    valueIn_relation.mp evaluated
  obtain rfl := Value.bool.inj outcome
  obtain ⟨equality, ⟨rfl, nullRight⟩ | ⟨rfl, nullLeft⟩⟩ := sides_of_nullSide tested
  · obtain rfl := Except.ok.inj ((valueIn_of_isNullConstant nullRight).symm.trans rightGiven)
    refine ⟨leftValue, leftGiven, ?_⟩
    rcases equality with rfl | rfl <;> cases leftValue <;> rfl
  · obtain rfl := Except.ok.inj ((valueIn_of_isNullConstant nullLeft).symm.trans leftGiven)
    refine ⟨rightValue, rightGiven, ?_⟩
    rcases equality with rfl | rfl <;> cases rightValue <;> rfl

/-- A null test behind an item tests whether the item is null. -/
theorem meaning_nullTest_item (relation : Relation) {inner : Sql} (item : inner.isItem = true) :
    (Sql.group (Sql.nullTest relation inner)).meaning columns =
      .bool (nullTested relation (inner.meaning columns).isNull) := by
  rw [Sql.meaning, Sql.asRead, Sql.nullTest, nullTested]
  split <;> rw [Sql.asRead, Sql.beneath_item _ item] <;> rfl

/-- A null test behind a negation sign meets the truth value that is negated there, which is not
    null, and its own outcome is negated. -/
theorem meaning_nullTest_negation (relation : Relation) {inner : Sql} {mayBeUnknown truth : Bool}
    (beneath : Sql.known mayBeUnknown (inner.meaning columns) = .bool truth) :
    (Sql.group (Sql.nullTest relation (Sql.negation mayBeUnknown inner))).meaning columns =
      .bool !(nullTested relation false) := by
  rw [Sql.meaning, Sql.asRead, Sql.nullTest, nullTested]
  split
  · rw [Sql.asRead, Sql.value, Sql.beneath_negation (fun subject => .bool subject.isNull)
      fun _ => rfl, beneath]
    rfl
  · rw [Sql.asRead, Sql.value, Sql.beneath_negation (fun subject => .bool !subject.isNull)
      fun _ => rfl, beneath]
    rfl

/-- A null test stands for the equality it replaces exactly when it keeps the outcome. Behind a
    negation sign the test is read beneath it, and elsewhere it may find null where evaluation finds
    false. -/
theorem stands_nullTest_iff {relation : Relation} {left right side : Expr}
    (tested : nullSide? relation left right = some side) (carried : side.Carried columns scope)
    (translated : Sql.ofExpr (binary (.relation relation) left right) = .ok sql) {holds : Bool}
    (evaluated : (binary (.relation relation) left right).valueIn scope = .ok (.bool holds)) :
    Stands (sql.meaning columns) (.bool holds) ↔
      KeepsRelation columns scope relation left right := by
  obtain ⟨inner, sideForm, rfl⟩ := (Sql.ofExpr_nullTest tested).mp translated
  obtain ⟨value, sideGiven, rfl⟩ := holds_of_nullSide tested evaluated
  simp only [KeepsRelation, tested]
  cases opens : side.isNegation with
  | false =>
    have stands := carried.stands value sideGiven
    rw [meaning_nullTest_item relation (Sql.isItem_of_ofExpr sideForm opens),
      ← sqlValue_of_ofExpr sideForm, sideGiven]
    simp only [true_and, Except.ok.injEq]
    constructor
    · rintro (same | ⟨absurd, -⟩) missing
      · rw [missing] at same
        have found : true = value.isNull := nullTested_inj.mp (Value.bool.inj same)
        cases value <;> first | rfl | cases found
      · cases absurd
    · intro keeps
      have same : (side.sqlValue columns).isNull = value.isNull := by
        rcases stands with same | ⟨missing, truth⟩
        · rw [same]
        · rw [missing, keeps missing]
      rw [same]
      exact .inl rfl
  | true =>
    obtain ⟨operand, negation⟩ := unlifted_of_isNegation opens
    rw [← valueIn_unlifted, negation] at sideGiven
    obtain ⟨truth, operandTruth, rfl⟩ := valueIn_not.mp sideGiven
    have beneath := carried.beneath operand negation truth operandTruth
    rw [← Sql.ofExpr_unlifted, negation] at sideForm
    obtain ⟨negated, operandForm, rfl⟩ := Sql.ofExpr_not.mp sideForm
    rw [sqlValue_of_ofExpr operandForm] at beneath
    rw [meaning_nullTest_negation relation beneath]
    simp [Stands, Value.isNull]

/-- A relation between truth values turns with one truth value on its left when it turns with
    the other. -/
theorem turnsWith_iff (relation : Relation) (left right : Bool) :
    relation.TurnsWith (.bool right) ↔
      relation.holds (.bool !left) (.bool right) = !relation.holds (.bool left) (.bool right) := by
  cases relation <;> cases left <;> cases right <;> decide

/-- No row is admitted for a missing value when both sides have one. It asks about the row and not
    about whether a column is nullable. -/
theorem admitsNull_eq_false {relation : Relation} {left right : Expr}
    (valued : ¬(left.sqlValue columns = .null ∨ right.sqlValue columns = .null)) :
    admitsNull columns relation left right = false := by
  obtain ⟨leftValued, rightValued⟩ := not_or.mp valued
  have leftFound : (left.sqlValue columns).isNull = false := by
    cases found : left.sqlValue columns <;> first | rfl | exact absurd found leftValued
  have rightFound : (right.sqlValue columns).isNull = false := by
    cases found : right.sqlValue columns <;> first | rfl | exact absurd found rightValued
  simp [admitsNull, leftFound, rightFound]

/-- The truth of a comparison as it is written: of the values of its sides, or turned over
    twice where the left side opens with a negation sign. -/
def comparedTruth (columns : String → Value) (relation : Relation) (left right : Expr) :
    Option Bool :=
  if left.isNegation then
    (Sql.related relation (Sql.negated (left.sqlValue columns)) (right.sqlValue columns)).map (!·)
  else Sql.related relation (left.sqlValue columns) (right.sqlValue columns)

/-- A comparison with an unknown side is unknown. A negation sign in front leaves it unknown. -/
theorem comparedTruth_of_missing {relation : Relation} {left right : Expr}
    (missing : left.sqlValue columns = .null ∨ right.sqlValue columns = .null) :
    comparedTruth columns relation left right = none := by
  unfold comparedTruth
  split
  · rw [Sql.related_eq_none.mpr (missing.imp_left Sql.negated_eq_null.mpr)]
    rfl
  · exact Sql.related_eq_none.mpr missing

/-- A comparison has the truth that it is written with. Behind a negation sign it is the comparison
    that is negated, not the side. -/
theorem meaning_compare {relation : Relation} {left right : Expr} {leftSql rightSql : Sql}
    (carried : left.Carried columns scope) (leftForm : Sql.ofExpr left = .ok leftSql)
    (rightForm : Sql.ofExpr right = .ok rightSql) {leftValue : Value}
    (leftGiven : left.valueIn scope = .ok leftValue) :
    (Sql.compare relation leftSql rightSql).meaning columns =
      Sql.ofTruth (comparedTruth columns relation left right) := by
  unfold comparedTruth
  rw [sqlValue_of_ofExpr leftForm, sqlValue_of_ofExpr rightForm]
  cases opens : left.isNegation with
  | false =>
    rw [if_neg Bool.false_ne_true]
    exact Sql.meaning_compare_item (Sql.isItem_of_ofExpr leftForm opens)
  | true =>
    rw [if_pos rfl]
    obtain ⟨operand, negation⟩ := unlifted_of_isNegation opens
    rw [← valueIn_unlifted, negation] at leftGiven
    obtain ⟨truth, operandTruth, rfl⟩ := valueIn_not.mp leftGiven
    have beneath := carried.beneath operand negation truth operandTruth
    rw [← Sql.ofExpr_unlifted, negation] at leftForm
    obtain ⟨inner, operandForm, rfl⟩ := Sql.ofExpr_not.mp leftForm
    rw [sqlValue_of_ofExpr operandForm] at beneath
    rw [Sql.meaning_compare_negation, Sql.meaning_negation, beneath]
    cases truth <;> rfl

/-- With an unknown side, a comparison keeps its outcome when it holds in memory exactly if it
    admits null. It is the definition for this case, spelled out. -/
theorem keepsRelation_of_missing {relation : Relation} {left right : Expr}
    (untested : nullSide? relation left right = none)
    (missing : left.sqlValue columns = .null ∨ right.sqlValue columns = .null) :
    KeepsRelation columns scope relation left right ↔
      ((binary (.relation relation) left right).truthIn scope = .ok true ↔
        admitsNull columns relation left right = true) := by
  simp only [KeepsRelation, untested, if_pos missing]

/-- With values on both sides, a comparison keeps its outcome unless it stands behind a negation
    sign and does not turn over with it. -/
theorem keepsRelation_of_valued {relation : Relation} {left right : Expr}
    (untested : nullSide? relation left right = none)
    (valued : ¬(left.sqlValue columns = .null ∨ right.sqlValue columns = .null)) :
    KeepsRelation columns scope relation left right ↔
      (left.isNegation = true → relation.TurnsWith (right.sqlValue columns)) := by
  simp only [KeepsRelation, untested, if_neg valued]

/-- Any other relation stands for the one in memory exactly when it keeps the outcome.

    Proof: with an unknown side the comparison is unknown and stands for false, unless the relation
    admits null. With both sides known the relation is that of memory, but behind a negation sign it
    is turned over, which is the same only if the relation turns with it. -/
theorem stands_relation_iff {relation : Relation} {left right : Expr}
    (untested : nullSide? relation left right = none) (leftCarried : left.Carried columns scope)
    (rightCarried : right.Carried columns scope)
    (translated : Sql.ofExpr (binary (.relation relation) left right) = .ok sql) {holds : Bool}
    (evaluated : (binary (.relation relation) left right).valueIn scope = .ok (.bool holds)) :
    Stands (sql.meaning columns) (.bool holds) ↔
      KeepsRelation columns scope relation left right := by
  obtain ⟨leftSql, rightSql, leftForm, rightForm, rfl⟩ :=
    (Sql.ofExpr_relation untested).mp translated
  have truth : (binary (.relation relation) left right).truthIn scope = .ok holds :=
    truthIn_eq_ok.mpr ⟨_, evaluated, rfl⟩
  obtain ⟨leftValue, rightValue, leftGiven, rightGiven, comparable, outcome⟩ :=
    valueIn_relation.mp evaluated
  obtain rfl := Value.bool.inj outcome
  rw [Sql.meaning_relation leftForm rightForm
    (meaning_compare leftCarried leftForm rightForm leftGiven), Sql.stands_ofTruth]
  by_cases missing : left.sqlValue columns = .null ∨ right.sqlValue columns = .null
  · rw [keepsRelation_of_missing untested missing, comparedTruth_of_missing missing, truth]
    cases admitsNull columns relation left right <;>
      cases relation.holds leftValue rightValue <;> simp
  · obtain ⟨leftValued, rightValued⟩ := not_or.mp missing
    have leftSame := (leftCarried.stands leftValue leftGiven).eq_of_ne_null leftValued
    have rightSame := (rightCarried.stands rightValue rightGiven).eq_of_ne_null rightValued
    rw [keepsRelation_of_valued untested missing, admitsNull_eq_false missing,
      if_neg Bool.false_ne_true, comparedTruth, leftSame, rightSame]
    rw [leftSame] at leftValued
    rw [rightSame] at rightValued
    cases opens : left.isNegation with
    | false => simp [Sql.related_of_valued leftValued rightValued]
    | true =>
      obtain ⟨leftTruth, rfl⟩ := truth_of_isNegation opens leftGiven
      obtain ⟨rightTruth, rfl⟩ : ∃ rightTruth, rightValue = .bool rightTruth := by
        cases rightValue <;>
          simp [Value.comparable, Value.type?, DataType.isNumber, DataType.numberKind?,
            DataType.base] at comparable rightValued ⊢
      have turned : Sql.related relation (Sql.negated (.bool leftTruth)) (.bool rightTruth) =
          some (relation.holds (.bool !leftTruth) (.bool rightTruth)) := rfl
      rw [turnsWith_iff relation leftTruth rightTruth, if_pos rfl, turned]
      cases relation.holds (.bool !leftTruth) (.bool rightTruth) <;>
        cases relation.holds (.bool leftTruth) (.bool rightTruth) <;> simp

/-- The operands that an expression may take truth from. -/
def operands : Expr → List Expr
  | not operand | lift operand => [operand]
  | binary _ left right => [left, right]
  | parameter _ | member _ _ | constant _ _ | call _ _ => []

/-- A property that every expression takes over from these operands holds of all. It leaves out what
    stands inside calls, which take no truth from it. -/
theorem induct_operands {motive : Expr → Prop}
    (step : ∀ expr, (∀ operand ∈ expr.operands, motive operand) → motive expr) (expr : Expr) :
    motive expr := by
  induction expr with
  | not operand inductionHypothesis => exact step _ (by simpa [operands])
  | lift operand inductionHypothesis => exact step _ (by simpa [operands])
  | binary operator left right leftHypothesis rightHypothesis =>
    exact step _ (by simpa [operands] using ⟨leftHypothesis, rightHypothesis⟩)
  | _ => exact step _ (by simp [operands])

/-- Evaluation reaches no other operands. -/
theorem reachedOperands_subset (expr : Expr) : expr.reachedOperands scope ⊆ expr.operands := by
  cases expr with
  | binary operator left right =>
    cases operator <;> simp only [reachedOperands, operands] <;> try split
    all_goals simp
  | _ => simp [reachedOperands, operands]

/-- Evaluation reaches an expression and what it reaches of the operands reached. It unfolds the
    recursion once, so that inductions need not look at the operators. -/
theorem mem_reached (expr : Expr) {part : Expr} :
    part ∈ expr.reached scope ↔
      part = expr ∨ ∃ operand ∈ expr.reachedOperands scope, part ∈ operand.reached scope := by
  cases expr with
  | binary operator left right =>
    cases operator <;> simp only [reachedOperands, reached] <;> try split
    all_goals simp
  | _ => simp [reachedOperands, reached]

/-- An expression is faithful when it keeps its own outcome and the operands reached are
    faithful. -/
theorem faithful_iff {expr : Expr} :
    expr.Faithful columns scope ↔ expr.KeepsOutcome columns scope ∧
      ∀ operand ∈ expr.reachedOperands scope, operand.Faithful columns scope := by
  unfold Faithful
  simp only [mem_reached expr]
  grind

/-- Members, constants and calls take truth from no operand, so they are always faithful. -/
theorem faithful_of_reachedOperands {expr : Expr} (none : expr.reachedOperands scope = [])
    (keeps : expr.KeepsOutcome columns scope) : expr.Faithful columns scope :=
  faithful_iff.mpr ⟨keeps, by simp [none]⟩

/-- A row for an expression is one for its operands. A row says something of all parts, and operands
    have fewer. -/
theorem RowOf.of_mem_operands {expr operand : Expr} (row : expr.RowOf columns scope)
    (member : operand ∈ expr.operands) : operand.RowOf columns scope := by
  refine row.of_subset fun part inOperand => ?_
  cases expr with
  | not inner | lift inner =>
    obtain rfl := List.mem_singleton.mp member
    exact List.mem_cons_of_mem _ inOperand
  | binary operator left right =>
    refine List.mem_cons_of_mem _ (List.mem_append.mpr ?_)
    rcases List.mem_cons.mp member with rfl | second
    · exact .inl inOperand
    · obtain rfl := List.mem_singleton.mp second
      exact .inr inOperand
  | _ => cases member

/-- The constant null has a form. It is written as the word for null. -/
theorem ofExpr_of_isNullConstant {expr : Expr} (null : expr.isNullConstant = true) :
    ∃ form, Sql.ofExpr expr = .ok form := by
  induction expr with
  | constant value type =>
    cases value <;> simp [isNullConstant, Value.isNull] at null
    exact ⟨_, rfl⟩
  | lift operand inductionHypothesis =>
    rw [Sql.ofExpr_lift]
    exact inductionHypothesis null
  | _ => simp [isNullConstant] at null

/-- The operands of a translated expression have forms of their own. It includes the side that a
    null test drops, which is the constant null. -/
theorem ofExpr_of_mem_operands {expr operand : Expr} (translated : Sql.ofExpr expr = .ok sql)
    (member : operand ∈ expr.operands) : ∃ form, Sql.ofExpr operand = .ok form := by
  cases expr with
  | not inner =>
    obtain rfl := List.mem_singleton.mp member
    obtain ⟨form, operandForm, -⟩ := Sql.ofExpr_not.mp translated
    exact ⟨form, operandForm⟩
  | lift inner =>
    obtain rfl := List.mem_singleton.mp member
    rw [Sql.ofExpr_lift] at translated
    exact ⟨sql, translated⟩
  | binary operator left right =>
    have forms : (∃ form, Sql.ofExpr left = .ok form) ∧ ∃ form, Sql.ofExpr right = .ok form := by
      cases operator with
      | and =>
        obtain ⟨leftSql, rightSql, leftForm, rightForm, -⟩ := Sql.ofExpr_and.mp translated
        exact ⟨⟨_, leftForm⟩, _, rightForm⟩
      | or =>
        obtain ⟨leftSql, rightSql, leftForm, rightForm, -⟩ := Sql.ofExpr_or.mp translated
        exact ⟨⟨_, leftForm⟩, _, rightForm⟩
      | relation relation =>
        cases tested : nullSide? relation left right with
        | none =>
          obtain ⟨leftSql, rightSql, leftForm, rightForm, -⟩ :=
            (Sql.ofExpr_relation tested).mp translated
          exact ⟨⟨_, leftForm⟩, _, rightForm⟩
        | some side =>
          obtain ⟨inner, sideForm, -⟩ := (Sql.ofExpr_nullTest tested).mp translated
          rcases (sides_of_nullSide tested).2 with ⟨rfl, null⟩ | ⟨rfl, null⟩
          · exact ⟨⟨_, sideForm⟩, ofExpr_of_isNullConstant null⟩
          · exact ⟨ofExpr_of_isNullConstant null, _, sideForm⟩
    rcases List.mem_cons.mp member with rfl | second
    · exact forms.1
    · obtain rfl := List.mem_singleton.mp second
      exact forms.2
  | _ => cases member

/-- If the operands reached are carried over, the form of an expression stands for it exactly when
    the expression keeps its outcome. The cases are the kinds of nodes, and each has its own lemma
    above. -/
theorem stands_iff_keepsOutcome {expr : Expr} (row : expr.RowOf columns scope)
    (carried : ∀ operand ∈ expr.reachedOperands scope, operand.Carried columns scope)
    (translated : Sql.ofExpr expr = .ok sql) {value : Value}
    (evaluated : expr.valueIn scope = .ok value) :
    Stands (sql.meaning columns) value ↔ expr.KeepsOutcome columns scope := by
  cases expr with
  | parameter p => simp [Sql.ofExpr] at translated
  | member target m => exact iff_of_true (.inl (meaning_member row translated evaluated)) trivial
  | constant constant type =>
    exact iff_of_true (.inl (meaning_constant row translated evaluated)) trivial
  | not operand =>
    obtain ⟨holds, truth, rfl⟩ := valueIn_not.mp evaluated
    exact stands_not_iff (carried operand (by simp [reachedOperands])) translated truth
  | lift operand =>
    rw [valueIn_lift] at evaluated
    rw [Sql.ofExpr_lift] at translated
    refine iff_of_true ?_ trivial
    rw [← sqlValue_of_ofExpr translated]
    exact (carried operand (by simp [reachedOperands])).stands value evaluated
  | binary operator left right =>
    cases operator with
    | and =>
      refine iff_of_true (stands_and ?_ (fun holds => ?_) translated evaluated) trivial
      · exact carried left (by simp [reachedOperands])
      · exact carried right (by simp [reachedOperands, holds])
    | or =>
      refine iff_of_true (stands_or ?_ (fun fails => ?_) translated evaluated) trivial
      · exact carried left (by simp [reachedOperands])
      · exact carried right (by simp [reachedOperands, fails])
    | relation relation =>
      have leftCarried := carried left (by simp [reachedOperands])
      have rightCarried := carried right (by simp [reachedOperands])
      obtain ⟨_, _, -, -, -, rfl⟩ := valueIn_relation.mp evaluated
      cases tested : nullSide? relation left right with
      | some side =>
        have sideCarried : side.Carried columns scope := by
          rcases (sides_of_nullSide tested).2 with ⟨rfl, -⟩ | ⟨rfl, -⟩
          · exact leftCarried
          · exact rightCarried
        exact stands_nullTest_iff tested sideCarried translated evaluated
      | none => exact stands_relation_iff tested leftCarried rightCarried translated evaluated
  | call method arguments =>
    refine iff_of_true ?_ trivial
    cases method with
    | month => exact stands_month row translated evaluated
    | inSet => exact stands_inSet row translated evaluated
    | _ => exact stands_textTest rfl row translated evaluated

/-- A faithful expression is carried over.

    Proof: induction on the operands. Those that evaluation reaches are carried over, so the form
    stands for the expression by the lemma before, and then also behind a negation sign. -/
theorem Faithful.carried {expr : Expr} (row : expr.RowOf columns scope)
    (translated : Sql.ofExpr expr = .ok sql) (faithful : expr.Faithful columns scope) :
    expr.Carried columns scope := by
  induction expr using induct_operands generalizing sql with
  | step expr inductionHypothesis =>
    obtain ⟨keeps, operandsFaithful⟩ := faithful_iff.mp faithful
    have carried (operand : Expr) (reached : operand ∈ expr.reachedOperands scope) :
        operand.Carried columns scope := by
      have member := reachedOperands_subset expr reached
      obtain ⟨form, operandForm⟩ := ofExpr_of_mem_operands translated member
      exact inductionHypothesis operand member (row.of_mem_operands member) operandForm
        (operandsFaithful operand reached)
    constructor
    · intro value evaluated
      rw [sqlValue_of_ofExpr translated]
      exact (stands_iff_keepsOutcome row carried translated evaluated).mpr keeps
    · intro operand negation holds truth
      cases expr with
      | not inner =>
        obtain rfl := Expr.not.inj negation
        exact known_of_keepsNegation (carried inner (by simp [reachedOperands])) keeps truth
      | lift inner =>
        exact (carried inner (by simp [reachedOperands])).beneath operand negation holds truth
      | _ => cases negation

end Expr

end RecordQuery
