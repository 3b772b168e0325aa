import RecordQuery.Proofs.Sql.Forms
import RecordQuery.Proofs.Sql.Grammar
import RecordQuery.Proofs.Sql.Reading

/-!
# The trees of conditions

An expression determines the tree that its condition should be read as, node by node: each test
and each connective stands over the trees of its own operands. The tree of an SQL form is that tree
without its parentheses. The tree that the text of the form is read as may differ from it, and does
so exactly where a test stands behind a negation, which is then read beneath the negation sign.
-/

namespace RecordQuery

/-- The constant that a numeral with or without a sign denotes. A sign is kept apart from the
    digits, as the text of a statement has it. -/
def SqlLiteral.ofNumeral (text : String) : SqlLiteral :=
  match text.toList with
  | '-' :: digits => number true (String.ofList digits)
  | digits => number false (String.ofList digits)

/-- The constants in a set. -/
def SqlMembers.literals : SqlMembers → List SqlLiteral
  | ints values => values.map fun value => .ofNumeral (Text.ofInt value)
  | texts values => values.map .text

namespace Value

/-- The constant for a value; sequences and numbers that are not finite have none. Dates stand in
    texts, so they have the constant of one. -/
def sqlLiteral? : Value → Option SqlLiteral
  | null => some .null
  | text content => some (.text content)
  | bool value => some (.truth value)
  | number value => if value.isFinite then some (.ofNumeral value.text) else none
  | date value => some (.text value.text)
  | ints _ | texts _ => none

/-- The members of a sequence. -/
def sqlMembers? : Value → Option SqlMembers
  | ints values => some (.ints values)
  | texts values => some (.texts values)
  | _ => none

end Value

namespace SqlTree

/-- The null test in place of an equality or inequality with null. -/
def nullTest (relation : Relation) (side : SqlTree) : SqlTree :=
  if relation = .eq then isNull side else isNotNull side

/-- A condition that also admits rows where a nullable side has no value. -/
def orNull (nullable : Bool) (condition side : SqlTree) : SqlTree :=
  if nullable then or condition (isNull side) else condition

/-- A relation over the trees of its sides. An equality or inequality with null tests the other
    side, and an inequality also holds where a nullable side has no value. -/
def relate? (relation : Relation) (left right : Expr) (leftTree rightTree : Option SqlTree) :
    Option SqlTree :=
  if (relation = .eq ∨ relation = .ne) ∧ right.isNullConstant then leftTree.map (nullTest relation)
  else if (relation = .eq ∨ relation = .ne) ∧ left.isNullConstant then
    rightTree.map (nullTest relation)
  else do
    let leftTree ← leftTree
    let rightTree ← rightTree
    let compared := compare relation leftTree rightTree
    if relation = .ne then
      return orNull right.isNullableColumn (orNull left.isNullableColumn compared leftTree)
        rightTree
    else return compared

end SqlTree

/-- The tree of an expression. Lifts leave no trace in it, what a negation negates counts as false
    where it may be unknown, and nothing is in the empty set. -/
def Expr.sqlTree? : Expr → Option SqlTree
  | member _ m => some (.column m.name)
  | parameter _ => none
  | constant value _ => value.sqlLiteral?.map .literal
  | lift operand => operand.sqlTree?
  | not operand => do
      let tree ← operand.sqlTree?
      return .not (if operand.mayBeUnknown then .coalesce tree (.literal (.truth false)) else tree)
  | binary .and left right => do return .and (← left.sqlTree?) (← right.sqlTree?)
  | binary .or left right => do return .or (← left.sqlTree?) (← right.sqlTree?)
  | binary (.relation relation) left right =>
      SqlTree.relate? relation left right left.sqlTree? right.sqlTree?
  | call .month [subject] => subject.sqlTree?.map .month
  | call .inSet [constant set _, item] => do
      let members ← set.sqlMembers?
      if members.isEmpty then return .literal (.truth false)
      else return .within (← item.sqlTree?) members.literals
  | call method [subject, constant (.text content) _] =>
      if method.isTextTest then
        subject.sqlTree?.map fun tree =>
          .like tree (String.ofList (Sql.pattern (Sql.anchorOf method) content)) "\\"
      else none
  | call _ _ => none

namespace Sql

/-- The tree of a form, without its parentheses. What parentheses only mark is the shape of the tree
    already. -/
def tree : Sql → SqlTree
  | column name => .column name
  | null => .literal .null
  | truth value => .literal (.truth value)
  | text value => .literal (.text value)
  | number value => .literal (.ofNumeral value.text)
  | date value => .literal (.text value.text)
  | group inner => inner.tree
  | compare relation left right => .compare relation left.tree right.tree
  | and left right => .and left.tree right.tree
  | or left right => .or left.tree right.tree
  | not operand => .not operand.tree
  | isNull operand => .isNull operand.tree
  | isNotNull operand => .isNotNull operand.tree
  | orFalse operand => .coalesce operand.tree (.literal (.truth false))
  | month operand => .month operand.tree
  | like subject anchor content =>
      .like subject.tree (String.ofList (pattern anchor content)) "\\"
  | within item members => .within item.tree members.literals

/-- Whether a form is read as a negation. A test of what is read as a negation is itself read as
    one. -/
def isReadAsNot (sql : Sql) : Bool :=
  match sql.asRead with
  | not _ => true
  | _ => false

/-- Whether a test in a form stands behind what is read as a negation. There the negation binds less
    than the test, so it is read as one of the whole test. -/
def testsNegation : Sql → Bool
  | compare _ left right => left.isReadAsNot || left.testsNegation || right.testsNegation
  | isNull operand | isNotNull operand | like operand _ _ | within operand _ =>
      operand.isReadAsNot || operand.testsNegation
  | group inner | not inner | orFalse inner | month inner => inner.testsNegation
  | and left right | or left right => left.testsNegation || right.testsNegation
  | _ => false

variable {sql : Sql}

/-- A test keeps its place exactly when what it tests is not read as a negation. Behind one, the
    test moves beneath the negation, and what comes out is a negation and no test. -/
theorem tree_beneath_iff {test : Sql → Sql} {expected : SqlTree} (subject : Sql)
    (positive : ∀ operand, expected ≠ .not operand) :
    (beneath test subject.asRead).tree = expected ↔
      subject.isReadAsNot = false ∧ (test subject.asRead).tree = expected := by
  unfold isReadAsNot
  cases subject.asRead with
  | not operand =>
    have negated : (beneath test (not operand)).tree ≠ expected := fun same => positive _ same.symm
    simp [negated]
  | _ => simp [beneath]

/-- The text of a form is read as its tree exactly when no test stands behind a negation. The
    induction follows the form: a test asks this of its own subject, and all other forms of their
    parts. -/
theorem tree_asRead_iff : sql.asRead.tree = sql.tree ↔ sql.testsNegation = false := by
  induction sql with
  | compare relation left right leftHypothesis rightHypothesis =>
    rw [asRead, tree_beneath_iff left (by simp [tree])]
    simp [tree, testsNegation, leftHypothesis, rightHypothesis, and_assoc]
  | isNull operand inductionHypothesis | isNotNull operand inductionHypothesis
  | like operand _ _ inductionHypothesis | within operand _ inductionHypothesis =>
    rw [asRead, tree_beneath_iff operand (by simp [tree])]
    simp [tree, testsNegation, inductionHypothesis]
  | and left right leftHypothesis rightHypothesis | or left right leftHypothesis rightHypothesis =>
    simp [asRead, tree, testsNegation, leftHypothesis, rightHypothesis]
  | group inner inductionHypothesis | not inner inductionHypothesis
  | orFalse inner inductionHypothesis | month inner inductionHypothesis =>
    simp [asRead, tree, testsNegation, inductionHypothesis]
  | _ => simp [asRead, testsNegation]

/-- There is no test in a literal. -/
theorem testsNegation_of_ofValue {value : Value} (literal : ofValue value = .ok sql) :
    sql.testsNegation = false := by
  unfold ofValue at literal
  split at literal <;> try split at literal
  all_goals cases literal
  all_goals rfl

/-- The literal of a constant has the tree of the constant. Both are missing for what has no
    literal. -/
theorem sqlLiteral_of_ofValue {value : Value} (literal : ofValue value = .ok sql) :
    value.sqlLiteral?.map .literal = some sql.tree := by
  unfold ofValue at literal
  split at literal
  case h_4 given =>
    split at literal <;> cases literal
    rename_i finite
    simp [Value.sqlLiteral?, finite, tree]
  all_goals cases literal
  all_goals rfl

/-- A set is a constant sequence. -/
theorem sqlMembers_of_membersOf {set : Expr} {members : SqlMembers}
    (read : membersOf set = .ok members) :
    ∃ value type, set = .constant value type ∧ value.sqlMembers? = some members := by
  unfold membersOf at read
  split at read <;> cases read
  all_goals exact ⟨_, _, rfl, rfl⟩

/-- A condition that also admits null has the tree of one. -/
theorem tree_orNull (nullable : Bool) (condition side : Sql) :
    (orNull nullable condition side).tree = .orNull nullable condition.tree side.tree := by
  cases nullable <;> rfl

/-- A null test has the tree of one. -/
theorem tree_nullTest (relation : Relation) (side : Sql) :
    (nullTest relation side).tree = .nullTest relation side.tree := by
  unfold nullTest SqlTree.nullTest
  split <;> rfl

end Sql

namespace SqlTree

variable {relation : Relation} {left right side : Expr}

/-- An equality with null is a null test of its other side. The tree of the constant is not asked
    for. -/
theorem relate_of_nullSide (tested : Expr.nullSide? relation left right = some side)
    (trees : Expr → Option SqlTree) :
    relate? relation left right (trees left) (trees right) =
      (trees side).map (nullTest relation) := by
  unfold Expr.nullSide? at tested
  split at tested <;> try cases tested
  rename_i equality
  unfold relate?
  split at tested
  · rename_i nullRight
    cases tested
    rw [if_pos ⟨equality, nullRight⟩]
  · rename_i valuedRight
    split at tested <;> cases tested
    rename_i nullLeft
    rw [if_neg fun both => valuedRight both.2, if_pos ⟨equality, nullLeft⟩]

/-- Every other relation stands over the trees of both sides. For an inequality, the tests that
    admit null are part of the tree. -/
theorem relate_of_valued (valued : Expr.nullSide? relation left right = none)
    (leftSql rightSql : Sql) :
    relate? relation left right (some leftSql.tree) (some rightSql.tree) =
      some (Sql.binaryCondition (.relation relation) left right leftSql rightSql).tree := by
  have plain (expr : Expr) (constant : expr = left ∨ expr = right) :
      ¬((relation = .eq ∨ relation = .ne) ∧ expr.isNullConstant = true) := by
    rintro ⟨equality, isNull⟩
    rw [Expr.nullSide?, if_pos equality] at valued
    rcases constant with rfl | rfl <;> grind
  unfold relate?
  rw [if_neg (plain right (.inr rfl)), if_neg (plain left (.inl rfl))]
  cases relation with
  | ne => simp [Sql.binaryCondition, Sql.tree, Sql.tree_orNull]
  | _ => rfl

end SqlTree

/-- The SQL form of an expression has the tree of the expression.

    Proof: induction on the form, which has one case for each way in which a node is written. -/
theorem Expr.HasForm.sqlTree_eq {expr : Expr} {sql : Sql} (form : expr.HasForm sql) :
    expr.sqlTree? = some sql.tree := by
  induction form with
  | column named => rfl
  | literal literal => exact Sql.sqlLiteral_of_ofValue literal
  | lift _ inductionHypothesis => exact inductionHypothesis
  | @negation operand _ _ inductionHypothesis =>
    rw [sqlTree?, inductionHypothesis, Sql.negation]
    cases operand.mayBeUnknown <;> rfl
  | and _ _ leftHypothesis rightHypothesis | or _ _ leftHypothesis rightHypothesis =>
    rw [sqlTree?, leftHypothesis, rightHypothesis]
    rfl
  | nullTest tested _ inductionHypothesis =>
    rw [sqlTree?, SqlTree.relate_of_nullSide tested sqlTree?, inductionHypothesis, Sql.tree,
      Sql.tree_nullTest]
    rfl
  | relation valued _ _ leftHypothesis rightHypothesis =>
    rw [sqlTree?, leftHypothesis, rightHypothesis]
    exact SqlTree.relate_of_valued valued _ _
  | month _ inductionHypothesis => simp [sqlTree?, inductionHypothesis, Sql.tree]
  | nowhere read empty =>
    obtain ⟨value, type, rfl, known⟩ := Sql.sqlMembers_of_membersOf read
    simp [sqlTree?, known, empty, Sql.tree]
  | within read nonempty _ inductionHypothesis =>
    obtain ⟨value, type, rfl, known⟩ := Sql.sqlMembers_of_membersOf read
    simp [sqlTree?, known, nonempty, inductionHypothesis, Sql.tree]
  | @like method _ _ _ _ isTest _ inductionHypothesis =>
    cases method with
    | month | inSet => cases isTest
    | _ => simp [sqlTree?, Method.isTextTest, inductionHypothesis, Sql.tree]

namespace Expr

/-- Whether a test in the condition of an expression stands behind a negation. The null test in
    place of an equality stands behind the side that is not null. -/
def testsNegation : Expr → Bool
  | not operand | lift operand => operand.testsNegation
  | binary (.relation relation) left right =>
      ((nullSide? relation left right).getD left).isNegation ||
        left.testsNegation || right.testsNegation
  | binary _ left right => left.testsNegation || right.testsNegation
  | call .month [subject] => subject.testsNegation
  | call .inSet [constant set _, item] =>
      set.sqlMembers?.any (!·.isEmpty) && (item.isNegation || item.testsNegation)
  | call _ [subject, _] => subject.isNegation || subject.testsNegation
  | _ => false

/-- There is no test in a constant null. -/
theorem testsNegation_of_isNullConstant {expr : Expr} (isNull : expr.isNullConstant = true) :
    expr.testsNegation = false := by
  induction expr with
  | lift operand inductionHypothesis =>
    rw [isNullConstant] at isNull
    exact inductionHypothesis isNull
  | constant value type => rfl
  | _ => simp [isNullConstant] at isNull

end Expr

namespace Sql

variable {sql : Sql}

/-- An item is not read as a negation. -/
theorem isReadAsNot_of_isItem (item : sql.isItem = true) : sql.isReadAsNot = false := by
  cases sql <;> first | rfl | cases item

/-- The form of an expression is read as a negation if the expression is one. All other forms are
    items, which stay items when they are read. -/
theorem isReadAsNot_of_hasForm {expr : Expr} (form : expr.HasForm sql) :
    sql.isReadAsNot = expr.isNegation := by
  have translated := ofExpr_eq_ok.mpr form
  cases opens : expr.isNegation with
  | false => exact isReadAsNot_of_isItem (isItem_of_ofExpr translated opens)
  | true =>
    obtain ⟨operand, found⟩ := Expr.unlifted_of_isNegation opens
    rw [← ofExpr_unlifted, found] at translated
    obtain ⟨inner, -, rfl⟩ := ofExpr_not.mp translated
    rfl

/-- The tests in a relation are its comparison and those in its sides: what is added for sides
    without a value is tested behind columns. -/
theorem testsNegation_relation (relation : Relation) {left right : Expr}
    {leftSql rightSql : Sql} (rightForm : right.HasForm rightSql) :
    (binaryCondition (.relation relation) left right leftSql rightSql).testsNegation =
      (leftSql.isReadAsNot || leftSql.testsNegation || rightSql.testsNegation) := by
  have admitted (nullable : Bool) (condition side : Sql) :
      (orNull nullable condition side).testsNegation =
        (condition.testsNegation || nullable && (side.isReadAsNot || side.testsNegation)) := by
    cases nullable <;> simp [orNull, testsNegation]
  have column : right.isNullableColumn = true → rightSql.isReadAsNot = false := fun column => by
    rw [isReadAsNot_of_hasForm rightForm, Expr.isNegation_of_isNullableColumn column]
  cases relation with
  | ne =>
    simp only [binaryCondition, testsNegation, admitted]
    grind
  | _ => rfl

/-- The null test of a side is its own test and those in the side. -/
theorem testsNegation_nullTest (relation : Relation) (side : Sql) :
    (nullTest relation side).testsNegation = (side.isReadAsNot || side.testsNegation) := by
  rw [nullTest]
  split <;> rfl

end Sql

/-- The tests in the form of an expression stand behind negations where those of the expression do.
    So the text of a lambda is read back as its tree exactly when the lambda itself has no such
    test. -/
theorem Expr.HasForm.testsNegation_eq {expr : Expr} {sql : Sql} (form : expr.HasForm sql) :
    sql.testsNegation = expr.testsNegation := by
  induction form with
  | column named => rfl
  | literal literal => exact Sql.testsNegation_of_ofValue literal
  | lift _ inductionHypothesis => exact inductionHypothesis
  | @negation operand _ _ inductionHypothesis =>
    rw [testsNegation, ← inductionHypothesis]
    cases operand.mayBeUnknown <;> rfl
  | and _ _ leftHypothesis rightHypothesis | or _ _ leftHypothesis rightHypothesis =>
    simp [testsNegation, Sql.testsNegation, leftHypothesis, rightHypothesis]
  | @nullTest relation left right side inner tested form inductionHypothesis =>
    rw [testsNegation, tested, Option.getD_some, Sql.testsNegation, Sql.testsNegation_nullTest,
      Sql.isReadAsNot_of_hasForm form, inductionHypothesis]
    -- The other side is null, and there is no test in it.
    rcases (sides_of_nullSide tested).2 with ⟨rfl, isNull⟩ | ⟨rfl, isNull⟩
    · rw [testsNegation_of_isNullConstant isNull, Bool.or_false]
    · rw [testsNegation_of_isNullConstant isNull, Bool.or_false]
  | relation valued leftForm rightForm leftHypothesis rightHypothesis =>
    rw [testsNegation, valued, Option.getD_none, Sql.testsNegation_relation _ rightForm,
      Sql.isReadAsNot_of_hasForm leftForm, leftHypothesis, rightHypothesis]
  | month _ inductionHypothesis => simp [testsNegation, Sql.testsNegation, inductionHypothesis]
  | nowhere read empty =>
    obtain ⟨value, type, rfl, known⟩ := Sql.sqlMembers_of_membersOf read
    simp [testsNegation, known, empty, Sql.testsNegation]
  | within read nonempty form inductionHypothesis =>
    obtain ⟨value, type, rfl, known⟩ := Sql.sqlMembers_of_membersOf read
    simp [testsNegation, known, nonempty, Sql.testsNegation, inductionHypothesis,
      Sql.isReadAsNot_of_hasForm form]
  | @like method _ _ _ _ isTest form inductionHypothesis =>
    have opens := Sql.isReadAsNot_of_hasForm form
    cases method with
    | month | inSet => cases isTest
    | _ => simp [testsNegation, Sql.testsNegation, inductionHypothesis, opens]

end RecordQuery
