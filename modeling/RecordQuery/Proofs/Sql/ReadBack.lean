import RecordQuery.Proofs.Sql.Lexing
import RecordQuery.Proofs.Sql.Precedence
import RecordQuery.Proofs.Sql.Tree
import RecordQuery.Query.Select

/-!
# Conditions read back

A database that reads the text of a condition gets the tree that the condition was written from,
with one exception: a comparison or a test that stands behind a negation is read beneath the
negation sign, because only the operand of the negation stands in parentheses, not the negation
itself. The conditions of a statement are read as their conjunction. What a text is read as is what
the meaning of conditions is defined on.
-/

namespace RecordQuery

namespace Sql

open SqlTree (IsItem IsOperand Reads Tests)

variable {sql left right : Sql}

/-- A numeral is written as its constant. -/
theorem numeralTokens_eq (text : String) :
    numeralTokens text = (SqlLiteral.ofNumeral text).tokens := by
  unfold numeralTokens SqlLiteral.ofNumeral
  split <;> simp_all [SqlLiteral.tokens]

/-- The members of a set are written as its constants. -/
theorem memberTokens_eq (members : SqlMembers) :
    memberTokens members = members.literals.map SqlLiteral.tokens := by
  cases members <;> simp [memberTokens, SqlMembers.literals, numeralTokens_eq, SqlLiteral.tokens]

/-- A form that is read as an operand of a test: an item, or the negation of one. -/
inductive IsReadable : Sql → Prop
  | item {sql : Sql} (form : sql.isItem = true) (reads : IsItem sql.tokens sql.asRead.tree) :
      IsReadable sql
  | negation {inner : Sql} (reads : IsItem (group inner).tokens inner.asRead.tree) :
      IsReadable (not (group inner))

namespace IsReadable

/-- The tokens of a readable form are an operand. -/
theorem isOperand (readable : IsReadable sql) : IsOperand sql.tokens sql.asRead.tree := by
  cases readable with
  | item form reads => exact .item reads
  | negation reads => exact .negation reads

/-- A test behind a readable form is read on an item, or beneath a negation. The two cases are those
    of a readable form. -/
theorem tested (readable : IsReadable sql) (test : Sql → Sql) {treeTest : SqlTree → SqlTree}
    {tokens : List SqlToken} (tests : Tests tokens treeTest)
    (commutes : ∀ subject, (test subject).tree = treeTest subject.tree) :
    Reads 3 (sql.tokens ++ tokens) (beneath test sql.asRead).tree := by
  cases readable with
  | item form reads =>
    rw [beneath_item test form, commutes]
    exact tests.item reads
  | @negation inner reads =>
    have negated : (beneath test (not (group inner)).asRead).tree =
        .not (treeTest inner.asRead.tree) := congrArg SqlTree.not (commutes _)
    rw [negated]
    exact tests.negation reads

/-- What can be read is readable in parentheses. -/
theorem group (reads : Reads 1 sql.tokens sql.asRead.tree) : IsReadable (group sql) :=
  .item rfl reads.parenthesized

/-- Comparisons of readable forms can be read. -/
theorem compare (leftReadable : IsReadable left) (rightReadable : IsReadable right)
    (relation : Relation) :
    Reads 3 (Sql.compare relation left right).tokens
      (Sql.compare relation left right).asRead.tree :=
  leftReadable.tested (fun subject => Sql.compare relation subject right.asRead)
    (.relation relation rightReadable.isOperand) fun _ => rfl

/-- Null tests of readable forms can be read. -/
theorem isNull (readable : IsReadable sql) :
    Reads 3 (Sql.isNull sql).tokens (Sql.isNull sql).asRead.tree :=
  readable.tested Sql.isNull .isNull fun _ => rfl

/-- Tests that a readable form has a value can be read. -/
theorem isNotNull (readable : IsReadable sql) :
    Reads 3 (Sql.isNotNull sql).tokens (Sql.isNotNull sql).asRead.tree :=
  readable.tested Sql.isNotNull .isNotNull fun _ => rfl

/-- Pattern tests of readable forms can be read. -/
theorem like (readable : IsReadable sql) (anchor : SqlAnchor) (content : String) :
    Reads 3 (Sql.like sql anchor content).tokens (Sql.like sql anchor content).asRead.tree :=
  readable.tested (Sql.like · anchor content) (.like _ "\\") fun _ => rfl

/-- Membership tests of readable forms can be read, if the set has members. A set with no members is
    written in another way. -/
theorem within (readable : IsReadable sql) {members : SqlMembers}
    (some : members.isEmpty = false) :
    Reads 3 (Sql.within sql members).tokens (Sql.within sql members).asRead.tree := by
  have listed : members.literals ≠ [] := by
    cases members <;> simpa [SqlMembers.isEmpty, SqlMembers.literals] using some
  have reads := readable.tested (Sql.within · members) (.within listed) fun _ => rfl
  rwa [← memberTokens_eq] at reads

/-- A negation of a readable form is readable. -/
theorem negated (readable : IsReadable sql) (mayBeUnknown : Bool) :
    IsReadable (Sql.negation mayBeUnknown sql) := by
  have reads : Reads 1 sql.tokens sql.asRead.tree := readable.isOperand.reads (by decide)
  cases mayBeUnknown with
  | false => exact .negation reads.parenthesized
  | true => exact .negation ((IsOperand.item reads.coalesced).reads (by decide)).parenthesized

end IsReadable

/-- The literal of a constant is written as the constant. Dates are written as texts, and are read
    as such. -/
theorem tokens_of_ofValue {value : Value} (literal : ofValue value = .ok sql) :
    ∃ constant : SqlLiteral, sql.tokens = constant.tokens ∧
      sql.asRead.tree = .literal constant := by
  unfold ofValue at literal
  split at literal
  case h_4 given =>
    split at literal <;> cases literal
    exact ⟨_, numeralTokens_eq given.text, rfl⟩
  all_goals cases literal
  · exact ⟨.null, rfl, rfl⟩
  · exact ⟨.text _, rfl, rfl⟩
  · exact ⟨.truth _, rfl, rfl⟩
  · exact ⟨.text _, rfl, rfl⟩

/-- A literal is readable. -/
theorem isReadable_of_ofValue {value : Value} (literal : ofValue value = .ok sql) :
    IsReadable sql := by
  obtain ⟨constant, written, same⟩ := tokens_of_ofValue literal
  refine .item (isItem_of_ofValue literal) ?_
  rw [written, same]
  exact SqlTree.isItem_literal constant

/-- A relation of readable forms is readable. It stands in parentheses, so it is an item whatever is
    inside. -/
theorem isReadable_relation {relation : Relation} {left right : Expr} {leftSql rightSql : Sql}
    (leftReadable : IsReadable leftSql) (rightReadable : IsReadable rightSql) :
    IsReadable (binaryCondition (.relation relation) left right leftSql rightSql) := by
  have compared := (leftReadable.compare rightReadable relation).mono (show 1 ≤ 3 by decide)
  have admitted {side condition : Sql} (nullable : Bool) (readable : IsReadable side)
      (reads : Reads 1 condition.tokens condition.asRead.tree) :
      Reads 1 (orNull nullable condition side).tokens
        (orNull nullable condition side).asRead.tree := by
    cases nullable with
    | false => exact reads
    | true => exact reads.or (readable.isNull.mono (by decide))
  cases relation with
  | ne => exact .group (admitted _ rightReadable (admitted _ leftReadable compared))
  | _ => exact .group compared

/-- A null test of a readable form is readable. -/
theorem isReadable_nullTest (relation : Relation) (readable : IsReadable sql) :
    IsReadable (.group (nullTest relation sql)) := by
  rw [nullTest]
  split
  · exact .group (readable.isNull.mono (by decide))
  · exact .group (readable.isNotNull.mono (by decide))

/-- The form of every expression is readable. The induction follows the form. Connectives and tests
    are put in parentheses, so each of them is an item, and a negation opens with its sign. -/
theorem isReadable_of_hasForm {expr : Expr} (form : expr.HasForm sql) : IsReadable sql := by
  induction form with
  | column named => exact .item rfl fun frames => rfl
  | literal literal => exact isReadable_of_ofValue literal
  | lift _ inductionHypothesis => exact inductionHypothesis
  | negation _ inductionHypothesis => exact inductionHypothesis.negated _
  | and _ _ leftHypothesis rightHypothesis =>
    have leftReads := leftHypothesis.isOperand.reads (show 2 ≤ 3 by decide)
    have rightReads := rightHypothesis.isOperand.reads (Nat.le_refl 3)
    exact .group ((leftReads.and rightReads).mono (by decide))
  | or _ _ leftHypothesis rightHypothesis =>
    have leftReads := leftHypothesis.isOperand.reads (show 1 ≤ 3 by decide)
    have rightReads := rightHypothesis.isOperand.reads (show 2 ≤ 3 by decide)
    exact .group (leftReads.or rightReads)
  | nullTest _ _ inductionHypothesis => exact isReadable_nullTest _ inductionHypothesis
  | relation _ _ _ leftHypothesis rightHypothesis =>
    exact isReadable_relation leftHypothesis rightHypothesis
  | month _ inductionHypothesis =>
    exact .item rfl (inductionHypothesis.isOperand.reads (by decide)).extracted
  | nowhere _ _ => exact .item rfl fun frames => rfl
  | within _ nonempty _ inductionHypothesis =>
    exact .group ((inductionHypothesis.within nonempty).mono (by decide))
  | like _ _ inductionHypothesis =>
    exact .group ((inductionHypothesis.like _ _).mono (by decide))

/-- A relation of finite forms is finite. The tests that admit null repeat its sides and add
    nothing. -/
theorem isFinite_relation {relation : Relation} {left right : Expr} {leftSql rightSql : Sql}
    (leftFinite : leftSql.IsFinite) (rightFinite : rightSql.IsFinite) :
    (binaryCondition (.relation relation) left right leftSql rightSql).IsFinite := by
  have compared : (Sql.compare relation leftSql rightSql).IsFinite := ⟨leftFinite, rightFinite⟩
  have admitted {side condition : Sql} (nullable : Bool) (sideFinite : side.IsFinite)
      (finite : condition.IsFinite) : (orNull nullable condition side).IsFinite := by
    cases nullable with
    | false => exact finite
    | true => exact ⟨finite, sideFinite⟩
  cases relation with
  | ne => exact admitted _ rightFinite (admitted _ leftFinite compared)
  | _ => exact compared

/-- All numbers in the form of an expression are finite. Translation refuses infinite and undefined
    numbers. -/
theorem isFinite_of_hasForm {expr : Expr} (form : expr.HasForm sql) : sql.IsFinite := by
  induction form with
  | column _ | nowhere _ _ => trivial
  | literal literal =>
    unfold ofValue at literal
    split at literal
    case h_4 given =>
      split at literal <;> cases literal
      assumption
    all_goals cases literal
    all_goals trivial
  | @negation operand _ _ inductionHypothesis =>
    cases operand.mayBeUnknown <;> exact inductionHypothesis
  | and _ _ leftHypothesis rightHypothesis | or _ _ leftHypothesis rightHypothesis =>
    exact ⟨leftHypothesis, rightHypothesis⟩
  | @nullTest relation _ _ _ _ _ _ inductionHypothesis =>
    rw [nullTest]
    split <;> exact inductionHypothesis
  | relation _ _ _ leftHypothesis rightHypothesis =>
    exact isFinite_relation leftHypothesis rightHypothesis
  | lift _ inductionHypothesis | month _ inductionHypothesis | within _ _ _ inductionHypothesis
  | like _ _ inductionHypothesis => exact inductionHypothesis

variable {quote : Char}

/-- A text whose tokens can be read is read as its tree. -/
theorem ofText_toText (isQuote : SqlToken.IsQuote quote) (finite : sql.IsFinite)
    (reads : Reads 1 sql.tokens sql.asRead.tree) :
    SqlTree.ofText? quote (sql.toText quote) = some sql.asRead.tree := by
  rw [SqlTree.ofText?, SqlToken.ofText_of_lexes (lexes_toText isQuote finite)]
  exact reads.ofTokens

/-- Conditions with the word between them are written as their conjunction from the left. -/
theorem intercalate_toText (first : Sql) (rest : List Sql) :
    " AND ".intercalate ((first :: rest).map (toText quote)) =
      (rest.foldl and first).toText quote := by
  induction rest generalizing first with
  | nil => rfl
  | cons second rest inductionHypothesis => exact inductionHypothesis (and first second)

/-- A conjunction of readable and finite conditions can be read and is finite. Conditions are joined
    from the left, as reading joins them. -/
theorem reads_foldl_and {first : Sql} {rest : List Sql}
    (firstReads : Reads 2 first.tokens first.asRead.tree) (firstFinite : first.IsFinite)
    (others : ∀ sql ∈ rest, IsReadable sql ∧ sql.IsFinite) :
    Reads 2 (rest.foldl and first).tokens (rest.foldl and first).asRead.tree ∧
      (rest.foldl and first).IsFinite := by
  induction rest generalizing first with
  | nil => exact ⟨firstReads, firstFinite⟩
  | cons second rest inductionHypothesis =>
    obtain ⟨⟨readable, finite⟩, others⟩ := List.forall_mem_cons.mp others
    have joined := firstReads.and (readable.isOperand.reads (Nat.le_refl 3))
    exact inductionHypothesis joined ⟨firstFinite, finite⟩ others

end Sql

namespace SqlTree

/-- The conjunction of trees from the left, if there are any. -/
def conjunction? : List SqlTree → Option SqlTree
  | [] => none
  | first :: rest => some (rest.foldl and first)

/-- Conjunctions of equally many trees are the same only if the trees are. The induction needs equal
    lengths, since a tree does not tell where its list began. -/
theorem foldl_and_inj {left right : SqlTree} {lefts rights : List SqlTree}
    (sameLength : lefts.length = rights.length) :
    lefts.foldl and left = rights.foldl and right ↔ left = right ∧ lefts = rights := by
  induction lefts generalizing left right rights with
  | nil =>
    cases rights with
    | nil => simp
    | cons _ _ => cases sameLength
  | cons second lefts inductionHypothesis =>
    cases rights with
    | nil => cases sameLength
    | cons second' rights =>
      rw [List.foldl_cons, List.foldl_cons, inductionHypothesis (Nat.succ.inj sameLength)]
      simp [and_assoc]

end SqlTree

namespace Select

variable {select : Select}

/-- The conditions of a statement are read as the conjunction of what each is read as. Each
    condition is an operand by itself, so none of them reaches across a conjunction. -/
theorem ofText_whereText (isQuote : SqlToken.IsQuote select.quote)
    (some : select.conditions ≠ [])
    (proper : ∀ sql ∈ select.conditions, sql.IsReadable ∧ sql.IsFinite) :
    ∃ text, select.whereText? = .some text ∧ SqlTree.ofText? select.quote text =
      SqlTree.conjunction? (select.conditions.map fun sql => sql.asRead.tree) := by
  obtain ⟨first, rest, same⟩ := List.exists_cons_of_ne_nil some
  rw [same] at proper
  obtain ⟨⟨readable, finite⟩, others⟩ := List.forall_mem_cons.mp proper
  obtain ⟨reads, allFinite⟩ :=
    Sql.reads_foldl_and (readable.isOperand.reads (show 2 ≤ 3 by decide)) finite others
  have joined (rest : List Sql) (first : Sql) : (rest.foldl Sql.and first).asRead.tree =
      (rest.map fun sql => sql.asRead.tree).foldl SqlTree.and first.asRead.tree := by
    induction rest generalizing first with
    | nil => rfl
    | cons second rest inductionHypothesis => exact inductionHypothesis (.and first second)
  refine ⟨(rest.foldl Sql.and first).toText select.quote, ?_, ?_⟩
  · rw [whereText?, same, ← Sql.intercalate_toText]
    rfl
  · rw [Sql.ofText_toText isQuote allFinite (reads.mono (by decide)), same, joined]
    rfl

end Select

namespace Lambda

/-- The trees of lambdas are those of their forms, and these are what the forms are read as exactly
    when no test stands behind a negation. It takes the lemmas for one form over to lists. -/
theorem trees_of_hasForm {lambdas : List Lambda} {conditions : List Sql}
    (forms : List.Forall₂ (fun lambda sql => lambda.body.HasForm sql) lambdas conditions) :
    lambdas.mapM (fun lambda => lambda.body.sqlTree?) = some (conditions.map Sql.tree) ∧
      (conditions.map (fun sql => sql.asRead.tree) = conditions.map Sql.tree ↔
        ∀ lambda ∈ lambdas, lambda.body.testsNegation = false) := by
  induction forms with
  | nil => simp
  | cons form _ inductionHypothesis =>
    rw [List.mapM_cons, form.sqlTree_eq, inductionHypothesis.1, List.forall_mem_cons,
      ← form.testsNegation_eq, ← Sql.tree_asRead_iff, ← inductionHypothesis.2]
    simp

/-- The forms of lambdas can be read and are finite. It takes the lemmas for one form over to
    lists. -/
theorem proper_of_hasForm {lambdas : List Lambda} {conditions : List Sql}
    (forms : List.Forall₂ (fun lambda sql => lambda.body.HasForm sql) lambdas conditions) :
    ∀ sql ∈ conditions, sql.IsReadable ∧ sql.IsFinite := by
  induction forms with
  | nil => simp
  | cons form _ inductionHypothesis =>
    exact List.forall_mem_cons.mpr
      ⟨⟨Sql.isReadable_of_hasForm form, Sql.isFinite_of_hasForm form⟩, inductionHypothesis⟩

/-- The text of the condition of every lambda can be read, and it is read as the tree of the lambda
    exactly when no test in the lambda stands behind a negation; such a test is read beneath the
    negation. The conditions of a statement are read as the conjunction of what each is read as, so
    as the conjunction of the trees exactly when this holds for all of them.

    Proof: each form is readable, that is an item or a negation of one, by induction on it. Reading
    then gives the tree of the form, except that a test behind a negation is read beneath it, and
    this is another tree. -/
theorem condition_read_back_iff {quote : Char} (isQuote : SqlToken.IsQuote quote) :
    (∀ (lambda : Lambda) (sql : Sql), lambda.toCondition = .ok sql →
      ∃ tree, lambda.body.sqlTree? = some tree ∧
        SqlTree.ofText? quote (sql.toText quote) = some sql.asRead.tree ∧
        (sql.asRead.tree = tree ↔ lambda.body.testsNegation = false)) ∧
    ∀ (lambdas : List Lambda) (select : Select), lambdas ≠ [] → select.quote = quote →
      lambdas.mapM toCondition = .ok select.conditions →
      ∃ text read trees tree, select.whereText? = some text ∧
        lambdas.mapM (fun lambda => lambda.body.sqlTree?) = some trees ∧
        SqlTree.conjunction? trees = some tree ∧
        SqlTree.ofText? quote text = some read ∧
        SqlTree.conjunction? (select.conditions.map fun sql => sql.asRead.tree) = some read ∧
        (read = tree ↔ ∀ lambda ∈ lambdas, lambda.body.testsNegation = false) := by
  have formOf {lambda : Lambda} {sql : Sql} (accepted : lambda.toCondition = .ok sql) :
      lambda.body.HasForm sql := Sql.ofExpr_eq_ok.mp (toCondition_eq_ok.mp accepted).2.2
  constructor
  · intro lambda sql accepted
    have form := formOf accepted
    have reads := (Sql.isReadable_of_hasForm form).isOperand.reads (show 1 ≤ 3 by decide)
    refine ⟨sql.tree, form.sqlTree_eq,
      Sql.ofText_toText isQuote (Sql.isFinite_of_hasForm form) reads, ?_⟩
    rw [← form.testsNegation_eq, Sql.tree_asRead_iff]
  · rintro lambdas select some rfl accepted
    have forms := (mapM_eq_ok.mp accepted).imp fun _ _ => formOf
    obtain ⟨trees, agree⟩ := trees_of_hasForm forms
    have given : select.conditions ≠ [] := by
      intro empty
      rw [empty, List.forall₂_nil_right_iff] at forms
      exact some forms
    obtain ⟨text, written, read⟩ :=
      Select.ofText_whereText isQuote given (proper_of_hasForm forms)
    obtain ⟨first, rest, same⟩ := List.exists_cons_of_ne_nil given
    rw [same] at read trees agree ⊢
    refine ⟨text, _, _, _, written, trees, rfl, read, rfl, ?_⟩
    rw [SqlTree.foldl_and_inj (by simp), ← agree]
    simp

/-- A negation behind a comparison sign is read as it was built, alone and beside a negated
    comparison. Only in front of a sign does a negation take over what follows. -/
theorem negation_behind_sign_read_back :
    let type : RecordType :=
      ⟨"S", .ok [⟨"flag", .bool⟩, ⟨"at", .nullable .date⟩], none⟩
    let p : Parameter := ⟨0, "p", type.dataType⟩
    let flag : Expr := .member (.parameter p) (.ofProperty type 0 ⟨"flag", .bool⟩)
    let date : Expr := .member (.parameter p) (.ofProperty type 1 ⟨"at", .nullable .date⟩)
    let flagged : Lambda := ⟨[p], .binary (.relation .ne) flag (.not flag)⟩
    let dated : Lambda := ⟨[p], .not (.binary (.relation .lt) date (.lift date))⟩
    SqlToken.IsQuote '`' ∧ ∃ left right, flagged.toCondition = .ok left ∧
      dated.toCondition = .ok right ∧
      SqlTree.ofText? '`' (left.toText '`') = flagged.body.sqlTree? ∧
      ∃ text, (⟨"t", '`', [left, right], []⟩ : Select).whereText? = some text ∧
        SqlTree.ofText? '`' text = some (.and
          (.compare .ne (.column "flag") (.not (.column "flag")))
          (.not (.coalesce (.compare .lt (.column "at") (.column "at"))
            (.literal (.truth false))))) := by
  intro type p flag date flagged dated
  have isQuote : SqlToken.IsQuote '`' := SqlToken.isQuote_of_usual (.inr rfl)
  obtain ⟨alone, joined⟩ := condition_read_back_iff isQuote
  obtain ⟨left, leftForm⟩ : ∃ left, flagged.toCondition = .ok left := ⟨_, rfl⟩
  obtain ⟨right, rightForm⟩ : ∃ right, dated.toCondition = .ok right := ⟨_, rfl⟩
  obtain ⟨tree, built, readAlone, same⟩ := alone flagged left leftForm
  have both : [flagged, dated].mapM toCondition = .ok [left, right] := by
    rw [List.mapM_cons, List.mapM_cons, leftForm, rightForm]
    rfl
  obtain ⟨text, read, trees, whole, written, builtBoth, conjoined, readBoth, -, sameBoth⟩ :=
    joined [flagged, dated] ⟨"t", '`', [left, right], []⟩ (by simp) rfl both
  refine ⟨isQuote, left, right, leftForm, rightForm, ?_, text, written, ?_⟩
  · rw [readAlone, built, same.mpr rfl]
  · rw [readBoth, sameBoth.mpr (by decide), ← conjoined, ← Option.some.inj builtBoth]
    rfl

/-- A comparison of a negated column is not read as it was built: the text of the negation is only
    that of its operand in parentheses, so the comparison is read beneath it. It is written without
    parentheses of its own. -/
theorem negation_compared_elsewhere :
    let type : RecordType := ⟨"S", .ok [⟨"flag", .bool⟩], none⟩
    let p : Parameter := ⟨0, "p", type.dataType⟩
    let flag : Expr := .member (.parameter p) (.ofProperty type 0 ⟨"flag", .bool⟩)
    let lambda : Lambda := ⟨[p], .binary (.relation .lt) (.not flag) flag⟩
    ∃ sql, lambda.toCondition = .ok sql ∧ sql.toText '"' = "(NOT (\"flag\") < \"flag\")" ∧
      SqlTree.ofText? '"' (sql.toText '"') =
        some (.not (.compare .lt (.column "flag") (.column "flag"))) ∧
      lambda.body.sqlTree? = some (.compare .lt (.not (.column "flag")) (.column "flag")) := by
  intro type p flag lambda
  exact ⟨_, rfl, by decide +kernel, by decide +kernel, rfl⟩

end Lambda

end RecordQuery
