import RecordQuery.Proofs.Sql.ReadBack

/-!
# Names and texts inside conditions

Names, constants and patterns are chosen by others and may have any characters. In the text of a
condition each stands between quotes, with those inside it doubled, and is one token there whatever
it is. Other names and texts therefore make other contents of the same tokens, and nothing else of
the condition changes.
-/

namespace RecordQuery

namespace SqlToken

/-- Two tokens that differ at most in the content of a name or of a string. -/
inductive Alike : SqlToken → SqlToken → Prop
  | identifier (name other : String) : Alike (.identifier name) (.identifier other)
  | string (content other : String) : Alike (.string content) (.string other)
  | same (token : SqlToken) : Alike token token

/-- Whether a token stands between quotes. -/
def isQuoted : SqlToken → Bool
  | identifier _ | string _ => true
  | _ => false

/-- Tokens are like themselves. -/
theorem alike_self (tokens : List SqlToken) : List.Forall₂ Alike tokens tokens :=
  List.forall₂_same.mpr fun token _ => .same token

/-- Lists of like tokens stay alike with commas between them. Both lists have the same length, so
    the commas stand at the same places. -/
theorem alike_intercalate {lists others : List (List SqlToken)}
    (alike : List.Forall₂ (List.Forall₂ Alike) lists others) :
    List.Forall₂ Alike ([SqlToken.comma].intercalate lists)
      ([SqlToken.comma].intercalate others) := by
  induction alike with
  | nil => exact .nil
  | cons first rest inductionHypothesis =>
    cases rest with
    | nil => simpa using first
    | cons _ _ =>
      rw [List.intercalate_cons_cons, List.intercalate_cons_cons]
      exact List.rel_append (List.rel_append first (alike_self _)) inductionHypothesis

end SqlToken

/-- The quoted tokens that a constant is written with. -/
def SqlLiteral.quoted : SqlLiteral → List SqlToken
  | text content => [.string content]
  | _ => []

/-- The names and texts in a tree, from left to right, as tokens. They are all that a lambda brings
    into its condition by way of quotes. -/
def SqlTree.quoted : SqlTree → List SqlToken
  | column name => [.identifier name]
  | literal value => value.quoted
  | compare _ left right | and left right | or left right | coalesce left right =>
      left.quoted ++ right.quoted
  | not operand | isNull operand | isNotNull operand | month operand => operand.quoted
  | like subject pattern escape => subject.quoted ++ [.string pattern, .string escape]
  | within item members => item.quoted ++ members.flatMap SqlLiteral.quoted

namespace SqlLiteral

/-- Of the tokens of a constant, a text is the only quoted one. -/
theorem filter_tokens (value : SqlLiteral) :
    value.tokens.filter SqlToken.isQuoted = value.quoted := by
  rcases value with _ | _ | _ | ⟨_ | _, _⟩ <;> rfl

/-- Of the tokens of constants with commas between them, the texts are the only quoted ones. Numbers
    and words are not quoted. -/
theorem filter_intercalate_tokens (values : List SqlLiteral) :
    ([SqlToken.comma].intercalate (values.map tokens)).filter SqlToken.isQuoted =
      values.flatMap quoted := by
  induction values with
  | nil => rfl
  | cons first rest inductionHypothesis =>
    cases rest with
    | nil => simp [filter_tokens]
    | cons second others =>
      have comma : [SqlToken.comma].filter SqlToken.isQuoted = [] := rfl
      rw [List.map_cons] at inductionHypothesis
      rw [List.map_cons, List.map_cons, List.intercalate_cons_cons, List.filter_append,
        List.filter_append, inductionHypothesis, comma, filter_tokens, List.append_nil]
      rfl

end SqlLiteral

/-- The quoted tokens of a form are the names and texts in its tree. So names and texts can be found
    again in the tokens, in their order. -/
theorem Sql.filter_tokens (sql : Sql) : sql.tokens.filter SqlToken.isQuoted = sql.tree.quoted := by
  induction sql with
  | number value =>
    rw [tokens, numeralTokens_eq, SqlLiteral.filter_tokens]
    rfl
  | within item members inductionHypothesis =>
    simp [tokens, tree, SqlTree.quoted, SqlToken.isQuoted, memberTokens_eq,
      SqlLiteral.filter_intercalate_tokens, inductionHypothesis]
  | like subject anchor content inductionHypothesis =>
    rw [tokens, List.filter_append, inductionHypothesis]
    rfl
  | _ => simp [tokens, tree, SqlTree.quoted, SqlLiteral.quoted, SqlToken.isQuoted, *]

/-- Values that differ at most in texts. -/
inductive Value.Alike : Value → Value → Prop
  | text (content other : String) : Alike (.text content) (.text other)
  | texts {contents others : List String} (sameLength : contents.length = others.length) :
      Alike (.texts contents) (.texts others)
  | same (value : Value) : Alike value value

/-- Expressions that differ at most in the names of members and in constant texts. A name is
    replaced by a name, so that members of records and records themselves are kept apart. -/
inductive Expr.Alike : Expr → Expr → Prop
  | parameter (p : Parameter) : Alike (.parameter p) (.parameter p)
  | member {target target' : Expr} {m m' : Member} (targets : Alike target target')
      (sameSelf : m.isSelf = m'.isSelf) (sameType : m.type = m'.type) :
      Alike (.member target m) (.member target' m')
  | constant {value value' : Value} (values : value.Alike value') (type : DataType) :
      Alike (.constant value type) (.constant value' type)
  | not {operand operand' : Expr} (operands : Alike operand operand') :
      Alike (.not operand) (.not operand')
  | lift {operand operand' : Expr} (operands : Alike operand operand') :
      Alike (.lift operand) (.lift operand')
  | binary (operator : Operator) {left left' right right' : Expr} (lefts : Alike left left')
      (rights : Alike right right') :
      Alike (.binary operator left right) (.binary operator left' right')
  | call (method : Method) {arguments arguments' : List Expr}
      (each : List.Forall₂ Alike arguments arguments') :
      Alike (.call method arguments) (.call method arguments')

/-- Lambdas that differ at most in the names of members and in constant texts. -/
def Lambda.Alike (lambda other : Lambda) : Prop :=
  lambda.parameters = other.parameters ∧ lambda.body.Alike other.body

namespace Expr

namespace Alike

variable {expr other left left' right right' : Expr}

/-- A property that all arguments share with those like them holds of one of the arguments if it
    does of one of the others. It takes the properties of calls back to those of their arguments. -/
theorem any_eq {property : Expr → Bool} {arguments others : List Expr}
    (each : List.Forall₂ Alike arguments others)
    (shared : ∀ argument ∈ arguments, ∀ other, Alike argument other →
      property argument = property other) : arguments.any property = others.any property := by
  induction each with
  | nil => rfl
  | cons alike _ inductionHypothesis =>
    obtain ⟨first, rest⟩ := List.forall_mem_cons.mp shared
    rw [List.any_cons, List.any_cons, first _ alike, inductionHypothesis rest]

/-- Names and texts are nowhere null. Nulls and lifts stay where they are. -/
theorem isNullConstant_eq (alike : expr.Alike other) :
    expr.isNullConstant = other.isNullConstant := by
  induction expr generalizing other with
  | lift operand inductionHypothesis =>
    cases alike with
    | lift operands =>
      rw [isNullConstant, isNullConstant]
      exact inductionHypothesis operands
  | constant value type =>
    cases alike with
    | constant values => cases values <;> rfl
  | _ => cases alike; rfl

/-- Another name is that of a nullable column if the first is. Its type is the same, and whether it
    is nullable depends on this alone. -/
theorem isNullableColumn_eq (alike : expr.Alike other) :
    expr.isNullableColumn = other.isNullableColumn := by
  induction expr generalizing other with
  | lift operand inductionHypothesis =>
    cases alike with
    | lift operands =>
      rw [isNullableColumn, isNullableColumn]
      exact inductionHypothesis operands
  | member target m =>
    cases alike with
    | member _ _ sameType => rw [isNullableColumn, isNullableColumn, sameType]
  | call method arguments inductionHypothesis =>
    cases alike with
    | call _ each =>
      cases method with
      | month =>
        rw [isNullableColumn, isNullableColumn, anyNullableColumn_eq, anyNullableColumn_eq]
        exact any_eq each inductionHypothesis
      | _ => rfl
  | _ => cases alike; rfl

/-- Other names and texts are unknown where the first are. So other names and texts change nothing
    about the shape of the form. -/
theorem mayBeUnknown_eq (alike : expr.Alike other) : expr.mayBeUnknown = other.mayBeUnknown := by
  induction expr generalizing other with
  | parameter p => cases alike; rfl
  | member target m =>
    cases alike with
    | member _ _ sameType => rw [mayBeUnknown, mayBeUnknown, sameType]
  | constant value type => cases alike; rfl
  | not operand inductionHypothesis | lift operand inductionHypothesis =>
    cases alike with
    | _ operands =>
      rw [mayBeUnknown, mayBeUnknown]
      exact inductionHypothesis operands
  | binary operator left right leftHypothesis rightHypothesis =>
    cases alike with
    | binary _ lefts rights =>
      rw [mayBeUnknown, mayBeUnknown, leftHypothesis lefts, rightHypothesis rights]
  | call method arguments inductionHypothesis =>
    cases alike with
    | call _ each =>
      rw [mayBeUnknown, mayBeUnknown, anyMayBeUnknown_eq, anyMayBeUnknown_eq]
      exact any_eq each inductionHypothesis

/-- The type depends on neither names nor texts. A member of another name has the same type, by what
    alike means. -/
theorem type_eq (alike : expr.Alike other) : expr.type = other.type := by
  induction expr generalizing other with
  | member target m =>
    cases alike with
    | member _ _ sameType => exact sameType
  | lift operand inductionHypothesis =>
    cases alike with
    | lift operands => rw [type, type, inductionHypothesis operands]
  | call method arguments inductionHypothesis =>
    cases alike with
    | call _ each =>
      cases method with
      | month =>
        cases each with
        | nil => rfl
        | cons first _ =>
          rw [type, type, headNullable, headNullable,
            inductionHypothesis _ List.mem_cons_self first]
      | _ => rfl
  | _ => cases alike; rfl

/-- A null test takes the place of an equality for both or for neither, and on like sides. Only
    constants decide, and they are null for both or for neither. -/
theorem nullSide_rel (relation : Relation) (lefts : left.Alike left')
    (rights : right.Alike right') :
    Option.Rel Alike (nullSide? relation left right) (nullSide? relation left' right') := by
  unfold nullSide?
  rw [lefts.isNullConstant_eq, rights.isNullConstant_eq]
  repeat' split
  · exact .some lefts
  · exact .some rights
  · exact .none
  · exact .none

end Alike

end Expr

namespace Sql

open SqlToken (alike_self)

/-- The tokens of two forms differ at most in the contents of names and strings. -/
def Alike (sql other : Sql) : Prop :=
  List.Forall₂ SqlToken.Alike sql.tokens other.tokens

variable {sql sql' left left' right right' : Sql}

/-- Like constants have like literals. Only texts may differ, and every text has a literal. -/
theorem exists_alike_ofValue {value value' : Value} (values : value.Alike value')
    (literal : ofValue value = .ok sql) :
    ∃ sql', ofValue value' = .ok sql' ∧ Alike sql sql' := by
  cases values with
  | text content other =>
    cases literal
    exact ⟨_, rfl, .cons (.string content other) .nil⟩
  | texts sameLength => cases literal
  | same value => exact ⟨sql, literal, alike_self _⟩

/-- Like sets have equally many members, which are written alike. Only sets of texts may differ, and
    not in how many members they have. -/
theorem exists_alike_membersOf {set set' : Expr} {members : SqlMembers} (sets : set.Alike set')
    (read : membersOf set = .ok members) :
    ∃ members', membersOf set' = .ok members' ∧ members.isEmpty = members'.isEmpty ∧
      List.Forall₂ (List.Forall₂ SqlToken.Alike) (memberTokens members)
        (memberTokens members') := by
  obtain ⟨value, type, rfl, -⟩ := sqlMembers_of_membersOf read
  cases sets with
  | constant values =>
    cases values with
    | text content other => cases read
    | texts sameLength =>
      rename_i contents others
      cases read
      refine ⟨.texts others, rfl, ?_, ?_⟩
      · cases contents <;> cases others <;> first | rfl | cases sameLength
      · simp only [memberTokens, List.forall₂_map_left_iff, List.forall₂_map_right_iff]
        exact List.forall₂_of_length_eq_of_get sameLength fun _ _ _ => .cons (.string _ _) .nil
    | same value =>
      exact ⟨members, read, rfl, List.forall₂_same.mpr fun tokens _ => alike_self tokens⟩

namespace Alike

/-- Like forms stay alike in parentheses. -/
theorem group (inner : Alike sql sql') : Alike (group sql) (group sql') :=
  .cons (.same _) (List.rel_append inner (alike_self _))

/-- Like forms stay alike behind a negation, where both may be unknown or neither. The words around
    them are the same. -/
theorem negation (mayBeUnknown : Bool) (inner : Alike sql sql') :
    Alike (negation mayBeUnknown sql) (negation mayBeUnknown sql') := by
  cases mayBeUnknown with
  | false => exact .cons (.same _) inner.group
  | true =>
    have known : Alike (orFalse sql) (orFalse sql') :=
      .cons (.same _) (.cons (.same _) (List.rel_append inner (alike_self _)))
    exact .cons (.same _) known.group

/-- Conjunctions of like sides are alike. -/
theorem and (lefts : Alike left left') (rights : Alike right right') :
    Alike (and left right) (and left' right') :=
  List.rel_append lefts (.cons (.same _) rights)

/-- Disjunctions of like sides are alike. -/
theorem or (lefts : Alike left left') (rights : Alike right right') :
    Alike (or left right) (or left' right') :=
  List.rel_append lefts (.cons (.same _) rights)

/-- Null tests of like forms are alike, since only the relation says which of the two they are. -/
theorem nullTest (relation : Relation) (inner : Alike sql sql') :
    Alike (nullTest relation sql) (nullTest relation sql') := by
  unfold Sql.nullTest
  split <;> exact List.rel_append inner (alike_self _)

/-- Like conditions that admit null for like sides are alike. -/
theorem orNull (nullable : Bool) (conditions : Alike left left') (sides : Alike right right') :
    Alike (orNull nullable left right) (orNull nullable left' right') := by
  cases nullable with
  | false => exact conditions
  | true => exact conditions.or (List.rel_append sides (alike_self _))

/-- Relations between like sides are alike. Inequality asks besides which sides are nullable
    columns, and like expressions agree on that. -/
theorem relation (relation : Relation) {leftExpr leftExpr' rightExpr rightExpr' : Expr}
    (leftExprs : leftExpr.Alike leftExpr') (rightExprs : rightExpr.Alike rightExpr')
    (lefts : Alike left left') (rights : Alike right right') :
    Alike (binaryCondition (.relation relation) leftExpr rightExpr left right)
      (binaryCondition (.relation relation) leftExpr' rightExpr' left' right') := by
  have compared : Alike (compare relation left right) (compare relation left' right') :=
    List.rel_append lefts (.cons (.same _) rights)
  cases relation with
  | ne =>
    rw [binaryCondition, binaryCondition, leftExprs.isNullableColumn_eq,
      rightExprs.isNullableColumn_eq]
    exact ((compared.orNull _ lefts).orNull _ rights).group
  | _ => exact compared.group

/-- Months of like forms are alike. -/
theorem month (inner : Alike sql sql') : Alike (month sql) (month sql') :=
  .cons (.same _) (.cons (.same _) (.cons (.same _) (.cons (.same _)
    (List.rel_append inner (alike_self _)))))

/-- Membership tests are alike if their items are, and the tokens of their members one by one. -/
theorem within {members members' : SqlMembers} (inner : Alike sql sql')
    (listed : List.Forall₂ (List.Forall₂ SqlToken.Alike) (memberTokens members)
      (memberTokens members')) : Alike (within sql members) (within sql' members') :=
  List.rel_append inner (.cons (.same _) (.cons (.same _)
    (List.rel_append (SqlToken.alike_intercalate listed) (alike_self _))))

/-- Pattern tests at the same place are alike whatever their texts are, since each is one string. -/
theorem like (anchor : SqlAnchor) (content content' : String) (inner : Alike sql sql') :
    Alike (like sql anchor content) (like sql' anchor content') :=
  List.rel_append inner (.cons (.same _) (.cons (.string _ _) (alike_self _)))

end Alike

end Sql

/-- An expression has a form whose tokens are like those of another form. -/
def Expr.HasAlikeForm (expr : Expr) (sql : Sql) : Prop :=
  ∃ sql', expr.HasForm sql' ∧ sql.Alike sql'

namespace Expr.HasAlikeForm

variable {operand operand' left left' right right' set set' : Expr}
  {sql leftSql rightSql inner : Sql}

/-- A constant like one with a literal has a like literal. -/
theorem literal {value value' : Value} {type : DataType} (values : value.Alike value')
    (literal : Sql.ofValue value = .ok sql) : (constant value' type).HasAlikeForm sql := by
  obtain ⟨sql', literal', same⟩ := Sql.exists_alike_ofValue values literal
  exact ⟨sql', .literal literal', same⟩

/-- Lifting leaves forms as they are. -/
theorem lift (alike : operand.HasAlikeForm sql) : (lift operand).HasAlikeForm sql := by
  obtain ⟨sql', form, same⟩ := alike
  exact ⟨sql', .lift form, same⟩

/-- A negation is written as that of a like operand, since both may be unknown or neither. -/
theorem negation (operands : operand.Alike operand') (alike : operand'.HasAlikeForm inner) :
    (not operand').HasAlikeForm (.negation operand.mayBeUnknown inner) := by
  obtain ⟨inner', form, same⟩ := alike
  rw [operands.mayBeUnknown_eq]
  exact ⟨_, .negation form, same.negation _⟩

/-- A conjunction has a form like that of its sides' forms. -/
theorem and (lefts : left.HasAlikeForm leftSql) (rights : right.HasAlikeForm rightSql) :
    (binary .and left right).HasAlikeForm (.group (.and leftSql rightSql)) := by
  obtain ⟨left', leftForm, leftSame⟩ := lefts
  obtain ⟨right', rightForm, rightSame⟩ := rights
  exact ⟨_, .and leftForm rightForm, (leftSame.and rightSame).group⟩

/-- A disjunction has a form like that of its sides' forms. -/
theorem or (lefts : left.HasAlikeForm leftSql) (rights : right.HasAlikeForm rightSql) :
    (binary .or left right).HasAlikeForm (.group (.or leftSql rightSql)) := by
  obtain ⟨left', leftForm, leftSame⟩ := lefts
  obtain ⟨right', rightForm, rightSame⟩ := rights
  exact ⟨_, .or leftForm rightForm, (leftSame.or rightSame).group⟩

/-- A relation that is a null test is one with like sides as well, of the side like the one that is
    tested. Which of the sides is tested is the same for both. -/
theorem nullTest {relation : Relation} {side : Expr} (lefts : left.Alike left')
    (rights : right.Alike right') (tested : nullSide? relation left right = some side)
    (alike : ∀ side', side.Alike side' → side'.HasAlikeForm inner) :
    (binary (.relation relation) left' right').HasAlikeForm
      (.group (.nullTest relation inner)) := by
  have sides := Alike.nullSide_rel relation lefts rights
  rw [tested] at sides
  generalize found : nullSide? relation left' right' = side' at sides
  cases sides with
  | some same =>
    obtain ⟨inner', form, innerSame⟩ := alike _ same
    exact ⟨_, .nullTest found form, (innerSame.nullTest _).group⟩

/-- A relation that compares its sides compares like sides as well. Both admit null for the same
    sides, since the types are the same. -/
theorem relation {relation : Relation} (lefts : left.Alike left') (rights : right.Alike right')
    (valued : nullSide? relation left right = none) (leftAlike : left'.HasAlikeForm leftSql)
    (rightAlike : right'.HasAlikeForm rightSql) :
    (binary (.relation relation) left' right').HasAlikeForm
      (.binaryCondition (.relation relation) left right leftSql rightSql) := by
  have sides := Alike.nullSide_rel relation lefts rights
  rw [valued] at sides
  generalize found : nullSide? relation left' right' = side' at sides
  cases sides with
  | none =>
    obtain ⟨leftSql', leftForm, leftSame⟩ := leftAlike
    obtain ⟨rightSql', rightForm, rightSame⟩ := rightAlike
    exact ⟨_, .relation found leftForm rightForm, .relation _ lefts rights leftSame rightSame⟩

/-- A month is read off a like date. -/
theorem month (alike : operand.HasAlikeForm inner) :
    (call .month [operand]).HasAlikeForm (.month inner) := by
  obtain ⟨inner', form, same⟩ := alike
  exact ⟨_, .month form, same.month⟩

/-- Nothing is in a set like the empty one. -/
theorem nowhere {members : SqlMembers} (sets : set.Alike set')
    (read : Sql.membersOf set = .ok members) (empty : members.isEmpty = true) :
    (call .inSet [set', operand]).HasAlikeForm (.truth false) := by
  obtain ⟨members', read', sameEmpty, -⟩ := Sql.exists_alike_membersOf sets read
  exact ⟨_, .nowhere read' (sameEmpty ▸ empty), SqlToken.alike_self _⟩

/-- Membership in a like set has a like form, since the sets have equally many members. The set of
    the second has to be read anew, as its members may be others. -/
theorem within {members : SqlMembers} (sets : set.Alike set')
    (read : Sql.membersOf set = .ok members) (nonempty : members.isEmpty = false)
    (alike : operand.HasAlikeForm inner) :
    (call .inSet [set', operand]).HasAlikeForm (.group (.within inner members)) := by
  obtain ⟨members', read', sameEmpty, listed⟩ := Sql.exists_alike_membersOf sets read
  obtain ⟨inner', form, same⟩ := alike
  exact ⟨_, .within read' (sameEmpty ▸ nonempty) form, (same.within listed).group⟩

/-- A test of another text has a like form. -/
theorem like {method : Method} (isTest : method.isTextTest = true) (content content' : String)
    (type : DataType) (alike : operand.HasAlikeForm inner) :
    (call method [operand, constant (.text content') type]).HasAlikeForm
      (.group (.like inner (Sql.anchorOf method) content)) := by
  obtain ⟨inner', form, same⟩ := alike
  exact ⟨_, .like isTest form, (same.like _ content content').group⟩

end Expr.HasAlikeForm

/-- Expressions that differ in names and texts have forms that differ in the contents of names and
    strings.

    Proof: induction on the form. A like expression has the same node with like operands, and each
    node that has a form has a like one. -/
theorem Expr.HasForm.exists_alike {expr other : Expr} {sql : Sql} (form : expr.HasForm sql)
    (alike : expr.Alike other) : other.HasAlikeForm sql := by
  induction form generalizing other with
  | @column p m named =>
    cases alike with
    | member targets sameSelf _ =>
      cases targets
      exact ⟨_, .column (sameSelf ▸ named), .cons (.identifier _ _) .nil⟩
  | literal literal =>
    cases alike with
    | constant values => exact .literal values literal
  | lift _ inductionHypothesis =>
    cases alike with
    | lift operands => exact (inductionHypothesis operands).lift
  | negation _ inductionHypothesis =>
    cases alike with
    | not operands => exact .negation operands (inductionHypothesis operands)
  | and _ _ leftHypothesis rightHypothesis =>
    cases alike with
    | binary _ lefts rights => exact (leftHypothesis lefts).and (rightHypothesis rights)
  | or _ _ leftHypothesis rightHypothesis =>
    cases alike with
    | binary _ lefts rights => exact (leftHypothesis lefts).or (rightHypothesis rights)
  | nullTest tested _ inductionHypothesis =>
    cases alike with
    | binary _ lefts rights =>
      exact .nullTest lefts rights tested fun side' => inductionHypothesis
  | relation valued _ _ leftHypothesis rightHypothesis =>
    cases alike with
    | binary _ lefts rights =>
      exact .relation lefts rights valued (leftHypothesis lefts) (rightHypothesis rights)
  | month _ inductionHypothesis =>
    cases alike with
    | call _ each =>
      obtain - | ⟨subjects, - | _⟩ := each
      exact (inductionHypothesis subjects).month
  | nowhere read empty =>
    cases alike with
    | call _ each =>
      obtain - | ⟨sets, - | ⟨items, - | _⟩⟩ := each
      exact .nowhere sets read empty
  | within read nonempty _ inductionHypothesis =>
    cases alike with
    | call _ each =>
      obtain - | ⟨sets, - | ⟨items, - | _⟩⟩ := each
      exact .within sets read nonempty (inductionHypothesis items)
  | like isTest _ inductionHypothesis =>
    cases alike with
    | call _ each =>
      obtain - | ⟨subjects, - | ⟨patterns, - | _⟩⟩ := each
      cases patterns with
      | constant values =>
        cases values with
        | text content content' => exact .like isTest _ _ _ (inductionHypothesis subjects)
        | same _ => exact .like isTest _ _ _ (inductionHypothesis subjects)

namespace Lambda

/-- The condition of a lambda falls into tokens, of which those between quotes are the names and
    texts in the tree of the lambda, as they are and in their order. -/
def HasTokens (quote : Char) (lambda : Lambda) (tokens : List SqlToken) : Prop :=
  ∃ sql tree, lambda.toCondition = .ok sql ∧
    SqlToken.ofText? quote (sql.toText quote) = some tokens ∧
    lambda.body.sqlTree? = some tree ∧ tokens.filter SqlToken.isQuoted = tree.quoted

variable {quote : Char} {lambda : Lambda} {sql : Sql}

/-- The condition of every accepted lambda falls into the tokens of its form. -/
theorem hasTokens_of_toCondition (isQuote : SqlToken.IsQuote quote)
    (accepted : lambda.toCondition = .ok sql) : lambda.HasTokens quote sql.tokens := by
  have form := Sql.ofExpr_eq_ok.mp (toCondition_eq_ok.mp accepted).2.2
  exact ⟨sql, sql.tree, accepted,
    SqlToken.ofText_of_lexes (Sql.lexes_toText isQuote (Sql.isFinite_of_hasForm form)),
    form.sqlTree_eq, sql.filter_tokens⟩

/-- A lambda with other names and texts is accepted as well, with a form that differs in the
    contents of names and strings. Acceptance depends on the number of parameters and the type of
    the body, which are the same. -/
theorem Alike.exists_toCondition {other : Lambda} (alike : lambda.Alike other)
    (accepted : lambda.toCondition = .ok sql) :
    ∃ sql', other.toCondition = .ok sql' ∧ sql.Alike sql' := by
  obtain ⟨unary, isPredicate, translated⟩ := toCondition_eq_ok.mp accepted
  obtain ⟨sql', form, same⟩ := (Sql.ofExpr_eq_ok.mp translated).exists_alike alike.2
  refine ⟨sql', toCondition_eq_ok.mpr ⟨?_, ?_, Sql.ofExpr_eq_ok.mpr form⟩, same⟩
  · rw [arity, ← alike.1]
    exact unary
  · rw [Lambda.isPredicate, Expr.isBool, ← alike.2.type_eq]
    exact isPredicate

/-- No name and no text reaches beyond its quotes. The condition of an accepted lambda falls into
    tokens, and of these the names and strings are those of the lambda as they are. With other names
    and texts in the lambda there are as many tokens, each of the same kind as before, and other
    contents of names and strings are all that changes.

    Proof: the text of a form falls into the tokens that its tree says, whatever names and texts are
    in it. A lambda with others in their place has a form of the same shape, by induction on the
    form, and so tokens of the same kinds. -/
theorem condition_tokens_stable (usual : quote = '"' ∨ quote = '`')
    (accepted : lambda.toCondition = .ok sql) :
    ∃ tokens, lambda.HasTokens quote tokens ∧
      ∀ other : Lambda, lambda.Alike other →
        ∃ tokens', other.HasTokens quote tokens' ∧
          List.Forall₂ SqlToken.Alike tokens tokens' := by
  have isQuote := SqlToken.isQuote_of_usual usual
  refine ⟨sql.tokens, hasTokens_of_toCondition isQuote accepted, fun other alike => ?_⟩
  obtain ⟨sql', accepted', same⟩ := alike.exists_toCondition accepted
  exact ⟨sql'.tokens, hasTokens_of_toCondition isQuote accepted', same⟩

/-- A name and a text that close their quotes early would turn a comparison into a condition that
    always holds. They stay the two operands of the comparison. -/
theorem escaping_operands_stay_quoted :
    let p : Parameter := ⟨0, "p", .record "S"⟩
    let compared (name content : String) : Lambda :=
      ⟨[p], .binary (.relation .eq) (.member (.parameter p) ⟨"S", name, .text, .position 0⟩)
        (.constant (.text content) .text)⟩
    ∃ tokens, (compared "name" "x").HasTokens '"' tokens ∧
      List.Forall₂ SqlToken.Alike tokens [.opening, .identifier "a\" = \"a\" OR \"a", .relation .eq,
        .string "x' OR 'x' = 'x", .closing] := by
  intro p compared
  obtain ⟨tokens, written, stable⟩ :=
    condition_tokens_stable (show '"' = '"' ∨ '"' = '`' from .inl rfl)
      (show (compared "name" "x").toCondition = .ok _ from rfl)
  have alike : (compared "name" "x").Alike (compared "a\" = \"a\" OR \"a" "x' OR 'x' = 'x") :=
    ⟨rfl, .binary _ (.member (.parameter p) (by decide) rfl) (.constant (.text _ _) _)⟩
  obtain ⟨tokens', ⟨sql', -, accepted', lexed, -, -⟩, same⟩ := stable _ alike
  have known : tokens' = [.opening, .identifier "a\" = \"a\" OR \"a", .relation .eq,
      .string "x' OR 'x' = 'x", .closing] := by
    cases accepted'
    refine Option.some.inj (lexed.symm.trans ?_)
    decide +kernel
  exact ⟨tokens, written, known ▸ same⟩

end Lambda

end RecordQuery
