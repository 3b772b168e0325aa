import RecordQuery.Proofs.Compiled.Combination
import RecordQuery.Proofs.Number.Finite
import RecordQuery.Proofs.Sql.Translation

/-!
# Which compiled predicates have a condition

Only two things keep the condition of a filter from being written. The record itself is no column,
and an infinite or undefined binary number has no literal. A test of membership in the empty set is
written without what is tested, so there neither counts. Connectives write what they join, whatever
the nesting, and a predicate that is joined to another keeps its condition over the parameter of
that one. A combination of compiled filters and constants therefore has a condition unless one of
its filters has none.
-/

namespace RecordQuery

/-- Whether an expression has an SQL form. -/
def Expr.Translates (expr : Expr) : Prop :=
  ∃ sql, Sql.ofExpr expr = .ok sql

/-- Whether a value is a set without items. -/
def Value.isEmptySet : Value → Bool
  | ints items => items.isEmpty
  | texts items => items.isEmpty
  | _ => false

/-- Whether a literal is a list without items. -/
def Literal.isEmptyList : Literal → Bool
  | ints items => items.isEmpty
  | texts items => items.isEmpty
  | _ => false

namespace Expr

variable {left right operand : Expr}

/-- A negation needs what it negates. -/
theorem translates_not : (not operand).Translates ↔ operand.Translates := by
  simp [Translates, Sql.ofExpr_not]

/-- A conjunction needs both of its sides, since each of them is written. -/
theorem translates_and :
    (binary .and left right).Translates ↔ left.Translates ∧ right.Translates := by
  simp [Translates, Sql.ofExpr_and]

/-- A disjunction needs both of its sides, since each of them is written. -/
theorem translates_or :
    (binary .or left right).Translates ↔ left.Translates ∧ right.Translates := by
  simp [Translates, Sql.ofExpr_or]

/-- A relation without null constants needs both of its sides. Beside a null constant, equality is
    written as a test of the other side for null, and is treated apart. -/
theorem translates_relate (relation : Relation) (leftValued : left.isNullConstant = false)
    (rightValued : right.isNullConstant = false) :
    (relate relation left right).Translates ↔ left.Translates ∧ right.Translates := by
  have written (first second : Expr) (firstValued : first.isNullConstant = false)
      (secondValued : second.isNullConstant = false) :
      (binary (.relation relation) first second).Translates ↔
        first.Translates ∧ second.Translates := by
    have absent : nullSide? relation first second = none := by
      simp [nullSide?, firstValued, secondValued]
    simp [Translates, Sql.ofExpr_relation absent]
  -- A lifted side is a null constant, and has a form, when the side itself does.
  obtain ⟨first, second, rfl | rfl, rfl | rfl, related⟩ := relate_eq relation left right
  all_goals
    rw [related]
    exact written _ _ leftValued rightValued

/-- A text test with a constant text needs its subject. -/
theorem translates_textTest {method : Method} (isTest : method.isTextTest = true)
    (subject : Expr) (content : String) :
    (call method [subject, .ofValue (.text content)]).Translates ↔ subject.Translates := by
  simp [Translates, Sql.ofExpr_textTest isTest, ofValue]

/-- A test of membership in a constant set needs its item unless the set is empty. -/
theorem translates_inSet {set : Expr} {members : SqlMembers}
    (constant : Sql.membersOf set = .ok members) (item : Expr) :
    (call .inSet [set, item]).Translates ↔ members.isEmpty = true ∨ item.Translates := by
  by_cases empty : members.isEmpty = true <;>
    simp [Translates, Sql.ofExpr_inSet, constant, empty]

/-- A month needs its date. -/
theorem translates_month : (call .month [operand]).Translates ↔ operand.Translates := by
  simp [Translates, Sql.ofExpr_month]

/-- A member of a parameter is a column unless it is the record itself. -/
theorem translates_member (p : Parameter) (m : Member) :
    (member (.parameter p) m).Translates ↔ m.isSelf = false := by
  simp [Translates, Sql.ofExpr_member]

/-- Every constant that is no set has a form, unless it is a number that is not finite. Sets are
    only written as the second part of a membership test. -/
theorem translates_ofValue {constant : Value} (single : constant.isSet = false) :
    (ofValue constant).Translates ↔
      ∀ number, constant = .number number → number.isFinite = true := by
  cases constant with
  | number number =>
    cases finite : number.isFinite <;> simp [Translates, ofValue, Sql.ofExpr, Sql.ofValue, finite]
  | ints _ | texts _ => cases single
  | _ => simp [Translates, ofValue, Sql.ofExpr, Sql.ofValue]

variable {reads : Member → Prop} {p q : Parameter} {m : Member} {expr : Expr}

/-- A condition on a member of one parameter has a form if it has one over another. The form has the
    columns' names and not the parameter, so it is even the same one. -/
theorem Leaf.translates_substitute (leaf : Leaf q m expr) (p : Parameter) :
    (expr.substitute (.single q.id (.parameter p))).Translates ↔ expr.Translates := by
  have read := substitute_read q p m
  have target : (parameter q).substitute (.single q.id (.parameter p)) = .parameter p := by
    simp [Expr.substitute, Substitution.single, Substitution.extend]
  have members : (member (.parameter p) m).Translates ↔ (member (.parameter q) m).Translates := by
    rw [translates_member, translates_member]
  cases leaf with
  | relation relation constant valued compares =>
    have constantValued : (ofValue constant).isNullConstant = false := by
      cases constant <;> first | rfl | exact absurd rfl valued
    rw [substitute_relate, target, translates_relate relation rfl constantValued,
      translates_relate relation rfl constantValued, members]
  | textTest method isTest content isText =>
    simp only [Expr.substitute, substituteAll] at read ⊢
    rw [read]
    exact (translates_textTest isTest _ content).trans
      (members.trans (translates_textTest isTest _ content).symm)
  | inInts values _ | inTexts values _ =>
    simp only [Expr.substitute, substituteAll] at read ⊢
    rw [read]
    exact (translates_inSet rfl _).trans
      ((or_congr_right members).trans (translates_inSet rfl _).symm)
  | monthIn values isDate =>
    have months := translates_month.trans (members.trans translates_month.symm)
    simp only [Expr.substitute, substituteAll] at read ⊢
    rw [read]
    exact (translates_inSet rfl _).trans
      ((or_congr_right months).trans (translates_inSet rfl _).symm)

/-- A body over one parameter has a form if it has one over another. With it, the second part of a
    junction may be looked at over its own parameter. -/
theorem FilterBody.translates_substitute (body : FilterBody reads q expr) (p : Parameter) :
    (expr.substitute (.single q.id (.parameter p))).Translates ↔ expr.Translates := by
  induction body with
  | leaf member shape => exact shape.translates_substitute p
  | constant holds => rfl
  | not _ inductionHypothesis =>
    exact translates_not.trans (inductionHypothesis.trans translates_not.symm)
  | and _ _ leftHypothesis rightHypothesis =>
    exact translates_and.trans ((and_congr leftHypothesis rightHypothesis).trans
      translates_and.symm)
  | or _ _ leftHypothesis rightHypothesis =>
    exact translates_or.trans ((and_congr leftHypothesis rightHypothesis).trans
      translates_or.symm)

end Expr

namespace Comparison

variable {comparison : Comparison} {subject condition : Expr} {constant : Value}

/-- A constant that is a set is written with its items, and is no number. -/
theorem exists_members (isSet : constant.isSet = true) :
    ∃ members, Sql.membersOf (.ofValue constant) = .ok members ∧
      members.isEmpty = constant.isEmptySet ∧ ∀ number, constant ≠ .number number := by
  cases constant with
  | ints items => exact ⟨.ints items, rfl, rfl, by simp⟩
  | texts items => exact ⟨.texts items, rfl, rfl, by simp⟩
  | _ => cases isSet

/-- A comparison of a subject with a constant has a form when the subject has one and the constant
    is no infinite or undefined number, and always when the constant is the empty set. The empty set
    is written as a constant that is false, and its subject is dropped unread. -/
theorem translates_condition (valued : subject.isNullConstant = false)
    (applies : comparison.condition? subject constant = some condition) :
    condition.Translates ↔ constant.isEmptySet = true ∨ (subject.Translates ∧
      ∀ number, constant = .number number → number.isFinite = true) := by
  cases shape_of_condition applies with
  | relation relation constantValued single =>
    have filled : constant.isEmptySet = false := by
      cases constant <;> first | rfl | cases single
    have notNull : (Expr.ofValue constant).isNullConstant = false := by
      cases constant <;> first | rfl | contradiction
    rw [Expr.translates_relate relation valued notNull, Expr.translates_ofValue single, filled]
    simp
  | textTest method isTest isText =>
    subst isText
    rw [Expr.translates_textTest isTest]
    simp [Value.isEmptySet]
  | negatedTest method isTest isText =>
    subst isText
    rw [Expr.translates_not, Expr.translates_textTest isTest]
    simp [Value.isEmptySet]
  | inSet isSet noDate =>
    obtain ⟨members, known, empty, numberless⟩ := exists_members isSet
    simp [Expr.translates_inSet known, empty, numberless]
  | monthIn isSet isDate =>
    obtain ⟨members, known, empty, numberless⟩ := exists_members isSet
    simp [Expr.translates_inSet known, Expr.translates_month, empty, numberless]

end Comparison

/-- A literal is read for the empty set exactly when it is a list without items. So whether a filter
    tests for the empty set can be seen from its literal. -/
theorem Literal.isEmptyList_of_read {base : DataType} {literal : Literal} {constant : Value}
    (read : literal.constantFor? base = .ok (some constant)) :
    literal.isEmptyList = constant.isEmptySet := by
  unfold constantFor? at read
  split at read
  case h_3 | h_4 | h_5 | h_7 =>
    obtain ⟨value, -, same⟩ := change_eq_ok.mp read
    cases same
    rfl
  case h_11 => cases read
  all_goals
    cases read
    rfl

namespace Compiled

/-- The constant that a filter compares with, if its name and literal go together. -/
def constant? (projections : Projections) (filter : Filter) : Option Value :=
  (projections.resolve? filter.property?).bind fun projection =>
    (filter.literal.constantFor? projection.type.base).toOption.join

/-- Whether nothing can be written for a filter: it reads the record itself, or compares with an
    infinite or undefined binary number, and is no test of membership in the empty set. -/
structure Unwritable (projections : Projections) (filter : Filter) : Prop where
  tests : filter.literal.isEmptyList = false
  reads : filter.property? = none ∨ ∃ number, constant? projections filter = some (.number number) ∧
    number.isBinary = true ∧ number.isFinite = false

variable {type : RecordType} {id : Nat} {filter : Filter} {predicate : Predicate}

/-- A property that filters resolve to is the record itself exactly when the filter names none. A
    name leads to a column or nowhere. -/
theorem isSelf_of_resolved {m : Member}
    (resolved : (Projections.ofType type id).resolve? filter.property? =
      some (.ofMember (Projections.sharedParameter type id) m)) :
    m.isSelf = true ↔ filter.property? = none := by
  cases named : filter.property? with
  | none =>
    refine iff_of_true ?_ rfl
    have self : Projections.selfOf type (Projections.sharedParameter type id) =
        .ofMember (Projections.sharedParameter type id) m := by
      simpa [named, Projections.resolve?, Projections.ofType] using resolved
    unfold Projections.selfOf at self
    split at self <;> cases self
    rfl
  | some name =>
    refine iff_of_false ?_ (Option.some_ne_none name)
    obtain ⟨given, -, trimmed⟩ := Option.bind_eq_some_iff.mp named
    have found : (Projections.ofType type id).get? name =
        some (.ofMember (Projections.sharedParameter type id) m) := by
      simpa [Projections.resolve?, named, Text.nonBlank_of_nonBlank trimmed] using resolved
    obtain ⟨other, -, rfl, same⟩ := Projections.get?_eq_some found
    cases same
    simpa [Member.isSelf] using (Text.nonBlank_eq_some_iff.mp trimmed).2

/-- A filter that is not dropped has a condition unless nothing can be written for it. Everything
    that compiling can produce has a form but these two kinds of filters. -/
theorem translates_of_ready
    (compiled : ofFilter (Projections.ofType type id) filter = .ok (ready predicate)) :
    predicate.body.Translates ↔ ¬ Unwritable (.ofType type id) filter := by
  obtain ⟨projection, constant, body, resolved, read, applied, rfl⟩ := ofParts_eq_ready compiled
  have suits := Literal.suits_of_constantFor read
  obtain ⟨m, readable, rfl⟩ := member_of_constant (Projections.resolve_eq_some resolved) suits
  have known : constant? (.ofType type id) filter = some constant := by
    rw [constant?, resolved, Option.bind_some, read]
    rfl
  have self := isSelf_of_resolved resolved
  have written : body.Translates ↔ constant.isEmptySet = true ∨ (m.isSelf = false ∧
      ∀ number, constant = .number number → number.isFinite = true) := by
    rw [← Expr.translates_member (Projections.sharedParameter type id) m]
    exact Comparison.translates_condition rfl applied
  rw [written]
  constructor
  · rintro able ⟨tests, reads⟩
    rw [Literal.isEmptyList_of_read read] at tests
    obtain ⟨column, finite⟩ := able.resolve_left (by simp [tests])
    rcases reads with unnamed | ⟨number, compared, -, infinite⟩
    · rw [self.mpr unnamed] at column
      cases column
    · cases known.symm.trans compared
      rw [finite number rfl] at infinite
      cases infinite
  · intro able
    refine or_iff_not_imp_left.mpr fun filled => ⟨?_, ?_⟩
    all_goals
      have tests : filter.literal.isEmptyList = false := by
        rw [Literal.isEmptyList_of_read read]
        exact Bool.eq_false_of_not_eq_true filled
    · refine Bool.eq_false_of_not_eq_true fun isSelf => able ⟨tests, .inl (self.mp isSelf)⟩
    · rintro number rfl
      refine Bool.of_not_eq_false fun infinite => able ⟨tests, .inr ⟨number, known, ?_, infinite⟩⟩
      -- Integers and decimals are finite, so the number is a binary one.
      refine Bool.of_not_eq_false fun exact => ?_
      rw [Number.isFinite_of_exact exact] at infinite
      cases infinite

end Compiled

namespace Combination

variable {type : RecordType} {combination : Combination Predicate}

/-- A combination of elementary predicates has a form when all of its leaves have one. A connective
    always has a form if its parts do. -/
theorem translates_iff (elementary : ∀ leaf ∈ combination.leaves, leaf.IsElementary type) :
    combination.predicate.body.Translates ↔
      ∀ leaf ∈ combination.leaves, leaf.body.Translates := by
  induction combination with
  | leaf predicate => simp [Combination.predicate, leaves]
  | and left right leftHypothesis rightHypothesis =>
    obtain ⟨first, second⟩ := List.forall_mem_append.mp elementary
    have joined := (body second).translates_substitute left.predicate.parameter
    rw [leaves, List.forall_mem_append, ← leftHypothesis first, ← rightHypothesis second, ← joined]
    exact Expr.translates_and
  | or left right leftHypothesis rightHypothesis =>
    obtain ⟨first, second⟩ := List.forall_mem_append.mp elementary
    have joined := (body second).translates_substitute left.predicate.parameter
    rw [leaves, List.forall_mem_append, ← leftHypothesis first, ← rightHypothesis second, ← joined]
    exact Expr.translates_or
  | not operand inductionHypothesis =>
    exact Expr.translates_not.trans (inductionHypothesis elementary)

/-- A combination of compiled filters and constants has no condition exactly when one of its leaves
    is the predicate of a filter for which nothing can be written: one that reads the record itself
    or compares with an infinite or undefined binary number, tests of membership in the empty set
    apart.

    Proof: the body of a combination is a condition, so its translation fails only by a part without
    a form. By induction on the combination this is a leaf, constants always have a form, and a
    compiled filter has one unless it is of the two kinds. -/
theorem toCondition_fails_iff (elementary : ∀ leaf ∈ combination.leaves, leaf.IsElementary type) :
    (∃ error, combination.predicate.toLambda.toCondition = .error error) ↔
      ∃ leaf ∈ combination.leaves, ∃ id filter,
        Compiled.ofFilter (.ofType type id) filter = .ok (.ready leaf) ∧
        Compiled.Unwritable (.ofType type id) filter := by
  have isPredicate : combination.predicate.toLambda.isPredicate = true := (body elementary).isBool
  have fails : (∃ error, combination.predicate.toLambda.toCondition = .error error) ↔
      ¬ combination.predicate.body.Translates := by
    have condition : combination.predicate.toLambda.toCondition =
        Sql.ofExpr combination.predicate.body := by
      rw [Lambda.toCondition, isPredicate, if_pos rfl]
      rfl
    rw [condition, Expr.Translates]
    cases Sql.ofExpr combination.predicate.body <;> simp
  rw [fails, translates_iff elementary]
  simp only [not_forall, exists_prop]
  refine exists_congr fun leaf => and_congr_right fun member => ⟨fun unwritten => ?_, ?_⟩
  · rcases elementary leaf member with ⟨id, filter, compiled⟩ | ⟨p, holds, rfl⟩
    · exact ⟨id, filter, compiled,
        not_not.mp fun able => unwritten ((Compiled.translates_of_ready compiled).mpr able)⟩
    · exact absurd ⟨.truth holds, rfl⟩ unwritten
  · rintro ⟨id, filter, compiled, unwritable⟩ translated
    exact (Compiled.translates_of_ready compiled).mp translated unwritable

/-- A comparison with infinity leaves a predicate without a condition, wherever it stands; a test of
    the record itself for membership in the empty set does not. The second filter reads the record
    itself, which has no column, but its text is never asked for. -/
theorem toCondition_fails_at_infinity :
    let type : RecordType := ⟨"R", .ok [⟨"x", .number .double⟩], some .text⟩
    let far : Filter := ⟨some "x", .lessThan, .number (.double (.infinite false))⟩
    let nowhere : Filter := ⟨none, .isIn, .texts []⟩
    ∃ first second, Compiled.ofFilter (.ofType type 0) far = .ok (.ready first) ∧
      Compiled.ofFilter (.ofType type 1) nowhere = .ok (.ready second) ∧
      (∃ error, (second.and first.not).toLambda.toCondition = .error error) ∧
      ¬ ∃ error, (second.not.or (.constant first.parameter true)).toLambda.toCondition =
        .error error := by
  intro type far nowhere
  let p := Projections.sharedParameter type 0
  let q := Projections.sharedParameter type 1
  let first : Predicate := ⟨p, .relate .lt (.member (.parameter p)
    (.ofProperty type 0 ⟨"x", .number .double⟩)) (.ofValue (.number (.double (.infinite false))))⟩
  let second : Predicate := ⟨q, .call .inSet
    [.ofValue (.texts []), .member (.parameter q) (.ofSelf type .text)]⟩
  have firstReady : Compiled.ofFilter (.ofType type 0) far = .ok (.ready first) := rfl
  have secondReady : Compiled.ofFilter (.ofType type 1) nowhere = .ok (.ready second) := rfl
  refine ⟨first, second, firstReady, secondReady, ?_, ?_⟩
  · let combination : Combination Predicate := and (leaf second) (not (leaf first))
    have elementary : ∀ leaf ∈ combination.leaves, leaf.IsElementary type := by
      intro leaf member
      rcases List.mem_cons.mp member with rfl | member
      · exact .inl ⟨1, nowhere, secondReady⟩
      · obtain rfl := List.mem_singleton.mp member
        exact .inl ⟨0, far, firstReady⟩
    exact (toCondition_fails_iff elementary).mpr ⟨first, .tail _ (.head _), 0, far,
      firstReady, rfl, .inr ⟨.double (.infinite false), rfl, rfl, rfl⟩⟩
  · let combination : Combination Predicate := or (not (leaf second)) (leaf (.constant p true))
    have elementary : ∀ leaf ∈ combination.leaves, leaf.IsElementary type := by
      intro leaf member
      rcases List.mem_cons.mp member with rfl | member
      · exact .inl ⟨1, nowhere, secondReady⟩
      · obtain rfl := List.mem_singleton.mp member
        exact .inr ⟨p, true, rfl⟩
    refine fun fails => ?_
    obtain ⟨leaf, member, id, filter, compiled, unwritable⟩ :=
      (toCondition_fails_iff elementary).mp fails
    have translates : leaf.body.Translates := by
      rcases List.mem_cons.mp member with rfl | member
      · exact ⟨.truth false, rfl⟩
      · obtain rfl := List.mem_singleton.mp member
        exact ⟨.truth true, rfl⟩
    exact (Compiled.translates_of_ready compiled).mp translates unwritable

end Combination

end RecordQuery
