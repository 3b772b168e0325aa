import RecordQuery.Proofs.Sql.Forms
import RecordQuery.Proofs.Sql.Reading

/-!
# Conditions that are never unknown

Null enters a condition through columns without a value and through null constants only. Every
operator and test of values that are not null has a value itself, wherever negations stand. An
expression without null constants that reads no nullable column is therefore never unknown.
-/

namespace RecordQuery

namespace Sql

variable {columns : String → Value} {left right inner : Sql}

/-- A test that knows the truth of every value knows it beneath negations. A negation is null only
    if its operand is, so the induction strips one after the other. -/
theorem beneath_ne_null {test : Sql → Sql}
    (known : ∀ subject, subject.value columns ≠ .null → (test subject).value columns ≠ .null)
    {sql : Sql} (valued : sql.value columns ≠ .null) :
    (beneath test sql).value columns ≠ .null := by
  induction sql with
  | not operand inductionHypothesis =>
    have operandValued : operand.value columns ≠ .null := by
      intro missing
      exact valued (negated_eq_null.mpr missing)
    intro missing
    exact inductionHypothesis operandValued (negated_eq_null.mp missing)
  | _ => exact known _ valued

/-- The literal of a constant that is not null has a value. -/
theorem meaning_ofValue_ne_null {value : Value} {sql : Sql} (literal : ofValue value = .ok sql)
    (valued : value ≠ .null) : sql.meaning columns ≠ .null := by
  unfold ofValue at literal
  split at literal <;> try split at literal
  all_goals cases literal
  all_goals first | contradiction | simp [meaning, asRead, Sql.value]

/-- What is negated without a doubt has a value behind the negation as well. -/
theorem meaning_negation_ne_null (valued : inner.meaning columns ≠ .null) :
    (negation false inner).meaning columns ≠ .null := by
  rw [meaning_negation]
  exact mt negated_eq_null.mp valued

/-- A conjunction of two sides with values has a truth. -/
theorem meaning_and_ne_null (leftValued : left.meaning columns ≠ .null)
    (rightValued : right.meaning columns ≠ .null) :
    (group (and left right)).meaning columns ≠ .null := by
  intro missing
  refine kleeneAnd_ne_none ?_ ?_ (ofTruth_eq_null.mp missing)
  · exact fun unknown => leftValued (truthOf_eq_none.mp unknown)
  · exact fun unknown => rightValued (truthOf_eq_none.mp unknown)

/-- A disjunction of two sides with values has a truth. -/
theorem meaning_or_ne_null (leftValued : left.meaning columns ≠ .null)
    (rightValued : right.meaning columns ≠ .null) :
    (group (or left right)).meaning columns ≠ .null := by
  intro missing
  refine kleeneOr_ne_none ?_ ?_ (ofTruth_eq_null.mp missing)
  · exact fun unknown => leftValued (truthOf_eq_none.mp unknown)
  · exact fun unknown => rightValued (truthOf_eq_none.mp unknown)

/-- A comparison of two sides with values has a truth. Behind a negation on the left it is made on
    what is negated, which has a value too. -/
theorem meaning_compare_ne_null {relation : Relation} (leftValued : left.meaning columns ≠ .null)
    (rightValued : right.meaning columns ≠ .null) :
    (compare relation left right).meaning columns ≠ .null := by
  refine beneath_ne_null (fun subject valued => ?_) leftValued
  intro missing
  rcases related_eq_none.mp (ofTruth_eq_null.mp missing) with leftMissing | rightMissing
  · exact valued leftMissing
  · exact rightValued rightMissing

/-- A relation between two sides with values has a truth: that of its comparison, or that null is
    admitted. What the sides are as expressions decides only whether null is admitted. -/
theorem meaning_relation_ne_null {relation : Relation} {leftExpr rightExpr : Expr}
    (leftForm : ofExpr leftExpr = .ok left) (rightForm : ofExpr rightExpr = .ok right)
    (leftValued : left.meaning columns ≠ .null) (rightValued : right.meaning columns ≠ .null) :
    (binaryCondition (.relation relation) leftExpr rightExpr left right).meaning columns ≠
      .null := by
  have compared : (compare relation left right).meaning columns ≠ .null :=
    meaning_compare_ne_null leftValued rightValued
  obtain ⟨truth, decided⟩ := truth_of_compare relation left right
  rw [decided] at compared
  rw [meaning_relation leftForm rightForm decided]
  split
  · simp [ofTruth]
  · exact compared

/-- A null test always has a truth. -/
theorem meaning_nullTest_ne_null {relation : Relation} (valued : inner.meaning columns ≠ .null) :
    (nullTest relation inner).meaning columns ≠ .null := by
  rw [meaning, nullTest]
  split
  · exact beneath_ne_null (fun subject _ => by simp [Sql.value]) valued
  · exact beneath_ne_null (fun subject _ => by simp [Sql.value]) valued

/-- The month of a date is known. -/
theorem meaning_month_ne_null (valued : inner.meaning columns ≠ .null) :
    (month inner).meaning columns ≠ .null :=
  fun missing => valued (monthOf_eq_null.mp missing)

/-- Membership of a value in constants is known. A set that is written never has null in it. -/
theorem meaning_within_ne_null (members : SqlMembers) (valued : inner.meaning columns ≠ .null) :
    (group (within inner members)).meaning columns ≠ .null := by
  refine beneath_ne_null (fun subject subjectValued => ?_) valued
  exact fun missing => subjectValued (membershipTested_eq_null.mp missing)

/-- Whether a value has a pattern is known. -/
theorem meaning_like_ne_null (anchor : SqlAnchor) (content : String)
    (valued : inner.meaning columns ≠ .null) :
    (group (like inner anchor content)).meaning columns ≠ .null := by
  refine beneath_ne_null (fun subject subjectValued => ?_) valued
  exact fun missing => subjectValued (likeTested_eq_null.mp missing)

end Sql

namespace Expr

open Sql (meaning)

/-- Whether the columns that an expression reads without allowing for null have values, and so have
    its constants. A constant null is excluded even where it would only be tested for. -/
structure Valued (columns : String → Value) (expr : Expr) : Prop where
  columns : ∀ p m, member (.parameter p) m ∈ expr.parts → m.isSelf = false →
    m.type.isNullable = false → columns m.name ≠ .null
  constants : ∀ value type, constant value type ∈ expr.parts → value ≠ .null

variable {columns : String → Value}

/-- An expression takes its values over to its parts. It asks something only of what occurs, so
    fewer parts ask for less. -/
theorem Valued.of_subset {expr part : Expr} (valued : expr.Valued columns)
    (subset : part.parts ⊆ expr.parts) : part.Valued columns :=
  ⟨fun p m member => valued.columns p m (subset member),
    fun value type constant => valued.constants value type (subset constant)⟩

/-- The sides of a binary expression take its values over. -/
theorem Valued.sides {operator : Operator} {left right : Expr}
    (valued : (binary operator left right).Valued columns) :
    left.Valued columns ∧ right.Valued columns :=
  ⟨valued.of_subset
      (List.Subset.trans (List.subset_append_left _ _) (List.subset_cons_self _ _)),
    valued.of_subset
      (List.Subset.trans (List.subset_append_right _ _) (List.subset_cons_self _ _))⟩

/-- The arguments of a call take its values over. -/
theorem Valued.argument {method : Method} {arguments : List Expr} {argument : Expr}
    (valued : (call method arguments).Valued columns) (member : argument ∈ arguments) :
    argument.Valued columns :=
  valued.of_subset (List.Subset.trans (parts_subset_partsOfAll member) (List.subset_cons_self _ _))

/-- All arguments are certain when none of them may be unknown. -/
theorem mayBeUnknown_of_mem {arguments : List Expr} (certain : anyMayBeUnknown arguments = false)
    {argument : Expr} (member : argument ∈ arguments) : argument.mayBeUnknown = false := by
  induction arguments with
  | nil => cases member
  | cons first rest inductionHypothesis =>
    obtain ⟨firstCertain, restCertain⟩ := Bool.or_eq_false_iff.mp certain
    rcases List.mem_cons.mp member with rfl | inRest
    · exact firstCertain
    · exact inductionHypothesis restCertain inRest

/-- What cannot be unknown has a value in every row whose required columns have values.

    Proof: induction on the form. Where an expression cannot be unknown none of its parts can, so
    these have values, and each node has one of its own if its parts do. -/
theorem HasForm.meaning_ne_null {expr : Expr} {sql : Sql} (form : expr.HasForm sql)
    (valued : expr.Valued columns) (certain : expr.mayBeUnknown = false) :
    sql.meaning columns ≠ .null := by
  induction form with
  | @column p m named => exact valued.columns p m (self_mem_parts _) named certain
  | literal literal =>
    exact Sql.meaning_ofValue_ne_null literal (valued.constants _ _ (self_mem_parts _))
  | lift _ inductionHypothesis =>
    exact inductionHypothesis (valued.of_subset (List.subset_cons_self _ _)) certain
  | negation _ inductionHypothesis =>
    rw [mayBeUnknown] at certain
    rw [certain]
    have operandValued := valued.of_subset (List.subset_cons_self _ _)
    exact Sql.meaning_negation_ne_null (inductionHypothesis operandValued certain)
  | and _ _ leftHypothesis rightHypothesis =>
    obtain ⟨leftCertain, rightCertain⟩ := Bool.or_eq_false_iff.mp certain
    exact Sql.meaning_and_ne_null (leftHypothesis valued.sides.1 leftCertain)
      (rightHypothesis valued.sides.2 rightCertain)
  | or _ _ leftHypothesis rightHypothesis =>
    obtain ⟨leftCertain, rightCertain⟩ := Bool.or_eq_false_iff.mp certain
    exact Sql.meaning_or_ne_null (leftHypothesis valued.sides.1 leftCertain)
      (rightHypothesis valued.sides.2 rightCertain)
  | nullTest tested _ inductionHypothesis =>
    obtain ⟨leftCertain, rightCertain⟩ := Bool.or_eq_false_iff.mp certain
    refine Sql.meaning_nullTest_ne_null ?_
    rcases (sides_of_nullSide tested).2 with ⟨rfl, -⟩ | ⟨rfl, -⟩
    · exact inductionHypothesis valued.sides.1 leftCertain
    · exact inductionHypothesis valued.sides.2 rightCertain
  | relation _ leftForm rightForm leftHypothesis rightHypothesis =>
    obtain ⟨leftCertain, rightCertain⟩ := Bool.or_eq_false_iff.mp certain
    exact Sql.meaning_relation_ne_null (Sql.ofExpr_eq_ok.mpr leftForm)
      (Sql.ofExpr_eq_ok.mpr rightForm) (leftHypothesis valued.sides.1 leftCertain)
      (rightHypothesis valued.sides.2 rightCertain)
  | @month subject _ _ inductionHypothesis =>
    have member : subject ∈ [subject] := List.mem_singleton_self _
    exact Sql.meaning_month_ne_null
      (inductionHypothesis (valued.argument member) (mayBeUnknown_of_mem certain member))
  | nowhere _ _ => simp [meaning, Sql.asRead, Sql.value]
  | @within set item members _ _ _ _ inductionHypothesis =>
    have member : item ∈ [set, item] := by simp
    exact Sql.meaning_within_ne_null members
      (inductionHypothesis (valued.argument member) (mayBeUnknown_of_mem certain member))
  | @like _ subject content type _ _ _ inductionHypothesis =>
    have member : subject ∈ [subject, constant (.text content) type] := List.mem_cons_self
    exact Sql.meaning_like_ne_null _ content
      (inductionHypothesis (valued.argument member) (mayBeUnknown_of_mem certain member))

end Expr

end RecordQuery
