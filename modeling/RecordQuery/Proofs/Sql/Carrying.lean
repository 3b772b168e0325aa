import RecordQuery.Proofs.Expr.Evaluation
import RecordQuery.Proofs.Sql.Reading

/-!
# What conditions carry over from evaluation

In a row of a record, the SQL form of an expression ought to have the value that the expression
has in memory, or to be unknown where that is false. Values without truth, such as texts, numbers
and null, take part in no connective and are always carried over as they are. Text tests and
membership tests have only such values for operands, so their forms always stand for them.
-/

namespace RecordQuery

namespace Sql

/-- Whether a value in a row stands for a value in memory: it is the same, or it is unknown and
    the other is false. -/
def Stands (written evaluated : Value) : Prop :=
  written = evaluated ∨ (written = .null ∧ evaluated = .bool false)

/-- A value that is not null stands for itself only. -/
theorem Stands.eq_of_ne_null {written evaluated : Value} (stands : Stands written evaluated)
    (valued : written ≠ .null) : written = evaluated := by
  rcases stands with same | ⟨missing, -⟩
  · exact same
  · exact absurd missing valued

/-- A value that stands for another is true when the other is. -/
theorem Stands.true_iff {written evaluated : Value} (stands : Stands written evaluated) :
    written = .bool true ↔ evaluated = .bool true := by
  rcases stands with rfl | ⟨rfl, rfl⟩
  · rfl
  · simp

/-- A truth stands for a truth value exactly when both are true or neither is. -/
theorem stands_ofTruth {truth : Option Bool} {holds : Bool} :
    Stands (ofTruth truth) (.bool holds) ↔ (truth = some true ↔ holds = true) := by
  rcases truth with _ | _ | _ <;> cases holds <;> simp [Stands, ofTruth]

/-- The members of a set as the value of a constant. -/
def constantOf : SqlMembers → Value
  | .ints values => .ints values
  | .texts values => .texts values

/-- The members of a set are those of the constant that it is written from. Sets are written from
    constants only, so evaluation finds the very same members. -/
theorem valueIn_set {scope : Scope} {set : Expr} {members : SqlMembers}
    (read : membersOf set = .ok members) {value : Value}
    (evaluated : set.valueIn scope = .ok value) : value = constantOf members := by
  unfold membersOf at read
  split at read
  · cases read
    exact (Except.ok.inj ((Expr.valueIn_constant _ _).symm.trans evaluated)).symm
  · cases read
    exact (Except.ok.inj ((Expr.valueIn_constant _ _).symm.trans evaluated)).symm
  · cases read

/-- Nothing is in the empty set. -/
theorem inSet_empty {members : SqlMembers} (empty : members.isEmpty = true) {item : Value}
    {holds : Bool} (belongs : Value.inSet? (constantOf members) item = some holds) :
    holds = false := by
  cases members <;> simp only [SqlMembers.isEmpty, List.isEmpty_iff] at empty <;> subst empty <;>
    cases item <;> simp_all [constantOf, Value.inSet?, Value.memberOf]

/-- No truth value is or is not in a set. -/
theorem noTruth_of_inSet {members : SqlMembers} {item : Value} {holds : Bool}
    (belongs : Value.inSet? (constantOf members) item = some holds) (truth : Bool) :
    item ≠ .bool truth := by
  rintro rfl
  cases members <;> simp [constantOf, Value.inSet?] at belongs

/-- A membership test stands for the membership of its item. A missing item is unknown in a database
    and no member in memory. -/
theorem stands_membership {members : SqlMembers} {item : Value} {holds : Bool}
    (belongs : Value.inSet? (constantOf members) item = some holds) :
    Stands (membershipTested members item) (.bool holds) := by
  cases members <;> cases item <;>
    simp only [constantOf, Value.inSet?, Option.some.injEq, reduceCtorEq] at belongs <;>
    subst belongs
  all_goals first | exact .inl rfl | exact .inr ⟨rfl, rfl⟩

end Sql

namespace Expr

open Sql (Stands)

/-- A row of columns holds what a scope reads, and no constant has a fraction of a second,
    which literals leave out. -/
structure RowOf (columns : String → Value) (scope : Scope) (expr : Expr) : Prop where
  reads : ∀ p m value, member (.parameter p) m ∈ expr.parts → m.isSelf = false →
    (member (.parameter p) m).valueIn scope = .ok value → columns m.name = value
  whole : ∀ value type, constant value type ∈ expr.parts → value.IsWhole

/-- A row for an expression is one for each of its parts. -/
theorem RowOf.of_subset {columns : String → Value} {scope : Scope} {expr part : Expr}
    (row : expr.RowOf columns scope) (subset : part.parts ⊆ expr.parts) :
    part.RowOf columns scope :=
  ⟨fun p m value member => row.reads p m value (subset member),
    fun value type constant => row.whole value type (subset constant)⟩

variable {columns : String → Value} {scope : Scope} {sql : Sql}

/-- Lifts change nothing about the value in memory. -/
theorem valueIn_unlifted (expr : Expr) : expr.unlifted.valueIn scope = expr.valueIn scope := by
  induction expr with
  | lift operand inductionHypothesis => rw [unlifted, inductionHypothesis, valueIn_lift]
  | _ => rfl

/-- The literal of a whole constant denotes it. Only dates with a fraction of a second are written
    as something else. -/
theorem meaning_ofValue {value : Value} (whole : value.IsWhole)
    (literal : Sql.ofValue value = .ok sql) : sql.meaning columns = value := by
  unfold Sql.ofValue at literal
  split at literal <;> try split at literal
  all_goals cases literal
  all_goals try rfl
  rename_i d
  exact congrArg Value.date (DateTime.wholeSeconds_eq whole)

/-- The form of a member means what the member reads. -/
theorem meaning_member {target : Expr} {m : Member} (row : (member target m).RowOf columns scope)
    (translated : Sql.ofExpr (member target m) = .ok sql) {value : Value}
    (evaluated : (member target m).valueIn scope = .ok value) : sql.meaning columns = value := by
  obtain ⟨p, rfl, property, rfl⟩ := Sql.ofExpr_member.mp translated
  exact row.reads p m value (self_mem_parts _) property evaluated

/-- The form of a constant means the constant. The row has to say that its dates are whole. -/
theorem meaning_constant {given : Value} {type : DataType}
    (row : (constant given type).RowOf columns scope)
    (translated : Sql.ofExpr (constant given type) = .ok sql) {value : Value}
    (evaluated : (constant given type).valueIn scope = .ok value) :
    sql.meaning columns = value := by
  rw [valueIn_constant] at evaluated
  obtain rfl := Except.ok.inj evaluated
  rw [Sql.ofExpr_constant] at translated
  exact meaning_ofValue (row.whole _ type (self_mem_parts _)) translated

/-- A value without truth is carried over as it is, whatever stands around it: no comparison or
    connective has taken part in it.

    Proof: induction on the expression. Columns, constants, lifts and months are all that is left,
    since every other node has a truth value or fails. -/
theorem meaning_eq_of_no_truth {expr : Expr} (row : expr.RowOf columns scope)
    (translated : Sql.ofExpr expr = .ok sql) {value : Value}
    (evaluated : expr.valueIn scope = .ok value) (noTruth : ∀ holds, value ≠ .bool holds) :
    sql.meaning columns = value := by
  induction expr generalizing sql value with
  | parameter p => simp [Sql.ofExpr] at translated
  | member target m => exact meaning_member row translated evaluated
  | constant given type => exact meaning_constant row translated evaluated
  | not operand =>
    obtain ⟨holds, -, rfl⟩ := valueIn_not.mp evaluated
    exact absurd rfl (noTruth _)
  | lift operand inductionHypothesis =>
    rw [Sql.ofExpr_lift] at translated
    rw [valueIn_lift] at evaluated
    exact inductionHypothesis (row.of_subset (List.subset_cons_self _ _)) translated evaluated
      noTruth
  | binary operator left right =>
    exact absurd (truth_of_binary evaluated) (not_exists.mpr noTruth)
  | call method arguments inductionHypothesis =>
    by_cases isMonth : method = .month
    · subst isMonth
      obtain ⟨counted, values, given, called⟩ := valueIn_call.mp evaluated
      obtain ⟨subject, inner, rfl, subjectForm, rfl⟩ := Sql.ofExpr_month.mp translated
      obtain ⟨date, dateGiven, rfl⟩ :
          ∃ date, subject.valueIn scope = .ok date ∧ values = [date] := by
        rcases given with _ | ⟨dateGiven, _ | _⟩
        exact ⟨_, dateGiven, rfl⟩
      have within : subject.parts ⊆ (call .month [subject]).parts :=
        List.Subset.trans (parts_subset_partsOfAll (List.mem_singleton_self _))
          (List.subset_cons_self _ _)
      have carried (dateNoTruth : ∀ holds, date ≠ .bool holds) : inner.meaning columns = date :=
        inductionHypothesis subject (by simp) (row.of_subset within) subjectForm dateGiven
          dateNoTruth
      have extracted : (Sql.month inner).meaning columns = Sql.monthOf (inner.meaning columns) :=
        rfl
      rcases Value.callMethod_month.mp called with ⟨d, rfl, rfl⟩ | ⟨rfl, rfl⟩
      · rw [extracted, carried (by simp)]
        rfl
      · rw [extracted, carried (by simp)]
        rfl
    · exact absurd (truth_of_call isMonth evaluated) (not_exists.mpr noTruth)

/-- What opens with a negation sign has a truth value. -/
theorem truth_of_isNegation {expr : Expr} (opens : expr.isNegation = true) {value : Value}
    (evaluated : expr.valueIn scope = .ok value) : ∃ holds, value = .bool holds := by
  obtain ⟨operand, negation⟩ := unlifted_of_isNegation opens
  rw [← valueIn_unlifted, negation] at evaluated
  obtain ⟨holds, -, rfl⟩ := valueIn_not.mp evaluated
  exact ⟨_, rfl⟩

/-- A value without truth is carried over by an item. So a test behind such a value is read as a
    test of it. -/
theorem item_of_no_truth {expr : Expr} (row : expr.RowOf columns scope)
    (translated : Sql.ofExpr expr = .ok sql) {value : Value}
    (evaluated : expr.valueIn scope = .ok value) (noTruth : ∀ holds, value ≠ .bool holds) :
    sql.isItem = true ∧ sql.meaning columns = value := by
  refine ⟨Sql.isItem_of_ofExpr translated ?_,
    meaning_eq_of_no_truth row translated evaluated noTruth⟩
  cases opens : expr.isNegation with
  | false => rfl
  | true =>
    obtain ⟨holds, truth⟩ := truth_of_isNegation opens evaluated
    exact absurd truth (noTruth holds)

/-- The month of a date stands for the one in memory. The month of a missing date is null on both
    sides. -/
theorem stands_month {arguments : List Expr} (row : (call .month arguments).RowOf columns scope)
    (translated : Sql.ofExpr (call .month arguments) = .ok sql) {value : Value}
    (evaluated : (call .month arguments).valueIn scope = .ok value) :
    Stands (sql.meaning columns) value := by
  refine .inl (meaning_eq_of_no_truth row translated evaluated fun holds => ?_)
  obtain ⟨subject, inner, rfl, -, -⟩ := Sql.ofExpr_month.mp translated
  obtain ⟨-, values, given, called⟩ := valueIn_call.mp evaluated
  rcases given with _ | ⟨-, _ | _⟩
  rcases Value.callMethod_month.mp called with ⟨d, -, rfl⟩ | ⟨-, rfl⟩ <;> simp

/-- A pattern test stands for the text test that it is written for. Its subject is a text or null,
    so it is carried over as it is, and the pattern accepts what the test finds. -/
theorem stands_textTest {method : Method} (isTest : method.isTextTest = true)
    {arguments : List Expr} (row : (call method arguments).RowOf columns scope)
    (translated : Sql.ofExpr (call method arguments) = .ok sql) {value : Value}
    (evaluated : (call method arguments).valueIn scope = .ok value) :
    Stands (sql.meaning columns) value := by
  obtain ⟨subject, content, type, inner, rfl, subjectForm, rfl⟩ :=
    (Sql.ofExpr_textTest isTest).mp translated
  obtain ⟨-, values, given, called⟩ := valueIn_call.mp evaluated
  rcases given with _ | ⟨subjectGiven, _ | ⟨patternGiven, _ | _⟩⟩
  rw [valueIn_constant] at patternGiven
  obtain rfl := Except.ok.inj patternGiven
  have within : subject.parts ⊆ (call method [subject, constant (.text content) type]).parts :=
    List.Subset.trans (parts_subset_partsOfAll (List.mem_cons_self ..)) (List.subset_cons_self _ _)
  have tested (item : inner.isItem = true) :
      (Sql.group (.like inner (Sql.anchorOf method) content)).meaning columns =
        Sql.likeTested (Sql.pattern (Sql.anchorOf method) content) (inner.meaning columns) := by
    rw [Sql.meaning, Sql.asRead, Sql.asRead, Sql.beneath_item _ item]
    rfl
  rcases (Value.callMethod_textTest isTest).mp called with
    ⟨text, part, rfl, same, rfl⟩ | ⟨missing, rfl⟩
  · obtain rfl := Value.text.inj same
    obtain ⟨item, carried⟩ := item_of_no_truth (row.of_subset within) subjectForm subjectGiven
      (by simp)
    rw [tested item, carried, Sql.likeTested_pattern isTest]
    exact .inl rfl
  · rcases missing with rfl | absurd
    · obtain ⟨item, carried⟩ := item_of_no_truth (row.of_subset within) subjectForm subjectGiven
        (by simp)
      rw [tested item, carried]
      exact .inr ⟨rfl, rfl⟩
    · cases absurd

/-- A membership test stands for the membership that it is written for. The empty set is a case of
    its own, since it is written without the item. -/
theorem stands_inSet {arguments : List Expr} (row : (call .inSet arguments).RowOf columns scope)
    (translated : Sql.ofExpr (call .inSet arguments) = .ok sql) {value : Value}
    (evaluated : (call .inSet arguments).valueIn scope = .ok value) :
    Stands (sql.meaning columns) value := by
  obtain ⟨set, item, members, rfl, read, form⟩ := Sql.ofExpr_inSet.mp translated
  obtain ⟨-, values, given, called⟩ := valueIn_call.mp evaluated
  rcases given with _ | ⟨setGiven, _ | ⟨itemGiven, _ | _⟩⟩
  obtain ⟨holds, belongs, rfl⟩ := Value.callMethod_inSet.mp called
  rw [Sql.valueIn_set read setGiven] at belongs
  split at form <;> rename_i empty
  · -- Nothing is in the empty set, whatever the item is.
    subst form
    obtain rfl := Sql.inSet_empty empty belongs
    exact .inl rfl
  · obtain ⟨inner, itemForm, rfl⟩ := form
    have within : item.parts ⊆ (call .inSet [set, item]).parts :=
      List.Subset.trans (parts_subset_partsOfAll (by simp)) (List.subset_cons_self _ _)
    obtain ⟨isItem, carried⟩ := item_of_no_truth (row.of_subset within) itemForm itemGiven
      (Sql.noTruth_of_inSet belongs)
    have tested : (Sql.group (.within inner members)).meaning columns =
        Sql.membershipTested members (inner.meaning columns) := by
      rw [Sql.meaning, Sql.asRead, Sql.asRead, Sql.beneath_item _ isItem]
      rfl
    rw [tested, carried]
    exact Sql.stands_membership belongs

end Expr

end RecordQuery
