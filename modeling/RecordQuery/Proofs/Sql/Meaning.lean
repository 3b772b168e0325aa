import RecordQuery.Proofs.Sql.Pattern

/-!
# What SQL conditions mean

A database evaluates a condition on the columns of a row with three truth values: the value
null stands for unknown. Comparisons, pattern tests and membership tests of null are unknown,
the connectives follow Kleene, and only null tests and coalescing always know. Between values
that are not null, comparisons are those made in memory, and a literal denotes the constant
that it was written from, a date without its fraction of a second.

A condition is written as text, in which a negation sign binds less tightly than the sign of a
comparison or of a test. A test written behind a negation is therefore read beneath it.
-/

namespace RecordQuery

/-- The date without the fraction of its second; a leap second stays one. It is what SQL literals
    keep of a date. -/
def DateTime.wholeSeconds (date : DateTime) : DateTime :=
  { date with
    nanosecond := date.nanosecond / 1000000000 * 1000000000
    proper := by
      obtain ⟨inYears, inYear, inMonth, inDay, inHour, inMinute, inSecond⟩ := date.proper
      exact ⟨inYears, inYear, inMonth, inDay, inHour, inMinute,
        Nat.lt_of_le_of_lt (Nat.div_mul_le_self _ _) inSecond⟩ }

/-- Whether a value is no date with a fraction of a second. -/
def Value.IsWhole : Value → Prop
  | .date d => d.nanosecond % 1000000000 = 0
  | _ => True

/-- A date without a fraction is written in full. -/
theorem DateTime.wholeSeconds_eq {date : DateTime} (whole : date.nanosecond % 1000000000 = 0) :
    date.wholeSeconds = date := by
  have kept : date.nanosecond / 1000000000 * 1000000000 = date.nanosecond := by omega
  unfold wholeSeconds
  cases date
  simpa using kept

namespace Sql

/-- The truth of a value: null is unknown, and what is no truth value is never true. -/
def truthOf : Value → Option Bool
  | .null => none
  | .bool holds => some holds
  | _ => some false

/-- The value of a truth, null for unknown. -/
def ofTruth : Option Bool → Value
  | none => .null
  | some holds => .bool holds

/-- A conjunction is false as soon as one side is, and otherwise as unknown as its sides. -/
def kleeneAnd : Option Bool → Option Bool → Option Bool
  | some false, _ | _, some false => some false
  | some true, some true => some true
  | _, _ => none

/-- A disjunction is true as soon as one side is, and otherwise as unknown as its sides. -/
def kleeneOr : Option Bool → Option Bool → Option Bool
  | some true, _ | _, some true => some true
  | some false, some false => some false
  | _, _ => none

/-- The opposite of a truth; that of unknown is unknown. -/
def negated (operand : Value) : Value :=
  ofTruth ((truthOf operand).map (!·))

/-- Whether two values stand in a relation, unknown as soon as one of them is null. -/
def related (relation : Relation) (left right : Value) : Option Bool :=
  if left.isNull || right.isNull then none else some (relation.holds left right)

/-- A pattern test, unknown for null. Only texts have the form of a pattern. -/
def likeTested (chars : List Char) : Value → Value
  | .null => .null
  | .text content => .bool (accepts chars content.toList)
  | _ => .bool false

/-- A membership test, unknown for null. -/
def membershipTested (members : SqlMembers) (item : Value) : Value :=
  match item, members with
  | .null, _ => .null
  | .number given, .ints values => .bool (Value.memberOf given values)
  | .text content, .texts values => .bool (values.contains content)
  | _, _ => .bool false

/-- The month extracted from a date; null has none. -/
def monthOf : Value → Value
  | .date d => .number (Value.monthNumber d)
  | other => other

/-- The value of an expression in a row, as its tree stands. Truth values are three-valued, with
    null for unknown. -/
def value (columns : String → Value) : Sql → Value
  | column name => columns name
  | null => .null
  | truth holds => .bool holds
  | text content => .text content
  | number given => .number given
  | date d => .date d.wholeSeconds
  | group inner => inner.value columns
  | compare relation left right =>
      ofTruth (related relation (left.value columns) (right.value columns))
  | and left right => ofTruth (kleeneAnd (truthOf (left.value columns))
      (truthOf (right.value columns)))
  | or left right => ofTruth (kleeneOr (truthOf (left.value columns))
      (truthOf (right.value columns)))
  | not operand => negated (operand.value columns)
  | isNull operand => .bool (operand.value columns).isNull
  | isNotNull operand => .bool !(operand.value columns).isNull
  | orFalse operand => .bool ((truthOf (operand.value columns)).getD false)
  | month operand => monthOf (operand.value columns)
  | like subject anchor content => likeTested (pattern anchor content) (subject.value columns)
  | within item members => membershipTested members (item.value columns)

/-- A test written behind an expression, read beneath the negations that open it. -/
def beneath (test : Sql → Sql) : Sql → Sql
  | not operand => not (beneath test operand)
  | other => test other

/-- The tree that the text of an expression is read as, for expressions in which every compound
    operand of a test stands in parentheses or behind a negation sign. A test binds more tightly
    than a negation sign, so behind one it is read beneath it. -/
def asRead : Sql → Sql
  | group inner => group inner.asRead
  | compare relation left right =>
      beneath (fun subject => compare relation subject right.asRead) left.asRead
  | and left right => and left.asRead right.asRead
  | or left right => or left.asRead right.asRead
  | not operand => not operand.asRead
  | isNull operand => beneath isNull operand.asRead
  | isNotNull operand => beneath isNotNull operand.asRead
  | orFalse operand => orFalse operand.asRead
  | month operand => month operand.asRead
  | like subject anchor content => beneath (like · anchor content) subject.asRead
  | within item members => beneath (within · members) item.asRead
  | leaf => leaf

/-- The value of the text of an expression in a row. -/
def meaning (columns : String → Value) (sql : Sql) : Value :=
  sql.asRead.value columns

variable {columns : String → Value}

/-- Only the truth value true is true. -/
theorem truthOf_eq_true {value : Value} : truthOf value = some true ↔ value = .bool true := by
  cases value <;> simp [truthOf]

/-- Only null is unknown. -/
theorem truthOf_eq_none {value : Value} : truthOf value = none ↔ value = .null := by
  cases value <;> simp [truthOf]

/-- The value of a truth has that truth. -/
@[simp]
theorem truthOf_ofTruth (truth : Option Bool) : truthOf (ofTruth truth) = truth := by
  cases truth <;> rfl

/-- The value of a truth is null when the truth is unknown. -/
theorem ofTruth_eq_null {truth : Option Bool} : ofTruth truth = .null ↔ truth = none := by
  cases truth <;> simp [ofTruth]

/-- Both sides of a true conjunction are true. -/
theorem kleeneAnd_eq_true {left right : Option Bool} :
    kleeneAnd left right = some true ↔ left = some true ∧ right = some true := by
  rcases left with _ | _ | _ <;> rcases right with _ | _ | _ <;> simp [kleeneAnd]

/-- One side of a true disjunction is true. -/
theorem kleeneOr_eq_true {left right : Option Bool} :
    kleeneOr left right = some true ↔ left = some true ∨ right = some true := by
  rcases left with _ | _ | _ <;> rcases right with _ | _ | _ <;> simp [kleeneOr]

/-- A conjunction of known truths is known. -/
theorem kleeneAnd_ne_none {left right : Option Bool} (leftKnown : left ≠ none)
    (rightKnown : right ≠ none) : kleeneAnd left right ≠ none := by
  rcases left with _ | _ | _ <;> rcases right with _ | _ | _ <;> simp_all [kleeneAnd]

/-- A disjunction of known truths is known. -/
theorem kleeneOr_ne_none {left right : Option Bool} (leftKnown : left ≠ none)
    (rightKnown : right ≠ none) : kleeneOr left right ≠ none := by
  rcases left with _ | _ | _ <;> rcases right with _ | _ | _ <;> simp_all [kleeneOr]

/-- The negation of null is unknown, and no other is. -/
theorem negated_eq_null {operand : Value} : negated operand = .null ↔ operand = .null := by
  cases operand <;> simp [negated, truthOf, ofTruth]

/-- The negation of a truth is the opposite truth. -/
theorem negated_ofTruth (truth : Option Bool) :
    negated (ofTruth truth) = ofTruth (truth.map (!·)) := by
  rw [negated, truthOf_ofTruth]

/-- A pattern test is unknown for null only. -/
theorem likeTested_eq_null {chars : List Char} {subject : Value} :
    likeTested chars subject = .null ↔ subject = .null := by
  cases subject <;> simp [likeTested]

/-- A membership test is unknown for null only. -/
theorem membershipTested_eq_null {members : SqlMembers} {item : Value} :
    membershipTested members item = .null ↔ item = .null := by
  cases item <;> cases members <;> simp [membershipTested]

/-- Only null has no month. -/
theorem monthOf_eq_null {operand : Value} : monthOf operand = .null ↔ operand = .null := by
  cases operand <;> simp [monthOf]

/-- A relation is unknown exactly when one of its sides is null. -/
theorem related_eq_none {relation : Relation} {left right : Value} :
    related relation left right = none ↔ left = .null ∨ right = .null := by
  cases left <;> cases right <;> simp [related, Value.isNull]

/-- Between values that are not null, a relation is the one in memory. -/
theorem related_of_valued {relation : Relation} {left right : Value} (leftValued : left ≠ .null)
    (rightValued : right ≠ .null) :
    related relation left right = some (relation.holds left right) := by
  cases left <;> cases right <;> first | rfl | contradiction

/-- The pattern of a text test is accepted by the texts for which the test holds in memory. -/
theorem likeTested_pattern {method : Method} (isTest : method.isTextTest = true)
    (subject content : String) :
    likeTested (pattern (anchorOf method) content) (.text subject) =
      .bool (Value.textTest method subject content) := by
  rw [likeTested, accepts_pattern_iff isTest]

end Sql

end RecordQuery
