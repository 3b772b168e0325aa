import RecordQuery.Proofs.Record.Columns
import RecordQuery.Proofs.Sql.Faithful

/-!
# Conditions on records

An accepted predicate of one parameter becomes a condition on the columns of its record type. In
the row of a conforming record the condition is true exactly when the predicate holds, provided
the body is faithful in that row; and where only the outermost operator fails to be faithful, the
condition and the predicate do differ.
-/

namespace RecordQuery

namespace Expr

/-- Whether an expression reads columns of a record type only, and holds no constant with a
    fraction of a second. -/
structure OverColumns (type : RecordType) (expr : Expr) : Prop where
  reads : ∀ target m, member target m ∈ expr.parts → type.IsColumn m
  whole : ∀ value valueType, constant value valueType ∈ expr.parts → value.IsWhole

/-- A row that holds what the properties in an expression read from a record is one for the
    expression, wherever parameters stand for this record only. Records that conform have such a
    row, that of their columns. -/
theorem rowOf_of_reads {columns : String → Value} {expr : Expr} {record : Record}
    (reads : ∀ target m, member target m ∈ expr.parts → m.isSelf = false →
      m.read? record = some (columns m.name))
    (whole : ∀ value valueType, constant value valueType ∈ expr.parts → value.IsWhole)
    {scope : Scope}
    (bound : ∀ id operand, scope.find? id = some operand → operand = .record record) :
    expr.RowOf columns scope := by
  refine ⟨fun p m value inParts property evaluated => ?_, whole⟩
  cases found : scope.find? p.id with
  | none => simp [valueIn, eval, found, bind, Except.bind] at evaluated
  | some operand =>
    obtain rfl := bound p.id operand found
    have same := (valueIn_member found).mp evaluated
    exact Option.some.inj ((reads _ m inParts property).symm.trans same)

/-- What is read from a column of a conforming record is the value in its row. -/
theorem OverColumns.rowOf {type : RecordType} {expr : Expr} (covers : expr.OverColumns type)
    {record : Record} (conforms : type.Conforms record) {scope : Scope}
    (bound : ∀ id operand, scope.find? id = some operand → operand = .record record) :
    expr.RowOf (type.columns record) scope :=
  rowOf_of_reads (fun _ m inParts _ => type.read_column conforms.shapes (covers.reads _ m inParts))
    covers.whole bound

variable {columns : String → Value} {scope : Scope} {expr : Expr} {sql : Sql} {holds : Bool}

/-- The condition of a faithful expression is true exactly when the expression is. -/
theorem Faithful.true_iff (faithful : expr.Faithful columns scope)
    (row : expr.RowOf columns scope) (translated : Sql.ofExpr expr = .ok sql)
    (truth : expr.truthIn scope = .ok holds) :
    sql.meaning columns = .bool true ↔ holds = true := by
  rw [← Sql.truthOf_eq_true, ← sqlValue_of_ofExpr translated]
  exact (faithful.carried row translated).truth_iff truth

/-- What evaluation reaches has a value where the whole expression has one. An error in a part that
    evaluation reaches would be an error of the whole. -/
theorem evaluates_of_mem_reachedOperands {value : Value}
    (evaluated : expr.valueIn scope = .ok value)
    {operand : Expr} (reached : operand ∈ expr.reachedOperands scope) :
    ∃ given, operand.valueIn scope = .ok given := by
  have valued {holds : Bool} (truth : operand.truthIn scope = .ok holds) :
      ∃ given, operand.valueIn scope = .ok given := by
    obtain ⟨given, evaluated, -⟩ := truthIn_eq_ok.mp truth
    exact ⟨given, evaluated⟩
  cases expr with
  | not inner =>
    obtain rfl := List.mem_singleton.mp reached
    obtain ⟨holds, truth, -⟩ := valueIn_not.mp evaluated
    exact valued truth
  | lift inner =>
    obtain rfl := List.mem_singleton.mp reached
    rw [valueIn_lift] at evaluated
    exact ⟨value, evaluated⟩
  | binary operator left right =>
    cases operator with
    | and =>
      rcases valueIn_and.mp evaluated with ⟨fails, -⟩ | ⟨first, holds, second, -⟩
      · obtain rfl : operand = left := by simpa [reachedOperands, fails] using reached
        exact valued fails
      · obtain rfl | rfl : operand = left ∨ operand = right := by
          simpa [reachedOperands, first] using reached
        · exact valued first
        · exact valued second
    | or =>
      rcases valueIn_or.mp evaluated with ⟨first, -⟩ | ⟨fails, holds, second, -⟩
      · obtain rfl : operand = left := by simpa [reachedOperands, first] using reached
        exact valued first
      · obtain rfl | rfl : operand = left ∨ operand = right := by
          simpa [reachedOperands, fails] using reached
        · exact valued fails
        · exact valued second
    | relation relation =>
      obtain ⟨leftValue, rightValue, leftGiven, rightGiven, -⟩ := valueIn_relation.mp evaluated
      obtain rfl | rfl : operand = left ∨ operand = right := by
        simpa [reachedOperands] using reached
      · exact ⟨leftValue, leftGiven⟩
      · exact ⟨rightValue, rightGiven⟩
  | _ => cases reached

/-- Negations and binary expressions have a truth value if any. So they never have the value
    null. -/
theorem truth_of_composed (composed : (∃ operand, expr = not operand) ∨
    ∃ operator left right, expr = binary operator left right) {value : Value}
    (evaluated : expr.valueIn scope = .ok value) : ∃ holds, value = .bool holds := by
  rcases composed with ⟨operand, rfl⟩ | ⟨operator, left, right, rfl⟩
  · obtain ⟨holds, -, same⟩ := valueIn_not.mp evaluated
    exact ⟨_, same⟩
  · cases operator with
    | and =>
      rcases valueIn_and.mp evaluated with ⟨-, same⟩ | ⟨-, holds, -, same⟩
      · exact ⟨_, same⟩
      · exact ⟨_, same⟩
    | or =>
      rcases valueIn_or.mp evaluated with ⟨-, same⟩ | ⟨-, holds, -, same⟩
      · exact ⟨_, same⟩
      · exact ⟨_, same⟩
    | relation relation =>
      obtain ⟨_, _, -, -, -, same⟩ := valueIn_relation.mp evaluated
      exact ⟨_, same⟩

/-- Whether the form of an expression is true in a row exactly when the expression is. -/
def Agrees (columns : String → Value) (scope : Scope) (expr : Expr) : Prop :=
  expr.sqlValue columns = .bool true ↔ expr.truthIn scope = .ok true

/-- The truth of a value is true for the truth value true only. Null and false have the same
    truth. -/
theorem truthIn_iff_true {value : Value} (evaluated : expr.valueIn scope = .ok value) :
    expr.truthIn scope = .ok true ↔ value = .bool true := by
  rw [truthIn_eq_ok]
  constructor
  · rintro ⟨other, same, known⟩
    obtain rfl := Except.ok.inj (evaluated.symm.trans same)
    cases value <;> simp_all [Value.truth?]
  · rintro rfl
    exact ⟨_, evaluated, rfl⟩

/-- An expression that agrees keeps its outcome if the operands reached are carried over. What has
    no truth value agrees without more, and keeps its outcome trivially. -/
theorem Agrees.keepsOutcome (agrees : expr.Agrees columns scope) (row : expr.RowOf columns scope)
    (carried : ∀ operand ∈ expr.reachedOperands scope, operand.Carried columns scope)
    (translated : Sql.ofExpr expr = .ok sql) {value : Value}
    (evaluated : expr.valueIn scope = .ok value) : expr.KeepsOutcome columns scope := by
  have decides (composed : (∃ operand, expr = not operand) ∨
      ∃ operator left right, expr = binary operator left right) :
      expr.KeepsOutcome columns scope := by
    refine (stands_iff_keepsOutcome row carried translated evaluated).mp ?_
    obtain ⟨truth, decided⟩ : ∃ truth, sql.meaning columns = Sql.ofTruth truth :=
      Sql.truth_of_ofExpr translated composed
    obtain ⟨holds, rfl⟩ := truth_of_composed composed evaluated
    rw [Agrees, truthIn_iff_true evaluated, sqlValue_of_ofExpr translated, decided,
      ← Sql.truthOf_eq_true, Sql.truthOf_ofTruth] at agrees
    rw [decided]
    exact Sql.stands_ofTruth.mpr (agrees.trans (by simp))
  cases expr with
  | not operand => exact decides (.inl ⟨operand, rfl⟩)
  | binary operator left right => exact decides (.inr ⟨operator, left, right, rfl⟩)
  | _ => trivial

/-- An expression is faithful exactly when all parts agree that evaluation reaches.

    Proof: induction on the operands. Where they are faithful they are carried over, and then
    keeping the outcome and agreeing are the same for the expression on top of them. -/
theorem faithful_iff_agrees (row : expr.RowOf columns scope)
    (translated : Sql.ofExpr expr = .ok sql) {value : Value}
    (evaluated : expr.valueIn scope = .ok value) :
    expr.Faithful columns scope ↔ ∀ part ∈ expr.reached scope, part.Agrees columns scope := by
  induction expr using induct_operands generalizing sql value with
  | step expr inductionHypothesis =>
    have operands (operand : Expr) (reached : operand ∈ expr.reachedOperands scope) :
        ∃ form, Sql.ofExpr operand = .ok form ∧ operand.RowOf columns scope ∧
          (operand.Faithful columns scope ↔
            ∀ part ∈ operand.reached scope, part.Agrees columns scope) := by
      have member := reachedOperands_subset expr reached
      obtain ⟨form, operandForm⟩ := ofExpr_of_mem_operands translated member
      obtain ⟨given, operandGiven⟩ := evaluates_of_mem_reachedOperands evaluated reached
      exact ⟨form, operandForm, row.of_mem_operands member,
        inductionHypothesis operand member (row.of_mem_operands member) operandForm operandGiven⟩
    constructor
    · intro faithful part reached
      rcases (mem_reached expr).mp reached with rfl | ⟨operand, ofOperand, inOperand⟩
      · have stands := (faithful.carried row translated).stands value evaluated
        rw [Agrees, truthIn_iff_true evaluated, stands.true_iff]
      · obtain ⟨-, -, -, agree⟩ := operands operand ofOperand
        exact agree.mp ((faithful_iff.mp faithful).2 operand ofOperand) part inOperand
    · intro agrees
      have operandsFaithful (operand : Expr) (reached : operand ∈ expr.reachedOperands scope) :
          operand.Faithful columns scope := by
        obtain ⟨-, -, -, agree⟩ := operands operand reached
        refine agree.mpr fun part inOperand => agrees part ?_
        exact (mem_reached expr).mpr (.inr ⟨operand, reached, inOperand⟩)
      have carried (operand : Expr) (reached : operand ∈ expr.reachedOperands scope) :
          operand.Carried columns scope := by
        obtain ⟨form, operandForm, operandRow, -⟩ := operands operand reached
        exact (operandsFaithful operand reached).carried operandRow operandForm
      have whole := agrees expr ((mem_reached expr).mpr (.inl rfl))
      exact faithful_iff.mpr
        ⟨whole.keepsOutcome row carried translated evaluated, operandsFaithful⟩

end Expr

namespace Lambda

/-- What a lambda of one parameter binds to a record is the record. With more parameters than
    records, the others are not bound. -/
theorem find?_bind (parameters : List Parameter) {record : Record} (id : Nat) (operand : Operand)
    (found : (Lambda.bind parameters [.record record]).find? id = some operand) :
    operand = .record record := by
  cases parameters with
  | nil => simp [bind, Scope.find?] at found
  | cons p rest =>
    simp only [bind, List.map_cons, List.zip_cons_cons, List.zip_nil_right, Scope.find?] at found
    split at found <;> simp_all

/-- In the row of a conforming record, the condition of an accepted lambda is true exactly when the
    lambda holds of the record, provided the body is faithful there. It is faithful exactly when
    every part that evaluation reaches has a form that is true exactly when the part is.

    Proof: the row of a conforming record has in its columns what the body reads. By induction on
    the body a faithful expression is carried over, so its truth is that of its form, and each part
    that breaks this is one whose form differs. -/
theorem condition_agrees_of_faithful {type : RecordType} {lambda : Lambda} {sql : Sql}
    (accepted : lambda.toCondition = .ok sql) (covers : lambda.body.OverColumns type)
    {record : Record} (conforms : type.Conforms record) {holds : Bool}
    (tested : lambda.test [.record record] = .ok holds) :
    let row := type.columns record
    let scope := Lambda.bind lambda.parameters [.record record]
    (lambda.body.Faithful row scope → (sql.meaning row = .bool true ↔ holds = true)) ∧
    (lambda.body.Faithful row scope ↔
      ∀ part ∈ lambda.body.reached scope, part.Agrees row scope) := by
  intro row scope
  obtain ⟨unary, -, translated⟩ := toCondition_eq_ok.mp accepted
  have rowOf : lambda.body.RowOf row scope := covers.rowOf conforms (find?_bind _)
  have truth : lambda.body.truthIn scope = .ok holds := by
    simpa [test, call, unary, Expr.truthIn] using tested
  obtain ⟨value, evaluated, -⟩ := Expr.truthIn_eq_ok.mp truth
  exact ⟨fun faithful => faithful.true_iff rowOf translated truth,
    Expr.faithful_iff_agrees rowOf translated evaluated⟩

/-- A comparison with a column that has no value is unknown, but its negation counts it as false:
    the condition is true as the predicate is. The nullable column makes the negation count what is
    unknown as false. -/
theorem negated_comparison_agrees :
    let number : Property := ⟨"n", .number (.integer .i32)⟩
    let missing : Property := ⟨"m", .nullable (.number (.integer .i32))⟩
    let type : RecordType := ⟨"S", .ok [number, missing], none⟩
    let p : Parameter := ⟨0, "p", type.dataType⟩
    let lambda : Lambda := ⟨[p], .not (.binary (.relation .lt)
      (.member (.parameter p) (.ofProperty type 0 number))
      (.member (.parameter p) (.ofProperty type 1 missing)))⟩
    let record : Record := ⟨"S", [.number (.integer .i32 5 (by decide)), .null], none⟩
    ∃ sql, lambda.toCondition = .ok sql ∧ lambda.test [.record record] = .ok true ∧
      sql.meaning (type.columns record) = .bool true := by
  intro number missing type p lambda record
  have covers : lambda.body.OverColumns type := by
    constructor
    · intro target m inParts
      obtain ⟨-, rfl⟩ | ⟨-, rfl⟩ : (target = .parameter p ∧ m = .ofProperty type 0 number) ∨
          (target = .parameter p ∧ m = .ofProperty type 1 missing) := by
        simpa [lambda, Expr.parts] using inParts
      · exact ⟨0, number, by decide, rfl, rfl⟩
      · exact ⟨1, missing, by decide, rfl, rfl⟩
    · intro value valueType inParts
      simp [lambda, Expr.parts] at inParts
  have conforms : type.Conforms record := ⟨rfl, .cons (.inl rfl) (.cons (.inr ⟨rfl, rfl⟩) .nil)⟩
  have keeps : Expr.KeepsRelation (type.columns record) (Lambda.bind [p] [.record record]) .lt
      (.member (.parameter p) (.ofProperty type 0 number))
      (.member (.parameter p) (.ofProperty type 1 missing)) :=
    (Expr.keepsRelation_of_missing rfl (.inr rfl)).mpr (iff_of_false (by decide) (by decide))
  have faithful : lambda.body.Faithful (type.columns record)
      (Lambda.bind [p] [.record record]) := by
    intro part reached
    simp only [lambda, Expr.reached, List.mem_cons, List.mem_append, List.not_mem_nil, or_false]
      at reached
    rcases reached with rfl | rfl | rfl | rfl
    · exact .inl rfl
    · exact keeps
    · trivial
    · trivial
  exact ⟨_, rfl, rfl, ((condition_agrees_of_faithful rfl covers conforms rfl).1 faithful).mpr rfl⟩

/-- An ordering with the constant null is unknown, but no nullable column tells the negation so: its
    condition is unknown where the predicate holds. The constant null is what the test for nullable
    columns overlooks. -/
theorem condition_differs :
    ¬ ∀ (type : RecordType) (lambda : Lambda) (sql : Sql) (record : Record) (holds : Bool),
      lambda.toCondition = .ok sql → lambda.body.OverColumns type → type.Conforms record →
        lambda.test [.record record] = .ok holds →
          (sql.meaning (type.columns record) = .bool true ↔ holds = true) := by
  intro agrees
  let property : Property := ⟨"n", .number (.integer .i32)⟩
  let type : RecordType := ⟨"S", .ok [property], none⟩
  let p : Parameter := ⟨0, "p", type.dataType⟩
  let column : Expr := .member (.parameter p) (.ofProperty type 0 property)
  let below : Expr := .binary (.relation .lt) column (.constant .null (.nullable property.type))
  let record : Record := ⟨"S", [.number (.integer .i32 5 (by decide))], none⟩
  have covers : below.not.OverColumns type := by
    constructor
    · intro target m inParts
      obtain ⟨-, rfl⟩ : target = .parameter p ∧ m = .ofProperty type 0 property := by
        simpa [below, column, Expr.parts] using inParts
      exact ⟨0, property, by decide, rfl, rfl⟩
    · intro value valueType inParts
      obtain ⟨rfl, -⟩ : value = .null ∧ valueType = .nullable property.type := by
        simpa [below, column, Expr.parts] using inParts
      trivial
  have conforms : type.Conforms record := ⟨rfl, .cons (.inl rfl) .nil⟩
  have same := agrees type ⟨[p], below.not⟩ _ record true rfl covers conforms rfl
  exact absurd (same.mpr rfl) (by decide)

end Lambda

end RecordQuery
