import RecordQuery.Proofs.Compiled.Combination
import RecordQuery.Proofs.Sql.Conditions
import RecordQuery.Proofs.Sql.Unknown

/-!
# Filtering in a database

Compiled predicates compare members with constants that are not null, so the only unknown
comparisons in their conditions are those of columns without a value, and these hold in memory
exactly where the condition admits null. A negation without a nullable column in sight has an
operand that is never unknown. Compiled predicates are therefore faithful in the row of every
conforming record, and filtering by their conditions keeps the records that filtering in memory
keeps.
-/

namespace RecordQuery

namespace Expr

variable {reads : Member → Prop} {p : Parameter} {m : Member} {expr : Expr}

/-- A condition on a member reads this member only, and none of its constants is null. Constants may
    be of any kind otherwise. -/
theorem Leaf.parts (leaf : Leaf p m expr) :
    (∀ target other, member target other ∈ expr.parts → other = m) ∧
      ∀ value type, constant value type ∈ expr.parts → value ≠ .null := by
  cases leaf with
  | relation relation value valued compares =>
    constructor
    · intro target other inParts
      rcases mem_parts_relate inParts with inLeft | inRight | ⟨_, absurd⟩ | ⟨_, _, absurd⟩
      · simp [Expr.parts] at inLeft
        exact inLeft.2
      · simp [ofValue, Expr.parts] at inRight
      · cases absurd
      · cases absurd
    · intro other type inParts
      rcases mem_parts_relate inParts with inLeft | inRight | ⟨_, absurd⟩ | ⟨_, _, absurd⟩
      · simp [Expr.parts] at inLeft
      · simp [ofValue, Expr.parts] at inRight
        rw [inRight.1]
        exact valued
      · cases absurd
      · cases absurd
  | textTest method isTest content isText =>
    simp [Expr.parts, partsOfAll, ofValue]
  | inInts values isNumber => simp [Expr.parts, partsOfAll, ofValue]
  | inTexts values isText => simp [Expr.parts, partsOfAll, ofValue]
  | monthIn values isDate => simp [Expr.parts, partsOfAll, ofValue]

/-- A body of conditions on members reads such members only, and none of its constants is null. The
    induction follows the connectives. -/
theorem FilterBody.parts (body : FilterBody reads p expr) :
    (∀ target m, member target m ∈ expr.parts → reads m) ∧
      ∀ value type, Expr.constant value type ∈ expr.parts → value ≠ .null := by
  induction body with
  | leaf known shape =>
    obtain ⟨members, constants⟩ := shape.parts
    refine ⟨fun target other inParts => ?_, constants⟩
    rw [members target other inParts]
    exact known
  | constant holds => simp [ofValue, Expr.parts]
  | not _ inductionHypothesis => simpa [Expr.parts] using inductionHypothesis
  | and _ _ leftHypothesis rightHypothesis | or _ _ leftHypothesis rightHypothesis =>
    simp only [Expr.parts, List.mem_cons, List.mem_append, reduceCtorEq, false_or]
    refine ⟨fun target m inParts => ?_, fun value type inParts => ?_⟩
    · exact inParts.elim (leftHypothesis.1 target m) (rightHypothesis.1 target m)
    · exact inParts.elim (leftHypothesis.2 value type) (rightHypothesis.2 value type)

variable {columns : String → Value} {scope : Scope} {sql : Sql}

/-- A lift leaves no trace in the form of its operand. -/
theorem ofExpr_of_lifted {lifted side : Expr} (same : lifted = side ∨ lifted = lift side) :
    Sql.ofExpr lifted = Sql.ofExpr side := by
  rcases same with rfl | rfl
  · rfl
  · exact Sql.ofExpr_lift side

/-- A relation of a member with a constant keeps its outcome: where the member is null, only an
    inequality holds, and the condition admits null. Other relations are false in memory and unknown
    in the database there, which comes to the same. -/
theorem keepsRelation_of_constant {relation : Relation} {left right : Expr} {value : Value}
    {type : DataType}
    (leftSame : left = member (.parameter p) m ∨ left = lift (member (.parameter p) m))
    (rightSame : right = Expr.constant value type ∨ right = lift (Expr.constant value type))
    (valued : value ≠ .null)
    (given : (member (.parameter p) m).valueIn scope = .ok (columns m.name))
    (admits : m.type.Admits (columns m.name))
    (translated : Sql.ofExpr (binary (.relation relation) left right) = .ok sql) :
    KeepsRelation columns scope relation left right := by
  have leftConstant : left.isNullConstant = false := by rcases leftSame with rfl | rfl <;> rfl
  have rightConstant : right.isNullConstant = false := by
    rcases rightSame with rfl | rfl <;> cases value <;> first | rfl | contradiction
  have untested : nullSide? relation left right = none := by
    simp [nullSide?, leftConstant, rightConstant]
  have plain : left.isNegation = false := by rcases leftSame with rfl | rfl <;> rfl
  have nullable : left.isNullableColumn = m.type.isNullable := by
    rcases leftSame with rfl | rfl <;> rfl
  obtain ⟨leftSql, rightSql, leftForm, rightForm, -⟩ :=
    (Sql.ofExpr_relation untested).mp translated
  have leftRow : left.sqlValue columns = columns m.name := by
    obtain ⟨_, -, -, rfl⟩ := Sql.ofExpr_member.mp ((ofExpr_of_lifted leftSame).symm.trans leftForm)
    exact sqlValue_of_ofExpr leftForm
  have rightRow : right.sqlValue columns ≠ .null := by
    rw [sqlValue_of_ofExpr rightForm]
    rw [ofExpr_of_lifted rightSame, Sql.ofExpr_constant] at rightForm
    exact Sql.meaning_ofValue_ne_null rightForm valued
  by_cases missing : left.sqlValue columns = .null ∨ right.sqlValue columns = .null
  · rw [keepsRelation_of_missing untested missing]
    have unread : columns m.name = .null := by
      rw [← leftRow]
      exact missing.resolve_right rightRow
    have allowed : m.type.isNullable = true := by
      rcases admits with typed | ⟨-, allowed⟩
      · simp [unread, Value.type?] at typed
      · exact allowed
    have truth : (binary (.relation relation) left right).truthIn scope =
        .ok (relation.holds .null value) := by
      refine truthIn_eq_ok.mpr ⟨_, valueIn_relation.mpr ⟨.null, value, ?_, ?_, ?_, rfl⟩, rfl⟩
      · rw [valueIn_of_lifted leftSame, given, unread]
      · rw [valueIn_of_lifted rightSame, valueIn_constant]
      · exact Value.comparable_null value
    have admitted : admitsNull columns relation left right = (relation == .ne) := by
      rw [admitsNull, leftRow, nullable, allowed, unread]
      simp [Value.isNull]
    rw [truth, admitted]
    cases relation <;> cases value <;>
      first | contradiction | simp [Relation.holds, Value.equals, Value.isNull]
  · rw [keepsRelation_of_valued untested missing, plain]
    exact fun opens => (Bool.false_ne_true opens).elim

/-- A lift is faithful when its operand is. -/
theorem faithful_of_lifted {lifted side : Expr} (same : lifted = side ∨ lifted = lift side)
    (faithful : side.Faithful columns scope) : lifted.Faithful columns scope := by
  rcases same with rfl | rfl
  · exact faithful
  · exact faithful_iff.mpr ⟨trivial, by simpa [reachedOperands] using faithful⟩

/-- A condition on a member is faithful in a row that holds what the member reads. The record
    itself is in no row, and only its membership in the empty set has a form at all. -/
theorem Leaf.faithful (leaf : Leaf p m expr)
    (given : m.isSelf = false → (member (.parameter p) m).valueIn scope = .ok (columns m.name) ∧
      m.type.Admits (columns m.name))
    (translated : Sql.ofExpr expr = .ok sql) : expr.Faithful columns scope := by
  cases leaf with
  | relation relation value valued compares =>
    obtain ⟨left, right, leftSame, rightSame, related⟩ :=
      relate_eq relation (member (.parameter p) m) (ofValue value)
    rw [related] at translated ⊢
    obtain ⟨form, leftForm⟩ := ofExpr_of_mem_operands translated List.mem_cons_self
    obtain ⟨_, -, property, -⟩ :=
      Sql.ofExpr_member.mp ((ofExpr_of_lifted leftSame).symm.trans leftForm)
    obtain ⟨read, admits⟩ := given property
    refine faithful_iff.mpr
      ⟨keepsRelation_of_constant leftSame rightSame valued read admits translated, ?_⟩
    intro side reached
    rcases List.mem_cons.mp reached with rfl | second
    · exact faithful_of_lifted leftSame (faithful_of_reachedOperands rfl trivial)
    · obtain rfl := List.mem_singleton.mp second
      exact faithful_of_lifted rightSame (faithful_of_reachedOperands rfl trivial)
  | _ => exact faithful_of_reachedOperands rfl trivial

/-- A body of conditions on members is faithful in a row that holds what the members read, the
    record itself aside. A negation whose operand is not counted as false has one that is never
    unknown. -/
theorem FilterBody.faithful_of_properties (body : FilterBody reads p expr)
    (given : ∀ m, reads m → m.isSelf = false →
      (member (.parameter p) m).valueIn scope = .ok (columns m.name) ∧
        m.type.Admits (columns m.name))
    (translated : Sql.ofExpr expr = .ok sql) : expr.Faithful columns scope := by
  induction body generalizing sql with
  | leaf known shape => exact shape.faithful (given _ known) translated
  | constant holds => exact faithful_of_reachedOperands rfl trivial
  | @not operand operandBody inductionHypothesis =>
    obtain ⟨inner, operandForm, -⟩ := Sql.ofExpr_not.mp translated
    refine faithful_iff.mpr ⟨?_, by simpa [reachedOperands] using inductionHypothesis operandForm⟩
    cases certain : operand.mayBeUnknown with
    | true => exact .inl certain
    | false =>
      obtain ⟨members, constants⟩ := operandBody.parts
      have valued : operand.Valued columns :=
        ⟨fun q m inParts property required =>
          (given m (members _ m inParts) property).2.ne_null required, constants⟩
      refine .inr ?_
      rw [sqlValue_of_ofExpr operandForm]
      exact (Sql.ofExpr_eq_ok.mp operandForm).meaning_ne_null valued certain
  | @and left right _ _ leftHypothesis rightHypothesis =>
    obtain ⟨leftSql, rightSql, leftForm, rightForm, -⟩ := Sql.ofExpr_and.mp translated
    refine faithful_iff.mpr ⟨trivial, fun operand reached => ?_⟩
    rcases List.mem_cons.mp (reachedOperands_subset _ reached) with rfl | second
    · exact leftHypothesis leftForm
    · obtain rfl := List.mem_singleton.mp second
      exact rightHypothesis rightForm
  | @or left right _ _ leftHypothesis rightHypothesis =>
    obtain ⟨leftSql, rightSql, leftForm, rightForm, -⟩ := Sql.ofExpr_or.mp translated
    refine faithful_iff.mpr ⟨trivial, fun operand reached => ?_⟩
    rcases List.mem_cons.mp (reachedOperands_subset _ reached) with rfl | second
    · exact leftHypothesis leftForm
    · obtain rfl := List.mem_singleton.mp second
      exact rightHypothesis rightForm

/-- A body of conditions on members is faithful in a row that holds what all of them read. -/
theorem FilterBody.faithful (body : FilterBody reads p expr)
    (given : ∀ m, reads m → (member (.parameter p) m).valueIn scope = .ok (columns m.name) ∧
      m.type.Admits (columns m.name))
    (translated : Sql.ofExpr expr = .ok sql) : expr.Faithful columns scope :=
  body.faithful_of_properties (fun m known _ => given m known) translated

end Expr

namespace Predicate

/-- The condition of a predicate on readable members is true in the row of a record that conforms in
    full exactly when the record satisfies the predicate. It covers filters on the record itself
    too, as far as they have a condition, which is membership in the empty set. -/
theorem condition_true_iff_satisfied {type : RecordType} {predicate : Predicate}
    (body : Expr.FilterBody type.IsReadable predicate.parameter predicate.body)
    (whole : ∀ value valueType, .constant value valueType ∈ predicate.body.parts → value.IsWhole)
    {sql : Sql} (translated : predicate.toLambda.toCondition = .ok sql) {record : Record}
    (conforms : type.ConformsInFull record) :
    sql.meaning (type.columns record) = .bool true ↔ predicate.isSatisfiedBy record = true := by
  obtain ⟨-, -, form⟩ := Lambda.toCondition_eq_ok.mp translated
  have given (m : Member) (readable : type.IsReadable m) (property : m.isSelf = false) :
      m.read? record = some (type.columns record m.name) ∧
        m.type.Admits (type.columns record m.name) := by
    rcases readable with column | ⟨valueType, -, rfl⟩
    · exact ⟨type.read_column conforms.columns.shapes column,
        type.admits_column conforms.columns column⟩
    · cases property
  have row : predicate.body.RowOf (type.columns record)
      [(predicate.parameter.id, .record record)] :=
    Expr.rowOf_of_reads (fun target m inParts property =>
      (given m (body.parts.1 target m inParts) property).1) whole
      (Lambda.find?_bind [predicate.parameter])
  have truth : predicate.body.truthIn [(predicate.parameter.id, .record record)] =
      .ok (predicate.isSatisfiedBy record) := by
    rw [← evaluate_eq_truthIn]
    exact evaluate_of_body body conforms
  have faithful := body.faithful_of_properties (fun m readable property =>
    (given m readable property).imp_left Expr.valueIn_member_sole.mpr) form
  exact faithful.true_iff row form truth

/-- Filtering in a database by the condition of a compiled predicate keeps the conforming records
    that the predicate holds of, whatever filters on properties and constants it is built from and
    however they are joined and negated.

    Proof: a compiled condition reads one member and compares it with a constant that is not null,
    so none of its parts breaks the agreement of condition and evaluation. A body of such conditions
    is faithful, and then its condition is true exactly where it holds. -/
theorem condition_true_iff_evaluate {type : RecordType} {predicate : Predicate}
    (built : FromFilters type (fun filter => filter.property?.isSome = true) predicate)
    (whole : ∀ value valueType, .constant value valueType ∈ predicate.body.parts → value.IsWhole)
    {sql : Sql} (translated : predicate.toLambda.toCondition = .ok sql) {record : Record}
    (conforms : type.Conforms record) :
    sql.meaning (type.columns record) = .bool true ↔ predicate.evaluate record = .ok true := by
  obtain ⟨-, -, form⟩ := Lambda.toCondition_eq_ok.mp translated
  have body := built.body_of_named
  have bound : Scope.find? [(predicate.parameter.id, Operand.record record)]
      predicate.parameter.id = some (.record record) := by simp [Scope.find?]
  have given (m : Member) (column : type.IsColumn m) :
      (Expr.member (.parameter predicate.parameter) m).valueIn
          [(predicate.parameter.id, .record record)] = .ok (type.columns record m.name) ∧
        m.type.Admits (type.columns record m.name) := by
    have read := type.read_column conforms.shapes column
    exact ⟨(Expr.valueIn_member bound).mpr read, type.admits_column conforms column⟩
  have evaluated : predicate.evaluate record =
      predicate.body.truthIn [(predicate.parameter.id, .record record)] :=
    Lambda.test_unary rfl record
  obtain ⟨holds, value⟩ := body.evaluates fun m column => ⟨_, given m column⟩
  have truth : predicate.body.truthIn [(predicate.parameter.id, .record record)] = .ok holds :=
    Expr.truthIn_eq_ok.mpr ⟨_, value, rfl⟩
  have covers : predicate.body.OverColumns type :=
    ⟨body.parts.1, whole⟩
  have row : predicate.body.RowOf (type.columns record)
      [(predicate.parameter.id, .record record)] :=
    covers.rowOf conforms (Lambda.find?_bind [predicate.parameter])
  rw [evaluated, truth, (body.faithful given form).true_iff row form truth, Except.ok.injEq]

/-- A record without a number is not below three: the negated filter keeps it in a database as it
    does in memory. The comparison is unknown in the database and counts as false, so its negation
    holds. -/
theorem negated_filter_keeps_missing :
    let property : Property := ⟨"n", .nullable (.number (.integer .i32))⟩
    let type : RecordType := ⟨"S", .ok [property], none⟩
    let p := Projections.sharedParameter type 0
    let below : Predicate := ⟨p, .relate .lt (.member (.parameter p) (.ofProperty type 0 property))
      (.ofValue (.number (.integer .i32 3 (by decide))))⟩
    let record : Record := ⟨"S", [.null], none⟩
    ∃ sql, below.not.toLambda.toCondition = .ok sql ∧
      sql.meaning (type.columns record) = .bool true := by
  intro property type p below record
  have compiled : Compiled.ofFilter (Projections.ofType type 0)
      ⟨some "n", .lessThan, .number (.integer .i32 3 (by decide))⟩ = .ok (.ready below) := rfl
  have built : FromFilters type (fun filter => filter.property?.isSome = true) below.not :=
    .not (.filter (by decide) compiled)
  have whole (value : Value) (valueType : DataType)
      (inParts : Expr.constant value valueType ∈ below.not.body.parts) : value.IsWhole := by
    simp [below, property, Predicate.not, Expr.relate, Expr.unify, Expr.ofValue, Expr.type,
      Expr.parts, Member.ofProperty, DataType.base, DataType.isNullable, Value.type?, Number.kind]
      at inParts
    rw [inParts.1]
    trivial
  have conforms : type.Conforms record := ⟨rfl, .cons (.inr ⟨rfl, rfl⟩) .nil⟩
  exact ⟨_, rfl, (condition_true_iff_evaluate built whole rfl conforms).mpr rfl⟩

end Predicate

end RecordQuery
