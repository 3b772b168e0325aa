import RecordQuery.Proofs.Compiled.Evaluation
import RecordQuery.Proofs.Literal.Constants
import RecordQuery.Proofs.Predicate.Connectives

/-!
# Meaning of compiled filters

What a comparison with a constant asks of a value, without the expression that it is compiled
into. Only inequality and the negated text tests accept null. Of all else the relations ask an
outcome of the comparison with the constant, the text tests a place of the constant text, and the
sets an item. The constant is the one that the literal stands for, a text or a list as it is. A
compiled filter holds of a record exactly where its comparison accepts the value that its property
reads, whether or not the property admits null.
-/

namespace RecordQuery

namespace Value

/-- Two texts stand in a relation of their characters, the constant one first. -/
def TextsStand (related : List Char → List Char → Prop) (constant given : Value) : Prop :=
  ∃ part content, constant = .text part ∧ given = .text content ∧
    related part.toList content.toList

end Value

/-- The outcomes of a comparison that a relation accepts; a comparison without an outcome is
    accepted by inequality only. Undefined numbers are what has no outcome. -/
def Relation.Accepts : Relation → Option Ordering → Prop
  | eq, outcome => outcome = some .eq
  | ne, outcome => outcome ≠ some .eq
  | lt, outcome => outcome = some .lt
  | le, outcome => outcome = some .lt ∨ outcome = some .eq
  | gt, outcome => outcome = some .gt
  | ge, outcome => outcome = some .gt ∨ outcome = some .eq

/-- The values that a comparison with a constant accepts. Null is set apart first, as the program
    does: only the negated comparisons accept it. -/
def Comparison.Accepts (comparison : Comparison) (constant : Value) : Value → Prop
  | .null => comparison ∈ [notEquals, notContains, notStartsWith, notEndsWith]
  | given =>
      match comparison with
      | equals => Relation.eq.Accepts (given.compare? constant)
      | notEquals => Relation.ne.Accepts (given.compare? constant)
      | lessThan => Relation.lt.Accepts (given.compare? constant)
      | lessOrEqual => Relation.le.Accepts (given.compare? constant)
      | greaterThan => Relation.gt.Accepts (given.compare? constant)
      | greaterOrEqual => Relation.ge.Accepts (given.compare? constant)
      | contains => constant.TextsStand List.IsInfix given
      | notContains => ¬ constant.TextsStand List.IsInfix given
      | startsWith => constant.TextsStand List.IsPrefix given
      | notStartsWith => ¬ constant.TextsStand List.IsPrefix given
      | endsWith => constant.TextsStand List.IsSuffix given
      | notEndsWith => ¬ constant.TextsStand List.IsSuffix given
      | isIn => constant.IsItem given
      | monthIsIn => constant.IsInMonth given

/-- A projection reads a value of its base type from a record, or null. -/
def Projection.Reads (projection : Projection) (record : Record) (value : Value) : Prop :=
  projection.toLambda.callValue [.record record] = .ok value ∧
    (value.type? = some projection.type.base ∨ value = .null)

namespace Relation

variable {relation : Relation} {constant given : Value}

/-- Only inequality holds of null and a constant. -/
theorem holds_null (valued : constant ≠ .null) :
    relation.holds .null constant = true ↔ relation = .ne := by
  cases relation <;> cases constant <;>
    first | contradiction | simp [holds, Value.equals, Value.isNull]

/-- A relation holds of a value and a constant that is no sequence when it accepts the outcome of
    their comparison. Sequences are left out because equality with them is refused rather than
    compared. -/
theorem holds_iff_accepts (present : given ≠ .null)
    (plain : ∃ base, constant.type? = some base ∧ base.isInts = false ∧ base.isTexts = false) :
    relation.holds given constant = true ↔ relation.Accepts (given.compare? constant) := by
  have valued : constant ≠ .null := by
    rintro rfl
    simp [Value.type?] at plain
  have equality : given.equals constant = (given.compare? constant == some .eq) := by
    cases given <;> cases constant <;>
      first
      | contradiction
      | rfl
      | simp [Value.type?, DataType.isInts, DataType.isTexts, DataType.base] at plain
  have ordered : given.isNull = false ∧ constant.isNull = false := by
    cases given <;> cases constant <;> first | contradiction | exact ⟨rfl, rfl⟩
  cases relation <;> simp only [holds, equality, ordered, Accepts] <;>
    rcases given.compare? constant with _ | (_ | _ | _) <;> simp [admits]

end Relation

/-- An integer of any kind that holds it compares as the bare integer does. -/
theorem Number.compare_integer (number : Number) (kind : IntegerKind) (item : Int)
    (fits : kind.Holds item) :
    number.compare? (.integer kind item fits) = number.compareInt? item := by
  cases number <;> rfl

namespace Expr

variable {scope : Scope} {subject : Expr} {given constant : Value}

/-- A relation with a constant that is no sequence accepts the outcome of their comparison, and only
    inequality accepts null. The hypothesis that the two are comparable is about their types, so it
    holds of undefined numbers too. -/
theorem means_relate {relation : Relation} (read : subject.valueIn scope = .ok given)
    (comparable : given.comparable constant = true)
    (plain : ∃ base, constant.type? = some base ∧ base.isInts = false ∧ base.isTexts = false) :
    (relate relation subject (ofValue constant)).Means scope
      ((given = .null ∧ relation = .ne) ∨
        (given ≠ .null ∧ relation.Accepts (given.compare? constant))) := by
  refine ⟨_, valueIn_relate read (valueIn_constant _ _) comparable, ?_⟩
  by_cases missing : given = .null
  · have valued : constant ≠ .null := by
      rintro rfl
      simp [Value.type?] at plain
    subst missing
    simp [Relation.holds_null valued]
  · simp [Relation.holds_iff_accepts missing plain, missing]

end Expr

namespace Comparison

variable {comparison : Comparison} {constant given : Value}

/-- A comparison that is a relation accepts what this accepts, and null if it is inequality. -/
theorem accepts_of_relation {relation : Relation} (related : comparison.relation? = some relation) :
    (given = .null ∧ relation = .ne) ∨
      (given ≠ .null ∧ relation.Accepts (given.compare? constant)) ↔
      comparison.Accepts constant given := by
  cases comparison <;> cases related <;> cases given <;> simp [Accepts]

variable {scope : Scope} {subject body : Expr}

/-- A relation that a comparison stands for means that the comparison accepts the value of its
    subject, if the constant is of the type of the subject or both are numbers. Equality and the
    orders of all base types come through here. -/
theorem means_relation {relation : Relation} (related : comparison.relation? = some relation)
    (plain : ∃ base, constant.type? = some base ∧ base.isInts = false ∧ base.isTexts = false)
    (type : constant.type? = some subject.type.base ∨ ∃ kind number,
      subject.type.base = .number kind ∧ constant = .number number)
    (read : subject.valueIn scope = .ok given)
    (typed : given.type? = some subject.type.base ∨ given = .null) :
    (Expr.relate relation subject (.ofValue constant)).Means scope
      (comparison.Accepts constant given) := by
  have comparable : given.comparable constant = true := by
    rcases typed with typed | rfl
    · exact Value.comparable_of_type type given typed
    · exact Value.comparable_null constant
  exact (Expr.means_relate read comparable plain).of_iff (accepts_of_relation related)

/-- A condition on a text means that the comparison accepts it. The negated tests are negations of
    conditions, so they hold of a missing text although no test of it does. -/
theorem means_textCondition {part : String} (isText : subject.type.base = .text)
    (applies : comparison.textCondition? subject (.ofValue (.text part)) = some body)
    (read : subject.valueIn scope = .ok given)
    (typed : given.type? = some .text ∨ given = .null) :
    body.Means scope (comparison.Accepts (.text part) given) := by
  have relates (relation : Relation) (related : comparison.relation? = some relation) :
      (Expr.relate relation subject (.ofValue (.text part))).Means scope
        (comparison.Accepts (.text part) given) :=
    means_relation related ⟨.text, rfl, rfl, rfl⟩ (.inl (by rw [isText]; rfl)) read
      (by rwa [isText])
  have tests {method : Method} (isTest : method.isTextTest = true)
      {related : List Char → List Char → Prop}
      (decides : ∀ content, Value.textTest method content part = true ↔
        related part.toList content.toList) :
      (Expr.call method [subject, .ofValue (.text part)]).Means scope
        ((Value.text part).TextsStand related given) :=
    (Expr.means_textTest isTest part read typed).of_iff (by simp [Value.TextsStand, decides])
  have contained := tests (rfl : Method.contains.isTextTest = true)
    fun content => Value.occursIn_iff_infix
  have started := tests (rfl : Method.startsWith.isTextTest = true)
    fun content => List.isPrefixOf_iff_prefix
  have ended := tests (rfl : Method.endsWith.isTextTest = true)
    fun content => List.isSuffixOf_iff_suffix
  have accepts : ∀ related, (Value.text part).TextsStand related .null ↔ False := by
    simp [Value.TextsStand]
  cases comparison <;> simp [textCondition?, textTest?, isNegated] at applies <;> subst applies
  case equals => exact relates .eq rfl
  case notEquals => exact relates .ne rfl
  case contains => exact contained.of_iff (by cases given <;> simp [Accepts, accepts])
  case startsWith => exact started.of_iff (by cases given <;> simp [Accepts, accepts])
  case endsWith => exact ended.of_iff (by cases given <;> simp [Accepts, accepts])
  case notContains => exact contained.not.of_iff (by cases given <;> simp [Accepts, accepts])
  case notStartsWith => exact started.not.of_iff (by cases given <;> simp [Accepts, accepts])
  case notEndsWith => exact ended.not.of_iff (by cases given <;> simp [Accepts, accepts])

/-- A condition on membership in a set means that the comparison accepts the member. A set beside a
    date is one of months, and beside everything else one of values. -/
theorem means_setCondition
    (isSet : (∃ items, constant = .ints items ∧
        ((∃ kind, subject.type.base = .number kind) ∨ subject.type.base = .date)) ∨
      ∃ items, constant = .texts items ∧ subject.type.base = .text)
    (applies : comparison.setCondition? subject (.ofValue constant) = some body)
    (read : subject.valueIn scope = .ok given)
    (typed : given.type? = some subject.type.base ∨ given = .null) :
    body.Means scope (comparison.Accepts constant given) := by
  unfold setCondition? at applies
  split at applies
  · rename_i isDate
    have base : subject.type.base = .date := by simpa [DataType.isDate] using isDate
    obtain ⟨items, rfl⟩ : ∃ items, constant = .ints items := by
      rcases isSet with ⟨items, rfl, -⟩ | ⟨items, rfl, other⟩
      · exact ⟨items, rfl⟩
      · rw [base] at other
        cases other
    split at applies <;> cases applies
    rename_i asked
    subst asked
    rw [base] at typed
    refine (Expr.means_monthIn items read typed).of_iff ?_
    cases given <;> simp [Accepts, Value.IsInMonth]
  · rename_i noDate
    split at applies <;> cases applies
    rename_i asked
    subst asked
    have among : (∃ items kind, constant = .ints items ∧ subject.type.base = .number kind) ∨
        ∃ items, constant = .texts items ∧ subject.type.base = .text := by
      rcases isSet with ⟨items, rfl, ⟨kind, base⟩ | base⟩ | isTexts
      · exact .inl ⟨items, kind, rfl, base⟩
      · simp [DataType.isDate, base] at noDate
      · exact .inr isTexts
    refine (Expr.means_inSet read among typed).of_iff ?_
    cases given <;> simp [Accepts, Value.IsItem]

/-- A condition with a constant that goes with its subject means that the comparison accepts the
    value of the subject. The cases are those of the constant, and each has its own lemma above. -/
theorem means_condition (suits : constant.suits subject.type.base = true)
    (applies : comparison.condition? subject constant = some body)
    (read : subject.valueIn scope = .ok given)
    (typed : given.type? = some subject.type.base ∨ given = .null) :
    body.Means scope (comparison.Accepts constant given) := by
  cases constant with
  | null => simp [condition?] at applies
  | text part =>
    have isText : subject.type.base = .text := Value.base_of_suits suits
    rw [isText] at typed
    exact means_textCondition isText applies read typed
  | bool truth =>
    have isBool : subject.type.base = .bool := Value.base_of_suits suits
    have type : (Value.bool truth).type? = some subject.type.base := by rw [isBool, Value.type?]
    cases comparison <;> simp [condition?, boolCondition?] at applies <;> subst applies
    case equals => exact means_relation rfl ⟨.bool, rfl, rfl, rfl⟩ (.inl type) read typed
    case notEquals => exact means_relation rfl ⟨.bool, rfl, rfl, rfl⟩ (.inl type) read typed
  | number number =>
    obtain ⟨kind, isNumber⟩ : ∃ kind, subject.type.base = .number kind := Value.base_of_suits suits
    obtain ⟨relation, related, rfl⟩ := Option.map_eq_some_iff.mp applies
    exact means_relation related ⟨_, rfl, rfl, rfl⟩ (.inr ⟨kind, number, isNumber, rfl⟩) read typed
  | date d =>
    have isDate : subject.type.base = .date := Value.base_of_suits suits
    have type : (Value.date d).type? = some subject.type.base := by rw [isDate, Value.type?]
    obtain ⟨relation, related, rfl⟩ := Option.map_eq_some_iff.mp applies
    exact means_relation related ⟨.date, rfl, rfl, rfl⟩ (.inl type) read typed
  | ints items =>
    exact means_setCondition (.inl ⟨items, rfl, Value.base_of_suits suits⟩) applies read typed
  | texts items =>
    exact means_setCondition (.inr ⟨items, rfl, Value.base_of_suits suits⟩) applies read typed

end Comparison

namespace Compiled

variable {type : RecordType} {id : Nat} {property : Option String} {comparison : Comparison}
  {literal : Literal} {predicate : Predicate}

/-- A membership test with a list is compiled beside all that the list stands beside but dates.
    Beside a date the test is not supported, and the test of months takes its place. -/
theorem ofProjection_list {projection : Projection} {constant : Value}
    (read : literal.constantFor? projection.type.base = .ok (some constant))
    (isList : (∃ items, constant = .ints items) ∨ ∃ items, constant = .texts items)
    (noDate : projection.type.base ≠ .date) :
    ofProjection projection .isIn literal =
      .ok (ready ⟨projection.parameter,
        .call .inSet [.ofValue constant, projection.body]⟩) := by
  have undated : projection.body.type.isDate = false := beq_eq_false_iff_ne.mpr noDate
  have condition : Comparison.isIn.condition? projection.body constant =
      some (.call .inSet [.ofValue constant, projection.body]) := by
    rcases isList with ⟨items, rfl⟩ | ⟨items, rfl⟩ <;>
      rw [Comparison.condition?, Comparison.setCondition?, undated] <;> rfl
  refine bind_eq_ok.mpr ⟨some constant, read, ?_⟩
  dsimp only
  rw [condition]
  rfl

/-- A compiled filter holds of a record where its comparison accepts what its property reads. The
    record only has to give the property a value. Whether it conforms in its other properties is of
    no account. -/
theorem decides_of_ready
    (compiled : ofParts (.ofType type id) property comparison literal = .ok (ready predicate)) :
    ∃ projection constant,
      (Projections.ofType type id).resolve? property = some projection ∧
      literal.constantFor? projection.type.base = .ok (some constant) ∧
      ∀ record value, projection.Reads record value →
        ∃ holds, predicate.evaluate record = .ok holds ∧
          (holds = true ↔ comparison.Accepts constant value) := by
  obtain ⟨projection, constant, body, resolved, read, applied, rfl⟩ := ofParts_eq_ready compiled
  refine ⟨projection, constant, resolved, read, fun record value ⟨given, typed⟩ => ?_⟩
  rw [Lambda.callValue_unary rfl] at given
  obtain ⟨holds, evaluated, same⟩ :=
    Comparison.means_condition (Literal.suits_of_constantFor read) applied given typed
  refine ⟨holds, ?_, same⟩
  rw [Predicate.evaluate_eq_truthIn]
  exact Expr.truthIn_of_valueIn evaluated

/-- A compiled filter has the meaning of its comparison: on every record from which its property
    reads a value of its base type or null, it evaluates, and holds exactly where the comparison
    accepts this value, with the constant that the literal stands for: the text or the list of the
    filter as it is, or the truth value, number or date that comes of it. The same comparison with
    the same literal says the same of a value for every property of this base type, whether or not
    that admits null. Integers of 64 bits in a set are compared as numbers.

    Proof: the body is a condition on what the property reads, and each condition means that its
    comparison accepts the value. The literal is read for the base type alone, so properties that
    share it share the constant, and with it the meaning. -/
theorem evaluate_iff_accepts
    (compiled : ofParts (.ofType type id) property comparison literal = .ok (ready predicate)) :
    ∃ projection constant,
      (Projections.ofType type id).resolve? property = some projection ∧
      literal.StandsFor projection.type.base constant ∧
      (∀ record value, projection.Reads record value →
        ∃ holds, predicate.evaluate record = .ok holds ∧
          (holds = true ↔ comparison.Accepts constant value)) ∧
      (∀ otherType otherId otherProperty otherPredicate otherProjection,
        ofParts (.ofType otherType otherId) otherProperty comparison literal =
          .ok (ready otherPredicate) →
        (Projections.ofType otherType otherId).resolve? otherProperty = some otherProjection →
        otherProjection.type.base = projection.type.base →
        ∀ record otherRecord value, projection.Reads record value →
          otherProjection.Reads otherRecord value →
          otherPredicate.evaluate otherRecord = predicate.evaluate record) ∧
      ∀ (number : Number) (item : Int) (fits : IntegerKind.i64.Holds item),
        number.compareInt? item = number.compare? (.integer .i64 item fits) := by
  obtain ⟨projection, constant, resolved, read, decides⟩ := decides_of_ready compiled
  refine ⟨projection, constant, resolved, Literal.constantFor_eq_ok.mp read, decides, ?_,
    fun number item fits => (number.compare_integer .i64 item fits).symm⟩
  intro otherType otherId otherProperty otherPredicate otherProjection otherCompiled otherResolved
    sameBase record otherRecord value reads otherReads
  obtain ⟨_, _, located, otherRead, otherDecides⟩ := decides_of_ready otherCompiled
  obtain rfl := Option.some.inj (located.symm.trans otherResolved)
  rw [sameBase, read] at otherRead
  cases otherRead
  obtain ⟨holds, evaluated, same⟩ := decides record value reads
  obtain ⟨otherHolds, otherEvaluated, otherSame⟩ := otherDecides otherRecord value otherReads
  rw [evaluated, otherEvaluated, Bool.eq_iff_iff.mpr (otherSame.trans same.symm)]

/-- Of an undefined number, and of null, inequality with a constant holds, though the property does
    not admit null. The equality of the two does not hold, so its negation does. -/
theorem evaluate_iff_accepts_undefined :
    let ratio : Property := ⟨"x", .number .double⟩
    let type : RecordType := ⟨"R", .ok [ratio], none⟩
    let undefined : Record := ⟨"R", [.number (.double .nan)], none⟩
    let missing : Record := ⟨"R", [.null], none⟩
    ∃ predicate, ofParts (.ofType type 0) (some "x") .notEquals
        (.number (.integer .i32 5 (by decide))) = .ok (ready predicate) ∧
      predicate.evaluate undefined = .ok true ∧ predicate.evaluate missing = .ok true := by
  intro ratio type undefined missing
  let p := Projections.sharedParameter type 0
  let predicate : Predicate := ⟨p, .relate .ne (.member (.parameter p) (.ofProperty type 0 ratio))
    (.ofValue (.number (.double (.ofInt .double 5))))⟩
  have compiled : ofParts (.ofType type 0) (some "x") .notEquals
      (.number (.integer .i32 5 (by decide))) = .ok (ready predicate) := rfl
  obtain ⟨projection, constant, resolved, standsFor, decides, -, -⟩ :=
    evaluate_iff_accepts compiled
  cases resolved
  have rounded : constant = .number (.double (.ofInt .double 5)) := by
    cases standsFor with
    | number becomes =>
      cases becomes with
      | itself own => cases own
      | double other => rfl
      | narrowed other made becomes => cases becomes
  subst rounded
  obtain ⟨first, evaluated, accepted⟩ := decides undefined (.number (.double .nan)) ⟨rfl, .inl rfl⟩
  obtain ⟨second, evaluatedMissing, acceptedMissing⟩ := decides missing .null ⟨rfl, .inr rfl⟩
  have firstHolds : first = true := accepted.mpr (show none ≠ some Ordering.eq by simp)
  have secondHolds : second = true := acceptedMissing.mpr (by simp [Comparison.Accepts])
  exact ⟨predicate, compiled, firstHolds ▸ evaluated, secondHolds ▸ evaluatedMissing⟩

end Compiled

end RecordQuery
