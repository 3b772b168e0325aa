import RecordQuery.Proofs.Expr.Evaluation

/-!
# Typed expressions

Once the members of a record have types, so have all values of an expression: the type of the
constant, the member or the operation that they come from. Only null has no type, and null is good
for every operand. An expression is typed when all that it asks of its operands goes with their
types. The types may be the declared ones, and then every operand counts, or those of what a record
reads, and then only the operands count that evaluation reaches.
-/

namespace RecordQuery

/-- Whether values of these types compare: numbers with numbers, all else with its own type, and
    what is always null with everything. -/
def DataType.comparable : Option DataType → Option DataType → Bool
  | some left, some right => (left.isNumber && right.isNumber) || left == right
  | _, _ => true

/-- Whether a text of the first type can be tested for one of the second. -/
def DataType.tested : Option DataType → Option DataType → Bool
  | some .text, some .text => true
  | subject, pattern => subject.isNone || pattern.isNone

/-- Whether values of the second type can be items of sets of the first. -/
def DataType.contained : Option DataType → Option DataType → Bool
  | some .ints, some (.number _) | some .texts, some .text => true
  | set, item => set.isNone || item.isNone

/-- Whether a method takes values of these types. What is always null goes everywhere, and beside
    it anything goes. -/
def Method.takes (method : Method) : List (Option DataType) → Bool
  | [subject] =>
      match method with
      | month => subject.all (· == .date)
      | _ => false
  | [first, second] =>
      match method with
      | month => false
      | inSet => DataType.contained first second
      | _ => DataType.tested first second
  | _ => false

namespace Value

variable {nulls : Prop} {value left right : Value}

/-- Whether a value may stand where values of a type are expected: it is one of them, or it is null
    and nulls are among them. -/
def Stands (nulls : Prop) (value : Value) (type? : Option DataType) : Prop :=
  value.type? = type? ∨ (value = .null ∧ nulls)

/-- Values compare when their types do. -/
theorem comparable_eq (left right : Value) :
    left.comparable right = DataType.comparable left.type? right.type? := by
  unfold comparable DataType.comparable
  cases left.type? <;> cases right.type? <;> rfl

/-- Truth values and null have a truth, and nothing else has. -/
theorem exists_truth : (∃ holds, value.truth? = some holds) ↔
    value.type?.all (· == .bool) = true := by
  cases value <;> simp [truth?, type?]

/-- A method has a result when it takes the types of its arguments. Whether there is a result is
    thus decided by types, and which one by values. -/
theorem exists_callMethod {method : Method} {values : List Value}
    (counted : values.length = method.arity) :
    (∃ result, callMethod method values = .ok result) ↔
      method.takes (values.map type?) = true := by
  have tests (isTest : method.isTextTest = true) (subject pattern : Value) :
      (∃ result, callMethod method [subject, pattern] = .ok result) ↔
        method.takes [subject.type?, pattern.type?] = true := by
    simp only [callMethod_textTest isTest]
    cases method <;> cases isTest <;> cases subject <;> cases pattern <;>
      simp [Method.takes, DataType.tested, type?]
  cases method with
  | month =>
    obtain ⟨subject, rfl⟩ := List.length_eq_one_iff.mp counted
    simp only [callMethod_month]
    cases subject <;> simp [Method.takes, type?]
  | inSet =>
    obtain ⟨set, item, rfl⟩ := List.length_eq_two.mp counted
    simp only [callMethod_inSet]
    cases set <;> cases item <;> simp [inSet?, Method.takes, DataType.contained, type?]
  | contains | startsWith | endsWith =>
    obtain ⟨subject, pattern, rfl⟩ := List.length_eq_two.mp counted
    exact tests rfl subject pattern

/-- What is taken of values of a type is taken of null as well. Each method treats null as a missing
    value and gives a result for it. -/
theorem takes_of_stands {method : Method} {values : List Value} {types : List (Option DataType)}
    (stand : List.Forall₂ (Stands nulls) values types) (takes : method.takes types = true) :
    method.takes (values.map type?) = true := by
  rcases stand with _ | ⟨first, _ | ⟨second, _ | ⟨_, _⟩⟩⟩
  · exact takes
  · rcases first with same | ⟨rfl, -⟩
    · rwa [List.map_singleton, same]
    · cases method <;> simp [Method.takes, type?] at takes ⊢
  · rw [List.map_cons, List.map_singleton]
    rcases first with same | ⟨rfl, -⟩
    · rcases second with sameSecond | ⟨rfl, -⟩
      · rwa [same, sameSecond]
      · cases method <;>
          simp [Method.takes, DataType.contained, DataType.tested, type?] at takes ⊢
    · cases method <;>
        simp [Method.takes, DataType.contained, DataType.tested, type?] at takes ⊢
  · cases takes

/-- What compares with values of a type compares with null as well. A comparison with null is never
    an error. -/
theorem comparable_of_stands {leftType rightType : Option DataType}
    (leftStands : left.Stands nulls leftType) (rightStands : right.Stands nulls rightType)
    (compares : DataType.comparable leftType rightType = true) :
    left.comparable right = true := by
  rw [comparable_eq]
  rcases leftStands with rfl | ⟨rfl, -⟩
  · rcases rightStands with rfl | ⟨rfl, -⟩
    · exact compares
    · cases left.type? <;> rfl
  · rfl

/-- A value that may stand for a truth value has a truth. -/
theorem truth_of_stands {type? : Option DataType} (stands : value.Stands nulls type?)
    (condition : type?.all (· == .bool) = true) : ∃ holds, value.truth? = some holds := by
  rw [exists_truth]
  rcases stands with rfl | ⟨rfl, -⟩
  · exact condition
  · rfl

end Value

/-- What the typing of expressions over a record goes by: the parameter of the record, the types of
    its members, and behind which outcomes of the left sides of connectives the right sides are
    reached. -/
structure Typing where
  parameter : Parameter
  typeOf : Member → Option DataType
  reached : Expr → Bool → Bool

/-- What binds a record to the parameter of a typing. -/
abbrev Typing.scope (typing : Typing) (record : Record) : Scope :=
  [(typing.parameter.id, .record record)]

namespace Typing

/-- The typing by declared types, where everything counts. -/
def declared (p : Parameter) : Typing :=
  ⟨p, fun m => some m.type.base, fun _ _ => true⟩

/-- The typing by what a record reads, where only what evaluation reaches counts. It depends on the
    record twice: by the types of what it reads and by which sides are reached. -/
def ofRecord (p : Parameter) (record : Record) : Typing where
  parameter := p
  typeOf m := (m.read? record).bind Value.type?
  reached left holds :=
    match left.truthIn [(p.id, .record record)] with
    | .ok other => other == holds
    | .error _ => false

/-- A right side is reached behind the outcome that its left side has. A left side without a truth
    is an error, and reaches nothing. -/
theorem reached_ofRecord {p : Parameter} {record : Record} {left : Expr} {holds : Bool} :
    (ofRecord p record).reached left holds = true ↔
      left.truthIn [(p.id, .record record)] = .ok holds := by
  unfold ofRecord
  dsimp only
  split
  · rename_i other truth
    simp [truth]
  · rename_i cause failed
    simp [failed]

end Typing

namespace Expr

/-- Whether an expression stands for the record that is bound to a parameter. -/
def isRecord (p : Parameter) : Expr → Bool
  | parameter q => q.id == p.id
  | lift operand => operand.isRecord p
  | _ => false

mutual

/-- The base type of the values that an expression evaluates to over a record; none if they are all
    null. The types that lambdas declare are not looked at, except where they are what the typing
    goes by. -/
def valueType? (typing : Typing) : Expr → Option DataType
  | parameter _ => none
  | member target m =>
      if target.isRecord typing.parameter then typing.typeOf m else valueType? typing target
  | constant value _ => value.type?
  | not _ => some .bool
  | lift operand => valueType? typing operand
  | binary .. => some .bool
  | call .month arguments => (headValueType? typing arguments).map fun _ => .number (.integer .i32)
  | call .. => some .bool

/-- The base type of the values of the first argument. -/
def headValueType? (typing : Typing) : List Expr → Option DataType
  | [] => none
  | argument :: _ => valueType? typing argument

end

/-- Whether the values of an expression may stand in the place of a condition. -/
def isCondition (typing : Typing) (expr : Expr) : Bool :=
  (expr.valueType? typing).all (· == .bool)

mutual

/-- Whether an expression asks of its operands only what goes with their types. Of a connective
    the right side counts if it is reached behind this outcome of the left. -/
def isTyped (typing : Typing) : Expr → Bool
  | parameter _ => false
  | member target m => target.isRecord typing.parameter || (m.isSelf && isTyped typing target)
  | constant .. => true
  | not operand => isTyped typing operand && operand.isCondition typing
  | lift operand => isTyped typing operand
  | binary .and left right => isTyped typing left && left.isCondition typing &&
      (!typing.reached left true || (isTyped typing right && right.isCondition typing))
  | binary .or left right => isTyped typing left && left.isCondition typing &&
      (!typing.reached left false || (isTyped typing right && right.isCondition typing))
  | binary (.relation _) left right => isTyped typing left && isTyped typing right &&
      DataType.comparable (left.valueType? typing) (right.valueType? typing)
  | call method arguments => decide (arguments.length = method.arity) &&
      areTyped typing arguments && method.takes (arguments.map (valueType? typing))

/-- Whether all expressions of a list ask only what goes with the types. -/
def areTyped (typing : Typing) : List Expr → Bool
  | [] => true
  | expr :: rest => isTyped typing expr && areTyped typing rest

end

/-- Whether an expression is typed and may stand in the place of a condition. -/
def isTypedCondition (typing : Typing) (expr : Expr) : Bool :=
  expr.isTyped typing && expr.isCondition typing

/-- A list of expressions is typed when each of them is. -/
theorem areTyped_iff {typing : Typing} {arguments : List Expr} :
    areTyped typing arguments = true ↔
      ∀ argument ∈ arguments, argument.isTyped typing = true := by
  induction arguments with
  | nil => simp [areTyped]
  | cons first rest inductionHypothesis => simp [areTyped, inductionHypothesis]

/-- Whether the members that an expression reads from a record have values of their types, and null
    only if nulls are among them. -/
def Reads (typing : Typing) (record : Record) (nulls : Prop) (expr : Expr) : Prop :=
  ∀ target m, member target m ∈ expr.parts → target.isRecord typing.parameter = true →
    ∃ value, m.read? record = some value ∧ value.Stands nulls (typing.typeOf m)

variable {typing : Typing} {p : Parameter} {record : Record} {nulls : Prop} {expr : Expr}
  {value : Value}

/-- What a whole reads, its parts read. -/
theorem Reads.of_parts {part : Expr} (reads : expr.Reads typing record nulls)
    (subset : part.parts ⊆ expr.parts) : part.Reads typing record nulls :=
  fun target m occurs => reads target m (subset occurs)

/-- A member is read from a record, or is what is left of it where only a value is. Only the record
    itself can be read from a value, which it already is then. -/
theorem valueIn_member_iff {scope : Scope} {target : Expr} {m : Member} :
    (member target m).valueIn scope = .ok value ↔
      (∃ record, target.eval scope = .ok (.record record) ∧ m.read? record = some value) ∨
      (m.isSelf = true ∧ target.valueIn scope = .ok value) := by
  have evaluated : (member target m).valueIn scope =
      (do let operand ← target.eval scope; (← m.readFrom operand).toValue) := by
    rw [valueIn, eval, bind_assoc]
  rw [evaluated, valueIn]
  cases target.eval scope with
  | error cause => simp [bind, Except.bind]
  | ok operand =>
    cases operand with
    | record record =>
      cases read : m.read? record <;>
        simp [bind, Except.bind, Member.readFrom, Operand.toValue, read]
    | value given =>
      cases self : m.isSelf <;>
        simp [bind, Except.bind, Member.readFrom, Operand.toValue, self]

/-- What is read from a member is a value. Records are not nested in records. -/
theorem value_of_eval_member {scope : Scope} {target : Expr} {m : Member} {operand : Operand}
    (evaluated : (member target m).eval scope = .ok operand) :
    ∃ value, operand = .value value := by
  rw [eval] at evaluated
  obtain ⟨inner, -, read⟩ := bind_eq_ok.mp evaluated
  unfold Member.readFrom at read
  split at read <;> split at read <;> cases read <;> exact ⟨_, rfl⟩

/-- A negation evaluates to a value. -/
theorem value_of_eval_not {scope : Scope} {inner : Expr} {operand : Operand}
    (evaluated : (not inner).eval scope = .ok operand) : ∃ value, operand = .value value := by
  rw [eval] at evaluated
  obtain ⟨result, -, rest⟩ := bind_eq_ok.mp evaluated
  obtain ⟨value, -, rest⟩ := bind_eq_ok.mp rest
  obtain ⟨negated, -, rfl⟩ := change_eq_ok.mp rest
  exact ⟨negated, rfl⟩

/-- An operator evaluates to a value. A connective does so on each of its ways. -/
theorem value_of_eval_binary {scope : Scope} {operator : Operator} {left right : Expr}
    {operand : Operand} (evaluated : (binary operator left right).eval scope = .ok operand) :
    ∃ value, operand = .value value := by
  cases operator with
  | relation relation =>
    rw [eval] at evaluated
    obtain ⟨first, -, rest⟩ := bind_eq_ok.mp evaluated
    obtain ⟨leftValue, -, rest⟩ := bind_eq_ok.mp rest
    obtain ⟨second, -, rest⟩ := bind_eq_ok.mp rest
    obtain ⟨rightValue, -, rest⟩ := bind_eq_ok.mp rest
    obtain ⟨result, -, rfl⟩ := change_eq_ok.mp rest
    exact ⟨result, rfl⟩
  | and =>
    rw [eval_and] at evaluated
    obtain ⟨holds, -, rest⟩ := bind_eq_ok.mp evaluated
    cases holds with
    | false => exact ⟨_, (pure_eq_ok.mp rest).symm⟩
    | true =>
      obtain ⟨result, -, rfl⟩ := change_eq_ok.mp rest
      exact ⟨_, rfl⟩
  | or =>
    rw [eval_or] at evaluated
    obtain ⟨holds, -, rest⟩ := bind_eq_ok.mp evaluated
    cases holds with
    | false =>
      obtain ⟨result, -, rfl⟩ := change_eq_ok.mp rest
      exact ⟨_, rfl⟩
    | true => exact ⟨_, (pure_eq_ok.mp rest).symm⟩

/-- A call evaluates to a value. -/
theorem value_of_eval_call {scope : Scope} {method : Method} {arguments : List Expr}
    {operand : Operand} (evaluated : (call method arguments).eval scope = .ok operand) :
    ∃ value, operand = .value value := by
  rw [eval] at evaluated
  split at evaluated
  · obtain ⟨results, -, rest⟩ := bind_eq_ok.mp evaluated
    obtain ⟨result, -, rfl⟩ := change_eq_ok.mp rest
    exact ⟨result, rfl⟩
  · cases evaluated

/-- Only the parameter of a record, lifted or not, evaluates to the record. Every other node gives a
    value or an error, so a record never gets into an operator. -/
theorem eval_eq_record {other : Record} :
    expr.eval [(p.id, .record record)] = .ok (.record other) ↔
      expr.isRecord p = true ∧ record = other := by
  have values (node : Expr) (noRecord : node.isRecord p = false)
      (valued : ∀ operand, node.eval [(p.id, .record record)] = .ok operand →
        ∃ value, operand = .value value) :
      node.eval [(p.id, .record record)] = .ok (.record other) ↔
        node.isRecord p = true ∧ record = other := by
    refine iff_of_false (fun given => ?_) (by simp [noRecord])
    obtain ⟨value, absurd⟩ := valued _ given
    cases absurd
  induction expr with
  | parameter q =>
    by_cases same : p.id = q.id
    · simp [eval, Scope.find?, isRecord, same]
    · simp [eval, Scope.find?, isRecord, same, Ne.symm same]
  | lift operand inductionHypothesis => exact inductionHypothesis
  | constant value type => simp [eval, isRecord]
  | member target m => exact values _ rfl fun operand => value_of_eval_member
  | not operand => exact values _ rfl fun operand => value_of_eval_not
  | binary operator left right => exact values _ rfl fun operand => value_of_eval_binary
  | call method arguments => exact values _ rfl fun operand => value_of_eval_call

/-- What stands for the record has no value. -/
theorem isRecord_of_valueIn (evaluated : expr.valueIn (typing.scope record) = .ok value) :
    expr.isRecord typing.parameter = false := by
  refine Bool.eq_false_iff.mpr fun isRecord => ?_
  rw [valueIn, eval_eq_record.mpr ⟨isRecord, rfl⟩] at evaluated
  cases evaluated

/-- A parameter has no value, whatever it is bound to. -/
theorem not_valueIn_parameter (q : Parameter) :
    (parameter q).valueIn (typing.scope record) ≠ .ok value := by
  intro evaluated
  by_cases same : typing.parameter.id = q.id <;>
    simp [valueIn, eval, Scope.find?, same, bind, Except.bind, Operand.toValue] at evaluated

section Parts

variable {operand left right : Expr} {operator : Operator} {method : Method}
  {arguments : List Expr}

/-- A record reads for an operand what it reads for its negation. -/
theorem Reads.of_not (reads : (not operand).Reads typing record nulls) :
    operand.Reads typing record nulls :=
  reads.of_parts (List.subset_cons_self _ _)

/-- A record reads for an operand what it reads for it when it is lifted. -/
theorem Reads.of_lift (reads : (lift operand).Reads typing record nulls) :
    operand.Reads typing record nulls :=
  reads.of_parts (List.subset_cons_self _ _)

/-- A record reads for a target what it reads for its member. -/
theorem Reads.of_member {m : Member} (reads : (member operand m).Reads typing record nulls) :
    operand.Reads typing record nulls :=
  reads.of_parts (List.subset_cons_self _ _)

/-- A record reads for each side what it reads for both together. -/
theorem Reads.of_binary (reads : (binary operator left right).Reads typing record nulls) :
    left.Reads typing record nulls ∧ right.Reads typing record nulls :=
  ⟨reads.of_parts (List.subset_cons_of_subset _ (List.subset_append_left _ _)),
    reads.of_parts (List.subset_cons_of_subset _ (List.subset_append_right _ _))⟩

/-- A record reads for each argument what it reads for the call. -/
theorem Reads.of_call (reads : (call method arguments).Reads typing record nulls) :
    ∀ argument ∈ arguments, argument.Reads typing record nulls :=
  fun _ member => reads.of_parts (List.subset_cons_of_subset _ (parts_subset_partsOfAll member))

end Parts

/-- The value of an expression is of its type, or it is null and nulls are among what is read.

    Proof: induction on the expression. Operators give truths and months, whatever their operands
    are, so only members, constants and lifts pass a type on. -/
theorem stands_of_valueIn (reads : expr.Reads typing record nulls)
    (evaluated : expr.valueIn (typing.scope record) = .ok value) :
    value.Stands nulls (expr.valueType? typing) := by
  induction expr generalizing value with
  | parameter q => exact absurd evaluated (not_valueIn_parameter q)
  | member target m inductionHypothesis =>
    rcases valueIn_member_iff.mp evaluated with ⟨other, given, read⟩ | ⟨-, inner⟩
    · obtain ⟨isRecord, rfl⟩ := eval_eq_record.mp given
      obtain ⟨found, isFound, stands⟩ := reads target m (self_mem_parts _) isRecord
      rw [valueType?, if_pos isRecord]
      cases read.symm.trans isFound
      exact stands
    · rw [valueType?, isRecord_of_valueIn inner]
      exact inductionHypothesis reads.of_member inner
  | constant given type =>
    cases evaluated
    exact .inl rfl
  | not operand inductionHypothesis =>
    obtain ⟨holds, -, rfl⟩ := valueIn_not.mp evaluated
    exact .inl rfl
  | lift operand inductionHypothesis => exact inductionHypothesis reads.of_lift evaluated
  | binary operator left right leftHypothesis rightHypothesis =>
    obtain ⟨holds, rfl⟩ := truth_of_binary evaluated
    exact .inl rfl
  | call method arguments inductionHypothesis =>
    cases method with
    | month =>
      obtain ⟨counted, values, given, called⟩ := valueIn_call.mp evaluated
      obtain ⟨subject, rfl⟩ := List.length_eq_one_iff.mp counted
      obtain ⟨inner, rfl⟩ := List.length_eq_one_iff.mp (given.length_eq.symm.trans counted)
      obtain ⟨subjectGiven, -⟩ := List.forall₂_cons.mp given
      have stands := inductionHypothesis subject List.mem_cons_self
        (reads.of_call subject List.mem_cons_self) subjectGiven
      rw [valueType?, headValueType?]
      rcases Value.callMethod_month.mp called with ⟨d, rfl, rfl⟩ | ⟨rfl, rfl⟩
      · rcases stands with typed | ⟨absurd, -⟩
        · rw [← typed]
          exact .inl rfl
        · cases absurd
      · rcases stands with typed | ⟨-, among⟩
        · rw [← typed]
          exact .inl rfl
        · exact .inr ⟨rfl, among⟩
    | inSet | contains | startsWith | endsWith =>
      obtain ⟨holds, rfl⟩ := truth_of_call (by decide) evaluated
      exact .inl rfl

/-- The values of arguments are of their types, or null. They are in the order of the arguments. -/
theorem stand_of_valuesIn {arguments : List Expr} {values : List Value}
    (reads : ∀ argument ∈ arguments, argument.Reads typing record nulls)
    (given : List.Forall₂
      (fun argument value => argument.valueIn (typing.scope record) = .ok value)
      arguments values) :
    List.Forall₂ (Value.Stands nulls) values (arguments.map (valueType? typing)) := by
  induction given with
  | nil => exact .nil
  | cons first _ inductionHypothesis =>
    obtain ⟨firstReads, othersRead⟩ := List.forall_mem_cons.mp reads
    exact .cons (stands_of_valueIn firstReads first) (inductionHypothesis othersRead)

end Expr

end RecordQuery
