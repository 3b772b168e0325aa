import RecordQuery.Compiled
import RecordQuery.Proofs.Expr.Induction
import RecordQuery.Proofs.Outcome
import RecordQuery.Proofs.Record.Columns
import RecordQuery.Proofs.Text.Blank

/-!
# Bodies of compiled predicates

Predicates are built from compiled filters and constants by the connectives. Their bodies are
trees of the same connectives, whose leaves compare one member of the parameter, or its month,
with a constant that goes with the type of the member. Joining two predicates replaces the
parameter of the second, which changes nothing about the shape of its body.
-/

namespace RecordQuery

/-- Whether a constant goes with members of a base type. -/
def Value.suits : DataType → Value → Bool
  | .text, .text _ | .text, .texts _ => true
  | .bool, .bool _ => true
  | .number _, .number _ | .number _, .ints _ => true
  | .date, .date _ | .date, .ints _ => true
  | _, _ => false

/-- Whether a value is a set. -/
def Value.isSet : Value → Bool
  | ints _ | texts _ => true
  | _ => false

namespace Value

variable {base : DataType}

/-- The base types that constants of each form go with. A list of integers is the only constant that
    goes with more than one kind of base type, since months of dates are tested with it too. -/
theorem base_of_suits {constant : Value} : constant.suits base = true →
    match constant with
    | null => False
    | text _ | texts _ => base = .text
    | bool _ => base = .bool
    | number _ => ∃ kind, base = .number kind
    | date _ => base = .date
    | ints _ => (∃ kind, base = .number kind) ∨ base = .date := by
  cases constant <;> cases base <;> simp [suits]

/-- Values of a base type compare with the constants of this type, and numbers with numbers of every
    kind. The constant need not be of the kind of the numbers, as what suits a number is only known
    to be one. -/
theorem comparable_of_type {constant : Value}
    (typed : constant.type? = some base ∨
      ∃ kind given, base = .number kind ∧ constant = .number given) (value : Value)
    (given : value.type? = some base) : value.comparable constant = true := by
  rcases typed with same | ⟨kind, other, rfl, rfl⟩
  · simp [comparable, given, same]
  · have numbered : (number other).type? = some (.number other.kind) := rfl
    simp [comparable, given, numbered, DataType.isNumber, DataType.numberKind?, DataType.base]

/-- A constant that is no set compares with the values of every base type that it goes with. -/
theorem comparable_of_suits {constant : Value} (suits : constant.suits base = true)
    (single : constant.isSet = false) (value : Value) (given : value.type? = some base) :
    value.comparable constant = true := by
  refine comparable_of_type ?_ value given
  have fitting := base_of_suits suits
  cases constant with
  | null => exact fitting.elim
  | text content | bool truth | date d => exact .inl (congrArg some fitting.symm)
  | number number =>
    obtain ⟨kind, isNumber⟩ := fitting
    exact .inr ⟨kind, number, isNumber, rfl⟩
  | ints items | texts items => cases single

end Value

/-- The constant that a literal stands for goes with the base type that it was read for. With it,
    proofs about conditions need not know which literal a constant came from. -/
theorem Literal.suits_of_constantFor {base : DataType} {literal : Literal} {constant : Value}
    (read : literal.constantFor? base = .ok (some constant)) : constant.suits base = true := by
  unfold constantFor? at read
  split at read
  case h_3 | h_4 | h_5 | h_7 =>
    -- The literal is read first, which may fail.
    obtain ⟨value, -, same⟩ := change_eq_ok.mp read
    cases same
    rfl
  case h_11 => cases read
  all_goals
    cases read
    rfl

namespace Expr

/-- The conditions on a member of a parameter that single comparisons come to. Each constructor
    says of its constant and of the member's type what evaluation without errors needs. -/
inductive Leaf (p : Parameter) (m : Member) : Expr → Prop
  /-- A relation with a constant that compares with the values of the member. -/
  | relation (relation : Relation) (constant : Value) (valued : constant ≠ .null)
      (compares : ∀ value : Value, value.type? = some m.type.base →
        value.comparable constant = true) :
      Leaf p m (.relate relation (.member (.parameter p) m) (.ofValue constant))
  /-- A test of a text. -/
  | textTest (method : Method) (isTest : method.isTextTest = true) (content : String)
      (isText : m.type.base = .text) :
      Leaf p m (.call method [.member (.parameter p) m, .ofValue (.text content)])
  /-- Membership of a number. -/
  | inInts (values : List Int) (isNumber : ∃ kind, m.type.base = .number kind) :
      Leaf p m (.call .inSet [.ofValue (.ints values), .member (.parameter p) m])
  /-- Membership of a text. -/
  | inTexts (values : List String) (isText : m.type.base = .text) :
      Leaf p m (.call .inSet [.ofValue (.texts values), .member (.parameter p) m])
  /-- Membership of the month of a date. -/
  | monthIn (values : List Int) (isDate : m.type.base = .date) :
      Leaf p m (.call .inSet [.ofValue (.ints values), .call .month [.member (.parameter p) m]])

/-- The bodies over a parameter whose leaves are conditions on members of a kind. The kind is a
    parameter, since filters on names read columns only and others read the record itself too. -/
inductive FilterBody (reads : Member → Prop) (p : Parameter) : Expr → Prop
  | leaf {m : Member} {expr : Expr} (member : reads m) (shape : Leaf p m expr) :
      FilterBody reads p expr
  | constant (holds : Bool) : FilterBody reads p (.ofValue (.bool holds))
  | not {operand : Expr} (body : FilterBody reads p operand) : FilterBody reads p (.not operand)
  | and {left right : Expr} (leftBody : FilterBody reads p left)
      (rightBody : FilterBody reads p right) : FilterBody reads p (.binary .and left right)
  | or {left right : Expr} (leftBody : FilterBody reads p left)
      (rightBody : FilterBody reads p right) : FilterBody reads p (.binary .or left right)

/-- A relation joins two sides that are lifted or not. Which sides are lifted depends on their
    types, and no proof here needs to know it. -/
theorem relate_eq (relation : Relation) (left right : Expr) :
    ∃ first second, (first = left ∨ first = lift left) ∧
      (second = right ∨ second = lift right) ∧
      relate relation left right = binary (.relation relation) first second := by
  unfold relate unify
  split
  · exact ⟨left, right, .inl rfl, .inl rfl, rfl⟩
  · split
    · exact ⟨lift left, right, .inr rfl, .inl rfl, rfl⟩
    · exact ⟨left, lift right, .inl rfl, .inr rfl, rfl⟩
    · exact ⟨left, right, .inl rfl, .inl rfl, rfl⟩

/-- The parts of a relation are those of its sides, their lifts and the relation. Neither of the two
    kinds of parts that are new is a parameter or a constant. -/
theorem mem_parts_relate {relation : Relation} {left right part : Expr}
    (member : part ∈ (relate relation left right).parts) :
    part ∈ left.parts ∨ part ∈ right.parts ∨ (∃ operand, part = lift operand) ∨
      ∃ first second, part = binary (.relation relation) first second := by
  obtain ⟨first, second, leftSame, rightSame, related⟩ := relate_eq relation left right
  rw [related, parts] at member
  rcases List.mem_cons.mp member with rfl | inSides
  · exact .inr (.inr (.inr ⟨_, _, rfl⟩))
  · rcases List.mem_append.mp inSides with inLeft | inRight
    · rcases leftSame with rfl | rfl
      · exact .inl inLeft
      · rcases List.mem_cons.mp inLeft with rfl | inOperand
        · exact .inr (.inr (.inl ⟨_, rfl⟩))
        · exact .inl inOperand
    · rcases rightSame with rfl | rfl
      · exact .inr (.inl inRight)
      · rcases List.mem_cons.mp inRight with rfl | inOperand
        · exact .inr (.inr (.inl ⟨_, rfl⟩))
        · exact .inr (.inl inOperand)

/-- A condition on a member yields a truth value. -/
theorem Leaf.isBool {p : Parameter} {m : Member} {expr : Expr} (leaf : Leaf p m expr) :
    expr.isBool = true := by
  cases leaf with
  | textTest method isTest content isText => cases method <;> first | rfl | cases isTest
  | _ => rfl

/-- A body of such conditions yields a truth value. -/
theorem FilterBody.isBool {reads : Member → Prop} {p : Parameter} {expr : Expr}
    (body : FilterBody reads p expr) : expr.isBool = true := by
  cases body with
  | leaf member shape => exact shape.isBool
  | _ => rfl

/-- A condition on a member of a parameter reads no other parameter. So a filter that is compiled
    over a parameter is closed but for it. -/
theorem Leaf.parameters {p : Parameter} {m : Member} {expr : Expr} (leaf : Leaf p m expr)
    {other : Parameter} (occurs : parameter other ∈ expr.parts) : other = p := by
  cases leaf with
  | relation relation constant valued compares =>
    rcases mem_parts_relate occurs with inLeft | inRight | ⟨_, absurd⟩ | ⟨_, _, absurd⟩
    · simpa [parts] using inLeft
    · simp [ofValue, parts] at inRight
    · cases absurd
    · cases absurd
  | textTest method isTest content isText => simpa [parts, partsOfAll, ofValue] using occurs
  | inInts values isNumber => simpa [parts, partsOfAll, ofValue] using occurs
  | inTexts values isText => simpa [parts, partsOfAll, ofValue] using occurs
  | monthIn values isDate => simpa [parts, partsOfAll, ofValue] using occurs

/-- A body over a parameter reads no other parameter. The induction follows the connectives, and
    only the conditions have parts of their own. -/
theorem FilterBody.parameters {reads : Member → Prop} {p : Parameter} {expr : Expr}
    (body : FilterBody reads p expr) {other : Parameter}
    (occurs : parameter other ∈ expr.parts) : other = p := by
  induction body with
  | leaf known shape => exact shape.parameters occurs
  | constant holds => simp [ofValue, parts] at occurs
  | not _ inductionHypothesis => exact inductionHypothesis (by simpa [parts] using occurs)
  | and _ _ leftHypothesis rightHypothesis | or _ _ leftHypothesis rightHypothesis =>
    simp only [parts, List.mem_cons, List.mem_append, reduceCtorEq, false_or] at occurs
    exact occurs.elim leftHypothesis rightHypothesis

end Expr

namespace Comparison

open RecordQuery.Expr (FilterBody Leaf)

variable {reads : Member → Prop} {p : Parameter} {m : Member} {comparison : Comparison}

/-- The conditions that comparisons of a subject with a constant come to: a relation, a text test or
    the negation of one, and membership of the subject or, if it is a date, of its month. -/
inductive Shape (subject : Expr) (constant : Value) : Expr → Prop
  | relation (relation : Relation) (valued : constant ≠ .null) (single : constant.isSet = false) :
      Shape subject constant (.relate relation subject (.ofValue constant))
  | textTest (method : Method) (isTest : method.isTextTest = true) {content : String}
      (isText : constant = .text content) :
      Shape subject constant (.call method [subject, .ofValue constant])
  | negatedTest (method : Method) (isTest : method.isTextTest = true) {content : String}
      (isText : constant = .text content) :
      Shape subject constant (.not (.call method [subject, .ofValue constant]))
  | inSet (isSet : constant.isSet = true) (noDate : subject.type.isDate = false) :
      Shape subject constant (.call .inSet [.ofValue constant, subject])
  | monthIn (isSet : constant.isSet = true) (isDate : subject.type.isDate = true) :
      Shape subject constant (.call .inSet [.ofValue constant, .call .month [subject]])

/-- A comparison that applies comes to a condition of one of these shapes. The split is by the
    constant, since this decides which of the comparisons apply at all. -/
theorem shape_of_condition {subject : Expr} {constant : Value} {condition : Expr}
    (applies : comparison.condition? subject constant = some condition) :
    Shape subject constant condition := by
  cases constant with
  | null => simp [condition?] at applies
  | text content =>
    cases comparison <;>
      simp [condition?, textCondition?, textTest?, isNegated] at applies <;> subst applies
    case equals | notEquals => exact .relation _ (by simp) rfl
    case contains | startsWith | endsWith => exact .textTest _ rfl rfl
    case notContains | notStartsWith | notEndsWith => exact .negatedTest _ rfl rfl
  | bool truth =>
    cases comparison <;> simp [condition?, boolCondition?] at applies <;> subst applies
    case equals | notEquals => exact .relation _ (by simp) rfl
  | number _ | date _ =>
    obtain ⟨relation, -, rfl⟩ := Option.map_eq_some_iff.mp applies
    exact .relation relation (by simp) rfl
  | ints _ | texts _ =>
    rw [condition?, setCondition?] at applies
    split at applies
    · rename_i isDate
      split at applies <;> cases applies
      exact .monthIn rfl isDate
    · rename_i noDate
      split at applies <;> cases applies
      exact .inSet rfl (Bool.eq_false_iff.mpr noDate)

/-- A comparison that applies to a constant comes to a condition on the member. A comparison that
    does not apply has no condition, so nothing is left to prove of it. -/
theorem body_of_condition (member : reads m) {constant : Value}
    (suits : constant.suits m.type.base = true) {condition : Expr}
    (applies : comparison.condition? (.member (.parameter p) m) constant = some condition) :
    FilterBody reads p condition := by
  have fitting := Value.base_of_suits suits
  cases shape_of_condition applies with
  | relation relation valued single =>
    exact .leaf member (.relation relation constant valued
      (Value.comparable_of_suits suits single))
  | textTest method isTest isText =>
    subst isText
    exact .leaf member (.textTest method isTest _ fitting)
  | negatedTest method isTest isText =>
    subst isText
    exact (FilterBody.leaf member (.textTest method isTest _ fitting)).not
  | inSet isSet noDate =>
    cases constant with
    | ints values =>
      rcases fitting with isNumber | isDate
      · exact .leaf member (.inInts values isNumber)
      · simp [Expr.type, DataType.isDate, isDate] at noDate
    | texts values => exact .leaf member (.inTexts values fitting)
    | _ => cases isSet
  | monthIn isSet isDate =>
    have base : m.type.base = .date := by simpa [Expr.type, DataType.isDate] using isDate
    cases constant with
    | ints values => exact .leaf member (.monthIn values base)
    | texts values => cases base.symm.trans fitting
    | _ => cases isSet

end Comparison

namespace Expr

variable {reads : Member → Prop} {p q : Parameter} {m : Member}

/-- In place of a parameter, another one is read from. -/
theorem substitute_read (q p : Parameter) (m : Member) :
    (member (.parameter q) m).substitute (.single q.id (.parameter p)) =
      .member (.parameter p) m := by
  simp [substitute, Substitution.single, Substitution.extend]

/-- A relation of replaced sides that keep their types is the replaced relation. The types decide
    what is lifted, so without this condition on them another side may be lifted than before. -/
theorem relate_substitute {substitution : Substitution} {left right : Expr}
    (leftTyped : (left.substitute substitution).type = left.type)
    (rightTyped : (right.substitute substitution).type = right.type) (relation : Relation) :
    relate relation (left.substitute substitution) (right.substitute substitution) =
      (relate relation left right).substitute substitution := by
  simp only [relate, unify, leftTyped, rightTyped]
  split
  · rfl
  · split <;> rfl

/-- A relation of replaced sides is the replaced relation: members and constants keep their
    types. -/
theorem substitute_relate (substitution : Substitution) (relation : Relation) (target : Expr)
    (m : Member) (constant : Value) :
    (relate relation (.member target m) (.ofValue constant)).substitute substitution =
      relate relation (.member (target.substitute substitution) m) (.ofValue constant) :=
  (relate_substitute rfl rfl relation).symm

/-- A condition on a member of one parameter becomes the same condition on that of another. It keeps
    the constant and the method, and so all that is known of them. -/
theorem Leaf.substitute {expr : Expr} (leaf : Leaf q m expr) :
    Leaf p m (expr.substitute (.single q.id (.parameter p))) := by
  have read := substitute_read q p m
  cases leaf with
  | relation relation constant valued compares =>
    rw [substitute_relate]
    have target : (parameter q).substitute (.single q.id (.parameter p)) = .parameter p := by
      simp [Expr.substitute, Substitution.single, Substitution.extend]
    rw [target]
    exact .relation relation constant valued compares
  | textTest method isTest content isText =>
    simp only [Expr.substitute, substituteAll] at read ⊢
    rw [read]
    exact .textTest method isTest content isText
  | inInts values isNumber =>
    simp only [Expr.substitute, substituteAll] at read ⊢
    rw [read]
    exact .inInts values isNumber
  | inTexts values isText =>
    simp only [Expr.substitute, substituteAll] at read ⊢
    rw [read]
    exact .inTexts values isText
  | monthIn values isDate =>
    simp only [Expr.substitute, substituteAll] at read ⊢
    rw [read]
    exact .monthIn values isDate

/-- Replacing the parameter of a body by another gives a body over the other. Joining two predicates
    moves the second to the parameter of the first, so joined bodies are again of this kind. -/
theorem FilterBody.substitute {expr : Expr} (body : FilterBody reads q expr) :
    FilterBody reads p (expr.substitute (.single q.id (.parameter p))) := by
  induction body with
  | leaf member shape => exact .leaf member shape.substitute
  | constant holds => exact .constant holds
  | not _ inductionHypothesis => exact .not inductionHypothesis
  | and _ _ leftHypothesis rightHypothesis => exact .and leftHypothesis rightHypothesis
  | or _ _ leftHypothesis rightHypothesis => exact .or leftHypothesis rightHypothesis

end Expr

namespace Compiled

/-- A comparison that is not dropped comes to a condition on what its property resolves to. Nothing
    else leads to a predicate. The three equations are the three places at which compiling may
    stop. -/
theorem ofParts_eq_ready {projections : Projections} {property : Option String}
    {comparison : Comparison} {literal : Literal} {predicate : Predicate}
    (compiled : ofParts projections property comparison literal = .ok (ready predicate)) :
    ∃ projection constant body, projections.resolve? property = some projection ∧
      literal.constantFor? projection.type.base = .ok (some constant) ∧
      comparison.condition? projection.body constant = some body ∧
      predicate = ⟨projection.parameter, body⟩ := by
  unfold ofParts at compiled
  cases resolved : projections.resolve? property with
  | none => simp [resolved] at compiled
  | some projection =>
    rw [resolved] at compiled
    obtain ⟨read, constantRead, compiled⟩ := bind_eq_ok.mp compiled
    cases read with
    | none => cases compiled
    | some constant =>
      simp only at compiled
      cases applied : comparison.condition? projection.body constant with
      | none =>
        rw [applied] at compiled
        cases compiled
      | some body =>
        rw [applied] at compiled
        cases compiled
        exact ⟨projection, constant, body, rfl, constantRead, applied, rfl⟩

/-- A constant goes with a projection only if this reads a member: a whole record goes with none.
    The type of a record is the base of no constant, so the first case of the hypothesis is
    empty. -/
theorem member_of_constant {reads : Member → Prop} {p : Parameter} {projection : Projection}
    {constant : Value}
    (resolved : projection.type.isRecord = true ∨ ∃ m, reads m ∧ projection = .ofMember p m)
    (suits : constant.suits projection.type.base = true) :
    ∃ m, reads m ∧ projection = .ofMember p m := by
  rcases resolved with isRecord | member
  · cases type : projection.type <;> simp [type, DataType.isRecord] at isRecord
    simp [type, DataType.base, Value.suits] at suits
  · exact member

/-- The body of a filter that is not dropped is a condition on a member of the shared parameter. The
    results on evaluation, replacement and closedness of compiled filters start from here and need
    no more of the compiler. -/
theorem body_of_ready {type : RecordType} {id : Nat} {filter : Filter} {predicate : Predicate}
    (compiled : ofFilter (Projections.ofType type id) filter = .ok (ready predicate)) :
    predicate.parameter = Projections.sharedParameter type id ∧
      Expr.FilterBody type.IsReadable predicate.parameter predicate.body := by
  obtain ⟨projection, constant, body, resolved, read, applied, rfl⟩ := ofParts_eq_ready compiled
  have suits := Literal.suits_of_constantFor read
  obtain ⟨m, readable, rfl⟩ := member_of_constant (Projections.resolve_eq_some resolved) suits
  exact ⟨rfl, Comparison.body_of_condition readable suits applied⟩

end Compiled

namespace Predicate

open RecordQuery.Expr (FilterBody)

/-- The predicates that are built from compiled filters of a kind and from constants. Negation and
    junction are those of predicates, so the parameter of a junction is that of its first part. -/
inductive FromFilters (type : RecordType) (admits : Filter → Prop) : Predicate → Prop
  | filter {id : Nat} {filter : Filter} {predicate : Predicate} (admitted : admits filter)
      (compiled : Compiled.ofFilter (Projections.ofType type id) filter = .ok (.ready predicate)) :
      FromFilters type admits predicate
  | constant (parameter : Parameter) (holds : Bool) :
      FromFilters type admits (.constant parameter holds)
  | and {first second : Predicate} (left : FromFilters type admits first)
      (right : FromFilters type admits second) : FromFilters type admits (first.and second)
  | or {first second : Predicate} (left : FromFilters type admits first)
      (right : FromFilters type admits second) : FromFilters type admits (first.or second)
  | not {predicate : Predicate} (operand : FromFilters type admits predicate) :
      FromFilters type admits predicate.not

variable {type : RecordType} {admits : Filter → Prop} {reads : Member → Prop}

/-- Whatever member the filters resolve to, such predicates have bodies of conditions on these
    members. The induction follows the construction. A compiled filter is a single condition, and
    the second part of a junction is moved to the parameter of the first. -/
theorem FromFilters.body {predicate : Predicate}
    (resolves : ∀ id filter projection, admits filter →
      (Projections.ofType type id).resolve? filter.property? = some projection →
      projection.type.isRecord = true ∨
        ∃ m, reads m ∧ projection = .ofMember (Projections.sharedParameter type id) m)
    (built : FromFilters type admits predicate) :
    FilterBody reads predicate.parameter predicate.body := by
  induction built with
  | @filter id filter predicate admitted compiled =>
    obtain ⟨projection, constant, body, resolved, read, applied, rfl⟩ :=
      Compiled.ofParts_eq_ready compiled
    have suits := Literal.suits_of_constantFor read
    obtain ⟨m, member, rfl⟩ :=
      Compiled.member_of_constant (resolves id filter projection admitted resolved) suits
    exact Comparison.body_of_condition member suits applied
  | constant parameter holds => exact .constant holds
  | and _ _ leftHypothesis rightHypothesis =>
    exact .and leftHypothesis rightHypothesis.substitute
  | or _ _ leftHypothesis rightHypothesis =>
    exact .or leftHypothesis rightHypothesis.substitute
  | not _ inductionHypothesis => exact .not inductionHypothesis

/-- Filters on named properties have bodies of conditions on columns. The record itself is out of
    the question here, since only filters without a name lead to it. -/
theorem FromFilters.body_of_named {predicate : Predicate}
    (built : FromFilters type (fun filter => filter.property?.isSome = true) predicate) :
    FilterBody type.IsColumn predicate.parameter predicate.body := by
  refine built.body fun id filter projection named resolved => .inr ?_
  obtain ⟨name, isNamed⟩ := Option.isSome_iff_exists.mp named
  obtain ⟨given, -, trimmed⟩ := Option.bind_eq_some_iff.mp isNamed
  have found : (Projections.ofType type id).get? name = some projection := by
    simpa [Projections.resolve?, isNamed, Text.nonBlank_of_nonBlank trimmed] using resolved
  obtain ⟨m, column, -, rfl⟩ := Projections.get?_eq_some found
  exact ⟨m, column, rfl⟩

end Predicate

end RecordQuery
