import RecordQuery.Proofs.Compiled.Evaluation
import RecordQuery.Proofs.Predicate.Connectives
import RecordQuery.Proofs.Query.Rows
import RecordQuery.Rule

/-!
# Combinations of compiled predicates

Compiled filters and constants are the leaves of combinations by and, or and not, of predicates or
of rules. On a record that conforms to its type no leaf fails, so no combination fails either, and
its truth is the same combination of the truths of its leaves. A combination and its negation then
divide all rows of such records between them.
-/

namespace RecordQuery

/-- A nesting of connectives over leaves. -/
inductive Combination (α : Type) where
  | leaf (leaf : α)
  | and (left right : Combination α)
  | or (left right : Combination α)
  | not (operand : Combination α)

namespace Combination

variable {α : Type}

/-- The leaves, from the left to the right. -/
def leaves : Combination α → List α
  | leaf a => [a]
  | and left right | or left right => left.leaves ++ right.leaves
  | not operand => operand.leaves

/-- The truth of a combination of leaves with these truths. -/
def holds (truth : α → Bool) : Combination α → Bool
  | leaf a => truth a
  | and left right => left.holds truth && right.holds truth
  | or left right => left.holds truth || right.holds truth
  | not operand => !operand.holds truth

/-- The predicate that combines predicates. -/
def predicate : Combination Predicate → Predicate
  | leaf predicate => predicate
  | and left right => left.predicate.and right.predicate
  | or left right => left.predicate.or right.predicate
  | not operand => operand.predicate.not

/-- The rule that combines the rules of predicates. -/
def rule : Combination Predicate → Rule
  | leaf predicate => ⟨predicate⟩
  | and left right => left.rule.and right.rule
  | or left right => left.rule.or right.rule
  | not operand => operand.rule.not

/-- Combining rules combines their predicates. So whatever is known of a combined predicate holds of
    the combined rule. -/
theorem predicate_rule (combination : Combination Predicate) :
    combination.rule.predicate = combination.predicate := by
  induction combination with
  | leaf predicate => rfl
  | and left right leftHypothesis rightHypothesis =>
    rw [rule, Rule.and, leftHypothesis, rightHypothesis, predicate]
  | or left right leftHypothesis rightHypothesis =>
    rw [rule, Rule.or, leftHypothesis, rightHypothesis, predicate]
  | not operand inductionHypothesis => rw [rule, Rule.not, inductionHypothesis, predicate]

end Combination

namespace Predicate

variable {type : RecordType} {predicate : Predicate} {record : Record}

/-- The predicates of filters that are not dropped, and the constant ones. -/
def IsElementary (type : RecordType) (predicate : Predicate) : Prop :=
  (∃ id filter, Compiled.ofFilter (.ofType type id) filter = .ok (.ready predicate)) ∨
    ∃ parameter holds, predicate = .constant parameter holds

/-- A body of conditions on readable members reads the parameter of its predicate only. -/
theorem closed_of_body
    (body : Expr.FilterBody type.IsReadable predicate.parameter predicate.body) :
    predicate.Closed :=
  fun _ occurs => body.parameters occurs

/-- A predicate with a body of conditions on readable members holds of a conforming record or not.
    The default that satisfaction has for failures is never used then. -/
theorem evaluate_of_body
    (body : Expr.FilterBody type.IsReadable predicate.parameter predicate.body)
    (conforms : type.ConformsInFull record) :
    predicate.evaluate record = .ok (predicate.isSatisfiedBy record) := by
  obtain ⟨holds, evaluated⟩ := body.evaluates fun m readable => by
    obtain ⟨value, read, admits⟩ := conforms.reads readable
    exact ⟨value, Expr.valueIn_member_sole.mpr read, admits⟩
  have truth : predicate.evaluate record = .ok holds := by
    rw [evaluate_eq_truthIn]
    exact Expr.truthIn_of_valueIn evaluated
  rw [isSatisfiedBy, truth]

end Predicate

namespace Combination

open RecordQuery.Predicate (FromFilters)

variable {type : RecordType} {combination : Combination Predicate} {record : Record}

/-- A combination of elementary predicates is built from compiled filters and constants. The leaves
    may have been compiled with different identities of the shared parameter. -/
theorem fromFilters (elementary : ∀ leaf ∈ combination.leaves, leaf.IsElementary type) :
    FromFilters type (fun _ => True) combination.predicate := by
  induction combination with
  | leaf predicate =>
    rcases elementary predicate List.mem_cons_self with ⟨id, filter, compiled⟩ | ⟨p, holds, rfl⟩
    · exact .filter trivial compiled
    · exact .constant p holds
  | and left right leftHypothesis rightHypothesis =>
    obtain ⟨first, second⟩ := List.forall_mem_append.mp elementary
    exact .and (leftHypothesis first) (rightHypothesis second)
  | or left right leftHypothesis rightHypothesis =>
    obtain ⟨first, second⟩ := List.forall_mem_append.mp elementary
    exact .or (leftHypothesis first) (rightHypothesis second)
  | not operand inductionHypothesis => exact .not (inductionHypothesis elementary)

/-- A combination of elementary predicates has a body of conditions on readable members. -/
theorem body (elementary : ∀ leaf ∈ combination.leaves, leaf.IsElementary type) :
    Expr.FilterBody type.IsReadable combination.predicate.parameter combination.predicate.body :=
  (fromFilters elementary).body fun _ _ _ _ resolved => Projections.resolve_eq_some resolved

/-- On a conforming record the truth of a combination is that of its leaves, combined. The second
    part of a junction is evaluated after it was moved to the parameter of the first, which makes no
    difference since it is closed. -/
theorem evaluate_eq_holds (elementary : ∀ leaf ∈ combination.leaves, leaf.IsElementary type)
    (conforms : type.ConformsInFull record) : combination.predicate.evaluate record =
      .ok (combination.holds fun leaf => leaf.isSatisfiedBy record) := by
  induction combination with
  | leaf predicate => exact Predicate.evaluate_of_body (body elementary) conforms
  | and left right leftHypothesis rightHypothesis =>
    obtain ⟨first, second⟩ := List.forall_mem_append.mp elementary
    have closed := Predicate.closed_of_body (body second)
    rw [predicate, Predicate.evaluate_and closed, leftHypothesis first, rightHypothesis second]
    cases truth : left.holds fun leaf => leaf.isSatisfiedBy record <;> simp [holds, truth]
  | or left right leftHypothesis rightHypothesis =>
    obtain ⟨first, second⟩ := List.forall_mem_append.mp elementary
    have closed := Predicate.closed_of_body (body second)
    rw [predicate, Predicate.evaluate_or closed, leftHypothesis first, rightHypothesis second]
    cases truth : left.holds fun leaf => leaf.isSatisfiedBy record <;> simp [holds, truth]
  | not operand inductionHypothesis =>
    rw [predicate, Predicate.evaluate_not, inductionHypothesis elementary, holds, Bool.not_not]

/-- A conforming record satisfies a combination of rules when the truths of the leaves, combined,
    say so. -/
theorem isSatisfiedBy_eq_holds
    (elementary : ∀ leaf ∈ combination.leaves, leaf.IsElementary type)
    (conforms : type.ConformsInFull record) : combination.rule.isSatisfiedBy record =
      combination.holds fun leaf => leaf.isSatisfiedBy record := by
  rw [Rule.isSatisfiedBy, predicate_rule, Predicate.isSatisfiedBy,
    evaluate_eq_holds elementary conforms]

variable {α : Type} {rows : Rows α}

/-- A combination of rules applies to conforming rows, and keeps those that satisfy it. A rule is
    applied through its predicate, and the rows are kept by satisfaction. Both agree since no
    evaluation fails. -/
theorem apply_eq_ok (elementary : ∀ leaf ∈ combination.leaves, leaf.IsElementary type)
    (conforming : ∀ item ∈ rows.items, type.ConformsInFull (rows.view item)) :
    combination.rule.apply rows = .ok { rows with
      items := rows.items.filter fun item => combination.rule.isSatisfiedBy (rows.view item) } := by
  refine Rows.source_filter_eq_ok.mpr ⟨fun item member => ?_, rfl⟩
  rw [predicate_rule]
  exact ⟨_, evaluate_eq_holds elementary (conforming item member)⟩

/-- Combinations of compiled filters and constants never fail on records that conform to their type,
    and combine the truths of their leaves. A combination of rules and its negation apply to all
    rows of such records, and part them by whether they satisfy the combination.

    Proof: evaluation of a combination is settled by induction on it, with closed bodies at the
    junctions. Applying a rule filters by its predicate, so a rule and its negation keep what
    satisfies the one and what does not, which are the two parts of a partition. -/
theorem total_and_boolean (elementary : ∀ leaf ∈ combination.leaves, leaf.IsElementary type) :
    combination.rule.predicate = combination.predicate ∧
    (∀ record, type.ConformsInFull record →
      (∀ leaf ∈ combination.leaves, leaf.evaluate record = .ok (leaf.isSatisfiedBy record)) ∧
      combination.predicate.evaluate record =
        .ok (combination.holds fun leaf => leaf.isSatisfiedBy record)) ∧
    ∀ {α : Type} (rows : Rows α), (∀ item ∈ rows.items, type.ConformsInFull (rows.view item)) →
      ∃ kept others,
        combination.rule.apply rows = .ok { rows with items := kept } ∧
        combination.rule.not.apply rows = .ok { rows with items := others } ∧
        rows.items.partition (fun item => combination.rule.isSatisfiedBy (rows.view item)) =
          (kept, others) := by
  refine ⟨combination.predicate_rule, fun record conforms => ⟨fun leaf member => ?_,
    evaluate_eq_holds elementary conforms⟩, fun rows conforming => ?_⟩
  · have single : ∀ other ∈ (Combination.leaf leaf).leaves, other.IsElementary type := by
      intro other only
      rw [List.mem_singleton.mp only]
      exact elementary leaf member
    exact evaluate_eq_holds single conforms
  · have negated : ∀ leaf ∈ combination.not.leaves, leaf.IsElementary type := elementary
    have opposite : ∀ item ∈ rows.items, combination.not.rule.isSatisfiedBy (rows.view item) =
        !combination.rule.isSatisfiedBy (rows.view item) := by
      intro item member
      rw [isSatisfiedBy_eq_holds negated (conforming item member),
        isSatisfiedBy_eq_holds elementary (conforming item member), holds]
    refine ⟨_, _, apply_eq_ok elementary conforming, apply_eq_ok negated conforming, ?_⟩
    rw [List.partition_eq_filter_filter, List.filter_congr opposite]
    rfl

/-- A rule on a nullable column and on the records' own text, and its negation, part three records,
    two of which have no value in the column. The missing counts satisfy the negation of a
    comparison, as two truth values demand. -/
theorem total_and_boolean_missing :
    let count : Property := ⟨"n", .nullable (.number (.integer .i32))⟩
    let type : RecordType := ⟨"R", .ok [count], some .text⟩
    let below : Filter := ⟨some "n", .lessThan, .number (.integer .i32 5 (by decide))⟩
    let titled : Filter := ⟨none, .startsWith, .text "a"⟩
    let large : Record := ⟨"R", [.number (.integer .i32 7 (by decide))], some (.text "ab")⟩
    let missing : Record := ⟨"R", [.null], some (.text "a")⟩
    let other : Record := ⟨"R", [.null], some (.text "b")⟩
    let rows : Rows Record := ⟨id, [large, other, missing], []⟩
    ∃ first second, Rule.ofFilter (.ofType type 0) below = .ok first ∧
      Rule.ofFilter (.ofType type 1) titled = .ok second ∧
      (first.not.and second).apply rows = .ok { rows with items := [large, missing] } ∧
      (first.not.and second).not.apply rows = .ok { rows with items := [other] } := by
  intro count type below titled large missing other rows
  let p := Projections.sharedParameter type 0
  let q := Projections.sharedParameter type 1
  let first : Predicate := ⟨p, .relate .lt (.member (.parameter p) (.ofProperty type 0 count))
    (.ofValue (.number (.integer .i32 5 (by decide))))⟩
  let second : Predicate := ⟨q, .call .startsWith
    [.member (.parameter q) (.ofSelf type .text), .ofValue (.text "a")]⟩
  refine ⟨⟨first⟩, ⟨second⟩, rfl, rfl, ?_⟩
  let combination : Combination Predicate := and (not (leaf first)) (leaf second)
  have elementary : ∀ leaf ∈ combination.leaves, leaf.IsElementary type := by
    intro leaf member
    rcases List.mem_cons.mp member with rfl | member
    · exact .inl ⟨0, below, rfl⟩
    · obtain rfl := List.mem_singleton.mp member
      exact .inl ⟨1, titled, rfl⟩
  have conforming : ∀ item ∈ rows.items, type.ConformsInFull (rows.view item) := by
    intro item member
    have self (value : Value) (typed : value.type? = some .text) (record : Record)
        (given : record.self = some value) : ∀ valueType, type.selfType = some valueType →
          ∃ value, record.self = some value ∧ valueType.Admits value := by
      rintro valueType ⟨⟩
      exact ⟨value, given, .inl typed⟩
    simp only [rows, List.mem_cons, List.not_mem_nil, or_false] at member
    rcases member with rfl | rfl | rfl
    · exact ⟨⟨rfl, .cons (.inl rfl) .nil⟩, self _ rfl _ rfl⟩
    · exact ⟨⟨rfl, .cons (.inr ⟨rfl, rfl⟩) .nil⟩, self _ rfl _ rfl⟩
    · exact ⟨⟨rfl, .cons (.inr ⟨rfl, rfl⟩) .nil⟩, self _ rfl _ rfl⟩
  obtain ⟨-, -, parts⟩ := total_and_boolean elementary
  obtain ⟨kept, others, applied, opposite, parted⟩ := parts rows conforming
  have known : (kept, others) = ([large, missing], [other]) := parted.symm.trans rfl
  cases known
  exact ⟨applied, opposite⟩

end Combination

end RecordQuery
