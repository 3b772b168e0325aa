import RecordQuery.Proofs.Expr.TypedEvaluation
import RecordQuery.Proofs.Predicate.Connectives
import RecordQuery.Proofs.Record.Columns

/-!
# Predicates of accepted lambdas

A lambda is accepted for a predicate by its parameter and by the type of its body. What the body
asks of its operands is not looked at, so an accepted predicate may fail on a record that it can
read: where it compares a number with a text, takes a record for a value or negates a date. Typed
conditions are the bodies that ask for no such thing, and they never fail. An accepted predicate
evaluates on a record exactly when its body is a typed condition by what it reads there.
-/

namespace RecordQuery.Predicate

variable {type : RecordType} {lambda : Lambda} {predicate : Predicate} {record : Record}

/-- The predicate of an accepted lambda has its body. -/
theorem body_of_accepted (accepted : ofLambda type.dataType lambda = .ok predicate) :
    predicate.body = lambda.body := by
  obtain ⟨p, -, checked⟩ := bind_eq_ok.mp accepted
  obtain ⟨-, made⟩ := check_eq_ok.mp checked
  cases made
  rfl

/-- Whether a lambda can read a record: each member that it reads from its parameter has a value
    there that its declared type admits. -/
def CanRead (p : Parameter) (body : Expr) (record : Record) : Prop :=
  ∀ target m, .member target m ∈ body.parts → target.isRecord p = true →
    ∃ value, m.read? record = some value ∧ m.type.Admits value

/-- The predicate of an accepted lambda never fails on records that it can read if its body is a
    typed condition by the declared types. Whatever its body is, it evaluates on such a record
    exactly when the body is a typed condition by the types of what it reads there, as far as
    evaluation reaches it.

    Proof: the typing of expressions is sound and complete for evaluation, by two inductions on the
    body. With declared types everything counts and values may be null, which gives the first part;
    with the types of what is read only what evaluation reaches counts, which gives the second. -/
theorem evaluates_iff_typed (accepted : ofLambda type.dataType lambda = .ok predicate)
    (readable : CanRead predicate.parameter lambda.body record) :
    (lambda.body.isTypedCondition (.declared predicate.parameter) = true →
      ∃ holds, predicate.evaluate record = .ok holds) ∧
    ((∃ holds, predicate.evaluate record = .ok holds) ↔
      lambda.body.isTypedCondition (.ofRecord predicate.parameter record) = true) := by
  rw [evaluate_eq_truthIn, body_of_accepted accepted]
  refine ⟨fun typed => ?_, Typing.exists_truthIn_iff fun target m occurs isRecord => ?_⟩
  · have reads : lambda.body.Reads (.declared predicate.parameter) record True := by
      intro target m occurs isRecord
      obtain ⟨value, read, admits⟩ := readable target m occurs isRecord
      exact ⟨value, read, admits.imp_right fun ⟨null, _⟩ => ⟨null, trivial⟩⟩
    exact Expr.truthIn_of_isTypedCondition reads (fun _ _ _ => rfl) typed
  · obtain ⟨value, read, -⟩ := readable target m occurs isRecord
    exact ⟨value, read⟩

/-- An accepted lambda may compare a number with a text, and then its predicate fails on a record
    that it can read. The type of the constant is never compared with that of the column when the
    lambda is accepted. -/
theorem accepted_but_incomparable :
    let count : Property := ⟨"n", .number (.integer .i32)⟩
    let type : RecordType := ⟨"R", .ok [count], none⟩
    let p := Projections.sharedParameter type 0
    let lambda : Lambda := ⟨[p], .relate .eq (.member (.parameter p) (.ofProperty type 0 count))
      (.ofValue (.text "a"))⟩
    let five : Value := .number (.integer .i32 5 (by decide))
    let record : Record := ⟨"R", [five], none⟩
    ∃ predicate, ofLambda type.dataType lambda = .ok predicate ∧
      CanRead predicate.parameter lambda.body record ∧
      predicate.evaluate record = .error (.incomparable five (.text "a")) := by
  intro count type p lambda five record
  refine ⟨⟨p, lambda.body⟩, rfl, fun target m occurs _ => ?_, rfl⟩
  have read : Expr.member target m = .member (.parameter p) (.ofProperty type 0 count) := by
    have parts : lambda.body.parts = [lambda.body,
      .member (.parameter p) (.ofProperty type 0 count), .parameter p, .ofValue (.text "a")] := rfl
    rw [parts] at occurs
    rcases occurs with _ | ⟨_, _ | ⟨_, _ | ⟨_, _ | ⟨_, ⟨⟩⟩⟩⟩⟩
    rfl
  cases read
  exact ⟨five, rfl, .inl rfl⟩

/-- Behind a test of the title, a comparison of a number with a text does no harm to records of
    other titles or without a number, and one with a number does none at all. The right side of a
    conjunction is not reached where the left fails to hold. -/
theorem evaluates_apart_from_comparison :
    let title : Property := ⟨"title", .text⟩
    let count : Property := ⟨"n", .nullable (.number (.integer .i32))⟩
    let type : RecordType := ⟨"R", .ok [title, count], none⟩
    let p := Projections.sharedParameter type 0
    let titled : Expr := .binary (.relation .eq)
      (.member (.parameter p) (.ofProperty type 0 title)) (.ofValue (.text "x"))
    let below (limit : Value) : Lambda := ⟨[p], .binary .and titled (.binary (.relation .lt)
      (.member (.parameter p) (.ofProperty type 1 count)) (.ofValue limit))⟩
    let five : Value := .number (.integer .i32 5 (by decide))
    ∃ first second, ofLambda type.dataType (below (.text "a")) = .ok first ∧
      ofLambda type.dataType (below five) = .ok second ∧
      (∃ holds, first.evaluate ⟨"R", [.text "y", five], none⟩ = .ok holds) ∧
      (∃ holds, first.evaluate ⟨"R", [.text "x", .null], none⟩ = .ok holds) ∧
      (¬ ∃ holds, first.evaluate ⟨"R", [.text "x", five], none⟩ = .ok holds) ∧
      ∃ holds, second.evaluate ⟨"R", [.text "x", five], none⟩ = .ok holds := by
  intro title count type p titled below five
  have readable (limit : Value) (name : String) (value : Value)
      (given : count.type.Admits value) :
      CanRead p (below limit).body ⟨"R", [.text name, value], none⟩ := by
    intro target m occurs _
    have parts : (below limit).body.parts = [(below limit).body, titled,
      .member (.parameter p) (.ofProperty type 0 title), .parameter p, .ofValue (.text "x"),
      .binary (.relation .lt) (.member (.parameter p) (.ofProperty type 1 count)) (.ofValue limit),
      .member (.parameter p) (.ofProperty type 1 count), .parameter p, .ofValue limit] := rfl
    rw [parts] at occurs
    simp only [below, titled, Expr.ofValue, List.mem_cons, List.not_mem_nil, reduceCtorEq,
      Expr.member.injEq, false_or, or_false] at occurs
    rcases occurs with ⟨-, rfl⟩ | ⟨-, rfl⟩
    · exact ⟨.text name, rfl, .inl rfl⟩
    · exact ⟨value, rfl, given⟩
  let first : Predicate := ⟨p, (below (.text "a")).body⟩
  let second : Predicate := ⟨p, (below five).body⟩
  have firstAccepted : ofLambda type.dataType (below (.text "a")) = .ok first := rfl
  have secondAccepted : ofLambda type.dataType (below five) = .ok second := rfl
  refine ⟨first, second, firstAccepted, secondAccepted, ?_, ?_, ?_, ?_⟩
  · exact (evaluates_iff_typed firstAccepted (readable _ _ _ (by decide))).2.mpr rfl
  · exact (evaluates_iff_typed firstAccepted (readable _ _ _ (by decide))).2.mpr rfl
  · intro evaluated
    have typed :=
      (evaluates_iff_typed firstAccepted (readable _ _ _ (by decide))).2.mp evaluated
    cases typed
  · exact (evaluates_iff_typed secondAccepted (readable _ _ _ (by decide))).1 rfl

end RecordQuery.Predicate
