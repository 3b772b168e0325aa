import RecordQuery.Compiled
import RecordQuery.Proofs.Outcome

/-!
# Errors and drops

A filter has two ways to give no predicate. A literal that cannot be read for the base type of the
property is an error, and the same one for every comparison, since the literal is read before the
comparison is looked at. A literal that is read gives a predicate or a drop, and which of them the
base type, the form of the literal and the comparison say, not the literal itself. Where the name
leads to nothing, no literal is read at all.
-/

namespace RecordQuery

/-- What a filter without an error comes to, apart from its predicate or the reason's details. -/
inductive Verdict where
  | ready
  | unresolved
  | unsupported
  | mismatch
  deriving DecidableEq

/-- The verdict on a filter. -/
def Compiled.verdict : Compiled → Verdict
  | ready _ => .ready
  | dropped (.unresolved _) => .unresolved
  | dropped (.unsupported ..) => .unsupported
  | dropped (.mismatch ..) => .mismatch

namespace Literal

/-- The comparisons between properties of a base type and literals of one form, if the two compare
    at all. Nothing else about a literal decides this: neither its value nor the kind of a
    number. -/
def comparisons? : DataType → Literal → Option (Comparison → Bool)
  | .text, text _ => some Comparison.forTexts
  | .bool, bool _ | .bool, text _ => some Comparison.forBools
  | .number _, number _ | .number _, text _ => some Comparison.forOrdered
  | .date, date _ | .date, text _ => some Comparison.forOrdered
  | .number _, ints _ | .text, texts _ => some (· == .isIn)
  | .date, ints _ => some (· == .monthIsIn)
  | _, _ => none

/-- The verdict on a literal that can be read for a base type. -/
def verdict (base : DataType) (literal : Literal) (comparison : Comparison) : Verdict :=
  match comparisons? base literal with
  | none => .mismatch
  | some applies => if applies comparison then .ready else .unsupported

/-- Literals of one form have the same comparisons. -/
theorem comparisons_of_form {literal other : Literal} (sameForm : literal.form = other.form)
    (base : DataType) : comparisons? base literal = comparisons? base other := by
  cases literal <;> cases other <;> simp [form] at sameForm <;> cases base <;> rfl

/-- Literals of one form have the same verdicts. -/
theorem verdict_of_form {literal other : Literal} (sameForm : literal.form = other.form)
    (base : DataType) : verdict base literal = verdict base other := by
  funext comparison
  rw [verdict, verdict, comparisons_of_form sameForm]

end Literal

namespace Comparison

variable {comparison : Comparison} {subject : Expr}

/-- A text and a constant text have the comparisons for texts. -/
theorem isSome_textCondition (comparison : Comparison) (subject constant : Expr) :
    (comparison.textCondition? subject constant).isSome = comparison.forTexts := by
  cases comparison <;> rfl

/-- A truth value and a constant one have the comparisons for truth values. -/
theorem isSome_boolCondition (comparison : Comparison) (subject constant : Expr) :
    (comparison.boolCondition? subject constant).isSome = comparison.forBools := by
  cases comparison <;> rfl

/-- A number or date and a constant one have the comparisons that are relations. -/
theorem isSome_orderedCondition (comparison : Comparison) (subject constant : Expr) :
    (comparison.orderedCondition? subject constant).isSome = comparison.forOrdered :=
  Option.isSome_map

/-- Dates are asked for their month, and all else for itself. -/
theorem isSome_setCondition (comparison : Comparison) (subject set : Expr) :
    (comparison.setCondition? subject set).isSome =
      if subject.type.isDate then comparison == .monthIsIn else comparison == .isIn := by
  unfold setCondition?
  split <;> cases comparison <;> rfl

end Comparison

namespace Literal

variable {base : DataType} {literal : Literal}

/-- A literal that is read for no constant compares with nothing of the base type. A filter with
    such a literal is a mismatch, whatever its comparison is. -/
theorem comparisons_of_unread (read : literal.constantFor? base = .ok none) :
    comparisons? base literal = none := by
  unfold constantFor? at read
  split at read
  case h_3 | h_4 | h_5 | h_7 =>
    obtain ⟨value, -, absurd⟩ := change_eq_ok.mp read
    cases absurd
  case h_11 => cases base <;> cases literal <;> simp_all [comparisons?]
  all_goals cases read

/-- A literal that is read for a constant has exactly the comparisons by which the constant compares
    with a subject of the base type. The subject may be anything of the type, since a condition asks
    for no more of it. -/
theorem comparisons_of_read {constant : Value}
    (read : literal.constantFor? base = .ok (some constant)) :
    ∃ applies, comparisons? base literal = some applies ∧
      ∀ (comparison : Comparison) (subject : Expr), subject.type.base = base →
        (comparison.condition? subject constant).isSome = applies comparison := by
  have texts (content : String) (comparison : Comparison) (subject : Expr) :
      (comparison.condition? subject (.text content)).isSome = comparison.forTexts :=
    comparison.isSome_textCondition subject _
  have bools (truth : Bool) (comparison : Comparison) (subject : Expr) :
      (comparison.condition? subject (.bool truth)).isSome = comparison.forBools :=
    comparison.isSome_boolCondition subject _
  have numbers (number : Number) (comparison : Comparison) (subject : Expr) :
      (comparison.condition? subject (.number number)).isSome = comparison.forOrdered :=
    comparison.isSome_orderedCondition subject _
  have dates (date : DateTime) (comparison : Comparison) (subject : Expr) :
      (comparison.condition? subject (.date date)).isSome = comparison.forOrdered :=
    comparison.isSome_orderedCondition subject _
  have sets (set : Value) (isSet : (∃ items, set = .ints items) ∨ ∃ items, set = .texts items)
      (comparison : Comparison) (subject : Expr) : (comparison.condition? subject set).isSome =
        if subject.type.base = .date then comparison == .monthIsIn else comparison == .isIn := by
    have split := comparison.isSome_setCondition subject (.ofValue set)
    simp only [DataType.isDate, beq_iff_eq] at split
    rcases isSet with ⟨items, rfl⟩ | ⟨items, rfl⟩ <;> exact split
  unfold constantFor? at read
  split at read
  case h_11 => cases read
  case h_3 | h_4 | h_5 | h_7 =>
    -- The constant is what the literal is read as.
    obtain ⟨value, -, same⟩ := change_eq_ok.mp read
    cases same
    exact ⟨_, rfl, fun comparison subject _ => by simp only [bools, numbers, dates]⟩
  case h_8 | h_9 | h_10 =>
    cases read
    refine ⟨_, rfl, fun comparison subject typed => ?_⟩
    rw [sets _ (by simp)]
    simp [typed]
  all_goals
    cases read
    exact ⟨_, rfl, fun comparison subject _ => by simp only [texts, bools, dates]⟩

end Literal

namespace Compiled

variable {projections : Projections} {projection : Projection} {property : Option String}
  {comparison : Comparison} {literal : Literal}

/-- A literal that is read for the base type of a property has its verdict for this type. The case
    that the literal is read for no constant is included, and is a mismatch for each comparison. -/
theorem verdict_of_read {constant? : Option Value}
    (read : literal.constantFor? projection.type.base = .ok constant?) :
    ∃ compiled, ofProjection projection comparison literal = .ok compiled ∧
      compiled.verdict = literal.verdict projection.type.base comparison := by
  cases constant? with
  | none =>
    refine ⟨dropped (.mismatch literal.form projection.type), bind_eq_ok.mpr ⟨none, read, rfl⟩, ?_⟩
    rw [Literal.verdict, Literal.comparisons_of_unread read, verdict]
  | some constant =>
    obtain ⟨applies, known, decided⟩ := Literal.comparisons_of_read read
    have present := decided comparison projection.body rfl
    cases condition : comparison.condition? projection.body constant with
    | none =>
      rw [condition, Option.isSome_none] at present
      refine ⟨dropped (.unsupported comparison projection.type), ?_, ?_⟩
      · refine bind_eq_ok.mpr ⟨some constant, read, ?_⟩
        dsimp only
        rw [condition]
        rfl
      · simp [Literal.verdict, known, ← present, verdict]
    | some body =>
      rw [condition, Option.isSome_some] at present
      refine ⟨ready ⟨projection.parameter, body⟩, ?_, ?_⟩
      · refine bind_eq_ok.mpr ⟨some constant, read, ?_⟩
        dsimp only
        rw [condition]
        rfl
      · simp [Literal.verdict, known, ← present, verdict]

/-- A literal is an error for every comparison, the same one for all of them, or it is read and has
    its verdict for each. The literal is read before the comparison is looked at, so no comparison
    can avert its error. -/
theorem error_or_verdict (projection : Projection) (literal : Literal) :
    (∃ error, ∀ comparison, ofProjection projection comparison literal = .error error) ∨
      ∀ comparison, ∃ compiled, ofProjection projection comparison literal = .ok compiled ∧
        compiled.verdict = literal.verdict projection.type.base comparison := by
  cases read : literal.constantFor? projection.type.base with
  | error error =>
    refine .inl ⟨error, fun comparison => ?_⟩
    rw [ofProjection, read]
    rfl
  | ok constant? => exact .inr fun comparison => verdict_of_read read

/-- What a literal comes to without an error is its verdict. It depends on the property by its base
    type only. -/
theorem verdict_of_ok {compiled : Compiled}
    (outcome : ofProjection projection comparison literal = .ok compiled) :
    compiled.verdict = literal.verdict projection.type.base comparison := by
  rcases error_or_verdict projection literal with ⟨error, failed⟩ | each
  · rw [failed comparison] at outcome
    cases outcome
  · obtain ⟨other, same, verdict⟩ := each comparison
    cases outcome.symm.trans same
    exact verdict

/-- A name that leads to nothing drops the filter for this reason, and no literal is read. -/
theorem ofParts_of_unresolved (unresolved : projections.resolve? property = none)
    (comparison : Comparison) (literal : Literal) :
    ofParts projections property comparison literal =
      .ok (dropped (.unresolved (property.getD ""))) := by
  rw [ofParts, unresolved]

/-- A name that leads to a projection leaves the filter to this. -/
theorem ofParts_of_resolved (resolved : projections.resolve? property = some projection)
    (comparison : Comparison) (literal : Literal) :
    ofParts projections property comparison literal =
      ofProjection projection comparison literal := by
  rw [ofParts, resolved]

/-- Errors come from literals, and drops from types. For every record type, property and literal,
    compiling fails with one error for all comparisons or for none of them. Of two literals of one
    form that do not fail, read for properties of one base type, each comparison comes to the same:
    to a predicate, to an unsupported comparison or to a mismatch. A name that leads to nothing
    drops the filter, whatever its literal.

    Proof: a literal is read for a base type before any comparison is looked at, which gives the
    second part. Once it is read, the verdict is a function of the base type, the form of the
    literal and the comparison, so two properties or literals that share these have the same one. -/
theorem errors_from_literals_and_drops_from_types (type : RecordType) (id : Nat)
    (property : Option String) :
    ((Projections.ofType type id).resolve? property = none → ∀ comparison literal,
      ofParts (.ofType type id) property comparison literal =
        .ok (dropped (.unresolved (property.getD "")))) ∧
    (∀ literal,
      (∃ error, ∀ comparison,
        ofParts (.ofType type id) property comparison literal = .error error) ∨
      ∀ comparison, ∃ compiled,
        ofParts (.ofType type id) property comparison literal = .ok compiled) ∧
    ∀ otherType otherId otherProperty projection otherProjection,
      (Projections.ofType type id).resolve? property = some projection →
      (Projections.ofType otherType otherId).resolve? otherProperty = some otherProjection →
      projection.type.base = otherProjection.type.base →
      ∀ literal other, literal.form = other.form → ∀ comparison compiled otherCompiled,
        ofParts (.ofType type id) property comparison literal = .ok compiled →
        ofParts (.ofType otherType otherId) otherProperty comparison other = .ok otherCompiled →
        compiled.verdict = otherCompiled.verdict := by
  refine ⟨ofParts_of_unresolved, fun literal => ?_, ?_⟩
  · cases resolved : (Projections.ofType type id).resolve? property with
    | none => exact .inr fun comparison => ⟨_, ofParts_of_unresolved resolved comparison literal⟩
    | some projection =>
      simp only [ofParts_of_resolved resolved]
      refine (error_or_verdict projection literal).imp_right fun each comparison => ?_
      obtain ⟨compiled, outcome, -⟩ := each comparison
      exact ⟨compiled, outcome⟩
  · intro otherType otherId otherProperty projection otherProjection resolved otherResolved sameBase
      literal other sameForm comparison compiled otherCompiled outcome otherOutcome
    rw [ofParts_of_resolved resolved] at outcome
    rw [ofParts_of_resolved otherResolved] at otherOutcome
    rw [verdict_of_ok outcome, verdict_of_ok otherOutcome, sameBase,
      Literal.verdict_of_form sameForm]

/-- Events with seats, and spare ones that may be missing in two ways. -/
def seated : RecordType :=
  ⟨"Event", .ok [⟨"seats", .number (.integer .u16)⟩,
    ⟨"spare", .nullable (.nullable (.number (.integer .u16)))⟩], none⟩

/-- A text that is no number is an error for all comparisons of seats, but not for a venue that no
    event has; numbers in text are dropped alike for seats and spare ones. -/
theorem errors_and_drops_of_seats :
    (∀ comparison, ofParts (.ofType seated 0) (some "venue") comparison (.text "many") =
        .ok (dropped (.unresolved "venue"))) ∧
      (∃ error, ∀ comparison,
        ofParts (.ofType seated 0) (some "seats") comparison (.text "many") = .error error) ∧
      ∃ compiled otherCompiled,
        ofParts (.ofType seated 0) (some "seats") .contains (.text "5") = .ok compiled ∧
        ofParts (.ofType seated 0) (some "spare") .contains (.text " 7e1") = .ok otherCompiled ∧
        compiled.verdict = .unsupported ∧ compiled.verdict = otherCompiled.verdict := by
  have seats : (Projections.ofType seated 0).resolve? (some "seats") =
      some (.ofMember (Projections.sharedParameter seated 0)
        ⟨"Event", "seats", .number (.integer .u16), .position 0⟩) := rfl
  have spare : (Projections.ofType seated 0).resolve? (some "spare") =
      some (.ofMember (Projections.sharedParameter seated 0)
        ⟨"Event", "spare", .nullable (.nullable (.number (.integer .u16))), .position 1⟩) := rfl
  have unread : ofParts (.ofType seated 0) (some "seats") .equals (.text "many") =
      .error ⟨"many", .number .decimal⟩ := rfl
  obtain ⟨unresolved, -, -⟩ := errors_from_literals_and_drops_from_types seated 0 (some "venue")
  obtain ⟨-, errors, drops⟩ := errors_from_literals_and_drops_from_types seated 0 (some "seats")
  refine ⟨fun comparison => unresolved rfl comparison _, ?_, _, _, rfl, rfl, rfl,
    drops seated 0 (some "spare") _ _ seats spare rfl (.text "5") (.text " 7e1") rfl .contains
      _ _ rfl rfl⟩
  refine (errors (.text "many")).resolve_right fun each => ?_
  obtain ⟨compiled, outcome⟩ := each .equals
  rw [unread] at outcome
  cases outcome

end Compiled

end RecordQuery
