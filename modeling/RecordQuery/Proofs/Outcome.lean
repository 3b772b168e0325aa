import Mathlib.Data.List.Forall2

/-!
# Outcomes of steps that may fail

A step either fails with an error or succeeds with a result. A chain of steps succeeds exactly
when each of them does, a list of steps when all of its steps do, and renaming the error of a
step changes nothing about its success. A list of steps that fail without an error has results
exactly when none of them fails. Steps that fail on what is wrong with their items alone fail on the
first item with which something is wrong.
-/

namespace RecordQuery

universe u v
variable {ε ε' : Type u} {α β : Type v}

/-- Two steps in a row succeed exactly when the first does and the second does on its result. It
    takes a computation apart at its first step, without a case for the error. -/
theorem bind_eq_ok {step : Except ε α} {next : α → Except ε β} {result : β} :
    (step >>= next) = .ok result ↔ ∃ value, step = .ok value ∧ next value = .ok result := by
  cases step with
  | error cause => simp [bind, Except.bind]
  | ok value => simp [bind, Except.bind]

/-- A step behind a check succeeds exactly when the check passes and the step succeeds. A check has
    no result of its own. -/
theorem check_eq_ok {check : Except ε PUnit} {next : PUnit → Except ε β} {result : β} :
    (check >>= next) = .ok result ↔ check = .ok ⟨⟩ ∧ next ⟨⟩ = .ok result := by
  rw [bind_eq_ok]
  constructor
  · rintro ⟨⟨⟩, passed, done⟩
    exact ⟨passed, done⟩
  · rintro ⟨passed, done⟩
    exact ⟨⟨⟩, passed, done⟩

/-- The outcome of a pure computation is its value. -/
theorem pure_eq_ok {value result : α} :
    (pure value : Except ε α) = .ok result ↔ value = result := by
  simp [pure, Except.pure]

/-- A step whose result is only changed succeeds exactly when the step does. -/
theorem change_eq_ok {step : Except ε α} {change : α → β} {result : β} :
    (do return change (← step)) = .ok result ↔
      ∃ value, step = .ok value ∧ result = change value := by
  rw [bind_eq_ok]
  exact exists_congr fun value => and_congr_right fun _ => pure_eq_ok.trans eq_comm

/-- Two steps whose results are combined succeed exactly when both do. -/
theorem combine_eq_ok {γ : Type v} {first : Except ε α} {second : Except ε β}
    {combine : α → β → γ} {result : γ} :
    (do let value ← first; return combine value (← second)) = .ok result ↔
      ∃ value other, first = .ok value ∧ second = .ok other ∧ result = combine value other := by
  rw [bind_eq_ok]
  constructor
  · rintro ⟨value, done, rest⟩
    obtain ⟨other, doneOther, combined⟩ := change_eq_ok.mp rest
    exact ⟨value, other, done, doneOther, combined⟩
  · rintro ⟨value, other, done, doneOther, combined⟩
    exact ⟨value, done, change_eq_ok.mpr ⟨other, doneOther, combined⟩⟩

/-- An error under another name is no success. -/
theorem mapError_eq_ok {step : Except ε α} {rename : ε → ε'} {result : α} :
    step.mapError rename = .ok result ↔ step = .ok result := by
  cases step <;> simp [Except.mapError]

/-- The error of two steps in a row is renamed in each of them. The second step fails with its own
    error, not with that of the first. -/
theorem mapError_bind {step : Except ε α} {next : α → Except ε β} {rename : ε → ε'} :
    (step >>= next).mapError rename =
      step.mapError rename >>= fun value => (next value).mapError rename := by
  cases step <;> rfl

/-- A fold over a list with a first item succeeds exactly when the first step does and the fold of
    the rest on its result. It is the step of every induction along a run. -/
theorem foldlM_cons_eq_ok {step : β → α → Except ε β} {item : α} {rest : List α}
    {start result : β} :
    (item :: rest).foldlM step start = .ok result ↔
      ∃ next, step start item = .ok next ∧ rest.foldlM step next = .ok result := by
  rw [List.foldlM_cons, bind_eq_ok]

/-- All steps of a list succeed exactly when each does, with its own result. The induction is on the
    list of steps, and the first failure ends both sides. -/
theorem mapM_eq_ok {step : α → Except ε β} {items : List α} {results : List β} :
    items.mapM step = .ok results ↔
      List.Forall₂ (fun item result => step item = .ok result) items results := by
  induction items generalizing results with
  | nil =>
    rw [List.mapM_nil, pure_eq_ok]
    constructor
    · rintro rfl
      exact .nil
    · rintro ⟨⟩
      rfl
  | cons item rest inductionHypothesis =>
    rw [List.mapM_cons, bind_eq_ok]
    constructor
    · rintro ⟨first, done, remaining⟩
      obtain ⟨others, doneRest, collected⟩ := bind_eq_ok.mp remaining
      rw [pure_eq_ok] at collected
      subst results
      exact .cons done (inductionHypothesis.mp doneRest)
    · rintro (_ | ⟨done, doneRest⟩)
      exact ⟨_, done, bind_eq_ok.mpr ⟨_, inductionHypothesis.mpr doneRest, pure_eq_ok.mpr rfl⟩⟩

/-- All steps of a list have results exactly when each has one. The results are put together by the
    induction. -/
theorem mapM_succeeds_iff {step : α → Except ε β} {items : List α} :
    (∃ results, items.mapM step = .ok results) ↔
      ∀ item ∈ items, ∃ result, step item = .ok result := by
  induction items with
  | nil => simp [List.mapM_nil, pure_eq_ok]
  | cons item rest inductionHypothesis =>
    rw [List.forall_mem_cons, ← inductionHypothesis]
    simp only [List.mapM_cons, bind_eq_ok, pure_eq_ok]
    constructor
    · rintro ⟨_, first, done, others, doneRest, rfl⟩
      exact ⟨⟨first, done⟩, others, doneRest⟩
    · rintro ⟨⟨first, done⟩, others, doneRest⟩
      exact ⟨_, first, done, others, doneRest, rfl⟩

/-- A list of steps of which the possible results are known succeeds exactly when each does. -/
theorem mapM_eq_ok_map {step : α → Except ε β} {outcome : α → β} {items : List α}
    {results : List β} (known : ∀ item value, step item = .ok value → value = outcome item) :
    items.mapM step = .ok results ↔
      (∀ item ∈ items, ∃ value, step item = .ok value) ∧ results = items.map outcome := by
  induction items generalizing results with
  | nil =>
    rw [List.mapM_nil, pure_eq_ok]
    simp [eq_comm]
  | cons item rest inductionHypothesis =>
    rw [List.mapM_cons, bind_eq_ok]
    constructor
    · rintro ⟨first, done, remaining⟩
      obtain ⟨others, doneRest, rfl⟩ := change_eq_ok.mp remaining
      obtain ⟨each, rfl⟩ := inductionHypothesis.mp doneRest
      refine ⟨List.forall_mem_cons.mpr ⟨⟨first, done⟩, each⟩, ?_⟩
      rw [known item first done, List.map_cons]
    · rintro ⟨each, rfl⟩
      obtain ⟨⟨first, done⟩, others⟩ := List.forall_mem_cons.mp each
      have doneRest := inductionHypothesis.mpr ⟨others, rfl⟩
      refine ⟨first, done, change_eq_ok.mpr ⟨_, doneRest, ?_⟩⟩
      rw [known item first done, List.map_cons]

/-- The result of a step, unless something is wrong. -/
def unlessFault (fault? : Option ε) (result : α) : Except ε α :=
  match fault? with
  | none => .ok result
  | some fault => .error fault

/-- Steps that fail on what is wrong with their items fail on the first item with a fault. -/
theorem foldlM_unlessFault {step : β → α → Except ε β} {fault? : α → Option ε}
    {next : β → α → β} (outcome : ∀ state item, step state item =
      unlessFault (fault? item) (next state item)) (items : List α) (start : β) :
    items.foldlM step start = unlessFault (items.findSome? fault?) (items.foldl next start) := by
  induction items generalizing start with
  | nil => rfl
  | cons item rest inductionHypothesis =>
    rw [List.foldlM_cons, outcome, List.findSome?_cons, List.foldl_cons]
    cases fault? item with
    | none => exact inductionHypothesis (next start item)
    | some fault => rfl

/-- A step that gives a value leaves the next one with the value. -/
theorem bind_of_eq_some {step : Option α} {value : α} (given : step = some value)
    (next : α → Option β) : (step >>= next) = next value := by
  rw [given]
  rfl

/-- A list of steps that may fail has results exactly when each step has its own. -/
theorem mapM_eq_some {step : α → Option β} {items : List α} {results : List β} :
    items.mapM step = some results ↔ items.map step = results.map some := by
  induction items generalizing results with
  | nil => cases results <;> simp
  | cons item rest inductionHypothesis =>
    rw [List.mapM_cons, Option.bind_eq_bind, Option.bind_eq_some_iff]
    constructor
    · rintro ⟨first, done, remaining⟩
      obtain ⟨others, doneRest, collected⟩ := Option.bind_eq_some_iff.mp remaining
      cases collected
      rw [List.map_cons, List.map_cons, done, inductionHypothesis.mp doneRest]
    · intro each
      cases results with
      | nil => cases each
      | cons first others =>
        obtain ⟨done, doneRest⟩ := List.cons.inj each
        exact ⟨first, done, Option.bind_eq_some_iff.mpr
          ⟨others, inductionHypothesis.mpr doneRest, rfl⟩⟩

/-- A list of steps that may fail has no results exactly when one of the steps fails. -/
theorem mapM_eq_none {step : α → Option β} {items : List α} :
    items.mapM step = none ↔ ∃ item ∈ items, step item = none := by
  induction items with
  | nil => simp
  | cons item rest inductionHypothesis =>
    rw [List.mapM_cons, List.exists_mem_cons_iff, ← inductionHypothesis]
    cases step item with
    | none => simp
    | some result => cases rest.mapM step <;> simp

end RecordQuery
