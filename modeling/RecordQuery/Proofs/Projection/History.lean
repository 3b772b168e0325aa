import RecordQuery.Projection.Catalog
import RecordQuery.Proofs.Lookup
import RecordQuery.Proofs.Projection.Answers
import Mathlib.Data.Finset.Card

/-!
# A catalog over its history

A catalog is asked about record types in any order, while parameters are also made elsewhere. What
it answers does not show any of this: the projections of a type are built once, over a parameter
that no other type has, and never change. What carries the induction over a history is that every
table was built with an identity of its own, below the one that is dealt out next.
-/

namespace RecordQuery

/-- The record types that there are, by their names. -/
structure Schema where
  type : String → RecordType
  named : ∀ name, (type name).name = name

/-- What happens to a catalog: it is asked about a record type, or deals out the identity of a
    parameter that is made elsewhere. -/
inductive Event where
  | ask (type : String) (question : Question)
  | deal

/-- The record type that an event asks about. -/
def Event.type? : Event → Option String
  | ask type _ => some type
  | deal => none

namespace Catalog

/-- The answer to a question, and the catalog after it. -/
def ask (schema : Schema) (catalog : Catalog) (type : String) (question : Question) :
    question.Answer × Catalog :=
  let (projections, next) := catalog.lookup (schema.type type)
  (projections.answer question, next)

/-- The catalog after an event. -/
def afterEvent (schema : Schema) (catalog : Catalog) : Event → Catalog
  | .ask type question => (catalog.ask schema type question).2
  | .deal => catalog.freshId.2

/-- The catalog after a history of events. -/
def after (schema : Schema) (catalog : Catalog) (events : List Event) : Catalog :=
  events.foldl (afterEvent schema) catalog

/-- A history in two parts. -/
theorem after_append (schema : Schema) (catalog : Catalog) (events later : List Event) :
    catalog.after schema (events ++ later) = (catalog.after schema events).after schema later :=
  List.foldl_append

/-- A catalog without tables that deals out identities from some number on. -/
def startingAt (next : Nat) : Catalog :=
  { next }

/-- The record types that have a table. -/
def types (catalog : Catalog) : List String :=
  catalog.tables.map Prod.fst

/-- What holds of a catalog at all times: it has one table for a type, built with an identity that
    was dealt out and that no other table was built with. -/
structure Sound (schema : Schema) (catalog : Catalog) : Prop where
  distinct : catalog.types.Nodup
  built : ∀ type projections, (type, projections) ∈ catalog.tables →
    ∃ id < catalog.next, projections = .ofType (schema.type type) id
  separate : (catalog.tables.map fun table => table.2.parameter.id).Nodup

variable {schema : Schema} {catalog : Catalog}

/-- A catalog without tables is sound. -/
theorem sound_startingAt (schema : Schema) (next : Nat) : (startingAt next).Sound schema :=
  ⟨List.nodup_nil, by simp [startingAt], List.nodup_nil⟩

/-- A look-up of a type that has a table finds it and changes nothing; one of a type without builds
    a table with the next identity. The two cases exclude each other, and the second happens once
    for each type. -/
theorem lookup_cases (schema : Schema) (catalog : Catalog) (type : String) :
    (∃ projections, (type, projections) ∈ catalog.tables ∧
      catalog.lookup (schema.type type) = (projections, catalog)) ∨
    (type ∉ catalog.types ∧
      catalog.lookup (schema.type type) = (.ofType (schema.type type) catalog.next,
        { tables := catalog.tables ++ [(type, .ofType (schema.type type) catalog.next)]
          next := catalog.next + 1 })) := by
  unfold lookup
  rw [schema.named]
  cases found : catalog.tables.lookup type with
  | some projections =>
    exact .inl ⟨projections, mem_of_lookup found, rfl⟩
  | none =>
    exact .inr ⟨lookup_eq_none.mp found, rfl⟩

/-- The identities that tables were built with were dealt out before. -/
theorem Sound.id_lt (sound : catalog.Sound schema) {table : String × Projections}
    (member : table ∈ catalog.tables) : table.2.parameter.id < catalog.next := by
  obtain ⟨type, projections⟩ := table
  obtain ⟨id, below, rfl⟩ := sound.built type projections member
  rw [Projections.parameter_ofType]
  exact below

/-- A look-up keeps a catalog sound. A new table has an identity that was never dealt before. -/
theorem Sound.lookup (sound : catalog.Sound schema) (type : String) :
    (catalog.lookup (schema.type type)).2.Sound schema := by
  rcases lookup_cases schema catalog type with ⟨projections, -, found⟩ | ⟨absent, built⟩
  · rw [found]
    exact sound
  · rw [built]
    constructor
    · simp only [types, List.map_append, List.map_cons, List.map_nil]
      refine List.nodup_append.mpr ⟨sound.distinct, List.nodup_singleton _, ?_⟩
      intro other before _ new same
      rw [same, List.mem_singleton.mp new] at before
      exact absent before
    · intro other projections member
      rcases List.mem_append.mp member with before | new
      · obtain ⟨id, below, same⟩ := sound.built other projections before
        exact ⟨id, Nat.lt_succ_of_lt below, same⟩
      · obtain ⟨rfl, rfl⟩ := Prod.mk.inj (List.mem_singleton.mp new)
        exact ⟨catalog.next, Nat.lt_succ_self _, rfl⟩
    · simp only [List.map_append, List.map_cons, List.map_nil, Projections.parameter_ofType]
      refine List.nodup_append.mpr ⟨sound.separate, List.nodup_singleton _, ?_⟩
      intro id before _ new same
      obtain ⟨table, member, rfl⟩ := List.mem_map.mp before
      have below := sound.id_lt member
      rw [same, List.mem_singleton.mp new] at below
      exact Nat.lt_irrefl _ below

/-- An event keeps a catalog sound. Dealing out an identity makes no table, and all identities of
    tables stay below the next one. -/
theorem Sound.afterEvent (sound : catalog.Sound schema) (event : Event) :
    (catalog.afterEvent schema event).Sound schema := by
  cases event with
  | ask type question => exact sound.lookup type
  | deal =>
    refine ⟨sound.distinct, fun type projections member => ?_, sound.separate⟩
    obtain ⟨id, below, same⟩ := sound.built type projections member
    exact ⟨id, Nat.lt_succ_of_lt below, same⟩

/-- A catalog stays sound over any history. -/
theorem Sound.after (sound : catalog.Sound schema) (events : List Event) :
    (catalog.after schema events).Sound schema := by
  induction events generalizing catalog with
  | nil => exact sound
  | cons event rest inductionHypothesis => exact inductionHypothesis (sound.afterEvent event)

/-- An event leaves the tables as they are, and adds one for the type it asks about if that has
    none. They stay in their order, and the new one comes last. -/
theorem tables_afterEvent (schema : Schema) (catalog : Catalog) (event : Event) :
    catalog.tables <+: (catalog.afterEvent schema event).tables ∧
      ∀ type, type ∈ (catalog.afterEvent schema event).types ↔
        type ∈ catalog.types ∨ event.type? = some type := by
  cases event with
  | deal => exact ⟨List.prefix_rfl, fun type => by simp [afterEvent, freshId, types, Event.type?]⟩
  | ask asked question =>
    simp only [afterEvent, ask, Event.type?, Option.some.injEq]
    rcases lookup_cases schema catalog asked with ⟨projections, member, found⟩ | ⟨absent, built⟩
    · rw [found]
      refine ⟨List.prefix_rfl, fun type => ⟨.inl, ?_⟩⟩
      rintro (before | rfl)
      · exact before
      · exact List.mem_map_of_mem member
    · rw [built]
      exact ⟨List.prefix_append _ _, fun type => by simp [types, eq_comm]⟩

/-- Tables stay over any history, and the types with a table are those asked about. The induction is
    on the history, with the catalog general. -/
theorem tables_after (schema : Schema) (catalog : Catalog) (events : List Event) :
    catalog.tables <+: (catalog.after schema events).tables ∧
      ∀ type, type ∈ (catalog.after schema events).types ↔
        type ∈ catalog.types ∨ type ∈ events.filterMap Event.type? := by
  induction events generalizing catalog with
  | nil => exact ⟨List.prefix_rfl, fun type => by simp [after]⟩
  | cons event rest inductionHypothesis =>
    obtain ⟨kept, asked⟩ := tables_afterEvent schema catalog event
    obtain ⟨keptAfter, askedAfter⟩ := inductionHypothesis (catalog.afterEvent schema event)
    refine ⟨kept.trans keptAfter, fun type => (askedAfter type).trans ?_⟩
    rw [asked, List.mem_filterMap, List.mem_filterMap]
    simp only [List.mem_cons, exists_eq_or_imp, or_assoc]

/-- The number of tables is that of the different types asked about. Only questions count, and not
    how often they are asked. -/
theorem size_after (schema : Schema) (next : Nat) (events : List Event) :
    ((startingAt next).after schema events).size =
      (events.filterMap Event.type?).toFinset.card := by
  have sound := (sound_startingAt schema next).after events
  have asked : (events.filterMap Event.type?).toFinset =
      ((startingAt next).after schema events).types.toFinset := by
    ext type
    rw [List.mem_toFinset, List.mem_toFinset, (tables_after schema (startingAt next) events).2]
    simp [types, startingAt]
  rw [asked, List.toFinset_card_of_nodup sound.distinct, types, List.length_map, size]

/-- A look-up gives the projections of a type over some identity, and has its table from then on.
    Which identity it is depends on the history and is nowhere to be seen. -/
theorem Sound.exists_table (sound : catalog.Sound schema) (type : String) :
    ∃ id, (catalog.lookup (schema.type type)).1 = .ofType (schema.type type) id ∧
      (type, .ofType (schema.type type) id) ∈ (catalog.lookup (schema.type type)).2.tables := by
  rcases lookup_cases schema catalog type with ⟨projections, member, found⟩ | ⟨-, built⟩
  · obtain ⟨id, -, rfl⟩ := sound.built type projections member
    exact ⟨id, by rw [found], by rwa [found]⟩
  · refine ⟨catalog.next, by rw [built], ?_⟩
    rw [built]
    exact List.mem_append_right _ (List.mem_singleton_self _)

/-- The answers about a type are those of its table, which stays once it was asked about. Whatever
    happens later, no table is replaced. -/
theorem answers_of_ask (sound : catalog.Sound schema) (type : String) :
    ∃ id, (∀ question, (catalog.ask schema type question).1 =
        (Projections.ofType (schema.type type) id).answer question) ∧
      ∀ question later, (type, .ofType (schema.type type) id) ∈
        (catalog.after schema (.ask type question :: later)).tables := by
  obtain ⟨id, found, member⟩ := sound.exists_table type
  refine ⟨id, fun question => ?_, fun question later => ?_⟩
  · rw [← found]
    rfl
  · have kept := (tables_after schema (catalog.afterEvent schema (.ask type question)) later).1
    exact kept.subset member

/-- Two tables of one type are one. -/
theorem Sound.table_eq (sound : catalog.Sound schema) {type : String}
    {projections others : Projections} (member : (type, projections) ∈ catalog.tables)
    (otherMember : (type, others) ∈ catalog.tables) : projections = others :=
  (Prod.mk.inj (List.inj_on_of_nodup_map sound.distinct member otherMember rfl)).2

/-- Two tables with one identity are of one type. Identities are dealt out once, so the parameter of
    a projection tells its type. -/
theorem Sound.type_eq (sound : catalog.Sound schema) {type other : String} {id : Nat}
    (member : (type, .ofType (schema.type type) id) ∈ catalog.tables)
    (otherMember : (other, .ofType (schema.type other) id) ∈ catalog.tables) : type = other := by
  have sameId : (Projections.ofType (schema.type type) id).parameter.id =
      (Projections.ofType (schema.type other) id).parameter.id := by
    rw [Projections.parameter_ofType, Projections.parameter_ofType]
    rfl
  exact (Prod.mk.inj (List.inj_on_of_nodup_map sound.separate member otherMember sameId)).1

end Catalog

/-- The answer to a question after a history that begins without tables. -/
def Schema.answer (schema : Schema) (next : Nat) (events : List Event) (type : String)
    (question : Question) : question.Answer :=
  (((Catalog.startingAt next).after schema events).ask schema type question).1

namespace Schema

variable (schema : Schema) (next : Nat) (events : List Event) (type : String)

/-- Two answers are those of two tables of one catalog, whatever happens between the questions. That
    of the later question has both tables, since tables stay. -/
theorem answers_of_one_catalog (question : Question) (later : List Event) (other : String)
    (otherQuestion : Question) :
    ∃ (catalog : Catalog) (id otherId : Nat), catalog.Sound schema ∧
      (type, .ofType (schema.type type) id) ∈ catalog.tables ∧
      (other, .ofType (schema.type other) otherId) ∈ catalog.tables ∧
      schema.answer next events type question =
        (Projections.ofType (schema.type type) id).answer question ∧
      schema.answer next (events ++ .ask type question :: later) other otherQuestion =
        (Projections.ofType (schema.type other) otherId).answer otherQuestion := by
  have sound := (Catalog.sound_startingAt schema next).after events
  have soundLater := sound.after (.ask type question :: later)
  obtain ⟨id, answered, kept⟩ := Catalog.answers_of_ask sound type
  obtain ⟨otherId, otherAnswered, otherKept⟩ := Catalog.answers_of_ask soundLater other
  have member := kept question (later ++ [.ask other otherQuestion])
  rw [← List.cons_append, Catalog.after_append] at member
  refine ⟨_, id, otherId, soundLater.after [.ask other otherQuestion], member,
    otherKept otherQuestion [], answered question, ?_⟩
  rw [answer, Catalog.after_append, otherAnswered]

/-- A question has the same answer after any other events. -/
theorem answer_again (question : Question) (later : List Event) :
    schema.answer next (events ++ .ask type question :: later) type question =
      schema.answer next events type question := by
  obtain ⟨catalog, id, otherId, sound, member, otherMember, answered, otherAnswered⟩ :=
    schema.answers_of_one_catalog next events type question later type question
  rw [answered, otherAnswered, sound.table_eq otherMember member]

/-- Two projections share their parameter, and its identity, when they are of one type. The second
    part is what keeps filters of different types from being mixed up. -/
theorem parameter_eq_iff {question otherQuestion : Question} {later : List Event} {other : String}
    {projection otherProjection : Projection}
    (given : projection ∈ question.given (schema.answer next events type question))
    (otherGiven : otherProjection ∈ otherQuestion.given
      (schema.answer next (events ++ .ask type question :: later) other otherQuestion)) :
    (type = other → projection.parameter = otherProjection.parameter) ∧
      (projection.parameter.id = otherProjection.parameter.id → type = other) := by
  obtain ⟨catalog, id, otherId, sound, member, otherMember, answered, otherAnswered⟩ :=
    schema.answers_of_one_catalog next events type question later other otherQuestion
  rw [answered] at given
  rw [otherAnswered] at otherGiven
  have own := Projections.parameter_of_answer given
  have otherOwn := Projections.parameter_of_answer otherGiven
  constructor
  · rintro rfl
    have sameTable := congrArg Projections.parameter (sound.table_eq member otherMember)
    rw [Projections.parameter_ofType, Projections.parameter_ofType] at sameTable
    rw [own, otherOwn, sameTable]
  · intro sameId
    rw [own, otherOwn] at sameId
    obtain rfl : id = otherId := sameId
    exact sound.type_eq member otherMember

/-- A catalog looks constant to whoever asks it. After any events, its size is the number of the
    different record types asked about. A question gets the same answer at any later time. All
    projections of one type share a parameter, and those of two types never share an identity. A
    name is found when the type lists its properties and has one of this name, and the first of
    these is read from every record. The names ascend and are those that are found. No name, or a
    blank one, leads to the record itself. A type that cannot list its properties has no names, and
    finds none, but leads to the record itself all the same.

    Proof: a catalog stays sound along its history, and then every answer about a type is one of its
    table, which is that of the type over some identity and is never replaced. What is said of names
    and projections is then said of one table. -/
theorem answer_constant :
    ((Catalog.startingAt next).after schema events).size =
        (events.filterMap Event.type?).toFinset.card ∧
      (∀ question later, schema.answer next (events ++ .ask type question :: later) type question =
        schema.answer next events type question) ∧
      (∀ (question otherQuestion : Question) (later : List Event) (other : String),
        ∀ projection ∈ question.given (schema.answer next events type question),
        ∀ otherProjection ∈ otherQuestion.given
          (schema.answer next (events ++ .ask type question :: later) other otherQuestion),
        (type = other → projection.parameter = otherProjection.parameter) ∧
          (projection.parameter.id = otherProjection.parameter.id → type = other)) ∧
      (∀ name,
        ((schema.answer next events type (.get name)).isSome = true ↔
          (schema.type type).Declares name) ∧
        ∀ projection, schema.answer next events type (.get name) = some projection →
          (schema.type type).ReadsFirst name projection) ∧
      (∀ names : List String, schema.answer next events type .names = names →
        names.Pairwise (· < ·) ∧
          ∀ name, name ∈ names ↔ (schema.answer next events type (.get name)).isSome = true) ∧
      (∀ name, name.bind Text.nonBlank? = none →
        ∃ projection, schema.answer next events type (.resolve name) = some projection ∧
          projection = schema.answer next events type .self ∧
          (schema.type type).ReadsWhole projection) ∧
      ∀ error, (schema.type type).declared = .error error →
        (∀ name, schema.answer next events type (.get name) = none) ∧
        (∀ name, name.bind Text.nonBlank? ≠ none →
          schema.answer next events type (.resolve name) = none) ∧
        schema.answer next events type .names = [] := by
  obtain ⟨id, answered, -⟩ :=
    Catalog.answers_of_ask ((Catalog.sound_startingAt schema next).after events) type
  have answers : ∀ question, schema.answer next events type question =
      (Projections.ofType (schema.type type) id).answer question := answered
  refine ⟨Catalog.size_after schema next events, schema.answer_again next events type,
    fun question otherQuestion later other projection given otherProjection otherGiven =>
      schema.parameter_eq_iff next events type given otherGiven, fun name => ?_,
    fun names listed => ?_, fun name blank => ?_, fun error failed => ?_⟩
  · rw [answers]
    exact ⟨Projections.isSome_get, fun projection found => Projections.readsFirst_of_get found⟩
  · obtain rfl : (Projections.ofType (schema.type type) id).names = names :=
      (answers .names).symm.trans listed
    refine ⟨Projections.names_ascending _, fun name => ?_⟩
    rw [Projections.mem_names, answers]
    exact Projections.isSome_get.symm
  · have whole : (Projections.ofType (schema.type type) id).resolve? name =
        some (Projections.ofType (schema.type type) id).self := by
      simp only [Projections.resolve?, blank]
    exact ⟨_, (answers (.resolve name)).trans whole, (answers .self).symm,
      Projections.readsWhole_self _ id⟩
  · have absent : ∀ name, (Projections.ofType (schema.type type) id).get? name = none :=
      fun name => Projections.get?_of_error failed
    refine ⟨fun name => (answers (.get name)).trans (absent name), fun name nonBlank => ?_,
      (answers .names).trans (Projections.names_of_error failed)⟩
    obtain ⟨trimmed, leftOver⟩ := Option.ne_none_iff_exists'.mp nonBlank
    have missed : (Projections.ofType (schema.type type) id).resolve? name = none := by
      simp only [Projections.resolve?, leftOver, absent]
    exact (answers (.resolve name)).trans missed

/-- Of a name declared twice the first property is found, and a type that cannot list its properties
    is counted though it finds none. The second property of the name is out of reach. -/
theorem answer_constant_repeated_name :
    let repeated : RecordType := ⟨"Repeated", .ok [⟨"n", .bool⟩, ⟨"n", .text⟩], none⟩
    let schema : Schema := ⟨fun name =>
      if name = "Repeated" then repeated else ⟨name, .error ⟨name, "unlisted"⟩, none⟩,
      fun name => by grind⟩
    let events : List Event := [.ask "Repeated" .self, .deal, .ask "Bare" .names]
    ((Catalog.startingAt 7).after schema events).size = 2 ∧
      (∃ projection, schema.answer 7 events "Repeated" (.get "n") = some projection ∧
        repeated.ReadsFirst "n" projection ∧ projection.type = .bool) ∧
      schema.answer 7 events "Bare" (.get "n") = none := by
  intro repeated schema events
  obtain ⟨size, -, -, found, -⟩ := schema.answer_constant 7 events "Repeated"
  obtain ⟨-, -, -, -, -, -, unlisted⟩ := schema.answer_constant 7 events "Bare"
  refine ⟨size, ?_, (unlisted _ rfl).1 "n"⟩
  obtain ⟨projection, given⟩ : ∃ projection,
      schema.answer 7 events "Repeated" (.get "n") = some projection := ⟨_, rfl⟩
  exact ⟨projection, given, (found "n").2 projection given, by cases given; rfl⟩

end Schema

end RecordQuery
