import RecordQuery.Proofs.Literal.Lists
import RecordQuery.Request.Filter
import Mathlib.Tactic.TFAE

/-!
# The compact text of a filter

Reading a filter cuts the text at its first two colons, so what the filter is read back from must
have none of its own before them: a name without colons, trimmed and not empty, or no name at all.
The value is all that is left, as text, or for the comparisons that take one as a list. The filters
with such a name and such a literal are exactly those that are read from some text, and exactly
those that are read from their own.
-/

namespace RecordQuery

/-- A comparison is found by its short name. -/
theorem Comparison.ofName_name (comparison : Comparison) :
    ofName? comparison.name = some comparison := by
  cases comparison <;> decide +kernel

/-- Short names have no colon. -/
theorem Comparison.colon_not_mem_name (comparison : Comparison) :
    ':' ∉ comparison.name.toList := by
  cases comparison <;> decide

namespace Filter

/-- A name that stands in front of a colon as it is. -/
def IsCompactName (name : String) : Prop :=
  name ≠ "" ∧ Text.trim name = name ∧ ':' ∉ name.toList

/-- A compact name is kept as it is. -/
theorem IsCompactName.nonBlank {name : String} (compact : IsCompactName name) :
    Text.nonBlank? name = some name :=
  Text.nonBlank_eq_some_iff.mpr ⟨compact.2.1, compact.1⟩

/-- The filters that compact text stands for: they compare the record itself or a property with a
    compact name, with a list if the comparison takes one and else with a text. -/
structure IsCompact (filter : Filter) : Prop where
  named : ∀ name, filter.named = some name → IsCompactName name
  listed : filter.comparison.takesList = true → filter.literal.IsListed
  plain : filter.comparison.takesList = false → ∃ content, filter.literal = .text content

/-- The three parts of a text are read where its first two colons are. The value may have colons, as
    it is the rest of the text. -/
theorem parts_append {property comparison : String} (value : String)
    (noColon : ':' ∉ property.toList) (noColonBehind : ':' ∉ comparison.toList) :
    parts? (property ++ ":" ++ comparison ++ ":" ++ value) =
      some (property, comparison, value) := by
  have spelled : (property ++ ":" ++ comparison ++ ":" ++ value).toList =
      property.toList ++ ':' :: (comparison.toList ++ ':' :: value.toList) := by
    simp
  rw [parts?, spelled, Text.cut_append noColon]
  simp [Text.cut_append noColonBehind]

/-- What is read as the property of a filter has no colon. It ends where the first colon is. -/
theorem colon_not_mem_of_parts {text property comparison value : String}
    (found : parts? text = some (property, comparison, value)) : ':' ∉ property.toList := by
  obtain ⟨⟨before, behind⟩, cut, rest⟩ := Option.bind_eq_some_iff.mp found
  obtain ⟨_, -, same⟩ := Option.bind_eq_some_iff.mp rest
  cases same
  rw [String.toList_ofList]
  exact Text.not_mem_of_cut cut

/-- A filter is read from the three parts of a text: the property loses the blanks at its ends, and
    the comparison decides what the value is read as. A name that is blank counts as none. -/
theorem read_eq_ok {text : String} {filter : Filter} :
    read text = .ok filter ↔ ∃ property name value, parts? text = some (property, name, value) ∧
      Comparison.ofName? name = some filter.comparison ∧
      filter.named = Text.nonBlank? property ∧
      filter.literal = literalFor filter.comparison value := by
  obtain ⟨named, comparison, literal⟩ := filter
  dsimp only
  cases parts : parts? text with
  | none => simp [read, parts]
  | some taken =>
    obtain ⟨property, name, value⟩ := taken
    have made : read text = (do
        let comparison ← readComparison name
        pure ⟨Text.nonBlank? property, comparison, literalFor comparison value⟩) := by
      rw [read, parts]
    rw [made, bind_eq_ok]
    constructor
    · rintro ⟨known, found, rest⟩
      obtain ⟨rfl, rfl, rfl⟩ := Filter.mk.inj (pure_eq_ok.mp rest)
      unfold readComparison at found
      split at found <;> cases found
      rename_i spelled
      exact ⟨property, name, value, rfl, spelled, rfl, rfl⟩
    · rintro ⟨_, _, _, same, spelled, rfl, rfl⟩
      cases same
      have found : readComparison name = .ok comparison := by
        rw [readComparison, spelled]
      exact ⟨comparison, found, rfl⟩

/-- The name of a compact filter is its property, in front of a colon without one of its own. No
    name at all is written as nothing in front of the colon. -/
theorem IsCompact.property {filter : Filter} (compact : filter.IsCompact) :
    ':' ∉ (filter.property?.getD "").toList ∧
      filter.named = Text.nonBlank? (filter.property?.getD "") := by
  cases named : filter.named with
  | none =>
    rw [property?, named]
    exact ⟨by decide, rfl⟩
  | some name =>
    have compactName := compact.named name named
    have kept : filter.property? = some name := by
      rw [property?, named, Option.bind_some, compactName.nonBlank]
    rw [kept, Option.getD_some]
    exact ⟨compactName.2.2, compactName.nonBlank.symm⟩

/-- The literal of a compact filter is read from its own text. Only the comparison decides whether
    it is read as a list or as a text. -/
theorem IsCompact.literal {filter : Filter} (compact : filter.IsCompact) :
    filter.literal = literalFor filter.comparison filter.literal.toText := by
  unfold literalFor
  split
  · rename_i takesList
    exact (Literal.readList_toText (compact.listed takesList)).symm
  · rename_i noList
    obtain ⟨content, same⟩ := compact.plain (by simpa using noList)
    rw [same]
    rfl

/-- A compact filter is read from its own text. The three parts are found where they were written,
    since none but the last may have a colon. -/
theorem IsCompact.read_toText {filter : Filter} (compact : filter.IsCompact) :
    read filter.toText = .ok filter := by
  obtain ⟨noColon, named⟩ := compact.property
  have parts := parts_append filter.literal.toText noColon
    (Comparison.colon_not_mem_name filter.comparison)
  exact read_eq_ok.mpr ⟨_, _, _, parts, Comparison.ofName_name filter.comparison, named,
    compact.literal⟩

/-- What is read from a text is compact. The name is trimmed and has no colon, and the literal is a
    list that was read from a text or that text. -/
theorem isCompact_of_read {text : String} {filter : Filter} (done : read text = .ok filter) :
    filter.IsCompact := by
  obtain ⟨property, name, value, parts, -, named, literal⟩ := read_eq_ok.mp done
  refine ⟨fun kept found => ?_, fun takesList => ?_, fun noList => ?_⟩
  · rw [named] at found
    obtain ⟨rfl, filled⟩ := Text.nonBlank_eq_some_iff.mp found
    refine ⟨filled, Text.trim_trim property, fun colon => ?_⟩
    rw [Text.trim, String.toList_ofList] at colon
    exact colon_not_mem_of_parts parts (Text.trimChars_subset _ colon)
  · rw [literal, literalFor, if_pos takesList]
    exact Literal.isListed_readList value
  · rw [literal, literalFor, noList]
    exact ⟨value, rfl⟩

/-- The filters that are read from some text are the compact ones, and these are the filters that
    are read from their own text.

    Proof: reading gives a compact filter, a compact filter is read from its own text, and this is a
    text that it is read from. -/
theorem read_from_text_iff_compact (filter : Filter) :
    [∃ text, read text = .ok filter, filter.IsCompact, read filter.toText = .ok filter].TFAE := by
  tfae_have 1 → 2 := fun ⟨_, done⟩ => isCompact_of_read done
  tfae_have 2 → 3 := IsCompact.read_toText
  tfae_have 3 → 1 := fun done => ⟨_, done⟩
  tfae_finish

example : read " tag : IsIn : red ,, 7:15 ,+3" =
      .ok ⟨some "tag", .isIn, .texts ["red", "7:15", "+3"]⟩ ∧
    read ":in:+3,,-0, 007" = .ok ⟨none, .isIn, .ints [3, 0, 7]⟩ := by decide +kernel

end Filter

end RecordQuery
