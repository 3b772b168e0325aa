import RecordQuery.Declaration.Derivation
import RecordQuery.Proofs.Outcome

/-!
# What the attributes of a field say

Several attributes of a field count as one list of entries. One entry anywhere leaves the field
out, and the last new name is the one that holds. The first thing wrong with an attribute is the
error: that its content is no list of entries, or else the first entry that is not allowed.
-/

namespace RecordQuery

namespace AttributeEntry

/-- The entries that a field may have: the word that leaves it out, and a new name that is not
    blank. -/
inductive IsAllowed : AttributeEntry → Prop
  | skip : IsAllowed (.word "skip")
  | rename {name : String} (visible : Text.isBlankText name = false) :
      IsAllowed (.assignment "rename" (.text name))

/-- What is wrong with an entry. An entry of an unknown name is refused before its value is looked
    at. -/
def fault? : AttributeEntry → Option DeclarationError
  | .word path => if path = "skip" then none else some .unknownEntry
  | .assignment path value =>
      if path ≠ "rename" then some .unknownEntry
      else
        match value with
        | .text name => if Text.isBlankText name then some .nameBlank else none
        | .other => some .nameNotText
  | .group _ => some .unknownEntry

/-- Exactly with the entries that are allowed nothing is wrong. The value of a new name must be a
    text that is not blank, and leaving a field out takes no value. -/
theorem fault_eq_none {entry : AttributeEntry} : entry.fault? = none ↔ entry.IsAllowed := by
  constructor
  · intro faultless
    cases entry with
    | word path =>
      have same : path = "skip" := by simpa [fault?] using faultless
      exact same ▸ .skip
    | assignment path value =>
      by_cases same : path = "rename"
      · subst same
        cases value with
        | text name => exact .rename (by simpa [fault?] using faultless)
        | other => cases faultless
      · simp [fault?, same] at faultless
    | group path => cases faultless
  · rintro (_ | visible)
    · rfl
    · simp [fault?, visible]

/-- The new name that an entry gives a property. -/
def newName? : AttributeEntry → Option String
  | .assignment path (.text name) => if path = "rename" then some name else none
  | _ => none

end AttributeEntry

namespace FieldOptions

/-- The options after one more entry with which nothing is wrong. -/
def after (options : FieldOptions) (entry : AttributeEntry) : FieldOptions where
  skip := options.skip || entry == .word "skip"
  rename := entry.newName?.or options.rename

/-- An entry adds to the options unless something is wrong with it. What is wrong with it does not
    depend on the options so far. -/
theorem addEntry_eq (options : FieldOptions) (entry : AttributeEntry) :
    addEntry options entry = unlessFault entry.fault? (options.after entry) := by
  cases entry with
  | word path =>
    by_cases same : path = "skip"
    · simp [addEntry, AttributeEntry.fault?, after, AttributeEntry.newName?, unlessFault, same]
    · simp [addEntry, AttributeEntry.fault?, unlessFault, same]
  | assignment path value =>
    by_cases same : path = "rename"
    · cases value with
      | text name =>
        cases blank : Text.isBlankText name <;>
          simp [addEntry, AttributeEntry.fault?, after, AttributeEntry.newName?, unlessFault, same,
            blank]
      | other => simp [addEntry, AttributeEntry.fault?, unlessFault, same]
    · simp [addEntry, AttributeEntry.fault?, unlessFault, same]
  | group path => rfl

/-- After all entries a field is left out if one of them says so, and the last new name holds. A new
    name is kept even if the field is left out. -/
theorem foldl_after (options : FieldOptions) (entries : List AttributeEntry) :
    entries.foldl after options =
      ⟨options.skip || entries.contains (.word "skip"),
        (entries.filterMap AttributeEntry.newName?).getLast?.or options.rename⟩ := by
  induction entries generalizing options with
  | nil => simp
  | cons entry rest inductionHypothesis =>
    rw [List.foldl_cons, inductionHypothesis, List.contains_cons, List.filterMap_cons, after]
    congr 1
    · rw [Bool.or_assoc, BEq.comm]
    · -- A later name takes the place of this one.
      cases entry.newName? with
      | none => rfl
      | some name =>
        rw [List.getLast?_cons]
        cases (rest.filterMap AttributeEntry.newName?).getLast? <;> rfl

end FieldOptions

namespace FieldAttribute

/-- The entries of an attribute that speaks of records, if it has a list of them. -/
def recordEntries (source : FieldAttribute) : List AttributeEntry :=
  match source.form with
  | .list content =>
      if source.path = "record" then (AttributeEntry.readAll content).toOption.getD [] else []
  | _ => []

/-- What is wrong with an attribute that speaks of records. In each of the other two forms it lacks
    the list. A list may hold something else than entries, or else the first entry that is not
    allowed is wrong. -/
def recordFault? (source : FieldAttribute) : Option DeclarationError :=
  match source.form with
  | .word => some (.malformed ⟨.attributeContent source.path, true⟩)
  | .assignment _ => some (.malformed ⟨.attributeParentheses source.path, false⟩)
  | .list content =>
      match AttributeEntry.readAll content with
      | .ok entries => entries.findSome? AttributeEntry.fault?
      | .error malformed => some (.malformed malformed)

/-- What is wrong with an attribute, which is nothing unless it speaks of records. -/
def fault? (source : FieldAttribute) : Option DeclarationError :=
  if source.path = "record" then source.recordFault? else none

/-- An attribute that a field may have: if it speaks of records, it is a list of entries that are
    all allowed. The forms without a list are not among these, whatever value is assigned. -/
def IsAllowed (source : FieldAttribute) : Prop :=
  source.path = "record" → ∃ content entries, source.form = .list content ∧
    AttributeEntry.readAll content = .ok entries ∧ ∀ entry ∈ entries, entry.IsAllowed

/-- Exactly with the attributes that are allowed nothing is wrong. Each form is looked at by itself,
    and a list by its entries. -/
theorem fault_eq_none {source : FieldAttribute} : source.fault? = none ↔ source.IsAllowed := by
  unfold fault? IsAllowed
  by_cases speaks : source.path = "record"
  · rw [if_pos speaks, recordFault?]
    cases source.form with
    | word => simp [speaks]
    | assignment value => simp [speaks]
    | list content =>
      cases read : AttributeEntry.readAll content <;>
        simp [speaks, read, AttributeEntry.fault_eq_none]
  · simp [speaks]

/-- An attribute that speaks of records adds its entries to the options unless something is wrong
    with it. The forms without a list are errors at once, since they have no entries to look at. -/
theorem addAttribute_record (options : FieldOptions) {source : FieldAttribute}
    (speaks : source.path = "record") :
    FieldOptions.addAttribute options source =
      unlessFault source.recordFault? (source.recordEntries.foldl FieldOptions.after options) := by
  rw [FieldOptions.addAttribute, if_pos speaks, entries, recordFault?, recordEntries]
  cases source.form with
  | word => rfl
  | assignment value => rfl
  | list content =>
    dsimp only
    rw [if_pos speaks]
    cases AttributeEntry.readAll content with
    | error malformed => rfl
    | ok entries => exact foldlM_unlessFault FieldOptions.addEntry_eq entries options

/-- An attribute adds its entries to the options unless something is wrong with it. One that does
    not speak of records adds nothing, in any form. -/
theorem addAttribute_eq (options : FieldOptions) (source : FieldAttribute) :
    FieldOptions.addAttribute options source =
      unlessFault source.fault? (source.recordEntries.foldl FieldOptions.after options) := by
  by_cases speaks : source.path = "record"
  · rw [fault?, if_pos speaks, addAttribute_record options speaks]
  · have silent : source.recordEntries = [] := by
      unfold recordEntries
      split
      · rw [if_neg speaks]
      · rfl
    rw [FieldOptions.addAttribute, if_neg speaks, fault?, if_neg speaks, silent]
    rfl

end FieldAttribute

namespace DeclaredField

/-- The entries of all attributes of a field that speak of records, in their order. -/
def entries (field : DeclaredField) : List AttributeEntry :=
  field.attributes.flatMap FieldAttribute.recordEntries

/-- The first thing wrong with the attributes of a field. -/
def fault? (field : DeclaredField) : Option DeclarationError :=
  field.attributes.findSome? FieldAttribute.fault?

/-- Whether one of its entries leaves a field out. -/
def isSkipped (field : DeclaredField) : Bool :=
  field.entries.contains (.word "skip")

/-- The name of the property of a field: the last new name, or else its plain identifier. -/
def propertyName (field : DeclaredField) : String :=
  (field.entries.filterMap AttributeEntry.newName?).getLast?.getD
    (DerivedProperty.plainIdentifier field.identifier)

/-- The property of a field, which reads the field itself and has its type. -/
def property (field : DeclaredField) : DerivedProperty :=
  ⟨field.propertyName, field.identifier, field.type⟩

/-- Nothing is wrong with a field exactly if all its attributes are allowed. -/
theorem fault_eq_none {field : DeclaredField} :
    field.fault? = none ↔ ∀ source ∈ field.attributes, source.IsAllowed := by
  simp [fault?, FieldAttribute.fault_eq_none]

/-- The options of a field come from all its entries together. Several attributes that speak of
    records count as one with all their entries. -/
theorem ofAttributes_eq (field : DeclaredField) :
    FieldOptions.ofAttributes field.attributes =
      unlessFault field.fault? ⟨field.isSkipped,
        (field.entries.filterMap AttributeEntry.newName?).getLast?⟩ := by
  rw [FieldOptions.ofAttributes, foldlM_unlessFault FieldAttribute.addAttribute_eq,
    ← List.foldl_flatMap, FieldOptions.foldl_after]
  simp [fault?, isSkipped, entries]

/-- A field has its property unless something is wrong with its attributes or it is left out. A
    field that is left out is still refused if one of its attributes is not allowed. -/
theorem ofField_eq (field : DeclaredField) :
    DerivedProperty.ofField? field =
      unlessFault field.fault? (if field.isSkipped then none else some field.property) := by
  rw [DerivedProperty.ofField?, ofAttributes_eq]
  cases field.fault? with
  | some error => rfl
  | none => cases skipped : field.isSkipped <;> rfl

end DeclaredField

end RecordQuery
