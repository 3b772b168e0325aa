import RecordQuery.Literal.Basic
import RecordQuery.Proofs.Outcome
import RecordQuery.Proofs.Text.Digits
import RecordQuery.Proofs.Text.Splitting

/-!
# Lists in text

A list in text is read by its items alone: integers if every item is one, texts otherwise. The
texts of a list are therefore read back as they are exactly if one of them is no integer. What is
read from any text is a list that is read back from its own text.
-/

namespace RecordQuery.Literal

/-- An item that stands in a list as it is: it is not empty, has no blank at its ends and no
    comma. -/
def IsListItem (item : String) : Prop :=
  item ≠ "" ∧ Text.trim item = item ∧ ',' ∉ item.toList

/-- A list that its text leads back to: integers of 64 bits, or items one of which is no such
    integer. -/
def IsListed : Literal → Prop
  | ints values => ∀ value ∈ values, IntegerKind.i64.Holds value
  | texts values => (∀ item ∈ values, IsListItem item) ∧ ∃ item ∈ values, readItem? item = none
  | _ => False

/-- The items of a list are those that were put together with commas. The empty list is a case of
    its own, as its text is one empty item, which is dropped. -/
theorem items_intercalate {list : List String} (each : ∀ item ∈ list, IsListItem item) :
    items (",".intercalate list) = list := by
  by_cases filled : list = []
  · subst list
    decide
  · have absent : ∀ piece ∈ list.map String.toList, ',' ∉ piece := by
      intro piece member
      obtain ⟨item, known, rfl⟩ := List.mem_map.mp member
      exact (each item known).2.2
    have pieces : Text.split ',' (",".intercalate list) = list := by
      rw [Text.split, String.toList_intercalate]
      show ((Text.pieces ',' ([','].intercalate (list.map String.toList))).map String.ofList) = list
      rw [Text.pieces_intercalate absent (by simpa using filled), List.map_map]
      exact List.map_id'' (fun item => String.ofList_toList) list
    have trimmed : list.map Text.trim = list :=
      (List.map_congr_left fun item known => (each item known).2.1).trans (List.map_id list)
    rw [items, pieces, trimmed, List.filter_eq_self]
    intro item known
    simpa using (each item known).1

/-- What a text is taken apart into are list items. So items are exactly what comes of taking texts
    apart. -/
theorem isListItem_of_mem_items {text item : String} (member : item ∈ items text) :
    IsListItem item := by
  obtain ⟨taken, filled⟩ := List.mem_filter.mp member
  obtain ⟨string, split, rfl⟩ := List.mem_map.mp taken
  obtain ⟨piece, known, rfl⟩ := List.mem_map.mp split
  refine ⟨by simpa using filled, Text.trim_trim _, fun comma => ?_⟩
  rw [Text.trim, String.toList_ofList, String.toList_ofList] at comma
  exact Text.not_mem_of_mem_pieces known (Text.trimChars_subset piece comma)

/-- An integer of 64 bits is read from its own text. -/
theorem readItem_ofInt {value : Int} (fits : IntegerKind.i64.Holds value) :
    readItem? (Text.ofInt value) = some value := by
  rw [readItem?, Text.ofInt, String.toList_ofList, Text.readInt_intDigits]
  exact if_pos fits

/-- What is read as an item is an integer of 64 bits. Larger integers are texts as items, although
    they are decimals as numbers. -/
theorem holds_of_readItem {item : String} {value : Int} (read : readItem? item = some value) :
    IntegerKind.i64.Holds value := by
  obtain ⟨number, -, rest⟩ := Option.bind_eq_some_iff.mp read
  split at rest
  · cases rest
    assumption
  · cases rest

/-- The text of an integer is a list item. It has a sign and digits only, so neither commas nor
    blanks. -/
theorem isListItem_ofInt (value : Int) : IsListItem (Text.ofInt value) := by
  have characters : ∀ c ∈ (Text.ofInt value).toList, c = '-' ∨ c.isDigit = true := by
    intro c member
    rw [Text.ofInt, String.toList_ofList, Text.intDigits] at member
    split at member
    · rcases List.mem_cons.mp member with sign | digit
      · exact .inl sign
      · exact .inr (Text.isDigit_natDigits _ c digit)
    · exact .inr (Text.isDigit_natDigits _ c member)
  refine ⟨?_, Text.trim_eq_self fun c member => ?_, fun comma => ?_⟩
  · intro empty
    have nothing : Text.intDigits value = [] := String.ofList_eq_empty_iff.mp empty
    unfold Text.intDigits at nothing
    split at nothing
    · cases nothing
    · exact Text.natDigits_ne_nil _ nothing
  · rcases characters c member with rfl | isDigit
    · decide
    · exact Text.isBlank_of_isDigit isDigit
  · rcases characters ',' comma with sign | isDigit
    · cases sign
    · cases isDigit

/-- A list is read back from its own text. A list of integers is read as integers, and one with
    another item as texts, so no list can be taken for one of the other form. -/
theorem readList_toText {literal : Literal} (listed : literal.IsListed) :
    readList literal.toText = literal := by
  cases literal with
  | ints values =>
    have parts : items (toText (ints values)) = values.map Text.ofInt := by
      refine items_intercalate fun item member => ?_
      obtain ⟨value, -, rfl⟩ := List.mem_map.mp member
      exact isListItem_ofInt value
    have read : (values.map Text.ofInt).mapM readItem? = some values := by
      rw [mapM_eq_some, List.map_map]
      exact List.map_congr_left fun value member => readItem_ofInt (listed value member)
    rw [readList, parts, read]
  | texts values =>
    obtain ⟨each, other⟩ := listed
    have parts : items (toText (texts values)) = values := items_intercalate each
    rw [readList, parts, mapM_eq_none.mpr other]
  | text | bool | number | date => cases listed

/-- What is read from a text is read back from its own text. Reading, writing and reading again
    therefore gives the same literal as reading once. -/
theorem isListed_readList (text : String) : (readList text).IsListed := by
  unfold readList
  split
  · rename_i values read
    intro value member
    have among : some value ∈ (items text).map readItem? :=
      mapM_eq_some.mp read ▸ List.mem_map_of_mem member
    obtain ⟨item, -, readValue⟩ := List.mem_map.mp among
    exact holds_of_readItem readValue
  · rename_i failed
    exact ⟨fun item member => isListItem_of_mem_items member, mapM_eq_none.mp failed⟩

end RecordQuery.Literal
