import RecordQuery.Text.Blank
import Mathlib.Data.List.DropRight

/-!
# Trimmed texts

Trimming a text that is already trimmed changes nothing, so a name that is not blank leads to
the same place before and after it is trimmed.
-/

namespace RecordQuery.Text

/-- A trimmed text starts with no blank. -/
theorem dropWhile_trimChars (text : List Char) :
    (trimChars text).dropWhile isBlank = trimChars text := by
  rw [List.dropWhile_eq_self_iff]
  intro nonempty
  have isPrefix : trimChars text <+: text.dropWhile isBlank := List.rdropWhile_prefix _ _
  have longer : 0 < (text.dropWhile isBlank).length :=
    Nat.lt_of_lt_of_le nonempty isPrefix.length_le
  have unchanged : (text.dropWhile isBlank).dropWhile isBlank = text.dropWhile isBlank :=
    List.dropWhile_idempotent ..
  have first := List.dropWhile_eq_self_iff.mp unchanged longer
  rwa [isPrefix.getElem nonempty]

/-- Trimming a trimmed text changes nothing. -/
theorem trimChars_trimChars (text : List Char) : trimChars (trimChars text) = trimChars text := by
  rw [trimChars, dropWhile_trimChars]
  exact List.rdropWhile_idempotent ..

/-- Trimming a trimmed string changes nothing. -/
theorem trim_trim (text : String) : trim (trim text) = trim text := by
  simp only [trim, String.toList_ofList, trimChars_trimChars]

/-- Trimming adds no characters. -/
theorem trimChars_subset (text : List Char) : trimChars text ⊆ text := by
  have behind : trimChars text ⊆ text.dropWhile isBlank := (List.rdropWhile_prefix _ _).subset
  exact List.Subset.trans behind (List.dropWhile_suffix _).subset

/-- A text with no blank at either end is trimmed. Blanks inside are left where they are. -/
theorem trimChars_eq_self {text : List Char} (first : ∀ c ∈ text.head?, isBlank c = false)
    (last : ∀ c ∈ text.getLast?, isBlank c = false) : trimChars text = text := by
  have begun : text.dropWhile isBlank = text := by
    rw [List.dropWhile_eq_self_iff]
    intro nonempty
    simp [first text[0] (List.head?_eq_getElem? ▸ List.getElem?_eq_getElem nonempty)]
  have ended : text.rdropWhile isBlank = text := by
    rw [List.rdropWhile_eq_self_iff]
    intro filled
    simp [last (text.getLast filled) (List.getLast?_eq_getLast_of_ne_nil filled)]
  rw [trimChars, begun]
  exact ended

/-- Trimming makes no text longer. -/
theorem length_trimChars_le (text : List Char) : (trimChars text).length ≤ text.length := by
  have shorter : (trimChars text).length ≤ (text.dropWhile isBlank).length :=
    (List.rdropWhile_prefix _ _).length_le
  exact Nat.le_trans shorter (List.dropWhile_suffix _).length_le

/-- A trimmed text ends with no blank. -/
theorem isBlank_getLast_trimChars {text : List Char} {c : Char}
    (last : c ∈ (trimChars text).getLast?) : isBlank c = false := by
  obtain ⟨filled, rfl⟩ := List.mem_getLast?_eq_getLast last
  rw [← Bool.not_eq_true]
  exact List.rdropWhile_last_not _ _ filled

/-- A character that is no blank may stand in front of a trimmed text. The character itself becomes
    the first of the whole, and the last one is that of the text unless it is empty. -/
theorem trimChars_cons {c : Char} {text : List Char} (solid : isBlank c = false)
    (trimmed : trimChars text = text) : trimChars (c :: text) = c :: text := by
  refine trimChars_eq_self (fun first head => ?_) fun last ended => ?_
  · cases head
    exact solid
  · cases text with
    | nil =>
      cases ended
      exact solid
    | cons next rest =>
      rw [List.getLast?_cons_cons, ← trimmed] at ended
      exact isBlank_getLast_trimChars ended

/-- A text without blanks is trimmed. -/
theorem trim_eq_self {text : String} (solid : ∀ c ∈ text.toList, isBlank c = false) :
    trim text = text := by
  have kept : trimChars text.toList = text.toList :=
    trimChars_eq_self (fun c first => solid c (List.mem_of_head? first))
      fun c last => solid c (List.mem_of_getLast? last)
  rw [trim, kept, String.ofList_toList]

/-- Trimming leaves all characters of a trimmed string. -/
theorem trimChars_toList {text : String} (trimmed : trim text = text) :
    trimChars text.toList = text.toList := by
  have kept := congrArg String.toList trimmed
  rwa [trim, String.toList_ofList] at kept

/-- Trimming leaves nothing exactly of a blank text. Such a text loses all of it at its beginning
    already. -/
theorem trimChars_eq_nil {text : List Char} : trimChars text = [] ↔ ∀ c ∈ text, isBlank c := by
  constructor
  · intro nothing
    have blanks : ∀ c ∈ text.dropWhile isBlank, isBlank c := List.rdropWhile_eq_nil_iff.mp nothing
    -- What starts with no blank and consists of blanks is empty.
    have dropped : text.dropWhile isBlank = [] := by
      rw [← List.dropWhile_idempotent isBlank]
      exact List.dropWhile_eq_nil_iff.mpr blanks
    exact List.dropWhile_eq_nil_iff.mp dropped
  · intro blanks
    rw [trimChars, List.dropWhile_eq_nil_iff.mpr blanks]
    rfl

/-- A text is left with a name exactly when trimming leaves this name of it, and it is not empty.
    Texts of blanks alone are left with none. -/
theorem nonBlank_eq_some_iff {text name : String} :
    nonBlank? text = some name ↔ trim text = name ∧ name ≠ "" := by
  simp only [nonBlank?, String.isEmpty_iff]
  split
  · rename_i nothing
    simp [nothing]
  · rename_i remains
    simp only [Option.some.injEq]
    constructor
    · rintro rfl
      exact ⟨rfl, remains⟩
    · exact And.left

/-- A text that is not blank is left with what trimming leaves of it. -/
theorem nonBlank_eq_some {text : String} (given : isBlankText text = false) :
    nonBlank? text = some (trim text) := by
  refine nonBlank_eq_some_iff.mpr ⟨rfl, fun nothing => ?_⟩
  have blanks := trimChars_eq_nil.mp (String.ofList_eq_empty_iff.mp nothing)
  rw [isBlankText, List.all_eq_true.mpr blanks] at given
  cases given

/-- A trimmed text that is not blank stays as it is. So taking the name of a name changes
    nothing. -/
theorem nonBlank_of_nonBlank {text trimmed : String} (found : nonBlank? text = some trimmed) :
    nonBlank? trimmed = some trimmed := by
  obtain ⟨rfl, remains⟩ := nonBlank_eq_some_iff.mp found
  exact nonBlank_eq_some_iff.mpr ⟨trim_trim text, remains⟩

end RecordQuery.Text
