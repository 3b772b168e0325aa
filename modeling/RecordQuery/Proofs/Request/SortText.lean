import RecordQuery.Proofs.Outcome
import RecordQuery.Proofs.Text.Blank
import RecordQuery.Proofs.Text.Splitting
import RecordQuery.Request.SortKey

/-!
# The compact text of a sort key

A sort key is written as its name, behind a minus sign if it is descending. Reading takes one sign
off the text, or else a direction from behind a colon, so the name behind a sign may hold further
signs and colons. A descending key is therefore always read from its own text, and an ascending one
exactly if its name begins with no sign and has no colon.
-/

namespace RecordQuery.SortKey

/-- A name that keys are read with: it is not empty and has no blank at its ends. -/
def IsTrimmedName (name : String) : Prop :=
  name ≠ "" ∧ Text.trim name = name

/-- A text of which nothing is taken for a direction: it begins with no sign and has no colon. -/
def IsBare (text : List Char) : Prop :=
  (∀ c ∈ text.head?, c ≠ '-' ∧ c ≠ '+') ∧ ':' ∉ text

/-- The name of a key is what is left of a text without its direction and the blanks around it. A
    text of which nothing is left is refused. -/
theorem read_eq_ok {text : String} {key : SortKey} :
    read text = .ok key ↔ ∃ name,
      parts (Text.trimChars text.toList) = .ok (name, key.ascending) ∧
        key.property = String.ofList (Text.trimChars name) ∧ key.property ≠ "" := by
  obtain ⟨property, ascending⟩ := key
  dsimp only
  rw [read, bind_eq_ok]
  constructor
  · rintro ⟨⟨name, direction⟩, taken, rest⟩
    dsimp only at rest
    split at rest
    · cases rest
    · rename_i filled
      obtain ⟨rfl, rfl⟩ := SortKey.mk.inj (pure_eq_ok.mp rest)
      exact ⟨name, taken, rfl, by simpa using filled⟩
  · rintro ⟨name, taken, rfl, filled⟩
    have remains : (Text.trimChars name).isEmpty = false := by simpa using filled
    refine ⟨(name, ascending), taken, ?_⟩
    simp [remains, pure_eq_ok]

/-- A bare text is all name, of an ascending key. Without a sign in front and a colon inside there
    is nothing to take off. -/
theorem IsBare.parts_eq {text : List Char} (bare : IsBare text) :
    parts text = .ok (text, true) := by
  obtain ⟨unsigned, whole⟩ := bare
  unfold parts
  split
  · exact absurd rfl (unsigned '-' rfl).1
  · exact absurd rfl (unsigned '+' rfl).2
  · rw [Text.cut_eq_none.mpr whole]

/-- The name of an ascending key is less than the text that it is taken from, unless the text is
    bare. A sign in front or a direction behind is taken off, so something is missing. -/
theorem bare_or_shorter {text name : List Char} (taken : parts text = .ok (name, true)) :
    IsBare text ∨ name.length < text.length := by
  unfold parts at taken
  split at taken
  · cases taken
  · cases taken
    exact .inr (Nat.lt_succ_self _)
  · rename_i noMinus noPlus
    split at taken
    · rename_i before word cut
      cases direction : readDirection word with
      | error cause => simp [direction, Except.map] at taken
      | ok ascending =>
        have same : before = name := by simp_all [Except.map]
        rw [Text.join_cut cut, same, List.length_append]
        exact .inr (Nat.lt_add_of_pos_right (Nat.succ_pos _))
    · rename_i uncut
      refine .inl ⟨fun c first => ?_, Text.cut_eq_none.mp uncut⟩
      obtain ⟨rest, rfl⟩ := List.head?_eq_some_iff.mp first
      exact ⟨fun minus => noMinus rest (minus ▸ rfl), fun plus => noPlus rest (plus ▸ rfl)⟩

/-- Keys are read with trimmed names. -/
theorem isTrimmedName_of_read {text : String} {key : SortKey} (done : read text = .ok key) :
    IsTrimmedName key.property := by
  obtain ⟨name, -, property, filled⟩ := read_eq_ok.mp done
  refine ⟨filled, ?_⟩
  rw [property, Text.trim, String.toList_ofList, Text.trimChars_trimChars]

/-- The characters of a trimmed name are left by trimming. -/
theorem IsTrimmedName.trimChars {name : String} (isTrimmed : IsTrimmedName name) :
    Text.trimChars name.toList = name.toList :=
  Text.trimChars_toList isTrimmed.2

/-- A trimmed name behind a sign is read with the direction of the sign. Behind a sign no direction
    is looked for, so the name may have colons and further signs. -/
theorem IsTrimmedName.read_signed {name : String} (isTrimmed : IsTrimmedName name)
    (ascending : Bool) :
    read (String.ofList ((if ascending then '+' else '-') :: name.toList)) =
      .ok ⟨name, ascending⟩ := by
  refine read_eq_ok.mpr ⟨name.toList, ?_, ?_, isTrimmed.1⟩
  · rw [String.toList_ofList]
    cases ascending with
    | false => rw [Text.trimChars_cons (by decide) isTrimmed.trimChars]; rfl
    | true => rw [Text.trimChars_cons (by decide) isTrimmed.trimChars]; rfl
  · rw [isTrimmed.trimChars, String.ofList_toList]

/-- A trimmed name is read as it is, and as ascending, exactly if it is bare. Reading can only
    shorten, so the whole name comes back only if nothing is taken off. -/
theorem IsTrimmedName.read_iff_bare {name : String} (isTrimmed : IsTrimmedName name) :
    read name = .ok ⟨name, true⟩ ↔ IsBare name.toList := by
  rw [read_eq_ok, isTrimmed.trimChars]
  constructor
  · rintro ⟨taken, found, property, -⟩
    rcases bare_or_shorter found with bare | shorter
    · exact bare
    · have longer := Text.length_trimChars_le taken
      rw [← String.toList_ofList (l := Text.trimChars taken), ← property] at longer
      exact absurd shorter (Nat.not_lt.mpr longer)
  · intro bare
    refine ⟨name.toList, bare.parts_eq, ?_, isTrimmed.1⟩
    rw [isTrimmed.trimChars, String.ofList_toList]

/-- An ascending key is written as its name. -/
theorem toText_ascending (name : String) : toText ⟨name, true⟩ = name :=
  String.empty_append

/-- A descending key is written behind a minus sign. -/
theorem toText_descending (name : String) :
    toText ⟨name, false⟩ = String.ofList ('-' :: name.toList) := by
  rw [← String.toList_inj]
  simp [toText]

/-- The keys that are read from some text are those with a trimmed name. Of these, all descending
    ones are read from their own text, and the ascending ones if their name is bare.

    Proof: a key is written with a minus if it is descending and as its bare name otherwise. Behind
    a sign every trimmed name is read as it is, and without one a name is, exactly if nothing in it
    can be taken for a sign or a direction. -/
theorem read_back_iff_bare (key : SortKey) :
    ((∃ text, read text = .ok key) ↔ IsTrimmedName key.property) ∧
      (read key.toText = .ok key ↔
        IsTrimmedName key.property ∧ (key.ascending = false ∨ IsBare key.property.toList)) := by
  obtain ⟨name, ascending⟩ := key
  constructor
  · constructor
    · rintro ⟨text, done⟩
      exact isTrimmedName_of_read done
    · intro isTrimmed
      exact ⟨_, isTrimmed.read_signed ascending⟩
  · constructor
    · intro done
      have isTrimmed : IsTrimmedName name := isTrimmedName_of_read done
      refine ⟨isTrimmed, ?_⟩
      cases ascending with
      | false => exact .inl rfl
      | true =>
        rw [toText_ascending] at done
        exact .inr (isTrimmed.read_iff_bare.mp done)
    · rintro ⟨isTrimmed, plain⟩
      cases ascending with
      | false =>
        rw [toText_descending]
        exact isTrimmed.read_signed false
      | true =>
        have bare : IsBare name.toList := plain.resolve_left Bool.noConfusion
        rw [toText_ascending]
        exact isTrimmed.read_iff_bare.mpr bare

/-- An ascending key whose name begins with a sign or has a colon is read from a text, and its own
    text is read as another key. -/
theorem signed_name_read_otherwise :
    (read "+-age" = .ok ⟨"-age", true⟩ ∧ read (toText ⟨"-age", true⟩) = .ok ⟨"age", false⟩) ∧
      read "+age:desc" = .ok ⟨"age:desc", true⟩ ∧
        read (toText ⟨"age:desc", true⟩) = .ok ⟨"age", false⟩ := by
  decide +kernel

end RecordQuery.SortKey
