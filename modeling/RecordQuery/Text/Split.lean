/-!
# Splitting and cutting text

Splitting cuts at every separator and keeps empty pieces, so `n` separators give `n + 1`
pieces. Cutting stops at the first separator, and gives back the text when this is put between
what stands before and after it (`join_cut`).
-/

namespace RecordQuery.Text

/-- Every piece between two separators, empty ones included. -/
def pieces (separator : Char) : List Char → List (List Char)
  | [] => [[]]
  | c :: rest =>
      if c = separator then [] :: pieces separator rest
      else
        match pieces separator rest with
        | [] => [[c]]
        | piece :: others => (c :: piece) :: others

/-- The text before the first separator and the text after it, if there is one. -/
def cut? (separator : Char) : List Char → Option (List Char × List Char)
  | [] => none
  | c :: rest =>
      if c = separator then some ([], rest)
      else (cut? separator rest).map fun parts => (c :: parts.1, parts.2)

/-- The pieces of a string. -/
def split (separator : Char) (text : String) : List String :=
  (pieces separator text.toList).map String.ofList

/-- A text has at least one piece. -/
theorem pieces_ne_nil (separator : Char) (text : List Char) : pieces separator text ≠ [] := by
  cases text with
  | nil => simp [pieces]
  | cons c rest =>
    unfold pieces
    split
    · simp
    · split <;> simp

/-- A text is what stands before its first separator, the separator, and the rest. -/
theorem join_cut {separator : Char} {text before after : List Char}
    (found : cut? separator text = some (before, after)) :
    text = before ++ separator :: after := by
  induction text generalizing before after with
  | nil => simp [cut?] at found
  | cons c rest ih =>
    by_cases same : c = separator
    · simp_all [cut?]
    · simp only [cut?, same, if_false, Option.map_eq_some_iff, Prod.mk.injEq] at found
      obtain ⟨parts, inner, head, tail⟩ := found
      rw [ih inner, ← head, ← tail]
      rfl

end RecordQuery.Text
