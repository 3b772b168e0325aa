import RecordQuery.Text.Split

/-!
# Taking text apart where it was put together

Pieces without a separator, put together with the separator between them, are the pieces of the
whole, and so is what stands before the first separator and behind it. No piece has the separator
in it.
-/

namespace RecordQuery.Text

variable {separator : Char}

/-- A text is cut behind what has no separator in it. What stands behind the separator may have more
    of them. -/
theorem cut_append {before : List Char} (absent : separator ∉ before) (after : List Char) :
    cut? separator (before ++ separator :: after) = some (before, after) := by
  induction before with
  | nil => simp [cut?]
  | cons c rest inductionHypothesis =>
    obtain ⟨other, absentRest⟩ := List.ne_and_not_mem_of_not_mem_cons absent
    simp [cut?, Ne.symm other, inductionHypothesis absentRest]

/-- What stands before the first separator has no separator in it. So a cut is always at the first
    one. -/
theorem not_mem_of_cut {text before after : List Char}
    (found : cut? separator text = some (before, after)) : separator ∉ before := by
  induction text generalizing before with
  | nil => simp [cut?] at found
  | cons c rest inductionHypothesis =>
    by_cases same : c = separator
    · simp only [cut?, same, if_true, Option.some.injEq, Prod.mk.injEq] at found
      simp [← found.1]
    · simp only [cut?, same, if_false, Option.map_eq_some_iff, Prod.mk.injEq] at found
      obtain ⟨⟨inner, behind⟩, cut, rfl, rfl⟩ := found
      exact List.not_mem_cons_of_ne_of_not_mem (Ne.symm same) (inductionHypothesis cut)

/-- A text is cut nowhere exactly if it has no separator in it. -/
theorem cut_eq_none {text : List Char} : cut? separator text = none ↔ separator ∉ text := by
  induction text with
  | nil => simp [cut?]
  | cons c rest inductionHypothesis =>
    by_cases same : c = separator
    · simp [cut?, same]
    · simp [cut?, same, Ne.symm same, inductionHypothesis]

/-- The pieces of a text are those of the list of its characters. Two separators next to each other
    have an empty piece between them. -/
theorem pieces_eq_splitOn (separator : Char) (text : List Char) :
    pieces separator text = text.splitOn separator := by
  induction text with
  | nil => rfl
  | cons c rest inductionHypothesis =>
    rw [List.splitOn, List.splitOnP_cons_eq_if_modifyHead]
    rw [List.splitOn] at inductionHypothesis
    rw [← inductionHypothesis, pieces]
    by_cases same : c = separator
    · simp [same]
    · have filled := pieces_ne_nil separator rest
      cases shape : pieces separator rest with
      | nil => exact absurd shape filled
      | cons piece others => simp [same]

/-- Pieces with the separator between them are the pieces of the whole, if there are any. A list
    without pieces would come back as one empty piece. -/
theorem pieces_intercalate {list : List (List Char)} (absent : ∀ piece ∈ list, separator ∉ piece)
    (filled : list ≠ []) : pieces separator ([separator].intercalate list) = list := by
  rw [pieces_eq_splitOn]
  exact List.splitOn_intercalate separator absent filled

/-- No piece has the separator in it. The induction is on the text, of which the first character
    belongs to the first piece or cuts it off. -/
theorem not_mem_of_mem_pieces {text piece : List Char} (member : piece ∈ pieces separator text) :
    separator ∉ piece := by
  induction text generalizing piece with
  | nil =>
    rw [List.mem_singleton.mp member]
    exact List.not_mem_nil
  | cons c rest inductionHypothesis =>
    rw [pieces] at member
    by_cases same : c = separator
    · rw [if_pos same] at member
      rcases List.mem_cons.mp member with rfl | later
      · exact List.not_mem_nil
      · exact inductionHypothesis later
    · rw [if_neg same] at member
      cases shape : pieces separator rest with
      | nil => exact absurd shape (pieces_ne_nil separator rest)
      | cons first others =>
        simp only [shape] at member inductionHypothesis
        rcases List.mem_cons.mp member with rfl | later
        · exact List.not_mem_cons_of_ne_of_not_mem (Ne.symm same)
            (inductionHypothesis List.mem_cons_self)
        · exact inductionHypothesis (List.mem_cons_of_mem first later)

end RecordQuery.Text
