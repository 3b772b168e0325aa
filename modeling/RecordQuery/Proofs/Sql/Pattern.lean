import RecordQuery.Proofs.Expr.Evaluation
import RecordQuery.Sql.Condition
import RecordQuery.Sql.Text

/-!
# Patterns and text tests

A database reads a pattern of its own: a percent sign stands for any run of characters, an
underscore for any one character, and a backslash takes the character behind it literally.
The patterns that text tests are written as are accepted exactly by the texts on which the
tests hold in memory, whatever characters the tested text has.
-/

namespace RecordQuery

namespace Sql

/-- Whether a subject has the form of a pattern. A backslash at the very end of a pattern
    takes no character, and nothing has that form. -/
def accepts : List Char → List Char → Bool
  | [], subject => subject.isEmpty
  | sign :: pattern, subject =>
      if sign = '%' then subject.tails.any (accepts pattern)
      else if sign = '\\' then
        match pattern, subject with
        | literal :: pattern, c :: subject => c == literal && accepts pattern subject
        | _, _ => false
      else
        match subject with
        | c :: subject => (sign == '_' || c == sign) && accepts pattern subject
        | [] => false

/-- The empty pattern is the form of the empty text only. -/
theorem accepts_nil {subject : List Char} : accepts [] subject = true ↔ subject = [] := by
  simp [accepts]

/-- A percent sign takes any characters before those that the rest of the pattern takes. The
    definition tries all ends of the text, and this turns them into a split. -/
theorem accepts_percent {pattern subject : List Char} :
    accepts ('%' :: pattern) subject = true ↔
      ∃ skipped rest, subject = skipped ++ rest ∧ accepts pattern rest = true := by
  rw [accepts.eq_def]
  simp only [if_true, List.any_eq_true, List.mem_tails]
  constructor
  · rintro ⟨rest, ⟨skipped, rfl⟩, accepted⟩
    exact ⟨skipped, rest, rfl, accepted⟩
  · rintro ⟨skipped, rest, rfl, accepted⟩
    exact ⟨rest, List.suffix_append skipped rest, accepted⟩

/-- A character behind a backslash stands for itself. -/
theorem accepts_escaped {literal : Char} {pattern subject : List Char} :
    accepts ('\\' :: literal :: pattern) subject = true ↔
      ∃ rest, subject = literal :: rest ∧ accepts pattern rest = true := by
  have noPercent : '\\' ≠ '%' := by decide
  rw [accepts.eq_def]
  cases subject <;> simp [noPercent]

/-- A character without a meaning of its own stands for itself. The three characters with a meaning
    are a backslash, a percent sign and an underscore. -/
theorem accepts_plain {literal : Char} {pattern subject : List Char}
    (plain : ¬(literal = '\\' ∨ literal = '%' ∨ literal = '_')) :
    accepts (literal :: pattern) subject = true ↔
      ∃ rest, subject = literal :: rest ∧ accepts pattern rest = true := by
  obtain ⟨noEscape, noPercent, noUnderscore⟩ :
      literal ≠ '\\' ∧ literal ≠ '%' ∧ literal ≠ '_' := by
    simpa only [not_or] using plain
  rw [accepts.eq_def]
  cases subject <;> simp [noEscape, noPercent, noUnderscore]

/-- An escaped text takes itself and nothing else, and leaves what is behind it to the rest of the
    pattern. Whatever characters with a meaning the text has, it is escaped character by
    character. -/
theorem accepts_escapePattern_append {literal pattern subject : List Char} :
    accepts (escapePattern literal ++ pattern) subject = true ↔
      ∃ rest, subject = literal ++ rest ∧ accepts pattern rest = true := by
  induction literal generalizing subject with
  | nil => simp [escapePattern]
  | cons c others inductionHypothesis =>
    have first : accepts (escapePattern (c :: others) ++ pattern) subject = true ↔
        ∃ rest, subject = c :: rest ∧
          accepts (escapePattern others ++ pattern) rest = true := by
      rw [escapePattern]
      split
      · exact accepts_escaped
      · rename_i plain
        exact accepts_plain plain
    rw [first]
    simp only [inductionHypothesis]
    constructor
    · rintro ⟨_, rfl, rest, rfl, accepted⟩
      exact ⟨rest, rfl, accepted⟩
    · rintro ⟨rest, rfl, accepted⟩
      exact ⟨others ++ rest, rfl, rest, rfl, accepted⟩

/-- The pattern of a text test is accepted by the subjects on which the test holds. The split is by
    the anchor: a percent sign stands in front, behind, or on both sides. -/
theorem accepts_pattern_iff {method : Method} (isTest : method.isTextTest = true)
    (subject content : String) :
    accepts (pattern (anchorOf method) content) subject.toList =
      Value.textTest method subject content := by
  rw [Bool.eq_iff_iff]
  have whole (rest : List Char) : accepts ['%'] rest = true := by
    simp [accepts_percent, accepts_nil]
  have anyEnd : accepts (escapePattern content.toList) =
      accepts (escapePattern content.toList ++ []) := by
    rw [List.append_nil]
  cases method with
  | contains =>
    simp only [anchorOf, pattern, Value.textTest, Value.occursIn_iff_infix, accepts_percent,
      accepts_escapePattern_append, whole, and_true]
    constructor
    · rintro ⟨before, _, split, after, rfl⟩
      exact ⟨before, after, by rw [split, List.append_assoc]⟩
    · rintro ⟨before, after, split⟩
      exact ⟨before, _, by rw [← split, List.append_assoc], after, rfl⟩
  | startsWith =>
    simp only [anchorOf, pattern, Value.textTest, List.isPrefixOf_iff_prefix,
      accepts_escapePattern_append, whole, and_true]
    exact ⟨fun ⟨after, split⟩ => ⟨after, split.symm⟩, fun ⟨after, split⟩ => ⟨after, split.symm⟩⟩
  | endsWith =>
    simp only [anchorOf, pattern, Value.textTest, List.isSuffixOf_iff_suffix, accepts_percent,
      anyEnd, accepts_escapePattern_append, accepts_nil]
    constructor
    · rintro ⟨before, _, split, _, rfl, rfl⟩
      exact ⟨before, by rw [split, List.append_nil]⟩
    · rintro ⟨before, split⟩
      exact ⟨before, content.toList, split.symm, [], by simp, rfl⟩
  | month => simp [Method.isTextTest] at isTest
  | inSet => simp [Method.isTextTest] at isTest

end Sql

end RecordQuery
