import RecordQuery.Literal.Basic
import RecordQuery.Literal.Read
import RecordQuery.Proofs.DateTime.RoundTrip
import RecordQuery.Proofs.Literal.Constants
import RecordQuery.Proofs.Sql.Lexing

/-!
# Dates in conditions and in text

A date is written in whole seconds, as a literal of SQL and as the literal of a filter alike. It is
read from either as the date without the fraction of its second, so a date with a fraction is not
read back, although it can be read from a text.
-/

namespace RecordQuery.Literal

/-- The written form of a date is read as the date without the fraction of its second. -/
theorem readDate_text {date : DateTime} (leap : date.LeapInPlace) :
    readDate date.text = .ok date.wholeSeconds := by
  rw [readDate_eq_ok, DateTime.trimChars_text]
  exact DateTime.read_text leap

/-- A date that was read from a text is written as a literal of SQL and as a literal of a filter.
    Both are read back as the date without the fraction of its second, which is the date itself
    exactly if it has none.

    Proof: a date that was read has its leap seconds in place, and is therefore read back from what
    it is written as, but for the fraction, which is not written. -/
theorem written_date_read_back {text : String} {date : DateTime}
    (read : readDate text = .ok date) (quote : Char) (type : DataType) :
    ∃ literal content : String,
      (Sql.ofExpr (.constant (.date date) type)).map (Sql.toText quote) = .ok literal ∧
        SqlToken.ofText? quote literal = some [.string content] ∧
        readDate content = .ok date.wholeSeconds ∧
        readDate (Literal.date date).toText = .ok date.wholeSeconds ∧
        (date.wholeSeconds = date ↔ date.nanosecond % 1000000000 = 0) := by
  have leap : date.LeapInPlace := DateTime.leapInPlace_of_read (readDate_eq_ok.mp read)
  have back := readDate_text leap
  exact ⟨Sql.stringLiteral date.text.toList, date.text, rfl,
    SqlToken.ofText_of_lexes (Sql.lexes_text date.text), back, back, DateTime.wholeSeconds_eq_iff⟩

/-- A leap second with an offset is written in universal time and read back as a leap second. It is
    written as second 60, which is kept in second 59 of the same minute. -/
theorem written_leap_second_read_back :
    let date : DateTime := ⟨1999, 12, 31, 22, 59, 59, 1000000000, by decide⟩
    readDate "1999-12-31T23:59:60+01:00" = .ok date ∧
      ∃ literal content : String,
        (Sql.ofExpr (.constant (.date date) .date)).map (Sql.toText '"') = .ok literal ∧
          SqlToken.ofText? '"' literal = some [.string content] ∧
          readDate content = .ok date ∧ readDate (Literal.date date).toText = .ok date := by
  intro date
  have read : readDate "1999-12-31T23:59:60+01:00" = .ok date :=
    readDate_eq_ok.mpr (by decide +kernel)
  obtain ⟨literal, content, written, tokens, fromSql, fromText, whole⟩ :=
    written_date_read_back read '"' .date
  have kept : date.wholeSeconds = date := whole.mpr (Nat.mod_self _)
  rw [kept] at fromSql fromText
  exact ⟨read, literal, content, written, tokens, fromSql, fromText⟩

/-- Half a second is read, but it is not written, so another date is read back. A condition on the
    date then compares with the full second. -/
theorem written_half_second_differs :
    let date : DateTime := ⟨2024, 1, 1, 0, 0, 0, 500000000, by decide⟩
    readDate "2024-01-01 00:00:00.5" = .ok date ∧
      (Sql.ofExpr (.constant (.date date) .date)).map (Sql.toText '"') =
        .ok "'2024-01-01 00:00:00'" ∧
      SqlToken.ofText? '"' "'2024-01-01 00:00:00'" = some [.string "2024-01-01 00:00:00"] ∧
      (Literal.date date).toText = "2024-01-01 00:00:00" ∧
      readDate "2024-01-01 00:00:00" ≠ .ok date := by
  intro date
  refine ⟨readDate_eq_ok.mpr (by decide +kernel), ?_, by decide +kernel, by decide +kernel, ?_⟩
  · exact congrArg Except.ok (by decide +kernel : Sql.stringLiteral date.text.toList = _)
  · rw [ne_eq, readDate_eq_ok]
    decide +kernel

end RecordQuery.Literal
