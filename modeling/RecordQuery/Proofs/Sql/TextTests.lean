import RecordQuery.Proofs.Sql.Lexing
import RecordQuery.Proofs.Sql.Translation

/-!
# Text tests in conditions

A text test is written with a pattern inside a string literal. The tested text is therefore
escaped twice: its wildcards and backslashes for the pattern, its apostrophes for the literal. A
database undoes the two in the other order, first taking the literal for a string and then this
string for a pattern, and what is left is the tested text.
-/

namespace RecordQuery

/-- The place in a subject at which a text test looks for a part. Months and memberships are no text
    tests, and find nothing. -/
def Method.Finds (method : Method) (part subject : String) : Prop :=
  match method with
  | contains => part.toList <:+: subject.toList
  | startsWith => part.toList <+: subject.toList
  | endsWith => part.toList <:+ subject.toList
  | month | inSet => False

/-- A text test holds where its part is found. In memory a test compares characters, so no character
    of the part has a special meaning. -/
theorem Value.textTest_iff_finds (method : Method) (subject part : String) :
    textTest method subject part = true ↔ method.Finds part subject := by
  cases method with
  | contains => exact occursIn_iff_infix
  | startsWith => exact List.isPrefixOf_iff_prefix
  | endsWith => exact List.isSuffixOf_iff_suffix
  | month => simp [textTest, Method.Finds]
  | inSet => simp [textTest, Method.Finds]

namespace Sql

variable {method : Method} {subject : Expr} {subjectSql : Sql}

/-- A text test is written as a pattern test of its subject. The kind of the test only decides at
    which ends the pattern is open. -/
theorem ofExpr_constantTest (isTest : method.isTextTest = true)
    (translated : ofExpr subject = .ok subjectSql) (part : String) (type : DataType) :
    ofExpr (.call method [subject, .constant (.text part) type]) =
      .ok (group (like subjectSql (anchorOf method) part)) :=
  (ofExpr_textTest isTest).mpr ⟨subject, part, type, subjectSql, rfl, translated, rfl⟩

/-- The text of a pattern test in parentheses. -/
theorem toText_like (quote : Char) (subjectSql : Sql) (anchor : SqlAnchor) (part : String) :
    (group (like subjectSql anchor part)).toText quote =
      "(" ++ (subjectSql.toText quote ++ " LIKE " ++ stringLiteral (pattern anchor part) ++
        " ESCAPE '\\'") ++ ")" := rfl

/-- A text test is written as a string literal behind its subject, with a backslash as the escape
    character. The literal is read as one string, and as a pattern this string is accepted by
    exactly the texts in which the test finds its part: those for which evaluation in memory says
    that the test holds.

    Proof: escaping makes the part stand for itself, and the percent signs around it say where it
    may stand, which is what the test asks. The literal around the pattern is one string, as quotes
    in it are doubled. -/
theorem like_accepts_iff_finds (quote : Char) (isTest : method.isTextTest = true)
    (translated : ofExpr subject = .ok subjectSql) (part : String) (type : DataType) :
    ∃ literal content : String,
      (ofExpr (.call method [subject, .constant (.text part) type])).map (toText quote) =
          .ok ("(" ++ (subjectSql.toText quote ++ " LIKE " ++ literal ++ " ESCAPE '\\'") ++ ")") ∧
        SqlToken.ofText? quote literal = some [.string content] ∧
        ∀ given : String,
          (accepts content.toList given.toList = true ↔ method.Finds part given) ∧
          Value.callMethod method [.text given, .text part] =
            .ok (.bool (accepts content.toList given.toList)) := by
  refine ⟨stringLiteral (pattern (anchorOf method) part),
    String.ofList (pattern (anchorOf method) part), ?_, ?_, fun given => ?_⟩
  · rw [ofExpr_constantTest isTest translated, ← toText_like]
    rfl
  · exact SqlToken.ofText_of_lexes (lexes_stringLiteral _)
  · have same := accepts_pattern_iff isTest given part
    rw [String.toList_ofList, same]
    exact ⟨Value.textTest_iff_finds method given part,
      (Value.callMethod_textTest isTest).mpr (.inl ⟨given, part, rfl, rfl, rfl⟩)⟩

/-- A part with every character that is escaped, the backslash at its end included, is found where
    it ends a text. A text in which other characters stand where the escaped ones are is not
    accepted. -/
theorem like_accepts_escaped_part :
    let p : Parameter := ⟨0, "p", .record "R"⟩
    let name : Member := ⟨"R", "name", .text, .position 0⟩
    let subject : Expr := .member (.parameter p) name
    Method.endsWith.isTextTest = true ∧ ofExpr subject = .ok (column "name") ∧
      ∃ literal content : String, SqlToken.ofText? '"' literal = some [.string content] ∧
        accepts content.toList "was 50%_o'\\".toList = true ∧
        accepts content.toList "was 50 so'\\".toList = false := by
  intro p name subject
  have isTest : Method.endsWith.isTextTest = true := rfl
  have translated : ofExpr subject = .ok (column "name") := rfl
  obtain ⟨literal, content, -, read, decides⟩ :=
    like_accepts_iff_finds '"' isTest translated "%_o'\\" .text
  refine ⟨isTest, translated, literal, content, read, (decides _).1.mpr ?_, ?_⟩
  · show "%_o'\\".toList <:+ "was 50%_o'\\".toList
    decide
  · rw [Bool.eq_false_iff, ne_eq, (decides _).1]
    show ¬"%_o'\\".toList <:+ "was 50 so'\\".toList
    decide

end Sql

end RecordQuery
