import RecordQuery.Proofs.Number.Numeral
import RecordQuery.Proofs.Sql.Token
import Mathlib.Data.List.Forall2

/-!
# The tokens of conditions

The text of a condition falls into the tokens that its tree lists. A name or a string becomes one
token whatever characters it has, since its quotes are doubled inside, and a token is followed by a
blank, a parenthesis or a comma, which no token that is complete takes in. Texts are therefore put
together as their tokens are.
-/

namespace RecordQuery

namespace SqlToken

/-- Whether a character always stands by itself. -/
def isSeparator (c : Char) : Bool :=
  c == ' ' || c == '(' || c == ')' || c == ','

/-- Whether a separator ends what is pending: it is no part of a quoted token or of a comment. -/
def Pending.Ends : Pending → Prop
  | quoted _ _ | comment => False
  | closed mark _ => isSeparator mark = false
  | _ => True

/-- Whether a character can stand around names: a quoted token begins with it and is no string. -/
def IsQuote (quote : Char) : Prop :=
  Pending.begin? quote quote = some ([], .quoted quote []) ∧ quote ≠ '\''

/-- Double quotes and backticks can stand around names. -/
theorem isQuote_of_usual {quote : Char} (usual : quote = '"' ∨ quote = '`') : IsQuote quote := by
  rcases usual with rfl | rfl
  · exact ⟨rfl, by decide⟩
  · exact ⟨rfl, by decide⟩

/-- Quotes are no separators. -/
theorem IsQuote.separate {quote : Char} (isQuote : IsQuote quote) : isSeparator quote = false := by
  rw [Bool.eq_false_iff]
  intro separates
  simp only [isSeparator, Bool.or_eq_true, beq_iff_eq] at separates
  rcases separates with ((rfl | rfl) | rfl) | rfl <;> cases isQuote.1

/-- A separator does not continue what it ends. Comments and open quotes are left out, as they go on
    across separators. -/
theorem Pending.extend_separator {pending : Pending} (ends : pending.Ends) {c : Char}
    (separator : isSeparator c = true) : pending.extend? c = none := by
  cases pending with
  | quoted _ _ | comment => cases ends
  | nothing => rfl
  | closed mark content =>
    have other : c ≠ mark := by
      rintro rfl
      rw [Ends, separator] at ends
      cases ends
    rw [extend?, if_neg other]
  | _ =>
    simp only [isSeparator, Bool.or_eq_true, beq_iff_eq] at separator
    rcases separator with ((rfl | rfl) | rfl) | rfl <;> rfl

variable {quote : Char}

/-- Where nothing is pending, a character begins something behind the tokens so far. -/
theorem scan_nothing (done : List SqlToken) (c : Char) : scan quote (done, .nothing) c =
    (Pending.begin? quote c).map fun begun => (done ++ begun.1, begun.2) := by
  cases begun : Pending.begin? quote c <;>
    simp [scan, begun, Pending.extend?, Pending.finish?]

/-- Earlier tokens have no influence on a scan. Only what is pending decides what the next character
    does. -/
theorem scan_append (earlier : List SqlToken) (scanned : List SqlToken × Pending) (c : Char) :
    scan quote (earlier ++ scanned.1, scanned.2) c =
      (scan quote scanned c).map fun later => (earlier ++ later.1, later.2) := by
  simp only [scan]
  cases scanned.2.extend? c with
  | some _ => simp
  | none =>
    cases scanned.2.finish? with
    | none => rfl
    | some done => cases Pending.begin? quote c <;> simp

/-- Earlier tokens stand before those of a whole text. The induction is on the text, with what was
    scanned so far general. -/
theorem foldlM_scan_append (earlier : List SqlToken) (scanned : List SqlToken × Pending)
    (text : List Char) :
    text.foldlM (scan quote) (earlier ++ scanned.1, scanned.2) =
      (text.foldlM (scan quote) scanned).map fun later => (earlier ++ later.1, later.2) := by
  induction text generalizing scanned with
  | nil => rfl
  | cons c rest inductionHypothesis =>
    rw [List.foldlM_cons, List.foldlM_cons, scan_append]
    cases scan quote scanned c with
    | none => rfl
    | some next => exact inductionHypothesis next

/-- A text falls into tokens, the last of which ends with the text or at a separator behind it. -/
def Lexes (quote : Char) (text : List Char) (tokens : List SqlToken) : Prop :=
  ∃ done pending last, text.foldlM (scan quote) ([], .nothing) = some (done, pending) ∧
    pending.Ends ∧ pending.finish? = some last ∧ tokens = done ++ last

/-- The tokens of a text are those that it falls into. -/
theorem ofText_of_lexes {text : String} {tokens : List SqlToken}
    (lexes : Lexes quote text.toList tokens) : ofText? quote text = some tokens := by
  obtain ⟨done, pending, last, scanned, -, finished, rfl⟩ := lexes
  simp [ofText?, scanned, finished]

namespace Lexes

variable {text rest : List Char} {tokens more : List SqlToken}

/-- No text has no token. -/
theorem nil : Lexes quote [] [] :=
  ⟨[], .nothing, [], rfl, trivial, rfl, rfl⟩

/-- A text whose last token the next character does not continue is followed by the tokens of what
    this character begins. The last token is then complete, so both texts can be scanned by
    themselves. -/
theorem resume {c : Char} {done last : List SqlToken} {pending : Pending}
    (scanned : text.foldlM (scan quote) ([], .nothing) = some (done, pending))
    (stops : pending.extend? c = none) (finished : pending.finish? = some last)
    (second : Lexes quote (c :: rest) more) :
    Lexes quote (text ++ c :: rest) (done ++ last ++ more) := by
  obtain ⟨doneRest, pendingRest, lastRest, scannedRest, endsRest, finishedRest, rfl⟩ := second
  -- What is pending is finished, as if the second text were scanned by itself.
  have parted : scan quote (done, pending) c = scan quote ((done ++ last) ++ [], .nothing) c := by
    rw [scan_nothing]
    cases begun : Pending.begin? quote c <;> simp [scan, stops, finished, begun]
  have joined : (text ++ c :: rest).foldlM (scan quote) ([], .nothing) =
      some ((done ++ last) ++ doneRest, pendingRest) := by
    rw [List.foldlM_append, scanned, Option.bind_eq_bind, Option.bind_some, List.foldlM_cons,
      parted,
      ← List.foldlM_cons, foldlM_scan_append (done ++ last) ([], .nothing), scannedRest]
    rfl
  exact ⟨_, pendingRest, lastRest, joined, endsRest, finishedRest, by simp⟩

/-- A text and one that begins with a separator fall into the tokens of both. -/
theorem append {c : Char} (first : Lexes quote text tokens) (second : Lexes quote (c :: rest) more)
    (separator : isSeparator c = true) : Lexes quote (text ++ c :: rest) (tokens ++ more) := by
  obtain ⟨done, pending, last, scanned, ends, finished, rfl⟩ := first
  exact resume scanned (Pending.extend_separator ends separator) finished second

/-- A character that is complete by itself falls into its own tokens. It has to be one that begins
    nothing, such as a parenthesis or a comma. -/
theorem cons {c : Char} {single : List SqlToken}
    (begins : Pending.begin? quote c = some (single, .nothing)) (lexes : Lexes quote text tokens) :
    Lexes quote (c :: text) (single ++ tokens) := by
  obtain ⟨done, pending, last, scanned, ends, finished, rfl⟩ := lexes
  have alone : scan quote ([], .nothing) c = some (single ++ [], .nothing) := by
    rw [scan_nothing, begins, List.append_nil]
    rfl
  have joined : (c :: text).foldlM (scan quote) ([], .nothing) =
      some (single ++ done, pending) := by
    rw [List.foldlM_cons, alone, Option.bind_eq_bind, Option.bind_some,
      foldlM_scan_append single ([], .nothing), scanned]
    rfl
  exact ⟨_, pending, last, joined, ends, finished, by simp⟩

/-- A blank in front makes no token. -/
theorem blank (lexes : Lexes quote text tokens) : Lexes quote (' ' :: text) tokens := by
  have begins : Pending.begin? quote ' ' = some ([], .nothing) := rfl
  exact cons begins lexes

/-- Texts with a blank between them fall into the tokens of both. -/
theorem spaced (first : Lexes quote text tokens) (second : Lexes quote rest more) :
    Lexes quote (text ++ ' ' :: rest) (tokens ++ more) :=
  first.append second.blank rfl

/-- A text in parentheses falls into its tokens between those of the parentheses. -/
theorem parenthesized (lexes : Lexes quote text tokens) :
    Lexes quote ('(' :: (text ++ [')'])) (.opening :: (tokens ++ [.closing])) := by
  have opens : Pending.begin? quote '(' = some ([.opening], .nothing) := rfl
  have closes : Pending.begin? quote ')' = some ([.closing], .nothing) := rfl
  exact cons opens (lexes.append (cons closes nil) rfl)

/-- A text behind a comma falls into its tokens behind that of the comma. -/
theorem comma (lexes : Lexes quote text tokens) :
    Lexes quote (',' :: ' ' :: text) (.comma :: tokens) := by
  have begins : Pending.begin? quote ',' = some ([.comma], .nothing) := rfl
  exact cons begins lexes.blank

/-- A keyword falls into its own token. -/
theorem word (quote : Char) (word : SqlWord) : Lexes quote word.spelling.toList [.word word] := by
  cases word <;> exact ⟨[], .word _, _, rfl, trivial, rfl, rfl⟩

/-- A relation sign falls into its own token. -/
theorem relation (relation : Relation) :
    Lexes quote (Sql.relationSign relation).toList [.relation relation] := by
  cases relation with
  | lt => exact ⟨[], .less, _, rfl, trivial, rfl, rfl⟩
  | gt => exact ⟨[], .greater, _, rfl, trivial, rfl, rfl⟩
  | _ => exact ⟨_, .nothing, [], rfl, trivial, rfl, rfl⟩

/-- What stands between quotes is pending as a whole behind the second quote, whatever its
    characters are. Quotes inside are doubled, and a doubled quote does not end what is pending. -/
theorem foldlM_enclosed {mark : Char}
    (begins : Pending.begin? quote mark = some ([], .quoted mark [])) (content : List Char) :
    (Sql.enclosed mark content).foldlM (scan quote) ([], .nothing) =
      some ([], .closed mark content) := by
  have inside (known : List Char) :
      (Sql.doubled mark content).foldlM (scan quote) ([], .quoted mark known) =
        some ([], .quoted mark (known ++ content)) := by
    induction content generalizing known with
    | nil => simp [Sql.doubled]
    | cons c rest inductionHypothesis =>
      by_cases isMark : c = mark
      · subst c
        simpa [Sql.doubled, scan, Pending.extend?] using inductionHypothesis (known ++ [mark])
      · simpa [Sql.doubled, scan, Pending.extend?, isMark] using inductionHypothesis (known ++ [c])
  have opened : scan quote ([], .nothing) mark = some ([], .quoted mark []) := by
    rw [scan_nothing, begins]
    rfl
  rw [Sql.enclosed, List.foldlM_cons, opened, Option.bind_eq_bind, Option.bind_some,
    List.foldlM_append, inside]
  simp [scan, Pending.extend?]

/-- What stands between quotes is one token, whatever its characters are. -/
theorem enclosed {mark : Char} (begins : Pending.begin? quote mark = some ([], .quoted mark []))
    (separate : isSeparator mark = false) (content : List Char) :
    Lexes quote (Sql.enclosed mark content) [between mark content] :=
  ⟨[], .closed mark content, _, foldlM_enclosed begins content, separate, rfl, rfl⟩

/-- What stands between quotes in front of a point is one token, and the point another. A point is
    not the second quote, which alone would continue it. -/
theorem enclosed_point {mark : Char}
    (begins : Pending.begin? quote mark = some ([], .quoted mark [])) (content : List Char)
    (lexes : Lexes quote text tokens) :
    Lexes quote (Sql.enclosed mark content ++ '.' :: text)
      (between mark content :: .dot :: tokens) := by
  have other : '.' ≠ mark := by
    rintro rfl
    cases begins
  have stops : (Pending.closed mark content).extend? '.' = none := if_neg other
  have point : Pending.begin? quote '.' = some ([.dot], .nothing) := rfl
  exact resume (foldlM_enclosed begins content) stops rfl (cons point lexes)

/-- Digits extend a run of digits. The induction is on the digits, with those known general. -/
theorem foldlM_whole {digits : List Char} (all : ∀ c ∈ digits, c.isDigit = true)
    (known : List Char) : digits.foldlM (scan quote) ([], .whole known) =
      some ([], .whole (known ++ digits)) := by
  induction digits generalizing known with
  | nil => simp
  | cons c rest inductionHypothesis =>
    obtain ⟨isDigit, others⟩ := List.forall_mem_cons.mp all
    simpa [scan, Pending.extend?, isDigit] using inductionHypothesis others (known ++ [c])

/-- Digits extend a run of digits behind a point. The digits before the point are carried along. -/
theorem foldlM_fraction {digits : List Char} (all : ∀ c ∈ digits, c.isDigit = true)
    (before known : List Char) : digits.foldlM (scan quote) ([], .fraction before known) =
      some ([], .fraction before (known ++ digits)) := by
  induction digits generalizing known with
  | nil => simp
  | cons c rest inductionHypothesis =>
    obtain ⟨isDigit, others⟩ := List.forall_mem_cons.mp all
    simpa [scan, Pending.extend?, isDigit] using inductionHypothesis others (known ++ [c])

/-- A digit begins a number. -/
theorem begin_digit {c : Char} (isDigit : c.isDigit = true) :
    Pending.begin? quote c = some ([], .whole [c]) := by
  unfold Pending.begin?
  split
  case h_15 => rw [if_pos isDigit]
  all_goals cases isDigit

/-- A numeral is one token. Both forms begin with a digit, and no digit begins anything else. -/
theorem numeral {digits : List Char} (isNumeral : IsNumeral digits) :
    Lexes quote digits [.number (String.ofList digits)] := by
  have begun {c : Char} {rest : List Char} (all : ∀ digit ∈ c :: rest, digit.isDigit = true) :
      (c :: rest).foldlM (scan quote) ([], .nothing) = some ([], .whole (c :: rest)) := by
    obtain ⟨isDigit, others⟩ := List.forall_mem_cons.mp all
    have first : scan quote ([], .nothing) c = some ([], .whole [c]) := by
      rw [scan_nothing, begin_digit isDigit]
      rfl
    rw [List.foldlM_cons, first]
    exact foldlM_whole others [c]
  cases isNumeral with
  | whole some all =>
    obtain ⟨c, rest, rfl⟩ := List.exists_cons_of_ne_nil some
    exact ⟨[], .whole (c :: rest), _, begun all, trivial, rfl, rfl⟩
  | fraction someBefore allBefore someBehind allBehind =>
    obtain ⟨c, rest, rfl⟩ := List.exists_cons_of_ne_nil someBefore
    obtain ⟨d, others, rfl⟩ := List.exists_cons_of_ne_nil someBehind
    refine ⟨[], .fraction (c :: rest) (d :: others), _, ?_, trivial, rfl, rfl⟩
    rw [List.foldlM_append, begun allBefore]
    exact foldlM_fraction allBehind (c :: rest) []

/-- A number behind a minus sign is two tokens. A second minus sign would make it a comment, but a
    numeral begins with a digit. -/
theorem minus {digits : List Char} (isNumeral : IsNumeral digits) :
    Lexes quote ('-' :: digits) [.minus, .number (String.ofList digits)] := by
  obtain ⟨c, rest, rfl, isDigit⟩ := isNumeral.exists_digit
  have stops : Pending.minus.extend? c = none := by
    rw [Pending.extend?, if_neg]
    rintro rfl
    cases isDigit
  have scanned : ['-'].foldlM (scan quote) ([], .nothing) = some ([], .minus) := rfl
  exact resume scanned stops rfl (numeral isNumeral)

end Lexes

end SqlToken

namespace Sql

open SqlToken (Lexes between)

/-- The tokens of a numeral with or without a sign. -/
def numeralTokens (text : String) : List SqlToken :=
  match text.toList with
  | '-' :: digits => [.minus, .number (String.ofList digits)]
  | digits => [.number (String.ofList digits)]

/-- The tokens of each member of a set. -/
def memberTokens : SqlMembers → List (List SqlToken)
  | .ints values => values.map fun value => numeralTokens (Text.ofInt value)
  | .texts values => values.map fun value => [.string value]

/-- The tokens of an expression. They are those of its text, but told from the tree, so that no text
    has to be scanned to know them. -/
def tokens : Sql → List SqlToken
  | column name => [.identifier name]
  | null => [.word .NULL]
  | truth value => [.word (.ofTruth value)]
  | text value => [.string value]
  | number value => numeralTokens value.text
  | date value => [.string value.text]
  | group inner => .opening :: (inner.tokens ++ [.closing])
  | compare relation left right => left.tokens ++ .relation relation :: right.tokens
  | and left right => left.tokens ++ .word .AND :: right.tokens
  | or left right => left.tokens ++ .word .OR :: right.tokens
  | not operand => .word .NOT :: operand.tokens
  | isNull operand => operand.tokens ++ [.word .IS, .word .NULL]
  | isNotNull operand => operand.tokens ++ [.word .IS, .word .NOT, .word .NULL]
  | orFalse operand =>
      .word .COALESCE :: .opening :: (operand.tokens ++ [.comma, .word .FALSE, .closing])
  | month operand => .word .EXTRACT :: .opening :: .word .MONTH :: .word .FROM ::
      (operand.tokens ++ [.closing])
  | like subject anchor content => subject.tokens ++ [.word .LIKE,
      .string (String.ofList (pattern anchor content)), .word .ESCAPE, .string "\\"]
  | within item members => item.tokens ++ .word .IN :: .opening ::
      ([SqlToken.comma].intercalate (memberTokens members) ++ [.closing])

/-- Whether all numbers in an expression are finite. -/
def IsFinite : Sql → Prop
  | number value => value.isFinite = true
  | group inner | not inner | isNull inner | isNotNull inner | orFalse inner | month inner
  | like inner _ _ | within inner _ => inner.IsFinite
  | compare _ left right | and left right | or left right => left.IsFinite ∧ right.IsFinite
  | _ => True

variable {quote : Char}

/-- A string is one token, whatever its characters are. -/
theorem lexes_stringLiteral (content : List Char) :
    Lexes quote (stringLiteral content).toList [.string (String.ofList content)] := by
  rw [stringLiteral, String.toList_ofList]
  exact Lexes.enclosed rfl rfl content

/-- A text is one token, whatever its characters are. -/
theorem lexes_text (value : String) :
    Lexes quote (stringLiteral value.toList).toList [.string value] := by
  have literal : Lexes quote (stringLiteral value.toList).toList
      [.string (String.ofList value.toList)] := lexes_stringLiteral value.toList
  rwa [String.ofList_toList] at literal

/-- A name is one token, whatever its characters are. -/
theorem lexes_identifier (isQuote : SqlToken.IsQuote quote) (name : String) :
    Lexes quote (identifier quote name).toList [.identifier name] := by
  have named : between quote name.toList = .identifier name := by
    rw [between, if_neg isQuote.2, String.ofList_toList]
  rw [identifier, String.toList_ofList, ← named]
  exact Lexes.enclosed isQuote.1 isQuote.separate name.toList

/-- A numeral falls into its tokens. Minus signs are tokens of their own. -/
theorem lexes_numeral {text : String} (isNumeral : IsSignedNumeral text) :
    Lexes quote text.toList (numeralTokens text) := by
  obtain ⟨negative, digits, isNumeral, rfl⟩ := isNumeral
  rw [numeralTokens, String.toList_ofList]
  cases negative with
  | true => exact Lexes.minus isNumeral
  | false =>
    obtain ⟨c, rest, rfl, isDigit⟩ := isNumeral.exists_digit
    simp only [Bool.false_eq_true, if_false]
    split
    · rename_i others same
      obtain ⟨rfl, -⟩ := List.cons.inj same
      cases isDigit
    · exact Lexes.numeral isNumeral

/-- The word for a truth value falls into its own token. -/
theorem lexes_truth (value : Bool) :
    Lexes quote (truthText value).toList [.word (.ofTruth value)] := by
  cases value with
  | true => exact Lexes.word quote .TRUE
  | false => exact Lexes.word quote .FALSE

/-- Texts with a separator between them fall into their tokens with tokens between them, if two
    texts with the separator between them do. Both separators in use, commas and conjunctions, are
    covered in this way. -/
theorem lexes_joined {separator : String} {between : List SqlToken}
    (joins : ∀ {text rest : List Char} {tokens more : List SqlToken}, Lexes quote text tokens →
      Lexes quote rest more →
      Lexes quote (text ++ (separator.toList ++ rest)) (tokens ++ (between ++ more)))
    {texts : List String} {tokens : List (List SqlToken)}
    (lexes : List.Forall₂ (fun text single => Lexes quote text.toList single) texts tokens) :
    Lexes quote (separator.intercalate texts).toList (between.intercalate tokens) := by
  induction lexes with
  | nil => exact Lexes.nil
  | @cons text single texts tokens first others inductionHypothesis =>
    cases others with
    | nil => simpa using first
    | cons second others =>
      have parted := joins first inductionHypothesis
      rw [String.intercalate_cons_cons, List.intercalate_cons_cons]
      simpa using parted

/-- Texts with commas between them fall into their tokens with commas between them. -/
theorem lexes_intercalate {texts : List String} {tokens : List (List SqlToken)}
    (lexes : List.Forall₂ (fun text single => Lexes quote text.toList single) texts tokens) :
    Lexes quote (", ".intercalate texts).toList ([SqlToken.comma].intercalate tokens) := by
  refine lexes_joined ?_ lexes
  intro text rest tokens more first second
  exact first.append second.comma rfl

/-- Conditions with the word between them fall into their tokens with the word between them. -/
theorem lexes_intercalate_and {texts : List String} {tokens : List (List SqlToken)}
    (lexes : List.Forall₂ (fun text single => Lexes quote text.toList single) texts tokens) :
    Lexes quote (" AND ".intercalate texts).toList ([SqlToken.word .AND].intercalate tokens) := by
  refine lexes_joined ?_ lexes
  intro text rest tokens more first second
  exact first.spaced ((Lexes.word quote .AND).spaced second)

/-- The members of a set fall into their tokens with commas between them. A set is written with its
    members in order. -/
theorem lexes_members (members : SqlMembers) :
    Lexes quote (", ".intercalate (memberTexts members)).toList
      ([SqlToken.comma].intercalate (memberTokens members)) := by
  apply lexes_intercalate
  cases members with
  | ints values =>
    simp only [memberTexts, memberTokens, List.forall₂_map_left_iff, List.forall₂_map_right_iff,
      List.forall₂_same]
    exact fun value _ => lexes_numeral (Text.isSignedNumeral_ofInt value)
  | texts values =>
    simp only [memberTexts, memberTokens, List.forall₂_map_left_iff, List.forall₂_map_right_iff,
      List.forall₂_same]
    exact fun value _ => lexes_text value

/-- The text of an expression falls into the tokens of its tree. -/
def IsLexed (quote : Char) (sql : Sql) : Prop :=
  Lexes quote (sql.toText quote).toList sql.tokens

namespace IsLexed

variable {sql inner left right operand : Sql}

/-- Where a text goes on behind an operand, after a blank, its tokens go on behind those of the
    operand. -/
theorem followed {rest : List Char} {more : List SqlToken}
    (spelled : (sql.toText quote).toList = (operand.toText quote).toList ++ ' ' :: rest)
    (listed : sql.tokens = operand.tokens ++ more) (lexed : operand.IsLexed quote)
    (behind : Lexes quote rest more) : sql.IsLexed quote := by
  rw [IsLexed, spelled, listed]
  exact lexed.spaced behind

/-- Where a sign stands between two operands, with a blank on each side, its token stands between
    their tokens. -/
theorem between {sign : String} {token : SqlToken} (signed : Lexes quote sign.toList [token])
    (spelled : (sql.toText quote).toList = (left.toText quote).toList ++
      ' ' :: (sign.toList ++ ' ' :: (right.toText quote).toList))
    (listed : sql.tokens = left.tokens ++ token :: right.tokens)
    (leftLexed : left.IsLexed quote) (rightLexed : right.IsLexed quote) : sql.IsLexed quote :=
  leftLexed.followed spelled listed (signed.spaced rightLexed)

/-- A group falls into its tokens between parentheses. Parentheses are complete by themselves and
    end what stands before them. -/
theorem group (lexed : inner.IsLexed quote) : (group inner).IsLexed quote := by
  have spelled : ((Sql.group inner).toText quote).toList =
      '(' :: ((inner.toText quote).toList ++ [')']) := by
    show ("(" ++ inner.toText quote ++ ")").toList = _
    simp
  rw [IsLexed, spelled, tokens]
  exact lexed.parenthesized

/-- A comparison falls into the tokens of its sides around that of its sign. -/
theorem compare (relation : Relation) (leftLexed : left.IsLexed quote)
    (rightLexed : right.IsLexed quote) : (compare relation left right).IsLexed quote := by
  refine between (Lexes.relation relation) ?_ rfl leftLexed rightLexed
  show (left.toText quote ++ " " ++ relationSign relation ++ " " ++ right.toText quote).toList = _
  simp

/-- A conjunction falls into the tokens of its sides around its word. -/
theorem and (leftLexed : left.IsLexed quote) (rightLexed : right.IsLexed quote) :
    (and left right).IsLexed quote := by
  refine between (Lexes.word quote .AND) ?_ rfl leftLexed rightLexed
  show (left.toText quote ++ " AND " ++ right.toText quote).toList = _
  simp [SqlWord.spelling]

/-- A disjunction falls into the tokens of its sides around its word. -/
theorem or (leftLexed : left.IsLexed quote) (rightLexed : right.IsLexed quote) :
    (or left right).IsLexed quote := by
  refine between (Lexes.word quote .OR) ?_ rfl leftLexed rightLexed
  show (left.toText quote ++ " OR " ++ right.toText quote).toList = _
  simp [SqlWord.spelling]

/-- A negation falls into its word and the tokens of what it negates. The blank between the two ends
    the word. -/
theorem not (lexed : operand.IsLexed quote) : (not operand).IsLexed quote := by
  have spelled : ((Sql.not operand).toText quote).toList =
      SqlWord.NOT.spelling.toList ++ ' ' :: (operand.toText quote).toList := by
    show ("NOT " ++ operand.toText quote).toList = _
    simp [SqlWord.spelling]
  rw [IsLexed, spelled, tokens]
  exact (Lexes.word quote .NOT).spaced lexed

/-- A null test falls into the tokens of what it tests and its two words. -/
theorem isNull (lexed : operand.IsLexed quote) : (isNull operand).IsLexed quote := by
  refine lexed.followed ?_ rfl ((Lexes.word quote .IS).spaced (Lexes.word quote .NULL))
  show (operand.toText quote ++ " IS NULL").toList = _
  simp [SqlWord.spelling]

/-- The opposite of a null test has one word more. -/
theorem isNotNull (lexed : operand.IsLexed quote) : (isNotNull operand).IsLexed quote := by
  have negated := (Lexes.word quote .NOT).spaced (Lexes.word quote .NULL)
  refine lexed.followed ?_ rfl ((Lexes.word quote .IS).spaced negated)
  show (operand.toText quote ++ " IS NOT NULL").toList = _
  simp [SqlWord.spelling]

/-- An operand with false in place of unknown falls into the name of the function and the tokens of
    its two arguments, in parentheses. The name is followed by a parenthesis, which ends it. -/
theorem orFalse (lexed : operand.IsLexed quote) : (orFalse operand).IsLexed quote := by
  have spelled : ((Sql.orFalse operand).toText quote).toList = SqlWord.COALESCE.spelling.toList ++
      '(' :: ((operand.toText quote).toList ++
        (',' :: ' ' :: SqlWord.FALSE.spelling.toList) ++ [')']) := by
    show ("COALESCE(" ++ operand.toText quote ++ ", FALSE)").toList = _
    simp [SqlWord.spelling]
  have listed : (Sql.orFalse operand).tokens = [.word .COALESCE] ++
      .opening :: (operand.tokens ++ .comma :: [.word .FALSE] ++ [.closing]) := by
    simp [tokens]
  have pair := lexed.append (Lexes.word quote .FALSE).comma rfl
  rw [IsLexed, spelled, listed]
  exact (Lexes.word quote .COALESCE).append pair.parenthesized rfl

/-- A month falls into the name of the function and, in parentheses, its words and the tokens of the
    date. Its three words have blanks between them. -/
theorem month (lexed : operand.IsLexed quote) : (month operand).IsLexed quote := by
  have spelled : ((Sql.month operand).toText quote).toList = SqlWord.EXTRACT.spelling.toList ++
      '(' :: ((SqlWord.MONTH.spelling.toList ++ ' ' :: (SqlWord.FROM.spelling.toList ++
        ' ' :: (operand.toText quote).toList)) ++ [')']) := by
    show ("EXTRACT(MONTH FROM " ++ operand.toText quote ++ ")").toList = _
    simp [SqlWord.spelling]
  have source := (Lexes.word quote .FROM).spaced lexed
  have extracted := (Lexes.word quote .MONTH).spaced source
  rw [IsLexed, spelled, tokens]
  exact (Lexes.word quote .EXTRACT).append extracted.parenthesized rfl

/-- A pattern test falls into the tokens of its subject and its words around two strings, the
    pattern and the backslash that escapes. Neither the pattern nor the backslash has an influence
    on where the strings end. -/
theorem like (anchor : SqlAnchor) (content : String) (lexed : operand.IsLexed quote) :
    (like operand anchor content).IsLexed quote := by
  have escape := (Lexes.word quote .ESCAPE).spaced (lexes_text "\\")
  have tested := (lexes_stringLiteral (pattern anchor content)).spaced escape
  refine lexed.followed ?_ rfl ((Lexes.word quote .LIKE).spaced tested)
  show (operand.toText quote ++ " LIKE " ++ stringLiteral (pattern anchor content) ++
    " ESCAPE '\\'").toList = _
  simp [SqlWord.spelling, stringLiteral, enclosed, doubled]

/-- A membership test falls into the tokens of its item, its word and the members in
    parentheses. -/
theorem within (members : SqlMembers) (lexed : operand.IsLexed quote) :
    (within operand members).IsLexed quote := by
  refine lexed.followed ?_ rfl ((Lexes.word quote .IN).spaced (lexes_members members).parenthesized)
  show (operand.toText quote ++ " IN (" ++ ", ".intercalate (memberTexts members) ++ ")").toList = _
  simp [SqlWord.spelling]

end IsLexed

/-- The text of an expression falls into its tokens, whatever characters its names and texts have.

    Proof: induction on the expression, with one lemma for each way to put texts together. Each
    spells the text out as words and separators first, and a blank, a comma or a parenthesis then
    ends the token before it. Numbers need to be finite, since an infinite one is written as a
    name. -/
theorem lexes_toText (isQuote : SqlToken.IsQuote quote) {sql : Sql} (finite : sql.IsFinite) :
    Lexes quote (sql.toText quote).toList sql.tokens := by
  show sql.IsLexed quote
  induction sql with
  | column name => exact lexes_identifier isQuote name
  | null => exact Lexes.word quote .NULL
  | truth value => exact lexes_truth value
  | text value => exact lexes_text value
  | number value => exact lexes_numeral (Number.isSignedNumeral_text finite)
  | date value => exact lexes_text value.text
  | group inner inductionHypothesis => exact .group (inductionHypothesis finite)
  | compare relation left right leftHypothesis rightHypothesis =>
    exact .compare relation (leftHypothesis finite.1) (rightHypothesis finite.2)
  | and left right leftHypothesis rightHypothesis =>
    exact .and (leftHypothesis finite.1) (rightHypothesis finite.2)
  | or left right leftHypothesis rightHypothesis =>
    exact .or (leftHypothesis finite.1) (rightHypothesis finite.2)
  | not operand inductionHypothesis => exact .not (inductionHypothesis finite)
  | isNull operand inductionHypothesis => exact .isNull (inductionHypothesis finite)
  | isNotNull operand inductionHypothesis => exact .isNotNull (inductionHypothesis finite)
  | orFalse operand inductionHypothesis => exact .orFalse (inductionHypothesis finite)
  | month operand inductionHypothesis => exact .month (inductionHypothesis finite)
  | like subject anchor content inductionHypothesis =>
    exact .like anchor content (inductionHypothesis finite)
  | within item members inductionHypothesis => exact .within members (inductionHypothesis finite)

end Sql

end RecordQuery
