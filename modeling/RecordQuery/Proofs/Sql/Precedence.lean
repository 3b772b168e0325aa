import RecordQuery.Proofs.Sql.Grammar
import Mathlib.Data.List.Basic

/-!
# How operators are read together

An operand in brackets is read alike wherever it stands, so it can be put behind a `NOT`, beside a
comparison sign and between `AND` and `OR` without a look into the brackets. What is read without
brackets depends on what waits in front of it: a sign that binds at least as tightly takes its right
side first. A test whose subject begins with `NOT` is read beneath it.
-/

namespace RecordQuery

/-- How a constant is written. -/
def SqlLiteral.tokens : SqlLiteral → List SqlToken
  | null => [.word .NULL]
  | truth value => [.word (.ofTruth value)]
  | text content => [.string content]
  | number true digits => [.minus, .number digits]
  | number false digits => [.number digits]

namespace SqlTree

variable {low high level : Nat} {frames : List Frame} {tree : SqlTree}

/-- Whether what waits last binds less tightly than a level. -/
def Weaker (level : Nat) (frames : List Frame) : Prop :=
  ∀ frame ∈ frames.head?, frame.strength < level

/-- A bracket or a looser operator is weaker. -/
theorem weaker_cons {frame : Frame} (looser : frame.strength < level) :
    Weaker level (frame :: frames) := by
  intro first found
  obtain rfl : frame = first := Option.some.inj found
  exact looser

/-- What is weaker than a level is weaker than those above. -/
theorem Weaker.mono (weaker : Weaker low frames) (le : low ≤ high) : Weaker high frames :=
  fun frame found => Nat.lt_of_lt_of_le (weaker frame found) le

/-- Nothing that is weaker is completed. It is the invariant of reading: the stack below an operand
    stays as it is. -/
theorem reduce_weaker (weaker : Weaker level frames) (tree : SqlTree) :
    reduce level frames tree = (frames, tree) := by
  cases frames with
  | nil => rfl
  | cons frame rest =>
    have looser : ¬level ≤ frame.strength := Nat.not_le.mpr (weaker frame rfl)
    rw [reduce]
    split
    · rw [if_neg looser]
    · rfl

/-- An operator that binds tightly enough is completed. -/
theorem reduce_cons {frame : Frame} {whole : SqlTree}
    (completed : frame.complete? tree = some whole)
    (tight : level ≤ frame.strength) :
    reduce level (frame :: frames) tree = reduce level frames whole := by
  rw [reduce, completed]
  exact if_pos tight

/-- What is completed at a level may as well be completed at a higher one first. So operators may be
    completed in two steps without any difference. -/
theorem reduce_reduce (le : low ≤ high) (frames : List Frame) (tree : SqlTree) :
    reduce low (reduce high frames tree).1 (reduce high frames tree).2 =
      reduce low frames tree := by
  induction frames generalizing tree with
  | nil => rfl
  | cons frame rest inductionHypothesis =>
    cases completed : frame.complete? tree with
    | none => simp [reduce, completed]
    | some whole =>
      by_cases tight : high ≤ frame.strength
      · rw [reduce_cons completed tight, reduce_cons completed (Nat.le_trans le tight)]
        exact inductionHypothesis whole
      · have kept : reduce high (frame :: rest) tree = (frame :: rest, tree) :=
          reduce_weaker (weaker_cons (Nat.not_le.mp tight)) tree
        rw [kept]

/-- Tokens lead to a tree behind what waits, up to operators that are completed at a level. -/
def Leads (level : Nat) (start : List Frame × Focus) (tokens : List SqlToken)
    (frames : List Frame) (tree : SqlTree) : Prop :=
  ∃ waiting last, tokens.foldlM read start = some (waiting, .behind last) ∧
    reduce level waiting last = reduce level frames tree

/-- A tree that is complete at a level is complete at those below. -/
theorem Leads.mono {start : List Frame × Focus} {tokens : List SqlToken}
    (leads : Leads high start tokens frames tree) (le : low ≤ high) :
    Leads low start tokens frames tree := by
  obtain ⟨waiting, last, done, same⟩ := leads
  refine ⟨waiting, last, done, ?_⟩
  rw [← reduce_reduce le, same, reduce_reduce le]

/-- Tokens that are read as a tree wherever they stand. -/
def IsItem (tokens : List SqlToken) (tree : SqlTree) : Prop :=
  ∀ frames, tokens.foldlM read (frames, .operand) = some (frames, .behind tree)

/-- A constant is an item. -/
theorem isItem_literal (value : SqlLiteral) : IsItem value.tokens (.literal value) := by
  intro frames
  rcases value with _ | (_ | _) | _ | ⟨_ | _, _⟩ <;> rfl

/-- An item, or the negation of one. -/
inductive IsOperand : List SqlToken → SqlTree → Prop
  | item {tokens : List SqlToken} {tree : SqlTree} (item : IsItem tokens tree) :
      IsOperand tokens tree
  | negation {tokens : List SqlToken} {tree : SqlTree} (item : IsItem tokens tree) :
      IsOperand (.word .NOT :: tokens) (.not tree)

/-- Tokens that are read as a tree behind whatever binds less tightly than a level. -/
def Reads (level : Nat) (tokens : List SqlToken) (tree : SqlTree) : Prop :=
  ∀ frames, Weaker level frames → Leads level (frames, .operand) tokens frames tree

/-- Tokens behind a subject that test it. -/
def Tests (tokens : List SqlToken) (test : SqlTree → SqlTree) : Prop :=
  ∀ frames subject, Weaker 4 frames → Leads 3 (frames, .behind subject) tokens frames (test subject)

variable {tokens leftTokens rightTokens : List SqlToken} {left right : SqlTree}

/-- A negation sign takes the operand behind it before any connective does. -/
theorem IsOperand.leads (operand : IsOperand tokens tree) (frames : List Frame) :
    Leads 3 (frames, .operand) tokens frames tree := by
  cases operand with
  | item item => exact ⟨frames, tree, item frames, rfl⟩
  | negation item => exact ⟨.not :: frames, _, item (.not :: frames), rfl⟩

/-- An operand is read as a tree between connectives. -/
theorem IsOperand.reads (operand : IsOperand tokens tree) (loose : level ≤ 3) :
    Reads level tokens tree :=
  fun frames _ => (operand.leads frames).mono loose

/-- What is read as a tree at a level is so at those below. -/
theorem Reads.mono (reads : Reads high tokens tree) (le : low ≤ high) : Reads low tokens tree :=
  fun frames weaker => (reads frames (weaker.mono le)).mono le

namespace Reads

/-- A sign between two sides joins them if it completes what binds at least as tightly before it.
    The right side is read at the next level, so a second sign of the same level joins on the
    left. -/
theorem join {sign : SqlToken} {frame : SqlTree → Frame} {joined : SqlTree → SqlTree → SqlTree}
    (first : Reads level leftTokens left) (second : Reads (level + 1) rightTokens right)
    (begins : ∀ waiting last rest,
      reduce level waiting last = (rest, left) →
        read (waiting, .behind last) sign = some (frame left :: rest, .operand))
    (strength : (frame left).strength = level)
    (completed : (frame left).complete? right = some (joined left right)) :
    Reads level (leftTokens ++ sign :: rightTokens) (joined left right) := by
  intro frames weaker
  obtain ⟨waiting, last, done, same⟩ := first frames weaker
  rw [reduce_weaker weaker] at same
  have behind : Weaker (level + 1) (frame left :: frames) := weaker_cons (by omega)
  obtain ⟨waiting', last', done', same'⟩ := (second _ behind).mono (Nat.le_succ level)
  rw [reduce_cons completed (Nat.le_of_eq strength.symm)] at same'
  refine ⟨waiting', last', ?_, same'⟩
  rw [List.foldlM_append, done, Option.bind_eq_bind, Option.bind_some, List.foldlM_cons,
    begins waiting last frames same]
  exact done'

/-- A conjunction is read once its sides are. It is the case of one sign and its level. -/
theorem and (first : Reads 2 leftTokens left) (second : Reads 3 rightTokens right) :
    Reads 2 (leftTokens ++ .word .AND :: rightTokens) (.and left right) := by
  have begins (waiting : List Frame) (last : SqlTree) (rest : List Frame)
      (same : reduce 2 waiting last = (rest, left)) :
      read (waiting, .behind last) (.word .AND) = some (.and left :: rest, .operand) := by
    simp [read, continueBehind, same]
  exact join first second begins rfl rfl

/-- A disjunction is read once its sides are. It is the case of one sign and its level. -/
theorem or (first : Reads 1 leftTokens left) (second : Reads 2 rightTokens right) :
    Reads 1 (leftTokens ++ .word .OR :: rightTokens) (.or left right) := by
  have begins (waiting : List Frame) (last : SqlTree) (rest : List Frame)
      (same : reduce 1 waiting last = (rest, left)) :
      read (waiting, .behind last) (.word .OR) = some (.or left :: rest, .operand) := by
    simp [read, continueBehind, same]
  exact join first second begins rfl rfl

/-- What is read behind a bracket is complete at the end of the bracket. No operator inside reaches
    across the bracket, since brackets are the weakest. -/
theorem exists_inside (reads : Reads 1 tokens tree) {bracket : Frame}
    (opens : bracket.strength = 0) (frames : List Frame) :
    ∃ waiting last,
      tokens.foldlM read (bracket :: frames, .operand) = some (waiting, .behind last) ∧
      reduce 1 waiting last = (bracket :: frames, tree) := by
  have weaker : Weaker 1 (bracket :: frames) := weaker_cons (by rw [opens]; decide)
  obtain ⟨waiting, last, done, same⟩ := reads (bracket :: frames) weaker
  exact ⟨waiting, last, done, same.trans (reduce_weaker weaker tree)⟩

/-- What stands in parentheses is an item. They leave no trace in the tree. -/
theorem parenthesized (reads : Reads 1 tokens tree) :
    IsItem (.opening :: (tokens ++ [.closing])) tree := by
  intro frames
  obtain ⟨waiting, last, done, same⟩ :=
    reads.exists_inside (show Frame.opening.strength = 0 from rfl) frames
  have opened : read (frames, .operand) .opening = some (.opening :: frames, .operand) := rfl
  have closed : read (waiting, .behind last) .closing = some (frames, .behind tree) := by
    simp [read, continueBehind, same]
  rw [List.foldlM_cons, opened, Option.bind_eq_bind, Option.bind_some, List.foldlM_append, done]
  simp [closed]

/-- A coalescing with false is an item. The comma completes the first argument, and the second is
    one token. -/
theorem coalesced (reads : Reads 1 tokens tree) :
    IsItem (.word .COALESCE :: .opening :: (tokens ++ [.comma, .word .FALSE, .closing]))
      (.coalesce tree (.literal (.truth false))) := by
  intro frames
  obtain ⟨waiting, last, done, same⟩ :=
    reads.exists_inside (show Frame.coalesce.strength = 0 from rfl) frames
  have opened : [SqlToken.word .COALESCE, .opening].foldlM read (frames, .operand) =
      some (.coalesce :: frames, .operand) := rfl
  have parted : read (waiting, .behind last) .comma =
      some (.coalesceWith tree :: frames, .operand) := by
    simp [read, continueBehind, same]
  have closed : [SqlToken.word .FALSE, .closing].foldlM read
      (.coalesceWith tree :: frames, .operand) =
        some (frames, .behind (.coalesce tree (.literal (.truth false)))) := rfl
  have split : SqlToken.word .COALESCE :: .opening :: (tokens ++ [.comma, .word .FALSE, .closing]) =
      [.word .COALESCE, .opening] ++ (tokens ++ ([.comma] ++ [.word .FALSE, .closing])) := rfl
  rw [split, List.foldlM_append, opened, Option.bind_eq_bind, Option.bind_some,
    List.foldlM_append, done, Option.bind_eq_bind, Option.bind_some, List.foldlM_append,
    List.foldlM_cons, parted]
  exact closed

/-- The month of a date is an item. The words of the function are read one by one, with nothing in
    between. -/
theorem extracted (reads : Reads 1 tokens tree) :
    IsItem (.word .EXTRACT :: .opening :: .word .MONTH :: .word .FROM :: (tokens ++ [.closing]))
      (.month tree) := by
  intro frames
  obtain ⟨waiting, last, done, same⟩ :=
    reads.exists_inside (show Frame.extract.strength = 0 from rfl) frames
  have opened : [SqlToken.word .EXTRACT, .opening, .word .MONTH, .word .FROM].foldlM read
      (frames, .operand) = some (.extract :: frames, .operand) := rfl
  have closed : read (waiting, .behind last) .closing = some (frames, .behind (.month tree)) := by
    simp [read, continueBehind, same]
  have split : SqlToken.word .EXTRACT :: .opening :: .word .MONTH :: .word .FROM ::
      (tokens ++ [.closing]) =
        [.word .EXTRACT, .opening, .word .MONTH, .word .FROM] ++ (tokens ++ [.closing]) := rfl
  rw [split, List.foldlM_append, opened, Option.bind_eq_bind, Option.bind_some,
    List.foldlM_append, done]
  simp [closed]

/-- Tokens by themselves are read as the tree that they are read as behind nothing. -/
theorem ofTokens (reads : Reads 1 tokens tree) : ofTokens? tokens = some tree := by
  have weaker : Weaker 1 [] := by
    rintro frame ⟨⟩
  obtain ⟨waiting, last, done, same⟩ := reads [] weaker
  rw [reduce_weaker weaker] at same
  simp [ofTokens?, done, same]

end Reads

namespace Tests

variable {test : SqlTree → SqlTree}

/-- A test is read on the item in front of it. An item is complete, so the test has nothing before
    it to take over. -/
theorem item (tests : Tests rightTokens test) (subject : IsItem tokens tree) :
    Reads 3 (tokens ++ rightTokens) (test tree) := by
  intro frames weaker
  obtain ⟨waiting, last, done, same⟩ := tests frames tree (weaker.mono (by decide))
  refine ⟨waiting, last, ?_, same⟩
  rw [List.foldlM_append, subject frames]
  exact done

/-- A test is read beneath the negation sign in front of its subject. This is where a text may be
    read as another tree than it was built from. -/
theorem negation (tests : Tests rightTokens test) (subject : IsItem tokens tree) :
    Reads 3 (.word .NOT :: tokens ++ rightTokens) (.not (test tree)) := by
  intro frames weaker
  -- The sign waits behind the subject: it binds less tightly than the test.
  obtain ⟨waiting, last, done, same⟩ := tests (.not :: frames) tree (weaker_cons (by decide))
  have signed : read (frames, .operand) (.word .NOT) = some (.not :: frames, .operand) := rfl
  refine ⟨waiting, last, ?_, same⟩
  rw [List.cons_append, List.foldlM_cons, signed, Option.bind_eq_bind, Option.bind_some,
    List.foldlM_append, subject]
  exact done

/-- A comparison sign with an operand behind it is a test. Behind its sign an operand is read, which
    may itself begin with a negation sign. -/
theorem relation (relation : Relation) (operand : IsOperand tokens right) :
    Tests (.relation relation :: tokens) (.compare relation · right) := by
  intro frames subject weaker
  obtain ⟨waiting, last, done, same⟩ := operand.leads (.compare relation subject :: frames)
  have compared : read (frames, .behind subject) (.relation relation) =
      some (.compare relation subject :: frames, .operand) := by
    simp [read, continueBehind, reduce_weaker weaker]
  refine ⟨waiting, last, ?_, same⟩
  rw [List.foldlM_cons, compared]
  exact done

/-- A word that is complete behind what binds most tightly begins a test of it. No operator waits
    that binds as tightly, so the word finds its subject on top. -/
theorem of_word {word : SqlWord} (focus : SqlTree → Focus)
    (begins : ∀ frames subject, Weaker 4 frames →
      read (frames, .behind subject) (.word word) = some (frames, focus subject))
    (rest : ∀ frames subject, tokens.foldlM read (frames, focus subject) =
      some (frames, .behind (test subject))) :
    Tests (.word word :: tokens) test := by
  intro frames subject weaker
  refine ⟨frames, test subject, ?_, rfl⟩
  rw [List.foldlM_cons, begins frames subject weaker]
  exact rest frames subject

/-- The two words of a null test are read as one. -/
theorem isNull : Tests [.word .IS, .word .NULL] isNull :=
  of_word .is (fun frames subject weaker => by
    simp [read, continueBehind, reduce_weaker weaker]) fun _ _ => rfl

/-- The three words of its opposite are read as that. The second of them is no negation here, since
    it stands behind a word and not in front of an operand. -/
theorem isNotNull : Tests [.word .IS, .word .NOT, .word .NULL] isNotNull :=
  of_word .is (fun frames subject weaker => by
    simp [read, continueBehind, reduce_weaker weaker]) fun _ _ => rfl

/-- A pattern and its escape character are read as a pattern test. -/
theorem like (content escape : String) :
    Tests [.word .LIKE, .string content, .word .ESCAPE, .string escape] (like · content escape) :=
  of_word .like (fun frames subject weaker => by
    simp [read, continueBehind, reduce_weaker weaker]) fun _ _ => rfl

end Tests

/-- Tokens that are read as a member of a set. -/
def IsMember (tokens : List SqlToken) (value : SqlLiteral) : Prop :=
  ∀ frames item known, tokens.foldlM read (frames, .member item known) =
    some (frames, .listed item (known ++ [value]))

/-- A constant is a member. -/
theorem isMember_literal (value : SqlLiteral) : IsMember value.tokens value := by
  intro frames item known
  rcases value with _ | (_ | _) | _ | ⟨_ | _, _⟩ <;> rfl

/-- Members with commas between them are read one after another. The induction is on the members,
    with those known general. -/
theorem foldlM_members {values : List SqlLiteral} (some : values ≠ []) (frames : List Frame)
    (item : SqlTree) (known : List SqlLiteral) :
    ([SqlToken.comma].intercalate (values.map SqlLiteral.tokens)).foldlM read
        (frames, .member item known) =
      .some (frames, .listed item (known ++ values)) := by
  induction values generalizing known with
  | nil => contradiction
  | cons value others inductionHypothesis =>
    cases others with
    | nil => simpa using isMember_literal value frames item known
    | cons second rest =>
      have parted : read (frames, .listed item (known ++ [value])) .comma =
          .some (frames, .member item (known ++ [value])) := rfl
      have behind := inductionHypothesis (List.cons_ne_nil _ _) (known ++ [value])
      rw [List.map_cons] at behind
      rw [List.map_cons, List.map_cons, List.intercalate_cons_cons, List.append_assoc,
        List.foldlM_append, isMember_literal, Option.bind_eq_bind, Option.bind_some,
        List.singleton_append, List.foldlM_cons, parted, Option.bind_eq_bind, Option.bind_some,
        behind]
      simp

/-- A list of members in parentheses behind the word for membership is a test. A list without
    members cannot be read, which is why none is written. -/
theorem Tests.within {values : List SqlLiteral} (some : values ≠ []) :
    Tests (.word .IN :: .opening ::
        ([SqlToken.comma].intercalate (values.map SqlLiteral.tokens) ++ [.closing]))
      (SqlTree.within · values) :=
  of_word .within (fun frames subject weaker => by
    simp [read, continueBehind, reduce_weaker weaker]) fun frames subject => by
      have opened : read (frames, .within subject) .opening =
          .some (frames, .member subject []) := rfl
      rw [List.foldlM_cons, opened, Option.bind_eq_bind, Option.bind_some, List.foldlM_append,
        foldlM_members some]
      rfl

end SqlTree

end RecordQuery
