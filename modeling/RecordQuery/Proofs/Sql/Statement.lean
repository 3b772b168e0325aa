import RecordQuery.Proofs.Query.Simulation
import RecordQuery.Proofs.Sql.Quoting

/-!
# Statements taken apart

The text of a statement is put together from the name of its table, the conditions that predicates
come to and the sort terms that keys come to. In its clauses each condition and each term falls into
its own tokens, where names of columns stand between the quotes that the statement was made with.
The parts of the table's name stand between double quotes. A whole statement therefore falls into
its tokens exactly if it was made with double quotes too; with other quotes no database that knows
these as the only ones can take the text apart.
-/

namespace RecordQuery

namespace Step

/-- The predicates of a run after one more step. -/
def predicatesAfter (predicates : List Predicate) : Step → List Predicate
  | filter predicate => predicates ++ [predicate]
  | orderBy .. => predicates

/-- The predicates of a run, from the first to the last. -/
def predicates (steps : List Step) : List Predicate :=
  steps.foldl predicatesAfter []

end Step

namespace Select

variable {select next : Select} {predicates : List Predicate} {keys : List RowKey} {quote : Char}

/-- A statement gathers predicates and sort keys if it has the condition of each predicate and the
    sort term of each key, in their order and with their direction. Its table and its quotes do not
    matter here. -/
structure Gathers (select : Select) (predicates : List Predicate) (keys : List RowKey) : Prop where
  conditions : List.Forall₂ (fun predicate sql => predicate.toLambda.toCondition = .ok sql)
    predicates select.conditions
  order : List.Forall₂ (fun key term => key.selector.toLambda.toSortTerm = .ok term.term ∧
    key.ascending = term.ascending) keys select.order

/-- A step adds its predicate or its key and leaves the table and the quotes as they are. A step
    that fails gathers nothing, since there is no statement after it. -/
theorem Gathers.apply {step : Step} (gathers : select.Gathers predicates keys)
    (applied : step.apply select = .ok next) :
    next.Gathers (step.predicatesAfter predicates) (step.keysAfter keys) ∧
      next.table = select.table ∧ next.quote = select.quote := by
  cases step with
  | filter predicate =>
    obtain ⟨condition, translated, rfl⟩ := Select.filter_eq_ok.mp applied
    exact ⟨⟨List.rel_append gathers.conditions (.cons translated .nil), gathers.order⟩, rfl, rfl⟩
  | orderBy selector ascending first =>
    obtain ⟨term, translated, rfl⟩ := Select.orderBy_eq_ok.mp applied
    refine ⟨⟨gathers.conditions, List.rel_append ?_ (.cons ⟨translated, rfl⟩ .nil)⟩, rfl, rfl⟩
    cases first with
    | true => exact .nil
    | false => exact gathers.order

/-- A run adds the predicates and keys of its steps, one after the other. The induction goes along
    the steps, for every statement that the run may begin with. -/
theorem Gathers.run {steps : List Step} (gathers : select.Gathers predicates keys)
    (run : Step.run select steps = .ok next) :
    next.Gathers (steps.foldl Step.predicatesAfter predicates) (steps.foldl Step.keysAfter keys) ∧
      next.table = select.table ∧ next.quote = select.quote := by
  induction steps generalizing select predicates keys with
  | nil =>
    obtain rfl := pure_eq_ok.mp run
    exact ⟨gathers, rfl, rfl⟩
  | cons step rest inductionHypothesis =>
    obtain ⟨middle, applied, remaining⟩ := Step.run_cons.mp run
    obtain ⟨gathered, sameTable, sameQuote⟩ := gathers.apply applied
    rw [← sameTable, ← sameQuote]
    exact inductionHypothesis gathered remaining

/-- The tokens of a table's name: its parts as identifiers, with points between them. -/
def tableTokens (table : String) : List SqlToken :=
  [SqlToken.dot].intercalate ((Text.split '.' table).map fun part => [.identifier part])

/-- The tokens of several parts with a token between each two, if there are any parts. -/
def joined? (between : SqlToken) (parts : List (List SqlToken)) : Option (List SqlToken) :=
  if parts.isEmpty then none else some ([between].intercalate parts)

/-- The tokens of a clause behind the words that open it. -/
def clauseTokens (opening : List SqlToken) : Option (List SqlToken) → List SqlToken
  | none => []
  | some content => opening ++ content

/-- The tokens of a statement, given those of its conditions and of its sort terms. A clause without
    conditions or terms has no tokens, its keyword included. -/
def statementTokens (table : String) (conditions terms : List (List SqlToken)) : List SqlToken :=
  [.word .SELECT, .star, .word .FROM] ++ tableTokens table ++
    clauseTokens [.word .WHERE] (joined? (.word .AND) conditions) ++
      clauseTokens [.word .ORDER, .word .BY] (joined? .comma terms)

/-- The word for the direction of a sort term. -/
def directionToken (ascending : Bool) : SqlToken :=
  .word (if ascending then .ASC else .DESC)

/-- The tokens of a sort term. -/
def termTokens (term : SortTerm) : List SqlToken :=
  term.term.tokens ++ [directionToken term.ascending]

open SqlToken (Lexes)

/-- Names with points between them fall into identifiers with points between them, whatever
    characters the names have. Quotes within a name are doubled, so the point behind a name is
    always outside of it. -/
theorem lexes_points (isQuote : SqlToken.IsQuote quote) (names : List String) :
    Lexes quote (".".intercalate (names.map (Sql.identifier quote))).toList
      ([SqlToken.dot].intercalate (names.map fun name => [.identifier name])) := by
  induction names with
  | nil => exact Lexes.nil
  | cons name others inductionHypothesis =>
    cases others with
    | nil => simpa using Sql.lexes_identifier isQuote name
    | cons second others =>
      have named : SqlToken.between quote name.toList = .identifier name := by
        rw [SqlToken.between, if_neg isQuote.2, String.ofList_toList]
      have pointed := Lexes.enclosed_point isQuote.1 name.toList inductionHypothesis
      rw [named] at pointed
      rw [List.map_cons, List.map_cons] at pointed ⊢
      rw [List.map_cons, List.map_cons, String.intercalate_cons_cons, List.intercalate_cons_cons]
      simpa [Sql.identifier] using pointed

/-- The name of a table falls into its parts between double quotes. -/
theorem lexes_tableText (table : String) :
    Lexes '"' (tableText table).toList (tableTokens table) :=
  lexes_points (SqlToken.isQuote_of_usual (.inl rfl)) (Text.split '.' table)

/-- A sort term falls into the tokens of its expression and its direction. -/
theorem lexes_termText (isQuote : SqlToken.IsQuote quote) {term : SortTerm}
    (finite : term.term.IsFinite) :
    Lexes quote (termText quote term).toList (termTokens term) := by
  have spelled : (termText quote term).toList = (term.term.toText quote).toList ++
      ' ' :: (if term.ascending then SqlWord.ASC else SqlWord.DESC).spelling.toList := by
    unfold termText
    cases term.ascending <;> simp [SqlWord.spelling]
  rw [spelled]
  exact (Sql.lexes_toText isQuote finite).spaced (Lexes.word quote _)

/-- The conditions of a statement fall into the tokens of each, with the word between them. Without
    conditions there is neither a text nor tokens. -/
theorem lexes_whereText (isQuote : SqlToken.IsQuote select.quote)
    (finite : ∀ sql ∈ select.conditions, sql.IsFinite) :
    Option.Rel (fun text tokens => Lexes select.quote text.toList tokens) select.whereText?
      (joined? (.word .AND) (select.conditions.map Sql.tokens)) := by
  rw [whereText?, joined?, List.isEmpty_map]
  split
  · exact .none
  · refine .some (Sql.lexes_intercalate_and ?_)
    rw [List.forall₂_map_left_iff, List.forall₂_map_right_iff, List.forall₂_same]
    exact fun sql member => Sql.lexes_toText isQuote (finite sql member)

/-- The sort terms of a statement fall into the tokens of each, with commas between them. -/
theorem lexes_orderText (isQuote : SqlToken.IsQuote select.quote)
    (finite : ∀ term ∈ select.order, term.term.IsFinite) :
    Option.Rel (fun text tokens => Lexes select.quote text.toList tokens) select.orderText?
      (joined? .comma (select.order.map termTokens)) := by
  rw [orderText?, joined?, List.isEmpty_map]
  split
  · exact .none
  · refine .some (Sql.lexes_intercalate ?_)
    rw [List.forall₂_map_left_iff, List.forall₂_map_right_iff, List.forall₂_same]
    exact fun term member => lexes_termText isQuote (finite term member)

/-- A text that may be there is taken apart into the tokens that it falls into. Without a text there
    are no tokens either. -/
theorem ofText_of_rel {text? : Option String} {tokens? : Option (List SqlToken)}
    (lexes : Option.Rel (fun text tokens => Lexes quote text.toList tokens) text? tokens?) :
    Option.Rel (fun text tokens => SqlToken.ofText? quote text = some tokens) text? tokens? := by
  cases lexes with
  | none => exact .none
  | some falls => exact .some (SqlToken.ofText_of_lexes falls)

/-- A clause that may follow a text falls into its own tokens behind those of the text. The space in
    front of its first word ends the last token of the text. -/
theorem lexes_clause {text words : List Char} {tokens opening : List SqlToken} {clause : String}
    {content? : Option String} {contentTokens? : Option (List SqlToken)}
    (first : Lexes quote text tokens) (opens : Lexes quote words opening)
    (spelled : clause.toList = ' ' :: (words ++ [' ']))
    (content : Option.Rel (fun text tokens => Lexes quote text.toList tokens) content?
      contentTokens?) :
    Lexes quote (text ++ (clauseText clause content?).toList)
      (tokens ++ clauseTokens opening contentTokens?) := by
  cases content with
  | none => simpa [clauseText, clauseTokens] using first
  | some lexes =>
    have behind := first.spaced (opens.spaced lexes)
    simpa [clauseText, clauseTokens, spelled] using behind

/-- The text of a statement, part by part. -/
theorem toList_toText (select : Select) :
    select.toText.toList = "SELECT * FROM ".toList ++ (tableText select.table).toList ++
      (clauseText " WHERE " select.whereText?).toList ++
        (clauseText " ORDER BY " select.orderText?).toList := by
  show ("SELECT * FROM " ++ tableText select.table ++ clauseText " WHERE " select.whereText? ++
    clauseText " ORDER BY " select.orderText?).toList = _
  rw [String.toList_append, String.toList_append, String.toList_append]

/-- A statement made with double quotes falls into the tokens of its parts.

    Proof: the keywords and the table fall into their tokens, and each clause is put behind what
    stands before it. -/
theorem lexes_statement (plain : select.quote = '"')
    (finite : ∀ sql ∈ select.conditions, sql.IsFinite)
    (finiteOrder : ∀ term ∈ select.order, term.term.IsFinite) :
    Lexes '"' select.toText.toList (statementTokens select.table
      (select.conditions.map Sql.tokens) (select.order.map termTokens)) := by
  have isQuote : SqlToken.IsQuote select.quote := SqlToken.isQuote_of_usual (.inl plain)
  have conditions := lexes_whereText isQuote finite
  have order := lexes_orderText isQuote finiteOrder
  rw [plain] at conditions order
  have star : Lexes '"' ['*'] [.star] := ⟨_, .nothing, [], rfl, trivial, rfl, rfl⟩
  have selects := (Lexes.word '"' .SELECT).spaced
    (star.spaced ((Lexes.word '"' .FROM).spaced (lexes_tableText select.table)))
  have filtered := lexes_clause selects (Lexes.word '"' .WHERE)
    (show " WHERE ".toList = _ from rfl) conditions
  have sorted := lexes_clause filtered ((Lexes.word '"' .ORDER).spaced (Lexes.word '"' .BY))
    (show " ORDER BY ".toList = _ from rfl) order
  rw [toList_toText]
  exact sorted

/-- The name of a table begins with a double quote. A name without points is quoted as well. -/
theorem exists_tableText (table : String) : ∃ rest, (tableText table).toList = '"' :: rest := by
  obtain ⟨piece, others, shape⟩ :=
    List.exists_cons_of_ne_nil (Text.pieces_ne_nil '.' table.toList)
  rw [tableText, Text.split, shape, List.map_cons, List.map_cons]
  cases others with
  | nil => simp [Sql.identifier, Sql.enclosed]
  | cons second others =>
    rw [List.map_cons, List.map_cons, String.intercalate_cons_cons]
    simp [Sql.identifier, Sql.enclosed]

/-- With other quotes as the only ones, a statement is taken apart no further than to the name of
    its table. The first character of the table is then no character that a token begins with. -/
theorem ofText_toText_of_other (other : quote ≠ '"') :
    SqlToken.ofText? quote select.toText = none := by
  obtain ⟨rest, begins⟩ := exists_tableText select.table
  have written : ∃ behind, select.toText.toList = "SELECT * FROM ".toList ++ '"' :: behind := by
    rw [toList_toText, begins, List.append_assoc, List.append_assoc]
    exact ⟨_, rfl⟩
  obtain ⟨behind, written⟩ := written
  have before : "SELECT * FROM ".toList.foldlM (SqlToken.scan quote) ([], .nothing) =
      some ([.word .SELECT, .star, .word .FROM], .nothing) := rfl
  have stuck (tokens : List SqlToken) : SqlToken.scan quote (tokens, .nothing) '"' = none := by
    have unknown : SqlToken.Pending.begin? quote '"' = none := if_neg (Ne.symm other)
    rw [SqlToken.scan, unknown]
    rfl
  have halted : ('"' :: behind).foldlM (SqlToken.scan quote)
      ([.word .SELECT, .star, .word .FROM], .nothing) = none := by
    rw [List.foldlM_cons, stuck]
    rfl
  rw [SqlToken.ofText?, written, List.foldlM_append, before]
  show (List.foldlM _ _ _ >>= fun _ => _) = none
  rw [halted]
  rfl

end Select

namespace Lambda

/-- A selector comes to a sort term exactly if it has one parameter and its body has a form. -/
theorem toSortTerm_eq_ok {lambda : Lambda} {sql : Sql} :
    lambda.toSortTerm = .ok sql ↔ lambda.arity = 1 ∧ lambda.body.HasForm sql := by
  rw [toSortTerm, check_eq_ok, checkUnary, Sql.ofExpr_eq_ok]
  refine and_congr_left fun _ => ?_
  split <;> simp_all

end Lambda

namespace RowKey

/-- The sort term of a key falls into tokens, the last of which is its direction, and of which those
    between quotes are the names and texts in the tree of the key, as they are and in their order.
    Everything else in them is a keyword, a sign or a number. -/
def HasTokens (quote : Char) (key : RowKey) (tokens : List SqlToken) : Prop :=
  ∃ sql tree, key.selector.toLambda.toSortTerm = .ok sql ∧
    SqlToken.ofText? quote (Select.termText quote ⟨sql, key.ascending⟩) = some tokens ∧
    tokens.getLast? = some (Select.directionToken key.ascending) ∧
    key.selector.body.sqlTree? = some tree ∧ tokens.filter SqlToken.isQuoted = tree.quoted

/-- The sort term of every accepted key falls into the tokens of its form and its direction. -/
theorem hasTokens_of_toSortTerm {quote : Char} (isQuote : SqlToken.IsQuote quote) {key : RowKey}
    {sql : Sql} (accepted : key.selector.toLambda.toSortTerm = .ok sql) :
    key.HasTokens quote (Select.termTokens ⟨sql, key.ascending⟩) := by
  have form : key.selector.body.HasForm sql := (Lambda.toSortTerm_eq_ok.mp accepted).2
  have finite : (⟨sql, key.ascending⟩ : SortTerm).term.IsFinite := Sql.isFinite_of_hasForm form
  have lexes := Select.lexes_termText isQuote finite
  refine ⟨sql, sql.tree, accepted, SqlToken.ofText_of_lexes lexes, List.getLast?_concat,
    form.sqlTree_eq, ?_⟩
  rw [Select.termTokens, List.filter_append, sql.filter_tokens]
  exact List.append_nil _

end RowKey

namespace Select

variable {quote : Char} {select : Select}

/-- The conditions and sort terms that a statement gathers are finite. Numbers that are not finite
    have no form, so no predicate and no key with one is accepted. -/
theorem Gathers.isFinite {predicates : List Predicate} {keys : List RowKey}
    (gathers : select.Gathers predicates keys) :
    (∀ sql ∈ select.conditions, sql.IsFinite) ∧ ∀ term ∈ select.order, term.term.IsFinite := by
  obtain ⟨each, eachTerm⟩ := gathers
  generalize select.conditions = conditions at each ⊢
  generalize select.order = order at eachTerm ⊢
  constructor
  · induction each with
    | nil => simp
    | cons accepted _ inductionHypothesis =>
      have form := Sql.ofExpr_eq_ok.mp (Lambda.toCondition_eq_ok.mp accepted).2.2
      exact List.forall_mem_cons.mpr ⟨Sql.isFinite_of_hasForm form, inductionHypothesis⟩
  · induction eachTerm with
    | nil => simp
    | cons accepted _ inductionHypothesis =>
      have form := (Lambda.toSortTerm_eq_ok.mp accepted.1).2
      exact List.forall_mem_cons.mpr ⟨Sql.isFinite_of_hasForm form, inductionHypothesis⟩

/-- A statement that is made with double quotes or backticks and then filtered and ordered falls, in
    its clauses, into the tokens of its conditions and sort terms, with names of columns between the
    quotes that it was made with. The parts of its table's name stand between double quotes. So with
    these quotes as the only ones around names, the whole statement falls into its tokens if they
    are double quotes, and into none otherwise.

    Proof: the steps of the run gather conditions and sort terms. Each of these falls into its
    tokens in the quotes of the statement, and so do the clauses that join them. The table always
    comes in double quotes. The text around it is put together from the clauses if these are the
    quotes, and with backticks scanning stops at its name. -/
theorem statement_read_in_double_quotes (usual : quote = '"' ∨ quote = '`') (table : String)
    {steps : List Step} (run : Step.run (⟨table, quote, [], []⟩ : Select) steps = .ok select) :
    ∃ conditions terms : List (List SqlToken),
      List.Forall₂ (fun predicate tokens => predicate.toLambda.HasTokens quote tokens)
        (Step.predicates steps) conditions ∧
      List.Forall₂ (RowKey.HasTokens quote) (Step.sortKeys steps) terms ∧
      Option.Rel (fun text tokens => SqlToken.ofText? quote text = some tokens)
        select.whereText? (joined? (.word .AND) conditions) ∧
      Option.Rel (fun text tokens => SqlToken.ofText? quote text = some tokens)
        select.orderText? (joined? .comma terms) ∧
      SqlToken.ofText? '"' (tableText table) = some (tableTokens table) ∧
      SqlToken.ofText? quote select.toText =
        if quote = '"' then some (statementTokens table conditions terms) else none := by
  have isQuote := SqlToken.isQuote_of_usual usual
  have fresh : (⟨table, quote, [], []⟩ : Select).Gathers [] [] := ⟨.nil, .nil⟩
  obtain ⟨gathers, rfl, rfl⟩ := fresh.run run
  obtain ⟨finite, finiteOrder⟩ := gathers.isFinite
  refine ⟨select.conditions.map Sql.tokens, select.order.map termTokens, ?_, ?_, ?_, ?_,
    SqlToken.ofText_of_lexes (lexes_tableText _), ?_⟩
  · rw [List.forall₂_map_right_iff]
    exact gathers.conditions.imp fun _ _ => Lambda.hasTokens_of_toCondition isQuote
  · rw [List.forall₂_map_right_iff]
    refine gathers.order.imp fun key term ⟨accepted, same⟩ => ?_
    have written := RowKey.hasTokens_of_toSortTerm isQuote accepted
    rwa [same] at written
  · exact ofText_of_rel (lexes_whereText isQuote finite)
  · exact ofText_of_rel (lexes_orderText isQuote finiteOrder)
  · split
    · rename_i plain
      rw [plain]
      exact SqlToken.ofText_of_lexes (lexes_statement plain finite finiteOrder)
    · rename_i other
      exact ofText_toText_of_other other

/-- A table and a column with points and quotes in their names, and a key that replaces another:
    the statement falls into the parts of the table, the names as they are and the last key. -/
theorem statement_with_odd_names_read :
    let p : Parameter := ⟨0, "p", .record "S"⟩
    let name : Expr := .member (.parameter p) ⟨"S", "a\"b.c", .text, .position 0⟩
    let size : Expr := .member (.parameter p) ⟨"S", "`n", .nullable .text, .position 1⟩
    let steps : List Step := [.orderBy ⟨p, name⟩ true true,
      .filter ⟨p, .binary (.relation .ne) name (.constant (.text "it's") .text)⟩,
      .orderBy ⟨p, size⟩ false true]
    ∃ select conditions terms,
      Step.run (⟨"app.we\"ird", '"', [], []⟩ : Select) steps = .ok select ∧
      select.toText = "SELECT * FROM \"app\".\"we\"\"ird\" WHERE (\"a\"\"b.c\" <> 'it''s') " ++
        "ORDER BY \"`n\" DESC" ∧
      List.Forall₂ (RowKey.HasTokens '"') [⟨⟨p, size⟩, false⟩] terms ∧
      SqlToken.ofText? '"' select.toText =
        some (statementTokens "app.we\"ird" conditions terms) ∧
      statementTokens "app.we\"ird" conditions terms = [.word .SELECT, .star, .word .FROM,
        .identifier "app", .dot, .identifier "we\"ird", .word .WHERE, .opening,
        .identifier "a\"b.c", .relation .ne, .string "it's", .closing, .word .ORDER, .word .BY,
        .identifier "`n", .word .DESC] := by
  intro p name size steps
  obtain ⟨select, run⟩ : ∃ select, Step.run (⟨"app.we\"ird", '"', [], []⟩ : Select) steps =
      .ok select := ⟨_, rfl⟩
  obtain ⟨conditions, terms, -, listed, -, -, -, read⟩ :=
    statement_read_in_double_quotes (.inl rfl) "app.we\"ird" run
  rw [if_pos rfl] at read
  obtain rfl : _ = select := Except.ok.inj run
  refine ⟨_, conditions, terms, rfl, by decide +kernel, listed, read, ?_⟩
  refine Option.some.inj (read.symm.trans ?_)
  decide +kernel

/-- A statement made with backticks is not taken apart where these are the only quotes around names:
    its table stands between double quotes. In backticks it would be. -/
theorem statement_in_backticks_unread :
    Step.run (⟨"t", '`', [], []⟩ : Select) [] = .ok ⟨"t", '`', [], []⟩ ∧
      (⟨"t", '`', [], []⟩ : Select).toText = "SELECT * FROM \"t\"" ∧
      SqlToken.ofText? '`' "SELECT * FROM \"t\"" = none ∧
      SqlToken.ofText? '`' "SELECT * FROM `t`" = some (statementTokens "t" [] []) := by
  exact ⟨rfl, by decide +kernel, by decide +kernel, by decide +kernel⟩

end Select

end RecordQuery
