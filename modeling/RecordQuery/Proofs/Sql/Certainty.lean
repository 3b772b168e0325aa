import RecordQuery.Proofs.Record.Columns
import RecordQuery.Proofs.Sql.ReadBack
import RecordQuery.Proofs.Sql.Unknown

/-!
# Where null comes from

How values compare, which of them match a pattern and what the month of a date is, is for a
database to say. What becomes of null is the same in all of them: comparisons, pattern tests,
memberships and months of null are null, the connectives follow Kleene, a null test always knows,
and coalescing takes the first argument that is not null. Null therefore comes into a condition
through its leaves, the columns and the constants, and nowhere else.

The check for conditions that may be unknown looks for nullable columns. Where it finds none, every
leaf of the form has a value. Reading the text of the form moves tests beneath negations, but it
keeps the leaves, so that the form is not null as it was built and as it is read.
-/

namespace RecordQuery

/-- What a database says of the values that it stores. Null is none of them. -/
structure Database (Data : Type) where
  /-- What a column holds for a value of a record. -/
  store : Value → Data
  truth : Bool → Data
  text : String → Data
  number : (negative : Bool) → (digits : String) → Data
  /-- Whether a value counts as true. -/
  holds : Data → Bool
  relates : Relation → Data → Data → Bool
  /-- Whether a value has the form of a pattern with an escape character. -/
  accepts : (pattern escape : String) → Data → Bool
  month : Data → Data

namespace Database

variable {Data : Type} (database : Database Data)

/-- What a column holds for a value of a record or for null. -/
def stored? (value : Value) : Option Data :=
  if value.isNull then none else some (database.store value)

/-- The value of a constant. -/
def literal? : SqlLiteral → Option Data
  | .null => none
  | .truth value => some (database.truth value)
  | .text content => some (database.text content)
  | .number negative digits => some (database.number negative digits)

/-- Whether two values stand in a relation, unknown as soon as one of them is null. -/
def related? (relation : Relation) (left right : Option Data) : Option Bool := do
  return database.relates relation (← left) (← right)

/-- Whether a value is equal to one of the members. -/
def listed? (item : Option Data) : List SqlLiteral → Option Bool
  | [] => some false
  | first :: rest =>
      Sql.kleeneOr (database.related? .eq item (database.literal? first)) (listed? item rest)

/-- A database that stores values as they are, compares and tests them as in memory, and reads
    numerals as decimals. It shows that the abstract notion of a database is not empty. -/
def likeMemory : Database Value where
  store := id
  truth := .bool
  text := .text
  number negative digits :=
    match Decimal.read? ((if negative then ['-'] else []) ++ digits.toList) with
    | some decimal => .number (.decimal decimal)
    | none => .text digits
  holds value := value == .bool true
  relates := Relation.holds
  accepts pattern _ value := Sql.likeTested pattern.toList value == .bool true
  month := Sql.monthOf

/-- A column holds null for null only. -/
theorem stored_eq_none {value : Value} : database.stored? value = none ↔ value = .null := by
  cases value <;> simp [stored?, Value.isNull]

/-- The only constant without a value is null. -/
theorem literal_eq_none {value : SqlLiteral} : database.literal? value = none ↔ value = .null := by
  cases value <;> simp [literal?]

/-- A relation is unknown when one of its sides is null, and only then. -/
theorem related_eq_none {relation : Relation} {left right : Option Data} :
    database.related? relation left right = none ↔ left = none ∨ right = none := by
  cases left <;> cases right <;> simp [related?]

/-- Membership in a set without null is unknown for null only, unless the set is empty. Membership
    in the empty set is false even for null. -/
theorem listed_eq_none {item : Option Data} {members : List SqlLiteral}
    (valued : ∀ value ∈ members, database.literal? value ≠ none) :
    database.listed? item members = none ↔ item = none ∧ members ≠ [] := by
  induction members with
  | nil => simp [listed?]
  | cons first rest inductionHypothesis =>
    obtain ⟨firstValued, restValued⟩ := List.forall_mem_cons.mp valued
    have inRest := inductionHypothesis restValued
    cases item with
    | none =>
      have unknown : database.related? .eq none (database.literal? first) = none :=
        database.related_eq_none.mpr (.inl rfl)
      rw [listed?, unknown]
      rcases rest with _ | ⟨second, others⟩
      · simp [listed?, Sql.kleeneOr]
      · rw [inRest.mpr ⟨rfl, List.cons_ne_nil _ _⟩]
        simp [Sql.kleeneOr]
    | some value =>
      have known : database.listed? (some value) (first :: rest) ≠ none := by
        refine Sql.kleeneOr_ne_none (fun unknown => ?_) (by simp [inRest])
        exact (database.related_eq_none.mp unknown).elim (Option.some_ne_none _) firstValued
      simp [known]

end Database

namespace SqlTree

/-- The value of a tree in a database, in the row of a record. Null in a column is no value of the
    database, and null tests ask for just this. -/
def valueIn {Data : Type} (database : Database Data) (columns : String → Value) :
    SqlTree → Option Data
  | column name => database.stored? (columns name)
  | literal value => database.literal? value
  | compare relation left right =>
      (database.related? relation (left.valueIn database columns)
        (right.valueIn database columns)).map database.truth
  | and left right =>
      (Sql.kleeneAnd ((left.valueIn database columns).map database.holds)
        ((right.valueIn database columns).map database.holds)).map database.truth
  | or left right =>
      (Sql.kleeneOr ((left.valueIn database columns).map database.holds)
        ((right.valueIn database columns).map database.holds)).map database.truth
  | not operand =>
      (operand.valueIn database columns).map fun value => database.truth !(database.holds value)
  | isNull operand => some (database.truth (operand.valueIn database columns).isNone)
  | isNotNull operand => some (database.truth (operand.valueIn database columns).isSome)
  | coalesce first second =>
      (first.valueIn database columns).or (second.valueIn database columns)
  | month operand => (operand.valueIn database columns).map database.month
  | like subject pattern escape =>
      (subject.valueIn database columns).map fun value =>
        database.truth (database.accepts pattern escape value)
  | within item members =>
      (database.listed? (item.valueIn database columns) members).map database.truth

-- What is unknown counts as false beneath the negation.
example : let below : SqlTree := compare .lt (column "n") (literal .null)
    (not (coalesce below (literal (.truth false)))).valueIn .likeMemory (fun _ => .bool true) =
      some (.bool true) := rfl

/-- The columns and the constants in a tree, from left to right. They are what decides whether a
    tree can be unknown. -/
def leaves : SqlTree → List SqlTree
  | column name => [column name]
  | literal value => [literal value]
  | compare _ left right | and left right | or left right | coalesce left right =>
      left.leaves ++ right.leaves
  | not operand | isNull operand | isNotNull operand | month operand | like operand _ _ =>
      operand.leaves
  | within item members => item.leaves ++ members.map literal

variable {Data : Type} {database : Database Data} {columns : String → Value} {tree : SqlTree}

/-- A tree whose leaves all have values has one itself. The induction follows the tree: a connective
    of known truths is known, and so is a comparison of known values. -/
theorem valueIn_ne_none (valued : ∀ leaf ∈ tree.leaves, leaf.valueIn database columns ≠ none) :
    tree.valueIn database columns ≠ none := by
  have mapped {α β : Type} {f : α → β} {value : Option α} (valued : value ≠ none) :
      value.map f ≠ none := mt Option.map_eq_none_iff.mp valued
  induction tree with
  | column name | literal value => exact valued _ (List.mem_singleton_self _)
  | compare relation left right leftHypothesis rightHypothesis =>
    obtain ⟨leftValued, rightValued⟩ := List.forall_mem_append.mp valued
    refine mapped fun unknown => ?_
    exact (database.related_eq_none.mp unknown).elim (leftHypothesis leftValued)
      (rightHypothesis rightValued)
  | and left right leftHypothesis rightHypothesis =>
    obtain ⟨leftValued, rightValued⟩ := List.forall_mem_append.mp valued
    exact mapped (Sql.kleeneAnd_ne_none (mapped (leftHypothesis leftValued))
      (mapped (rightHypothesis rightValued)))
  | or left right leftHypothesis rightHypothesis =>
    obtain ⟨leftValued, rightValued⟩ := List.forall_mem_append.mp valued
    exact mapped (Sql.kleeneOr_ne_none (mapped (leftHypothesis leftValued))
      (mapped (rightHypothesis rightValued)))
  | isNull operand | isNotNull operand => exact Option.some_ne_none _
  | coalesce first second firstHypothesis =>
    have firstValued := firstHypothesis (List.forall_mem_append.mp valued).1
    exact fun missing => firstValued (Option.or_eq_none_iff.mp missing).1
  | within item members inductionHypothesis =>
    obtain ⟨itemValued, membersValued⟩ := List.forall_mem_append.mp valued
    refine mapped fun unknown => inductionHypothesis itemValued ?_
    have constants (value : SqlLiteral) (listed : value ∈ members) :
        database.literal? value ≠ none := membersValued _ (List.mem_map_of_mem listed)
    exact ((database.listed_eq_none constants).mp unknown).1
  | not operand inductionHypothesis | month operand inductionHypothesis
  | like operand _ _ inductionHypothesis => exact mapped (inductionHypothesis valued)

end SqlTree

/-- No numeral is null. -/
theorem SqlLiteral.ofNumeral_ne_null (text : String) : ofNumeral text ≠ .null := by
  unfold ofNumeral
  split <;> simp

namespace Sql

/-- A test beneath negations has the leaves of what is tested and its own. -/
theorem leaves_beneath (test : Sql → Sql) {others : List SqlTree}
    (tested : ∀ subject, (test subject).tree.leaves = subject.tree.leaves ++ others) (sql : Sql) :
    (beneath test sql).tree.leaves = sql.tree.leaves ++ others := by
  induction sql with
  | not operand inductionHypothesis => exact inductionHypothesis
  | _ => exact tested _

/-- What the text of a form is read as has the leaves of the form. What is read may be grouped in
    another way, but it has the same columns and constants in it. -/
theorem leaves_asRead (sql : Sql) : sql.asRead.tree.leaves = sql.tree.leaves := by
  have unary (test : Sql → Sql)
      (tested : ∀ subject, (test subject).tree.leaves = subject.tree.leaves) (sql : Sql) :
      (beneath test sql).tree.leaves = sql.tree.leaves := by
    rw [leaves_beneath test fun subject => (tested subject).trans (List.append_nil _).symm,
      List.append_nil]
  induction sql with
  | compare relation left right leftHypothesis rightHypothesis =>
    rw [asRead, leaves_beneath _ fun _ => rfl, leftHypothesis, rightHypothesis]
    rfl
  | within item members inductionHypothesis =>
    rw [asRead, leaves_beneath _ fun _ => rfl, inductionHypothesis]
    rfl
  | isNull operand inductionHypothesis =>
    exact (unary isNull (fun _ => rfl) _).trans inductionHypothesis
  | isNotNull operand inductionHypothesis =>
    exact (unary isNotNull (fun _ => rfl) _).trans inductionHypothesis
  | like subject anchor content inductionHypothesis =>
    exact (unary (like · anchor content) (fun _ => rfl) _).trans inductionHypothesis
  | and left right leftHypothesis rightHypothesis | or left right leftHypothesis rightHypothesis =>
    exact congrArg₂ (· ++ ·) leftHypothesis rightHypothesis
  | orFalse operand inductionHypothesis => exact congrArg (· ++ _) inductionHypothesis
  | group operand inductionHypothesis | not operand inductionHypothesis
  | month operand inductionHypothesis => exact inductionHypothesis
  | _ => rfl

/-- The leaves of a relation are those of its sides. A side that may be null occurs twice, in the
    comparison and in the test that admits null. -/
theorem mem_leaves_relation {relation : Relation} {left right : Expr} {leftSql rightSql : Sql}
    {leaf : SqlTree} (member : leaf ∈
      (binaryCondition (.relation relation) left right leftSql rightSql).tree.leaves) :
    leaf ∈ leftSql.tree.leaves ∨ leaf ∈ rightSql.tree.leaves := by
  have admitted (nullable : Bool) (condition side : SqlTree) :
      (SqlTree.orNull nullable condition side).leaves =
        condition.leaves ++ if nullable then side.leaves else [] := by
    cases nullable <;> simp [SqlTree.orNull, SqlTree.leaves]
  cases relation with
  | ne =>
    simp only [binaryCondition, tree, tree_orNull, admitted, SqlTree.leaves] at member
    grind
  | _ => exact List.mem_append.mp member

/-- The leaves of a null test are those of its side. -/
theorem leaves_nullTest (relation : Relation) (side : Sql) :
    (nullTest relation side).tree.leaves = side.tree.leaves := by
  unfold nullTest
  split <;> rfl

/-- The members of a set are not null. -/
theorem null_not_mem_literals (members : SqlMembers) : .null ∉ members.literals := by
  cases members <;> simp [SqlMembers.literals, SqlLiteral.ofNumeral_ne_null]

/-- The literal of a value that is not null is a constant that is not null. A number that is not
    finite has no literal, so it does not come up. -/
theorem literal_of_ofValue {value : Value} {sql : Sql} (literal : ofValue value = .ok sql)
    (valued : value ≠ .null) : ∃ constant, sql.tree = .literal constant ∧ constant ≠ .null := by
  obtain ⟨constant, written, same⟩ := Option.map_eq_some_iff.mp (sqlLiteral_of_ofValue literal)
  refine ⟨constant, same.symm, ?_⟩
  rintro rfl
  cases value with
  | null => exact valued rfl
  | number given =>
    simp only [Value.sqlLiteral?, Option.ite_none_right_eq_some, Option.some.injEq] at written
    exact SqlLiteral.ofNumeral_ne_null _ written.2
  | _ => simp [Value.sqlLiteral?] at written

end Sql

namespace Expr

open Database (likeMemory)

/-- Whether every column that an expression reads holds a value that its declared type admits. -/
def AdmitsRow (expr : Expr) (columns : String → Value) : Prop :=
  ∀ target m, member target m ∈ expr.parts → m.isSelf = false → m.type.Admits (columns m.name)

variable {expr : Expr} {sql : Sql} {columns : String → Value} {Data : Type}
  {database : Database Data}

/-- An expression that reads columns of a record type admits the rows of conforming records. -/
theorem admitsRow_of_conforms {type : RecordType} {record : Record}
    (reads : ∀ target m, member target m ∈ expr.parts → type.IsColumn m)
    (conforms : type.Conforms record) : expr.AdmitsRow (type.columns record) :=
  fun target m inParts _ => type.admits_column conforms (reads target m inParts)

/-- In an admitted row, required columns have values. -/
theorem AdmitsRow.valued (admits : expr.AdmitsRow columns)
    (constants : ∀ value type, constant value type ∈ expr.parts → value ≠ .null) :
    expr.Valued columns :=
  ⟨fun _ m inParts property required => (admits _ m inParts property).ne_null required, constants⟩

/-- Where no nullable column is in sight, every leaf of the form has a value.

    Proof: induction on the form. Columns that are not nullable hold values in the row, constants
    are not null, and all other forms only put together the leaves of their parts. -/
theorem HasForm.leaves_valued (form : expr.HasForm sql) (valued : expr.Valued columns)
    (certain : expr.mayBeUnknown = false) :
    ∀ leaf ∈ sql.tree.leaves, leaf.valueIn database columns ≠ none := by
  induction form with
  | @column p m named =>
    refine List.forall_mem_singleton.mpr (mt database.stored_eq_none.mp ?_)
    exact valued.columns p m (self_mem_parts _) named certain
  | literal literal =>
    obtain ⟨constant, same, notNull⟩ :=
      Sql.literal_of_ofValue literal (valued.constants _ _ (self_mem_parts _))
    rw [same]
    exact List.forall_mem_singleton.mpr (mt database.literal_eq_none.mp notNull)
  | lift _ inductionHypothesis =>
    exact inductionHypothesis (valued.of_subset (List.subset_cons_self _ _)) certain
  | @negation operand inner _ inductionHypothesis =>
    rw [mayBeUnknown] at certain
    rw [certain]
    exact inductionHypothesis (valued.of_subset (List.subset_cons_self _ _)) certain
  | and _ _ leftHypothesis rightHypothesis | or _ _ leftHypothesis rightHypothesis =>
    obtain ⟨leftCertain, rightCertain⟩ := Bool.or_eq_false_iff.mp certain
    exact List.forall_mem_append.mpr ⟨leftHypothesis valued.sides.1 leftCertain,
      rightHypothesis valued.sides.2 rightCertain⟩
  | nullTest tested _ inductionHypothesis =>
    obtain ⟨leftCertain, rightCertain⟩ := Bool.or_eq_false_iff.mp certain
    rw [Sql.tree, Sql.leaves_nullTest]
    rcases (sides_of_nullSide tested).2 with ⟨rfl, -⟩ | ⟨rfl, -⟩
    · exact inductionHypothesis valued.sides.1 leftCertain
    · exact inductionHypothesis valued.sides.2 rightCertain
  | relation _ _ _ leftHypothesis rightHypothesis =>
    obtain ⟨leftCertain, rightCertain⟩ := Bool.or_eq_false_iff.mp certain
    intro leaf member
    rcases Sql.mem_leaves_relation member with inLeft | inRight
    · exact leftHypothesis valued.sides.1 leftCertain leaf inLeft
    · exact rightHypothesis valued.sides.2 rightCertain leaf inRight
  | @month subject _ _ inductionHypothesis =>
    have member : subject ∈ [subject] := List.mem_singleton_self _
    exact inductionHypothesis (valued.argument member) (mayBeUnknown_of_mem certain member)
  | nowhere _ _ => exact List.forall_mem_singleton.mpr (Option.some_ne_none _)
  | @within set item members _ _ _ _ inductionHypothesis =>
    have member : item ∈ [set, item] := by simp
    refine List.forall_mem_append.mpr
      ⟨inductionHypothesis (valued.argument member) (mayBeUnknown_of_mem certain member), ?_⟩
    refine List.forall_mem_map.mpr fun constant listed => mt database.literal_eq_none.mp ?_
    exact ne_of_mem_of_not_mem listed (Sql.null_not_mem_literals members)
  | @like _ subject content type _ _ _ inductionHypothesis =>
    have member : subject ∈ [subject, constant (.text content) type] := List.mem_cons_self
    exact inductionHypothesis (valued.argument member) (mayBeUnknown_of_mem certain member)

/-- What a negation negates is never null: where it may be unknown it counts as false instead, and
    otherwise all its leaves have values. In either case the negation itself is known. -/
theorem HasForm.negated_ne_none {operand : Expr} {inner : Sql} (form : operand.HasForm inner)
    (valued : operand.Valued columns) :
    ∃ negated, Sql.negation operand.mayBeUnknown inner = .not (.group negated) ∧
      negated.tree.valueIn database columns ≠ none := by
  cases certain : operand.mayBeUnknown with
  | false => exact ⟨inner, rfl, SqlTree.valueIn_ne_none (form.leaves_valued valued certain)⟩
  | true =>
    refine ⟨.orFalse inner, rfl, fun missing => ?_⟩
    exact Option.some_ne_none _ (Option.or_eq_none_iff.mp missing).2

/-- The form of an expression without constant nulls and without a nullable column in sight is never
    null, neither as it is built nor as its text is read: in every database, and in every row whose
    columns hold values that their declared types admit, as those of conforming records do.

    Proof: a tree whose leaves all have values has one itself, in every database. The leaves of the
    form have values since no column in sight is nullable, and its text is read as a tree with the
    same leaves. -/
theorem form_never_null_of_certain (translated : Sql.ofExpr expr = .ok sql)
    (constants : ∀ value type, constant value type ∈ expr.parts → value ≠ .null)
    (certain : expr.mayBeUnknown = false) (admits : expr.AdmitsRow columns) :
    expr.sqlTree? = some sql.tree ∧
      (∀ quote, SqlToken.IsQuote quote →
        SqlTree.ofText? quote (sql.toText quote) = some sql.asRead.tree) ∧
      ∀ {Data : Type} (database : Database Data),
        sql.tree.valueIn database columns ≠ none ∧
          sql.asRead.tree.valueIn database columns ≠ none := by
  have form : expr.HasForm sql := Sql.ofExpr_eq_ok.mp translated
  refine ⟨form.sqlTree_eq, fun quote isQuote => ?_, fun database => ?_⟩
  · have reads := (Sql.isReadable_of_hasForm form).isOperand.reads (show 1 ≤ 3 by decide)
    exact Sql.ofText_toText isQuote (Sql.isFinite_of_hasForm form) reads
  · have leaves : ∀ leaf ∈ sql.tree.leaves, leaf.valueIn database columns ≠ none :=
      form.leaves_valued (admits.valued constants) certain
    refine ⟨SqlTree.valueIn_ne_none leaves, SqlTree.valueIn_ne_none ?_⟩
    rw [Sql.leaves_asRead]
    exact leaves

/-- A condition on required columns stays known beside a column that is null, with negations around
    calls and connectives and with one that is read elsewhere than it was built. -/
theorem form_never_null_nested :
    let properties : List Property := [⟨"flag", .bool⟩, ⟨"n", .number (.integer .i32)⟩,
      ⟨"name", .text⟩, ⟨"at", .date⟩, ⟨"m", .nullable .text⟩]
    let type : RecordType := ⟨"S", .ok properties, none⟩
    let record : Record := ⟨"S", [.bool true, .number (.integer .i32 5 (by decide)), .text "Ann",
      .date ⟨2024, 3, 1, 0, 0, 0, 0, by decide⟩, .null], none⟩
    let p : Parameter := ⟨0, "p", type.dataType⟩
    let flag : Expr := .member (.parameter p) (.ofProperty type 0 ⟨"flag", .bool⟩)
    let number : Expr :=
      .member (.parameter p) (.ofProperty type 1 ⟨"n", .number (.integer .i32)⟩)
    let name : Expr := .member (.parameter p) (.ofProperty type 2 ⟨"name", .text⟩)
    let date : Expr := .member (.parameter p) (.ofProperty type 3 ⟨"at", .date⟩)
    let expr : Expr := .not (.binary .and
      (.binary (.relation .ne) number (.call .month [date]))
      (.binary .or (.binary (.relation .lt) (.not flag) flag)
        (.not (.binary .or (.call .startsWith [name, .constant (.text "A") .text])
          (.call .inSet [.constant (.ints [1, 2]) .ints, number])))))
    ∃ sql, Sql.ofExpr expr = .ok sql ∧
      (∀ value type, constant value type ∈ expr.parts → value ≠ .null) ∧
      expr.mayBeUnknown = false ∧ expr.AdmitsRow (type.columns record) ∧
      ∃ tree, SqlTree.ofText? '"' (sql.toText '"') = some tree ∧ tree ≠ sql.tree ∧
        tree.valueIn likeMemory (type.columns record) ≠ none ∧
        sql.tree.valueIn likeMemory (type.columns record) ≠ none := by
  intro properties type record p flag number name date expr
  obtain ⟨sql, translated⟩ : ∃ sql, Sql.ofExpr expr = .ok sql := ⟨_, rfl⟩
  have constants (value : Value) (valueType : DataType)
      (inParts : constant value valueType ∈ expr.parts) : value ≠ .null := by
    obtain ⟨rfl, -⟩ | ⟨rfl, -⟩ : (value = .text "A" ∧ valueType = .text) ∨
        (value = .ints [1, 2] ∧ valueType = .ints) := by
      simpa [expr, flag, number, name, date, parts, partsOfAll] using inParts
    · simp
    · simp
  have reads (target : Expr) (m : Member) (inParts : member target m ∈ expr.parts) :
      type.IsColumn m := by
    obtain rfl | rfl | rfl | rfl : m = .ofProperty type 0 ⟨"flag", .bool⟩ ∨
        m = .ofProperty type 1 ⟨"n", .number (.integer .i32)⟩ ∨
        m = .ofProperty type 2 ⟨"name", .text⟩ ∨ m = .ofProperty type 3 ⟨"at", .date⟩ := by
      simp [expr, flag, number, name, date, parts, partsOfAll] at inParts
      tauto
    · exact ⟨0, _, by decide, rfl, rfl⟩
    · exact ⟨1, _, by decide, rfl, rfl⟩
    · exact ⟨2, _, by decide, rfl, rfl⟩
    · exact ⟨3, _, by decide, rfl, rfl⟩
  have conforms : type.Conforms record :=
    ⟨rfl, .cons (.inl rfl) (.cons (.inl rfl) (.cons (.inl rfl) (.cons (.inl rfl)
      (.cons (.inr ⟨rfl, rfl⟩) .nil))))⟩
  have admits : expr.AdmitsRow (type.columns record) := admitsRow_of_conforms reads conforms
  obtain ⟨-, read, never⟩ := form_never_null_of_certain translated constants rfl admits
  obtain ⟨asBuilt, asRead⟩ := never likeMemory
  have isQuote : SqlToken.IsQuote '"' := SqlToken.isQuote_of_usual (.inl rfl)
  refine ⟨sql, translated, constants, rfl, admits, _, read _ isQuote, ?_, asRead, asBuilt⟩
  rw [ne_eq, Sql.tree_asRead_iff, (Sql.ofExpr_eq_ok.mp translated).testsNegation_eq]
  decide

end Expr

end RecordQuery
