import RecordQuery.Proofs.Declaration.Properties
import RecordQuery.Proofs.Text.LetterCase
import RecordQuery.Proofs.Text.Splitting

/-!
# The names of constants

The constant of a property has the words of its name in capitals, with underscores between them.
Names of ASCII characters always give plain identifiers, but not always different ones: names with
the same words give the same constant, whether the words are told apart by capitals, by underscores
or by other marks, and a name that is a single mark gives a lone underscore. Names that are written
in small letters, digits and underscores alone never clash.
-/

namespace RecordQuery

namespace DerivedProperty

/-- The words of a text. They end at marks, which belong to none, and in front of a capital that
    follows a small letter or a digit. -/
def words : List Char → List (List Char)
  | [] => [[]]
  | c :: rest =>
      if !c.isAlphanum then [] :: words rest
      else if (c.isLower || c.isDigit) && rest.head?.any Char.isUpper then [c] :: words rest
      else (words rest).modifyHead (c :: ·)

/-- The words of a name in capitals. A digit does not start the first word: an empty one stands in
    front of it. -/
def capitalWords (name : String) : List (List Char) :=
  (if name.toList.head?.any Char.isDigit then [[]] else []) ++
    (words name.toList).map fun word => word.map Char.toUpper

/-- A name of at most one character, which is no letter or digit. -/
def IsMark (name : String) : Prop :=
  name.toList.length ≤ 1 ∧ ∀ c ∈ name.toList, c.isAlphanum = false

/-- The empty name is a mark. -/
theorem isMark_empty : IsMark "" :=
  ⟨Nat.zero_le 1, fun _ member => absurd member List.not_mem_nil⟩

/-- A text has at least one word, which may be empty. Marks end a word and begin the next, so the
    empty text has one empty word. -/
theorem words_ne_nil (text : List Char) : words text ≠ [] := by
  cases text with
  | nil => exact List.cons_ne_nil _ _
  | cons c rest =>
    rw [words]
    split
    · exact List.cons_ne_nil _ _
    · split
      · exact List.cons_ne_nil _ _
      · simpa using words_ne_nil rest

/-- The words consist of letters and digits. All other characters end a word and are dropped. -/
theorem isAlphanum_of_mem_words {text word : List Char} {c : Char} (member : word ∈ words text)
    (within : c ∈ word) : c.isAlphanum = true := by
  induction text generalizing word with
  | nil =>
    rw [List.mem_singleton.mp member] at within
    exact absurd within List.not_mem_nil
  | cons first rest inductionHypothesis =>
    obtain ⟨next, others, shape⟩ := List.exists_cons_of_ne_nil (words_ne_nil rest)
    rw [words, shape] at member
    rw [shape] at inductionHypothesis
    cases alphanumeric : first.isAlphanum with
    | false =>
      rw [alphanumeric] at member
      rcases List.mem_cons.mp member with rfl | later
      · exact absurd within List.not_mem_nil
      · exact inductionHypothesis later within
    | true =>
      rw [alphanumeric, Bool.not_true, if_neg Bool.false_ne_true] at member
      split at member
      · rcases List.mem_cons.mp member with rfl | later
        · rwa [List.mem_singleton.mp within]
        · exact inductionHypothesis later within
      · rcases List.mem_cons.mp member with rfl | later
        · rcases List.mem_cons.mp within with rfl | inside
          · exact alphanumeric
          · exact inductionHypothesis List.mem_cons_self inside
        · exact inductionHypothesis (List.mem_cons_of_mem next later) within

/-- The constant has the words of the name with underscores between them, and one in front if the
    text before ends a word. The induction takes the character before as a parameter, which is why
    the underscore in front is part of the statement. -/
theorem constantChars_eq {text : List Char} (ascii : ∀ c ∈ text, c.toNat < 128)
    (afterSmall : Bool) : constantChars afterSmall text =
      (if afterSmall && text.head?.any Char.isUpper then ['_'] else []) ++
        ['_'].intercalate ((words text).map fun word => word.map Char.toUpper) := by
  -- The constant looks back at the character before a capital, the words look ahead to it.
  induction text generalizing afterSmall with
  | nil => simp [constantChars, words]
  | cons c rest inductionHypothesis =>
    obtain ⟨asciiHere, asciiRest⟩ := List.forall_mem_cons.mp ascii
    rw [constantChars, inductionHypothesis asciiRest, words, Text.isUppercase_of_ascii asciiHere,
      Text.isLowercase_of_ascii asciiHere, Text.isAlphanumeric_of_ascii asciiHere,
      Text.capitals_of_ascii asciiHere, List.append_assoc]
    obtain ⟨word, others, shape⟩ := List.exists_cons_of_ne_nil (words_ne_nil rest)
    rw [shape]
    congr 1
    cases alphanumeric : c.isAlphanum with
    | false =>
      simp [Text.not_small_of_mark alphanumeric, List.intercalate_cons_cons]
    | true =>
      cases ends : (c.isLower || c.isDigit) && rest.head?.any Char.isUpper with
      | true => simp [List.intercalate_cons_cons]
      | false => cases others <;> simp [List.intercalate_cons_cons]

/-- The first character of a constant is that of its name as a capital, or an underscore. -/
theorem constantChars_cons {c : Char} (ascii : c.toNat < 128) (rest : List Char) :
    constantChars false (c :: rest) = (if c.isAlphanum then c.toUpper else '_') ::
      constantChars (Text.isLowercase c || c.isDigit) rest := by
  rw [constantChars, Text.isAlphanumeric_of_ascii ascii, Text.capitals_of_ascii ascii]
  cases c.isAlphanum <;> rfl

/-- A constant has an underscore in front if its name starts with a digit. A name starting with a
    mark has the underscore in its place and needs no other. -/
theorem toList_constantName_cons {name : String} {c : Char} {rest : List Char}
    (ascii : c.toNat < 128) (shape : name.toList = c :: rest) :
    (constantName name).toList =
      (if c.isDigit then ['_'] else []) ++ constantChars false (c :: rest) := by
  rw [constantName, shape, constantChars_cons ascii]
  have digit : (if c.isAlphanum then c.toUpper else '_').isDigit = c.isDigit := by
    cases alphanumeric : c.isAlphanum with
    | true => exact Text.isDigit_toUpper c
    | false => exact (Text.not_small_of_mark alphanumeric).2.symm
  simp only [digit, String.toList_ofList]
  cases c.isDigit <;> rfl

/-- Between the words of a name stand underscores. The empty word in front of a leading digit gives
    the underscore that a constant must have there. -/
theorem toList_constantName {name : String} (ascii : Text.IsAscii name) (filled : name ≠ "") :
    (constantName name).toList = ['_'].intercalate (capitalWords name) := by
  cases shape : name.toList with
  | nil => exact absurd (String.toList_eq_nil_iff.mp shape) filled
  | cons c rest =>
    have all : ∀ d ∈ c :: rest, d.toNat < 128 := shape ▸ ascii
    rw [toList_constantName_cons (all c List.mem_cons_self) shape, constantChars_eq all,
      capitalWords, shape]
    obtain ⟨word, others, found⟩ := List.exists_cons_of_ne_nil (words_ne_nil (c :: rest))
    rw [found]
    cases digit : c.isDigit <;> simp [digit, List.intercalate_cons_cons]

/-- No word has an underscore in it. So the underscores of a constant are exactly those between its
    words, and the words can be told from it. -/
theorem underscore_not_mem {name : String} {word : List Char}
    (member : word ∈ capitalWords name) : '_' ∉ word := by
  intro within
  rcases List.mem_append.mp member with front | later
  · split at front
    · rw [List.mem_singleton.mp front] at within
      exact List.not_mem_nil within
    · exact List.not_mem_nil front
  · obtain ⟨plain, among, rfl⟩ := List.mem_map.mp later
    obtain ⟨c, inside, capital⟩ := List.mem_map.mp within
    have alphanumeric := Text.isAlphanum_toUpper (isAlphanum_of_mem_words among inside)
    exact Text.ne_underscore alphanumeric capital

/-- A name has at least one word in capitals. -/
theorem capitalWords_ne_nil (name : String) : capitalWords name ≠ [] := by
  rw [capitalWords, Ne, List.append_eq_nil_iff, List.map_eq_nil_iff]
  exact fun both => words_ne_nil _ both.2

/-- The words of a name are read from its constant. -/
theorem pieces_constantName {name : String} (ascii : Text.IsAscii name) (filled : name ≠ "") :
    Text.pieces '_' (constantName name).toList = capitalWords name := by
  rw [toList_constantName ascii filled]
  exact Text.pieces_intercalate (fun word => underscore_not_mem) (capitalWords_ne_nil name)

/-- Two names have the same constant exactly if they have the same words. Joining words by
    underscores can be undone, as none has one in it. -/
theorem constantName_eq_iff {name other : String} (ascii : Text.IsAscii name)
    (asciiOther : Text.IsAscii other) (filled : name ≠ "") (filledOther : other ≠ "") :
    constantName name = constantName other ↔ capitalWords name = capitalWords other := by
  constructor
  · intro same
    rw [← pieces_constantName ascii filled, same, pieces_constantName asciiOther filledOther]
  · intro same
    rw [← String.toList_inj, toList_constantName ascii filled, same,
      toList_constantName asciiOther filledOther]

/-- Exactly single marks have the constant that is a lone underscore. The empty name counts as a
    mark, since its constant is a lone underscore too. -/
theorem constantName_eq_underscore {name : String} (ascii : Text.IsAscii name) :
    constantName name = "_" ↔ IsMark name := by
  cases shape : name.toList with
  | nil =>
    rw [IsMark, String.toList_eq_nil_iff.mp shape]
    simp [constantName, constantChars]
  | cons c rest =>
    have asciiHere : c.toNat < 128 := ascii c (shape ▸ List.mem_cons_self)
    rw [← String.toList_inj, toList_constantName_cons asciiHere shape, constantChars_cons asciiHere,
      IsMark, shape]
    cases alphanumeric : c.isAlphanum with
    | true =>
      have letter := Text.ne_underscore (Text.isAlphanum_toUpper alphanumeric)
      cases c.isDigit <;> simp [alphanumeric, letter]
    | false =>
      have digit := (Text.not_small_of_mark alphanumeric).2
      cases rest with
      | nil => simp [digit, alphanumeric, constantChars]
      | cons d more =>
        have asciiNext : d.toNat < 128 :=
          ascii d (shape ▸ List.mem_cons_of_mem c List.mem_cons_self)
        rw [constantChars, Text.capitals_of_ascii asciiNext]
        cases Text.isAlphanumeric d <;> simp [digit]

/-- The characters of a constant are letters, digits and underscores. Letters of other alphabets are
    kept as well, so the hypothesis is needed. -/
theorem plain_of_mem_constantChars {text : List Char} {d : Char} {afterSmall : Bool}
    (ascii : ∀ c ∈ text, c.toNat < 128) (member : d ∈ constantChars afterSmall text) :
    d.isAlphanum = true ∨ d = '_' := by
  induction text generalizing afterSmall with
  | nil => exact absurd member List.not_mem_nil
  | cons c rest inductionHypothesis =>
    obtain ⟨asciiHere, asciiRest⟩ := List.forall_mem_cons.mp ascii
    rw [constantChars, Text.isAlphanumeric_of_ascii asciiHere, Text.capitals_of_ascii asciiHere,
      List.append_assoc, List.mem_append, List.mem_append] at member
    rcases member with front | here | later
    · split at front
      · exact .inr (List.mem_singleton.mp front)
      · exact absurd front List.not_mem_nil
    · split at here
      · rename_i alphanumeric
        rw [List.mem_singleton.mp here]
        exact .inl (Text.isAlphanum_toUpper alphanumeric)
      · exact .inr (List.mem_singleton.mp here)
    · exact inductionHypothesis asciiRest later

/-- The constant of a name of ASCII characters is a plain identifier. The lone underscore counts as
    plain here and is treated apart. -/
theorem isPlainIdentifier_constantName {name : String} (ascii : Text.IsAscii name) :
    Text.IsPlainIdentifier (constantName name) := by
  have plain : ∀ d ∈ constantChars false name.toList, d.isAlphanum = true ∨ d = '_' :=
    fun d => plain_of_mem_constantChars ascii
  rw [constantName]
  cases shape : constantChars false name.toList with
  | nil => exact ⟨'_', [], rfl, .inr rfl, fun d member => absurd member List.not_mem_nil⟩
  | cons c rest =>
    rw [shape] at plain
    obtain ⟨plainHere, plainRest⟩ := List.forall_mem_cons.mp plain
    dsimp only
    cases digit : c.isDigit with
    | true => exact ⟨'_', c :: rest, by simp, .inr rfl, plain⟩
    | false =>
      refine ⟨c, rest, by simp, ?_, plainRest⟩
      refine plainHere.imp_left fun alphanumeric => ?_
      simpa [Char.isAlphanum, digit] using alphanumeric

/-- A small letter, a digit or an underscore. -/
def IsSnake (c : Char) : Prop :=
  c.isLower = true ∨ c.isDigit = true ∨ c = '_'

/-- A name of small letters, digits and underscores that does not start with a digit. -/
def IsSnakeCase (name : String) : Prop :=
  (∀ c ∈ name.toList, IsSnake c) ∧ ∃ c ∈ name.toList.head?, c.isDigit = false

/-- What snake case is written with may stand in an identifier. -/
theorem IsSnake.plain {c : Char} (snake : IsSnake c) : c.isAlphanum = true ∨ c = '_' := by
  rw [Text.isAlphanum_iff]
  rcases snake with lower | digit | underscore
  · exact .inl (.inr (.inl lower))
  · exact .inl (.inr (.inr digit))
  · exact .inr underscore

/-- What snake case is written with is no capital. So it starts no word, and words of snake case end
    at underscores only. -/
theorem IsSnake.isUpper {c : Char} (snake : IsSnake c) : c.isUpper = false := by
  rw [← Bool.not_eq_true, Text.isUpper_iff_toNat]
  rw [IsSnake, Text.isLower_iff_toNat, Text.isDigit_iff_toNat] at snake
  rcases snake with lower | digit | rfl
  · omega
  · omega
  · decide

/-- Small letters, digits and underscores stay where they are and become capitals. No underscore is
    put in, since none of these characters is a capital. -/
theorem constantChars_of_snake {text : List Char} (snake : ∀ c ∈ text, IsSnake c)
    (afterSmall : Bool) : constantChars afterSmall text = text.map Char.toUpper := by
  induction text generalizing afterSmall with
  | nil => rfl
  | cons c rest inductionHypothesis =>
    obtain ⟨snakeHere, snakeRest⟩ := List.forall_mem_cons.mp snake
    have ascii := Text.ascii_of_plain snakeHere.plain
    rw [constantChars, inductionHypothesis snakeRest, Text.isUppercase_of_ascii ascii,
      Text.isAlphanumeric_of_ascii ascii, Text.capitals_of_ascii ascii, snakeHere.isUpper,
      List.map_cons]
    rcases snakeHere.plain with alphanumeric | rfl
    · simp [alphanumeric]
    · simp

/-- The constant of a name in snake case is the name in capitals. Snake case does not begin with a
    digit, so nothing is put in front. -/
theorem constantName_of_snake {name : String} (snake : IsSnakeCase name) :
    (constantName name).toList = name.toList.map Char.toUpper := by
  obtain ⟨inside, c, first, digit⟩ := snake
  obtain ⟨rest, shape⟩ := List.head?_eq_some_iff.mp first
  rw [shape] at inside
  rw [toList_constantName_cons (Text.ascii_of_plain (inside c List.mem_cons_self).plain) shape,
    digit, constantChars_of_snake inside, shape]
  rfl

/-- Names in snake case have the same constant only if they are the same. -/
theorem constantName_inj_of_snake {name other : String} (snake : IsSnakeCase name)
    (snakeOther : IsSnakeCase other) (same : constantName name = constantName other) :
    name = other := by
  rw [← String.toList_inj, constantName_of_snake snake, constantName_of_snake snakeOther] at same
  exact String.toList_inj.mp (Text.map_toUpper_inj (fun c member => (snake.1 c member).isUpper)
    (fun c member => (snakeOther.1 c member).isUpper) same)

end DerivedProperty

namespace Declaration

variable {declaration : Declaration} {properties : List DerivedProperty}

/-- The constants of a derivation are those of its properties, in their order. -/
theorem constantNames_of_derived (derived : declaration.properties = .ok properties) :
    declaration.constantNames =
      properties.map fun property => DerivedProperty.constantName property.name := by
  obtain ⟨-, -, rfl⟩ := properties_eq_ok.mp derived
  simp [constantNames, DeclaredField.propertyNames, DeclaredField.property]

/-- Names of ASCII characters give constants that can have their names, so with them every derivable
    declaration has properties. Only other characters can make a constant fail to be an
    identifier. -/
theorem properties_of_ascii (derivable : declaration.IsDerivable)
    (ascii : ∀ name ∈ DeclaredField.propertyNames declaration.fields, Text.IsAscii name) :
    declaration.properties =
      .ok ((DeclaredField.kept declaration.fields).map DeclaredField.property) := by
  refine properties_of_named derivable fun name member => ?_
  obtain ⟨source, among, rfl⟩ := List.mem_map.mp member
  exact (DerivedProperty.isPlainIdentifier_constantName (ascii source among)).isIdentifier

open DerivedProperty (capitalWords constantName IsMark) in
/-- The constants for names of ASCII characters are plain identifiers. They are different, and none
    is a lone underscore, exactly if no two names have the same words and none is a single mark.

    Proof: a constant is made of the words of its name with underscores between them, and no word
    has an underscore in it, so constants and words determine each other. Among the constants, the
    lone underscore is that of a single mark. -/
theorem constants_distinct_iff (derived : declaration.properties = .ok properties)
    (ascii : ∀ property ∈ properties, Text.IsAscii property.name) :
    (∀ name ∈ declaration.constantNames, Text.IsPlainIdentifier name) ∧
      ((declaration.constantNames.Nodup ∧ "_" ∉ declaration.constantNames) ↔
        (properties.map fun property => capitalWords property.name).Nodup ∧
          ∀ property ∈ properties, ¬ IsMark property.name) := by
  rw [constantNames_of_derived derived]
  constructor
  · intro name member
    obtain ⟨property, among, rfl⟩ := List.mem_map.mp member
    exact DerivedProperty.isPlainIdentifier_constantName (ascii property among)
  · have lone : ("_" ∉ properties.map fun property => constantName property.name) ↔
        ∀ property ∈ properties, ¬ IsMark property.name := by
      rw [List.mem_map, not_exists]
      refine forall_congr' fun property => ?_
      rw [not_and]
      exact forall_congr' fun among =>
        not_congr (DerivedProperty.constantName_eq_underscore (ascii property among))
    rw [lone]
    refine and_congr_left fun unmarked => ?_
    have filled : ∀ property ∈ properties, property.name ≠ "" := fun property among empty =>
      unmarked property among (empty ▸ DerivedProperty.isMark_empty)
    rw [List.Nodup, List.Nodup, List.pairwise_map, List.pairwise_map]
    exact List.Pairwise.iff_of_mem fun first second => not_congr
      (DerivedProperty.constantName_eq_iff (ascii _ first) (ascii _ second) (filled _ first)
        (filled _ second))

/-- A journey, with names in two ways of writing. -/
def journey : Declaration where
  shape := .fields
  name := "Journey"
  fields := [⟨"startDate", "u32", []⟩, ⟨"end_date", "u32", []⟩]

/-- The constants of a journey are different. One of the names is in camel case and the other in
    snake case. -/
theorem journey_constants_distinct :
    journey.properties =
        .ok [⟨"startDate", "startDate", "u32"⟩, ⟨"end_date", "end_date", "u32"⟩] ∧
      journey.constantNames.Nodup ∧ "_" ∉ journey.constantNames := by
  have derived : journey.properties =
      .ok [⟨"startDate", "startDate", "u32"⟩, ⟨"end_date", "end_date", "u32"⟩] := by
    decide +kernel
  have outcome := constants_distinct_iff derived (by decide +kernel)
  exact ⟨derived, outcome.2.mpr ⟨by decide +kernel, by simp [DerivedProperty.IsMark]⟩⟩

/-- An event with two names that differ only in how they are written. -/
def event : Declaration where
  shape := .fields
  name := "Event"
  fields := [⟨"created_at", "u32", []⟩, ⟨"createdAt", "u32", []⟩]

/-- A field whose property is named by a mark. -/
def dashed : Declaration where
  shape := .fields
  name := "Dashed"
  fields := [⟨"dash", "u32", [⟨"record", .list "rename = \"-\""⟩]⟩]

/-- Names with the same words are accepted beside each other and share their constant, and a name
    that is a mark is accepted and gives a lone underscore. -/
theorem event_constants_clash :
    (event.properties =
        .ok [⟨"created_at", "created_at", "u32"⟩, ⟨"createdAt", "createdAt", "u32"⟩] ∧
      event.constantNames = ["CREATED_AT", "CREATED_AT"] ∧ ¬ event.constantNames.Nodup) ∧
    dashed.properties = .ok [⟨"-", "dash", "u32"⟩] ∧ dashed.constantNames = ["_"] := by
  decide +kernel

/-- Names in snake case never clash: their constants are different because they are. Capitals are
    written for small letters one by one, so nothing is lost. -/
theorem constants_distinct_of_snake (derived : declaration.properties = .ok properties)
    (snake : ∀ property ∈ properties, DerivedProperty.IsSnakeCase property.name) :
    declaration.constantNames.Nodup := by
  have names : (properties.map DerivedProperty.name).Nodup := by
    obtain ⟨derivable, -, rfl⟩ := properties_eq_ok.mp derived
    rw [List.map_map]
    exact derivable.fields.distinct
  have snakeNames : ∀ name ∈ properties.map DerivedProperty.name,
      DerivedProperty.IsSnakeCase name := List.forall_mem_map.mpr snake
  have same : declaration.constantNames =
      (properties.map DerivedProperty.name).map DerivedProperty.constantName := by
    rw [constantNames_of_derived derived, List.map_map]
    rfl
  rw [same]
  exact names.map_on fun name member other memberOther =>
    DerivedProperty.constantName_inj_of_snake (snakeNames name member)
      (snakeNames other memberOther)

end Declaration

end RecordQuery
