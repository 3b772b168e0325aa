import RecordQuery.Text.Identifier
import RecordQuery.Text.LetterCase

/-!
# Letters and digits of ASCII

In a text of ASCII the kinds of characters are ranges of code points. A capital stands at a fixed
distance in front of its small letter, digits have no capitals, and different characters that are
no capitals have different ones.
-/

namespace RecordQuery.Text

/-- A text of ASCII characters alone. -/
def IsAscii (text : String) : Prop :=
  ∀ c ∈ text.toList, c.toNat < 128

/-- A text is ASCII or not by its characters, one after the other. -/
instance (text : String) : Decidable (IsAscii text) :=
  List.decidableBAll (fun c : Char => c.toNat < 128) text.toList

/-- A text that starts with a letter or an underscore and goes on with letters, digits and
    underscores. -/
def IsPlainIdentifier (text : String) : Prop :=
  ∃ c rest, text.toList = c :: rest ∧ (c.isAlpha = true ∨ c = '_') ∧
    ∀ d ∈ rest, d.isAlphanum = true ∨ d = '_'

variable {c d : Char}

/-- Capitals are a range of code points. -/
theorem isUpper_iff_toNat : c.isUpper = true ↔ 65 ≤ c.toNat ∧ c.toNat ≤ 90 :=
  decide_eq_true_iff

/-- Small letters are a range of code points. -/
theorem isLower_iff_toNat : c.isLower = true ↔ 97 ≤ c.toNat ∧ c.toNat ≤ 122 :=
  Bool.and_eq_true_iff.trans (and_congr decide_eq_true_iff decide_eq_true_iff)

/-- Digits are a range of code points. -/
theorem isDigit_iff_toNat : c.isDigit = true ↔ 48 ≤ c.toNat ∧ c.toNat ≤ 57 :=
  Char.isDigit_iff_toNat

/-- Letters and digits are the capitals, the small letters and the digits. -/
theorem isAlphanum_iff :
    c.isAlphanum = true ↔ c.isUpper = true ∨ c.isLower = true ∨ c.isDigit = true := by
  show ((c.isUpper || c.isLower) || c.isDigit) = true ↔ _
  rw [Bool.or_eq_true, Bool.or_eq_true, or_assoc]

/-- What is no letter or digit is no small letter and no digit. -/
theorem not_small_of_mark (mark : c.isAlphanum = false) :
    c.isLower = false ∧ c.isDigit = false := by
  rw [← Bool.not_eq_true, isAlphanum_iff, not_or, not_or] at mark
  simpa using mark.2

/-- The capital of a small letter stands at a fixed distance in front of it. All other characters
    are their own capitals. -/
theorem toNat_toUpper (c : Char) :
    c.toUpper.toNat = if c.isLower then c.toNat - 32 else c.toNat := by
  by_cases small : 'a'.val ≤ c.val ∧ c.val ≤ 'z'.val
  · have bounds : 97 ≤ c.toNat ∧ c.toNat ≤ 122 := small
    have shifted : c.toUpper = ⟨c.val + 4294967264, _⟩ := dif_pos small
    rw [shifted, if_pos (isLower_iff_toNat.mpr bounds)]
    -- The distance is added modulo the size of a code point.
    show (c.val + 4294967264).toNat = c.toNat - 32
    rw [UInt32.toNat_add]
    show (c.toNat + 4294967264) % 2 ^ 32 = c.toNat - 32
    omega
  · have same : c.toUpper = c := dif_neg small
    rw [same, if_neg (mt isLower_iff_toNat.mp small)]

/-- The capital of a letter or digit is a letter or digit. -/
theorem isAlphanum_toUpper (alphanumeric : c.isAlphanum = true) : c.toUpper.isAlphanum = true := by
  have place := toNat_toUpper c
  simp only [isAlphanum_iff, isUpper_iff_toNat, isLower_iff_toNat, isDigit_iff_toNat] at *
  split at place <;> omega

/-- Exactly the capitals of digits, which are the digits themselves, are digits. The capitals of
    small letters are letters. -/
theorem isDigit_toUpper (c : Char) : c.toUpper.isDigit = c.isDigit := by
  have place := toNat_toUpper c
  rw [Bool.eq_iff_iff]
  simp only [isLower_iff_toNat, isDigit_iff_toNat] at *
  split at place <;> omega

/-- Different characters that are no capitals have different ones. A small letter and its capital
    would share one, which is why capitals are left out. -/
theorem toUpper_inj (small : c.isUpper = false) (smallOther : d.isUpper = false)
    (same : c.toUpper = d.toUpper) : c = d := by
  have place := toNat_toUpper c
  have placeOther := toNat_toUpper d
  rw [same] at place
  rw [← Bool.not_eq_true] at small smallOther
  rw [← Char.toNat_inj]
  simp only [isUpper_iff_toNat, isLower_iff_toNat] at *
  split at place <;> split at placeOther <;> omega

/-- Different texts without capitals have different capitals. -/
theorem map_toUpper_inj {text other : List Char} (small : ∀ c ∈ text, c.isUpper = false)
    (smallOther : ∀ c ∈ other, c.isUpper = false)
    (same : text.map Char.toUpper = other.map Char.toUpper) : text = other := by
  induction text generalizing other with
  | nil => exact (List.map_eq_nil_iff.mp same.symm).symm
  | cons c rest inductionHypothesis =>
    obtain ⟨d, more, rfl, first, remaining⟩ := List.map_eq_cons_iff.mp same.symm
    obtain ⟨smallHere, smallRest⟩ := List.forall_mem_cons.mp small
    obtain ⟨smallThere, smallMore⟩ := List.forall_mem_cons.mp smallOther
    rw [toUpper_inj smallHere smallThere first.symm,
      inductionHypothesis smallRest smallMore remaining.symm]

/-- The underscore is no letter or digit. -/
theorem ne_underscore (alphanumeric : c.isAlphanum = true) : c ≠ '_' := by
  rintro rfl
  exact Bool.false_ne_true alphanumeric

/-- The kinds of characters of every script are those of `Char` inside ASCII. -/
theorem isAlphanumeric_of_ascii (ascii : c.toNat < 128) : isAlphanumeric c = c.isAlphanum :=
  if_pos ascii

/-- The capitals of every script are those of `Char` inside ASCII. -/
theorem isUppercase_of_ascii (ascii : c.toNat < 128) : isUppercase c = c.isUpper :=
  if_pos ascii

/-- The small letters of every script are those of `Char` inside ASCII. -/
theorem isLowercase_of_ascii (ascii : c.toNat < 128) : isLowercase c = c.isLower :=
  if_pos ascii

/-- A character of ASCII has one capital, which may be the character itself. -/
theorem capitals_of_ascii (ascii : c.toNat < 128) : capitals c = [c.toUpper] :=
  if_pos ascii

/-- A letter, a digit or an underscore is a character of ASCII. -/
theorem ascii_of_plain (plain : c.isAlphanum = true ∨ c = '_') : c.toNat < 128 := by
  rcases plain with alphanumeric | rfl
  · simp only [isAlphanum_iff, isUpper_iff_toNat, isLower_iff_toNat, isDigit_iff_toNat]
      at alphanumeric
    omega
  · decide

/-- A plain identifier is an identifier. Its characters are all in ASCII, where the table of
    identifier characters is not consulted. -/
theorem IsPlainIdentifier.isIdentifier {text : String} (plain : IsPlainIdentifier text) :
    isIdentifier text.toList = true := by
  obtain ⟨c, rest, shape, starts, follows⟩ := plain
  rw [shape, Text.isIdentifier, Bool.and_eq_true, List.all_eq_true]
  constructor
  · have part : c.isAlphanum = true ∨ c = '_' := starts.imp_left fun alpha => by
      simp [Char.isAlphanum, alpha]
    rw [isIdentifierStart, if_pos (ascii_of_plain part)]
    simpa using starts
  · intro d member
    rw [isIdentifierPart, if_pos (ascii_of_plain (follows d member))]
    simpa using follows d member

end RecordQuery.Text
