import RecordQuery.Number.DecimalText
import RecordQuery.Proofs.Number.Order
import RecordQuery.Proofs.Text.Digits

/-!
# Decimals read from their own text

The digits of a decimal never outgrow its mantissa while they are read, and there are no more of
them behind the point than a decimal has places, so none of them rounds another. A decimal is
therefore read from its own text with all its places, and only a zero loses its sign.
-/

namespace RecordQuery.Decimal

/-- The decimal with no sign on a zero. -/
def unsignedZero (decimal : Decimal) : Decimal :=
  { decimal with negative := decimal.negative && decimal.mantissa != 0 }

/-- The text of a decimal without its sign. -/
def numeral (decimal : Decimal) : List Char :=
  if decimal.scale = 0 then Text.natDigits decimal.wholePart
  else Text.natDigits decimal.wholePart ++
    '.' :: Text.padZeros decimal.scale (Text.natDigits decimal.fractionPart)

/-- Digits that fit extend what was read, and behind a point its places. The bounds hold of all
    decimals, so neither the digits nor the places overflow on the way. -/
theorem Reading.continue_digits {negative pointed started : Bool} {mantissa scale total : Nat}
    {digits rest : List Char} (read : digits.foldl Text.pushDigit (some mantissa) = some total)
    (fits : total < twoTo 96) (places : pointed = true → scale + digits.length ≤ 28)
    (unplaced : pointed = false → scale = 0) (begun : started = true ∨ digits ≠ []) :
    continue? negative ⟨mantissa, scale, pointed, started⟩ (digits ++ rest) =
      continue? negative ⟨total, if pointed then scale + digits.length else 0, pointed, true⟩
        rest := by
  induction digits generalizing mantissa scale started with
  | nil =>
    cases read
    have known : started = true := begun.resolve_right (absurd rfl)
    cases pointed with
    | false => simp [known, unplaced rfl]
    | true => simp [known]
  | cons c others inductionHypothesis =>
    obtain ⟨digit, value, readOthers⟩ := Text.foldl_pushDigit_cons read
    have extended : mantissa * 10 + digit < twoTo 96 :=
      Nat.lt_of_le_of_lt (Text.le_of_foldl_pushDigit readOthers) fits
    have placeLeft : ¬(pointed = true ∧ scale = 28) := by
      rintro ⟨known, full⟩
      have more := places known
      rw [List.length_cons] at more
      omega
    rw [List.cons_append, continue?, if_neg placeLeft, value]
    simp only [extended, if_true]
    cases pointed with
    | false =>
      exact inductionHypothesis readOthers (fun known => absurd known Bool.false_ne_true)
        (fun _ => rfl) (.inl rfl)
    | true =>
      have more := places rfl
      rw [List.length_cons] at more
      simp only [if_true, List.length_cons]
      rw [inductionHypothesis readOthers (fun _ => by omega)
        (fun known => absurd known.symm Bool.false_ne_true) (.inl rfl)]
      simp only [if_true, Nat.add_assoc, Nat.add_comm 1]

/-- The parts of a decimal are small enough to make it, without the sign of a zero. -/
theorem unsignedZero_eq (decimal : Decimal) :
    unsignedZero? decimal.negative decimal.mantissa decimal.scale = some decimal.unsignedZero := by
  rw [unsignedZero?, make?, dif_pos ⟨decimal.mantissa_lt, decimal.scale_le⟩]
  rfl

/-- The digits in front of the point and the digits behind it make the mantissa. -/
theorem wholePart_fractionPart (decimal : Decimal) :
    decimal.wholePart * tenTo decimal.scale + decimal.fractionPart = decimal.mantissa :=
  Nat.div_add_mod' ..

/-- The digits in front of the point are read before all else. There is at least one digit, a zero
    if need be. -/
theorem continue_wholePart (decimal : Decimal) (rest : List Char) :
    Reading.continue? decimal.negative ⟨0, 0, false, false⟩
      (Text.natDigits decimal.wholePart ++ rest) =
      Reading.continue? decimal.negative ⟨decimal.wholePart, 0, false, true⟩ rest := by
  have fits : decimal.wholePart < twoTo 96 :=
    Nat.lt_of_le_of_lt (Nat.div_le_self ..) decimal.mantissa_lt
  exact Reading.continue_digits (Text.foldl_natDigits decimal.wholePart) fits
    (fun pointed => absurd pointed Bool.false_ne_true) (fun _ => rfl)
    (.inr (Text.natDigits_ne_nil _))

/-- The digits behind the point complete a decimal that has places. There are as many digits as
    places, with zeros in front where they are needed, so the mantissa comes back whole. -/
theorem continue_fractionPart (decimal : Decimal) (placed : 0 < decimal.scale) :
    Reading.continue? decimal.negative ⟨decimal.wholePart, 0, true, true⟩
      (Text.padZeros decimal.scale (Text.natDigits decimal.fractionPart)) =
      some decimal.unsignedZero := by
  have small : decimal.fractionPart < tenTo decimal.scale := Nat.mod_lt _ (tenTo_pos _)
  have filled := Text.length_padZeros placed small
  have read := Text.foldl_pushDigit_of_readNat
    (Text.readNat_padZeros decimal.scale decimal.fractionPart) decimal.wholePart
  rw [filled, decimal.wholePart_fractionPart] at read
  have places : true = true → 0 + (Text.padZeros decimal.scale
      (Text.natDigits decimal.fractionPart)).length ≤ 28 := by
    rw [filled, Nat.zero_add]
    exact fun _ => decimal.scale_le
  have taken := @Reading.continue_digits decimal.negative true true decimal.wholePart 0 _ _ [] read
    decimal.mantissa_lt places (fun unpointed => absurd unpointed.symm Bool.false_ne_true)
      (.inl rfl)
  rw [List.append_nil, filled, Nat.zero_add] at taken
  rw [taken, if_pos rfl, Reading.continue?, if_pos rfl, unsignedZero_eq]

/-- What stands behind the sign of a decimal is read as the decimal. Only a decimal without places
    has no point. -/
theorem continue_numeral (decimal : Decimal) :
    Reading.continue? decimal.negative ⟨0, 0, false, false⟩ decimal.numeral =
      some decimal.unsignedZero := by
  unfold numeral
  split
  · rename_i unplaced
    have whole : decimal.wholePart = decimal.mantissa := by
      rw [wholePart, unplaced]
      exact Nat.div_one _
    have taken := decimal.continue_wholePart []
    rw [List.append_nil] at taken
    rw [taken, Reading.continue?, if_pos rfl, whole, ← unplaced, unsignedZero_eq]
  · rename_i placed
    rw [continue_wholePart, Reading.continue?]
    exact decimal.continue_fractionPart (Nat.pos_of_ne_zero placed)

/-- A decimal is written behind its sign. -/
theorem toList_text (decimal : Decimal) :
    decimal.text.toList = if decimal.negative then '-' :: decimal.numeral else decimal.numeral :=
  String.toList_ofList

/-- The text of a decimal without its sign begins with a digit. It is never the point, as a zero is
    written in front. -/
theorem exists_digit_numeral (decimal : Decimal) :
    ∃ c rest, decimal.numeral = c :: rest ∧ c.isDigit = true := by
  obtain ⟨c, rest, digits⟩ := List.exists_cons_of_ne_nil (Text.natDigits_ne_nil decimal.wholePart)
  have isDigit : c.isDigit = true :=
    Text.isDigit_natDigits decimal.wholePart c (digits ▸ List.mem_cons_self)
  unfold numeral
  split
  · exact ⟨c, rest, digits, isDigit⟩
  · exact ⟨c, _, by rw [digits, List.cons_append], isDigit⟩

/-- A digit is no sign, so what it begins is read as positive. With a sign in front, the rest is
    read in the same way. -/
theorem readPlain_of_digit {c : Char} (isDigit : c.isDigit = true) (rest : List Char) :
    readPlain? (c :: rest) = Reading.continue? false ⟨0, 0, false, false⟩ (c :: rest) := by
  unfold readPlain?
  split
  · rename_i sign
    cases sign
    cases isDigit
  · rename_i sign
    cases sign
    cases isDigit
  · rfl

/-- A decimal is read from its own text, and only a zero without its sign. The notation with an
    exponent is tried only if the plain one fails, and it does not. -/
theorem read_text (decimal : Decimal) : read? decimal.text.toList = some decimal.unsignedZero := by
  have taken := decimal.continue_numeral
  have plain : readPlain? decimal.text.toList = some decimal.unsignedZero := by
    rw [toList_text]
    cases negative : decimal.negative with
    | true =>
      rw [negative] at taken
      rw [if_pos rfl, readPlain?, taken]
    | false =>
      obtain ⟨c, rest, digits, isDigit⟩ := decimal.exists_digit_numeral
      rw [negative, digits] at taken
      rw [if_neg Bool.false_ne_true, digits, readPlain_of_digit isDigit, taken]
  rw [read?, plain, Option.some_or]

/-- A text with a decimal has nothing to trim. -/
theorem trimChars_text (decimal : Decimal) :
    Text.trimChars decimal.text.toList = decimal.text.toList :=
  Text.trimChars_toList
    (Text.trim_eq_self (Text.isBlank_of_isSignedNumeral decimal.isSignedNumeral_text))

/-- A decimal other than a negative zero keeps its sign. The sign of a zero is the only one that
    cannot be seen from the value. -/
theorem unsignedZero_eq_self {decimal : Decimal}
    (signed : decimal.negative = true → decimal.mantissa ≠ 0) : decimal.unsignedZero = decimal := by
  have kept : (decimal.negative && decimal.mantissa != 0) = decimal.negative := by
    cases negative : decimal.negative with
    | false => rfl
    | true => simpa using signed negative
  cases decimal
  simp only [unsignedZero] at kept ⊢
  rw [kept]

end RecordQuery.Decimal
