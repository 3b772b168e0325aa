import RecordQuery.Proofs.DateTime.Pieces
import RecordQuery.Proofs.Outcome
import RecordQuery.Proofs.Sql.Meaning

/-!
# Dates that are written and read

The written form of a date is read back as the date without the fraction of its second, and the
exact form as the date itself, if a leap second only comes after second 59. Every date that is read
from some text is of this kind.
-/

namespace RecordQuery.DateTime

/-- The form that dates are written in, with a blank between day and time. -/
def writtenForm : List Piece := dayForm ++ [.blank] ++ timeForm

/-- A leap second only comes after second 59. -/
def LeapInPlace (date : DateTime) : Prop :=
  1000000000 ≤ date.nanosecond → date.second = 59

/-- The fields that a date is read from. -/
def fieldsOf (date : DateTime) : Fields :=
  ⟨date.year, date.month, date.day, date.hour, date.minute, date.writtenSecond,
    date.nanosecond % 1000000000⟩

/-- The fields of a date make up the date. -/
theorem make_fields (date : DateTime) :
    make? date.year date.month date.day date.hour date.minute date.second date.nanosecond =
      some date := by
  rw [make?, dif_pos date.proper]

/-- A date is read from its fields. A leap second is written as second 60 and kept as second 59 with
    more than a second of fraction, so it is only found again there. -/
theorem date_fieldsOf {date : DateTime} (leap : date.LeapInPlace) :
    (fieldsOf date).date? = some date := by
  obtain ⟨-, -, -, -, -, inMinute, inSecond⟩ := date.proper
  by_cases leaps : 1000000000 ≤ date.nanosecond
  · have last := leap leaps
    have sixty : date.writtenSecond = 60 := by
      unfold writtenSecond
      omega
    have all : date.nanosecond % 1000000000 + 1000000000 = date.nanosecond := by omega
    rw [fieldsOf, Fields.date?, if_pos sixty]
    show make? _ _ _ _ _ 59 (date.nanosecond % 1000000000 + 1000000000) = _
    rw [all, ← last, make_fields]
  · have plain : date.writtenSecond = date.second := by
      unfold writtenSecond
      omega
    have all : date.nanosecond % 1000000000 = date.nanosecond := by omega
    rw [fieldsOf, plain, all, Fields.date?, if_neg (Nat.ne_of_lt inMinute)]
    exact make_fields date

/-- Without a fraction, the fields of a date are the others. A leap second is no part of the
    fraction and stays. -/
theorem fieldsOf_wholeSeconds (date : DateTime) :
    fieldsOf date.wholeSeconds = { fieldsOf date with nanosecond := 0 } := by
  have seconds : date.wholeSeconds.writtenSecond = date.writtenSecond := by
    show date.second + date.nanosecond / 1000000000 * 1000000000 / 1000000000 =
      date.second + date.nanosecond / 1000000000
    omega
  have nothing : date.wholeSeconds.nanosecond % 1000000000 = 0 := Nat.mul_mod_left _ _
  rw [fieldsOf, seconds, nothing]
  rfl

/-- A date has no fraction of a second exactly if it is left as it is without one. The fraction of a
    leap second counts from the second that is its own. -/
theorem wholeSeconds_eq_iff {date : DateTime} :
    date.wholeSeconds = date ↔ date.nanosecond % 1000000000 = 0 := by
  constructor
  · intro same
    rw [← same]
    exact Nat.mul_mod_left _ _
  · exact wholeSeconds_eq

/-- A leap second stays in its place without its fraction. -/
theorem LeapInPlace.wholeSeconds {date : DateTime} (leap : date.LeapInPlace) :
    date.wholeSeconds.LeapInPlace := by
  intro leaps
  have more : 1000000000 ≤ date.nanosecond / 1000000000 * 1000000000 := leaps
  exact leap (by omega)

/-- The pieces of the written form end where the next one begins. -/
theorem separated_writtenForm (date : DateTime) : Separated date writtenForm := by
  obtain ⟨c, rest, digits, digit⟩ := exists_digit_padZeros 2 date.hour
  have noBlank := Text.isBlank_of_isDigit digit
  have dash : isDigit '-' = false := rfl
  simp [Separated, writtenForm, dayForm, timeForm, Piece.EndsBefore, Piece.written, twoDigits,
    digits, noBlank, dash]

/-- The pieces of the exact form end where the next one begins. -/
theorem separated_exactForm (date : DateTime) : Separated date exactForm := by
  have dash : isDigit '-' = false := rfl
  simp [Separated, exactForm, dayForm, timeForm, Piece.EndsBefore, Piece.written, dash]

/-- The written form of a date is read as the date without the fraction of its second. No fraction
    is written in this form, so it is the one thing that is lost. -/
theorem readForm_text {date : DateTime} (leap : date.LeapInPlace) :
    readForm? writtenForm date.text.toList = some date.wholeSeconds := by
  have spelled : date.text.toList = writtenForm.flatMap (Piece.written date) := by
    simp [text, dayText, timeText, writtenForm, dayForm, timeForm, Piece.written]
  rw [readForm?, spelled, readPieces_written (separated_writtenForm date) fun _ => rfl]
  show ({ fieldsOf date with nanosecond := 0 } : Fields).date? = some date.wholeSeconds
  rw [← fieldsOf_wholeSeconds]
  exact date_fieldsOf leap.wholeSeconds

/-- A date is read back from its exact text. -/
theorem readExact_exactText {date : DateTime} (leap : date.LeapInPlace) :
    readExact? date.exactText = some date := by
  have spelled : date.exactText.toList = exactForm.flatMap (Piece.written date) := by
    simp [exactText, dayText, timeText, exactForm, dayForm, timeForm, Piece.written]
  rw [readExact?, readForm?, spelled, readPieces_written (separated_exactForm date) fun _ => rfl]
  exact date_fieldsOf leap

/-- What begins with no digit has no number of a fixed width in front. It rules out a sign where a
    month or a day is expected. -/
theorem readFixed_of_not_digit {width : Nat} (positive : 0 < width) {c : Char}
    (other : isDigit c = false) (rest : List Char) : readFixed? width (c :: rest) = none := by
  obtain ⟨width, rfl⟩ := Nat.exists_eq_succ_of_ne_zero (Nat.ne_of_gt positive)
  have nothing : takeDigits (width + 1) (c :: rest) = ([], c :: rest) := by
    simp [takeDigits, List.take_succ_cons, other]
  rw [readFixed?, nothing]
  simp

/-- An expected character is removed. -/
theorem expect_self (c : Char) (rest : List Char) : expect? c (c :: rest) = some rest :=
  if_pos rfl

/-- A blank may stand between day and time. -/
theorem expect_blank (rest : List Char) :
    ((expect? 'T' (' ' :: rest)).or (expect? 't' (' ' :: rest))).or (expect? ' ' (' ' :: rest)) =
      some rest := rfl

/-- A date without an offset is not read as one with an offset. The reader tries this form first, so
    it must not take a date without an offset for something else. A year with a sign is refused at
    once, and others where an offset should follow. -/
theorem readZoned_text (date : DateTime) : readZoned? date.text.toList = none := by
  obtain ⟨-, ⟨-, inYear⟩, ⟨-, inMonth⟩, inDay, inHour, -⟩ := date.proper
  have days := daysInMonth_lt date.year date.month
  have ended : readFixed? 2 (twoDigits date.writtenSecond) = some (date.writtenSecond, []) := by
    simpa using readFixed_twoDigits (writtenSecond_lt date) []
  have spelled : date.text.toList = yearText date.year ++ '-' :: (twoDigits date.month ++
      '-' :: (twoDigits date.day ++ ' ' :: (twoDigits date.hour ++ ':' ::
        (twoDigits date.minute ++ ':' :: twoDigits date.writtenSecond)))) := by
    simp [text, dayText, timeText]
  rw [spelled]
  unfold yearText
  split
  · rw [List.cons_append, readZoned?, readFixed_of_not_digit (by decide) (by decide)]
    rfl
  · split
    · rw [List.cons_append, readZoned?, readFixed_of_not_digit (by decide) (by decide)]
      rfl
    · rename_i positive small
      have filled : date.year.natAbs < tenTo 4 := by
        have power : tenTo 4 = 10000 := rfl
        omega
      rw [readZoned?]
      refine (bind_of_eq_some (readFixed_padZeros (by decide) filled _) _).trans ?_
      refine (bind_of_eq_some (expect_self '-' _) _).trans ?_
      refine (bind_of_eq_some (readFixed_twoDigits (by omega) _) _).trans ?_
      refine (bind_of_eq_some (expect_self '-' _) _).trans ?_
      refine (bind_of_eq_some (readFixed_twoDigits (by omega) _) _).trans ?_
      refine (bind_of_eq_some (expect_blank _) _).trans ?_
      refine (bind_of_eq_some (readFixed_twoDigits (by omega) _) _).trans ?_
      refine (bind_of_eq_some (expect_self ':' _) _).trans ?_
      refine (bind_of_eq_some (readFixed_twoDigits (by omega) _) _).trans ?_
      refine (bind_of_eq_some (expect_self ':' _) _).trans ?_
      exact (bind_of_eq_some ended _).trans rfl

/-- The written form of a date is read as the date without the fraction of its second. -/
theorem read_text {date : DateTime} (leap : date.LeapInPlace) :
    read? date.text.toList = some date.wholeSeconds := by
  have first : readForm? (dayForm ++ [.blank] ++ timeForm) date.text.toList =
      some date.wholeSeconds := readForm_text leap
  rw [read?, readZoned_text, Option.none_or, forms, List.findSome?_cons, first]

/-- The written form of a date has no blanks at its ends. A text is trimmed before it is read, so
    this is needed to find its characters unchanged. -/
theorem trimChars_text (date : DateTime) : Text.trimChars date.text.toList = date.text.toList := by
  obtain ⟨c, others, begun, noBlank⟩ := exists_begin_yearText date.year
  have ended : date.text.toList = date.dayText ++ ' ' :: (twoDigits date.hour ++ ':' ::
      (twoDigits date.minute ++ [':'])) ++ twoDigits date.writtenSecond := by
    simp [text, timeText]
  refine Text.trimChars_eq_self (fun first isFirst => ?_) fun last isLast => ?_
  · have same : first = c := by
      simpa [ended, dayText, begun, eq_comm] using isFirst
    rw [same]
    exact noBlank
  · have some : twoDigits date.writtenSecond ≠ [] :=
      List.append_ne_nil_of_right_ne_nil _ (Text.natDigits_ne_nil _)
    rw [ended, List.getLast?_append_of_ne_nil _ some] at isLast
    exact Text.isBlank_of_isDigit (Text.isDigit_padZeros 2 (Text.isDigit_natDigits _) last
      (List.mem_of_getLast? isLast))

/-- A fraction that is read is less than a second. At most nine digits count, which are then scaled
    up to nine. -/
theorem readFraction_lt {text rest : List Char} {number : Nat}
    (read : readFraction? text = some (number, rest)) : number < 1000000000 := by
  obtain ⟨digits, readDigits, same⟩ := Option.bind_eq_some_iff.mp read
  cases same
  have narrow : (takeDigits 9 text).1.length ≤ 9 :=
    Nat.le_trans (List.takeWhile_prefix _).length_le (List.length_take_le 9 text)
  have small := Text.readNat_lt readDigits
  calc digits * tenTo (9 - (takeDigits 9 text).1.length)
      < tenTo (takeDigits 9 text).1.length * tenTo (9 - (takeDigits 9 text).1.length) :=
        Nat.mul_lt_mul_of_pos_right small (tenTo_pos _)
    _ = tenTo 9 := by
        simp only [tenTo, Nat.pow_eq, ← Nat.pow_add]
        congr 1
        omega

/-- A piece that is read leaves less than a second of fraction. Only the fraction sets it, and all
    other pieces leave it alone. -/
theorem Piece.read_nanosecond_lt {piece : Piece} {fields filled : Fields} {text rest : List Char}
    (read : piece.read? fields text = some (filled, rest))
    (small : fields.nanosecond < 1000000000) : filled.nanosecond < 1000000000 := by
  cases piece with
  | year | month | day | hour | minute | second =>
    obtain ⟨_, -, same⟩ := Option.bind_eq_some_iff.mp read
    cases same
    exact small
  | fraction =>
    by_cases point : text.head? = some '.'
    · obtain ⟨digits, rfl⟩ := List.head?_eq_some_iff.mp point
      obtain ⟨_, fraction, same⟩ := Option.bind_eq_some_iff.mp read
      cases same
      exact readFraction_lt fraction
    · rw [read_no_fraction fields point] at read
      cases read
      exact small
  | mark c =>
    cases text with
    | nil => cases read
    | cons first rest =>
      rw [read?] at read
      split at read
      · cases read
        exact small
      · cases read
  | blank =>
    cases read
    exact small

/-- A form that is read leaves less than a second of fraction. With it a leap second can only come
    from second 60 of the text. -/
theorem readPieces_nanosecond_lt {form : List Piece} {fields filled : Fields} {text : List Char}
    (read : readPieces? form fields text = some filled)
    (small : fields.nanosecond < 1000000000) : filled.nanosecond < 1000000000 := by
  induction form generalizing fields text with
  | nil =>
    cases text with
    | nil =>
      cases read
      exact small
    | cons c rest => cases read
  | cons piece pieces inductionHypothesis =>
    obtain ⟨_, first, others⟩ := Option.bind_eq_some_iff.mp read
    exact inductionHypothesis others (Piece.read_nanosecond_lt first small)

/-- A date that is made has the second and the fraction that it is made from. Dates are made of
    checked fields, which are neither changed nor normalised. -/
theorem make_seconds {date : DateTime} {year : Int}
    {month day hour minute second nanosecond : Nat}
    (made : make? year month day hour minute second nanosecond = some date) :
    date.second = second ∧ date.nanosecond = nanosecond := by
  unfold make? at made
  split at made
  · cases made
    exact ⟨rfl, rfl⟩
  · cases made

/-- Fields with less than a second of fraction make up a date with leap seconds in place. Second 60
    becomes second 59 with a second more of fraction, and no other fields reach that much. -/
theorem leapInPlace_of_fields {fields : Fields} {date : DateTime}
    (made : fields.date? = some date) (small : fields.nanosecond < 1000000000) :
    date.LeapInPlace := by
  unfold Fields.date? at made
  split at made
  · intro leaps
    exact (make_seconds made).1
  · intro leaps
    obtain ⟨-, kept⟩ := make_seconds made
    omega

/-- Another time of day leaves leap seconds in place. Offsets are counted in minutes, so the second
    and its fraction are as before. -/
theorem leapInPlace_of_earlier {date moved : DateTime} {minutes : Int}
    (found : date.earlier? minutes = some moved) (leap : date.LeapInPlace) :
    moved.LeapInPlace := by
  obtain ⟨second, nanosecond⟩ := make_seconds found
  intro leaps
  rw [nanosecond] at leaps
  rw [second]
  exact leap leaps

/-- A date that is read in a form has its leap seconds in place. -/
theorem leapInPlace_of_readForm {form : List Piece} {text : List Char} {date : DateTime}
    (read : readForm? form text = some date) : date.LeapInPlace := by
  obtain ⟨fields, filled, made⟩ := Option.bind_eq_some_iff.mp read
  exact leapInPlace_of_fields made (readPieces_nanosecond_lt filled (by decide))

/-- The fields in front of an offset make up a date with its leap seconds in place. The offset only
    moves the minutes. -/
theorem leapInPlace_of_readOffset {fields : Fields} {text : List Char} {date : DateTime}
    (found : ((readOffset? text).bind fun moved =>
      if moved.2.isEmpty then fields.date?.bind fun made => made.earlier? moved.1 else none) =
        some date)
    (small : fields.nanosecond < 1000000000) : date.LeapInPlace := by
  obtain ⟨_, -, ended⟩ := Option.bind_eq_some_iff.mp found
  split at ended
  · obtain ⟨_, made, moved⟩ := Option.bind_eq_some_iff.mp ended
    exact leapInPlace_of_earlier moved (leapInPlace_of_fields made small)
  · cases ended

/-- A date that is read with an offset has its leap seconds in place. The only choice on the way is
    whether a fraction follows the seconds. -/
theorem leapInPlace_of_readZoned {text : List Char} {date : DateTime}
    (read : readZoned? text = some date) : date.LeapInPlace := by
  unfold readZoned? at read
  -- day and time are six numbers with five marks between them
  iterate 11 obtain ⟨_, -, read⟩ := Option.bind_eq_some_iff.mp read
  dsimp only at read
  split at read
  · obtain ⟨_, fraction, ended⟩ := Option.bind_eq_some_iff.mp read
    exact leapInPlace_of_readOffset ended (readFraction_lt fraction)
  · obtain ⟨_, same, ended⟩ := Option.bind_eq_some_iff.mp read
    cases same
    exact leapInPlace_of_readOffset ended (Nat.zero_lt_succ _)

/-- Every date that is read has its leap seconds in place. -/
theorem leapInPlace_of_read {text : List Char} {date : DateTime}
    (read : read? text = some date) : date.LeapInPlace := by
  rcases Option.or_eq_some_iff.mp read with zoned | ⟨-, plain⟩
  · exact leapInPlace_of_readZoned zoned
  · obtain ⟨form, -, found⟩ := List.exists_of_findSome?_eq_some plain
    exact leapInPlace_of_readForm found

end RecordQuery.DateTime
