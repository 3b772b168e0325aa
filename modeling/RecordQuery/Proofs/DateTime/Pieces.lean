import RecordQuery.DateTime.Text
import RecordQuery.Proofs.Text.Digits

/-!
# Dates read piece by piece

A piece of a form is read from what a date is written as in it, and leaves what stands behind. Most
numbers fill their width, so anything may stand behind them; a year behind its sign, a blank and a
fraction of a second end where something else begins. A form is then read, by induction on its
pieces, from what a date is written as in it.
-/

namespace RecordQuery.DateTime

/-- A digit is a digit of a date. -/
theorem isDigit_of_isDigit {c : Char} (digit : c.isDigit = true) : isDigit c = true := by
  rw [isDigit, Text.digitValue?, if_pos (Text.toNat_of_isDigit digit)]
  rfl

/-- Digits are taken up to a width, or up to what is no digit. Either condition makes the reading
    stop: the width is used up, or no digit follows. -/
theorem takeDigits_append {width : Nat} {digits rest : List Char}
    (all : ∀ c ∈ digits, c.isDigit = true)
    (ends : digits.length = width ∨
      digits.length ≤ width ∧ ∀ c ∈ rest.head?, isDigit c = false) :
    takeDigits width (digits ++ rest) = (digits, rest) := by
  have fits : digits.length ≤ width := by
    rcases ends with rfl | ⟨fits, -⟩
    · exact Nat.le_refl _
    · exact fits
  have taken : (digits ++ rest).take width = digits ++ rest.take (width - digits.length) := by
    rw [List.take_append, List.take_of_length_le fits]
  have nothing : (rest.take (width - digits.length)).takeWhile isDigit = [] := by
    rcases ends with rfl | ⟨-, other⟩
    · simp
    · cases rest with
      | nil => simp
      | cons c rest =>
        have noDigit := other c rfl
        cases width - digits.length with
        | zero => rfl
        | succ more => simp [List.take_succ_cons, noDigit]
  have kept : ((digits ++ rest).take width).takeWhile isDigit = digits := by
    rw [taken, List.takeWhile_append_of_pos fun c member => isDigit_of_isDigit (all c member),
      nothing, List.append_nil]
  rw [takeDigits, kept, List.drop_left]

/-- A number is read from its digits and the zeros in front. What follows may begin with a digit
    only if the width is filled already. -/
theorem readDigits_padZeros {width filled number : Nat} {rest : List Char}
    (ends : (Text.padZeros filled (Text.natDigits number)).length = width ∨
      (Text.padZeros filled (Text.natDigits number)).length ≤ width ∧
        ∀ c ∈ rest.head?, isDigit c = false) :
    readDigits? width (Text.padZeros filled (Text.natDigits number) ++ rest) =
      some (number, rest) := by
  have all := Text.isDigit_padZeros filled (Text.isDigit_natDigits number)
  rw [readDigits?, takeDigits_append all ends]
  simp [Text.readNat_padZeros]

/-- A number that fills its width is read where fewer digits will not do. The number must be small
    enough not to have more digits than the width. -/
theorem readFixed_padZeros {width number : Nat} (positive : 0 < width)
    (small : number < tenTo width) (rest : List Char) :
    readFixed? width (Text.padZeros width (Text.natDigits number) ++ rest) =
      some (number, rest) := by
  have filled := Text.length_padZeros positive small
  have all := Text.isDigit_padZeros width (Text.isDigit_natDigits number)
  rw [readFixed?, takeDigits_append all (.inl filled)]
  simp [filled, Text.readNat_padZeros]

/-- Two digits are read as their number, whatever stands behind. -/
theorem readDigits_twoDigits {number : Nat} (small : number < 100) (rest : List Char) :
    readDigits? 2 (twoDigits number ++ rest) = some (number, rest) :=
  readDigits_padZeros (.inl (Text.length_padZeros (by decide) small))

/-- Two digits are read as their number where fewer will not do. -/
theorem readFixed_twoDigits {number : Nat} (small : number < 100) (rest : List Char) :
    readFixed? 2 (twoDigits number ++ rest) = some (number, rest) :=
  readFixed_padZeros (by decide) small rest

/-- Digits with zeros in front begin with a digit. The number zero has a digit too, so there is one
    even without a width. -/
theorem exists_digit_padZeros (width number : Nat) :
    ∃ c rest, Text.padZeros width (Text.natDigits number) = c :: rest ∧ c.isDigit = true := by
  have all := Text.isDigit_padZeros width (Text.isDigit_natDigits number)
  have some : Text.padZeros width (Text.natDigits number) ≠ [] :=
    List.append_ne_nil_of_right_ne_nil _ (Text.natDigits_ne_nil number)
  obtain ⟨c, rest, digits⟩ := List.exists_cons_of_ne_nil some
  exact ⟨c, rest, digits, all c (digits ▸ List.mem_cons_self)⟩

/-- Two digits have no blanks in front. -/
theorem dropWhile_twoDigits (number : Nat) (rest : List Char) :
    (twoDigits number ++ rest).dropWhile Text.isBlank = twoDigits number ++ rest := by
  obtain ⟨c, others, digits, isDigit⟩ := exists_digit_padZeros 2 number
  rw [twoDigits, digits, List.cons_append]
  exact List.dropWhile_cons_of_neg (by simp [Text.isBlank_of_isDigit isDigit])

/-- A year begins with a sign or a digit. This is what keeps a written date from being trimmed at
    its front. -/
theorem exists_begin_yearText (year : Int) :
    ∃ c rest, yearText year = c :: rest ∧ Text.isBlank c = false := by
  unfold yearText
  split
  · exact ⟨'-', _, rfl, by decide⟩
  · split
    · exact ⟨'+', _, rfl, by decide⟩
    · obtain ⟨c, rest, digits, isDigit⟩ := exists_digit_padZeros 4 year.natAbs
      exact ⟨c, rest, digits, Text.isBlank_of_isDigit isDigit⟩

/-- A year has no blanks in front. -/
theorem dropWhile_yearText (year : Int) (rest : List Char) :
    (yearText year ++ rest).dropWhile Text.isBlank = yearText year ++ rest := by
  obtain ⟨c, others, begun, noBlank⟩ := exists_begin_yearText year
  rw [begun, List.cons_append]
  exact List.dropWhile_cons_of_neg (by simp [noBlank])

/-- A year is read behind its sign or, with four digits, without one. The split follows the three
    ways in which a year is written: behind a minus, behind a plus if it has more than four digits,
    and bare. -/
theorem readYear_yearText (year : Int) {rest : List Char}
    (ends : ∀ c ∈ rest.head?, isDigit c = false) :
    readYear? (yearText year ++ rest) = some (year, rest) := by
  have signed : readDigits? (Text.padZeros 4 (Text.natDigits year.natAbs) ++ rest).length
      (Text.padZeros 4 (Text.natDigits year.natAbs) ++ rest) = some (year.natAbs, rest) :=
    readDigits_padZeros (.inr ⟨by simp, ends⟩)
  unfold yearText
  split
  · rename_i negative
    have value : -(year.natAbs : Int) = year := by omega
    rw [List.cons_append, readYear?, signed]
    show some (-(year.natAbs : Int), rest) = some (year, rest)
    rw [value]
  · rename_i positive
    have value : (year.natAbs : Int) = year := by omega
    split
    · rw [List.cons_append, readYear?, signed]
      show some ((year.natAbs : Int), rest) = some (year, rest)
      rw [value]
    · have filled : year.natAbs < tenTo 4 := by
        have power : tenTo 4 = 10000 := rfl
        omega
      have unsigned : readYear? (Text.padZeros 4 (Text.natDigits year.natAbs) ++ rest) =
          (readDigits? 4 (Text.padZeros 4 (Text.natDigits year.natAbs) ++ rest)).map
            fun found => ((found.1 : Int), found.2) := by
        obtain ⟨c, others, digits, isDigit⟩ := exists_digit_padZeros 4 year.natAbs
        rw [digits, List.cons_append]
        unfold readYear?
        split
        · rename_i sign
          cases sign
          cases isDigit
        · rename_i sign
          cases sign
          cases isDigit
        · rfl
      rw [unsigned, readDigits_padZeros (.inl (Text.length_padZeros (by decide) filled))]
      show some ((year.natAbs : Int), rest) = some (year, rest)
      rw [value]

/-- A fraction of a second is read from its three, six or nine digits. Digits behind the ninth would
    be dropped, so the width is at most nine. -/
theorem readFraction_padZeros {width number : Nat} {rest : List Char} (positive : 0 < width)
    (narrow : width ≤ 9) (small : number < tenTo width)
    (ends : ∀ c ∈ rest.head?, isDigit c = false) :
    readFraction? (Text.padZeros width (Text.natDigits number) ++ rest) =
      some (number * tenTo (9 - width), rest) := by
  have filled := Text.length_padZeros positive small
  have all := Text.isDigit_padZeros width (Text.isDigit_natDigits number)
  have taken := takeDigits_append all (.inr ⟨filled ▸ narrow, ends⟩)
  have kept : rest.dropWhile isDigit = rest := by
    cases rest with
    | nil => rfl
    | cons c rest => exact List.dropWhile_cons_of_neg (by simp [ends c rfl])
  rw [readFraction?, taken]
  simp [filled, Text.readNat_padZeros, kept]

/-- The seconds are written with two digits. -/
theorem writtenSecond_lt (date : DateTime) : date.writtenSecond < 100 := by
  obtain ⟨-, -, -, -, -, inMinute, inSecond⟩ := date.proper
  unfold writtenSecond
  omega

/-- The days of a month are counted with two digits. -/
theorem daysInMonth_lt (year : Int) (month : Nat) : daysInMonth year month < 100 := by
  unfold daysInMonth
  split
  · split <;> decide
  all_goals decide

namespace Piece

/-- What a date is written as in a piece. -/
def written (date : DateTime) : Piece → List Char
  | year => yearText date.year
  | month => twoDigits date.month
  | day => twoDigits date.day
  | hour => twoDigits date.hour
  | minute => twoDigits date.minute
  | second => twoDigits date.writtenSecond
  | fraction => fractionText (date.nanosecond % 1000000000)
  | mark c => [c]
  | blank => [' ']

/-- The fields with what a date has in a piece. -/
def fill (date : DateTime) (fields : Fields) : Piece → Fields
  | year => { fields with year := date.year }
  | month => { fields with month := date.month }
  | day => { fields with day := date.day }
  | hour => { fields with hour := date.hour }
  | minute => { fields with minute := date.minute }
  | second => { fields with second := date.writtenSecond }
  | fraction => { fields with nanosecond := date.nanosecond % 1000000000 }
  | mark _ | blank => fields

/-- What stands behind a piece is not taken for more of it. -/
def EndsBefore (rest : List Char) : Piece → Prop
  | year => ∀ c ∈ rest.head?, isDigit c = false
  | fraction => ∀ c ∈ rest.head?, isDigit c = false ∧ c ≠ '.'
  | blank => ∀ c ∈ rest.head?, Text.isBlank c = false
  | _ => True

/-- The digits behind a point are read as a fraction of a second. The value that the fields get
    counts nanoseconds, so the digits are scaled up to nine of them. -/
theorem read_point {width number nanoseconds : Nat} (fields : Fields) {rest : List Char}
    (positive : 0 < width) (narrow : width ≤ 9) (small : number < tenTo width)
    (ends : ∀ c ∈ rest.head?, isDigit c = false)
    (same : number * tenTo (9 - width) = nanoseconds) :
    fraction.read? fields ('.' :: Text.padZeros width (Text.natDigits number) ++ rest) =
      some ({ fields with nanosecond := nanoseconds }, rest) := by
  rw [List.cons_append, read?, readFraction_padZeros positive narrow small ends, same]
  rfl

/-- Without a point there is no fraction of a second. The fields are left as they are, with whatever
    fraction they had. -/
theorem read_no_fraction (fields : Fields) {text : List Char} (noPoint : text.head? ≠ some '.') :
    fraction.read? fields text = some (fields, text) := by
  cases text with
  | nil => rfl
  | cons c rest =>
    rw [read?]
    simpa using noPoint

/-- A fraction of a second is read from what it is written as. The hypothesis on the fields is
    needed since no fraction is written when there is none, and none is filled in then. -/
theorem read_fraction {nanoseconds : Nat} (small : nanoseconds < 1000000000) {fields : Fields}
    (unfilled : nanoseconds = 0 → fields.nanosecond = 0) {rest : List Char}
    (ends : ∀ c ∈ rest.head?, isDigit c = false ∧ c ≠ '.') :
    fraction.read? fields (fractionText nanoseconds ++ rest) =
      some ({ fields with nanosecond := nanoseconds }, rest) := by
  have noDigit : ∀ c ∈ rest.head?, isDigit c = false := fun c first => (ends c first).1
  have thousand : tenTo 3 = 1000 := rfl
  have million : tenTo 6 = 1000000 := rfl
  unfold fractionText
  split
  · rename_i none
    have kept : ({ fields with nanosecond := nanoseconds } : Fields) = fields := by
      rw [none, ← unfilled none]
    rw [kept, List.nil_append]
    exact read_no_fraction fields fun point => (ends '.' point).2 rfl
  · split
    · exact read_point fields (by decide) (by decide) (by omega) noDigit (by rw [million]; omega)
    · split
      · exact read_point fields (by decide) (by decide) (by omega) noDigit
          (by rw [thousand]; omega)
      · exact read_point fields (by decide) (by decide) small noDigit (Nat.mul_one _)

/-- A piece is read from what a date is written as in it. The split is by the kind of piece, and the
    bounds on the fields of a date decide how many digits each of them has. -/
theorem read_written (date : DateTime) (piece : Piece) {fields : Fields}
    (unfilled : date.nanosecond % 1000000000 = 0 → fields.nanosecond = 0) {rest : List Char}
    (ends : piece.EndsBefore rest) :
    piece.read? fields (piece.written date ++ rest) = some (piece.fill date fields, rest) := by
  obtain ⟨-, ⟨-, inYear⟩, ⟨-, inMonth⟩, inDay, inHour, -⟩ := date.proper
  have days := daysInMonth_lt date.year date.month
  cases piece with
  | year =>
    rw [written, read?, dropWhile_yearText, readYear_yearText date.year ends]
    rfl
  | month =>
    rw [written, read?, dropWhile_twoDigits, readDigits_twoDigits (by omega)]
    rfl
  | day =>
    rw [written, read?, dropWhile_twoDigits, readDigits_twoDigits (by omega)]
    rfl
  | hour =>
    rw [written, read?, dropWhile_twoDigits, readDigits_twoDigits (by omega)]
    rfl
  | minute =>
    rw [written, read?, dropWhile_twoDigits, readDigits_twoDigits (by omega)]
    rfl
  | second =>
    rw [written, read?, dropWhile_twoDigits, readDigits_twoDigits (writtenSecond_lt date)]
    rfl
  | fraction => exact read_fraction (Nat.mod_lt _ (by decide)) unfilled ends
  | mark c =>
    rw [written, List.singleton_append, read?, if_pos rfl]
    rfl
  | blank =>
    have kept : rest.dropWhile Text.isBlank = rest := by
      cases rest with
      | nil => rfl
      | cons c rest => exact List.dropWhile_cons_of_neg (by simp [ends c rfl])
    rw [written, List.singleton_append, read?, List.dropWhile_cons_of_pos (by decide), kept]
    rfl

/-- What a date has in a piece is filled in without a fraction if it has none. This is the condition
    on the fields that reading the next piece asks for. -/
theorem fill_nanosecond {date : DateTime} (piece : Piece) {fields : Fields}
    (unfilled : date.nanosecond % 1000000000 = 0 → fields.nanosecond = 0) :
    date.nanosecond % 1000000000 = 0 → (piece.fill date fields).nanosecond = 0 := by
  intro whole
  cases piece with
  | fraction => exact whole
  | year | month | day | hour | minute | second | mark | blank => exact unfilled whole

end Piece

/-- Each piece of a form ends where the next one begins. -/
def Separated (date : DateTime) : List Piece → Prop
  | [] => True
  | piece :: pieces =>
      piece.EndsBefore (pieces.flatMap (Piece.written date)) ∧ Separated date pieces

/-- A form is read from what a date is written as in it, and the fields are filled piece by piece.
    The induction follows the form, with the condition on the fraction as what each piece keeps. -/
theorem readPieces_written {date : DateTime} {form : List Piece} (separated : Separated date form)
    {fields : Fields} (unfilled : date.nanosecond % 1000000000 = 0 → fields.nanosecond = 0) :
    readPieces? form fields (form.flatMap (Piece.written date)) =
      some (form.foldl (Piece.fill date) fields) := by
  induction form generalizing fields with
  | nil => rfl
  | cons piece pieces inductionHypothesis =>
    obtain ⟨ends, others⟩ := separated
    rw [List.flatMap_cons, readPieces?, Piece.read_written date piece unfilled ends]
    exact inductionHypothesis others (Piece.fill_nanosecond piece unfilled)

end RecordQuery.DateTime
