import RecordQuery.DateTime.Basic
import RecordQuery.Number.Power
import RecordQuery.Text.Blank
import RecordQuery.Text.Digits

/-!
# Dates as text

A date is read by the first form that the whole trimmed text has: with an offset from
universal time, with a blank or a `T` between day and time, with a fraction, or the day alone,
which means midnight. A form is a list of pieces; its numbers may stand after blanks and may
have fewer digits than usual. The form with an offset is strict.

The written form shows whole seconds only. The exact form keeps the fraction.
-/

namespace RecordQuery.DateTime

/-- The fields read so far. -/
structure Fields where
  year : Int := 0
  month : Nat := 0
  day : Nat := 0
  hour : Nat := 0
  minute : Nat := 0
  second : Nat := 0
  nanosecond : Nat := 0
  deriving DecidableEq, Repr

/-- The date of the fields. Second 60 is the leap second after second 59. -/
def Fields.date? (fields : Fields) : Option DateTime :=
  if fields.second = 60 then
    make? fields.year fields.month fields.day fields.hour fields.minute 59
      (fields.nanosecond + 1000000000)
  else
    make? fields.year fields.month fields.day fields.hour fields.minute fields.second
      fields.nanosecond

/-- Whether a character is an ASCII digit. -/
def isDigit (c : Char) : Bool :=
  (Text.digitValue? c).isSome

/-- Takes digits from the front of a text, at most `width`. -/
def takeDigits (width : Nat) (text : List Char) : List Char × List Char :=
  let digits := (text.take width).takeWhile isDigit
  (digits, text.drop digits.length)

/-- Reads between one and `width` digits. -/
def readDigits? (width : Nat) (text : List Char) : Option (Nat × List Char) :=
  let (digits, rest) := takeDigits width text
  (Text.readNat? digits).map (·, rest)

/-- Reads exactly `width` digits. -/
def readFixed? (width : Nat) (text : List Char) : Option (Nat × List Char) :=
  let (digits, rest) := takeDigits width text
  if digits.length = width then (Text.readNat? digits).map (·, rest) else none

/-- Reads the digits after a point as nanoseconds; past nine digits they are dropped. -/
def readFraction? (text : List Char) : Option (Nat × List Char) := do
  let (digits, rest) := takeDigits 9 text
  let number ← Text.readNat? digits
  pure (number * tenTo (9 - digits.length), rest.dropWhile isDigit)

/-- Reads a year: four digits at most, or any number of them after a sign. -/
def readYear? : List Char → Option (Int × List Char)
  | '-' :: text => (readDigits? text.length text).map fun (year, rest) => (-(year : Int), rest)
  | '+' :: text => (readDigits? text.length text).map fun (year, rest) => ((year : Int), rest)
  | text => (readDigits? 4 text).map fun (year, rest) => ((year : Int), rest)

/-- One piece of a form. -/
inductive Piece where
  | year | month | day | hour | minute | second
  /-- An optional point with digits after it. -/
  | fraction
  | mark (c : Char)
  /-- Any run of blanks, even none. -/
  | blank
  deriving DecidableEq, Repr

/-- Reads one piece. Numbers may stand after blanks. -/
def Piece.read? (fields : Fields) (text : List Char) : Piece → Option (Fields × List Char)
  | year => do
      let (number, rest) ← readYear? (text.dropWhile Text.isBlank)
      pure ({ fields with year := number }, rest)
  | month => do
      let (number, rest) ← readDigits? 2 (text.dropWhile Text.isBlank)
      pure ({ fields with month := number }, rest)
  | day => do
      let (number, rest) ← readDigits? 2 (text.dropWhile Text.isBlank)
      pure ({ fields with day := number }, rest)
  | hour => do
      let (number, rest) ← readDigits? 2 (text.dropWhile Text.isBlank)
      pure ({ fields with hour := number }, rest)
  | minute => do
      let (number, rest) ← readDigits? 2 (text.dropWhile Text.isBlank)
      pure ({ fields with minute := number }, rest)
  | second => do
      let (number, rest) ← readDigits? 2 (text.dropWhile Text.isBlank)
      pure ({ fields with second := number }, rest)
  | fraction =>
      match text with
      | '.' :: digits => do
          let (number, rest) ← readFraction? digits
          pure ({ fields with nanosecond := number }, rest)
      | text => some (fields, text)
  | mark c =>
      match text with
      | first :: rest => if first = c then some (fields, rest) else none
      | [] => none
  | blank => some (fields, text.dropWhile Text.isBlank)

/-- Reads the pieces of a form and nothing after them. -/
def readPieces? : List Piece → Fields → List Char → Option Fields
  | [], fields, [] => some fields
  | [], _, _ :: _ => none
  | piece :: pieces, fields, text => do
      let (fields, rest) ← piece.read? fields text
      readPieces? pieces fields rest

/-- Reads a date in a form. -/
def readForm? (form : List Piece) (text : List Char) : Option DateTime := do
  let fields ← readPieces? form {} text
  fields.date?

/-- Year, month and day with dashes between them. -/
def dayForm : List Piece := [.year, .mark '-', .month, .mark '-', .day]

/-- Hour, minute and second with colons between them. -/
def timeForm : List Piece := [.hour, .mark ':', .minute, .mark ':', .second]

/-- The forms without an offset, in the order in which they are tried. -/
def forms : List (List Piece) :=
  [dayForm ++ [.blank] ++ timeForm,
    dayForm ++ [.mark 'T'] ++ timeForm,
    dayForm ++ [.blank] ++ timeForm ++ [.fraction],
    dayForm]

/-- The form of the exact text. -/
def exactForm : List Piece := dayForm ++ [.mark 'T'] ++ timeForm ++ [.fraction]

/-- Removes an expected character from the front. -/
def expect? (c : Char) : List Char → Option (List Char)
  | first :: rest => if first = c then some rest else none
  | [] => none

/-- Reads an offset from universal time, in minutes: `Z`, or a sign with hours and minutes,
    both of two digits. The sign may be the mathematical minus. -/
def readOffset? : List Char → Option (Int × List Char)
  | [] => none
  | sign :: text =>
      if sign = 'Z' ∨ sign = 'z' then some (0, text)
      else if sign = '+' ∨ sign = '-' ∨ sign = '\u2212' then do
        let (hours, text) ← readFixed? 2 text
        let text ← expect? ':' text
        let (minutes, text) ← readFixed? 2 text
        if hours < 24 ∧ minutes < 60 then
          let offset : Int := hours * 60 + minutes
          pure (if sign = '+' then offset else -offset, text)
        else none
      else none

/-- Reads a date with an offset. Every number has its full width. The result is in universal
    time. -/
def readZoned? (text : List Char) : Option DateTime := do
  let (year, text) ← readFixed? 4 text
  let text ← expect? '-' text
  let (month, text) ← readFixed? 2 text
  let text ← expect? '-' text
  let (day, text) ← readFixed? 2 text
  let text ← ((expect? 'T' text).or (expect? 't' text)).or (expect? ' ' text)
  let (hour, text) ← readFixed? 2 text
  let text ← expect? ':' text
  let (minute, text) ← readFixed? 2 text
  let text ← expect? ':' text
  let (second, text) ← readFixed? 2 text
  let (nanosecond, text) ←
    match text with
    | '.' :: digits => readFraction? digits
    | text => some (0, text)
  let (offset, text) ← readOffset? text
  if text.isEmpty then
    let fields : Fields := ⟨year, month, day, hour, minute, second, nanosecond⟩
    let date ← fields.date?
    date.earlier? offset
  else none

/-- Reads a trimmed text in the first form that fits. -/
def read? (text : List Char) : Option DateTime :=
  (readZoned? text).or (forms.findSome? fun form => readForm? form text)

/-- A number of at least two digits. -/
def twoDigits (number : Nat) : List Char :=
  Text.padZeros 2 (Text.natDigits number)

/-- A year: four digits, or a sign and at least four outside of the years 0 to 9999. -/
def yearText (year : Int) : List Char :=
  let digits := Text.padZeros 4 (Text.natDigits year.natAbs)
  if year < 0 then '-' :: digits else if 9999 < year then '+' :: digits else digits

/-- The seconds as they are written: 60 in a leap second. -/
def writtenSecond (date : DateTime) : Nat :=
  date.second + date.nanosecond / 1000000000

/-- The calendar day as text. -/
def dayText (date : DateTime) : List Char :=
  yearText date.year ++ '-' :: twoDigits date.month ++ '-' :: twoDigits date.day

/-- The time of day as text, in whole seconds. -/
def timeText (date : DateTime) : List Char :=
  twoDigits date.hour ++ ':' :: twoDigits date.minute ++ ':' :: twoDigits date.writtenSecond

/-- A date with its time, in whole seconds. -/
def text (date : DateTime) : String :=
  String.ofList (date.dayText ++ ' ' :: date.timeText)

/-- A fraction of a second: nothing, or three, six or nine digits after a point. -/
def fractionText (nanoseconds : Nat) : List Char :=
  if nanoseconds = 0 then []
  else if nanoseconds % 1000000 = 0 then
    '.' :: Text.padZeros 3 (Text.natDigits (nanoseconds / 1000000))
  else if nanoseconds % 1000 = 0 then
    '.' :: Text.padZeros 6 (Text.natDigits (nanoseconds / 1000))
  else '.' :: Text.padZeros 9 (Text.natDigits nanoseconds)

/-- A date with its time and its fraction of a second. -/
def exactText (date : DateTime) : String :=
  String.ofList (date.dayText ++ 'T' :: date.timeText ++
    fractionText (date.nanosecond % 1000000000))

/-- Reads the exact text of a date. -/
def readExact? (text : String) : Option DateTime :=
  readForm? exactForm text.toList

end RecordQuery.DateTime
