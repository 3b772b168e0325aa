import RecordQuery.Number.Decimal

/-!
# Reading decimals

Plain text is an optional sign and digits with at most one point; an underscore may stand
anywhere after the first digit. Digits that no longer fit, past the 28th place or past 96
bits behind a point, end the reading: the first of them rounds the last digit kept, half
away from zero, and after it only digits and underscores may stand. Too many digits in front
of the point fail.

Scientific text is plain text, the letter `e`, and an exponent that moves the point by at most
28 places. Places that are moved past the 28th are rounded away.
-/

namespace RecordQuery.Decimal

/-- What has been read of a decimal so far. -/
structure Reading where
  mantissa : Nat
  scale : Nat
  /-- A point has been read. -/
  pointed : Bool
  /-- A digit has been read. -/
  started : Bool
  deriving DecidableEq, Repr

/-- Whether a text may stand after the digit that rounds. -/
def isUnread (text : List Char) : Bool :=
  text.all fun c => (Text.digitValue? c).isSome || c == '_'

/-- The first digit that is not kept rounds what was read: only one of five or more changes
    it. A mantissa of more than 96 bits gives up its last digit. -/
def Reading.roundedBy? (reading : Reading) (negative : Bool) (digit : Nat) (unread : List Char) :
    Option Decimal :=
  if !isUnread unread then none
  else if digit < 5 then unsignedZero? negative reading.mantissa reading.scale
  else if reading.mantissa + 1 < twoTo 96 then
    unsignedZero? negative (reading.mantissa + 1) reading.scale
  else if reading.scale = 0 then none
  else unsignedZero? negative ((reading.mantissa + 1 + 4) / 10) (reading.scale - 1)

/-- Narrow mantissas have less than this in front of their last digit, so that any digit
    leaves them below 64 bits. -/
def narrowBound : Nat :=
  (twoTo 64 - 1) / 10 - 255

/-- Whether the mantissa is narrow. An underscore right behind the last place then takes the
    place of the digit that rounds, as a zero; otherwise it does not count. -/
def Reading.isNarrow (reading : Reading) : Bool :=
  decide (reading.mantissa / 10 < narrowBound)

/-- Continues reading: digits extend the mantissa until one does not fit. -/
def Reading.continue? (negative : Bool) : Reading → List Char → Option Decimal
  | reading, [] =>
      if reading.started then unsignedZero? negative reading.mantissa reading.scale else none
  | reading, c :: rest =>
      if reading.pointed ∧ reading.scale = 28 then
        match Text.digitValue? c with
        | some digit => reading.roundedBy? negative digit rest
        | none =>
            if c ≠ '_' then none
            else if reading.isNarrow then reading.roundedBy? negative 0 rest
            else continue? negative reading rest
      else
        match Text.digitValue? c with
        | some digit =>
            let mantissa := reading.mantissa * 10 + digit
            if mantissa < twoTo 96 then
              continue? negative
                ⟨mantissa, if reading.pointed then reading.scale + 1 else 0, reading.pointed, true⟩
                rest
            else if reading.pointed then reading.roundedBy? negative digit rest
            else none
        | none =>
            if c = '.' ∧ !reading.pointed then
              continue? negative { reading with pointed := true } rest
            else if c = '_' ∧ reading.started then continue? negative reading rest
            else none

/-- Reads plain text. -/
def readPlain? : List Char → Option Decimal
  | '-' :: text => Reading.continue? true ⟨0, 0, false, false⟩ text
  | '+' :: text => Reading.continue? false ⟨0, 0, false, false⟩ text
  | text => Reading.continue? false ⟨0, 0, false, false⟩ text

/-- A mantissa without its last digits, the last of them rounding it, half away from zero. -/
def withoutPlaces (mantissa : Nat) : Nat → Nat
  | 0 => mantissa
  | places + 1 => (mantissa / tenTo places + 5) / 10

/-- Moves the point of a decimal to the left. Places past the 28th are rounded away. -/
def pointLeft? (decimal : Decimal) (places : Nat) : Option Decimal :=
  let excess := decimal.scale + places - 28
  make? decimal.negative (withoutPlaces decimal.mantissa excess) (decimal.scale + places - excess)

/-- Moves the point of a decimal to the right. Past the last digit zeros are appended, and
    the result is an integer. -/
def pointRight? (decimal : Decimal) (places : Nat) : Option Decimal :=
  if places ≤ decimal.scale then
    make? decimal.negative decimal.mantissa (decimal.scale - places)
  else make? decimal.negative (decimal.mantissa * tenTo (places - decimal.scale)) 0

/-- Whether a letter starts an exponent. -/
def isExponentMark (c : Char) : Bool :=
  c == 'e' || c == 'E'

/-- Reads plain text with an exponent of at most 28 in either direction. -/
def readScientific? (text : List Char) : Option Decimal :=
  match text.dropWhile (!isExponentMark ·) with
  | [] => none
  | _ :: exponent => do
      let decimal ← readPlain? (text.takeWhile (!isExponentMark ·))
      match exponent with
      | '-' :: digits =>
          let places ← Text.readPlusNat? digits
          if places ≤ 28 then decimal.pointLeft? places else none
      | digits =>
          let places ← Text.readPlusNat? digits
          if places ≤ 28 then decimal.pointRight? places else none

/-- Reads plain text, or else scientific text. -/
def read? (text : List Char) : Option Decimal :=
  (readPlain? text).or (readScientific? text)

end RecordQuery.Decimal
