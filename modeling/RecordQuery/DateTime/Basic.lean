/-!
# Dates with a time of day

A date has a calendar day, a time of day and a fraction of nanoseconds, and no zone. A leap
second is the second before it with a fraction of a whole second or more, so it comes after
every moment of that second and before the next minute. Dates compare field by field, from
the year down.
-/

namespace RecordQuery

/-- Whether a year of the proleptic calendar has a 29th of February. -/
def isLeapYear (year : Int) : Bool :=
  year % 4 == 0 && (year % 100 != 0 || year % 400 == 0)

/-- The number of days of a month. -/
def daysInMonth (year : Int) : Nat → Nat
  | 2 => if isLeapYear year then 29 else 28
  | 4 | 6 | 9 | 11 => 30
  | _ => 31

/-- The calendar day, the time of day and the fraction are in range. -/
def ProperDate (year : Int) (month day hour minute second nanosecond : Nat) : Prop :=
  (-262143 ≤ year ∧ year ≤ 262142) ∧ (1 ≤ month ∧ month ≤ 12) ∧
    (1 ≤ day ∧ day ≤ daysInMonth year month) ∧ hour < 24 ∧ minute < 60 ∧ second < 60 ∧
    nanosecond < 2000000000

instance (year : Int) (month day hour minute second nanosecond : Nat) :
    Decidable (ProperDate year month day hour minute second nanosecond) :=
  inferInstanceAs (Decidable (_ ∧ _))

/-- A date and time without a zone. -/
structure DateTime where
  year : Int
  month : Nat
  day : Nat
  hour : Nat
  minute : Nat
  second : Nat
  nanosecond : Nat
  proper : ProperDate year month day hour minute second nanosecond
  deriving DecidableEq

namespace DateTime

/-- The date of the given fields, if they are in range. -/
def make? (year : Int) (month day hour minute second nanosecond : Nat) : Option DateTime :=
  if proper : ProperDate year month day hour minute second nanosecond then
    some ⟨year, month, day, hour, minute, second, nanosecond, proper⟩
  else none

/-- The order of two dates, field by field. -/
def compare (left right : DateTime) : Ordering :=
  (Ord.compare left.year right.year).then <|
  (Ord.compare left.month right.month).then <|
  (Ord.compare left.day right.day).then <|
  (Ord.compare left.hour right.hour).then <|
  (Ord.compare left.minute right.minute).then <|
  (Ord.compare left.second right.second).then <|
  Ord.compare left.nanosecond right.nanosecond

/-- The calendar day before a day. -/
def dayBefore (year : Int) (month day : Nat) : Int × Nat × Nat :=
  if 1 < day then (year, month, day - 1)
  else if 1 < month then (year, month - 1, daysInMonth year (month - 1))
  else (year - 1, 12, 31)

/-- The calendar day after a day. -/
def dayAfter (year : Int) (month day : Nat) : Int × Nat × Nat :=
  if day < daysInMonth year month then (year, month, day + 1)
  else if month < 12 then (year, month + 1, 1)
  else (year + 1, 1, 1)

/-- The date so many minutes earlier, for less than a day in either direction. Seconds, and
    with them leap seconds, stay as they are. -/
def earlier? (date : DateTime) (minutes : Int) : Option DateTime :=
  let time := (date.hour * 60 + date.minute : Int) - minutes
  let (year, month, day) :=
    if time < 0 then dayBefore date.year date.month date.day
    else if 1440 ≤ time then dayAfter date.year date.month date.day
    else (date.year, date.month, date.day)
  let ofDay := (time % 1440).toNat
  make? year month day (ofDay / 60) (ofDay % 60) date.second date.nanosecond

end DateTime

end RecordQuery
