/-!
# Moments

A moment is a date of the Gregorian calendar and a time of the day, without a time zone.

- `Moment.ofSeconds`, `Moment.ofNanoseconds` and `Moment.toNanoseconds` count from the start of the year 1970;
- `Moment.text` is the written form, `Moment.display` the one for a table of moments.
-/

namespace SchemaJournal.Database

/-- A date and a time of the day. -/
structure Moment where
  year : Int
  month : Nat
  day : Nat
  hour : Nat
  minute : Nat
  second : Nat
  nanosecond : Nat
deriving DecidableEq, Repr, Inhabited

namespace Moment

/-- The date of a day, counted from the start of 1970. Years are counted from March here, so that the day that some of
them lack is their last, and in eras of 400 years, all of which have the same length. -/
def dateOfDay (day : Int) : Int × Nat × Nat :=
  let shifted := day + 719468
  let era := shifted / 146097
  let dayOfEra := (shifted % 146097).toNat
  let yearOfEra := (dayOfEra - dayOfEra / 1460 + dayOfEra / 36524 - dayOfEra / 146096) / 365
  let dayOfYear := dayOfEra - (365 * yearOfEra + yearOfEra / 4 - yearOfEra / 100)
  let month := (5 * dayOfYear + 2) / 153
  let day := dayOfYear - (153 * month + 2) / 5 + 1
  let year := era * 400 + yearOfEra
  if month < 10 then (year, month + 3, day) else (year + 1, month - 9, day)

/-- The moment that lies so many seconds after the start of 1970. -/
def ofSeconds (seconds : Int) : Moment :=
  let (year, month, day) := dateOfDay (seconds / 86400)
  let inDay := (seconds % 86400).toNat
  ⟨year, month, day, inDay / 3600, inDay / 60 % 60, inDay % 60, 0⟩

/-- The number of the day of a date, counted from the start of 1970. -/
def dayOfDate (year : Int) (month day : Nat) : Int :=
  let yearFromMarch := if month < 3 then year - 1 else year
  let yearOfEra := (yearFromMarch % 400).toNat
  let dayOfYear := (153 * ((month + 9) % 12) + 2) / 5 + day - 1
  yearFromMarch / 400 * 146097 + (365 * yearOfEra + yearOfEra / 4 - yearOfEra / 100 + dayOfYear : Nat) - 719468

/-- How many nanoseconds a moment lies after the start of 1970. A second that was put in after the last one of a minute
counts as the first of the next minute. -/
def toNanoseconds (m : Moment) : Int :=
  let inDay := 3600 * m.hour + 60 * m.minute + m.second
  1000000000 * (86400 * dayOfDate m.year m.month m.day + inDay) + m.nanosecond

/-- The moment that lies so many nanoseconds after the start of 1970. -/
def ofNanoseconds (n : Int) : Moment :=
  { ofSeconds (n / 1000000000) with nanosecond := (n % 1000000000).toNat }

/-- A number in at least so many digits. -/
def padded (width n : Nat) : String :=
  let digits := Nat.toDigits 10 n
  String.ofList (List.replicate (width - digits.length) '0' ++ digits)

/-- A year in four digits; one that does not fit has its sign before it. -/
def yearText (year : Int) : String :=
  if 0 ≤ year ∧ year ≤ 9999 then padded 4 year.toNat
  else (if year < 0 then "-" else "+") ++ padded 4 year.natAbs

/-- Three, six or nine digits after a point; nothing at a full second. -/
def fractionText (nanosecond : Nat) : String :=
  if nanosecond = 0 then ""
  else if nanosecond % 1000000 = 0 then "." ++ padded 3 (nanosecond / 1000000)
  else if nanosecond % 1000 = 0 then "." ++ padded 6 (nanosecond / 1000)
  else "." ++ padded 9 nanosecond

/-- The date. -/
def dateText (m : Moment) : String := yearText m.year ++ "-" ++ padded 2 m.month ++ "-" ++ padded 2 m.day

/-- The time of the day in full seconds. -/
def timeText (m : Moment) : String := padded 2 m.hour ++ ":" ++ padded 2 m.minute ++ ":" ++ padded 2 m.second

/-- The written form. -/
def text (m : Moment) : String := m.dateText ++ "T" ++ m.timeText ++ fractionText m.nanosecond

/-- The form for people, in full seconds. -/
def display (m : Moment) : String := m.dateText ++ " " ++ m.timeText

end Moment

end SchemaJournal.Database
