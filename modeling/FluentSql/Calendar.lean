import FluentSql.Duration

/-! # Calendar dates and times of day

Dates of the Gregorian calendar, extended to all years, and times of day with nanoseconds.  A
time of day may lie inside a leap second: its nanoseconds then exceed a second, and it is
written with the second 60.  `DateTime.toUtc` moves a local time to the prime meridian by way of
a count of days. -/

namespace FluentSql

/-- A day of the Gregorian calendar. -/
structure Date where
  year : Int
  month : Nat
  day : Nat
deriving DecidableEq, Repr

/-- A day and a time of that day.  In a leap second `nanosecond` is `10 ^ 9` or more. -/
structure DateTime where
  date : Date
  hour : Nat
  minute : Nat
  second : Nat
  nanosecond : Nat
deriving DecidableEq, Repr

namespace Date

/-- `n` in at least `width` digits. -/
def digits (width n : Nat) : String := String.ofList (Duration.padded width n)

/-- The year in at least four digits, signed outside of the years 0 to 9999. -/
def yearText (year : Int) : String :=
  if 0 ≤ year ∧ year ≤ 9999 then digits 4 year.toNat
  else (if year < 0 then "-" else "+") ++ digits 4 year.natAbs

/-- Year, month and day, separated by hyphens. -/
def text (d : Date) : String :=
  yearText d.year ++ "-" ++ digits 2 d.month ++ "-" ++ digits 2 d.day

/-- The number of days since 0000-03-01.  Years are counted from March, so that a leap day is the
last of its year. -/
def toDays (d : Date) : Int :=
  let year := if d.month ≤ 2 then d.year - 1 else d.year
  let month : Int := if d.month ≤ 2 then d.month + 9 else d.month - 3
  365 * year + year / 4 - year / 100 + year / 400 + (153 * month + 2) / 5 + (d.day - 1)

/-- The day that is so many days after 0000-03-01. -/
def ofDays (days : Int) : Date :=
  let era := days / 146097
  let dayOfEra := days % 146097
  let yearOfEra := (dayOfEra - dayOfEra / 1460 + dayOfEra / 36524 - dayOfEra / 146096) / 365
  let dayOfYear := dayOfEra - (365 * yearOfEra + yearOfEra / 4 - yearOfEra / 100)
  let month := (5 * dayOfYear + 2) / 153
  let day := dayOfYear - (153 * month + 2) / 5 + 1
  { year := yearOfEra + era * 400 + (if month ≥ 10 then 1 else 0)
    month := (if month < 10 then month + 3 else month - 9).toNat
    day := day.toNat }

end Date

namespace DateTime

/-- Date and time of day, separated by a space; fractions of a second are left out. -/
def text (t : DateTime) : String :=
  t.date.text ++ " " ++ Date.digits 2 t.hour ++ ":" ++ Date.digits 2 t.minute ++ ":" ++
    Date.digits 2 (t.second + t.nanosecond / Nat.pow 10 9)

/-- The same instant at the prime meridian, for a local time so many seconds east of it. -/
def toUtc (t : DateTime) (offset : Int) : DateTime :=
  let total := t.date.toDays * 86400 + (t.hour * 3600 + t.minute * 60 + t.second : Nat) - offset
  let secondOfDay := (total % 86400).toNat
  { date := Date.ofDays (total / 86400)
    hour := secondOfDay / 3600
    minute := secondOfDay / 60 % 60
    second := secondOfDay % 60
    nanosecond := t.nanosecond }

end DateTime

end FluentSql
