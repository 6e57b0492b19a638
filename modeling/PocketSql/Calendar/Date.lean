/-
  PocketSql.Calendar.Date — dates, times of day and instants.

  Dates are those of the Gregorian calendar extended in both directions, within a range
  of years. An instant is a number of seconds since 1970-01-01 00:00:00 UTC; a
  leap second is written as a 60th second, and an instant in it keeps the second before
  with more than a billion nanoseconds.
-/

namespace PocketSql

/-- A day of some month of some year; `isValid` tells whether it exists. -/
structure Date where
  year : Int
  month : Nat
  day : Nat
  deriving DecidableEq

/-- A date and a time of day, on no particular clock. -/
structure DateTime where
  date : Date
  hour : Nat
  minute : Nat
  /-- Up to 60, in a leap second. -/
  second : Nat
  deriving DecidableEq

/-- A point in time. -/
structure Instant where
  /-- Seconds since the start of 1970, leap seconds not counted. -/
  seconds : Int
  /-- A billion and more within a leap second. -/
  nanos : Nat
  deriving DecidableEq, Inhabited

namespace Date

def firstYear : Int := -262143
def lastYear : Int := 262142

/-- Every fourth year, but of the hundreds only every fourth. -/
def isLeap (year : Int) : Bool :=
  year % 4 == 0 && (year % 100 != 0 || year % 400 == 0)

def daysInMonth (year : Int) (month : Nat) : Nat :=
  match month with
  | 2 => if isLeap year then 29 else 28
  | 4 | 6 | 9 | 11 => 30
  | _ => 31

def isValid (d : Date) : Bool :=
  firstYear ≤ d.year && d.year ≤ lastYear && 1 ≤ d.month && d.month ≤ 12 &&
    1 ≤ d.day && d.day ≤ daysInMonth d.year d.month

/-- Days since 1970-01-01. Years are counted from March, so that a leap day ends one;
    eras of 400 years have 146097 days each. -/
def toDays (d : Date) : Int :=
  let y : Int := if d.month ≤ 2 then d.year - 1 else d.year
  let era := Int.fdiv y 400
  let yearOfEra := y - era * 400
  let monthFromMarch : Int := (((d.month + 9) % 12 : Nat) : Int)
  let dayOfYear := (153 * monthFromMarch + 2) / 5 + (d.day : Int) - 1
  let dayOfEra := yearOfEra * 365 + yearOfEra / 4 - yearOfEra / 100 + dayOfYear
  era * 146097 + dayOfEra - 719468

/-- The date a number of days after 1970-01-01. -/
def ofDays (days : Int) : Date :=
  let z := days + 719468
  let era := Int.fdiv z 146097
  let dayOfEra := z - era * 146097
  let yearOfEra := (dayOfEra - dayOfEra / 1460 + dayOfEra / 36524 - dayOfEra / 146096) / 365
  let dayOfYear := dayOfEra - (365 * yearOfEra + yearOfEra / 4 - yearOfEra / 100)
  let monthFromMarch := (5 * dayOfYear + 2) / 153
  let day := (dayOfYear - (153 * monthFromMarch + 2) / 5 + 1).toNat
  let month :=
    if monthFromMarch < 10 then (monthFromMarch + 3).toNat else (monthFromMarch - 9).toNat
  let year := yearOfEra + era * 400
  ⟨if month ≤ 2 then year + 1 else year, month, day⟩

end Date

namespace DateTime

def isValid (t : DateTime) : Bool :=
  t.date.isValid && t.hour ≤ 23 && t.minute ≤ 59 && t.second ≤ 60

end DateTime

namespace Instant

def secondsPerDay : Int := 86400

def billion : Nat := 1000000000

/-- The instant shown by a clock `offset` seconds ahead of UTC. -/
def ofLocal (t : DateTime) (nanos : Nat) (offset : Int) : Instant :=
  let leap := t.second == 60
  let second := if leap then 59 else t.second
  { seconds := t.date.toDays * secondsPerDay
      + ((t.hour * 3600 + t.minute * 60 + second : Nat) : Int) - offset
    nanos := if leap then nanos + billion else nanos }

def isLeapSecond (i : Instant) : Bool :=
  billion ≤ i.nanos

/-- The date and time of an instant in UTC. -/
def toDateTime (i : Instant) : DateTime :=
  let days := Int.fdiv i.seconds secondsPerDay
  let rest := (i.seconds - days * secondsPerDay).toNat
  { date := Date.ofDays days
    hour := rest / 3600
    minute := rest / 60 % 60
    second := if i.isLeapSecond then rest % 60 + 1 else rest % 60 }

/-- The nanoseconds within the second that `toDateTime` shows. -/
def fraction (i : Instant) : Nat :=
  if i.isLeapSecond then i.nanos - billion else i.nanos

end Instant

end PocketSql
