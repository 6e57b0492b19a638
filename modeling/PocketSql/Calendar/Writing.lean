/-
  PocketSql.Calendar.Writing — dates, times and instants as text.

  Years from 0 to 9999 have four digits; others have a sign and at least four.
-/

import PocketSql.Calendar.Date

namespace PocketSql

/-- A number in decimal, with zeros in front up to `width` digits. -/
def paddedDigits (width n : Nat) : List Char :=
  let ds := Nat.toDigits 10 n
  List.replicate (width - ds.length) '0' ++ ds

namespace Date

def yearChars (year : Int) : List Char :=
  if 0 ≤ year ∧ year ≤ 9999 then paddedDigits 4 year.toNat
  else (if year < 0 then '-' else '+') :: paddedDigits 4 year.natAbs

def chars (d : Date) : List Char :=
  yearChars d.year ++ '-' :: paddedDigits 2 d.month ++ '-' :: paddedDigits 2 d.day

end Date

namespace DateTime

def timeChars (t : DateTime) : List Char :=
  paddedDigits 2 t.hour ++ ':' :: paddedDigits 2 t.minute ++ ':' :: paddedDigits 2 t.second

/-- The date, `separator`, and the time of day. -/
def chars (t : DateTime) (separator : Char) : List Char :=
  t.date.chars ++ separator :: t.timeChars

end DateTime

namespace Instant

/-- The fraction of a second with 3, 6 or 9 digits, the fewest that hold it. -/
def fractionChars (i : Instant) : List Char :=
  let n := i.fraction
  if n == 0 then []
  else if n % 1000000 == 0 then '.' :: paddedDigits 3 (n / 1000000)
  else if n % 1000 == 0 then '.' :: paddedDigits 6 (n / 1000)
  else '.' :: paddedDigits 9 n

/-- The instant in UTC with `zone` as the designation of that time zone. -/
def text (i : Instant) (zone : String) : String :=
  String.ofList (i.toDateTime.chars 'T' ++ i.fractionChars) ++ zone

/-- The instant in the form of a timestamp value: seconds in UTC, without a zone. -/
def timestampText (i : Instant) : String :=
  String.ofList (i.toDateTime.chars ' ')

end Instant

end PocketSql
