/-
  PocketSql.Calendar.Reading — dates, times and instants from text.

  Numbers may have white space in front. Month, day, hour, minute and second take one or
  two digits; a year takes up to four, or a sign and any number of them. Two value
  forms exist, a date and a date with a time; an instant names its distance from UTC.
-/

import PocketSql.Calendar.Date
import PocketSql.Number.Numeral
import PocketSql.Text.Blank

namespace PocketSql

/-- Reading from the front of a text; `none` where the text does not fit. -/
abbrev Scan := StateT (List Char) Option

namespace Scan

def blanks : Scan Unit :=
  modify Text.trimLeft

/-- One character out of `cs`. -/
def oneOf (cs : List Char) : Scan Unit := do
  match ← get with
  | c :: rest => if cs.contains c then set rest else failure
  | [] => failure

def finish : Scan Unit := do
  if (← get).isEmpty then pure () else failure

/-- As many digits as there are, but at most `width`, and at least one. -/
def number (width : Nat) : Scan Nat := do
  let cs ← get
  let ds := (cs.takeWhile Char.isDigit).take width
  if ds.isEmpty then failure
  else
    set (cs.drop ds.length)
    pure (Numeral.value ds)

/-- A number of at most two digits within bounds. -/
def field (low high : Nat) : Scan Nat := do
  blanks
  let n ← number 2
  if low ≤ n && n ≤ high then pure n else failure

/-- Up to four digits, or a sign and as many as there are. -/
def year : Scan Int := do
  blanks
  match ← get with
  | '-' :: rest =>
    set rest
    return -((← number rest.length) : Int)
  | '+' :: rest =>
    set rest
    return (← number rest.length)
  | _ => return (← number 4)

/-- The rest of a date after its year, with `gap` read before each dash. -/
def dateAfterYear (gap : Scan Unit) (y : Int) : Scan Date := do
  gap
  oneOf ['-']
  let month ← field 1 12
  gap
  oneOf ['-']
  let day ← field 1 31
  pure ⟨y, month, day⟩

def date : Scan Date := do
  dateAfterYear (pure ()) (← year)

/-- The time of day after a date, with `gap` read before each colon. -/
def timeOf (gap : Scan Unit) (d : Date) : Scan DateTime := do
  let hour ← field 0 23
  gap
  oneOf [':']
  let minute ← field 0 59
  gap
  oneOf [':']
  let second ← field 0 60
  pure ⟨d, hour, minute, second⟩

/-- An optional fraction of a second, in nanoseconds. Digits after the ninth are
    passed over. -/
def fraction : Scan Nat := do
  match ← get with
  | '.' :: rest =>
    set rest
    let before := rest.length
    let n ← number 9
    let used := before - (← get).length
    modify (·.dropWhile Char.isDigit)
    pure (n * tenTo (9 - used))
  | _ => pure 0

/-- The distance from UTC in seconds: `Z`, `UTC`, or a sign, hours and minutes. -/
def offset : Scan Int := do
  let cs ← get
  match cs with
  | u :: t :: c :: rest =>
    if [u, t, c].map Char.toLower == ['u', 't', 'c'] then
      set rest
      return 0
  | _ => pure ()
  match cs with
  | [] => failure
  | c :: rest =>
    set rest
    if c == 'Z' || c == 'z' then return 0
    let negative ← if c == '+' then pure false
      else if c == '-' || c == Char.ofNat 0x2212 then pure true
      else failure
    let hours ← twoDigits
    modify (·.dropWhile fun c => c == ':' || Text.isBlank c)
    let minutes ← twoDigits
    if 60 ≤ minutes || 24 ≤ hours then failure
    let seconds : Int := ((hours * 3600 + minutes * 60 : Nat) : Int)
    return if negative then -seconds else seconds
where
  twoDigits : Scan Nat := do
    match ← get with
    | a :: b :: rest =>
      if a.isDigit && b.isDigit then
        set rest
        pure (Numeral.value [a, b])
      else failure
    | _ => failure

/-- The result of a reading that takes the whole text. -/
def whole? {α : Type} (scan : Scan α) (cs : List Char) : Option α :=
  ((scan <* finish).run cs).map Prod.fst

end Scan

namespace Date

/-- A date and nothing else. -/
def ofChars? (cs : List Char) : Option Date :=
  (Scan.whole? Scan.date cs).filter isValid

end Date

namespace DateTime

/-- A date and a time of day with white space between, or none at all. -/
def spaced : Scan DateTime := do
  let d ← Scan.date
  Scan.blanks
  Scan.timeOf (pure ()) d

/-- A date and a time of day with a `T` between. -/
def joined : Scan DateTime := do
  let d ← Scan.date
  Scan.oneOf ['T']
  Scan.timeOf (pure ()) d

/-- A date and a time of day with a fraction of a second, which is dropped. -/
def fractional : Scan DateTime := do
  let t ← spaced
  let _ ← Scan.fraction
  pure t

/-- A date and a time of day in one of the three forms. -/
def ofChars? (cs : List Char) : Option DateTime :=
  [spaced, joined, fractional].findSome? fun form => (Scan.whole? form cs).filter isValid

end DateTime

namespace Instant

/-- A date, a time and a distance from UTC, with white space between most parts. -/
def reading : Scan Instant := do
  let d ← Scan.dateAfterYear Scan.blanks (← Scan.year)
  Scan.oneOf ['t', 'T', ' ']
  let t ← Scan.timeOf Scan.blanks d
  let nanos ← Scan.fraction
  Scan.blanks
  let offset ← Scan.offset
  Scan.blanks
  if t.isValid then pure (ofLocal t nanos offset) else failure

/-- An instant in the notation of stored documents. -/
def ofText? (s : String) : Option Instant :=
  (Scan.whole? reading s.toList).filter fun i => i.toDateTime.isValid

end Instant

end PocketSql
