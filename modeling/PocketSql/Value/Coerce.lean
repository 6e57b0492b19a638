/-
  PocketSql.Value.Coerce — literals as values of a column's type.

  Every literal becomes some value: what does not fit the type falls back to zero, to
  false, or stays as the text it was.
-/

import PocketSql.Calendar.Reading
import PocketSql.Calendar.Writing
import PocketSql.Schema.ColumnType
import PocketSql.Value

namespace PocketSql

/-- The 64-bit integer nearest to `i`. -/
def clampInt64 (i : Int) : Int64 :=
  Int64.ofInt (max Int64.minValue.toInt (min i Int64.maxValue.toInt))

namespace Value

/-- The integer that a text spells. Other numbers lose their fraction and are cut to the
    range. -/
def integerOfText? (s : String) : Option Int64 :=
  match Numeral.int? s.toList with
  | some i => some i
  | none => (numberOfText? s).map fun x => clampInt64 x.truncate

/-- A date in its normal form; a date with a time loses the time, and a text that is
    neither stays as it is. -/
def normalizeDate (raw : String) : String :=
  let cs := (Text.trim raw).toList
  match Date.ofChars? cs with
  | some d => String.ofList d.chars
  | none =>
    match DateTime.ofChars? cs with
    | some t => String.ofList t.date.chars
    | none => raw

/-- A date and time in its normal form; a date alone gets midnight, and a text that is
    neither stays as it is. -/
def normalizeDateTime (raw : String) : String :=
  let cs := (Text.trim raw).toList
  match DateTime.ofChars? cs with
  | some t => String.ofList (t.chars ' ')
  | none =>
    match Date.ofChars? cs with
    | some d => String.ofList ((DateTime.mk d 0 0 0).chars ' ')
    | none => raw

/-- The value of a literal in a column of the given type. -/
def coerce (raw : String) (type : ColumnType) : Value :=
  match type with
  | .int | .bigInt | .year => integer ((integerOfText? (Text.trim raw)).getD 0)
  | .decimal | .float | .double => float ((numberOfText? raw).getD .zero)
  | .boolean =>
    let word := Text.trim raw
    boolean (Text.sameName word "true" || word == "1")
  | .date => text (normalizeDate raw)
  | .dateTime | .timestamp => text (normalizeDateTime raw)
  | .varchar | .text | .longText | .time | .blob | .json | .enum | .set => text raw

/-- The value of a column that may not be NULL and has no default. -/
def zero (type : ColumnType) : Value :=
  if type.isInteger || type == .year then integer 0
  else if type.isFractional then float .zero
  else text ""

/-- The value of CURRENT_TIMESTAMP. -/
def currentTimestamp (now : Instant) : Value :=
  text now.timestampText

end Value

end PocketSql
