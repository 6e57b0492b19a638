/-
  PocketSql.Value — the values in a table's cells.

  Dates and times are kept as text. Equality of values is equality of representations:
  two floats are the same when their bits are. How values compare in conditions is
  another matter, see `PocketSql.Value.Compare`.
-/

import PocketSql.Number.Layout
import PocketSql.Number.Numeral
import PocketSql.Text.Blank

namespace PocketSql

/-- The contents of one cell. -/
inductive Value where
  | null
  | boolean (b : Bool)
  | integer (i : Int64)
  | float (x : Binary64)
  | text (s : String)
  deriving DecidableEq, Inhabited

/-- One value for each column of a table, in the order of the columns. -/
abbrev Row := List Value

namespace Value

def isNull : Value → Bool
  | null => true
  | _ => false

/-- The finite number that a text spells, white space around it aside. -/
def numberOfText? (s : String) : Option Binary64 :=
  (Numeral.binary64? (Text.trim s).toList).filter Binary64.isFinite

/-- The value as a number. Texts count when they spell a finite one. -/
def asNumber? : Value → Option Binary64
  | integer i => some (.ofInt i.toInt)
  | float x => some x
  | text s => numberOfText? s
  | boolean _ | null => none

/-- How the value is shown. -/
def display : Value → String
  | null => "NULL"
  | boolean b => if b then "true" else "false"
  | integer i => toString i.toInt
  | float x => x.text
  | text s => s

/-- The value as text; NULL has none. -/
def asText? : Value → Option String
  | null => none
  | v => some v.display

/-- How many bytes the value takes, roughly. -/
def size : Value → Nat
  | null | boolean _ => 1
  | integer _ | float _ => 8
  | text s => s.utf8ByteSize

end Value

end PocketSql
