/-
  PocketSql.Schema.Table — tables: columns, and the rows stored under them.

  Columns are found by name up to the case of ASCII letters, the first of several.
  Rows keep the order in which they were added.
-/

import PocketSql.Fault
import PocketSql.Schema.Column

namespace PocketSql

/-- Rows under columns, with what else a definition may say. -/
structure Table where
  name : String
  columns : List Column
  rows : List Row := []
  /-- Names of indexes, which have no effect on queries. -/
  indexes : List String := []
  constraints : List Constraint := []
  engine : String := "InnoDB"
  charset : String := "utf8mb4"
  deriving DecidableEq

/-- The value of a cell; outside the row it is NULL. -/
def Row.cell (row : Row) (i : Option Nat) : Value :=
  (i.bind (row[·]?)).getD .null

namespace Table

/-- The place of the first column of a name. -/
def columnIndex? (t : Table) (name : String) : Option Nat :=
  t.columns.findIdx? fun c => Text.sameName c.name name

def column? (t : Table) (name : String) : Option Column :=
  t.columns.find? fun c => Text.sameName c.name name

def columnNames (t : Table) : List String :=
  t.columns.map (·.name)

/-- The fault of a column name that the table does not have. -/
def invalidColumn (t : Table) (name : String) : Fault :=
  .invalidColumn name (", ".intercalate t.columnNames)

/-- The place of a column that has to be there. -/
def requireColumn (t : Table) (name : String) : Except Fault Nat :=
  match t.columnIndex? name with
  | some i => .ok i
  | none => .error (t.invalidColumn name)

/-- Whether a row has a value for each column. -/
def fits (t : Table) (row : Row) : Bool :=
  row.length == t.columns.length

/-- The table with one more row at its end. -/
def pushRow (t : Table) (row : Row) : Except Fault Table :=
  if t.fits row then .ok { t with rows := t.rows ++ [row] }
  else .error (.unfitRow t.name row.length t.columns.length)

/-- The table with `change` made to the rows that satisfy `p`, and how many those are. -/
def updateWhere (t : Table) (p : Row → Bool) (change : Row → Row) : Table × Nat :=
  ({ t with rows := t.rows.map fun row => if p row then change row else row }, t.rows.countP p)

/-- The table without the rows that satisfy `p`, and how many those are. -/
def deleteWhere (t : Table) (p : Row → Bool) : Table × Nat :=
  ({ t with rows := t.rows.filter fun row => !p row }, t.rows.countP p)

/-- The table without its rows, and how many there were. -/
def truncate (t : Table) : Table × Nat :=
  ({ t with rows := [] }, t.rows.length)

/-- The integer that an identity column reads in a value. Texts count when they spell an
    integer of 64 bits. -/
def identityReading? : Value → Option Int
  | .integer i => some i.toInt
  | .text s => (Numeral.int? (Text.trim s).toList).map Int64.toInt
  | .null | .boolean _ | .float _ => none

/-- The greatest integer that a column holds. -/
def greatest? (t : Table) (i : Nat) : Option Int :=
  (t.rows.filterMap fun row => row[i]?.bind identityReading?).max?

/-- The next value of an identity column: one more than the greatest, and 1 at first. -/
def nextIdentity (t : Table) (i : Nat) : Except Fault Int64 :=
  match t.greatest? i with
  | none => .ok 1
  | some n =>
    if Numeral.fitsInt64 (n + 1) then .ok (Int64.ofInt (n + 1))
    else .error (.autoIncrementOverflow t.name ((t.columns[i]?.map (·.name)).getD ""))

/-- Refuses a table one of whose rows does not fit its columns. -/
def validate (t : Table) : Except Fault Unit :=
  match t.rows.findIdx? fun row => !t.fits row with
  | none => .ok ()
  | some i =>
    .error (.damagedRow i t.name ((t.rows[i]?.map List.length).getD 0) t.columns.length)

end Table

end PocketSql
