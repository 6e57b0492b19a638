/-
  PocketSql.Query.Result — what a statement gives back.

  A row of a result lists values under column names, each name once: of two columns of
  one name the later value stands in the place of the earlier.
-/

import PocketSql.Value

namespace PocketSql

/-- Values under column names, in the order of the columns. -/
abbrev ResultRow := List (String × Value)

namespace ResultRow

/-- The row with a value under a name, in the place of what was there. -/
def put (row : ResultRow) (column : String) (value : Value) : ResultRow :=
  if row.any (·.1 == column) then
    row.map fun e => if e.1 == column then (column, value) else e
  else row ++ [(column, value)]

def ofPairs (pairs : List (String × Value)) : ResultRow :=
  pairs.foldl (fun row (column, value) => put row column value) []

end ResultRow

/-- What a statement reports when it succeeds. -/
structure QueryResult where
  columns : List String := []
  rows : List ResultRow := []
  /-- How many rows were inserted, updated, deleted or truncated. -/
  affectedRows : Nat := 0
  message : Option String := none
  /-- The database selected by USE. -/
  database : Option String := none
  deriving DecidableEq

namespace QueryResult

def ofMessage (message : String) : QueryResult :=
  { message := some message }

def ofAffected (count : Nat) (message : String) : QueryResult :=
  { affectedRows := count, message := some message }

def ofRows (columns : List String) (rows : List Row) : QueryResult :=
  { columns, rows := rows.map fun row => .ofPairs (columns.zip row) }

end QueryResult

end PocketSql
