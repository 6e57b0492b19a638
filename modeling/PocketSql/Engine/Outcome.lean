/-
  PocketSql.Engine.Outcome — what a caller is told of one statement.
-/

import PocketSql.Document.Schema
import PocketSql.Query.Result

namespace PocketSql

/-- The answer to one statement, whether it succeeded or failed. -/
structure Outcome where
  success : Bool
  /-- A summary in words. -/
  output : String
  error : Option String := none
  errorCode : Option String := none
  /-- How long it took, in milliseconds. -/
  elapsed : Binary64
  /-- About how many bytes the rows take. -/
  memory : Option Nat := none
  rows : Option (List ResultRow) := none
  affectedRows : Option Nat := none
  columns : Option (List String) := none
  /-- The statement's kind, or `UNKNOWN`. -/
  queryType : String
  rowCount : Option Nat := none
  database : Option String := none
  deriving DecidableEq

namespace Outcome

/-- About how many bytes a row takes: its names and its values. -/
def rowSize (row : ResultRow) : Nat :=
  row.foldl (fun total (name, v) => total + name.utf8ByteSize + v.size) 0

/-- The outcome of a statement that succeeded. Without columns the result has no rows, but
    a number of rows that were changed. -/
def ofResult (queryType database : String) (r : QueryResult) (elapsed : Binary64) : Outcome :=
  let count := r.rows.length
  let outcome : Outcome :=
    { success := true
      output := r.message.getD
        (if r.columns.isEmpty then toString r.affectedRows ++ " row(s) affected"
          else toString count ++ " row(s) returned")
      elapsed
      queryType
      database := some (r.database.getD database) }
  if r.columns.isEmpty then { outcome with affectedRows := some r.affectedRows }
  else
    { outcome with
      memory := some (r.rows.foldl (fun total row => total + rowSize row) 0)
      rowCount := some count
      columns := some r.columns
      rows := some r.rows }

/-- The outcome of a statement that failed. -/
def ofFault (queryType : String) (e : Fault) (elapsed : Binary64) : Outcome :=
  { success := false
    output := "Error: " ++ e.message
    error := some e.message
    errorCode := some e.code
    elapsed
    queryType }

/-- What stands for the kind of a statement that has none. -/
def unknownType : String := "UNKNOWN"

def rowJson (row : ResultRow) : Json :=
  .ofFields (row.map fun (name, v) => (name, some v.toJson))

def toJson (o : Outcome) : Json :=
  .ofFields [
    ("success", some (.bool o.success)),
    ("output", some (.ofString o.output)),
    ("error", o.error.map .ofString),
    ("errorCode", o.errorCode.map .ofString),
    ("executionTime", some o.elapsed.toJson),
    ("memory", o.memory.map .ofNat),
    ("resultSet", o.rows.map fun rows => .array (rows.map rowJson)),
    ("affectedRows", o.affectedRows.map .ofNat),
    ("columns", o.columns.map fun names => .array (names.map .ofString)),
    ("queryType", some (.ofString o.queryType)),
    ("rowCount", o.rowCount.map .ofNat),
    ("database", o.database.map .ofString)]

end Outcome

end PocketSql
