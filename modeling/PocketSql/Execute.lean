/-
  PocketSql.Execute — running statements on a catalog.

  Each statement gives the catalog after it and a result or a fault; a fault may leave
  changes behind, namely a database created on first access and the rows that an INSERT
  wrote before the one that failed. `now` is the time at which the statement runs.
-/

import PocketSql.Query.Select
import PocketSql.Schema.Catalog

namespace PocketSql

variable [RegexCompiler]

/-! ## Values to be stored -/

namespace Column

/-- The value of a column that none is given for: its default, else NULL if it may be
    NULL, else the zero of its type. -/
def fillValue (now : Instant) (c : Column) : Value :=
  match c.defaultValue? now with
  | some v => v
  | none => if c.nullable then .null else .zero c.type

/-- The value of a literal in the column. -/
def literalValue (now : Instant) (c : Column) : Literal → Value
  | .null => .null
  | .default => c.fillValue now
  | .currentTimestamp =>
    if c.type.isTemporal then .coerce now.timestampText c.type else .currentTimestamp now
  | .quoted raw | .number raw | .word raw => .coerce raw c.type

end Column

namespace Table

/-- The value that a literal gives a column; an identity column makes up its own. -/
def givenValue (t : Table) (now : Instant) (i : Nat) (c : Column) (l : Literal) :
    Except Fault Value :=
  if c.isIdentity then .integer <$> t.nextIdentity i else .ok (c.literalValue now l)

/-- The value of a column that no literal is given for. -/
def missingValue (t : Table) (now : Instant) (i : Nat) (c : Column) : Except Fault Value :=
  if c.isIdentity then .integer <$> t.nextIdentity i else .ok (c.fillValue now)

/-- The values given for columns, by place; the last of several for one column. -/
def givenValues (t : Table) (now : Instant) (targets : List (Nat × Literal)) :
    Except Fault (List (Nat × Value)) :=
  targets.foldlM
    (fun given (i, l) =>
      match t.columns[i]? with
      | some c => do return (i, ← t.givenValue now i c l) :: given
      | none => .ok given)
    []

/-- The row that literals for some columns make. -/
def buildRow (t : Table) (now : Instant) (targets : List Nat) (literals : List Literal) :
    Except Fault Row := do
  let given ← t.givenValues now (targets.zip literals)
  t.columns.zipIdx.mapM fun (c, i) =>
    match given.lookup i with
    | some v => .ok v
    | none => t.missingValue now i c

/-- Adds rows one after the other up to the first that fails. -/
def insertRows (now : Instant) (targets : List Nat) (t : Table) :
    List (List Literal) → Table × Except Fault Unit
  | [] => (t, .ok ())
  | literals :: more =>
    match (do t.pushRow (← t.buildRow now targets literals)) with
    | .error e => (t, .error e)
    | .ok t => insertRows now targets t more

/-- The places of the columns that an INSERT gives values for. -/
def insertTargets (t : Table) : Option (List String) → Except Fault (List Nat)
  | some names => names.mapM t.requireColumn
  | none => .ok (List.range t.columns.length)

/-- Nothing is written where some row has too many or too few values. -/
def insert (t : Table) (now : Instant) (s : Insert) : Table × Except Fault QueryResult :=
  match t.insertTargets s.columns with
  | .error e => (t, .error e)
  | .ok targets =>
    match s.rows.find? fun row => row.length != targets.length with
    | some row => (t, .error (.columnCountMismatch targets.length row.length))
    | none =>
      let (t, done) := t.insertRows now targets s.rows
      (t, done.map fun _ =>
        .ofAffected s.rows.length (toString s.rows.length ++ " row(s) inserted"))

/-- The values that an UPDATE assigns, by place. -/
def assignedValues (t : Table) (now : Instant) (assignments : List Assignment) :
    Except Fault (List (Nat × Value)) :=
  assignments.mapM fun a => do
    let i ← t.requireColumn a.column
    return (i, (t.columns[i]?.map (·.literalValue now a.value)).getD .null)

/-- The row with values assigned, one after the other. -/
def assign (row : Row) (values : List (Nat × Value)) : Row :=
  values.foldl (fun row (i, v) => row.set i v) row

/-- Nothing is changed where an assigned column does not exist or the condition makes no
    test. All values are found before the first row is changed. -/
def update (t : Table) (now : Instant) (s : Update) : Except Fault (Table × QueryResult) := do
  let values ← t.assignedValues now s.assignments
  let holds ← t.filter now s.condition
  let (t, count) := t.updateWhere holds fun row => assign row values
  return (t, .ofAffected count (toString count ++ " row(s) updated"))

/-- Removes the rows that the condition holds of. -/
def delete (t : Table) (now : Instant) (s : Delete) : Except Fault (Table × QueryResult) := do
  let holds ← t.filter now s.condition
  let (t, count) := t.deleteWhere holds
  return (t, .ofAffected count (toString count ++ " row(s) deleted"))

/-! ## Descriptions -/

/-- How a description marks a column as a key. -/
def keyLabel (c : Column) : String :=
  if c.primaryKey then "PRI"
  else if c.unique then "UNI"
  else if c.references.isSome then "MUL"
  else ""

/-- How a description shows the default of a column. -/
def defaultLabel (c : Column) : Value :=
  match c.default with
  | none | some .null => .null
  | some .currentTimestamp => .text "CURRENT_TIMESTAMP"
  | some (.literal raw) => .text raw

/-- One row for each column. -/
def describe (t : Table) : QueryResult :=
  .ofRows ["Field", "Type", "Null", "Key", "Default", "Extra"] (t.columns.map fun c =>
    [.text c.name, .text c.typeLabel, .text (if c.nullable then "YES" else "NO"),
      .text (keyLabel c), defaultLabel c,
      .text (if c.autoIncrement then "auto_increment" else "")])

end Table

/-! ## Statements in one database -/

/-- A number of rows or tables as a value. -/
def Value.count (n : Nat) : Value :=
  .integer (Int64.ofNat n)

namespace Database

/-- Adds an empty table. -/
def createTable (db : Database) (s : CreateTable) : Except Fault (Database × QueryResult) :=
  if db.hasTable s.table then
    if s.ifNotExists then
      .ok (db, .ofMessage ("Table '" ++ s.table ++ "' already exists"))
    else .error (.tableAlreadyExists s.table)
  else do
    let t : Table := { name := s.table, columns := s.columns, constraints := s.constraints }
    let db ← db.addTable
      { t with engine := s.engine.getD t.engine, charset := s.charset.getD t.charset }
    return (db, .ofMessage
      ("Table '" ++ s.table ++ "' created with " ++ toString s.columns.length ++ " column(s)"))

/-- Drops a table, or with IF EXISTS passes over one that is not there. -/
def removeTable (db : Database) (table : String) (ifExists : Bool) :
    Except Fault (Database × QueryResult) :=
  if ifExists && !db.hasTable table then
    .ok (db, .ofMessage ("Table '" ++ table ++ "' does not exist"))
  else do
    let (db, t) ← db.dropTable table
    return (db, .ofMessage ("Table '" ++ t.name ++ "' dropped"))

def truncateTable (db : Database) (table : String) : Except Fault (Database × QueryResult) := do
  let (t, count) := (← db.requireTable table).truncate
  return (db.modifyTable table fun _ => t, .ofAffected count
    ("Table '" ++ table ++ "' truncated, " ++ toString count ++ " row(s) removed"))

/-- Records the name of an index on its table, once. -/
def createIndex (db : Database) (s : CreateIndex) : Except Fault (Database × QueryResult) := do
  let t ← db.requireTable s.table
  s.columns.forM fun column => do
    let _ ← t.requireColumn column
  let indexes :=
    if t.indexes.any fun i => Text.sameName i s.index then t.indexes else t.indexes ++ [s.index]
  return (db.modifyTable s.table fun t => { t with indexes }, .ofMessage
    ("Index '" ++ s.index ++ "' created on '" ++ s.table ++ "'"))

/-- Removes the name of an index from one table, or from every one. -/
def dropIndex (db : Database) (index : String) (table : Option String) :
    Except Fault (Database × QueryResult) := do
  let names ← match table with
    | some name => do pure [(← db.requireTable name).name]
    | none => pure (db.tables.map (·.name))
  let db := names.foldl
    (fun db name => db.modifyTable name fun t =>
      { t with indexes := t.indexes.filter fun i => !Text.sameName i index })
    db
  return (db, .ofMessage ("Index '" ++ index ++ "' dropped"))

/-- One row for each table, with its number of rows. -/
def showTables (db : Database) : QueryResult :=
  .ofRows ["Tables_in_" ++ db.name, "Rows"]
    (db.tables.map fun t => [.text t.name, .count t.rows.length])

/-- Whether a statement has a WHERE clause. -/
def hasCondition : Statement → Bool
  | .select s => s.condition.isSome
  | .update s => s.condition.isSome
  | .delete s => s.condition.isSome
  | _ => false

/-- The plan of a statement, which is always the same one row. The statement is not run. -/
def explain (db : Database) (s : Statement) : QueryResult :=
  let selectType := match s with
    | .select _ => "SIMPLE"
    | s => s.kind.text
  let rows := (s.table?.bind db.table?).map fun t => Value.count t.rows.length
  .ofRows ["id", "select_type", "table", "type", "possible_keys", "key", "rows", "Extra"]
    [[.integer 1, .text selectType, (s.table?.map .text).getD .null, .text "ALL", .null, .null,
      rows.getD .null, .text (if hasCondition s then "Using where" else "")]]

/-- A statement's outcome where it changes nothing if it fails. -/
def settle (db : Database) (outcome : Except Fault (Database × QueryResult)) :
    Database × Except Fault QueryResult :=
  match outcome with
  | .ok (db, result) => (db, .ok result)
  | .error e => (db, .error e)

/-- Runs an INSERT on its table. Rows stay that were written before a fault. -/
def insertInto (db : Database) (now : Instant) (s : Insert) :
    Database × Except Fault QueryResult :=
  match db.requireTable s.table with
  | .error e => (db, .error e)
  | .ok t =>
    let (t, outcome) := t.insert now s
    (db.modifyTable s.table fun _ => t, outcome)

def updateIn (db : Database) (now : Instant) (s : Update) :
    Except Fault (Database × QueryResult) := do
  let (t, result) ← (← db.requireTable s.table).update now s
  return (db.modifyTable s.table fun _ => t, result)

def deleteFrom (db : Database) (now : Instant) (s : Delete) :
    Except Fault (Database × QueryResult) := do
  let (t, result) ← (← db.requireTable s.table).delete now s
  return (db.modifyTable s.table fun _ => t, result)

/-- Runs a statement on the tables of the database. -/
def run (db : Database) (now : Instant) : Statement → Database × Except Fault QueryResult
  | .select s => (db, do (← db.requireTable s.table).select now s)
  | .insert s => db.insertInto now s
  | .update s => db.settle (db.updateIn now s)
  | .delete s => db.settle (db.deleteFrom now s)
  | .createTable s => db.settle (db.createTable s)
  | .dropTable table ifExists => db.settle (db.removeTable table ifExists)
  | .alterTable table =>
    (db, .ok (.ofMessage
      ("ALTER TABLE '" ++ table ++ "' accepted; schema changes are not applied")))
  | .truncateTable table => db.settle (db.truncateTable table)
  | .createIndex s => db.settle (db.createIndex s)
  | .dropIndex index table => db.settle (db.dropIndex index table)
  | .showTables => (db, .ok db.showTables)
  | .describe table => (db, do return (← db.requireTable table).describe)
  | .explain s => (db, .ok (db.explain s))
  | s => (db, .error (.outsideDatabase s.kind.text))

end Database

/-! ## All statements -/

namespace Catalog

/-- A statement's outcome where it changes nothing if it fails. -/
def settle (c : Catalog) (outcome : Except Fault (Catalog × QueryResult)) :
    Catalog × Except Fault QueryResult :=
  match outcome with
  | .ok (c, result) => (c, .ok result)
  | .error e => (c, .error e)

/-- Creates a database, or with IF NOT EXISTS passes over one that is there. -/
def addDatabase (c : Catalog) (now : Instant) (name : String) (ifNotExists : Bool) :
    Except Fault (Catalog × QueryResult) :=
  if ifNotExists && c.hasDatabase name then
    .ok (c, .ofMessage ("Database '" ++ name ++ "' already exists"))
  else do
    return (← c.createDatabase name now, .ofMessage ("Database '" ++ name ++ "' created"))

/-- Drops a database, or with IF EXISTS passes over one that is not there. -/
def removeDatabase (c : Catalog) (name : String) (ifExists : Bool) :
    Except Fault (Catalog × QueryResult) :=
  if ifExists && !c.hasDatabase name then
    .ok (c, .ofMessage ("Database '" ++ name ++ "' does not exist"))
  else do
    let (c, db) ← c.dropDatabase name
    return (c, .ofMessage ("Database '" ++ db.name ++ "' dropped"))

/-- One row for each database, with its number of tables. -/
def showDatabases (c : Catalog) : QueryResult :=
  .ofRows ["Database", "Tables"]
    (c.databases.map fun db => [.text db.name, .count db.tables.length])

/-- Selects a database, which is reported under its own spelling. -/
def switchTo (c : Catalog) (name : String) : Except Fault (Catalog × QueryResult) := do
  let c ← c.useDatabase name
  let current := c.current.getD name
  return (c, { message := some ("Database changed to '" ++ current ++ "'")
               database := some current })

/-- Runs a statement on a database, which is created if it is not there. -/
def runIn (c : Catalog) (now : Instant) (database : String) (s : Statement) :
    Catalog × Except Fault QueryResult :=
  let (c, db) := c.databaseOrCreate database now
  let (db, outcome) := db.run now s
  (c.put (key database) db, outcome)

/-- Runs a statement. Those that work on tables do so in the database of the given name. -/
def run (c : Catalog) (now : Instant) (database : String) :
    Statement → Catalog × Except Fault QueryResult
  | .createDatabase name ifNotExists => c.settle (c.addDatabase now name ifNotExists)
  | .dropDatabase name ifExists => c.settle (c.removeDatabase name ifExists)
  | .showDatabases => (c, .ok c.showDatabases)
  | .use name => c.settle (c.switchTo name)
  | .begin => (c, .ok (.ofMessage "Transaction started (statements apply immediately)"))
  | .commit => (c, .ok (.ofMessage "Transaction committed"))
  | .rollback => (c, .ok (.ofMessage "Transaction rolled back (no changes were undone)"))
  | s =>
    if (Text.trim database).isEmpty then (c, .error .noDatabaseSelected)
    else c.runIn now database s

end Catalog

end PocketSql
