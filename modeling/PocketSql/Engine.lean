/-
  PocketSql.Engine — statement texts in, outcomes out.

  An engine holds the catalog and the history, and writes both through to a store: the
  databases after every statement that may have changed them, the selected database's
  name, and the history after every statement whose kind was recognized. A store that
  refuses changes nothing else. The clock is an input: one reading for each statement.
-/

import PocketSql.Engine.Config
import PocketSql.Engine.History
import PocketSql.Engine.Outcome
import PocketSql.Execute
import PocketSql.Sql.Grammar.Statement
import PocketSql.Sql.Script
import PocketSql.Store

namespace PocketSql

/-- What the clock says of one statement: when it runs, and how many milliseconds it
    takes. -/
structure Reading where
  now : Instant
  elapsed : Binary64
  deriving DecidableEq, Inhabited

/-- A catalog and a history, and the store that both are written through to. -/
structure Engine (σ : Type) where
  config : Config
  catalog : Catalog
  history : History
  store : σ

namespace Engine

variable {σ : Type} [KeyValueStore σ] [RegexCompiler]

/-! ## Opening -/

/-- The catalog that a store holds. -/
def loadCatalog (config : Config) (store : σ) : Except Fault Catalog := do
  let databases ← KeyValueStore.read store config.databasesKey
  let current ← KeyValueStore.read store config.currentDatabaseKey
  Catalog.ofTexts databases current

/-- The history that a store holds. -/
def loadHistory (config : Config) (store : σ) : Except Fault History := do
  History.ofText (← KeyValueStore.read store config.historyKey) config.historyCapacity

/-- The engine over what a store holds. Documents that cannot be read count as empty. -/
def opened (config : Config) (store : σ) : Engine σ :=
  { config
    catalog := (loadCatalog config store).toOption.getD {}
    history := (loadHistory config store).toOption.getD { capacity := config.historyCapacity }
    store }

/-! ## Writing through -/

/-- The engine after writing a document, whether or not the store took it. -/
def save (e : Engine σ) (key document : String) : Engine σ :=
  { e with store := (KeyValueStore.write e.store key document).1 }

def saveDatabases (e : Engine σ) : Engine σ :=
  e.save e.config.databasesKey e.catalog.databasesText

def saveCurrent (e : Engine σ) : Engine σ :=
  e.save e.config.currentDatabaseKey e.catalog.currentText

def saveHistory (e : Engine σ) : Engine σ :=
  e.save e.config.historyKey e.history.text

/-- Whether a kind of statement changes the database that it runs on. -/
def touches (kind : Sql.Kind) : Bool :=
  kind.isMutation && kind != .createDatabase && kind != .dropDatabase

/-- What follows a statement that succeeded. A statement that only reads may have created
    its database. -/
def afterSuccess (e : Engine σ) (now : Instant) (kind : Sql.Kind) (target : String)
    (result : QueryResult) (databasesBefore : Nat) : Engine σ :=
  if kind.isMutation then
    let catalog :=
      if touches kind then e.catalog.modifyDatabase target (·.touch now) else e.catalog
    { e with catalog }.saveDatabases.saveCurrent
  else
    let e := if e.catalog.databases.length != databasesBefore then e.saveDatabases else e
    if kind == .use && result.database.isSome then e.saveCurrent else e

/-- The entry of a statement in the history, with its number still open. -/
def entryOf (e : Engine σ) (r : Reading) (statement : String) (o : Outcome) : HistoryEntry :=
  { id := 0
    query := truncateQuery statement e.config.historyQueryChars
    label := if o.success then o.queryType else o.errorCode.getD o.queryType
    timestamp := r.now
    success := o.success
    elapsed := o.elapsed
    rowCount := o.rowCount
    affectedRows := o.affectedRows }

/-- Logs a statement and its outcome. -/
def recordHistory (e : Engine σ) (r : Reading) (statement : String) (o : Outcome) : Engine σ :=
  { e with history := e.history.record (e.entryOf r statement o) }.saveHistory

/-! ## Statements -/

/-- The database that a statement runs on: the one asked for, else the selected one, else
    the default. -/
def targetDatabase (e : Engine σ) (requested : String) : String :=
  let requested := Text.trim requested
  if requested.isEmpty then e.catalog.current.getD e.config.defaultDatabase else requested

/-- The normal form of a statement and its kind. -/
def prepare (sql : String) : Except Fault (String × Sql.Kind) := do
  let statement ← Sql.normalize sql
  return (statement, ← Sql.classify statement)

/-- Reads and runs a statement in normal form. -/
def runStatement (c : Catalog) (now : Instant) (target statement : String) (kind : Sql.Kind) :
    Catalog × Except Fault QueryResult :=
  match Sql.parse statement kind with
  | .ok s => c.run now target s
  | .error e => (c, .error e)

/-- Executes a statement whose kind was recognized. -/
def executePrepared (e : Engine σ) (r : Reading) (database statement : String)
    (kind : Sql.Kind) : Engine σ × Outcome :=
  let target := e.targetDatabase database
  let (catalog, outcome) := runStatement e.catalog r.now target statement kind
  let before := e.catalog.databases.length
  let e := { e with catalog }
  let (e, o) := match outcome with
    | .ok result =>
      (e.afterSuccess r.now kind target result before,
        Outcome.ofResult kind.text target result r.elapsed)
    | .error fault => (e, Outcome.ofFault kind.text fault r.elapsed)
  (e.recordHistory r statement o, o)

/-- Executes one statement. One that is not recognized leaves no trace. -/
def execute (e : Engine σ) (r : Reading) (database sql : String) : Engine σ × Outcome :=
  match prepare sql with
  | .ok (statement, kind) => e.executePrepared r database statement kind
  | .error fault => (e, .ofFault Outcome.unknownType fault r.elapsed)

/-- The database for what follows a statement: a USE that succeeded switches it. -/
def switched (database : String) (o : Outcome) : String :=
  if o.success && o.queryType == Sql.Kind.use.text then o.database.getD database else database

/-- Executes statements in order up to the first that fails. -/
def executeAll (e : Engine σ) (clock : Nat → Reading) (database : String) :
    List String → Engine σ × List Outcome
  | [] => (e, [])
  | sql :: more =>
    let (e, o) := e.execute (clock 0) database sql
    if o.success then
      let (e, os) := executeAll e (fun n => clock (n + 1)) (switched database o) more
      (e, o :: os)
    else (e, [o])

/-- Executes the statements of a script. A script without statements counts as one. -/
def executeBatch (e : Engine σ) (clock : Nat → Reading) (database sql : String) :
    Engine σ × List Outcome :=
  let statements := Sql.splitStatements sql
  if statements.isEmpty then
    let (e, o) := e.execute (clock 0) database sql
    (e, [o])
  else e.executeAll clock database statements

/-- Drops every entry of the history. -/
def clearHistory (e : Engine σ) : Engine σ :=
  { e with history := e.history.clear }.saveHistory

end Engine

end PocketSql
