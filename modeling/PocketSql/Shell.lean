/-
  PocketSql.Shell — the command line: lines in, printed text out.

  Lines are collected until one ends with a semicolon or an empty one follows; then they
  are executed together. A line that starts with a dot, with nothing collected, is a
  command of the shell itself.
-/

import PocketSql.Engine
import PocketSql.Shell.Grid
import PocketSql.Shell.Input
import PocketSql.Shell.LineLog
import PocketSql.Store.Directory

namespace PocketSql

namespace Shell

/-! ## Arguments -/

/-- Where a session keeps its files, and the database it starts on; empty for none. -/
structure Options where
  dataDir : String := "./tabula-data"
  database : String := ""
  deriving DecidableEq

/-- What the arguments ask for. -/
inductive Invocation where
  | run (options : Options)
  | usage
  | invalid (message : String)
  deriving DecidableEq

/-- Arguments are read from the left; the first bad one decides. -/
def readArguments (options : Options) : List String → Invocation
  | [] => .run options
  | arg :: rest =>
    if arg == "--data-dir" || arg == "-d" then
      match rest with
      | dir :: rest => readArguments { options with dataDir := dir } rest
      | [] => .invalid "--data-dir requires a directory"
    else if arg == "--database" || arg == "-D" then
      match rest with
      | name :: rest => readArguments { options with database := name } rest
      | [] => .invalid "--database requires a name"
    else if arg == "--help" || arg == "-h" then .usage
    else .invalid ("unknown argument '" ++ arg ++ "'")

def usageText : String :=
  "Usage: tabula-cli [--data-dir <dir>] [--database <name>]\n"

/-! ## Texts -/

def banner (dataDir : String) : String :=
  "\n _        _           _\n"
    ++ "| |_ __ _| |__  _   _| | __ _\n"
    ++ "| __/ _` | '_ \\| | | | |/ _` |\n"
    ++ "| || (_| | |_) | |_| | | (_| |\n"
    ++ " \\__\\__,_|_.__/ \\__,_|_|\\__,_|\n\n"
    ++ " An in-memory SQL-like query engine\n"
    ++ " Data directory: " ++ dataDir ++ "\n"
    ++ " Type '.help' for help, '.quit' to exit\n\n"

def helpText : String :=
  "\nCommands:\n"
    ++ "  .help              Show this help message\n"
    ++ "  .quit              Exit Tabula\n"
    ++ "  .tables            List tables in the current database\n"
    ++ "  .databases         List databases\n"
    ++ "  .schema <table>    Show table schema\n"
    ++ "  .use <database>    Switch database\n"
    ++ "  .history           Show recent statements\n"
    ++ "  .clear             Clear screen\n\n"
    ++ "SQL Commands:\n"
    ++ "  CREATE DATABASE / DROP DATABASE / USE / SHOW DATABASES\n"
    ++ "  CREATE TABLE / DROP TABLE / ALTER TABLE / TRUNCATE TABLE\n"
    ++ "  INSERT INTO / UPDATE / DELETE FROM / SELECT\n"
    ++ "  SHOW TABLES / DESCRIBE / EXPLAIN / CREATE INDEX / DROP INDEX\n"
    ++ "  BEGIN / COMMIT / ROLLBACK (accepted, changes apply immediately)\n\n"
    ++ "Statements end with ';'. An empty line runs an unterminated buffer.\n\n"
    ++ "Examples:\n"
    ++ "  CREATE TABLE users (id INT PRIMARY KEY AUTO_INCREMENT, name VARCHAR(100));\n"
    ++ "  INSERT INTO users (name) VALUES ('Alice'), ('Bob');\n"
    ++ "  SELECT * FROM users WHERE name LIKE 'a%' ORDER BY id DESC LIMIT 1;\n\n"

/-! ## What is printed -/

/-- A text for one of the two outputs. -/
inductive Printed where
  | out (s : String)
  | err (s : String)
  deriving DecidableEq

/-- The text of one statement's outcome. -/
def printOutcome (o : Outcome) : List Printed :=
  if o.success then
    let table := match o.columns with
      | some columns => grid columns (o.rows.getD [])
      | none => ""
    [.out (table ++ o.output ++ " (" ++ o.elapsed.fixedText 2 ++ " ms)\n")]
  else [.err (o.output ++ "\n")]

end Shell

/-- A session between two lines. -/
structure Shell (σ : Type) where
  engine : Engine σ
  /-- The database that statements run on; if empty, the engine's own choice. -/
  database : String
  /-- The lines collected so far, each with a line break. -/
  buffer : String := ""
  log : Shell.LineLog := {}

namespace Shell

variable {σ : Type} [KeyValueStore σ] [RegexCompiler]

/-- The database that the next statement runs on. -/
def target (sh : Shell σ) : String :=
  if sh.database.isEmpty then
    sh.engine.catalog.current.getD sh.engine.config.defaultDatabase
  else sh.database

/-- What stands in front of the next line. -/
def prompt (sh : Shell σ) : String :=
  if sh.buffer.isEmpty then "tabula:" ++ sh.target ++ "> " else "     ...> "

/-- Executes collected statements. -/
def executeSql (sh : Shell σ) (clock : Nat → Reading) (sql : String) :
    Shell σ × List Printed :=
  let (engine, outcomes) := sh.engine.executeBatch clock sh.database sql
  ({ sh with engine, database := outcomes.foldl Engine.switched sh.database },
    outcomes.flatMap printOutcome)

/-- Describes tables one after the other, each under its name. -/
def describeTables (sh : Shell σ) (clock : Nat → Reading) : List String → Shell σ × List Printed
  | [] => (sh, [])
  | table :: more =>
    let (sh, printed) := sh.executeSql clock ("DESCRIBE " ++ table)
    let (sh, rest) := describeTables sh (fun n => clock (n + 1)) more
    (sh, .out (table ++ ":\n") :: printed ++ rest)

/-- The line of one history entry. -/
def historyLine (e : HistoryEntry) : String :=
  atRight 4 (toString e.id) ++ "  " ++ String.ofList e.timestamp.toDateTime.timeChars ++ "  "
    ++ atLeft 3 (if e.success then "ok" else "err") ++ "  " ++ atLeft 24 e.label ++ "  "
    ++ e.query ++ "\n"

/-- How many history entries are shown. -/
def shownEntries : Nat := 20

/-- The words of a line, which white space separates. -/
def words (line : String) : List String :=
  let cs := line.toList.map fun c => if Text.isBlank c then ' ' else c
  ((String.ofList cs).splitOn " ").filter fun w => !w.isEmpty

/-- Runs a command of the shell itself; none when it ends the session. -/
def command (sh : Shell σ) (clock : Nat → Reading) (line : String) :
    Option (Shell σ × List Printed) :=
  match words line with
  | ".help" :: _ => some (sh, [.out helpText])
  | ".quit" :: _ | ".exit" :: _ => none
  | [".tables"] => some (sh.executeSql clock "SHOW TABLES")
  | [".databases"] => some (sh.executeSql clock "SHOW DATABASES")
  | [".schema", table] => some (sh.executeSql clock ("DESCRIBE " ++ table))
  | [".schema"] =>
    let tables := match sh.engine.catalog.database? sh.target with
      | some db => db.tables.map (·.name)
      | none => []
    if tables.isEmpty then some (sh, [.out "No tables found.\n"])
    else some (sh.describeTables clock tables)
  | [".use", database] => some (sh.executeSql clock ("USE " ++ database))
  | [".history"] =>
    let entries := sh.engine.history.entries
    some (sh, if entries.isEmpty then [.out "No history.\n"]
      else (entries.take shownEntries).map fun e => .out (historyLine e))
  | [".clear"] => some (sh, [.out "\x1b[2J\x1b[1;1H"])
  | word :: _ =>
    some (sh, [.err ("Unknown command or arguments: " ++ word ++ "\n"),
      .err "Type '.help' for available commands.\n"])
  | [] => some (sh, [])

/-- Executes what was collected. -/
def flush (sh : Shell σ) (clock : Nat → Reading) : Shell σ × List Printed :=
  let sql := sh.buffer
  { sh with buffer := "", log := sh.log.add (Text.trim sql) }.executeSql clock sql

/-- Takes one line, without its line break; none in place of a shell ends the session. -/
def step (sh : Shell σ) (clock : Nat → Reading) (line : String) :
    Shell σ × Option (List Printed) :=
  let trimmed := Text.trim line
  if sh.buffer.isEmpty && trimmed.startsWith "." then
    let sh := { sh with log := sh.log.add trimmed }
    match sh.command clock trimmed with
    | some (sh, printed) => (sh, some printed)
    | none => (sh, none)
  else if trimmed.isEmpty then
    if sh.buffer.isEmpty then (sh, some [])
    else
      let (sh, printed) := sh.flush clock
      (sh, some printed)
  else
    let sh := { sh with buffer := sh.buffer ++ line ++ "\n" }
    if trimmed.endsWith ";" then
      let (sh, printed) := sh.flush clock
      (sh, some printed)
    else (sh, some [])

/-- Takes lines up to the one that ends the session. -/
def runLines (clock : Nat → Reading) (sh : Shell σ) : List String → Shell σ × List Printed
  | [] => (sh, [])
  | line :: more =>
    match sh.step clock line with
    | (sh, none) => (sh, [])
    | (sh, some printed) =>
      let (sh, rest) := runLines clock sh more
      (sh, printed ++ rest)

def farewell : String := "Goodbye!\n"

/-! ## Sessions over a directory -/

/-- The shell at the start of a session over a data directory. -/
def start (options : Options) (dir : Directory) : Shell Directory :=
  { engine := .opened {} dir
    database := options.database
    log := ((dir.files.get? LineLog.fileName).map LineLog.ofText).getD {} }

/-- The directory at the end of a session: the log of lines is written if it grew and
    nothing is in the way. -/
def finish (sh : Shell Directory) : Directory :=
  let dir := sh.engine.store
  if sh.log.changed && (dir.obstacle? LineLog.fileName).isNone then
    { dir with files := dir.files.set LineLog.fileName sh.log.text }
  else dir

/-- A whole session over a data directory: the directory after it and what is printed. -/
def session (options : Options) (dir : Directory) (clock : Nat → Reading) (input : String) :
    Directory × List Printed :=
  let (sh, printed) := runLines clock (start options dir) (inputLines input)
  (sh.finish, .out (banner options.dataDir) :: printed ++ [.out farewell])

end Shell

end PocketSql
