/-
  PocketSql.Sql.Kind — the kinds of statements, told from their leading words.
-/

import PocketSql.Fault
import PocketSql.Text.Blank
import PocketSql.Text.Case

namespace PocketSql.Sql

/-- What a statement does. -/
inductive Kind where
  | select | createTable | insert | update | delete
  | dropTable | showTables | describe | alterTable | truncateTable
  | createDatabase | dropDatabase | use | showDatabases | explain
  | createIndex | dropIndex | begin | commit | rollback
  deriving DecidableEq

namespace Kind

/-- The name of the kind in outcomes. -/
def text : Kind → String
  | select => "SELECT"
  | createTable => "CREATE TABLE"
  | insert => "INSERT"
  | update => "UPDATE"
  | delete => "DELETE"
  | dropTable => "DROP TABLE"
  | showTables => "SHOW TABLES"
  | describe => "DESCRIBE"
  | alterTable => "ALTER TABLE"
  | truncateTable => "TRUNCATE TABLE"
  | createDatabase => "CREATE DATABASE"
  | dropDatabase => "DROP DATABASE"
  | use => "USE"
  | showDatabases => "SHOW DATABASES"
  | explain => "EXPLAIN"
  | createIndex => "CREATE INDEX"
  | dropIndex => "DROP INDEX"
  | begin => "BEGIN"
  | commit => "COMMIT"
  | rollback => "ROLLBACK"

/-- Whether a successful statement of this kind changes what is stored. -/
def isMutation : Kind → Bool
  | createTable | dropTable | alterTable | truncateTable | insert | update | delete
  | createDatabase | dropDatabase | createIndex | dropIndex => true
  | select | showTables | describe | use | showDatabases | explain | begin | commit
  | rollback => false

/-- The leading words of each kind. -/
def patterns : List (List String × Kind) :=
  [(["SELECT"], select),
   (["CREATE", "TABLE"], createTable),
   (["INSERT", "INTO"], insert),
   (["UPDATE"], update),
   (["DELETE", "FROM"], delete),
   (["DROP", "TABLE"], dropTable),
   (["SHOW", "TABLES"], showTables),
   (["DESCRIBE"], describe),
   (["DESC"], describe),
   (["ALTER", "TABLE"], alterTable),
   (["TRUNCATE", "TABLE"], truncateTable),
   (["CREATE", "DATABASE"], createDatabase),
   (["CREATE", "SCHEMA"], createDatabase),
   (["DROP", "DATABASE"], dropDatabase),
   (["DROP", "SCHEMA"], dropDatabase),
   (["USE"], use),
   (["SHOW", "DATABASES"], showDatabases),
   (["SHOW", "SCHEMAS"], showDatabases),
   (["EXPLAIN"], explain),
   (["CREATE", "UNIQUE", "INDEX"], createIndex),
   (["CREATE", "INDEX"], createIndex),
   (["DROP", "INDEX"], dropIndex),
   (["BEGIN"], begin),
   (["START", "TRANSACTION"], begin),
   (["COMMIT"], commit),
   (["ROLLBACK"], rollback)]

end Kind

/-- Whether a character belongs to a word when the kind of a statement is told. -/
def isWordChar (c : Char) : Bool :=
  Text.isAlphanumeric c || c == '_'

/-- The first words of a text, at most `n` of them. -/
def leadingWords : Nat → List Char → List (List Char)
  | 0, _ => []
  | n + 1, cs =>
    let cs := cs.dropWhile fun c => !isWordChar c
    if cs.isEmpty then []
    else cs.takeWhile isWordChar :: leadingWords n (cs.dropWhile isWordChar)

/-- The kind of a statement. -/
def classify (statement : String) : Except Fault Kind :=
  if (Text.trim statement).isEmpty then .error .emptyStatement
  else
    let words := (leadingWords 3 (Text.upper statement).toList).map String.ofList
    match Kind.patterns.find? fun p => p.1.isPrefixOf words with
    | some (_, kind) => .ok kind
    | none => .error .unsupportedStatement

end PocketSql.Sql
