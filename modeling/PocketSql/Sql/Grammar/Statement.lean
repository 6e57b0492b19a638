/-
  PocketSql.Sql.Grammar.Statement — whole statements.

  The kind of a statement is known before it is read, so each kind has one form. A
  statement may end with a semicolon, and nothing may follow it.
-/

import PocketSql.Sql.Grammar.Condition
import PocketSql.Sql.Grammar.Definition

namespace PocketSql.Sql.Parser

/-! ## Statements on rows -/

/-- A column of a projection. An alias is accepted and ignored. -/
def projected : Parser String := do
  let name ← objectName
  if ← takeKeyword .AS then
    let _ ← identifier
  return name

def projection : Parser Projection := do
  if ← takeSymbol .asterisk then return .all
  else return .columns (← items projected)

def orderKey : Parser OrderKey := do
  let column ← objectName
  if ← takeKeyword .DESC then return ⟨column, false⟩
  else
    let _ ← takeKeyword .ASC
    return ⟨column, true⟩

/-- `count`, `offset, count` or `count OFFSET offset`. -/
def limit : Parser Limit := do
  let first ← rowCount
  if ← takeSymbol .comma then return ⟨first, ← rowCount⟩
  else if ← takeKeyword .OFFSET then return ⟨← rowCount, first⟩
  else return ⟨0, first⟩

/-- What follows a reserved word and BY, or nothing if the word is not there. -/
def listBy {α : Type} (k : Keyword) (item : Parser α) : Parser (List α) := do
  if ← takeKeyword k then
    expectKeyword .BY
    items item
  else return []

def select : Parser Select := do
  expectKeyword .SELECT
  let columns ← projection
  if !(← takeKeyword .FROM) then
    fail (.missingClause "SELECT" "FROM")
  let table ← objectName
  let condition ← condition?
  let groupBy ← listBy .GROUP objectName
  let orderBy ← listBy .ORDER orderKey
  let limit ← if ← takeKeyword .LIMIT then some <$> limit else pure none
  return { columns, table, condition, groupBy, orderBy, limit }

/-- The columns that values are given for, if they are named. -/
def columnList? : Parser (Option (List String)) := do
  if ← takeSymbol .lparen then
    let names ← items identifier
    expectSymbol .rparen
    return some names
  else return none

def insert : Parser Insert := do
  expectKeyword .INSERT
  expectKeyword .INTO
  let table ← objectName
  let columns ← columnList?
  if !(← takeKeyword .VALUES) then
    fail (.missingClause "INSERT" "VALUES")
  let rows ← items (parenthesized (items literal))
  return { table, columns, rows }

def assignment : Parser Assignment := do
  let column ← objectName
  expectSymbol .eq
  return ⟨column, ← literal⟩

def update : Parser Update := do
  expectKeyword .UPDATE
  let table ← objectName
  if !(← takeKeyword .SET) then
    fail (.missingClause "UPDATE" "SET")
  let assignments ← items assignment
  return { table, assignments, condition := ← condition? }

def delete : Parser Delete := do
  expectKeyword .DELETE
  expectKeyword .FROM
  let table ← objectName
  return { table, condition := ← condition? }

/-! ## Statements on tables -/

/-- Whether IF NOT EXISTS is there. -/
def ifNotExists : Parser Bool := do
  if ← takeWord "IF" then
    expectKeyword .NOT
    expectWord "EXISTS"
    return true
  else return false

/-- Whether IF EXISTS is there. -/
def ifExists : Parser Bool := do
  if ← takeWord "IF" then
    expectWord "EXISTS"
    return true
  else return false

def optionValue : Parser String := do
  match ← get with
  | .identifier s :: rest | .quoted s :: rest | .number s :: rest =>
    set rest
    return s
  | _ => unexpected "an option value"

def isSemicolon (t : Token) : Bool :=
  t == .symbol .semicolon

/-- One option of a table. A token that starts no known one is passed over. -/
def tableOption (s : CreateTable) : Parser CreateTable := do
  if ← takeWord "ENGINE" then
    let _ ← takeSymbol .eq
    return { s with engine := some (← optionValue) }
  else if ← takeWord "CHARSET" then
    let _ ← takeSymbol .eq
    return { s with charset := some (← optionValue) }
  else if ← takeWord "CHARACTER" then
    expectKeyword .SET
    let _ ← takeSymbol .eq
    return { s with charset := some (← optionValue) }
  else
    advance
    return s

def createTable : Parser CreateTable := do
  expectKeyword .CREATE
  expectKeyword .TABLE
  let ifNotExists ← ifNotExists
  let table ← objectName
  if !(← takeSymbol .lparen) then
    fail (.missingBody table)
  let some (first, more, after) := cutBody 0 (← get)
    | fail (.unclosedBody table)
  set after
  let body ← liftM (TableBody.ofPieces table (first :: more))
  steps isSemicolon tableOption
    { table
      columns := body.columns
      constraints := body.constraints
      ifNotExists
      engine := none
      charset := none }

def dropTable : Parser Statement := do
  expectKeyword .DROP
  expectKeyword .TABLE
  let ifExists ← ifExists
  return .dropTable (← objectName) ifExists

/-- Only the table is read; the alteration itself is passed over. -/
def alterTable : Parser Statement := do
  expectWord "ALTER"
  expectKeyword .TABLE
  let table ← objectName
  set ([] : List Token)
  return .alterTable table

def truncateTable : Parser Statement := do
  expectWord "TRUNCATE"
  expectKeyword .TABLE
  return .truncateTable (← objectName)

/-- A column of an index. A length and a direction are accepted and ignored. -/
def indexColumn : Parser String := do
  let name ← identifier
  if ← takeSymbol .lparen then
    let _ ← typeSize
    expectSymbol .rparen
  let _ ← takeEither (takeKeyword .ASC) (takeKeyword .DESC)
  return name

def createIndex : Parser CreateIndex := do
  expectKeyword .CREATE
  let unique ← takeKeyword .UNIQUE
  expectWord "INDEX"
  let index ← identifier
  expectKeyword .ON
  let table ← objectName
  let columns ← parenthesized (items indexColumn)
  return { index, table, columns, unique }

def dropIndex : Parser Statement := do
  expectKeyword .DROP
  expectWord "INDEX"
  let index ← identifier
  let table ← if ← takeKeyword .ON then some <$> objectName else pure none
  return .dropIndex index table

/-! ## Statements on databases -/

def databaseWord : Parser Unit :=
  require "DATABASE or SCHEMA" (takeEither (takeKeyword .DATABASE) (takeKeyword .SCHEMA))

/-- Options after the name are accepted and ignored. -/
def createDatabase : Parser Statement := do
  expectKeyword .CREATE
  databaseWord
  let ifNotExists ← ifNotExists
  let name ← identifier
  modify (·.dropWhile fun t => !isSemicolon t)
  return .createDatabase name ifNotExists

def dropDatabase : Parser Statement := do
  expectKeyword .DROP
  databaseWord
  let ifExists ← ifExists
  return .dropDatabase (← identifier) ifExists

def showTables : Parser Statement := do
  expectWord "SHOW"
  expectWord "TABLES"
  return .showTables

def showDatabases : Parser Statement := do
  expectWord "SHOW"
  require "SCHEMAS" (takeEither (takeWord "DATABASES") (takeWord "SCHEMAS"))
  return .showDatabases

def describe : Parser Statement := do
  require "DESCRIBE" (takeEither (takeKeyword .DESC) (takeWord "DESCRIBE"))
  return .describe (← objectName)

def use : Parser Statement := do
  expectWord "USE"
  return .use (← identifier)

/-! ## Transactions -/

def begin : Parser Statement := do
  if ← takeWord "START" then expectWord "TRANSACTION"
  else
    expectWord "BEGIN"
    let _ ← takeEither (takeWord "TRANSACTION") (takeWord "WORK")
  return .begin

/-- COMMIT or ROLLBACK, with or without WORK. -/
def ending (word : String) (s : Statement) : Parser Statement := do
  expectWord word
  let _ ← takeWord "WORK"
  return s

/-! ## All statements -/

/-- A statement other than EXPLAIN. -/
def body : Kind → Parser Statement
  | .select => .select <$> select
  | .insert => .insert <$> insert
  | .update => .update <$> update
  | .delete => .delete <$> delete
  | .createTable => .createTable <$> createTable
  | .dropTable => dropTable
  | .alterTable => alterTable
  | .truncateTable => truncateTable
  | .createDatabase => createDatabase
  | .dropDatabase => dropDatabase
  | .createIndex => .createIndex <$> createIndex
  | .dropIndex => dropIndex
  | .showTables => showTables
  | .showDatabases => showDatabases
  | .describe => describe
  | .use => use
  | .explain => fail .nestedExplain
  | .begin => begin
  | .commit => ending "COMMIT" .commit
  | .rollback => ending "ROLLBACK" .rollback

/-- A statement up to the end of the tokens. -/
def closed (kind : Kind) (s : Parser Statement) : Parser Statement := do
  let s ← s
  let _ ← takeSymbol .semicolon
  if ← atEnd then return s
  else
    fail (.overlong (Sql.describe (← next)) kind.text)

/-- EXPLAIN and a statement of any other kind, which is told from its tokens. -/
def explain : Parser Statement := do
  expectWord "EXPLAIN"
  match classify (Token.join (← get)) with
  | .ok kind => .explain <$> closed kind (body kind)
  | .error .emptyStatement => fail .emptyExplain
  | .error e => throw e

def statement (kind : Kind) : Parser Statement :=
  closed kind (if kind == .explain then explain else body kind)

end PocketSql.Sql.Parser

namespace PocketSql.Sql

/-- The statement of a known kind that a text states. -/
def parse (sql : String) (kind : Kind) : Except Fault Statement := do
  (Parser.statement kind).run' (← lex sql)

end PocketSql.Sql
