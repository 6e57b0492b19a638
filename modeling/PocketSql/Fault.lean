/-
  PocketSql.Fault — everything that can go wrong, by cause.

  A fault is told to users as a sentence (`message`) and to programs as a class
  (`code`). Several causes share a class. Names and numbers in a sentence stand as they
  were written in the statement.
-/

namespace PocketSql

/-! ## Statements of a wrong form -/

/-- What makes a statement unreadable once its tokens are known. -/
inductive SyntaxFault where
  /-- Something else stands where `wanted` should. -/
  | expected (wanted found : String)
  /-- A statement goes on where one of its kind ends. -/
  | overlong (found kind : String)
  | missingClause (statement clause : String)
  /-- AND or OR without a condition on one of its sides, or WHERE without any. -/
  | incompleteCondition
  | missingBody (table : String)
  | unclosedBody (table : String)
  | duplicateColumn (column table : String)
  /-- A number that does not fit its purpose. -/
  | invalidNumber (purpose text : String)
  | unknownType (type column : String)
  | missingPattern
  | invalidMember
  | invalidDefault
  | nestedExplain
  | emptyExplain
  deriving DecidableEq

/-- The cause in words, without the class in front. -/
def SyntaxFault.message : SyntaxFault → String
  | expected wanted found => "expected " ++ wanted ++ " but found " ++ found
  | overlong found kind => "unexpected '" ++ found ++ "' in " ++ kind ++ " statement"
  | missingClause statement clause => statement ++ " requires a " ++ clause ++ " clause"
  | incompleteCondition => "incomplete WHERE clause"
  | missingBody table => "expected column definitions for table '" ++ table ++ "'"
  | unclosedBody table => "unbalanced parentheses in definition of '" ++ table ++ "'"
  | duplicateColumn column table =>
    "duplicate column '" ++ column ++ "' in table '" ++ table ++ "'"
  | invalidNumber purpose text => "invalid " ++ purpose ++ " '" ++ text ++ "'"
  | unknownType type column =>
    "unknown data type '" ++ type ++ "' for column '" ++ column ++ "'"
  | missingPattern => "LIKE requires a pattern"
  | invalidMember => "invalid ENUM/SET member"
  | invalidDefault => "invalid DEFAULT value"
  | nestedExplain => "EXPLAIN cannot be nested"
  | emptyExplain => "EXPLAIN requires a statement"

/-! ## All faults -/

/-- Why a statement, a document or a store operation failed. -/
inductive Fault where
  /-- A character that starts no token, with its place in the text. -/
  | unexpectedCharacter (c : Char) (position : Nat)
  /-- A quote without its partner, with its place in the text. -/
  | unterminatedString (position : Nat)
  | emptyStatement
  /-- A statement whose first words are those of no kind. -/
  | unsupportedStatement
  | invalidSyntax (cause : SyntaxFault)
  | tableNotFound (table : String)
  | tableAlreadyExists (table : String)
  | databaseNotFound (database : String)
  | databaseAlreadyExists (database : String)
  | noDatabaseSelected
  /-- A table definition none of whose parts defines a column. -/
  | noColumnsParsed (table : String)
  | invalidColumn (column : String) (valid : String)
  | columnCountMismatch (columns values : Nat)
  | autoIncrementOverflow (table column : String)
  /-- A document that is not one, or not of the form that it should have. -/
  | damagedDocument
  /-- A table whose document has a row that does not fit its columns. -/
  | damagedRow (row : Nat) (table : String) (values columns : Nat)
  /-- The storage itself refused to read or write. -/
  | storage (detail : String)
  /-- A new row that does not fit the columns of its table. -/
  | unfitRow (table : String) (values columns : Nat)
  /-- A statement of a kind that is not run on the tables of a database. -/
  | outsideDatabase (kind : String)
  /-- A pattern of LIKE that could not be compiled. -/
  | refusedPattern (pattern reason : String)
  deriving DecidableEq

namespace Fault

/-- What a statement may start with. -/
def supportedStatements : String :=
  "SELECT, CREATE TABLE, INSERT INTO, UPDATE, DELETE FROM, "
    ++ "DROP TABLE, SHOW TABLES, DESCRIBE, ALTER TABLE, TRUNCATE TABLE, CREATE DATABASE, "
    ++ "DROP DATABASE, USE, SHOW DATABASES, EXPLAIN, CREATE INDEX, DROP INDEX, BEGIN, COMMIT, "
    ++ "ROLLBACK"

/-- The sentence for users. -/
def message : Fault → String
  | unexpectedCharacter c position =>
    "Syntax error: unexpected character '" ++ c.toString ++ "' at position " ++ toString position
  | unterminatedString position =>
    "Syntax error: unterminated string literal starting at position " ++ toString position
  | emptyStatement => "Empty statement"
  | unsupportedStatement =>
    "Unsupported statement type. Supported statements: " ++ supportedStatements
  | invalidSyntax cause => "Syntax error: " ++ cause.message
  | tableNotFound table => "Table '" ++ table ++ "' doesn't exist"
  | tableAlreadyExists table => "Table '" ++ table ++ "' already exists"
  | databaseNotFound database => "Database '" ++ database ++ "' doesn't exist"
  | databaseAlreadyExists database => "Database '" ++ database ++ "' already exists"
  | noDatabaseSelected => "No database selected"
  | noColumnsParsed table => "No valid column definitions found for table '" ++ table ++ "'"
  | invalidColumn column valid =>
    "Unknown column '" ++ column ++ "'. Valid columns: " ++ valid
  | columnCountMismatch columns values =>
    "Column count doesn't match value count: " ++ toString columns ++ " column(s), "
      ++ toString values ++ " value(s)"
  | autoIncrementOverflow table column =>
    "Auto-increment column '" ++ column ++ "' of table '" ++ table
      ++ "' has reached its maximum value"
  | damagedDocument => "Serialization error: damaged document"
  | damagedRow row table values columns =>
    "Serialization error: row " ++ toString row ++ " of table '" ++ table ++ "' has "
      ++ toString values ++ " value(s), expected " ++ toString columns
  | storage detail => "I/O error: " ++ detail
  | unfitRow table values columns =>
    "Internal execution error: row for '" ++ table ++ "' has " ++ toString values
      ++ " value(s) but the table has " ++ toString columns ++ " column(s)"
  | outsideDatabase kind =>
    "Internal execution error: " ++ kind ++ " cannot run inside a database"
  | refusedPattern pattern reason =>
    "Internal execution error: invalid LIKE pattern '" ++ pattern ++ "': " ++ reason

/-- The class for programs. -/
def code : Fault → String
  | unexpectedCharacter .. | unterminatedString _ | invalidSyntax _ => "INVALID_SYNTAX"
  | emptyStatement => "EMPTY_STATEMENT"
  | unsupportedStatement => "UNSUPPORTED_STATEMENT_TYPE"
  | tableNotFound _ => "TABLE_NOT_FOUND"
  | tableAlreadyExists _ => "TABLE_ALREADY_EXISTS"
  | databaseNotFound _ => "DATABASE_NOT_FOUND"
  | databaseAlreadyExists _ => "DATABASE_ALREADY_EXISTS"
  | noDatabaseSelected => "NO_DATABASE_SELECTED"
  | noColumnsParsed _ => "NO_COLUMNS_PARSED"
  | invalidColumn .. => "INVALID_COLUMN"
  | columnCountMismatch .. => "INVALID_SYNTAX"
  | autoIncrementOverflow .. => "AUTO_INCREMENT_OVERFLOW"
  | damagedDocument | damagedRow .. | storage _ => "SERIALIZATION_ERROR"
  | unfitRow .. | outsideDatabase _ | refusedPattern .. => "INTERNAL_EXECUTION_ERROR"

end Fault

end PocketSql
