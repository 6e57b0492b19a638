/-
  PocketSql.Statement — what statements say.
-/

import PocketSql.Schema.Column
import PocketSql.Sql.Kind

namespace PocketSql

/-- A literal as written among values or in a condition. -/
inductive Literal where
  | null
  | default
  /-- CURRENT_TIMESTAMP or NOW(). -/
  | currentTimestamp
  /-- A string without its quotes. -/
  | quoted (s : String)
  /-- A number as written. -/
  | number (s : String)
  /-- Any other word, such as TRUE. -/
  | word (s : String)
  deriving DecidableEq

namespace Literal

/-- The text of the literal, for those that have one. -/
def raw? : Literal → Option String
  | quoted s | number s | word s => some s
  | null | default | currentTimestamp => none

/-- The value that a condition compares with. -/
def toValue (now : Instant) : Literal → Value
  | null | default => .null
  | currentTimestamp => .currentTimestamp now
  | quoted s | number s | word s => .text s

end Literal

/-! ## Conditions -/

/-- Operators between a column and a literal. -/
inductive Comparison where
  | eq | neq | lt | gt | lte | gte
  deriving DecidableEq

/-- What a condition may state of one column. -/
inductive Predicate where
  | compare (column : String) (op : Comparison) (value : Literal)
  | inList (column : String) (values : List Literal) (negated : Bool)
  | like (column : String) (pattern : String) (negated : Bool)
  | isNull (column : String) (negated : Bool)
  /-- Text of no known form, which holds of every row. -/
  | unrecognized (text : String)
  deriving DecidableEq

/-- How predicates are joined. -/
inductive Connective where
  | and | or
  deriving DecidableEq

/-- Predicates joined by AND and OR, which bind equally and from the left:
    `a OR b AND c` means `(a OR b) AND c`. -/
structure Condition where
  first : Predicate
  rest : List (Connective × Predicate)
  deriving DecidableEq

/-! ## Statements on rows -/

/-- The columns that a query asks for. -/
inductive Projection where
  | all
  | columns (names : List String)
  deriving DecidableEq

/-- A column to sort by, and whether small values come first. -/
structure OrderKey where
  column : String
  ascending : Bool
  deriving DecidableEq

/-- How many rows of a result are passed over, and how many are kept after that. -/
structure Limit where
  offset : Nat
  count : Nat
  deriving DecidableEq

/-- A query on one table. -/
structure Select where
  columns : Projection
  table : String
  condition : Option Condition
  groupBy : List String
  orderBy : List OrderKey
  limit : Option Limit
  deriving DecidableEq

/-- Rows of literals for a table. -/
structure Insert where
  table : String
  /-- The columns that values are given for; all of them where none are named. -/
  columns : Option (List String)
  rows : List (List Literal)
  deriving DecidableEq

/-- A new value for a column. -/
structure Assignment where
  column : String
  value : Literal
  deriving DecidableEq

/-- New values for columns of some rows. -/
structure Update where
  table : String
  assignments : List Assignment
  condition : Option Condition
  deriving DecidableEq

/-- The removal of some rows. -/
structure Delete where
  table : String
  condition : Option Condition
  deriving DecidableEq

/-! ## Statements on tables and databases -/

/-- The definition of a table. -/
structure CreateTable where
  table : String
  columns : List Column
  constraints : List Constraint
  ifNotExists : Bool
  engine : Option String
  charset : Option String
  deriving DecidableEq

/-- The definition of an index. -/
structure CreateIndex where
  index : String
  table : String
  columns : List String
  unique : Bool
  deriving DecidableEq

/-- One statement of any kind. -/
inductive Statement where
  | select (s : Select)
  | insert (s : Insert)
  | update (s : Update)
  | delete (s : Delete)
  | createTable (s : CreateTable)
  | dropTable (table : String) (ifExists : Bool)
  | alterTable (table : String)
  | truncateTable (table : String)
  | createDatabase (name : String) (ifNotExists : Bool)
  | dropDatabase (name : String) (ifExists : Bool)
  | createIndex (s : CreateIndex)
  | dropIndex (index : String) (table : Option String)
  | showTables
  | showDatabases
  | describe (table : String)
  | use (database : String)
  | explain (s : Statement)
  | begin
  | commit
  | rollback
  deriving DecidableEq

namespace Statement

/-- The kind that the statement is of. -/
def kind : Statement → Sql.Kind
  | select _ => .select
  | insert _ => .insert
  | update _ => .update
  | delete _ => .delete
  | createTable _ => .createTable
  | dropTable .. => .dropTable
  | alterTable _ => .alterTable
  | truncateTable _ => .truncateTable
  | createDatabase .. => .createDatabase
  | dropDatabase .. => .dropDatabase
  | createIndex _ => .createIndex
  | dropIndex .. => .dropIndex
  | showTables => .showTables
  | showDatabases => .showDatabases
  | describe _ => .describe
  | use _ => .use
  | explain _ => .explain
  | begin => .begin
  | commit => .commit
  | rollback => .rollback

/-- The table that the statement is about, if any. -/
def table? : Statement → Option String
  | select s => some s.table
  | insert s => some s.table
  | update s => some s.table
  | delete s => some s.table
  | createTable s => some s.table
  | createIndex s => some s.table
  | dropTable table _ | alterTable table | truncateTable table | describe table => some table
  | dropIndex _ table => table
  | createDatabase .. | dropDatabase .. | showTables | showDatabases | use _ | explain _
  | begin | commit | rollback => none

end Statement

end PocketSql
