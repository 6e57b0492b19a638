/-
  PocketSql.Schema.Column — column definitions and table constraints.
-/

import PocketSql.Value.Coerce

namespace PocketSql

/-- The default of a column. -/
inductive ColumnDefault where
  | null
  /-- The time at which a row is written. -/
  | currentTimestamp
  /-- A literal without its quotes, read by the column's type whenever it is used. -/
  | literal (raw : String)
  deriving DecidableEq

/-- The table, and maybe the column, that a column refers to. -/
structure Reference where
  table : String
  column : Option String
  deriving DecidableEq

/-- A column as it was declared. -/
structure Column where
  name : String
  type : ColumnType
  /-- Declared length or precision, such as the 100 of `VARCHAR(100)`. -/
  length : Option Nat := none
  /-- Declared scale, such as the 2 of `DECIMAL(10,2)`. -/
  scale : Option Nat := none
  nullable : Bool := true
  primaryKey : Bool := false
  autoIncrement : Bool := false
  unique : Bool := false
  default : Option ColumnDefault := none
  references : Option Reference := none
  /-- Members of an ENUM or SET type. -/
  members : List String := []
  deriving DecidableEq

namespace Column

/-- Whether inserting a row makes up this column's value. -/
def isIdentity (c : Column) : Bool :=
  c.autoIncrement && c.primaryKey

/-- The value of the declared default, if one is declared. -/
def defaultValue? (now : Instant) (c : Column) : Option Value :=
  c.default.map fun
    | .null => .null
    | .currentTimestamp => .currentTimestamp now
    | .literal raw => .coerce raw c.type

/-- The type as a definition would write it, such as `VARCHAR(50)`. -/
def typeLabel (c : Column) : String :=
  if c.members.isEmpty then
    match c.length, c.scale with
    | some length, some scale =>
      c.type.name ++ "(" ++ toString length ++ "," ++ toString scale ++ ")"
    | some length, none => c.type.name ++ "(" ++ toString length ++ ")"
    | none, _ => c.type.name
  else
    c.type.name ++ "(" ++ ",".intercalate (c.members.map fun m => "'" ++ m ++ "'") ++ ")"

end Column

/-- What a constraint is about. -/
inductive ConstraintKind where
  | primaryKey | foreignKey | uniqueKey | check | index
  deriving DecidableEq

namespace ConstraintKind

def all : List ConstraintKind := [primaryKey, foreignKey, uniqueKey, check, index]

def name : ConstraintKind → String
  | primaryKey => "PRIMARY_KEY"
  | foreignKey => "FOREIGN_KEY"
  | uniqueKey => "UNIQUE_KEY"
  | check => "CHECK"
  | index => "INDEX"

def ofName? (s : String) : Option ConstraintKind :=
  all.find? fun k => k.name == s

end ConstraintKind

/-- A constraint on a table: kept as it was written, and never enforced. -/
structure Constraint where
  kind : ConstraintKind
  definition : String
  deriving DecidableEq

end PocketSql
