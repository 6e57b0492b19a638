/-
  PocketSql.Schema.ColumnType — the types a column can be declared with.
-/

import PocketSql.Text.Case

namespace PocketSql

/-- How the literals of a column are read. -/
inductive ColumnType where
  | int | bigInt
  | varchar | text | longText
  | date | dateTime | timestamp | time | year
  | decimal | float | double
  | boolean | blob | json
  | enum | set
  deriving DecidableEq

namespace ColumnType

def all : List ColumnType :=
  [int, bigInt, varchar, text, longText, date, dateTime, timestamp, time, year, decimal, float,
    double, boolean, blob, json, enum, set]

/-- The name that stands for the type in descriptions and stored documents. -/
def name : ColumnType → String
  | int => "INT"
  | bigInt => "BIGINT"
  | varchar => "VARCHAR"
  | text => "TEXT"
  | longText => "LONGTEXT"
  | date => "DATE"
  | dateTime => "DATETIME"
  | timestamp => "TIMESTAMP"
  | time => "TIME"
  | year => "YEAR"
  | decimal => "DECIMAL"
  | float => "FLOAT"
  | double => "DOUBLE"
  | boolean => "BOOLEAN"
  | blob => "BLOB"
  | json => "JSON"
  | enum => "ENUM"
  | set => "SET"

/-- The type of this very name. -/
def ofExactName? (s : String) : Option ColumnType :=
  all.find? fun t => t.name == s

/-- Other names of types. -/
def aliases : List (String × ColumnType) :=
  [("INTEGER", int), ("SMALLINT", int), ("TINYINT", int), ("MEDIUMINT", int),
   ("CHAR", varchar), ("NVARCHAR", varchar), ("NCHAR", varchar),
   ("TINYTEXT", text), ("MEDIUMTEXT", text),
   ("NUMERIC", decimal), ("DEC", decimal), ("REAL", float), ("BOOL", boolean),
   ("TINYBLOB", blob), ("MEDIUMBLOB", blob), ("LONGBLOB", blob), ("BINARY", blob),
   ("VARBINARY", blob)]

/-- The type that a definition names, in any case and under any of its names. -/
def ofName? (s : String) : Option ColumnType :=
  let upper := Text.upper s
  match ofExactName? upper with
  | some t => some t
  | none => aliases.lookup upper

def isInteger : ColumnType → Bool
  | int | bigInt => true
  | _ => false

def isFractional : ColumnType → Bool
  | decimal | float | double => true
  | _ => false

def isNumeric (t : ColumnType) : Bool :=
  t.isInteger || t.isFractional

def isTemporal : ColumnType → Bool
  | date | dateTime | timestamp | time => true
  | _ => false

/-- Whether a definition lists the type's members. -/
def hasMembers : ColumnType → Bool
  | enum | set => true
  | _ => false

end ColumnType

end PocketSql
