/-
  PocketSql.Schema.Database — named collections of tables.

  Tables are found by name up to the case of ASCII letters, the first of several. The
  version counts the statements that changed the database.
-/

import PocketSql.Schema.Table

namespace PocketSql

/-- Tables under one name. -/
structure Database where
  name : String
  tables : List Table := []
  createdAt : Instant
  lastModified : Instant
  version : Nat := 1
  description : Option String := none
  deriving DecidableEq

namespace Database

/-- A database without tables. -/
def empty (name : String) (now : Instant) : Database :=
  { name, createdAt := now, lastModified := now }

def tableIndex? (db : Database) (name : String) : Option Nat :=
  db.tables.findIdx? fun t => Text.sameName t.name name

def table? (db : Database) (name : String) : Option Table :=
  db.tables.find? fun t => Text.sameName t.name name

def hasTable (db : Database) (name : String) : Bool :=
  (db.table? name).isSome

/-- A table that has to be there. -/
def requireTable (db : Database) (name : String) : Except Fault Table :=
  match db.table? name with
  | some t => .ok t
  | none => .error (.tableNotFound name)

/-- The database with the first table of a name changed. -/
def modifyTable (db : Database) (name : String) (change : Table → Table) : Database :=
  match db.tableIndex? name with
  | some i => { db with tables := db.tables.modify i change }
  | none => db

/-- The database with one more table. -/
def addTable (db : Database) (t : Table) : Except Fault Database :=
  if db.hasTable t.name then .error (.tableAlreadyExists t.name)
  else .ok { db with tables := db.tables ++ [t] }

/-- The database without a table, and that table. -/
def dropTable (db : Database) (name : String) : Except Fault (Database × Table) :=
  match db.tableIndex? name with
  | some i =>
    match db.tables[i]? with
    | some t => .ok ({ db with tables := db.tables.eraseIdx i }, t)
    | none => .error (.tableNotFound name)
  | none => .error (.tableNotFound name)

/-- The database after a change to it. -/
def touch (db : Database) (now : Instant) : Database :=
  { db with lastModified := now, version := db.version + 1 }

/-- Refuses a database with a row that does not fit its table. -/
def validate (db : Database) : Except Fault Unit :=
  db.tables.forM Table.validate

end Database

end PocketSql
