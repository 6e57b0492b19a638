/-
  PocketSql.Schema.Catalog — all databases, and which one is selected.

  Databases are kept in the order of their creation, each under its name in lower case.
-/

import PocketSql.Schema.Database

namespace PocketSql

/-- Every database, and the selected one. -/
structure Catalog where
  /-- Databases by their names in lower case. -/
  entries : List (String × Database) := []
  /-- The database selected with USE. -/
  current : Option String := none
  deriving DecidableEq

namespace Catalog

/-- The key under which a database of this name is kept. -/
def key (name : String) : String :=
  Text.lower name

def databases (c : Catalog) : List Database :=
  c.entries.map (·.2)

def database? (c : Catalog) (name : String) : Option Database :=
  c.entries.lookup (key name)

def hasDatabase (c : Catalog) (name : String) : Bool :=
  (c.database? name).isSome

/-- A database that has to be there. -/
def requireDatabase (c : Catalog) (name : String) : Except Fault Database :=
  match c.database? name with
  | some db => .ok db
  | none => .error (.databaseNotFound name)

/-- The catalog with `db` kept under `k`, in the place of what was there before or else
    at the end. -/
def put (c : Catalog) (k : String) (db : Database) : Catalog :=
  if c.entries.any (·.1 == k) then
    { c with entries := c.entries.map fun e => if e.1 == k then (k, db) else e }
  else { c with entries := c.entries ++ [(k, db)] }

/-- The catalog with one more database. -/
def createDatabase (c : Catalog) (name : String) (now : Instant) : Except Fault Catalog :=
  if c.hasDatabase name then .error (.databaseAlreadyExists name)
  else .ok (c.put (key name) (.empty name now))

/-- The catalog without a database, and that database. Nothing is selected after that if
    the name is the selected one up to the case of ASCII letters. -/
def dropDatabase (c : Catalog) (name : String) : Except Fault (Catalog × Database) :=
  match c.database? name with
  | none => .error (.databaseNotFound name)
  | some db =>
    .ok ({ entries := c.entries.filter fun e => e.1 != key name
           current := c.current.filter fun s => !Text.sameName s name }, db)

/-- A database, which is created if it is not there. -/
def databaseOrCreate (c : Catalog) (name : String) (now : Instant) : Catalog × Database :=
  match c.database? name with
  | some db => (c, db)
  | none =>
    let db := Database.empty name now
    (c.put (key name) db, db)

/-- The catalog with a database changed. -/
def modifyDatabase (c : Catalog) (name : String) (change : Database → Database) : Catalog :=
  match c.database? name with
  | some db => c.put (key name) (change db)
  | none => c

/-- The catalog with a database selected. -/
def useDatabase (c : Catalog) (name : String) : Except Fault Catalog :=
  (c.requireDatabase name).map fun db => { c with current := some db.name }

end Catalog

end PocketSql
