/-
  PocketSql.Engine.Config — how an engine is set up.
-/

namespace PocketSql

/-- The choices that an engine is opened with. -/
structure Config where
  /-- How many entries the history keeps. -/
  historyCapacity : Nat := 100
  /-- How many characters of a statement a history entry keeps. -/
  historyQueryChars : Nat := 200
  /-- The database for callers that name none while none is selected. -/
  defaultDatabase : String := "default"
  databasesKey : String := "tabula.databases"
  currentDatabaseKey : String := "tabula.current_database"
  historyKey : String := "tabula.history"
  deriving DecidableEq

/-- The configuration with the three keys of its documents under another name. -/
def Config.withKeyPrefix (c : Config) (name : String) : Config :=
  { c with
    databasesKey := name ++ ".databases"
    currentDatabaseKey := name ++ ".current_database"
    historyKey := name ++ ".history" }

end PocketSql
