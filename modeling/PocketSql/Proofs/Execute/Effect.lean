/-
  PocketSql.Proofs.Execute.Effect — all that one statement can do to a catalog.

  CREATE DATABASE adds the database that it names, DROP DATABASE takes it out, USE selects
  it. Every other statement leaves the catalog as it is or changes the tables of the one
  database that it runs in, which is added at the end where it was missing (`effect`).
  Nothing but tables changes in it (`header_run`).
-/

import PocketSql.Proofs.Execute.Frame

namespace PocketSql

/-! ## In a database -/

namespace Database

variable {db db' : Database} {now : Instant} {result : QueryResult}

/-- All of a database but its tables. -/
def header (db : Database) : Database :=
  { db with tables := [] }

theorem header_modifyTable (db : Database) (name : String) (change : Table → Table) :
    (db.modifyTable name change).header = db.header := by
  unfold modifyTable
  split <;> rfl

theorem header_settle {outcome : Except Fault (Database × QueryResult)}
    (h : ∀ db' result, outcome = .ok (db', result) → db'.header = db.header) :
    (db.settle outcome).1.header = db.header := by
  cases outcome with
  | error f => rfl
  | ok r => exact h r.1 r.2 rfl

theorem header_createTable {s : CreateTable} (h : db.createTable s = .ok (db', result)) : db'.header = db.header := by
  unfold createTable at h
  split at h
  · split at h
    · cases h
      rfl
    · cases h
  · obtain ⟨db'', hadd, h⟩ := bind_eq_ok.mp h
    unfold addTable at hadd
    split at hadd
    · cases hadd
    · cases hadd
      cases h
      rfl

theorem header_removeTable {table : String} {ifExists : Bool}
    (h : db.removeTable table ifExists = .ok (db', result)) : db'.header = db.header := by
  unfold removeTable at h
  split at h
  · cases h
    rfl
  · obtain ⟨⟨db'', t⟩, hdrop, h⟩ := bind_eq_ok.mp h
    unfold dropTable at hdrop
    split at hdrop
    · split at hdrop
      · cases hdrop
        cases h
        rfl
      · cases hdrop
    · cases hdrop

theorem header_dropIndex {index : String} {table : Option String}
    (h : db.dropIndex index table = .ok (db', result)) : db'.header = db.header := by
  have hfold : ∀ (names : List String) (db : Database), (names.foldl
      (fun db name => db.modifyTable name fun t =>
        { t with indexes := t.indexes.filter fun i => !Text.sameName i index }) db).header = db.header := by
    intro names
    induction names with
    | nil => intro db; rfl
    | cons name names ih => intro db; rw [List.foldl_cons, ih, header_modifyTable]
  unfold dropIndex at h
  cases table with
  | none =>
    cases h
    exact hfold _ db
  | some name =>
    obtain ⟨t, -, h⟩ := bind_eq_ok.mp h
    cases h
    exact hfold _ db

/-- A statement changes nothing in its database but tables, whether it succeeds or fails. -/
theorem header_run [RegexCompiler] (db : Database) (now : Instant) (s : Statement) :
    (db.run now s).1.header = db.header := by
  cases s with
  | insert s =>
    show (db.insertInto now s).1.header = db.header
    unfold insertInto
    split
    · rfl
    · exact header_modifyTable _ _ _
  | update s =>
    apply header_settle
    intro db' result h
    obtain ⟨t, -, h⟩ := bind_eq_ok.mp h
    obtain ⟨r, -, h⟩ := bind_eq_ok.mp h
    cases h
    exact header_modifyTable _ _ _
  | delete s =>
    apply header_settle
    intro db' result h
    obtain ⟨t, -, h⟩ := bind_eq_ok.mp h
    obtain ⟨r, -, h⟩ := bind_eq_ok.mp h
    cases h
    exact header_modifyTable _ _ _
  | truncateTable table =>
    apply header_settle
    intro db' result h
    obtain ⟨t, -, h⟩ := bind_eq_ok.mp h
    cases h
    exact header_modifyTable _ _ _
  | createIndex s =>
    apply header_settle
    intro db' result h
    obtain ⟨t, -, h⟩ := bind_eq_ok.mp h
    obtain ⟨-, -, h⟩ := bind_eq_ok.mp h
    cases h
    exact header_modifyTable _ _ _
  | createTable s => exact header_settle fun _ _ => header_createTable
  | dropTable table ifExists => exact header_settle fun _ _ => header_removeTable
  | dropIndex index table => exact header_settle fun _ _ => header_dropIndex
  | _ => rfl

theorem version_of_header (h : db'.header = db.header) : db'.version = db.version :=
  show db'.header.version = db.header.version from congrArg version h

end Database

/-! ## In a catalog -/

namespace Catalog

variable {c c' : Catalog} {now : Instant} {database : String} {s : Statement}

theorem not_mem_of_hasDatabase {name : String} (h : c.hasDatabase name = false) :
    key name ∉ c.entries.map (·.1) :=
  not_mem_of_database? (by simpa [hasDatabase] using h)

variable [RegexCompiler]

theorem run_createDatabase (c : Catalog) (now : Instant) (database name : String) (ifNotExists : Bool) :
    (c.run now database (.createDatabase name ifNotExists)).1 =
      if c.hasDatabase name then c else { c with entries := c.entries ++ [(key name, .empty name now)] } := by
  show (c.settle (c.addDatabase now name ifNotExists)).1 = _
  unfold addDatabase
  by_cases h : c.hasDatabase name = true
  · cases ifNotExists <;> simp [h, createDatabase, settle]
  · have hk := not_mem_of_hasDatabase (by simpa using h : c.hasDatabase name = false)
    simp [h, createDatabase, settle, put_of_not_mem hk]

theorem run_dropDatabase (c : Catalog) (now : Instant) (database name : String) (ifExists : Bool) :
    (c.run now database (.dropDatabase name ifExists)).1 =
      if c.hasDatabase name then
        { entries := c.entries.filter fun e => e.1 != key name
          current := c.current.filter fun s => !Text.sameName s name }
      else c := by
  show (c.settle (c.removeDatabase name ifExists)).1 = _
  unfold removeDatabase
  cases h : c.database? name with
  | none => cases ifExists <;> simp [hasDatabase, h, dropDatabase, settle]
  | some db => simp [hasDatabase, h, dropDatabase, settle]

theorem run_useDatabase (c : Catalog) (now : Instant) (database name : String) :
    (c.run now database (.use name)).1 =
      match c.database? name with
      | some db => { c with current := some db.name }
      | none => c := by
  show (c.settle (c.switchTo name)).1 = _
  unfold switchTo useDatabase requireDatabase
  cases c.database? name <;> rfl

/-- The catalogs that a statement can leave, each with what has to be so before it. -/
inductive Effect (c : Catalog) (now : Instant) (database : String) : Statement → Catalog → Prop
  | created {name : String} {ifNotExists : Bool} : c.hasDatabase name = false →
      Effect c now database (.createDatabase name ifNotExists)
        { c with entries := c.entries ++ [(key name, .empty name now)] }
  | dropped {name : String} {ifExists : Bool} : c.hasDatabase name = true →
      Effect c now database (.dropDatabase name ifExists)
        { entries := c.entries.filter fun e => e.1 != key name
          current := c.current.filter fun s => !Text.sameName s name }
  | selected {name : String} {db : Database} : c.database? name = some db →
      Effect c now database (.use name) { c with current := some db.name }
  /-- The database that a statement runs in was there. -/
  | changed {s : Statement} {db : Database} : s.kind ≠ .createDatabase → s.kind ≠ .dropDatabase →
      c.database? database = some db → Effect c now database s (c.put (key database) (db.run now s).1)
  /-- It was not, and the statement ran in a new one. -/
  | founded {s : Statement} : s.kind ≠ .createDatabase → s.kind ≠ .dropDatabase →
      c.database? database = none →
      Effect c now database s
        { c with entries := c.entries ++ [(key database, ((Database.empty database now).run now s).1)] }
  /-- Nothing, as when a statement only tells of databases, names none, or finds the one
      there that it would create, or the one missing that it would drop or select. -/
  | idle {s : Statement} : (∀ name b, s = .createDatabase name b → c.hasDatabase name = true) →
      (∀ name b, s = .dropDatabase name b → c.hasDatabase name = false) → Effect c now database s c

theorem effect_runIn (hcreate : s.kind ≠ .createDatabase) (hdrop : s.kind ≠ .dropDatabase) :
    c.Effect now database s (c.runIn now database s).1 := by
  cases h : c.database? database with
  | some db =>
    rw [runIn_of_some h]
    exact .changed hcreate hdrop h
  | none =>
    rw [runIn_of_none h]
    exact .founded hcreate hdrop h

theorem effect_idle (hcreate : s.kind ≠ .createDatabase) (hdrop : s.kind ≠ .dropDatabase) :
    c.Effect now database s c := by
  apply Effect.idle
  · intro name b hs
    exact absurd (congrArg Statement.kind hs) hcreate
  · intro name b hs
    exact absurd (congrArg Statement.kind hs) hdrop

/-- Every statement does one of these things. -/
theorem effect (c : Catalog) (now : Instant) (database : String) (s : Statement) :
    c.Effect now database s (c.run now database s).1 := by
  have hin : s.kind ≠ .createDatabase → s.kind ≠ .dropDatabase →
      c.Effect now database s ((if (Text.trim database).isEmpty then (c, .error .noDatabaseSelected)
        else c.runIn now database s) : Catalog × Except Fault QueryResult).1 := by
    intro hcreate hdrop
    split
    · exact effect_idle hcreate hdrop
    · exact effect_runIn hcreate hdrop
  cases s with
  | createDatabase name ifNotExists =>
    rw [run_createDatabase]
    split
    · rename_i h
      refine .idle (fun n b hs => ?_) (fun n b hs => by cases hs)
      cases hs
      exact h
    · rename_i h
      exact .created (by simpa using h)
  | dropDatabase name ifExists =>
    rw [run_dropDatabase]
    split
    · rename_i h
      exact .dropped h
    · rename_i h
      refine .idle (fun n b hs => by cases hs) (fun n b hs => ?_)
      cases hs
      simpa using h
  | «use» name =>
    rw [run_useDatabase]
    split
    · rename_i db h
      exact .selected h
    · exact effect_idle (by simp [Statement.kind]) (by simp [Statement.kind])
  | showDatabases | begin | commit | rollback =>
    exact effect_idle (by simp [Statement.kind]) (by simp [Statement.kind])
  | _ => exact hin (by simp [Statement.kind]) (by simp [Statement.kind])

/-- A database of a changed catalog was there before, with the same name, version and times,
    or is new under its key, in its first version. -/
theorem Effect.mem_entries (h : c.Effect now database s c') {e : String × Database} (he : e ∈ c'.entries) :
    (∃ db, (e.1, db) ∈ c.entries ∧ e.2.header = db.header) ∨ (e.1 ∉ c.entries.map (·.1) ∧ e.2.version = 1) := by
  have hold : e ∈ c.entries → (∃ db, (e.1, db) ∈ c.entries ∧ e.2.header = db.header) ∨
      (e.1 ∉ c.entries.map (·.1) ∧ e.2.version = 1) := fun he => .inl ⟨e.2, he, rfl⟩
  cases h with
  | created hn =>
    rcases List.mem_append.mp he with he | he
    · exact hold he
    · obtain rfl := List.mem_singleton.mp he
      right
      exact ⟨not_mem_of_hasDatabase hn, rfl⟩
  | dropped => exact hold (List.mem_filter.mp he).1
  | selected => exact hold he
  | changed _ _ hdb =>
    rcases mem_put he with he | rfl
    · exact hold he
    · exact .inl ⟨_, mem_of_database? hdb, Database.header_run _ now s⟩
  | founded _ _ hdb =>
    rcases List.mem_append.mp he with he | he
    · exact hold he
    · obtain rfl := List.mem_singleton.mp he
      right
      exact ⟨not_mem_of_database? hdb, Database.version_of_header (Database.header_run _ now s)⟩
  | idle => exact hold he

/-- Where no database is dropped, every one is still there, with the same name, version and
    times. -/
theorem Effect.database?_of_some (h : c.Effect now database s c') (hdrop : s.kind ≠ .dropDatabase) {name : String}
    {db : Database} (hdb : c.database? name = some db) :
    ∃ db', c'.database? name = some db' ∧ db'.header = db.header := by
  have hadded : ∀ e, ({ c with entries := c.entries ++ [e] } : Catalog).database? name = some db := by
    intro e
    rw [database?, List.lookup_append, show c.entries.lookup (key name) = some db from hdb]
    rfl
  cases h with
  | created | founded => exact ⟨db, hadded _, rfl⟩
  | dropped => exact absurd rfl hdrop
  | @changed _ db₀ _ _ hsome =>
    rw [database?_put_eq]
    split
    · rename_i hkey
      have hsame : c.database? name = some db₀ := by
        rw [database?, hkey]
        exact hsome
      obtain rfl := Option.some.inj (hsame.symm.trans hdb)
      exact ⟨_, rfl, Database.header_run _ now s⟩
    · exact ⟨db, hdb, rfl⟩
  | selected | idle => exact ⟨db, hdb, rfl⟩

/-- The keys of databases stay different. -/
theorem Effect.nodup (h : c.Effect now database s c') (hn : (c.entries.map (·.1)).Nodup) :
    (c'.entries.map (·.1)).Nodup := by
  cases h with
  | created hdb =>
    rw [← put_of_not_mem (not_mem_of_hasDatabase hdb)]
    exact nodup_put hn _ _
  | dropped => exact hn.sublist (List.filter_sublist.map _)
  | selected => exact hn
  | changed => exact nodup_put hn _ _
  | founded _ _ hdb =>
    rw [← put_of_not_mem (not_mem_of_database? hdb)]
    exact nodup_put hn _ _
  | idle => exact hn

end Catalog

end PocketSql
