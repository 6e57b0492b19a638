/-
  PocketSql.Proofs.Execute.Confined — a statement stays within the database it runs in.

  CREATE DATABASE and DROP DATABASE add and take out the database that they name and no
  other. Every other statement leaves alone all databases but the one it runs in, which it
  may add at the end, and a statement of a kind that changes nothing leaves that one alone
  as well. Only USE and DROP DATABASE change which database is selected, and only where
  they succeed (`run_confined`).
-/

import PocketSql.Proofs.Execute.Arising

namespace PocketSql.Catalog

variable {c : Catalog} {now : Instant} {database : String} {s : Statement}

/-- What a statement may do to the databases; `ran` are the catalog that it leaves and its
    outcome, be it a success or a failure. -/
structure Confined (c : Catalog) (now : Instant) (database : String) (s : Statement)
    (ran : Catalog × Except Fault QueryResult) : Prop where
  /-- A new database stands at the end, unless there was one of its name. -/
  created : ∀ name ifNotExists, s = .createDatabase name ifNotExists →
    ran.1.entries = if c.hasDatabase name then c.entries else c.entries ++ [(key name, .empty name now)]
  /-- A dropped database is all that is missing. -/
  dropped : ∀ name ifExists, s = .dropDatabase name ifExists →
    ran.1.entries = c.entries.filter fun e => e.1 != key name
  /-- Databases that the statement does not run in are the same, in the same order. -/
  others : s.kind ≠ .createDatabase → s.kind ≠ .dropDatabase →
    (ran.1.entries.filter fun e => e.1 != key database) = c.entries.filter fun e => e.1 != key database
  /-- The database that it runs in keeps its place. -/
  places : s.kind ≠ .createDatabase → s.kind ≠ .dropDatabase → c.hasDatabase database = true →
    ran.1.entries.map (·.1) = c.entries.map (·.1)
  /-- If that was not there, it may stand at the end. -/
  added : s.kind ≠ .createDatabase → s.kind ≠ .dropDatabase → c.hasDatabase database = false →
    ran.1.entries = c.entries ∨
      ∃ db, db.name = database ∧ ran.1.entries = c.entries ++ [(key database, db)]
  /-- Another database is selected only by a USE or a DROP DATABASE that succeeds. -/
  current : ran.1.current ≠ c.current →
    (s.kind = .use ∨ s.kind = .dropDatabase) ∧ ∃ result, ran.2 = .ok result
  /-- What a statement only reads stays as it is. -/
  reads : s.kind.isMutation = false → c.hasDatabase database = true → ran.1.entries = c.entries

theorem filter_put (c : Catalog) (k : String) (db : Database) :
    ((c.put k db).entries.filter fun e => e.1 != k) = c.entries.filter fun e => e.1 != k := by
  by_cases hk : k ∈ c.entries.map (·.1)
  · rw [put_of_mem hk]
    dsimp only
    clear hk
    induction c.entries with
    | nil => rfl
    | cons e entries ih =>
      rw [List.map_cons]
      by_cases he : e.1 = k
      · simpa [he] using ih
      · simpa [he] using ih
  · rw [put_of_not_mem hk, List.filter_append]
    simp

theorem filter_of_not_hasDatabase {name : String} (h : c.hasDatabase name = false) :
    (c.entries.filter fun e => e.1 != key name) = c.entries := by
  apply List.filter_eq_self.mpr
  intro e he
  rw [bne_iff_ne]
  intro hk
  exact not_mem_of_hasDatabase h (hk ▸ List.mem_map_of_mem he)

theorem entries_dropDatabase [RegexCompiler] (c : Catalog) (now : Instant) (database name : String) (ifExists : Bool) :
    (c.run now database (.dropDatabase name ifExists)).1.entries = c.entries.filter fun e => e.1 != key name := by
  rw [run_dropDatabase]
  split
  · rfl
  · rename_i h
    exact (filter_of_not_hasDatabase (by simpa using h)).symm

namespace Effect

variable [RegexCompiler] {c' : Catalog}

theorem filter_entries (h : c.Effect now database s c') (hcreate : s.kind ≠ .createDatabase)
    (hdrop : s.kind ≠ .dropDatabase) :
    (c'.entries.filter fun e => e.1 != key database) = c.entries.filter fun e => e.1 != key database := by
  cases h with
  | created => exact absurd rfl hcreate
  | dropped => exact absurd rfl hdrop
  | changed => exact filter_put _ _ _
  | founded => simp [List.filter_append]
  | selected | idle => rfl

theorem keys_of_hasDatabase (h : c.Effect now database s c') (hcreate : s.kind ≠ .createDatabase)
    (hdrop : s.kind ≠ .dropDatabase) (hdb : c.hasDatabase database = true) :
    c'.entries.map (·.1) = c.entries.map (·.1) := by
  cases h with
  | created => exact absurd rfl hcreate
  | dropped => exact absurd rfl hdrop
  | changed _ _ hsome =>
    have hmem : key database ∈ c.entries.map (·.1) := List.mem_map_of_mem (mem_of_database? hsome)
    rw [keys_put, if_pos hmem]
  | founded _ _ hnone => simp [hasDatabase, hnone] at hdb
  | selected | idle => rfl

theorem entries_of_not_hasDatabase (h : c.Effect now database s c') (hcreate : s.kind ≠ .createDatabase)
    (hdrop : s.kind ≠ .dropDatabase) (hdb : c.hasDatabase database = false) :
    c'.entries = c.entries ∨ ∃ db, db.name = database ∧ c'.entries = c.entries ++ [(key database, db)] := by
  cases h with
  | created => exact absurd rfl hcreate
  | dropped => exact absurd rfl hdrop
  | changed _ _ hsome => simp [hasDatabase, hsome] at hdb
  | founded =>
    right
    have hheader := Database.header_run (.empty database now) now s
    have hname : ((Database.empty database now).run now s).1.name = database := congrArg Database.name hheader
    exact ⟨_, hname, rfl⟩
  | selected | idle => exact .inl rfl

theorem kind_of_current (h : c.Effect now database s c') (hne : c'.current ≠ c.current) :
    s.kind = .use ∨ s.kind = .dropDatabase := by
  cases h with
  | dropped => exact .inr rfl
  | selected => exact .inl rfl
  | changed => exact absurd (current_put _ _ _) hne
  | created | founded | idle => exact absurd rfl hne

theorem entries_of_reads (h : c.Effect now database s c') (hn : (c.entries.map (·.1)).Nodup)
    (hs : s.kind.isMutation = false) (hdb : c.hasDatabase database = true) : c'.entries = c.entries := by
  cases h with
  | created => cases hs
  | dropped => cases hs
  | changed _ _ hsome => rw [Database.run_of_reads hs, put_self hn hsome]
  | founded _ _ hnone => simp [hasDatabase, hnone] at hdb
  | selected | idle => rfl

end Effect

/-- Whatever catalog it meets, a statement stays within its database. -/
theorem run_confined [RegexCompiler] {clock : Instant → Prop} (h : c.Arises clock) (now : Instant) (database : String)
    (s : Statement) : c.Confined now database s (c.run now database s) := by
  have heffect := effect c now database s
  refine ⟨?_, ?_, heffect.filter_entries, heffect.keys_of_hasDatabase, heffect.entries_of_not_hasDatabase,
    fun hne => ⟨heffect.kind_of_current hne, ?_⟩, heffect.entries_of_reads h.sound.keys⟩
  · intro name ifNotExists hs
    rw [hs, run_createDatabase]
    split <;> rfl
  · intro name ifExists hs
    rw [hs]
    exact entries_dropDatabase c now database name ifExists
  · cases hr : (c.run now database s).2 with
    | error f => exact absurd (current_of_error hr) hne
    | ok result => exact ⟨result, rfl⟩

/-- With "a" and "B" there and "B" selected, dropping "b" from within "a" leaves "a". -/
theorem run_confined_drop :
    let founded := ((Catalog.run {} ⟨0, 0⟩ "a" .showTables).1.run ⟨1, 0⟩ "B" .showTables).1
    let c := (founded.run ⟨2, 0⟩ "a" (.use "b")).1
    let ran := c.run ⟨3, 0⟩ "a" (.dropDatabase "b" false)
    c.entries.map (·.1) = ["a", "b"] ∧ c.current = some "B" ∧ ran.1.entries.map (·.1) = ["a"] ∧
      ran.1.current = none ∧ c.Confined ⟨3, 0⟩ "a" (.dropDatabase "b" false) ran := by
  intro founded c ran
  have hshow : Statement.showTables.Written := ⟨"SHOW TABLES", .showTables, by decide +kernel⟩
  have huse : (Statement.use "b").Written := ⟨"USE b", .use, by decide +kernel⟩
  have hc : c.Arises fun _ => True :=
    .run _ (.run _ (.run _ .empty trivial hshow) trivial hshow) trivial huse
  exact ⟨by decide +kernel, by decide +kernel, by decide +kernel, by decide +kernel, run_confined hc _ _ _⟩

end PocketSql.Catalog
