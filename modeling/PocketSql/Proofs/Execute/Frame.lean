/-
  PocketSql.Proofs.Execute.Frame — what statements leave alone.

  A statement that fails leaves everything as it was but for a database that is created
  on first access, and for the rows of an INSERT. A statement that only reads changes no
  database either. A created database stands at the end, with no tables yet where the
  statement fails.
-/

import Mathlib.Data.List.Nodup
import PocketSql.Proofs.Execute.Sound

namespace PocketSql

/-! ## In a database -/

namespace Database

variable {db : Database} {now : Instant} {s : Statement} {f : Fault}

theorem settle_of_error {outcome : Except Fault (Database × QueryResult)} (h : (db.settle outcome).2 = .error f) :
    (db.settle outcome).1 = db := by
  cases outcome with
  | error e => rfl
  | ok r => cases h

variable [RegexCompiler]

/-- Only an INSERT that fails may leave something behind. -/
theorem run_of_error (hs : ∀ i, s ≠ .insert i) (h : (db.run now s).2 = .error f) : (db.run now s).1 = db := by
  cases s with
  | insert i => exact absurd rfl (hs i)
  | update | delete | createTable | dropTable | truncateTable | createIndex | dropIndex => exact settle_of_error h
  | _ => rfl

/-- What fails in an empty database leaves it empty: an INSERT finds no table there. -/
theorem run_empty_of_error {name : String} (h : ((Database.empty name now).run now s).2 = .error f) :
    ((Database.empty name now).run now s).1 = Database.empty name now := by
  cases s with
  | insert i => rfl
  | _ => exact run_of_error (by simp) h

theorem run_of_reads (hs : s.kind.isMutation = false) : (db.run now s).1 = db := by
  cases s with
  | insert | update | delete | createTable | dropTable | truncateTable | createIndex | dropIndex => cases hs
  | _ => rfl

section Rows

variable {t t' : Table} {outcome : Except Fault QueryResult} {result : QueryResult}

theorem run_select {s : Select} (ht : db.table? s.table = some t) (h : t.select now s = outcome) :
    db.run now (.select s) = (db, outcome) := by
  simp only [run, requireTable_of_table? ht]
  exact congrArg _ h

theorem run_insert {s : Insert} (ht : db.table? s.table = some t) (h : t.insert now s = (t', outcome)) :
    db.run now (.insert s) = (db.modifyTable s.table fun _ => t', outcome) := by
  simp only [run, insertInto, requireTable_of_table? ht, h]

theorem run_update {s : Update} (ht : db.table? s.table = some t) (h : t.update now s = .ok (t', result)) :
    db.run now (.update s) = (db.modifyTable s.table fun _ => t', .ok result) := by
  simp only [run, updateIn, requireTable_of_table? ht]
  show db.settle (t.update now s >>= _) = _
  rw [h]
  rfl

theorem run_update_of_error {s : Update} (ht : db.table? s.table = some t) (h : t.update now s = .error f) :
    db.run now (.update s) = (db, .error f) := by
  simp only [run, updateIn, requireTable_of_table? ht]
  show db.settle (t.update now s >>= _) = _
  rw [h]
  rfl

theorem run_delete {s : Delete} (ht : db.table? s.table = some t) (h : t.delete now s = .ok (t', result)) :
    db.run now (.delete s) = (db.modifyTable s.table fun _ => t', .ok result) := by
  simp only [run, deleteFrom, requireTable_of_table? ht]
  show db.settle (t.delete now s >>= _) = _
  rw [h]
  rfl

theorem run_delete_of_error {s : Delete} (ht : db.table? s.table = some t) (h : t.delete now s = .error f) :
    db.run now (.delete s) = (db, .error f) := by
  simp only [run, deleteFrom, requireTable_of_table? ht]
  show db.settle (t.delete now s >>= _) = _
  rw [h]
  rfl

end Rows

end Database

/-! ## In a catalog -/

namespace Catalog

variable {c : Catalog} {now : Instant} {database : String} {db : Database} {s : Statement} {f : Fault}

theorem current_put (c : Catalog) (k : String) (db : Database) : (c.put k db).current = c.current := by
  unfold put
  split <;> rfl

theorem current_modifyDatabase (c : Catalog) (name : String) (change : Database → Database) :
    (c.modifyDatabase name change).current = c.current := by
  unfold modifyDatabase
  split
  · exact current_put _ _ _
  · rfl

/-- Keeping a database where it is kept already changes nothing. -/
theorem put_self (hn : (c.entries.map (·.1)).Nodup) (h : c.database? database = some db) :
    c.put (key database) db = c := by
  have hmem := mem_of_database? h
  have hsame : c.entries.map (fun e => if e.1 == key database then (key database, db) else e) = c.entries := by
    refine (List.map_congr_left fun e he => ?_).trans (List.map_id c.entries)
    split
    · rename_i hk
      exact List.inj_on_of_nodup_map hn hmem he (eq_of_beq hk).symm
    · rfl
  rw [put_of_mem (List.mem_map_of_mem hmem), hsame]

/-- Of two databases put under one key the second stays. -/
theorem put_put (c : Catalog) (k : String) (db db' : Database) : (c.put k db).put k db' = c.put k db' := by
  by_cases hk : k ∈ c.entries.map (·.1)
  · rw [put_of_mem (mem_keys_put hk db), put_of_mem hk, put_of_mem hk, List.map_map]
    congr 1
    refine List.map_congr_left fun e _ => ?_
    by_cases he : e.1 = k <;> simp [he]
  · have hsame : c.entries.map (fun e => if e.1 == k then (k, db') else e) = c.entries := by
      refine (List.map_congr_left fun e he => ?_).trans (List.map_id c.entries)
      rw [if_neg]
      · rfl
      · exact fun h => hk (List.mem_map.mpr ⟨e, he, eq_of_beq h⟩)
    have hmem : k ∈ (c.put k db).entries.map (·.1) := by
      rw [keys_put, if_neg hk]
      exact List.mem_append_right _ List.mem_cons_self
    rw [put_of_mem hmem, put_of_not_mem hk, put_of_not_mem hk, List.map_append, hsame]
    simp

theorem not_mem_of_database? (h : c.database? database = none) : key database ∉ c.entries.map (·.1) := by
  intro hk
  obtain ⟨e, he, hek⟩ := List.mem_map.mp hk
  have := List.lookup_eq_none_iff.mp h e he
  simp [hek] at this

/-- What `step` does to the database of this name, which is created if it is not there. -/
def access (c : Catalog) (now : Instant) (database : String) (step : Database → Database × Except Fault QueryResult) :
    Catalog × Except Fault QueryResult :=
  let (c, db) := c.databaseOrCreate database now
  let (db, outcome) := step db
  (c.put (key database) db, outcome)

section Access

variable {step : Database → Database × Except Fault QueryResult}

theorem access_of_some (h : c.database? database = some db) :
    c.access now database step = (c.put (key database) (step db).1, (step db).2) := by
  simp [access, databaseOrCreate, h]

theorem access_of_none (h : c.database? database = none) :
    c.access now database step =
      ({ c with entries := c.entries ++ [(key database, (step (.empty database now)).1)] },
        (step (.empty database now)).2) := by
  simp only [access, databaseOrCreate, h, put_put]
  rw [put_of_not_mem (not_mem_of_database? h)]

end Access

theorem settle_of_error {outcome : Except Fault (Catalog × QueryResult)} (h : (c.settle outcome).2 = .error f) :
    (c.settle outcome).1 = c := by
  cases outcome with
  | error e => rfl
  | ok r => cases h

variable [RegexCompiler]

theorem runIn_eq_access (c : Catalog) (now : Instant) (database : String) (s : Statement) :
    c.runIn now database s = c.access now database fun db => db.run now s :=
  rfl

theorem runIn_of_some (h : c.database? database = some db) :
    c.runIn now database s = (c.put (key database) (db.run now s).1, (db.run now s).2) := by
  rw [runIn_eq_access, access_of_some h]

theorem runIn_of_none (h : c.database? database = none) :
    c.runIn now database s =
      ({ c with entries := c.entries ++ [(key database, ((Database.empty database now).run now s).1)] },
        ((Database.empty database now).run now s).2) := by
  rw [runIn_eq_access, access_of_none h]

/-- A statement about a table runs in the database that is named. -/
theorem run_of_named (hs : s.table?.isSome = true) (hname : (Text.trim database).isEmpty = false)
    (h : c.database? database = some db) :
    c.run now database s = (c.put (key database) (db.run now s).1, (db.run now s).2) := by
  have hin : (if (Text.trim database).isEmpty then (c, .error .noDatabaseSelected)
      else c.runIn now database s : Catalog × Except Fault QueryResult) =
      (c.put (key database) (db.run now s).1, (db.run now s).2) := by
    rw [hname, runIn_of_some h]
    rfl
  cases s with
  | createDatabase | dropDatabase | showDatabases | «use» | begin | commit | rollback => cases hs
  | _ => exact hin

theorem current_runIn (c : Catalog) (now : Instant) (database : String) (s : Statement) :
    (c.runIn now database s).1.current = c.current := by
  cases hdb : c.database? database with
  | some db => rw [runIn_of_some hdb, current_put]
  | none => rw [runIn_of_none hdb]

/-- A statement that is none on databases runs in one, if one is named. -/
theorem run_cases (c : Catalog) (now : Instant) (database : String) (s : Statement) :
    (c.run now database s).1 = c ∨ c.run now database s = c.runIn now database s ∨
      s.kind = .createDatabase ∨ s.kind = .dropDatabase ∨ s.kind = .use := by
  have hin : ((if (Text.trim database).isEmpty then (c, .error .noDatabaseSelected)
      else c.runIn now database s) : Catalog × Except Fault QueryResult).1 = c ∨
      (if (Text.trim database).isEmpty then (c, .error .noDatabaseSelected)
        else c.runIn now database s) = c.runIn now database s := by
    split
    · exact .inl rfl
    · exact .inr rfl
  cases s with
  | createDatabase name b => exact .inr (.inr (.inl rfl))
  | dropDatabase name b => exact .inr (.inr (.inr (.inl rfl)))
  | «use» name => exact .inr (.inr (.inr (.inr rfl)))
  | showDatabases | begin | commit | rollback => exact .inl rfl
  | _ => exact hin.imp_right .inl

/-- A failed statement leaves no trace outside the database it runs in. -/
theorem run_of_error (h : (c.run now database s).2 = .error f) :
    (c.run now database s).1 = c ∨ c.run now database s = c.runIn now database s := by
  rcases run_cases c now database s with hc | hin | hk
  · exact .inl hc
  · exact .inr hin
  · left
    cases s with
    | createDatabase | dropDatabase | «use» => exact settle_of_error h
    | _ => simp [Statement.kind] at hk

theorem current_of_error (h : (c.run now database s).2 = .error f) :
    (c.run now database s).1.current = c.current := by
  rcases run_of_error h with hc | hin
  · rw [hc]
  · rw [hin, current_runIn]

/-- What a failed statement adds to the databases has no tables, if it changes no database
    that was there. -/
theorem added_of_error (h : (c.run now database s).2 = .error f)
    (hkept : c.entries <+: (c.run now database s).1.entries) :
    ∃ added, (c.run now database s).1.entries = c.entries ++ added ∧ ∀ e ∈ added, e.2.tables = [] := by
  rcases run_of_error h with hc | hin
  · rw [hc]
    exact ⟨[], by simp, by simp⟩
  · rw [hin] at h hkept ⊢
    cases hdb : c.database? database with
    | some db =>
      rw [runIn_of_some hdb] at hkept ⊢
      have hkeys := congrArg List.length (keys_put c (key database) (db.run now s).1)
      rw [if_pos (List.mem_map.mpr ⟨_, mem_of_database? hdb, rfl⟩), List.length_map, List.length_map] at hkeys
      exact ⟨[], by rw [List.append_nil, hkept.eq_of_length hkeys.symm], by simp⟩
    | none =>
      rw [runIn_of_none hdb] at h ⊢
      refine ⟨_, rfl, fun e he => ?_⟩
      rw [List.mem_singleton.mp he, Database.run_empty_of_error h]
      rfl

/-- A failed statement changes no database that was there, unless it is an INSERT. -/
theorem prefix_of_error (hn : (c.entries.map (·.1)).Nodup) (hs : ∀ i, s ≠ .insert i)
    (h : (c.run now database s).2 = .error f) : c.entries <+: (c.run now database s).1.entries := by
  rcases run_of_error h with hc | hin
  · exact hc.symm ▸ List.prefix_rfl
  · rw [hin] at h ⊢
    cases hdb : c.database? database with
    | some db =>
      rw [runIn_of_some hdb] at h ⊢
      have hsame : c.put (key database) (db.run now s).1 = c := by
        rw [Database.run_of_error hs h, put_self hn hdb]
      exact hsame.symm ▸ List.prefix_rfl
    | none =>
      rw [runIn_of_none hdb]
      exact List.prefix_append _ _

/-- A USE changes no database, and reports the one that it selects. -/
theorem run_use (c : Catalog) (now : Instant) (database name : String) :
    (c.run now database (.use name)).1.entries = c.entries ∧
      ∀ result, (c.run now database (.use name)).2 = .ok result → result.database.isSome = true := by
  show (c.settle (c.switchTo name)).1.entries = c.entries ∧
    ∀ result, (c.settle (c.switchTo name)).2 = .ok result → result.database.isSome = true
  cases h : c.switchTo name with
  | error e => exact ⟨rfl, fun result hr => by cases hr⟩
  | ok r =>
    obtain ⟨c', huse, hc⟩ := bind_eq_ok.mp h
    obtain ⟨db, -, hdb⟩ := map_eq_ok.mp huse
    cases hc
    cases hdb
    refine ⟨rfl, fun result hr => ?_⟩
    cases hr
    rfl

theorem isSome_of_use (hs : s.kind = .use) {result : QueryResult} (h : (c.run now database s).2 = .ok result) :
    result.database.isSome = true := by
  cases s with
  | «use» name => exact (run_use c now database name).2 result h
  | _ => cases hs

/-- A statement that only reads changes no database; at most it adds the one it runs in. -/
theorem entries_of_reads (hn : (c.entries.map (·.1)).Nodup) (hs : s.kind.isMutation = false) :
    (c.run now database s).1.entries = c.entries ∨ ∃ e, (c.run now database s).1.entries = c.entries ++ [e] := by
  rcases run_cases c now database s with hc | hin | hk | hk | hk
  · exact .inl (by rw [hc])
  · rw [hin]
    cases hdb : c.database? database with
    | some db =>
      rw [runIn_of_some hdb, Database.run_of_reads hs, put_self hn hdb]
      exact .inl rfl
    | none =>
      rw [runIn_of_none hdb]
      exact .inr ⟨_, rfl⟩
  · simp [hk, Sql.Kind.isMutation] at hs
  · simp [hk, Sql.Kind.isMutation] at hs
  · left
    cases s with
    | «use» name => exact (run_use c now database name).1
    | _ => cases hk

/-- Nor does it select one, unless it is a USE. -/
theorem current_of_reads (hs : s.kind.isMutation = false) (hu : s.kind ≠ .use) :
    (c.run now database s).1.current = c.current := by
  rcases run_cases c now database s with hc | hin | hk | hk | hk
  · rw [hc]
  · rw [hin, current_runIn]
  · simp [hk, Sql.Kind.isMutation] at hs
  · simp [hk, Sql.Kind.isMutation] at hs
  · exact absurd hk hu

end Catalog

end PocketSql
