/-
  PocketSql.Proofs.Execute.TableEffect — all that one statement can do to tables.

  A table that a statement leaves in its database was there before, has no rows yet, or is
  one that the statement names, with its rows added to, changed, taken out or all removed
  (`leaves`). In a catalog this happens in the one database that the statement runs in
  (`mem_tables_run`).
-/

import PocketSql.Proofs.Execute.Effect

namespace PocketSql

namespace Database

variable {db : Database} {now : Instant} {s : Statement} {t t' : Table}

/-- Where names of indexes are taken out, one table after the other, only those change. -/
theorem mem_withoutIndex {index : String} {names : List String} (ht : t ∈ (names.foldl
      (fun db name => db.modifyTable name fun t =>
        { t with indexes := t.indexes.filter fun i => !Text.sameName i index }) db).tables) :
    ∃ u ∈ db.tables, ∃ indexes, t = { u with indexes } := by
  induction names generalizing db with
  | nil => exact ⟨t, ht, t.indexes, rfl⟩
  | cons name names ih =>
    rw [List.foldl_cons] at ht
    obtain ⟨u, hu, indexes, rfl⟩ := ih ht
    rcases mem_modifyTable hu with hu | ⟨v, hv, rfl⟩
    · exact ⟨u, hu, indexes, rfl⟩
    · exact ⟨v, mem_of_table? hv, indexes, rfl⟩

variable [RegexCompiler]

/-- The tables that a statement can leave in a database, each with where it comes from. -/
inductive Leaves (db : Database) (now : Instant) : Statement → Table → Prop
  | kept {s : Statement} {t : Table} : t ∈ db.tables → Leaves db now s t
  /-- A table that is created, before any row. -/
  | created {s : CreateTable} {t : Table} : t.rows = [] → Leaves db now (.createTable s) t
  | indexed {s : Statement} {t : Table} {indexes : List String} : t ∈ db.tables →
      Leaves db now s { t with indexes }
  | inserted {s : Insert} {t : Table} : db.table? s.table = some t → Leaves db now (.insert s) (t.insert now s).1
  | updated {s : Update} {t t' : Table} {result : QueryResult} : db.table? s.table = some t →
      t.update now s = .ok (t', result) → Leaves db now (.update s) t'
  | deleted {s : Delete} {t t' : Table} {result : QueryResult} : db.table? s.table = some t →
      t.delete now s = .ok (t', result) → Leaves db now (.delete s) t'
  | truncated {table : String} {t : Table} : db.table? table = some t →
      Leaves db now (.truncateTable table) t.truncate.1

/-- A table that stands in for the one of a name is the only one that may be new. -/
theorem leaves_modifyTable {name : String} {change : Table → Table}
    (hchange : ∀ u, db.table? name = some u → db.Leaves now s (change u)) :
    ∀ t ∈ (db.modifyTable name change).tables, db.Leaves now s t := by
  intro t ht
  rcases mem_modifyTable ht with ht | ⟨u, hu, rfl⟩
  · exact .kept ht
  · exact hchange u hu

theorem leaves_settle {outcome : Except Fault (Database × QueryResult)}
    (h : ∀ db' result, outcome = .ok (db', result) → ∀ t ∈ db'.tables, db.Leaves now s t) :
    ∀ t ∈ (db.settle outcome).1.tables, db.Leaves now s t := by
  intro t ht
  cases outcome with
  | error f => exact .kept ht
  | ok r => exact h r.1 r.2 rfl t ht

variable {db' : Database} {result : QueryResult}

theorem leaves_createTable {s : CreateTable} (h : db.createTable s = .ok (db', result)) :
    ∀ t ∈ db'.tables, db.Leaves now (.createTable s) t := by
  intro t ht
  unfold createTable at h
  split at h
  · split at h
    · cases h
      exact .kept ht
    · cases h
  · obtain ⟨db'', hadd, h⟩ := bind_eq_ok.mp h
    unfold addTable at hadd
    split at hadd
    · cases hadd
    · cases hadd
      cases h
      rcases List.mem_append.mp ht with ht | ht
      · exact .kept ht
      · rw [List.mem_singleton.mp ht]
        exact .created rfl

theorem leaves_removeTable {table : String} {ifExists : Bool} (h : db.removeTable table ifExists = .ok (db', result)) :
    ∀ t ∈ db'.tables, db.Leaves now s t := by
  intro t ht
  unfold removeTable at h
  split at h
  · cases h
    exact .kept ht
  · obtain ⟨⟨db'', u⟩, hdrop, h⟩ := bind_eq_ok.mp h
    cases h
    unfold dropTable at hdrop
    split at hdrop
    · split at hdrop
      · cases hdrop
        exact .kept ((List.eraseIdx_sublist _ _).subset ht)
      · cases hdrop
    · cases hdrop

theorem leaves_dropIndex {index : String} {table : Option String} (h : db.dropIndex index table = .ok (db', result)) :
    ∀ t ∈ db'.tables, db.Leaves now s t := by
  have hfold : ∀ names : List String, ∀ t ∈ (names.foldl
      (fun db name => db.modifyTable name fun t =>
        { t with indexes := t.indexes.filter fun i => !Text.sameName i index }) db).tables, db.Leaves now s t := by
    intro names t ht
    obtain ⟨u, hu, indexes, rfl⟩ := mem_withoutIndex ht
    exact .indexed hu
  unfold dropIndex at h
  cases table with
  | none =>
    cases h
    exact hfold _
  | some name =>
    obtain ⟨t, -, h⟩ := bind_eq_ok.mp h
    cases h
    exact hfold _

/-- Every table that a statement leaves is one of these, whether it succeeds or fails. -/
theorem leaves (db : Database) (now : Instant) (s : Statement) :
    ∀ t ∈ (db.run now s).1.tables, db.Leaves now s t := by
  cases s with
  | insert s =>
    show ∀ t ∈ (db.insertInto now s).1.tables, db.Leaves now (.insert s) t
    unfold insertInto
    split
    · intro t ht
      exact .kept ht
    · rename_i t ht
      exact leaves_modifyTable fun _ _ => .inserted (mem_of_requireTable ht)
  | update s =>
    apply leaves_settle
    intro db' result h
    obtain ⟨t, ht, h⟩ := bind_eq_ok.mp h
    obtain ⟨⟨t', result'⟩, hupdate, h⟩ := bind_eq_ok.mp h
    cases h
    exact leaves_modifyTable fun _ _ => .updated (mem_of_requireTable ht) hupdate
  | delete s =>
    apply leaves_settle
    intro db' result h
    obtain ⟨t, ht, h⟩ := bind_eq_ok.mp h
    obtain ⟨⟨t', result'⟩, hdelete, h⟩ := bind_eq_ok.mp h
    cases h
    exact leaves_modifyTable fun _ _ => .deleted (mem_of_requireTable ht) hdelete
  | truncateTable table =>
    apply leaves_settle
    intro db' result h
    obtain ⟨t, ht, h⟩ := bind_eq_ok.mp h
    cases h
    exact leaves_modifyTable fun _ _ => .truncated (mem_of_requireTable ht)
  | createIndex s =>
    apply leaves_settle
    intro db' result h
    obtain ⟨t, -, h⟩ := bind_eq_ok.mp h
    obtain ⟨-, -, h⟩ := bind_eq_ok.mp h
    cases h
    exact leaves_modifyTable fun _ hu => .indexed (mem_of_table? hu)
  | createTable s => exact leaves_settle fun _ _ => leaves_createTable
  | dropTable table ifExists => exact leaves_settle fun _ _ => leaves_removeTable
  | dropIndex index table => exact leaves_settle fun _ _ => leaves_dropIndex
  | _ =>
    intro t ht
    exact .kept ht

/-- What stands in a new database has no rows: no table is found there. -/
theorem rows_of_leaves_empty {name : String} {first : Instant} (h : (Database.empty name first).Leaves now s t) :
    t.rows = [] := by
  cases h with
  | created h => exact h
  | kept h | indexed h => cases h
  | inserted h | truncated h => cases h
  | updated h _ | deleted h _ => cases h

end Database

namespace Catalog

variable [RegexCompiler] {c : Catalog} {now : Instant} {database : String} {s : Statement} {e : String × Database}
  {t : Table}

/-- A table of the catalog after a statement was there before, or has no rows, or is left
    by the statement in the database that it runs in. -/
theorem mem_tables_run (he : e ∈ (c.run now database s).1.entries) (ht : t ∈ e.2.tables) :
    (∃ db, (e.1, db) ∈ c.entries ∧ t ∈ db.tables) ∨ t.rows = [] ∨
      ∃ db, c.database? database = some db ∧ e.1 = key database ∧ db.Leaves now s t ∧
        (c.run now database s).2 = (db.run now s).2 := by
  have hold : e ∈ c.entries → ∃ db, (e.1, db) ∈ c.entries ∧ t ∈ db.tables := by
    intro he
    exact ⟨e.2, he, ht⟩
  rcases run_cases c now database s with hc | hin | hk | hk | hk
  · rw [hc] at he
    exact .inl (hold he)
  · rw [hin] at he ⊢
    cases hdb : c.database? database with
    | some db =>
      rw [runIn_of_some hdb] at he ⊢
      rcases mem_put he with he | rfl
      · exact .inl (hold he)
      · exact .inr (.inr ⟨db, rfl, rfl, db.leaves now s t ht, rfl⟩)
    | none =>
      rw [runIn_of_none hdb] at he
      rcases List.mem_append.mp he with he | he
      · exact .inl (hold he)
      · -- The statement ran in a database without tables.
        obtain rfl := List.mem_singleton.mp he
        exact .inr (.inl (Database.rows_of_leaves_empty (Database.leaves _ now s t ht)))
  · cases s with
    | createDatabase name ifNotExists =>
      rw [run_createDatabase] at he
      split at he
      · exact .inl (hold he)
      · rcases List.mem_append.mp he with he | he
        · exact .inl (hold he)
        · rw [List.mem_singleton.mp he] at ht
          cases ht
    | _ => cases hk
  · cases s with
    | dropDatabase name ifExists =>
      rw [run_dropDatabase] at he
      split at he
      · exact .inl (hold (List.mem_filter.mp he).1)
      · exact .inl (hold he)
    | _ => cases hk
  · cases s with
    | «use» name =>
      rw [(run_use c now database name).1] at he
      exact .inl (hold he)
    | _ => cases hk

end Catalog

end PocketSql
