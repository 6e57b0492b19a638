/-
  PocketSql.Proofs.Schema.Sound — what holds of every table, database and catalog.

  A table has a column, its rows have a value for each, and names that are looked up up to
  the case of ASCII letters are distinct in that sense. Databases are kept under distinct
  keys, each under the key of its name. Every operation on tables, databases and catalogs
  keeps this.
-/

import PocketSql.Proofs.Entries
import PocketSql.Schema.Catalog

namespace PocketSql

/-- Whether no two of these names are the same up to the case of ASCII letters. -/
def DistinctNames (names : List String) : Prop :=
  names.Pairwise fun a b => Text.sameName a b = false

theorem DistinctNames.concat {names : List String} {name : String} (h : DistinctNames names)
    (hn : ∀ n ∈ names, Text.sameName n name = false) : DistinctNames (names ++ [name]) := by
  refine List.pairwise_append.mpr ⟨h, List.pairwise_singleton _ _, ?_⟩
  intro a ha b hb
  rw [List.mem_singleton.mp hb]
  exact hn a ha

theorem DistinctNames.sublist {names names' : List String} (h : DistinctNames names')
    (hs : names.Sublist names') : DistinctNames names :=
  List.Pairwise.sublist hs h

/-! ## Tables -/

/-- Columns of different names, and a value for each of them in every row. -/
structure Table.Sound (t : Table) : Prop where
  columns : t.columns ≠ []
  columnNames : DistinctNames t.columnNames
  rows : ∀ row ∈ t.rows, row.length = t.columns.length
  indexes : DistinctNames t.indexes

namespace Table.Sound

variable {t : Table}

theorem pushRow {t' : Table} {row : Row} (h : t.Sound) (hr : t.pushRow row = .ok t') : t'.Sound := by
  unfold Table.pushRow at hr
  split at hr
  · rename_i hf
    cases hr
    refine ⟨h.columns, h.columnNames, fun r hr => ?_, h.indexes⟩
    rcases List.mem_append.mp hr with hr | hr
    · exact h.rows r hr
    · rw [List.mem_singleton.mp hr]
      exact eq_of_beq hf
  · cases hr

theorem updateWhere (h : t.Sound) (p : Row → Bool) {change : Row → Row}
    (hc : ∀ row, (change row).length = row.length) : (t.updateWhere p change).1.Sound := by
  refine ⟨h.columns, h.columnNames, fun r hr => ?_, h.indexes⟩
  obtain ⟨row, hrow, rfl⟩ := List.mem_map.mp hr
  split
  · exact (hc row).trans (h.rows row hrow)
  · exact h.rows row hrow

theorem deleteWhere (h : t.Sound) (p : Row → Bool) : (t.deleteWhere p).1.Sound :=
  ⟨h.columns, h.columnNames, fun r hr => h.rows r (List.mem_filter.mp hr).1, h.indexes⟩

theorem truncate (h : t.Sound) : t.truncate.1.Sound :=
  ⟨h.columns, h.columnNames, by simp [Table.truncate], h.indexes⟩

theorem withIndexes (h : t.Sound) {indexes : List String} (hi : DistinctNames indexes) :
    { t with indexes }.Sound :=
  ⟨h.columns, h.columnNames, h.rows, hi⟩

end Table.Sound

/-! ## Databases -/

/-- Sound tables of different names. -/
structure Database.Sound (db : Database) : Prop where
  tableNames : DistinctNames (db.tables.map (·.name))
  tables : ∀ t ∈ db.tables, t.Sound

namespace Database

variable {db : Database}

theorem sound_empty (name : String) (now : Instant) : (Database.empty name now).Sound :=
  ⟨.nil, by simp [Database.empty]⟩

theorem mem_of_table? {t : Table} {name : String} (h : db.table? name = some t) : t ∈ db.tables :=
  List.mem_of_find?_eq_some h

theorem mem_of_requireTable {t : Table} {name : String} (h : db.requireTable name = .ok t) :
    db.table? name = some t := by
  unfold requireTable at h
  split at h
  · rename_i ht
    cases h
    exact ht
  · cases h

theorem requireTable_of_table? {t : Table} {name : String} (h : db.table? name = some t) :
    db.requireTable name = .ok t := by
  rw [requireTable, h]

/-- The first table of a name stands at the name's index. -/
theorem table?_eq (name : String) : db.table? name = (db.tableIndex? name).bind (db.tables[·]?) := by
  unfold table? tableIndex?
  induction db.tables with
  | nil => rfl
  | cons t ts ih =>
    rw [List.find?_cons, List.findIdx?_cons]
    cases Text.sameName t.name name with
    | true => rfl
    | false =>
      rw [ih]
      cases ts.findIdx? fun t => Text.sameName t.name name <;> rfl

/-- A change to a table changes the first one of the name, in its place, or nothing. -/
theorem modifyTable_cases (db : Database) (name : String) :
    (∃ before t after, db.tables = before ++ t :: after ∧ (∀ u ∈ before, Text.sameName u.name name = false) ∧
      db.table? name = some t ∧
      ∀ change, db.modifyTable name change = { db with tables := before ++ change t :: after }) ∨
    (db.table? name = none ∧ ∀ change, db.modifyTable name change = db) := by
  cases hi : db.tableIndex? name with
  | none => exact .inr ⟨by rw [table?_eq, hi]; rfl, fun change => by rw [modifyTable, hi]⟩
  | some i =>
    obtain ⟨hlt, -, hfirst⟩ := List.findIdx?_eq_some_iff_getElem.mp hi
    refine .inl ⟨db.tables.take i, db.tables[i], db.tables.drop (i + 1), ?_, fun u hu => ?_, ?_, fun change => ?_⟩
    · rw [List.getElem_cons_drop, List.take_append_drop]
    · obtain ⟨j, hj, rfl⟩ := List.mem_take_iff_getElem.mp hu
      simpa using hfirst j (by omega)
    · rw [table?_eq, hi]
      exact List.getElem?_eq_getElem hlt
    · rw [modifyTable, hi, ← List.modify_eq_take_cons_drop hlt]

/-- A table with another value in its place is found under its name. -/
theorem table?_modifyTable {t t' : Table} {name : String} (h : db.table? name = some t) (hn : t'.name = t.name) :
    (db.modifyTable name fun _ => t').table? name = some t' := by
  rcases modifyTable_cases db name with ⟨before, u, after, -, hbefore, hu, hm⟩ | ⟨hnone, -⟩
  · obtain rfl : u = t := Option.some.inj (hu.symm.trans h)
    have hname : Text.sameName t'.name name = true := by
      rw [hn]
      exact List.find?_some (p := fun u : Table => Text.sameName u.name name) h
    have hfind : before.find? (fun u => Text.sameName u.name name) = none := by
      simpa using hbefore
    rw [hm, table?, List.find?_append, hfind, List.find?_cons, hname]
    rfl
  · rw [hnone] at h
    cases h

/-- What a change to the first table of a name has to keep: its name, and what holds of
    every table. -/
theorem Sound.modifyTable (h : db.Sound) {name : String} {change : Table → Table}
    (hc : ∀ t, db.table? name = some t → (change t).Sound ∧ (change t).name = t.name) :
    (db.modifyTable name change).Sound := by
  rcases modifyTable_cases db name with ⟨before, t, after, htables, -, ht, hm⟩ | ⟨-, hm⟩
  · obtain ⟨hs, hn⟩ := hc t ht
    rw [hm]
    refine ⟨?_, fun u hu => ?_⟩
    · have := h.tableNames
      simpa [htables, hn] using this
    · rcases List.mem_append.mp hu with hu | hu
      · exact h.tables u (by rw [htables]; exact List.mem_append_left _ hu)
      · rcases List.mem_cons.mp hu with rfl | hu
        · exact hs
        · exact h.tables u (by rw [htables]; exact List.mem_append_right _ (List.mem_cons_of_mem _ hu))
  · rw [hm]
    exact h

theorem not_hasTable_iff {name : String} :
    db.hasTable name = false ↔ ∀ n ∈ db.tables.map (·.name), Text.sameName n name = false := by
  simp [hasTable, table?]

theorem Sound.addTable (h : db.Sound) {t : Table} (ht : t.Sound) {db' : Database}
    (hdb : db.addTable t = .ok db') : db'.Sound := by
  unfold Database.addTable at hdb
  split at hdb
  · cases hdb
  · rename_i hn
    cases hdb
    refine ⟨?_, ?_⟩
    · rw [List.map_append]
      exact h.tableNames.concat (not_hasTable_iff.mp (by simpa using hn))
    · intro u hu
      rcases List.mem_append.mp hu with hu | hu
      · exact h.tables u hu
      · rw [List.mem_singleton.mp hu]
        exact ht

theorem Sound.dropTable (h : db.Sound) {name : String} {t : Table} {db' : Database}
    (hdb : db.dropTable name = .ok (db', t)) : db'.Sound := by
  unfold Database.dropTable at hdb
  split at hdb
  · split at hdb
    · cases hdb
      have hs := List.eraseIdx_sublist db.tables
      exact ⟨h.tableNames.sublist ((hs _).map _), fun u hu => h.tables u ((hs _).subset hu)⟩
    · cases hdb
  · cases hdb

end Database

/-! ## Catalogs -/

/-- Sound databases, each under the key of its name and none under another's. -/
structure Catalog.Sound (c : Catalog) : Prop where
  keyed : ∀ e ∈ c.entries, e.1 = Catalog.key e.2.name
  keys : (c.entries.map (·.1)).Nodup
  databases : ∀ e ∈ c.entries, e.2.Sound

namespace Catalog

variable {c : Catalog}

theorem sound_empty : ({} : Catalog).Sound :=
  ⟨by simp, by simp, by simp⟩

theorem mem_of_database? {name : String} {db : Database} (h : c.database? name = some db) :
    (key name, db) ∈ c.entries := by
  obtain ⟨before, after, he, -⟩ := List.lookup_eq_some_iff.mp h
  rw [he]
  exact List.mem_append_right _ List.mem_cons_self

theorem mem_put {k : String} {db : Database} {e : String × Database} (h : e ∈ (c.put k db).entries) :
    e ∈ c.entries ∨ e = (k, db) := by
  unfold put at h
  split at h
  · obtain ⟨e', he', rfl⟩ := List.mem_map.mp h
    split
    · exact .inr rfl
    · exact .inl he'
  · rcases List.mem_append.mp h with h | h
    · exact .inl h
    · exact .inr (List.mem_singleton.mp h)

theorem mem_modifyDatabase {name : String} {change : Database → Database} {e : String × Database}
    (h : e ∈ (c.modifyDatabase name change).entries) : e ∈ c.entries ∨ e.1 = key name := by
  unfold modifyDatabase at h
  split at h
  · rcases mem_put h with h | rfl
    · exact .inl h
    · exact .inr rfl
  · exact .inl h

theorem put_of_mem {k : String} (hk : k ∈ c.entries.map (·.1)) (db : Database) :
    c.put k db = { c with entries := c.entries.map fun e => if e.1 == k then (k, db) else e } :=
  if_pos (by simpa using hk)

theorem put_of_not_mem {k : String} (hk : k ∉ c.entries.map (·.1)) (db : Database) :
    c.put k db = { c with entries := c.entries ++ [(k, db)] } := by
  rw [put, if_neg]
  intro h
  obtain ⟨e, he, hk'⟩ := List.any_eq_true.mp h
  exact hk (List.mem_map.mpr ⟨e, he, eq_of_beq hk'⟩)

theorem keys_put (c : Catalog) (k : String) (db : Database) :
    (c.put k db).entries.map (·.1) =
      if k ∈ c.entries.map (·.1) then c.entries.map (·.1) else c.entries.map (·.1) ++ [k] := by
  by_cases hk : k ∈ c.entries.map (·.1)
  · rw [put_of_mem hk, if_pos hk, List.map_map]
    refine List.map_congr_left fun e _ => ?_
    by_cases he : e.1 = k <;> simp [he]
  · rw [put_of_not_mem hk, if_neg hk, List.map_append]
    rfl

theorem mem_keys_put {k k' : String} (hk : k ∈ c.entries.map (·.1)) (db : Database) :
    k ∈ (c.put k' db).entries.map (·.1) := by
  rw [keys_put]
  split
  · exact hk
  · exact List.mem_append_left _ hk

theorem database?_put_eq (c : Catalog) (k : String) (db : Database) (name : String) :
    (c.put k db).database? name = if key name = k then some db else c.database? name := by
  rw [database?, database?, ← lookup_set c.entries k db (key name)]
  unfold put
  split <;> rfl

/-- A database is found under the name that it was put under. -/
theorem database?_put (c : Catalog) (name : String) (db : Database) :
    (c.put (key name) db).database? name = some db :=
  (database?_put_eq c (key name) db name).trans (if_pos rfl)

theorem database?_modifyDatabase {name : String} {db : Database} (h : c.database? name = some db)
    (change : Database → Database) : (c.modifyDatabase name change).database? name = some (change db) := by
  rw [modifyDatabase, h]
  exact database?_put c name (change db)

/-- Under another key nothing changes. -/
theorem database?_modifyDatabase_of_ne {name other : String} (h : key other ≠ key name)
    (change : Database → Database) : (c.modifyDatabase name change).database? other = c.database? other := by
  unfold modifyDatabase
  split
  · rw [database?_put_eq, if_neg h]
  · rfl

/-- The keys of databases stay different. -/
theorem nodup_put (h : (c.entries.map (·.1)).Nodup) (k : String) (db : Database) :
    ((c.put k db).entries.map (·.1)).Nodup := by
  rw [keys_put]
  split
  · exact h
  · rename_i hk
    rw [List.nodup_append]
    refine ⟨h, by simp, ?_⟩
    intro a ha b hb hab
    rw [List.mem_singleton] at hb
    rw [hab, hb] at ha
    exact hk ha

theorem keys_modifyDatabase (c : Catalog) (name : String) (change : Database → Database) :
    (c.modifyDatabase name change).entries.map (·.1) = c.entries.map (·.1) := by
  unfold modifyDatabase
  split
  · rename_i db hdb
    rw [keys_put, if_pos (List.mem_map_of_mem (mem_of_database? hdb))]
  · rfl

theorem nodup_modifyDatabase (h : (c.entries.map (·.1)).Nodup) (name : String) (change : Database → Database) :
    ((c.modifyDatabase name change).entries.map (·.1)).Nodup := by
  rw [keys_modifyDatabase]
  exact h

/-- Keeping a database under the key of its name. -/
theorem Sound.put (h : c.Sound) {k : String} {db : Database} (hdb : db.Sound) (hk : k = key db.name) :
    (c.put k db).Sound := by
  refine ⟨fun e he => ?_, nodup_put h.keys k db, fun e he => ?_⟩
  · rcases mem_put he with he | rfl
    · exact h.keyed e he
    · exact hk
  · rcases mem_put he with he | rfl
    · exact h.databases e he
    · exact hdb

theorem Sound.modifyDatabase (h : c.Sound) (name : String) {change : Database → Database}
    (hc : ∀ db, db.Sound → (change db).Sound ∧ (change db).name = db.name) :
    (c.modifyDatabase name change).Sound := by
  unfold Catalog.modifyDatabase
  split
  · rename_i db hdb
    have hm := mem_of_database? hdb
    obtain ⟨hs, hn⟩ := hc db (h.databases _ hm)
    exact h.put hs ((h.keyed _ hm).trans (congrArg key hn.symm))
  · exact h

theorem Sound.createDatabase (h : c.Sound) {name : String} {now : Instant} {c' : Catalog}
    (hc : c.createDatabase name now = .ok c') : c'.Sound := by
  unfold Catalog.createDatabase at hc
  split at hc
  · cases hc
  · cases hc
    exact h.put (Database.sound_empty name now) rfl

theorem Sound.dropDatabase (h : c.Sound) {name : String} {c' : Catalog} {db : Database}
    (hc : c.dropDatabase name = .ok (c', db)) : c'.Sound := by
  unfold Catalog.dropDatabase at hc
  split at hc
  · cases hc
  · cases hc
    have hs := List.filter_sublist (l := c.entries) (p := fun e => e.1 != key name)
    exact ⟨fun e he => h.keyed e (hs.subset he), h.keys.sublist (hs.map _),
      fun e he => h.databases e (hs.subset he)⟩

theorem Sound.useDatabase (h : c.Sound) {name : String} {c' : Catalog} (hc : c.useDatabase name = .ok c') :
    c'.Sound := by
  unfold Catalog.useDatabase at hc
  cases hdb : c.requireDatabase name with
  | error e => simp [hdb, Except.map] at hc
  | ok db =>
    rw [hdb] at hc
    cases hc
    exact ⟨h.keyed, h.keys, h.databases⟩

/-- A database that is created on demand is kept under the key of the name asked for. -/
theorem Sound.databaseOrCreate (h : c.Sound) (name : String) (now : Instant) :
    (c.databaseOrCreate name now).1.Sound ∧ (c.databaseOrCreate name now).2.Sound ∧
      key name = key (c.databaseOrCreate name now).2.name := by
  unfold Catalog.databaseOrCreate
  split
  · rename_i db hdb
    have hm := mem_of_database? hdb
    exact ⟨h, h.databases _ hm, h.keyed _ hm⟩
  · exact ⟨h.put (Database.sound_empty name now) rfl, Database.sound_empty name now, rfl⟩

end Catalog

end PocketSql
