/-
  PocketSql.Proofs.Schema.Storable — what documents can hold.

  A document has no text for a float that is not finite, none for a size of more than 32
  bits and none for a date out of range. Every operation on tables, databases and
  catalogs keeps clear of them if what is added does.
-/

import PocketSql.Proofs.Calendar.Written
import PocketSql.Proofs.Fault
import PocketSql.Proofs.Schema.Sound

namespace PocketSql

def Value.Finite : Value → Prop
  | .float x => x.isFinite = true
  | _ => True

/-- Sizes of 32 bits. -/
structure Column.Storable (c : Column) : Prop where
  length : ∀ n ∈ c.length, n < UInt32.size
  scale : ∀ n ∈ c.scale, n < UInt32.size

/-! ## Tables -/

structure Table.Storable (t : Table) : Prop where
  columns : ∀ c ∈ t.columns, c.Storable
  cells : ∀ row ∈ t.rows, ∀ v ∈ row, v.Finite

namespace Table.Storable

variable {t : Table}

theorem pushRow {t' : Table} {row : Row} (h : t.Storable) (hrow : ∀ v ∈ row, v.Finite)
    (hr : t.pushRow row = .ok t') : t'.Storable := by
  unfold Table.pushRow at hr
  split at hr
  · cases hr
    refine ⟨h.columns, fun r hr => ?_⟩
    rcases List.mem_append.mp hr with hr | hr
    · exact h.cells r hr
    · rw [List.mem_singleton.mp hr]
      exact hrow
  · cases hr

theorem updateWhere (h : t.Storable) (p : Row → Bool) {change : Row → Row}
    (hc : ∀ row, (∀ v ∈ row, v.Finite) → ∀ v ∈ change row, v.Finite) : (t.updateWhere p change).1.Storable := by
  refine ⟨h.columns, fun r hr => ?_⟩
  obtain ⟨row, hrow, rfl⟩ := List.mem_map.mp hr
  split
  · exact hc row (h.cells row hrow)
  · exact h.cells row hrow

theorem deleteWhere (h : t.Storable) (p : Row → Bool) : (t.deleteWhere p).1.Storable :=
  ⟨h.columns, fun r hr => h.cells r (List.mem_filter.mp hr).1⟩

theorem truncate (h : t.Storable) : t.truncate.1.Storable :=
  ⟨h.columns, by simp [Table.truncate]⟩

theorem withIndexes (h : t.Storable) (indexes : List String) : { t with indexes }.Storable :=
  ⟨h.columns, h.cells⟩

end Table.Storable

/-! ## Databases -/

structure Database.Storable (db : Database) : Prop where
  createdAt : db.createdAt.Valid
  lastModified : db.lastModified.Valid
  tables : ∀ t ∈ db.tables, t.Storable

namespace Database

variable {db : Database}

theorem storable_empty (name : String) {now : Instant} (h : now.Valid) : (Database.empty name now).Storable :=
  ⟨h, h, by simp [Database.empty]⟩

/-- A table of a changed database was there before, or is what the change made of one. -/
theorem mem_modifyTable {name : String} {change : Table → Table} {t : Table}
    (h : t ∈ (db.modifyTable name change).tables) :
    t ∈ db.tables ∨ ∃ u, db.table? name = some u ∧ t = change u := by
  rcases modifyTable_cases db name with ⟨before, u, after, htables, -, hu, hm⟩ | ⟨-, hm⟩
  · rw [hm] at h
    rw [htables]
    rcases List.mem_append.mp h with h | h
    · exact .inl (List.mem_append_left _ h)
    · rcases List.mem_cons.mp h with h | h
      · exact .inr ⟨u, hu, h⟩
      · exact .inl (List.mem_append_right _ (List.mem_cons_of_mem _ h))
  · rw [hm] at h
    exact .inl h

theorem Storable.modifyTable (h : db.Storable) {name : String} {change : Table → Table}
    (hc : ∀ t, db.table? name = some t → (change t).Storable) : (db.modifyTable name change).Storable := by
  have htables : ∀ t ∈ (db.modifyTable name change).tables, t.Storable := by
    intro t ht
    rcases mem_modifyTable ht with ht | ⟨u, hu, rfl⟩
    · exact h.tables t ht
    · exact hc u hu
  rcases modifyTable_cases db name with ⟨_, _, _, -, -, -, hm⟩ | ⟨-, hm⟩
  · rw [hm] at htables ⊢
    exact ⟨h.createdAt, h.lastModified, htables⟩
  · rw [hm]
    exact h

theorem Storable.addTable (h : db.Storable) {t : Table} (ht : t.Storable) {db' : Database}
    (hdb : db.addTable t = .ok db') : db'.Storable := by
  unfold Database.addTable at hdb
  split at hdb
  · cases hdb
  · cases hdb
    refine ⟨h.createdAt, h.lastModified, fun u hu => ?_⟩
    rcases List.mem_append.mp hu with hu | hu
    · exact h.tables u hu
    · rw [List.mem_singleton.mp hu]
      exact ht

theorem Storable.dropTable (h : db.Storable) {name : String} {t : Table} {db' : Database}
    (hdb : db.dropTable name = .ok (db', t)) : db'.Storable := by
  unfold Database.dropTable at hdb
  split at hdb
  · split at hdb
    · cases hdb
      exact ⟨h.createdAt, h.lastModified, fun u hu => h.tables u (List.mem_of_mem_eraseIdx hu)⟩
    · cases hdb
  · cases hdb

theorem Storable.touch (h : db.Storable) {now : Instant} (hn : now.Valid) : (db.touch now).Storable :=
  ⟨h.createdAt, hn, h.tables⟩

end Database

/-! ## Catalogs -/

def Catalog.Storable (c : Catalog) : Prop :=
  ∀ e ∈ c.entries, e.2.Storable

namespace Catalog.Storable

variable {c c' : Catalog} {now : Instant}

theorem put (h : c.Storable) {db : Database} (hdb : db.Storable) (k : String) : (c.put k db).Storable := by
  intro e he
  rcases mem_put he with he | rfl
  · exact h e he
  · exact hdb

theorem modifyDatabase (h : c.Storable) (name : String) {change : Database → Database}
    (hc : ∀ db, db.Storable → (change db).Storable) : (c.modifyDatabase name change).Storable := by
  unfold Catalog.modifyDatabase
  split
  · rename_i db hdb
    exact h.put (hc db (h _ (mem_of_database? hdb))) _
  · exact h

theorem createDatabase (h : c.Storable) (hn : now.Valid) {name : String}
    (hc : c.createDatabase name now = .ok c') : c'.Storable := by
  unfold Catalog.createDatabase at hc
  split at hc
  · cases hc
  · cases hc
    exact h.put (Database.storable_empty name hn) _

theorem dropDatabase (h : c.Storable) {name : String} {db : Database}
    (hc : c.dropDatabase name = .ok (c', db)) : c'.Storable := by
  unfold Catalog.dropDatabase at hc
  split at hc
  · cases hc
  · cases hc
    exact fun e he => h e (List.mem_filter.mp he).1

theorem useDatabase (h : c.Storable) {name : String} (hc : c.useDatabase name = .ok c') : c'.Storable := by
  obtain ⟨db, -, rfl⟩ := map_eq_ok.mp hc
  exact h

theorem databaseOrCreate (h : c.Storable) (hn : now.Valid) (name : String) :
    (c.databaseOrCreate name now).1.Storable ∧ (c.databaseOrCreate name now).2.Storable := by
  unfold Catalog.databaseOrCreate
  split
  · rename_i db hdb
    exact ⟨h, h _ (mem_of_database? hdb)⟩
  · exact ⟨h.put (Database.storable_empty name hn) _, Database.storable_empty name hn⟩

end Catalog.Storable

end PocketSql
