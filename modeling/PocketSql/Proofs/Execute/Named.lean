/-
  PocketSql.Proofs.Execute.Named — tables stand in databases whose names are not blank.

  A statement on tables asks for the name of a database, and a blank one is refused. So no
  table ever comes into a database of a blank name (`Named.run`). Two names of one key are
  both blank or neither is, so that the name of a database with tables is one that no
  statement refuses (`Named.isEmpty_trim`).
-/

import PocketSql.Proofs.Execute.Frame
import PocketSql.Proofs.Execute.Reachable
import PocketSql.Proofs.Text.Lower

namespace PocketSql.Catalog

variable {c : Catalog} {now : Instant} {database : String} {db : Database} {s : Statement}

/-- Every database with tables is kept under the key of a name that is not blank. -/
def Named (c : Catalog) : Prop :=
  ∀ e ∈ c.entries, e.2.tables ≠ [] → ∃ name, key name = e.1 ∧ (Text.trim name).isEmpty = false

/-- A database with tables is not asked for by a blank name. -/
theorem Named.isEmpty_trim (h : c.Named) (hdb : c.database? database = some db) (htables : db.tables ≠ []) :
    (Text.trim database).isEmpty = false := by
  obtain ⟨name, hkey, hname⟩ := h _ (mem_of_database? hdb) htables
  rw [← hname]
  exact Text.isEmpty_trim_of_lower_eq hkey.symm

variable [RegexCompiler]

theorem Named.runIn (h : c.Named) (hname : (Text.trim database).isEmpty = false) (now : Instant) (s : Statement) :
    (c.runIn now database s).1.Named := by
  intro e he htables
  cases hdb : c.database? database with
  | some db =>
    rw [runIn_of_some hdb] at he
    rcases mem_put he with he | rfl
    · exact h e he htables
    · exact ⟨database, rfl, hname⟩
  | none =>
    rw [runIn_of_none hdb] at he
    rcases List.mem_append.mp he with he | he
    · exact h e he htables
    · rw [List.mem_singleton.mp he]
      exact ⟨database, rfl, hname⟩

theorem Named.run (h : c.Named) (now : Instant) (database : String) (s : Statement) :
    (c.run now database s).1.Named := by
  apply run_keeps h
  · intro name c' hc e he htables
    unfold createDatabase at hc
    split at hc
    · cases hc
    · cases hc
      rcases mem_put he with he | rfl
      · exact h e he htables
      · exact absurd rfl htables
  · intro name c' db hc e he
    unfold dropDatabase at hc
    split at hc
    · cases hc
    · cases hc
      exact h e (List.mem_filter.mp he).1
  · intro name c' hc
    obtain ⟨db, -, hdb⟩ := map_eq_ok.mp hc
    cases hdb
    exact h
  · intro hname
    exact h.runIn hname now s

theorem Reachable.named (h : c.Reachable) : c.Named := by
  induction h with
  | empty =>
    intro e he
    cases he
  | run now database _ _ ih => exact ih.run now database _

/-- A table that runs lead to is found under names that no statement refuses, and is sound. -/
theorem Reachable.table {t : Table} {table : String} (h : c.Reachable) (hdb : c.database? database = some db)
    (ht : db.table? table = some t) : (Text.trim database).isEmpty = false ∧ t.Sound := by
  have hmem := Database.mem_of_table? ht
  exact ⟨h.named.isEmpty_trim hdb (List.ne_nil_of_mem hmem),
    ((reachable_sound h).databases _ (mem_of_database? hdb)).tables t hmem⟩

end PocketSql.Catalog
