/-
  PocketSql.Proofs.Execute.Arising — the catalogs that executing statements leads to.

  An engine runs statements and counts the changes to a database in its version. Whatever
  arises from the empty catalog this way is sound (`Arises.sound`), and documents can hold
  it while the clock shows dates in range (`Arises.storable`). Only counting changes a
  version (`Arises.versionsFit`).
-/

import PocketSql.Proofs.Execute.Effect
import PocketSql.Proofs.Execute.Reachable

namespace PocketSql.Catalog

section

variable [RegexCompiler] {c : Catalog} {clock : Instant → Prop}

/-- What is left of the empty catalog by statements that were run, whether they succeeded or
    failed, and by changes that were counted, at times that the clock may show. -/
inductive Arises (clock : Instant → Prop) : Catalog → Prop
  | empty : Arises clock {}
  | run {c : Catalog} {now : Instant} {s : Statement} (database : String) :
      Arises clock c → clock now → s.Written → Arises clock (c.run now database s).1
  /-- A version has 64 bits. -/
  | touch {c : Catalog} {now : Instant} {name : String} {db : Database} :
      Arises clock c → clock now → c.database? name = some db → db.version + 1 < UInt64.size →
      Arises clock (c.modifyDatabase name (·.touch now))

theorem Arises.sound (h : c.Arises clock) : c.Sound := by
  induction h with
  | empty => exact sound_empty
  | run database _ _ hs ih =>
    obtain ⟨sql, kind, hparse⟩ := hs
    exact ih.run _ database (Sql.readAs_of_parse hparse).defined
  | touch _ _ _ _ ih => exact ih.modifyDatabase _ fun db hdb => ⟨⟨hdb.tableNames, hdb.tables⟩, rfl⟩

theorem Arises.storable (h : c.Arises Instant.Valid) : c.Storable := by
  induction h with
  | empty =>
    intro e he
    cases he
  | run database _ hnow hs ih =>
    obtain ⟨sql, kind, hparse⟩ := hs
    exact ih.run hnow database (Sql.readAs_of_parse hparse).defined
  | touch _ hnow _ _ ih => exact ih.modifyDatabase _ fun db hdb => hdb.touch hnow

end

/-- Whether every version in a catalog has 64 bits. -/
def VersionsFit (c : Catalog) : Prop :=
  ∀ e ∈ c.entries, e.2.version < UInt64.size

instance (c : Catalog) : Decidable c.VersionsFit :=
  inferInstanceAs (Decidable (∀ e ∈ c.entries, e.2.version < UInt64.size))

theorem Arises.versionsFit [RegexCompiler] {c : Catalog} {clock : Instant → Prop} (h : c.Arises clock) :
    c.VersionsFit := by
  induction h with
  | empty =>
    intro e he
    cases he
  | @run c now s database _ _ _ ih =>
    intro e he
    rcases (effect c now database s).mem_entries he with ⟨db, hdb, hheader⟩ | ⟨-, hnew⟩
    · rw [Database.version_of_header hheader]
      exact ih _ hdb
    · rw [hnew]
      decide
  | touch _ _ hdb hlt ih =>
    intro e he
    rw [modifyDatabase, hdb] at he
    rcases mem_put he with he | rfl
    · exact ih e he
    · exact hlt

end PocketSql.Catalog
