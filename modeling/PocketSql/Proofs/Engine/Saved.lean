/-
  PocketSql.Proofs.Engine.Saved — what an engine saves is what it loads.

  Every run of an engine over an empty store leads to a catalog that statements lead to
  (`arises_after`). The two documents of such a catalog lead back to it: to the databases in
  their order, each with all its parts, and to the selected one if it is there
  (`load_saved`). The reader of documents is trusted with floats only as far as those in
  the catalog go.
-/

import PocketSql.Proofs.Engine.Reopened
import PocketSql.Proofs.Execute.Arising

namespace PocketSql

/-- Whether every float in a catalog comes back from its digits. -/
def Catalog.FloatsExact (c : Catalog) : Prop :=
  ∀ e ∈ c.entries, ∀ t ∈ e.2.tables, t.Exact

instance (c : Catalog) : Decidable c.FloatsExact :=
  inferInstanceAs (Decidable (∀ e ∈ c.entries, ∀ t ∈ e.2.tables, t.Exact))

theorem Catalog.VersionsFit.exact {c : Catalog} (h : c.VersionsFit) (hx : c.FloatsExact) : c.Exact := by
  intro e he
  exact ⟨h e he, hx e he⟩

variable {σ : Type} [KeyValueStore σ]

/-! ## What engines come to hold -/

theorem Execution.arises [RegexCompiler] {x : Execution σ} {clock : Instant → Prop} (h : x.before.catalog.Arises clock)
    (hn : clock x.reading.now) (hv : x.after.catalog.VersionsFit) : x.after.catalog.Arises clock := by
  rcases x.catalog_after with ⟨-, hcatalog⟩ | ⟨statement, kind, s, -, hparse, hafter⟩
  · rwa [hcatalog]
  · have hran : (x.ran s).Arises clock := h.run x.target hn ⟨statement, kind, hparse⟩
    rw [hafter] at hv ⊢
    by_cases hc : (x.outcome.success && Engine.touches kind) = true
    · rw [if_pos hc] at hv ⊢
      cases hdb : (x.ran s).database? x.target with
      | some db =>
        have htouched := Catalog.database?_modifyDatabase hdb (·.touch x.reading.now)
        exact hran.touch hn hdb (hv _ (Catalog.mem_of_database? htouched))
      | none => simpa [Catalog.modifyDatabase, hdb] using hran
    · rwa [if_neg hc]

namespace Engine

variable {e : Engine σ}

/-- Every run over an empty store leads to a catalog that statements lead to. -/
theorem arises_after [RegexCompiler] {config : Config} {store : σ} {clock : Instant → Prop}
    (hempty : ∀ key, KeyValueStore.read store key = .ok none) (calls : List EngineCall)
    (hrun : ∀ x ∈ (opened config store).trace calls, clock x.reading.now ∧ x.after.catalog.VersionsFit) :
    ((opened config store).after calls).catalog.Arises clock := by
  let I (e : Engine σ) (xs : List (Execution σ)) : Prop :=
    (∀ x ∈ xs, clock x.reading.now ∧ x.after.catalog.VersionsFit) → e.catalog.Arises clock
  have hopened : I (opened config store) [] := by
    intro _
    rw [catalog_opened hempty]
    exact .empty
  have hexecute : ∀ x xs, I x.before xs → I x.after (xs ++ [x]) := by
    intro x xs ih hall
    obtain ⟨hn, hv⟩ := hall x (by simp)
    exact x.arises (ih fun y hy => hall y (List.mem_append_left _ hy)) hn hv
  have hclear : ∀ e xs, I e xs → I e.clearHistory xs := fun _ _ ih => ih
  exact trace_keeps hexecute hclear hopened calls hrun

/-! ## Saving and loading -/

/-- Both documents are in a store after it took them. -/
theorem storedIn_saved (hr : KeyValueStore.Reliable σ)
    (hk : e.config.databasesKey ≠ e.config.currentDatabaseKey) :
    e.catalog.StoredIn e.config e.saveDatabases.saveCurrent.store := by
  have hdatabases : KeyValueStore.read e.saveDatabases.saveCurrent.store e.config.databasesKey =
      .ok (some e.catalog.databasesText) :=
    (hr.read_other _ _ _ _ hk).trans (hr.read_write _ _ _)
  have hcurrent : KeyValueStore.read e.saveDatabases.saveCurrent.store e.config.currentDatabaseKey =
      .ok (some e.catalog.currentText) :=
    hr.read_write _ _ _
  exact ⟨⟨_, hdatabases, .inl rfl⟩, ⟨_, hcurrent, .inl rfl⟩⟩

/-- Loading undoes saving: it gives all databases as they are, and the selected one if it is
    there. -/
theorem load_saved [RegexCompiler] (hr : KeyValueStore.Reliable σ)
    (hk : e.config.databasesKey ≠ e.config.currentDatabaseKey) (h : e.catalog.Arises Instant.Valid) (hx : e.catalog.FloatsExact) :
    loadCatalog e.config e.saveDatabases.saveCurrent.store =
      .ok { e.catalog with current := e.catalog.current.filter e.catalog.hasDatabase } :=
  (storedIn_saved hr hk).load h.sound h.storable (h.versionsFit.exact hx)

theorem load_saved_of_insert :
    let create : Statement := .createTable
      { table := "it's"
        columns := [{ name := "e", type := .enum, members := ["a", "b"], default := some (.literal "a") },
          { name := "d", type := .double }]
        constraints := [⟨.uniqueKey, "UNIQUE (e)"⟩], ifNotExists := false, engine := none, charset := none }
    let insert : Statement := .insert
      { table := "it's", columns := some ["d"], rows := [[.number "0.5"], [.null]] }
    let written := ((Catalog.run {} ⟨0, 0⟩ "Shop" create).1.run ⟨1, 0⟩ "shop" insert).1
    let c := ((written.modifyDatabase "shop" (·.touch ⟨1, 0⟩)).run ⟨2, 0⟩ "" (.use "SHOP")).1
    let e : Engine Memory := { config := {}, catalog := c, history := { capacity := 100 }, store := {} }
    c.current = some "Shop" ∧
      (c.databases.map fun db => (db.version, db.tables.map (·.rows))) =
        [(2, [[[.text "a", .float ⟨0x3FE0000000000000⟩], [.text "a", .null]]])] ∧
      loadCatalog e.config e.saveDatabases.saveCurrent.store = .ok c := by
  intro create insert written c e
  have hcreate : create.Written :=
    ⟨"CREATE TABLE `it's` (e ENUM('a','b') DEFAULT 'a', d DOUBLE, UNIQUE (e))", .createTable, by decide +kernel⟩
  have hinsert : insert.Written := ⟨"INSERT INTO `it's` (d) VALUES (0.5), (NULL)", .insert, by decide +kernel⟩
  have huse : (Statement.use "SHOP").Written := ⟨"USE SHOP", .use, by decide +kernel⟩
  have hwritten : written.Arises Instant.Valid :=
    .run _ (.run _ .empty (by decide +kernel) hcreate) (by decide +kernel) hinsert
  have htouched : (written.modifyDatabase "shop" (·.touch ⟨1, 0⟩)).Arises Instant.Valid := by
    obtain ⟨db, hdb, hversion⟩ : ∃ db, written.database? "shop" = some db ∧ db.version = 1 :=
      Option.map_eq_some_iff.mp (by decide +kernel : (written.database? "shop").map (·.version) = some 1)
    exact hwritten.touch (by decide +kernel) hdb (by rw [hversion]; decide)
  have hc : c.Arises Instant.Valid := .run _ htouched (by decide +kernel) huse
  have hrest : c.FloatsExact ∧ c.current.filter c.hasDatabase = c.current ∧ c.current = some "Shop" ∧
      (c.databases.map fun db => (db.version, db.tables.map (·.rows))) =
        [(2, [[[.text "a", .float ⟨0x3FE0000000000000⟩], [.text "a", .null]]])] := by decide +kernel
  obtain ⟨hexact, hfilter, hcurrent, hrows⟩ := hrest
  clear_value c
  have hload := load_saved (e := e) Memory.reliable Config.distinctKeys_default.databases_current hc hexact
  simp only [e, hfilter] at hload
  exact ⟨hcurrent, hrows, hload⟩

end Engine

end PocketSql
