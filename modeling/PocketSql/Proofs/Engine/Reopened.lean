/-
  PocketSql.Proofs.Engine.Reopened — what a new engine finds in the store.

  The databases are written after every statement that succeeds, if it is of a kind that
  changes what is stored or has created its database. A statement that fails writes none,
  although the database that it runs in is created on first access. So a new engine over
  the same store lacks exactly the databases that failed statements created since the
  databases were last written; these have no tables (`reopened_eq`). It selects the same
  database, where it finds that one.
-/

import Mathlib.Data.List.DropRight
import PocketSql.Proofs.Document.Schema
import PocketSql.Proofs.Engine.Run
import PocketSql.Proofs.Execute.Frame
import PocketSql.Proofs.Sql.Yields
import PocketSql.Proofs.Store.Reliable

namespace PocketSql

/-- Whether no document of an engine overwrites another. -/
structure Config.DistinctKeys (config : Config) : Prop where
  databases_current : config.databasesKey ≠ config.currentDatabaseKey
  databases_history : config.databasesKey ≠ config.historyKey
  current_history : config.currentDatabaseKey ≠ config.historyKey

theorem Config.distinctKeys_default : ({} : Config).DistinctKeys :=
  ⟨by decide, by decide, by decide⟩

theorem Config.distinctKeys_withKeyPrefix (config : Config) (name : String) :
    (config.withKeyPrefix name).DistinctKeys := by
  constructor <;> simp [withKeyPrefix]

variable {σ : Type} [KeyValueStore σ]

/-! ## Documents in a store -/

/-- A store has the documents of a catalog. One that was never written stands for no
    databases, or for none selected. -/
structure Catalog.StoredIn (c : Catalog) (config : Config) (store : σ) : Prop where
  databases : ∃ document, KeyValueStore.read store config.databasesKey = .ok document ∧
    (document = some c.databasesText ∨ document = none ∧ c.entries = [])
  current : ∃ document, KeyValueStore.read store config.currentDatabaseKey = .ok document ∧
    (document = some c.currentText ∨ document = none ∧ c.current = none)

namespace Catalog.StoredIn

variable {c stored : Catalog} {config : Config} {store : σ}

theorem write_databases (hr : KeyValueStore.Reliable σ) (hk : config.DistinctKeys) (h : stored.StoredIn config store)
    (c : Catalog) :
    Catalog.StoredIn { stored with entries := c.entries } config
      (KeyValueStore.write store config.databasesKey c.databasesText).1 := by
  refine ⟨⟨_, hr.read_write .., .inl rfl⟩, ?_⟩
  rw [hr.read_other _ _ _ _ hk.databases_current.symm]
  exact h.current

theorem write_current (hr : KeyValueStore.Reliable σ) (hk : config.DistinctKeys) (h : stored.StoredIn config store)
    (c : Catalog) :
    Catalog.StoredIn { stored with current := c.current } config
      (KeyValueStore.write store config.currentDatabaseKey c.currentText).1 := by
  refine ⟨?_, ⟨_, hr.read_write .., .inl rfl⟩⟩
  rw [hr.read_other _ _ _ _ hk.databases_current]
  exact h.databases

theorem write_history (hr : KeyValueStore.Reliable σ) (hk : config.DistinctKeys) (h : stored.StoredIn config store)
    (document : String) : stored.StoredIn config (KeyValueStore.write store config.historyKey document).1 := by
  refine ⟨?_, ?_⟩
  · rw [hr.read_other _ _ _ _ hk.databases_history]
    exact h.databases
  · rw [hr.read_other _ _ _ _ hk.current_history]
    exact h.current

/-- What is read from the documents is the catalog, where only a database that is there is
    selected. -/
theorem load (h : c.StoredIn config store) (hs : c.Sound) (hst : c.Storable) (hx : c.Exact) :
    Engine.loadCatalog config store = .ok { c with current := c.current.filter c.hasDatabase } := by
  obtain ⟨databases, hdatabases, hd⟩ := h.databases
  obtain ⟨current, hcurrent, hc⟩ := h.current
  exact bind_eq_ok.mpr ⟨_, hdatabases, bind_eq_ok.mpr ⟨_, hcurrent, ofTexts_eq hs hst hx hd hc⟩⟩

theorem opened (h : c.StoredIn config store) (hs : c.Sound) (hst : c.Storable) (hx : c.Exact) :
    (Engine.opened config store).catalog = { c with current := c.current.filter c.hasDatabase } := by
  rw [Engine.opened, h.load hs hst hx]
  rfl

end Catalog.StoredIn

/-! ## Statements -/

section Statements

variable [RegexCompiler]

namespace Execution

/-- Whether a statement is of a kind that changes what is stored. -/
def isMutation (x : Execution σ) : Bool :=
  match Engine.prepare x.sql with
  | .ok (_, kind) => kind.isMutation
  | .error _ => false

/-- Whether the databases are written after a statement. -/
def writes (x : Execution σ) : Bool :=
  x.outcome.success &&
    (x.isMutation || x.after.catalog.databases.length != x.before.catalog.databases.length)

theorem not_writes_of_failed {x : Execution σ} (h : x.outcome.success = false) : x.writes = false := by
  rw [writes, h, Bool.false_and]

theorem writes_of_succeeded {x : Execution σ} {statement : String} {kind : Sql.Kind}
    (hp : Engine.prepare x.sql = .ok (statement, kind)) (h : x.outcome.success = true) :
    x.writes = (kind.isMutation || x.after.catalog.databases.length != x.before.catalog.databases.length) := by
  rw [writes, h, Bool.true_and, isMutation, hp]

/-- The databases that were not there before a statement, where it keeps the others. -/
def added (x : Execution σ) : List (String × Database) :=
  x.after.catalog.entries.drop x.before.catalog.entries.length

/-- Whether a statement, if it fails, leaves the databases that were there as they were. -/
def Harmless (x : Execution σ) : Prop :=
  x.outcome.success = false → x.before.catalog.entries <+: x.after.catalog.entries

instance (x : Execution σ) : Decidable x.Harmless :=
  inferInstanceAs (Decidable (x.outcome.success = false → x.before.catalog.entries <+: x.after.catalog.entries))

end Execution

/-- The statements executed since the databases were last written. -/
def unwritten (xs : List (Execution σ)) : List (Execution σ) :=
  xs.rtakeWhile fun x => !x.writes

end Statements

/-- An engine whose store has the documents of `stored`, a catalog that selects the same
    database. -/
structure Engine.Holds (config : Config) (e : Engine σ) (stored : Catalog) : Prop where
  configured : e.config = config
  sound : e.catalog.Sound
  storable : e.catalog.Storable
  storedSound : stored.Sound
  storedStorable : stored.Storable
  storedExact : stored.Exact
  selected : stored.current = e.catalog.current
  storedIn : stored.StoredIn config e.store

namespace Engine.Holds

variable {config : Config} {e : Engine σ} {stored : Catalog}

theorem saveHistory (hr : KeyValueStore.Reliable σ) (hk : config.DistinctKeys) (h : e.Holds config stored)
    (history : History) : ({ e with history }.saveHistory).Holds config stored := by
  refine ⟨h.configured, h.sound, h.storable, h.storedSound, h.storedStorable, h.storedExact, h.selected, ?_⟩
  unfold Engine.saveHistory save
  dsimp only
  rw [h.configured]
  exact h.storedIn.write_history hr hk _

/-- After a statement of a kind that changes what is stored, both documents are written. -/
theorem saveBoth (hr : KeyValueStore.Reliable σ) (hk : config.DistinctKeys) (h : e.Holds config stored) {c : Catalog}
    (hs : c.Sound) (hst : c.Storable) (hx : c.Exact) :
    ({ e with catalog := c }.saveDatabases.saveCurrent).Holds config c := by
  refine ⟨h.configured, hs, hst, hs, hst, hx, rfl, ?_⟩
  unfold saveDatabases saveCurrent save
  dsimp only
  rw [h.configured]
  exact (h.storedIn.write_databases hr hk c).write_current hr hk c

/-- A catalog that selects the same database, before anything is written. -/
theorem withCatalog (h : e.Holds config stored) {c : Catalog} (hs : c.Sound) (hst : c.Storable)
    (hc : c.current = e.catalog.current) : { e with catalog := c }.Holds config stored :=
  ⟨h.configured, hs, hst, h.storedSound, h.storedStorable, h.storedExact, h.selected.trans hc.symm, h.storedIn⟩

/-- After a statement that only reads, the databases are written if there is a new one,
    and the selection is after a USE. -/
theorem afterReads (hr : KeyValueStore.Reliable σ) (hk : config.DistinctKeys) (h : e.Holds config stored) {c : Catalog}
    (hs : c.Sound) (hst : c.Storable) (now : Instant) (target : String) {kind : Sql.Kind} {result : QueryResult}
    {before : Nat} (hm : kind.isMutation = false) (hx : c.databases.length ≠ before → c.Exact)
    (hu : kind = .use → result.database.isSome = true) (hc : kind ≠ .use → c.current = e.catalog.current) :
    ({ e with catalog := c }.afterSuccess now kind target result before).Holds config
      { entries := if c.databases.length = before then stored.entries else c.entries, current := c.current } := by
  let entries := if c.databases.length = before then stored.entries else c.entries
  obtain ⟨e', he', hconfig, hcatalog, hstored⟩ : ∃ e', (if c.databases.length != before then
      { e with catalog := c }.saveDatabases else { e with catalog := c }) = e' ∧ e'.config = config ∧
      e'.catalog = c ∧ Catalog.StoredIn { stored with entries } config e'.store := by
    by_cases hl : c.databases.length = before
    · refine ⟨_, if_neg (by simp [hl]), h.configured, rfl, ?_⟩
      simp only [entries, if_pos hl]
      exact h.storedIn
    · refine ⟨_, if_pos (by simp [hl]), h.configured, rfl, ?_⟩
      simp only [entries, if_neg hl]
      unfold saveDatabases save
      dsimp only
      rw [h.configured]
      exact h.storedIn.write_databases hr hk c
  obtain ⟨hsound, hstorable, hexact⟩ : Catalog.Sound { entries, current := c.current } ∧
      Catalog.Storable { entries, current := c.current } ∧ Catalog.Exact { entries, current := c.current } := by
    by_cases hl : c.databases.length = before
    · simp only [entries, if_pos hl]
      exact ⟨⟨h.storedSound.keyed, h.storedSound.keys, h.storedSound.databases⟩, h.storedStorable, h.storedExact⟩
    · simp only [entries, if_neg hl]
      exact ⟨hs, hst, hx hl⟩
  unfold afterSuccess
  rw [if_neg (by simp [hm])]
  dsimp only
  rw [he']
  by_cases hkind : kind = .use
  · rw [if_pos (by simp [hkind, hu hkind])]
    refine ⟨hconfig, hcatalog ▸ hs, hcatalog ▸ hst, hsound, hstorable, hexact, hcatalog ▸ rfl, ?_⟩
    unfold saveCurrent save
    dsimp only
    rw [hconfig, hcatalog]
    exact hstored.write_current hr hk c
  · rw [if_neg (by simp [hkind])]
    refine ⟨hconfig, hcatalog ▸ hs, hcatalog ▸ hst, hsound, hstorable, hexact, hcatalog ▸ rfl, ?_⟩
    rw [hc hkind, ← h.selected]
    exact hstored

variable [RegexCompiler]

/-- After a statement, the store has the databases from when they were last written. -/
theorem execute (hr : KeyValueStore.Reliable σ) (hk : config.DistinctKeys) {x : Execution σ}
    (h : x.before.Holds config stored) (hn : x.reading.now.Valid) (hx : x.writes = true → x.after.catalog.Exact) :
    x.after.Holds config
      { entries := if x.writes then x.after.catalog.entries else stored.entries
        current := x.after.catalog.current } := by
  have hsame : ∀ e : Engine σ, e.Holds config stored → x.writes = false → e.Holds config
      { entries := if x.writes then e.catalog.entries else stored.entries, current := e.catalog.current } := by
    intro e he hw
    rw [hw, ← he.selected]
    exact he
  cases x.does with
  | unrecognized hp ha ho =>
    have hw : x.writes = false := Execution.not_writes_of_failed (by rw [ho]; rfl)
    rw [ha]
    exact hsame _ h hw
  | unreadable hp hparse ha ho =>
    have hw : x.writes = false := Execution.not_writes_of_failed (by rw [ho]; rfl)
    rw [ha]
    exact hsame _ (h.saveHistory hr hk _) hw
  | @failed statement kind s c f hp hparse hrun ha ho =>
    have hw : x.writes = false := Execution.not_writes_of_failed (by rw [ho]; rfl)
    have hdefined := (Sql.readAs_of_parse hparse).defined
    have hs := h.sound.run x.reading.now x.target hdefined
    have hst := h.storable.run hn x.target hdefined
    have hc := Catalog.current_of_error (f := f) (by rw [hrun])
    rw [hrun] at hs hst hc
    rw [ha]
    exact hsame _ ((h.withCatalog hs hst hc).saveHistory hr hk _) hw
  | @succeeded statement kind s c result hp hparse hrun ha ho =>
    obtain ⟨hkind, hdefined⟩ := Sql.readAs_of_parse hparse
    have hs := h.sound.run x.reading.now x.target hdefined
    have hst := h.storable.run hn x.target hdefined
    rw [hrun] at hs hst
    have hwrites := Execution.writes_of_succeeded hp (by rw [ho, Outcome.success_ofResult])
    cases hm : kind.isMutation with
    | true =>
      have hw : x.writes = true := by rw [hwrites, hm, Bool.true_or]
      let c' := if touches kind then c.modifyDatabase x.target (·.touch x.reading.now) else c
      have hafter : { x.before with catalog := c }.afterSuccess x.reading.now kind x.target result
          x.before.catalog.databases.length = { x.before with catalog := c' }.saveDatabases.saveCurrent := by
        unfold afterSuccess
        rw [if_pos hm]
      have hs' : c'.Sound := by
        simp only [c']
        split
        · exact hs.modifyDatabase _ fun db hdb => ⟨⟨hdb.tableNames, hdb.tables⟩, rfl⟩
        · exact hs
      have hst' : c'.Storable := by
        simp only [c']
        split
        · exact hst.modifyDatabase _ fun db hdb => hdb.touch hn
        · exact hst
      have hx' := hx hw
      rw [ha, hafter] at hx'
      rw [hw, ha, hafter]
      exact (h.saveBoth hr hk hs' hst' hx').saveHistory hr hk _
    | false =>
      have hcatalog : x.after.catalog = c := by
        rw [ha, catalog_recordHistory, catalog_afterSuccess, if_neg (by simp [touches, hm])]
      have hnew : x.writes = true ↔ c.databases.length ≠ x.before.catalog.databases.length := by
        simp [hwrites, hm, hcatalog]
      have hentries : (if c.databases.length = x.before.catalog.databases.length then stored.entries else c.entries) =
          if x.writes then c.entries else stored.entries := by
        by_cases hl : c.databases.length = x.before.catalog.databases.length
        · rw [if_pos hl, if_neg (fun h => hnew.mp h hl)]
        · rw [if_neg hl, if_pos (hnew.mpr hl)]
      have huse : kind = .use → result.database.isSome = true := fun hu =>
        Catalog.isSome_of_use (hkind.trans hu) (congrArg Prod.snd hrun)
      have hcurrent : kind ≠ .use → c.current = x.before.catalog.current := by
        intro hu
        have hc : (x.before.catalog.run x.reading.now x.target s).1.current = x.before.catalog.current :=
          Catalog.current_of_reads (by rw [hkind, hm]) (by rw [hkind]; exact hu)
        rw [hrun] at hc
        exact hc
      rw [hcatalog] at hx
      have hafter := h.afterReads hr hk hs hst x.reading.now x.target hm (fun hl => hx (hnew.mpr hl)) huse hcurrent
      rw [hentries] at hafter
      rw [hcatalog, ha]
      exact hafter.saveHistory hr hk _

end Engine.Holds

namespace Execution

variable [RegexCompiler]

/-- Only an INSERT may leave something behind when it fails. -/
theorem harmless_of_kind {x : Execution σ} {statement : String} {kind : Sql.Kind} (hs : x.before.catalog.Sound)
    (hp : Engine.prepare x.sql = .ok (statement, kind)) (hk : kind ≠ .insert) : x.Harmless := by
  intro hfailed
  cases x.does with
  | unrecognized hp ha ho => exact ha.symm ▸ List.prefix_rfl
  | unreadable hp hparse ha ho => exact ha.symm ▸ List.prefix_rfl
  | succeeded hp hparse hrun ha ho => simp [ho, Outcome.success_ofResult] at hfailed
  | @failed statement' kind' s c f hp' hparse hrun ha ho =>
    obtain ⟨rfl, rfl⟩ : statement = statement' ∧ kind = kind' := by simpa [hp] using hp'
    have hinsert : ∀ i, s ≠ .insert i := fun i hi => hk (by rw [← (Sql.readAs_of_parse hparse).kind, hi]; rfl)
    have hkept : x.before.catalog.entries <+: (x.before.catalog.run x.reading.now x.target s).1.entries :=
      Catalog.prefix_of_error (f := f) hs.keys hinsert (by rw [hrun])
    rw [ha, Engine.catalog_recordHistory]
    rwa [hrun] at hkept

/-- Where the databases are not written, they are those from before and the new ones, which
    have no tables. -/
theorem entries_of_not_writes {x : Execution σ} (hs : x.before.catalog.Sound) (hw : x.writes = false)
    (hx : x.Harmless) :
    x.after.catalog.entries = x.before.catalog.entries ++ x.added ∧ ∀ d ∈ x.added, d.2.tables = [] := by
  suffices h : ∃ new, x.after.catalog.entries = x.before.catalog.entries ++ new ∧ ∀ d ∈ new, d.2.tables = [] by
    obtain ⟨new, hnew, htables⟩ := h
    have hadded : x.added = new := by rw [added, hnew, List.drop_left]
    rw [hadded]
    exact ⟨hnew, htables⟩
  cases x.does with
  | unrecognized hp ha ho => exact ⟨[], by rw [ha, List.append_nil], by simp⟩
  | unreadable hp hparse ha ho => exact ⟨[], by rw [ha, Engine.catalog_recordHistory, List.append_nil], by simp⟩
  | @failed statement kind s c f hp hparse hrun ha ho =>
    have hcatalog : x.after.catalog = (x.before.catalog.run x.reading.now x.target s).1 := by
      rw [ha, Engine.catalog_recordHistory, hrun]
    have hkept := hx (by simp [ho, Outcome.ofFault])
    rw [hcatalog] at hkept ⊢
    exact Catalog.added_of_error (f := f) (by rw [hrun]) hkept
  | @succeeded statement kind s c result hp hparse hrun ha ho =>
    have hkind := (Sql.readAs_of_parse hparse).kind
    rw [writes_of_succeeded hp (by rw [ho, Outcome.success_ofResult]), Bool.or_eq_false_iff] at hw
    obtain ⟨hm, hl⟩ := hw
    have hcatalog : x.after.catalog = (x.before.catalog.run x.reading.now x.target s).1 := by
      rw [ha, Engine.catalog_recordHistory, Engine.catalog_afterSuccess, if_neg (by simp [Engine.touches, hm]), hrun]
    rw [hcatalog] at hl ⊢
    rcases Catalog.entries_of_reads hs.keys (by rw [hkind, hm]) with he | ⟨d, hd⟩
    · exact ⟨[], by rw [he, List.append_nil], by simp⟩
    · simp [Catalog.databases, hd] at hl

end Execution

/-! ## Runs -/

namespace Engine

variable {config : Config} {store : σ}

theorem catalog_opened (hempty : ∀ key, KeyValueStore.read store key = .ok none) :
    (opened config store).catalog = {} := by
  have hload : loadCatalog config store = .ok {} := by
    unfold loadCatalog
    rw [hempty, hempty]
    rfl
  rw [opened, hload]
  rfl

theorem holds_opened (hempty : ∀ key, KeyValueStore.read store key = .ok none) :
    (opened config store).Holds config {} := by
  have hcatalog : (opened config store).catalog = {} := catalog_opened hempty
  have hstorable : Catalog.Storable {} := by simp [Catalog.Storable]
  refine ⟨rfl, hcatalog ▸ Catalog.sound_empty, hcatalog ▸ hstorable, Catalog.sound_empty, hstorable,
    by simp [Catalog.Exact], hcatalog ▸ rfl, ⟨_, hempty _, .inr ⟨rfl, rfl⟩⟩, ⟨_, hempty _, .inr ⟨rfl, rfl⟩⟩⟩

section Reopening

variable [RegexCompiler]

/-- After every run, the store has the databases from when they were last written. -/
theorem holds_after (hr : KeyValueStore.Reliable σ) (hk : config.DistinctKeys)
    (hempty : ∀ key, KeyValueStore.read store key = .ok none) (calls : List EngineCall)
    (hnow : ∀ x ∈ (opened config store).trace calls, x.reading.now.Valid)
    (hexact : ∀ x ∈ (opened config store).trace calls, x.writes = true → x.after.catalog.Exact) :
    ∃ stored, ((opened config store).after calls).Holds config stored ∧
      ((∀ x ∈ unwritten ((opened config store).trace calls), x.Harmless) →
        ((opened config store).after calls).catalog.entries =
          stored.entries ++ (unwritten ((opened config store).trace calls)).flatMap Execution.added ∧
        ∀ d ∈ (unwritten ((opened config store).trace calls)).flatMap Execution.added, d.2.tables = []) := by
  let I (e : Engine σ) (xs : List (Execution σ)) : Prop :=
    (∀ x ∈ xs, x.reading.now.Valid) → (∀ x ∈ xs, x.writes = true → x.after.catalog.Exact) →
      ∃ stored, e.Holds config stored ∧ ((∀ x ∈ unwritten xs, x.Harmless) →
        e.catalog.entries = stored.entries ++ (unwritten xs).flatMap Execution.added ∧
          ∀ d ∈ (unwritten xs).flatMap Execution.added, d.2.tables = [])
  have hopened : I (opened config store) [] := by
    intro _ _
    refine ⟨{}, holds_opened hempty, fun _ => ⟨?_, by simp [unwritten]⟩⟩
    rw [catalog_opened hempty]
    rfl
  have hexecute : ∀ x xs, I x.before xs → I x.after (xs ++ [x]) := by
    intro x xs ih hnow hexact
    obtain ⟨stored, hholds, hrest⟩ := ih (fun y hy => hnow y (List.mem_append_left _ hy))
      (fun y hy => hexact y (List.mem_append_left _ hy))
    refine ⟨_, hholds.execute hr hk (hnow x (by simp)) (hexact x (by simp)), fun hharmless => ?_⟩
    cases hw : x.writes with
    | true =>
      have hall : unwritten (xs ++ [x]) = [] := List.rtakeWhile_concat_neg _ _ _ (by simp [hw])
      simp [hall]
    | false =>
      have hall : unwritten (xs ++ [x]) = unwritten xs ++ [x] := List.rtakeWhile_concat_pos _ _ _ (by simp [hw])
      rw [hall] at hharmless ⊢
      obtain ⟨hentries, htables⟩ := hrest fun y hy => hharmless y (List.mem_append_left _ hy)
      obtain ⟨hadded, hempties⟩ := Execution.entries_of_not_writes hholds.sound hw (hharmless x (by simp))
      rw [List.flatMap_append, List.flatMap_singleton]
      refine ⟨?_, fun d hd => ?_⟩
      · rw [hadded, hentries, List.append_assoc]
        rfl
      · rcases List.mem_append.mp hd with hd | hd
        · exact htables d hd
        · exact hempties d hd
  have hclear : ∀ e xs, I e xs → I e.clearHistory xs := by
    intro e xs ih hnow hexact
    obtain ⟨stored, hholds, hrest⟩ := ih hnow hexact
    exact ⟨stored, hholds.saveHistory hr hk _, hrest⟩
  exact trace_keeps hexecute hclear hopened calls hnow hexact

/-- An engine that is opened anew over the same store finds the databases in their order,
    with all that is in them, but for those that failed statements created since the
    databases were last written, which have no tables; and it selects the same database,
    where it finds that one. This holds after every run over a store that starts empty and
    takes every value, if the statements that failed since then changed no database that was
    there, and every float that was written comes back from its digits. -/
theorem reopened_eq (hr : KeyValueStore.Reliable σ) (hk : config.DistinctKeys)
    (hempty : ∀ key, KeyValueStore.read store key = .ok none) (calls : List EngineCall)
    (hnow : ∀ x ∈ (opened config store).trace calls, x.reading.now.Valid)
    (hexact : ∀ x ∈ (opened config store).trace calls, x.writes = true → x.after.catalog.Exact)
    (hharmless : ∀ x ∈ unwritten ((opened config store).trace calls), x.Harmless) :
    let e := (opened config store).after calls
    let reopened := (opened config e.store).catalog
    let lacking := (unwritten ((opened config store).trace calls)).flatMap Execution.added
    e.catalog.entries = reopened.entries ++ lacking ∧ (∀ d ∈ lacking, d.2.tables = []) ∧
      reopened.current = e.catalog.current.filter reopened.hasDatabase := by
  intro e reopened lacking
  obtain ⟨stored, hholds, hrest⟩ := holds_after hr hk hempty calls hnow hexact
  obtain ⟨hentries, htables⟩ := hrest hharmless
  have hreopened : reopened = { stored with current := stored.current.filter stored.hasDatabase } :=
    hholds.storedIn.opened hholds.storedSound hholds.storedStorable hholds.storedExact
  rw [hreopened]
  refine ⟨hentries, htables, ?_⟩
  rw [← hholds.selected]
  rfl

end Reopening

theorem reopened_eq_of_batch :
    let calls : List EngineCall :=
      [.batch (fun n => ⟨⟨n, 0⟩, .zero⟩) "app" "CREATE TABLE t (a DOUBLE); INSERT INTO t VALUES (0.5)",
        .execute ⟨⟨2, 0⟩, .zero⟩ "other" "SELECT * FROM t"]
    let e := (opened {} ({} : Memory)).after calls
    let reopened := (opened {} e.store).catalog
    (e.catalog.entries.map fun d => (d.1, d.2.tables.map (·.rows))) =
        [("app", [[[.float ⟨0x3FE0000000000000⟩]]]), ("other", [])] ∧
      e.catalog.entries = reopened.entries ++ [("other", .empty "other" ⟨2, 0⟩)] := by
  intro calls e reopened
  let trace := (opened {} ({} : Memory)).trace calls
  have hrun : (∀ x ∈ trace, x.reading.now.Valid) ∧ (∀ x ∈ trace, x.writes = true → x.after.catalog.Exact) ∧
      (∀ x ∈ unwritten trace, x.Harmless) ∧
      (unwritten trace).flatMap Execution.added = [("other", .empty "other" ⟨2, 0⟩)] ∧
      (e.catalog.entries.map fun d => (d.1, d.2.tables.map (·.rows))) =
        [("app", [[[.float ⟨0x3FE0000000000000⟩]]]), ("other", [])] := by decide +kernel
  obtain ⟨hnow, hexact, hharmless, hlacking, hentries⟩ := hrun
  have hempty : ∀ key, KeyValueStore.read ({} : Memory) key = .ok none := fun _ => rfl
  have h := reopened_eq Memory.reliable Config.distinctKeys_default hempty calls hnow hexact hharmless
  rw [hlacking] at h
  exact ⟨hentries, h.1⟩

/-- The database that a failed statement created is not in the store. -/
theorem reopened_ne_of_failed :
    let e := (opened {} ({} : Memory)).after [.execute ⟨⟨0, 0⟩, .zero⟩ "app" "SELECT * FROM missing"]
    e.catalog.databases = [.empty "app" ⟨0, 0⟩] ∧ (opened {} e.store).catalog.databases = [] := by
  decide +kernel

end Engine

end PocketSql
