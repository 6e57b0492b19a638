/-
  PocketSql.Proofs.Engine.WrittenThrough — what a statement changes is in the store.

  Which documents are written depends on the kind of a statement and on the number of
  databases before and after it, never on what it changed (`log_after`). Yet every change
  that a success makes is written: to the databases, and to which one is selected. A
  statement that fails writes neither document. The version of a database counts the
  statements that changed it, one by one (`exists_written`). Of an engine this only asks
  that no two of its databases have the same key, which no engine violates
  (`nodup_after`), and that the versions it counts to have 64 bits.
-/

import PocketSql.Proofs.Engine.Saved
import PocketSql.Store.Observed

namespace PocketSql

/-! ## Logs of writes -/

/-- Whether `log` tells every write that a store was asked for, refused or not, latest
    last. -/
def KeyValueStore.Logs {σ : Type} [KeyValueStore σ] (log : σ → List (String × String)) : Prop :=
  ∀ (s : σ) key value, log (write s key value).1 = log s ++ [(key, value)]

theorem Observed.logs : KeyValueStore.Logs fun s : Observed => s.attempts.reverse := by
  intro s key value
  show (Observed.write s key value).1.attempts.reverse = _
  unfold Observed.write
  split <;> simp

variable {σ : Type} [KeyValueStore σ] {log : σ → List (String × String)}

/-! ## What is written -/

namespace Execution

variable [RegexCompiler]

/-- The kind of a statement, if it is recognized. -/
def kind? (x : Execution σ) : Option Sql.Kind :=
  (Engine.prepare x.sql).toOption.map (·.2)

/-- Whether the name of the selected database is written after a statement. -/
def selects (x : Execution σ) : Bool :=
  x.outcome.success && (x.isMutation || x.kind? == some .use)

/-- What is written after a statement, in this order. -/
def documents (x : Execution σ) : List (String × String) :=
  (if x.writes then [(x.before.config.databasesKey, x.after.catalog.databasesText)] else []) ++
    (if x.selects then [(x.before.config.currentDatabaseKey, x.after.catalog.currentText)] else []) ++
      if x.kind?.isSome then [(x.before.config.historyKey, x.after.history.text)] else []

end Execution

namespace Engine

variable {e : Engine σ} {now : Instant} {kind : Sql.Kind} {target : String} {result : QueryResult} {before : Nat}

theorem log_save (hlog : KeyValueStore.Logs log) (e : Engine σ) (key document : String) :
    log (e.save key document).store = log e.store ++ [(key, document)] :=
  hlog e.store key document

theorem log_of_mutation (hlog : KeyValueStore.Logs log) (hm : kind.isMutation = true) :
    log (e.afterSuccess now kind target result before).store =
      log e.store ++ [(e.config.databasesKey, (e.afterSuccess now kind target result before).catalog.databasesText),
        (e.config.currentDatabaseKey, (e.afterSuccess now kind target result before).catalog.currentText)] := by
  have hafter : e.afterSuccess now kind target result before =
      { e with catalog := (e.afterSuccess now kind target result before).catalog }.saveDatabases.saveCurrent := by
    rw [catalog_afterSuccess, afterSuccess, if_pos hm]
  generalize (e.afterSuccess now kind target result before).catalog = c at hafter ⊢
  rw [hafter, saveCurrent, log_save hlog, saveDatabases, log_save hlog, List.append_assoc]
  rfl

theorem log_of_reads (hlog : KeyValueStore.Logs log) (hm : kind.isMutation = false)
    (hu : kind = .use → result.database.isSome = true) :
    log (e.afterSuccess now kind target result before).store =
      log e.store ++
        (if e.catalog.databases.length != before then [(e.config.databasesKey, e.catalog.databasesText)] else []) ++
          if kind == .use then [(e.config.currentDatabaseKey, e.catalog.currentText)] else [] := by
  have hsome : (kind == .use && result.database.isSome) = (kind == .use) := by
    by_cases hkind : kind = .use
    · simp [hkind, hu hkind]
    · simp [hkind]
  unfold afterSuccess
  rw [if_neg (by simp [hm]), hsome]
  dsimp only
  cases e.catalog.databases.length != before <;> cases kind == Sql.Kind.use <;>
    simp [saveCurrent, saveDatabases, log_save hlog]

theorem log_recordHistory (hlog : KeyValueStore.Logs log) (e : Engine σ) (r : Reading) (statement : String)
    (o : Outcome) :
    log (e.recordHistory r statement o).store =
      log e.store ++ [(e.config.historyKey, (e.recordHistory r statement o).history.text)] :=
  hlog e.store _ _

end Engine

namespace Execution

variable {x : Execution σ} {statement : String} {kind : Sql.Kind}

omit [KeyValueStore σ] in
theorem kind?_of_prepare (hp : Engine.prepare x.sql = .ok (statement, kind)) : x.kind? = some kind := by
  rw [kind?, hp]
  rfl

omit [KeyValueStore σ] in
theorem isMutation_of_prepare (hp : Engine.prepare x.sql = .ok (statement, kind)) :
    x.isMutation = kind.isMutation := by
  rw [isMutation, hp]

section Documents

variable [RegexCompiler]

theorem documents_of_failed (h : x.outcome.success = false) :
    x.documents = if x.kind?.isSome then [(x.before.config.historyKey, x.after.history.text)] else [] := by
  rw [documents, not_writes_of_failed h, selects, h]
  rfl

/-- These documents are all that is written. -/
theorem log_after (hlog : KeyValueStore.Logs log) (x : Execution σ) :
    log x.after.store = log x.before.store ++ x.documents := by
  cases x.does with
  | unrecognized hp ha ho =>
    have hkind : x.kind? = none := by
      rw [kind?, hp]
      rfl
    rw [documents_of_failed (by rw [ho]; rfl), hkind, ha]
    simp
  | unreadable hp hparse ha ho =>
    rw [documents_of_failed (by rw [ho]; rfl), kind?_of_prepare hp, ha, Engine.log_recordHistory hlog]
    rfl
  | failed hp hparse hrun ha ho =>
    rw [documents_of_failed (by rw [ho]; rfl), kind?_of_prepare hp, ha, Engine.log_recordHistory hlog]
    rfl
  | @succeeded statement kind s c result hp hparse hrun ha ho =>
    -- `e'` has the final catalog: all that is left to write is the history.
    let e : Engine σ := { x.before with catalog := c }
    let e' := e.afterSuccess x.reading.now kind x.target result x.before.catalog.databases.length
    have hs : x.outcome.success = true := by rw [ho, Outcome.success_ofResult]
    have hconfig : e'.config = x.before.config := Engine.config_afterSuccess ..
    have hcatalog : x.after.catalog = e'.catalog := by rw [ha, Engine.catalog_recordHistory]
    have hlogged : log x.after.store = log e'.store ++ [(x.before.config.historyKey, x.after.history.text)] := by
      rw [ha, Engine.log_recordHistory hlog]
      exact congrArg (fun config => log e'.store ++ [(Config.historyKey config, _)]) hconfig
    cases hm : kind.isMutation with
    | true =>
      have hwrites : x.writes = true := by rw [writes_of_succeeded hp hs, hm, Bool.true_or]
      have hselects : x.selects = true := by rw [selects, hs, isMutation_of_prepare hp, hm]; rfl
      have hdocuments : log e'.store = log x.before.store ++ [_, _] := Engine.log_of_mutation hlog hm
      rw [hlogged, hdocuments]
      simp [documents, hwrites, hselects, kind?_of_prepare hp, hcatalog, e, e']
    | false =>
      have hkept : e'.catalog = c := by
        simp [e', e, Engine.catalog_afterSuccess, Engine.touches, hm]
      have hwrites : x.writes = (c.databases.length != x.before.catalog.databases.length) := by
        rw [writes_of_succeeded hp hs, hm, Bool.false_or, hcatalog, hkept]
      have hselects : x.selects = (kind == .use) := by
        simp [selects, hs, isMutation_of_prepare hp, hm, kind?_of_prepare hp]
      have huse : kind = .use → result.database.isSome = true := fun hu =>
        Catalog.isSome_of_use ((Sql.readAs_of_parse hparse).kind.trans hu) (congrArg Prod.snd hrun)
      rw [hlogged, Engine.log_of_reads hlog hm huse]
      simp [documents, hwrites, hselects, kind?_of_prepare hp, hcatalog, hkept, e]

/-! ## What a change leads to -/

/-- Whether a statement is counted as a change to the database that it runs in. -/
def counts (x : Execution σ) : Bool :=
  x.outcome.success && x.kind?.any Engine.touches

theorem counts_of_prepare (hp : Engine.prepare x.sql = .ok (statement, kind)) :
    x.counts = (x.outcome.success && Engine.touches kind) := by
  rw [counts, kind?_of_prepare hp]
  rfl

omit [KeyValueStore σ] in
theorem effect (x : Execution σ) (s : Statement) :
    x.before.catalog.Effect x.reading.now x.target s (x.ran s) :=
  Catalog.effect _ _ _ _

/-- A success of a kind that only reads leaves what running the statement left. -/
theorem catalog_of_reads (hs : x.outcome.success = true) (hm : x.isMutation = false) :
    ∃ s : Statement, x.kind? = some s.kind ∧ s.kind.isMutation = false ∧ x.after.catalog = x.ran s := by
  rcases x.catalog_after with ⟨hfailed, -⟩ | ⟨statement, kind, s, hp, hparse, hafter⟩
  · simp [hfailed] at hs
  · obtain rfl := (Sql.readAs_of_parse hparse).kind
    rw [isMutation_of_prepare hp] at hm
    exact ⟨s, kind?_of_prepare hp, hm, by simpa [Engine.touches, hm] using hafter⟩

/-- All changes to databases are in a document. -/
theorem writes_of_changed (hn : (x.before.catalog.entries.map (·.1)).Nodup) (hs : x.outcome.success = true)
    (hne : x.after.catalog.entries ≠ x.before.catalog.entries) : x.writes = true := by
  rw [writes, hs, Bool.true_and]
  cases hm : x.isMutation with
  | true => rfl
  | false =>
    obtain ⟨s, -, hreads, hcatalog⟩ := catalog_of_reads hs hm
    have hran : (x.ran s).entries = x.before.catalog.entries ∨
        ∃ d, (x.ran s).entries = x.before.catalog.entries ++ [d] :=
      Catalog.entries_of_reads hn hreads
    rw [hcatalog] at hne ⊢
    -- Reading adds at most the database that it runs in, and their number shows that.
    rcases hran with he | ⟨d, hd⟩
    · exact absurd he hne
    · simp [Catalog.databases, hd]

/-- So is another selection. -/
theorem selects_of_changed (hs : x.outcome.success = true)
    (hne : x.after.catalog.current ≠ x.before.catalog.current) : x.selects = true := by
  rw [selects, hs, Bool.true_and]
  cases hm : x.isMutation with
  | true => rfl
  | false =>
    obtain ⟨s, hkind, hreads, hcatalog⟩ := catalog_of_reads hs hm
    rw [hcatalog] at hne
    by_cases hu : s.kind = .use
    · simp [hkind, hu]
    · have hcurrent : (x.ran s).current = x.before.catalog.current := Catalog.current_of_reads hreads hu
      exact absurd hcurrent hne

/-- A counted change raises the version of its database by one. -/
theorem version_of_counts (hc : x.counts = true) {db : Database}
    (hdb : x.before.catalog.database? x.target = some db) :
    ∃ db', x.after.catalog.database? x.target = some db' ∧ db'.version = db.version + 1 := by
  rcases x.catalog_after with ⟨hfailed, -⟩ | ⟨statement, kind, s, hp, hparse, hafter⟩
  · simp [counts, hfailed] at hc
  · rw [counts_of_prepare hp] at hc
    have hkind := (Sql.readAs_of_parse hparse).kind
    have htouches : Engine.touches kind = true := (Bool.and_eq_true _ _ ▸ hc).2
    simp only [Engine.touches, Bool.and_eq_true, bne_iff_ne] at htouches
    obtain ⟨db', hdb', hheader⟩ := (x.effect s).database?_of_some (by rw [hkind]; exact htouches.2) hdb
    rw [hafter, if_pos hc, Catalog.database?_modifyDatabase hdb']
    exact ⟨_, rfl, congrArg (· + 1) (Database.version_of_header hheader)⟩

/-- Every other database that is still there has the version that it had. -/
theorem version_of_not_counts (hn : (x.before.catalog.entries.map (·.1)).Nodup) {k : String} {db db' : Database}
    (hdb : (k, db) ∈ x.before.catalog.entries) (hdb' : (k, db') ∈ x.after.catalog.entries)
    (hk : x.counts = true → k ≠ Catalog.key x.target) : db'.version = db.version := by
  have hsame : ∀ d, (k, d) ∈ x.before.catalog.entries → d = db := by
    intro d hd
    exact congrArg Prod.snd (List.inj_on_of_nodup_map hn hd hdb rfl)
  rcases x.catalog_after with ⟨-, hcatalog⟩ | ⟨statement, kind, s, hp, hparse, hafter⟩
  · rw [hcatalog] at hdb'
    rw [hsame db' hdb']
  · have hran : ∀ d, (k, d) ∈ (x.ran s).entries → d.version = db.version := by
      intro d hd
      rcases (x.effect s).mem_entries hd with ⟨d', hd', hheader⟩ | ⟨hnew, -⟩
      · rw [Database.version_of_header hheader, hsame d' hd']
      · exact absurd (List.mem_map_of_mem hdb) hnew
    rw [counts_of_prepare hp] at hk
    rw [hafter] at hdb'
    split at hdb'
    · rename_i hc
      rcases Catalog.mem_modifyDatabase hdb' with hold | hnew
      · exact hran db' hold
      · exact absurd hnew (hk hc)
    · exact hran db' hdb'

/-- What a call has to do with the documents that it asks a store to write. -/
structure WrittenThrough (x : Execution σ) (asked : List (String × String)) : Prop where
  /-- After a success that changed any database, all databases are written as they are. -/
  databases : x.outcome.success = true → x.after.catalog.entries ≠ x.before.catalog.entries →
    (x.before.config.databasesKey, x.after.catalog.databasesText) ∈ asked
  /-- What is written is the list of all databases, each with all that it has, from which they
      are read back. -/
  databasesText : Json.ofText? x.after.catalog.databasesText =
      some (.array (x.after.catalog.databases.map (·.toJson))) ∧
    (x.after.catalog.Storable → x.after.catalog.FloatsExact →
      Json.decode (Json.asList? Database.ofJson?) x.after.catalog.databasesText = .ok x.after.catalog.databases)
  /-- After a success that changed the selection, it is written. -/
  current : x.outcome.success = true → x.after.catalog.current ≠ x.before.catalog.current →
    (x.before.config.currentDatabaseKey, x.after.catalog.currentText) ∈ asked
  /-- What is written is the name of the selected database, if one is selected. -/
  currentText : Json.decode (Json.asOption? Json.asText?) x.after.catalog.currentText = .ok x.after.catalog.current
  /-- After a failure neither is, but at most the history. -/
  failed : x.outcome.success = false →
    (∀ w ∈ asked, w.1 = x.before.config.historyKey) ∧ (x.before.config.DistinctKeys →
      ∀ w ∈ asked, w.1 ≠ x.before.config.databasesKey ∧ w.1 ≠ x.before.config.currentDatabaseKey)
  /-- A success of a kind that changes its database raises the version by one. -/
  counted : x.counts = true → ∀ db, x.before.catalog.database? x.target = some db →
    ∃ db', x.after.catalog.database? x.target = some db' ∧ db'.version = db.version + 1 ∧
      db'.version < UInt64.size
  /-- No other version changes. -/
  uncounted : ∀ k db db', (k, db) ∈ x.before.catalog.entries → (k, db') ∈ x.after.catalog.entries →
    (x.counts = true → k ≠ Catalog.key x.target) → db'.version = db.version

/-- Every change that a statement makes is written through, whatever databases an engine has
    under different keys, and whether or not its store takes what is written, as long as no
    version is counted beyond 64 bits. -/
theorem exists_written (hlog : KeyValueStore.Logs log) (hn : (x.before.catalog.entries.map (·.1)).Nodup)
    (hv : x.after.catalog.VersionsFit) :
    ∃ asked, log x.after.store = log x.before.store ++ asked ∧ x.WrittenThrough asked := by
  refine ⟨x.documents, x.log_after hlog, fun hs hne => ?_, ⟨Catalog.ofText?_databasesText _, fun hst hx => ?_⟩,
    fun hs hne => ?_, Catalog.decode_currentText _, fun hfailed => ?_, fun hc db hdb => ?_,
    fun _ _ _ => version_of_not_counts hn⟩
  · simp [documents, writes_of_changed hn hs hne]
  · exact Catalog.decode_databasesText hst (hv.exact hx)
  · simp [documents, selects_of_changed hs hne]
  · have hhistory : ∀ w ∈ x.documents, w.1 = x.before.config.historyKey := by
      rw [documents_of_failed hfailed]
      intro w hw
      split at hw
      · rw [List.mem_singleton.mp hw]
      · cases hw
    refine ⟨hhistory, fun hk w hw => ?_⟩
    rw [hhistory w hw]
    exact ⟨hk.databases_history.symm, hk.current_history.symm⟩
  · obtain ⟨db', hdb', hversion⟩ := version_of_counts hc hdb
    exact ⟨db', hdb', hversion, hv _ (Catalog.mem_of_database? hdb')⟩

end Documents

/-- The databases that a row was added to are read back from what is written. -/
theorem exists_written_of_insert :
    let log (s : Observed) := s.attempts.reverse
    let before := (Engine.opened {} ({} : Observed)).after
      [.execute ⟨⟨0, 0⟩, .zero⟩ "app" "CREATE TABLE t (a INT, b TEXT)"]
    let x : Execution Observed := ⟨before, ⟨⟨1, 0⟩, .zero⟩, "APP", "INSERT INTO t VALUES (1, 'it''s')"⟩
    let databases := x.after.catalog.databases
    (x.before.catalog.databases.map (·.version), databases.map (·.version)) = ([2], [3]) ∧
      (databases.map fun db => db.tables.map (·.rows)) = [[[[.integer 1, .text "it's"]]]] ∧
      ∃ asked, log x.after.store = log before.store ++ asked ∧ x.WrittenThrough asked ∧
        ∃ text, (x.before.config.databasesKey, text) ∈ asked ∧
          Json.decode (Json.asList? Database.ofJson?) text = .ok databases := by
  intro log before x databases
  have hrun : (x.before.catalog.databases.map (·.version), databases.map (·.version)) = ([2], [3]) ∧
      (databases.map fun db => db.tables.map (·.rows)) = [[[[.integer 1, .text "it's"]]]] ∧
      (x.before.catalog.entries.map (·.1)).Nodup ∧ x.after.catalog.VersionsFit ∧ x.after.catalog.FloatsExact ∧
      x.outcome.success = true ∧ x.after.catalog.entries ≠ x.before.catalog.entries := by decide +kernel
  obtain ⟨hversions, hrows, hn, hv, hx, hs, hne⟩ := hrun
  have hbefore : before.catalog.Arises Instant.Valid :=
    Engine.arises_after (fun _ => rfl) _ (by decide +kernel)
  have hafter : x.after.catalog.Arises Instant.Valid := x.arises hbefore (by decide +kernel) hv
  obtain ⟨asked, hasked, hwritten⟩ := exists_written (x := x) Observed.logs hn hv
  exact ⟨hversions, hrows, asked, hasked, hwritten, _, hwritten.databases hs hne,
    hwritten.databasesText.2 hafter.storable hx⟩

end Execution

/-! ## Keys -/

namespace Engine

/-- An engine is opened with no databases, or with those that it has read. -/
theorem catalog_opened_cases (config : Config) (store : σ) :
    (opened config store).catalog = {} ∨
      ∃ databases current, Catalog.ofTexts databases current = .ok (opened config store).catalog := by
  cases h : loadCatalog config store with
  | error f =>
    left
    rw [opened, h]
    rfl
  | ok c =>
    right
    obtain ⟨databases, -, hread⟩ := bind_eq_ok.mp h
    obtain ⟨current, -, hread⟩ := bind_eq_ok.mp hread
    rw [opened, h]
    exact ⟨databases, current, hread⟩

theorem nodup_opened (config : Config) (store : σ) :
    ((opened config store).catalog.entries.map (·.1)).Nodup := by
  rcases catalog_opened_cases config store with hempty | ⟨databases, current, hread⟩
  · rw [hempty]
    exact List.nodup_nil
  · exact Catalog.nodup_ofTexts hread

/-- No two databases of an engine have the same key, whatever its store held when it was
    opened. -/
theorem nodup_after [RegexCompiler] (config : Config) (store : σ) (calls : List EngineCall) :
    (((opened config store).after calls).catalog.entries.map (·.1)).Nodup := by
  let I (e : Engine σ) (_ : List (Execution σ)) : Prop := (e.catalog.entries.map (·.1)).Nodup
  have hexecute : ∀ x xs, I x.before xs → I x.after (xs ++ [x]) := by
    intro x _ hn
    refine Execution.catalog_keeps (I := fun c => (c.entries.map (·.1)).Nodup) hn (fun _ _ s _ _ => ?_) fun c hc => ?_
    · exact (x.effect s).nodup hn
    · exact Catalog.nodup_modifyDatabase hc _ _
  have hclear : ∀ e xs, I e xs → I e.clearHistory xs := fun _ _ hn => hn
  exact @trace_keeps _ _ _ _ I hexecute hclear [] (nodup_opened config store) calls

end Engine

end PocketSql
