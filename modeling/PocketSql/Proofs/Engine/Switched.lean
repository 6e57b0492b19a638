/-
  PocketSql.Proofs.Engine.Switched — what a USE switches to.

  A USE selects a database and reports it, both under the database's own spelling. What
  follows in a batch asks for the name that was reported, and what asks for no database
  gets the selected one. But a name that is asked for is trimmed and the selected one is
  not. So after a USE a batch goes on in the database that was selected exactly where
  that has no white space at the ends of its name; else in another one, which is created
  if it is not there, or in none where the name is blank (`runsIn_after_use`). Until the
  next USE that succeeds, and until a database is dropped, the selection stays
  (`HasSelected.execute`).
-/

import PocketSql.Proofs.Engine.WrittenThrough
import PocketSql.Proofs.Execute.Pointer
import PocketSql.Proofs.Text.Lower

namespace PocketSql

/-- Whether a statement works on the tables of the database that it is run on. -/
def Statement.runsInDatabase : Statement → Bool
  | .createDatabase .. | .dropDatabase .. | .showDatabases | .use _ | .begin | .commit | .rollback => false
  | _ => true

/-! ## In a catalog -/

namespace Catalog

variable {c : Catalog} {now : Instant} {database name : String} {s : Statement}

theorem run_of_runsInDatabase [RegexCompiler] (hs : s.runsInDatabase = true) :
    c.run now database s =
      if (Text.trim database).isEmpty then (c, .error .noDatabaseSelected) else c.runIn now database s := by
  cases s with
  | createDatabase | dropDatabase | showDatabases | «use» | begin | commit | rollback => cases hs
  | _ => rfl

theorem run_use_of_some [RegexCompiler] {db : Database} (h : c.database? name = some db) :
    c.run now database (.use name) =
      ({ c with current := some db.name },
        .ok { message := some ("Database changed to '" ++ db.name ++ "'"), database := some db.name }) := by
  show c.settle (c.switchTo name) = _
  unfold switchTo useDatabase requireDatabase
  rw [h]
  rfl

theorem database?_runIn_of_ne [RegexCompiler] {other : String} (h : key other ≠ key database) :
    (c.runIn now database s).1.database? other = c.database? other := by
  show ((c.databaseOrCreate database now).1.put (key database) _).database? other = _
  rw [database?_put_eq, if_neg h]
  unfold databaseOrCreate
  split
  · rfl
  · exact (database?_put_eq ..).trans (if_neg h)

theorem keys_runIn [RegexCompiler] :
    (c.runIn now database s).1.entries.map (·.1) =
      if c.hasDatabase database then c.entries.map (·.1) else c.entries.map (·.1) ++ [key database] := by
  cases h : c.database? database with
  | some db =>
    rw [runIn_of_some h, keys_put, if_pos (List.mem_map_of_mem (mem_of_database? h)), hasDatabase, h]
    rfl
  | none =>
    rw [runIn_of_none h, List.map_append, hasDatabase, h]
    rfl

theorem Keyed.modifyDatabase (h : c.Keyed) (database : String) {change : Database → Database}
    (hname : ∀ db, (change db).name = db.name) : (c.modifyDatabase database change).Keyed := by
  unfold Catalog.modifyDatabase
  split
  · rename_i db hdb
    exact (grows_put ((h _ (mem_of_database? hdb)).trans (congrArg key (hname db).symm))).keyed h
  · exact h

theorem keyed_ofTexts {databases current : Option String} (h : ofTexts databases current = .ok c) : c.Keyed :=
  ofTexts_keeps (I := fun entries => ∀ e ∈ entries, e.1 = key e.2.name) (by simp)
    (fun _ _ hk => (grows_put rfl).keyed hk) h

/-- A database is selected, and it is there, under this very name. -/
structure HasSelected (c : Catalog) (name : String) : Prop where
  current : c.current = some name
  there : ∃ db, c.database? name = some db ∧ db.name = name

theorem Keyed.hasSelected (h : c.Keyed) {db : Database} (hdb : c.database? name = some db) :
    HasSelected { c with current := some db.name } db.name := by
  refine ⟨rfl, db, ?_, rfl⟩
  have hkey : key name = key db.name := h _ (mem_of_database? hdb)
  rw [database?, ← hkey]
  exact hdb

namespace HasSelected

theorem modifyDatabase (h : c.HasSelected name) (database : String) {change : Database → Database}
    (hname : ∀ db, (change db).name = db.name) : (c.modifyDatabase database change).HasSelected name := by
  obtain ⟨db, hdb, hdbname⟩ := h.there
  refine ⟨(current_modifyDatabase ..).trans h.current, ?_⟩
  by_cases hk : key name = key database
  · have hsame : ∀ c : Catalog, c.database? name = c.database? database := by
      intro c
      rw [database?, hk]
      rfl
    refine ⟨change db, ?_, (hname db).trans hdbname⟩
    rw [hsame] at hdb ⊢
    exact database?_modifyDatabase hdb change
  · exact ⟨db, (database?_modifyDatabase_of_ne hk change).trans hdb, hdbname⟩

/-- What neither selects a database nor drops one leaves the selected one there. -/
theorem run [RegexCompiler] (h : c.HasSelected name) (huse : s.kind ≠ .use) (hdrop : s.kind ≠ .dropDatabase) :
    (c.run now database s).1.HasSelected name := by
  obtain ⟨db, hdb, hname⟩ := h.there
  obtain ⟨db', hdb', hheader⟩ := (effect c now database s).database?_of_some hdrop hdb
  refine ⟨?_, db', hdb', ?_⟩
  · rcases run_cases c now database s with hc | hin | hk | hk | hk
    · rw [hc]
      exact h.current
    · rw [hin, current_runIn]
      exact h.current
    · cases s with
      | createDatabase =>
        rw [run_createDatabase]
        split <;> exact h.current
      | _ => cases hk
    · exact absurd hk hdrop
    · exact absurd hk huse
  · have hsame : db'.header.name = db.header.name := congrArg Database.name hheader
    exact hsame.trans hname

theorem run_of_error [RegexCompiler] (h : c.HasSelected name) {f : Fault} (hf : (c.run now database s).2 = .error f) :
    (c.run now database s).1.HasSelected name := by
  cases s with
  | «use» selected =>
    have hsame : (c.run now database (.use selected)).1 = c := settle_of_error hf
    rwa [hsame]
  | dropDatabase dropped ifExists =>
    have hsame : (c.run now database (.dropDatabase dropped ifExists)).1 = c := settle_of_error hf
    rwa [hsame]
  | _ => exact h.run (by simp [Statement.kind]) (by simp [Statement.kind])

end HasSelected

end Catalog

/-- The name of USE is that of no other kind. -/
theorem Sql.Kind.eq_use_of_text {kind : Sql.Kind} (h : kind.text = Kind.use.text) : kind = .use := by
  cases kind with
  | «use» => rfl
  | _ => exact absurd h (by decide)

variable {σ : Type} [KeyValueStore σ]

/-! ## One statement -/

namespace Execution

variable {x : Execution σ} {s : Statement} {name : String}

/-- The statement that a text is read as. -/
def statement? (x : Execution σ) : Option Statement :=
  match Engine.prepare x.sql with
  | .ok (statement, kind) => (Sql.parse statement kind).toOption
  | .error _ => none

omit [KeyValueStore σ] in
theorem parse_of_statement? (h : x.statement? = some s) :
    ∃ statement, Engine.prepare x.sql = .ok (statement, s.kind) ∧ Sql.parse statement s.kind = .ok s := by
  unfold statement? at h
  split at h
  · rename_i statement kind hp
    have hparse : Sql.parse statement kind = .ok s := by
      cases hparse : Sql.parse statement kind with
      | error f => simp [hparse, Except.toOption] at h
      | ok s' => simpa [hparse, Except.toOption] using h
    obtain rfl := (Sql.readAs_of_parse hparse).kind
    exact ⟨statement, hp, hparse⟩
  · cases h

omit [KeyValueStore σ] in
/-- The target is the selected database where none is asked for. -/
theorem target_of_hasSelected (h : x.before.catalog.HasSelected name) :
    x.target = if (Text.trim x.database).isEmpty then name else Text.trim x.database := by
  rw [target, Engine.targetDatabase, h.current]
  rfl

variable [RegexCompiler]

/-- Whether a statement may leave another selection: a USE or a DROP DATABASE that
    succeeds. -/
def Reselects (x : Execution σ) : Prop :=
  x.outcome.success = true ∧ (x.kind? = some .use ∨ x.kind? = some .dropDatabase)

instance (x : Execution σ) : Decidable x.Reselects :=
  inferInstanceAs (Decidable (_ ∧ _))

/-- A statement that runs on the tables of one database, created if it is not there. -/
structure RunsIn (x : Execution σ) (s : Statement) (name : String) : Prop where
  tables : ∃ db, x.after.catalog.database? name = some db ∧
    db.tables = ((x.before.catalog.databaseOrCreate name x.reading.now).2.run x.reading.now s).1.tables
  outcome : x.outcome = .ofRun s.kind.text name
    ((x.before.catalog.databaseOrCreate name x.reading.now).2.run x.reading.now s).2 x.reading.elapsed
  /-- Any other database is as it was. -/
  others : ∀ other, Catalog.key other ≠ Catalog.key name →
    x.after.catalog.database? other = x.before.catalog.database? other
  /-- No other one is created. -/
  keys : x.after.catalog.entries.map (·.1) =
    if x.before.catalog.hasDatabase name then x.before.catalog.entries.map (·.1)
    else x.before.catalog.entries.map (·.1) ++ [Catalog.key name]

/-- A statement that finds no database to run on. -/
structure Refused (x : Execution σ) (s : Statement) : Prop where
  catalog : x.after.catalog = x.before.catalog
  outcome : x.outcome = .ofFault s.kind.text .noDatabaseSelected x.reading.elapsed

/-- A statement on tables runs in its target, unless that has a blank name. -/
theorem runsIn_target (h : x.statement? = some s) (hs : s.runsInDatabase = true)
    (hne : (Text.trim x.target).isEmpty = false) : x.RunsIn s x.target := by
  obtain ⟨statement, hp, hparse⟩ := parse_of_statement? h
  obtain ⟨houtcome, hafter⟩ := after_of_parse hp hparse
  have hrun : x.before.catalog.run x.reading.now x.target s = x.before.catalog.runIn x.reading.now x.target s := by
    rw [Catalog.run_of_runsInDatabase hs, hne]
    rfl
  have hran : (x.ran s).database? x.target =
      some ((x.before.catalog.databaseOrCreate x.target x.reading.now).2.run x.reading.now s).1 := by
    rw [ran, hrun]
    exact Catalog.database?_put ..
  have hothers : ∀ other, Catalog.key other ≠ Catalog.key x.target →
      (x.ran s).database? other = x.before.catalog.database? other := by
    intro other hother
    rw [ran, hrun, Catalog.database?_runIn_of_ne hother]
  have hkeys : (x.ran s).entries.map (·.1) = if x.before.catalog.hasDatabase x.target then
      x.before.catalog.entries.map (·.1) else x.before.catalog.entries.map (·.1) ++ [Catalog.key x.target] := by
    rw [ran, hrun]
    exact Catalog.keys_runIn
  refine ⟨?_, by rw [houtcome, hrun]; rfl, ?_, ?_⟩ <;> rw [hafter] <;> split
  · exact ⟨_, Catalog.database?_modifyDatabase hran _, rfl⟩
  · exact ⟨_, hran, rfl⟩
  · intro other hother
    rw [Catalog.database?_modifyDatabase_of_ne hother, hothers other hother]
  · exact hothers
  · exact (Catalog.keys_modifyDatabase ..).trans hkeys
  · exact hkeys

theorem refused_of_blank (h : x.statement? = some s) (hs : s.runsInDatabase = true)
    (hblank : (Text.trim x.target).isEmpty = true) : x.Refused s := by
  obtain ⟨statement, hp, hparse⟩ := parse_of_statement? h
  obtain ⟨houtcome, hafter⟩ := after_of_parse hp hparse
  have hrun : x.before.catalog.run x.reading.now x.target s = (x.before.catalog, .error .noDatabaseSelected) := by
    rw [Catalog.run_of_runsInDatabase hs, hblank]
    rfl
  rw [hrun] at houtcome
  refine ⟨?_, houtcome⟩
  rw [hafter, ran, hrun, if_neg (by simp [houtcome, Outcome.ofRun, Outcome.ofFault])]

/-- A USE of a database that is there. -/
theorem of_use {db : Database} (h : x.statement? = some (.use name)) (hdb : x.before.catalog.database? name = some db) :
    x.outcome.success = true ∧ Engine.switched x.database x.outcome = db.name ∧
      x.after.catalog = { x.before.catalog with current := some db.name } := by
  obtain ⟨statement, hp, hparse⟩ := parse_of_statement? h
  obtain ⟨houtcome, hafter⟩ := after_of_parse hp hparse
  have hrun : x.before.catalog.run x.reading.now x.target (.use name) = _ := Catalog.run_use_of_some hdb
  have hran : x.ran (.use name) = { x.before.catalog with current := some db.name } := congrArg Prod.fst hrun
  rw [hrun] at houtcome
  refine ⟨by rw [houtcome]; rfl, by rw [houtcome]; rfl, ?_⟩
  rw [hafter, hran, if_neg (by simp [Statement.kind, Engine.touches, Sql.Kind.isMutation])]

/-- What does not reselect does not switch the database that a batch goes on with either. -/
theorem switched_of_not_reselects (h : ¬ x.Reselects) : Engine.switched x.database x.outcome = x.database := by
  refine if_neg fun hswitch => h ?_
  rw [Bool.and_eq_true, beq_iff_eq] at hswitch
  obtain ⟨hs, htype⟩ := hswitch
  refine ⟨hs, .inl ?_⟩
  cases x.does with
  | unrecognized hp ha ho | unreadable hp hparse ha ho | failed hp hparse hrun ha ho => simp [ho, Outcome.ofFault] at hs
  | @succeeded statement kind s c result hp hparse hrun ha ho =>
    rw [ho, Outcome.queryType_ofResult] at htype
    rw [kind?_of_prepare hp, Sql.Kind.eq_use_of_text htype]

end Execution

namespace Catalog

variable {c : Catalog} {name : String}

theorem Keyed.execute [RegexCompiler] {x : Execution σ} (h : x.before.catalog.Keyed) : x.after.catalog.Keyed := by
  refine Execution.catalog_keeps h (fun _ _ s _ _ => ?_) fun c hc => ?_
  · exact h.call (.statement s x.reading.now x.target)
  · exact hc.modifyDatabase _ fun _ => rfl

/-- The selected database stays, and stays selected, through every other statement. -/
theorem HasSelected.execute [RegexCompiler] {x : Execution σ} (h : x.before.catalog.HasSelected name)
    (hx : ¬ x.Reselects) : x.after.catalog.HasSelected name := by
  refine Execution.catalog_keeps (I := fun c => c.HasSelected name) h (fun statement kind s hp hparse => ?_)
    fun c hc => ?_
  · obtain rfl := (Sql.readAs_of_parse hparse).kind
    have hkind := Execution.kind?_of_prepare hp
    cases hrun : (x.before.catalog.run x.reading.now x.target s).2 with
    | error f => exact h.run_of_error hrun
    | ok result =>
      have hs : x.outcome.success = true := by
        rw [(Execution.after_of_parse hp hparse).1, hrun]
        exact Outcome.success_ofResult ..
      exact h.run (fun huse => hx ⟨hs, .inl (huse ▸ hkind)⟩) fun hdrop => hx ⟨hs, .inr (hdrop ▸ hkind)⟩
  · exact hc.modifyDatabase _ fun _ => rfl

end Catalog

/-! ## Batches -/

namespace Engine

variable {e : Engine σ} {clock : Nat → Reading} {database name : String} {statements : List String}
  {before rest : List (Execution σ)} {u x : Execution σ}

theorem keyed_opened (config : Config) (store : σ) : (opened config store).catalog.Keyed := by
  rcases catalog_opened_cases config store with hempty | ⟨databases, current, hread⟩
  · rw [hempty]
    exact fun entry hentry => by cases hentry
  · exact Catalog.keyed_ofTexts hread

section

variable [RegexCompiler]

/-- After a statement that succeeds the others are executed, in the database that it leaves
    for them. -/
theorem exists_rest_of_executionsAll (hrun : e.executionsAll clock database statements = before ++ u :: rest)
    (hu : u.outcome.success = true) :
    ∃ clock' more, rest = u.after.executionsAll clock' (switched u.database u.outcome) more ∧
      (e.executeAll clock database statements).1 =
        (u.after.executeAll clock' (switched u.database u.outcome) more).1 := by
  induction statements generalizing e clock database before with
  | nil => simp [executionsAll] at hrun
  | cons sql more ih =>
    rw [executionsAll_cons] at hrun
    rw [executeAll_cons]
    dsimp only at hrun ⊢
    cases before with
    | nil =>
      obtain ⟨hx, hrest⟩ := List.cons.inj hrun
      rw [hx, if_pos hu] at hrest
      rw [hx, if_pos hu]
      subst hx
      exact ⟨_, more, hrest.symm, rfl⟩
    | cons y before =>
      obtain ⟨-, hrest⟩ := List.cons.inj hrun
      split at hrest
      · rename_i hs
        rw [if_pos hs]
        exact ih hrest
      · cases before <;> cases hrest

/-- So it is in a script, whether it has any statements or counts as one. -/
theorem exists_rest {sql : String} (hrun : e.executions (.batch clock database sql) = before ++ u :: rest)
    (hu : u.outcome.success = true) :
    ∃ clock' more, rest = u.after.executionsAll clock' (switched u.database u.outcome) more ∧
      e.call (.batch clock database sql) = (u.after.executeAll clock' (switched u.database u.outcome) more).1 := by
  unfold executions at hrun
  unfold call executeBatch
  dsimp only at hrun ⊢
  split at hrun
  · rename_i hnone
    rw [if_pos hnone]
    cases before with
    | nil =>
      obtain ⟨rfl, hrest⟩ := List.cons.inj hrun
      exact ⟨clock, [], hrest.symm, rfl⟩
    | cons y before => cases before <;> cases hrun
  · rename_i hsome
    rw [if_neg hsome]
    exact exists_rest_of_executionsAll hrun hu

/-- Up to the next statement that reselects, every one finds the selected database there,
    and asks for it. -/
theorem hasSelected_before {between after : List (Execution σ)} (hsel : e.catalog.HasSelected name)
    (hrun : e.executionsAll clock name statements = between ++ x :: after) (hb : ∀ y ∈ between, ¬ y.Reselects) :
    x.before.catalog.HasSelected name ∧ x.database = name := by
  induction between generalizing e clock statements with
  | nil =>
    cases statements with
    | nil => cases hrun
    | cons sql more =>
      obtain ⟨rfl, -⟩ := List.cons.inj hrun
      exact ⟨hsel, rfl⟩
  | cons y between ih =>
    cases statements with
    | nil => cases hrun
    | cons sql more =>
      rw [executionsAll_cons] at hrun
      obtain ⟨rfl, hrest⟩ := List.cons.inj hrun
      have hy := hb _ List.mem_cons_self
      have hswitched := Execution.switched_of_not_reselects hy
      dsimp only at hrest hswitched
      rw [hswitched] at hrest
      split at hrest
      · exact ih (hsel.execute hy) hrest fun y hy => hb y (List.mem_cons_of_mem _ hy)
      · cases between <;> cases hrest

/-- Where nothing reselects, the selection is the same after a batch and more calls. -/
theorem hasSelected_after (hsel : e.catalog.HasSelected name) (clock : Nat → Reading) (database : String)
    (statements : List String) (more : List EngineCall)
    (hkept : ∀ y ∈ e.executionsAll clock database statements ++ ((e.executeAll clock database statements).1).trace more,
      ¬ y.Reselects) : (((e.executeAll clock database statements).1).after more).catalog.HasSelected name := by
  let I (e : Engine σ) (xs : List (Execution σ)) : Prop := (∀ y ∈ xs, ¬ y.Reselects) → e.catalog.HasSelected name
  have hexec : ∀ (x : Execution σ) xs, I x.before xs → I x.after (xs ++ [x]) := by
    intro x xs hi hxs
    have hbefore : x.before.catalog.HasSelected name := hi fun y hy => hxs y (List.mem_append_left _ hy)
    exact hbefore.execute (hxs x (List.mem_append_right _ List.mem_cons_self))
  have hstart : I e [] := fun _ => hsel
  have hbatch := executionsAll_keeps hexec hstart clock database statements
  exact trace_keeps hexec (fun _ _ => id) hbatch more hkept

/-- After a USE of a database that is there, whatever the state of the engine, that database
    stays selected until the next USE that succeeds or the next DROP DATABASE that does. What
    follows in the batch runs on its tables exactly if its name has no white space at the
    ends, as the trimmed name is that of another database else; what is executed after the
    batch without a database runs on its tables in any case. A blank name is refused. -/
theorem runsIn_after_use (config : Config) (store : σ) (calls : List EngineCall) (clock : Nat → Reading)
    (database sql : String) {db : Database}
    (hrun : ((opened config store).after calls).executions (.batch clock database sql) = before ++ u :: rest)
    (hu : u.statement? = some (.use name)) (hdb : u.before.catalog.database? name = some db) :
    (∀ (between : List (Execution σ)) (x : Execution σ) after s, rest = between ++ x :: after →
      (∀ y ∈ between, ¬ y.Reselects) → x.statement? = some s → s.runsInDatabase = true →
        x.before.catalog.HasSelected db.name ∧
          ((Text.trim db.name).isEmpty = false → x.RunsIn s (Text.trim db.name)) ∧
          ((Text.trim db.name).isEmpty = true → x.Refused s)) ∧
    (Catalog.key (Text.trim db.name) = Catalog.key db.name ↔ Text.trim db.name = db.name) ∧
    (∀ more r sql' (s : Statement),
      let e := ((opened config store).after calls).call (.batch clock database sql)
      let x : Execution σ := ⟨e.after more, r, "", sql'⟩
      (∀ y ∈ rest ++ e.trace more, ¬ y.Reselects) → x.statement? = some s → s.runsInDatabase = true →
        x.before.catalog.HasSelected db.name ∧ ((Text.trim db.name).isEmpty = false → x.RunsIn s db.name) ∧
          ((Text.trim db.name).isEmpty = true → x.Refused s)) := by
  have hmem : u ∈ (opened config store).trace (calls ++ [.batch clock database sql]) := by
    rw [trace_append, trace, hrun]
    simp
  have hkeyed : u.before.catalog.Keyed :=
    before_of_mem_trace (I := fun e => e.catalog.Keyed) (fun _ => Catalog.Keyed.execute) (fun _ => id)
      (keyed_opened config store) hmem
  obtain ⟨hs, hswitched, hcatalog⟩ := Execution.of_use hu hdb
  have hsel : u.after.catalog.HasSelected db.name := hcatalog ▸ hkeyed.hasSelected hdb
  obtain ⟨clock', statements, hrest, hcall⟩ := exists_rest hrun hs
  rw [hswitched] at hrest hcall
  refine ⟨?batch, Text.lower_trim_eq_iff, ?call⟩
  case batch =>
    intro between x after s hx hb hread hs
    obtain ⟨hselected, hasked⟩ := hasSelected_before hsel (hrest.symm.trans hx) hb
    have htarget := Execution.target_of_hasSelected hselected
    rw [hasked] at htarget
    refine ⟨hselected, fun hname => ?_, fun hblank => ?_⟩
    · have htrimmed : x.target = Text.trim db.name := htarget.trans (if_neg (by simp [hname]))
      rw [← htrimmed]
      exact Execution.runsIn_target hread hs (by rw [htrimmed, Text.isEmpty_trim_trim, hname])
    · have hsame : x.target = db.name := htarget.trans (if_pos hblank)
      exact Execution.refused_of_blank hread hs (by rw [hsame, hblank])
  case call =>
    intro more r sql' s e x hkept hread hs
    have hselected : x.before.catalog.HasSelected db.name := by
      have hafter := hasSelected_after hsel clock' db.name statements more
      rw [← hrest, ← hcall] at hafter
      exact hafter hkept
    have hempty : (Text.trim "").isEmpty = true := by decide +kernel
    have htarget : x.target = db.name := (Execution.target_of_hasSelected hselected).trans (if_pos hempty)
    refine ⟨hselected, fun hname => ?_, fun hblank => ?_⟩
    · rw [← htarget]
      exact Execution.runsIn_target hread hs (by rw [htarget, hname])
    · exact Execution.refused_of_blank hread hs (by rw [htarget, hblank])

end

/-- A batch goes on in another database than the one that it has switched to, and a
    statement after the batch in that one. -/
theorem runsIn_after_use_of_padded :
    let e := (opened {} ({} : Memory)).after []
    let batch := EngineCall.batch (Function.const Nat ⟨⟨0, 0⟩, .zero⟩) "app"
      "CREATE DATABASE ` shop `; USE ` SHOP `; CREATE TABLE items (id INT)"
    let later : Execution Memory := ⟨e.call batch, ⟨⟨1, 0⟩, .zero⟩, "", "SHOW TABLES"⟩
    ∃ create u x s, e.executions batch = [create, u, x] ∧
      (u.statement? = some (.use " SHOP ") ∧ u.before.catalog.database? " SHOP " = some (.empty " shop " ⟨0, 0⟩)) ∧
      (x.statement? = some s ∧ x.before.catalog.HasSelected " shop " ∧ x.RunsIn s "shop") ∧
      later.statement? = some .showTables ∧ later.before.catalog.HasSelected " shop " ∧
      later.RunsIn .showTables " shop " := by
  intro e batch later
  have hrun : (e.executions batch).map (fun x => (x.statement?, x.kind?, x.before.catalog.database? " SHOP ")) =
      [(some (.createDatabase " shop " false), some .createDatabase, none),
        (some (.use " SHOP "), some .use, some (.empty " shop " ⟨0, 0⟩)),
        (some (.createTable
          { table := "items", columns := [{ name := "id", type := .int }], constraints := [], ifNotExists := false
            engine := none, charset := none }), some .createTable, some (.empty " shop " ⟨0, 0⟩))] := by decide +kernel
  have hlater : later.statement? = some .showTables := by decide +kernel
  have hname : Text.trim " shop " = "shop" := by decide +kernel
  obtain ⟨create, u, x, hall⟩ := List.length_eq_three.mp (by simpa using congrArg List.length hrun)
  rw [hall] at hrun
  simp only [List.map_cons, List.map_nil, List.cons.injEq, Prod.mk.injEq, and_true] at hrun
  obtain ⟨-, ⟨hu, -, hdb⟩, hx, hkind, -⟩ := hrun
  have hkept : ¬ x.Reselects := by
    rintro ⟨-, h | h⟩ <;> rw [hkind] at h <;> cases h
  have hsplit : e.executions batch = [create] ++ u :: [x] := hall
  obtain ⟨hbatch, -, hcall⟩ :=
    runsIn_after_use {} ({} : Memory) [] (Function.const Nat ⟨⟨0, 0⟩, .zero⟩) "app" _ hsplit hu hdb
  have hnext := hbatch [] x [] _ rfl (by simp) hx rfl
  have hafter := hcall [] ⟨⟨1, 0⟩, .zero⟩ "SHOW TABLES" _ (by simpa [trace] using hkept) hlater rfl
  have hnamed : (Text.trim (Database.empty " shop " ⟨0, 0⟩).name).isEmpty = false := by decide +kernel
  have hin : x.RunsIn _ (Text.trim " shop ") := hnext.2.1 hnamed
  rw [hname] at hin
  exact ⟨create, u, x, _, hall, ⟨hu, hdb⟩, ⟨hx, hnext.1, hin⟩, hlater, hafter.1, hafter.2.1 hnamed⟩

end Engine

end PocketSql
