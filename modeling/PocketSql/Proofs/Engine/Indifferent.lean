/-
  PocketSql.Proofs.Engine.Indifferent — a store that refuses changes no answer.

  An engine reads its store when it is opened and never again. Two engines that differ in
  nothing but their stores, and in how long statements take, answer every statement alike
  and stay like that (`Alike.execute`), so after every call of a run (`Alike.sights_eq`).
  This holds of stores of any kind; two plans of refusals over one store are a case of it
  (`sights_refusing`).
-/

import Mathlib.Data.List.Forall2
import PocketSql.Proofs.Engine.Run

namespace PocketSql

/-! ## Stores that refuse -/

/-- A store of any kind, some of whose writes fail by plan. -/
structure Refusing (σ : Type) where
  store : σ
  /-- The fault of a write that fails, by its number, and what it leaves of the store. -/
  refusal : Nat → Option (Fault × (σ → σ))
  /-- How many writes were asked for. -/
  asked : Nat := 0

variable {σ : Type} [KeyValueStore σ]

instance : KeyValueStore (Refusing σ) where
  read s key := KeyValueStore.read s.store key
  write s key value :=
    match s.refusal s.asked with
    | some (f, leave) => ({ s with store := leave s.store, asked := s.asked + 1 }, .error f)
    | none =>
      let (store, done) := KeyValueStore.write s.store key value
      ({ s with store, asked := s.asked + 1 }, done)

/-! ## What a caller sees -/

/-- What a call shows: its answers, and the catalog and the history after it. -/
structure Sight where
  answers : List Outcome
  catalog : Catalog
  history : History
  deriving DecidableEq

/-- Calls that are the same but for how long their statements take. -/
inductive EngineCall.SameTimes : EngineCall → EngineCall → Prop
  | execute {r r' : Reading} (database sql : String) : r.now = r'.now →
      SameTimes (.execute r database sql) (.execute r' database sql)
  | batch {clock clock' : Nat → Reading} (database sql : String) : (∀ n, (clock n).now = (clock' n).now) →
      SameTimes (.batch clock database sql) (.batch clock' database sql)
  | clearHistory : SameTimes .clearHistory .clearHistory

namespace Engine

variable [RegexCompiler]

/-- What is answered to a call. -/
def answers (e : Engine σ) : EngineCall → List Outcome
  | .execute r database sql => [(e.execute r database sql).2]
  | .batch clock database sql => (e.executeBatch clock database sql).2
  | .clearHistory => []

/-- What calls show, one after the other. -/
def sights (e : Engine σ) : List EngineCall → List Sight
  | [] => []
  | a :: more => ⟨e.answers a, (e.call a).catalog, (e.call a).history⟩ :: (e.call a).sights more

end Engine

/-! ## Apart from measured times -/

def Outcome.untimed (o : Outcome) : Outcome :=
  { o with elapsed := .zero }

def HistoryEntry.untimed (e : HistoryEntry) : HistoryEntry :=
  { e with elapsed := .zero }

def History.untimed (h : History) : History :=
  { h with entries := h.entries.map (·.untimed) }

def Sight.untimed (s : Sight) : Sight :=
  { s with answers := s.answers.map (·.untimed), history := s.history.untimed }

theorem Outcome.untimed_ofResult (kind database : String) (result : QueryResult) (elapsed elapsed' : Binary64) :
    (ofResult kind database result elapsed).untimed = (ofResult kind database result elapsed').untimed := by
  unfold ofResult
  dsimp only
  split <;> rfl

theorem History.untimed_record (h : History) (e : HistoryEntry) :
    (h.record e).untimed = h.untimed.record e.untimed := by
  simp only [record, untimed, List.map_take, List.map_cons]
  rfl

/-! ## Engines with different stores -/

namespace Engine

variable {τ : Type} [KeyValueStore τ] {e : Engine σ} {e' : Engine τ} {r r' : Reading}

/-- Engines with the same configuration, catalog and history. -/
structure Alike (e : Engine σ) (e' : Engine τ) : Prop where
  config : e.config = e'.config
  catalog : e.catalog = e'.catalog
  history : e.history.untimed = e'.history.untimed

theorem history_afterSuccess (e : Engine σ) (now : Instant) (kind : Sql.Kind) (target : String)
    (result : QueryResult) (before : Nat) :
    (e.afterSuccess now kind target result before).history = e.history := by
  unfold afterSuccess
  split
  · rfl
  · dsimp only
    split <;> split <;> rfl

namespace Alike

omit [KeyValueStore σ] [KeyValueStore τ] in
theorem withCatalog (h : e.Alike e') (c : Catalog) : Alike { e with catalog := c } { e' with catalog := c } :=
  ⟨h.config, rfl, h.history⟩

theorem afterSuccess (h : e.Alike e') (now : Instant) (kind : Sql.Kind) (target : String) (result : QueryResult)
    (before : Nat) : (e.afterSuccess now kind target result before).Alike (e'.afterSuccess now kind target result before) := by
  refine ⟨?_, ?_, ?_⟩
  · rw [config_afterSuccess, config_afterSuccess, h.config]
  · rw [catalog_afterSuccess, catalog_afterSuccess, h.catalog]
  · rw [history_afterSuccess, history_afterSuccess, h.history]

omit [KeyValueStore σ] [KeyValueStore τ] in
theorem untimed_entryOf (h : e.Alike e') (hnow : r.now = r'.now) (statement : String) {o o' : Outcome}
    (ho : o.untimed = o'.untimed) : (e.entryOf r statement o).untimed = (e'.entryOf r' statement o').untimed := by
  simp only [Outcome.untimed, Outcome.mk.injEq] at ho
  simp only [entryOf, HistoryEntry.untimed, h.config, hnow, ho]

theorem recordHistory (h : e.Alike e') (hnow : r.now = r'.now) (statement : String) {o o' : Outcome}
    (ho : o.untimed = o'.untimed) : (e.recordHistory r statement o).Alike (e'.recordHistory r' statement o') := by
  refine ⟨h.config, h.catalog, ?_⟩
  show (e.history.record _).untimed = (e'.history.record _).untimed
  rw [History.untimed_record, History.untimed_record, h.history, h.untimed_entryOf hnow statement ho]

omit [KeyValueStore σ] [KeyValueStore τ] in
theorem targetDatabase_eq (h : e.Alike e') (database : String) :
    e.targetDatabase database = e'.targetDatabase database := by
  unfold targetDatabase
  rw [h.catalog, h.config]

variable [RegexCompiler]

theorem executePrepared (h : e.Alike e') (hnow : r.now = r'.now) (database statement : String) (kind : Sql.Kind) :
    (e.executePrepared r database statement kind).1.Alike (e'.executePrepared r' database statement kind).1 ∧
      (e.executePrepared r database statement kind).2.untimed =
        (e'.executePrepared r' database statement kind).2.untimed := by
  unfold Engine.executePrepared
  rw [h.targetDatabase_eq database, h.catalog, hnow]
  dsimp only
  -- Both run the same statement on the same catalog; only what follows looks at the engines.
  generalize runStatement e'.catalog r'.now (e'.targetDatabase database) statement kind = ran
  obtain ⟨c, outcome⟩ := ran
  have hran := h.withCatalog c
  cases outcome with
  | ok result =>
    have ho := Outcome.untimed_ofResult kind.text (e'.targetDatabase database) result r.elapsed r'.elapsed
    exact ⟨(hran.afterSuccess ..).recordHistory hnow statement ho, ho⟩
  | error f => exact ⟨hran.recordHistory hnow statement rfl, rfl⟩

/-- A statement is answered alike, and leaves the engines alike. -/
theorem execute (h : e.Alike e') (hnow : r.now = r'.now) (database sql : String) :
    (e.execute r database sql).1.Alike (e'.execute r' database sql).1 ∧
      (e.execute r database sql).2.untimed = (e'.execute r' database sql).2.untimed := by
  unfold Engine.execute
  cases prepare sql with
  | ok p => exact h.executePrepared hnow database p.1 p.2
  | error f => exact ⟨h, rfl⟩

theorem executeAll (h : e.Alike e') {clock clock' : Nat → Reading} (hclock : ∀ n, (clock n).now = (clock' n).now)
    (database : String) (statements : List String) :
    (e.executeAll clock database statements).1.Alike (e'.executeAll clock' database statements).1 ∧
      (e.executeAll clock database statements).2.map (·.untimed) =
        (e'.executeAll clock' database statements).2.map (·.untimed) := by
  induction statements generalizing e e' clock clock' database with
  | nil => exact ⟨h, rfl⟩
  | cons sql more ih =>
    obtain ⟨hafter, ho⟩ := h.execute (hclock 0) database sql
    unfold Engine.executeAll
    generalize e.execute (clock 0) database sql = x at hafter ho ⊢
    generalize e'.execute (clock' 0) database sql = x' at hafter ho ⊢
    obtain ⟨e₁, o⟩ := x
    obtain ⟨e₁', o'⟩ := x'
    have hsuccess : o.success = o'.success :=
      show o.untimed.success = o'.untimed.success from congrArg _ ho
    have hswitched : switched database o = switched database o' :=
      show switched database o.untimed = switched database o'.untimed from congrArg _ ho
    cases hs : o'.success with
    | false =>
      simp only [hsuccess, hs, Bool.false_eq_true, if_false]
      exact ⟨hafter, congrArg ([·]) ho⟩
    | true =>
      obtain ⟨hmore, hos⟩ := ih hafter (fun n => hclock (n + 1)) (switched database o)
      simp only [hsuccess, hs, if_true, ← hswitched]
      exact ⟨hmore, congrArg₂ List.cons ho hos⟩

theorem call (h : e.Alike e') {a a' : EngineCall} (ha : a.SameTimes a') :
    (e.call a).Alike (e'.call a') ∧ (e.answers a).map (·.untimed) = (e'.answers a').map (·.untimed) := by
  cases ha with
  | execute database sql hnow =>
    obtain ⟨hafter, ho⟩ := h.execute hnow database sql
    exact ⟨hafter, congrArg ([·]) ho⟩
  | batch database sql hclock =>
    unfold Engine.call answers executeBatch
    dsimp only
    split
    · obtain ⟨hafter, ho⟩ := h.execute (hclock 0) database sql
      exact ⟨hafter, congrArg ([·]) ho⟩
    · exact h.executeAll hclock database _
  | clearHistory =>
    have hhistory : e.history.clear.untimed = e'.history.clear.untimed :=
      show e.history.untimed.clear = e'.history.untimed.clear from congrArg _ h.history
    exact ⟨⟨h.config, h.catalog, hhistory⟩, rfl⟩

/-- All that calls show is alike. -/
theorem sights_eq (h : e.Alike e') {calls calls' : List EngineCall}
    (hcalls : List.Forall₂ EngineCall.SameTimes calls calls') :
    (e.sights calls).map Sight.untimed = (e'.sights calls').map Sight.untimed := by
  induction hcalls generalizing e e' with
  | nil => rfl
  | cons ha _ ih =>
    obtain ⟨hafter, hanswers⟩ := h.call ha
    simp only [sights, List.map_cons, Sight.untimed, hanswers, hafter.catalog, hafter.history]
    exact congrArg _ (ih hafter)

end Alike

/-- Whichever writes a store refuses, an engine that was opened over it shows the same in
    every call, with the same readings of the clock. -/
theorem sights_refusing [RegexCompiler] (config : Config) (store : σ)
    (refusal refusal' : Nat → Option (Fault × (σ → σ))) {calls calls' : List EngineCall} (hcalls : List.Forall₂ EngineCall.SameTimes calls calls') :
    ((opened config (⟨store, refusal, 0⟩ : Refusing σ)).sights calls).map Sight.untimed =
      ((opened config (⟨store, refusal', 0⟩ : Refusing σ)).sights calls').map Sight.untimed := by
  -- Nothing was written yet when the engines are opened.
  have hopened : (opened config (⟨store, refusal, 0⟩ : Refusing σ)).Alike
      (opened config (⟨store, refusal', 0⟩ : Refusing σ)) := ⟨rfl, rfl, rfl⟩
  exact hopened.sights_eq hcalls

/-- A store that takes every write, and one that is full after the first. -/
theorem sights_refusing_full :
    let full (n : Nat) : Option (Fault × (Memory → Memory)) :=
      if n = 0 then none else some (.storage "No space left on device", id)
    let before (refusal : Nat → Option (Fault × (Memory → Memory))) := opened {} (⟨{}, refusal, 0⟩ : Refusing Memory)
    let calls (elapsed : Binary64) : List EngineCall :=
      [.execute ⟨⟨0, 0⟩, elapsed⟩ "app" "CREATE TABLE t (a INT)",
        .batch (fun n => ⟨⟨n, 0⟩, elapsed⟩) "app" "INSERT INTO t VALUES (1); SELECT * FROM t", .clearHistory]
    let keys (refusal : Nat → Option (Fault × (Memory → Memory))) :=
      ((before refusal).after (calls .zero)).store.store.keys
    keys (fun _ => none) = ["tabula.databases", "tabula.current_database", "tabula.history"] ∧
      keys full = ["tabula.databases"] ∧
      (((before full).sights (calls .zero)).map fun s => s.answers.map (·.rowCount)) = [[none], [none, some 1], []] ∧
      ((before fun _ => none).sights (calls .zero)).map Sight.untimed =
        ((before full).sights (calls (.ofInt 7))).map Sight.untimed := by
  intro full before calls keys
  have hcalls : List.Forall₂ EngineCall.SameTimes (calls .zero) (calls (.ofInt 7)) :=
    .cons (.execute _ _ rfl) (.cons (.batch _ _ fun _ => rfl) (.cons .clearHistory .nil))
  have hsights := sights_refusing {} ({} : Memory) (fun _ => none) full hcalls
  exact ⟨by decide +kernel, by decide +kernel, by decide +kernel, hsights⟩

end Engine

end PocketSql
