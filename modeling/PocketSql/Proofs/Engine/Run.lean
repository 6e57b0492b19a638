/-
  PocketSql.Proofs.Engine.Run — runs of an engine, statement by statement.

  A run is a list of calls, each of which executes some statements: a batch those up to
  the first that fails. What every statement keeps, and clearing the history too, holds
  after every run (`trace_keeps`). What one statement does is one of four things
  (`does`): it is not recognized, cannot be read, fails, or succeeds. What is left of the
  catalog then comes of running the statement and counting its change (`catalog_after`).
-/

import PocketSql.Engine

namespace PocketSql

/-- What an engine is asked to do. -/
inductive EngineCall where
  | execute (r : Reading) (database sql : String)
  | batch (clock : Nat → Reading) (database sql : String)
  | clearHistory

def EngineCall.isClear : EngineCall → Bool
  | .clearHistory => true
  | .execute .. | .batch .. => false

/-- A statement that an engine executes. -/
structure Execution (σ : Type) where
  before : Engine σ
  reading : Reading
  database : String
  sql : String

variable {σ : Type} [KeyValueStore σ]

section Runs

variable [RegexCompiler]

namespace Execution

def after (x : Execution σ) : Engine σ :=
  (x.before.execute x.reading x.database x.sql).1

def outcome (x : Execution σ) : Outcome :=
  (x.before.execute x.reading x.database x.sql).2

end Execution

namespace Engine

/-! ## Runs -/

/-- The engine after a call. -/
def call (e : Engine σ) : EngineCall → Engine σ
  | .execute r database sql => (e.execute r database sql).1
  | .batch clock database sql => (e.executeBatch clock database sql).1
  | .clearHistory => e.clearHistory

/-- The engine after one call after the other. -/
def after (e : Engine σ) (calls : List EngineCall) : Engine σ :=
  calls.foldl call e

/-- What is executed of some statements: each one until one fails. -/
def executionsAll (e : Engine σ) (clock : Nat → Reading) (database : String) : List String → List (Execution σ)
  | [] => []
  | sql :: more =>
    let x : Execution σ := ⟨e, clock 0, database, sql⟩
    x :: if x.outcome.success then
        x.after.executionsAll (fun n => clock (n + 1)) (switched database x.outcome) more
      else []

/-- The statements that a call executes, in their order. -/
def executions (e : Engine σ) : EngineCall → List (Execution σ)
  | .execute r database sql => [⟨e, r, database, sql⟩]
  | .batch clock database sql =>
    let statements := Sql.splitStatements sql
    if statements.isEmpty then [⟨e, clock 0, database, sql⟩]
    else e.executionsAll clock database statements
  | .clearHistory => []

/-- The statements that calls execute, in their order. -/
def trace (e : Engine σ) : List EngineCall → List (Execution σ)
  | [] => []
  | a :: more => e.executions a ++ (e.call a).trace more

theorem after_append (e : Engine σ) (calls more : List EngineCall) :
    e.after (calls ++ more) = (e.after calls).after more :=
  List.foldl_append

theorem trace_append (e : Engine σ) (calls more : List EngineCall) :
    e.trace (calls ++ more) = e.trace calls ++ (e.after calls).trace more := by
  induction calls generalizing e with
  | nil => rfl
  | cons a calls ih => rw [List.cons_append, trace, trace, ih, List.append_assoc]; rfl

/-- The first statement, and the others if it succeeds. -/
theorem executeAll_cons (e : Engine σ) (clock : Nat → Reading) (database sql : String) (more : List String) :
    e.executeAll clock database (sql :: more) =
      let x : Execution σ := ⟨e, clock 0, database, sql⟩
      if x.outcome.success then
        let rest := x.after.executeAll (fun n => clock (n + 1)) (switched database x.outcome) more
        (rest.1, x.outcome :: rest.2)
      else (x.after, [x.outcome]) :=
  rfl

theorem executionsAll_cons (e : Engine σ) (clock : Nat → Reading) (database sql : String) (more : List String) :
    e.executionsAll clock database (sql :: more) =
      let x : Execution σ := ⟨e, clock 0, database, sql⟩
      x :: if x.outcome.success then
        x.after.executionsAll (fun n => clock (n + 1)) (switched database x.outcome) more
      else [] :=
  rfl

variable {e : Engine σ}

section Keeps

variable {I : Engine σ → List (Execution σ) → Prop}

theorem executionsAll_keeps (hexec : ∀ x xs, I x.before xs → I x.after (xs ++ [x])) {xs : List (Execution σ)}
    (h : I e xs) (clock : Nat → Reading) (database : String) (statements : List String) :
    I (e.executeAll clock database statements).1 (xs ++ e.executionsAll clock database statements) := by
  induction statements generalizing e xs clock database with
  | nil => simpa [executeAll, executionsAll] using h
  | cons sql more ih =>
    let x : Execution σ := ⟨e, clock 0, database, sql⟩
    have hx : I x.after (xs ++ [x]) := hexec x xs h
    cases hs : x.outcome.success with
    | true =>
      have hmore := ih hx (fun n => clock (n + 1)) (switched database x.outcome)
      have hexecuted : e.executionsAll clock database (sql :: more) =
          x :: x.after.executionsAll (fun n => clock (n + 1)) (switched database x.outcome) more := by
        simp only [executionsAll_cons, x, hs, if_true]
      have hafter : (e.executeAll clock database (sql :: more)).1 =
          (x.after.executeAll (fun n => clock (n + 1)) (switched database x.outcome) more).1 := by
        simp only [executeAll_cons, x, hs, if_true]
      rw [hexecuted, hafter, List.append_cons]
      exact hmore
    | false =>
      have hexecuted : e.executionsAll clock database (sql :: more) = [x] := by
        simp only [executionsAll_cons, x, hs, Bool.false_eq_true, if_false]
      have hafter : (e.executeAll clock database (sql :: more)).1 = x.after := by
        simp only [executeAll_cons, x, hs, Bool.false_eq_true, if_false]
      rw [hexecuted, hafter]
      exact hx

/-- What every statement keeps of an engine and of the statements executed so far holds
    after calls, as far as clearing the history keeps it where it is called for. -/
theorem trace_keeps_of (hexec : ∀ x xs, I x.before xs → I x.after (xs ++ [x])) {calls : List EngineCall}
    (hclear : ∀ a ∈ calls, a.isClear = true → ∀ e xs, I e xs → I e.clearHistory xs) {xs : List (Execution σ)}
    (h : I e xs) : I (e.after calls) (xs ++ e.trace calls) := by
  induction calls generalizing e xs with
  | nil => simpa [trace, after] using h
  | cons a calls ih =>
    have hcall : I (e.call a) (xs ++ e.executions a) := by
      cases a with
      | execute r database sql => exact hexec ⟨e, r, database, sql⟩ xs h
      | clearHistory => simpa [executions, call] using hclear _ List.mem_cons_self rfl e xs h
      | batch clock database sql =>
        unfold call executions executeBatch
        dsimp only
        split
        · exact hexec ⟨e, clock 0, database, sql⟩ xs h
        · exact executionsAll_keeps hexec h clock database _
    have := ih (fun a ha => hclear a (List.mem_cons_of_mem _ ha)) hcall
    rwa [List.append_assoc] at this

/-- The same of what clearing the history keeps too, after every run. -/
theorem trace_keeps (hexec : ∀ x xs, I x.before xs → I x.after (xs ++ [x]))
    (hclear : ∀ e xs, I e xs → I e.clearHistory xs) {xs : List (Execution σ)} (h : I e xs)
    (calls : List EngineCall) : I (e.after calls) (xs ++ e.trace calls) :=
  trace_keeps_of hexec (fun _ _ _ => hclear) h

end Keeps

/-- What every statement keeps of an engine is so before each of them. -/
theorem before_of_mem_trace {I : Engine σ → Prop} (hexec : ∀ x : Execution σ, I x.before → I x.after)
    (hclear : ∀ e : Engine σ, I e → I e.clearHistory) (h : I e) {calls : List EngineCall} {x : Execution σ}
    (hx : x ∈ e.trace calls) : I x.before := by
  let J (e : Engine σ) (xs : List (Execution σ)) : Prop := I e ∧ ∀ x ∈ xs, I x.before
  have hstep : ∀ x xs, J x.before xs → J x.after (xs ++ [x]) := by
    rintro x xs ⟨hi, hxs⟩
    refine ⟨hexec x hi, fun y hy => ?_⟩
    rcases List.mem_append.mp hy with hy | hy
    · exact hxs y hy
    · rwa [List.mem_singleton.mp hy]
  have hstart : J e [] := ⟨h, fun y hy => by cases hy⟩
  have hall : J (e.after calls) ([] ++ e.trace calls) :=
    trace_keeps hstep (fun e xs hj => ⟨hclear e hj.1, hj.2⟩) hstart calls
  exact hall.2 x hx

end Engine

end Runs

/-! ## Statements -/

namespace Engine

@[simp] theorem config_save (e : Engine σ) (key document : String) : (e.save key document).config = e.config :=
  rfl

@[simp] theorem catalog_save (e : Engine σ) (key document : String) : (e.save key document).catalog = e.catalog :=
  rfl

/-- A success only counts a change to the database that it was made in. -/
theorem catalog_afterSuccess (e : Engine σ) (now : Instant) (kind : Sql.Kind) (target : String) (result : QueryResult)
    (before : Nat) :
    (e.afterSuccess now kind target result before).catalog =
      if touches kind then e.catalog.modifyDatabase target (·.touch now) else e.catalog := by
  unfold afterSuccess
  split
  · rfl
  · rename_i hm
    have ht : touches kind = false := by simp [touches, hm]
    rw [ht]
    dsimp only
    split <;> split <;> rfl

theorem config_afterSuccess (e : Engine σ) (now : Instant) (kind : Sql.Kind) (target : String) (result : QueryResult)
    (before : Nat) : (e.afterSuccess now kind target result before).config = e.config := by
  unfold afterSuccess
  split
  · rfl
  · dsimp only
    split <;> split <;> rfl

theorem catalog_recordHistory (e : Engine σ) (r : Reading) (statement : String) (o : Outcome) :
    (e.recordHistory r statement o).catalog = e.catalog :=
  rfl

end Engine

/-- The outcome of a statement that was run. -/
def Outcome.ofRun (queryType database : String) (outcome : Except Fault QueryResult) (elapsed : Binary64) : Outcome :=
  match outcome with
  | .ok result => .ofResult queryType database result elapsed
  | .error f => .ofFault queryType f elapsed

theorem Outcome.success_ofResult (kind database : String) (result : QueryResult) (elapsed : Binary64) :
    (ofResult kind database result elapsed).success = true := by
  unfold ofResult
  dsimp only
  split <;> rfl

theorem Outcome.queryType_ofResult (queryType database : String) (result : QueryResult) (elapsed : Binary64) :
    (ofResult queryType database result elapsed).queryType = queryType := by
  unfold ofResult
  dsimp only
  split <;> rfl

namespace Execution

variable [RegexCompiler]

/-- The database that a statement runs on. -/
def target (x : Execution σ) : String :=
  x.before.targetDatabase x.database

/-- What executing a statement does, and what is answered. -/
inductive Does (x : Execution σ) : Prop
  | unrecognized {f : Fault} : Engine.prepare x.sql = .error f → x.after = x.before →
      x.outcome = .ofFault Outcome.unknownType f x.reading.elapsed → Does x
  | unreadable {statement : String} {kind : Sql.Kind} {f : Fault} :
      Engine.prepare x.sql = .ok (statement, kind) → Sql.parse statement kind = .error f →
      x.after = x.before.recordHistory x.reading statement x.outcome →
      x.outcome = .ofFault kind.text f x.reading.elapsed → Does x
  | failed {statement : String} {kind : Sql.Kind} {s : Statement} {c : Catalog} {f : Fault} :
      Engine.prepare x.sql = .ok (statement, kind) → Sql.parse statement kind = .ok s →
      x.before.catalog.run x.reading.now x.target s = (c, .error f) →
      x.after = { x.before with catalog := c }.recordHistory x.reading statement x.outcome →
      x.outcome = .ofFault kind.text f x.reading.elapsed → Does x
  | succeeded {statement : String} {kind : Sql.Kind} {s : Statement} {c : Catalog} {result : QueryResult} :
      Engine.prepare x.sql = .ok (statement, kind) → Sql.parse statement kind = .ok s →
      x.before.catalog.run x.reading.now x.target s = (c, .ok result) →
      x.after = ({ x.before with catalog := c }.afterSuccess x.reading.now kind x.target result
        x.before.catalog.databases.length).recordHistory x.reading statement x.outcome →
      x.outcome = .ofResult kind.text x.target result x.reading.elapsed → Does x

theorem does (x : Execution σ) : x.Does := by
  have hexecute : x.before.execute x.reading x.database x.sql = (x.after, x.outcome) := rfl
  unfold Engine.execute at hexecute
  cases hp : Engine.prepare x.sql with
  | error f =>
    rw [hp] at hexecute
    exact .unrecognized hp (congrArg Prod.fst hexecute).symm (congrArg Prod.snd hexecute).symm
  | ok p =>
    obtain ⟨statement, kind⟩ := p
    rw [hp] at hexecute
    dsimp only at hexecute
    unfold Engine.executePrepared Engine.runStatement at hexecute
    cases hparse : Sql.parse statement kind with
    | error f =>
      rw [hparse] at hexecute
      have ho : x.outcome = .ofFault kind.text f x.reading.elapsed := (congrArg Prod.snd hexecute).symm
      exact .unreadable hp hparse (ho ▸ (congrArg Prod.fst hexecute).symm) ho
    | ok s =>
      rw [hparse] at hexecute
      dsimp only at hexecute
      cases hrun : x.before.catalog.run x.reading.now x.target s with
      | mk c outcome =>
        rw [show x.before.targetDatabase x.database = x.target from rfl, hrun] at hexecute
        cases outcome with
        | error f =>
          have ho : x.outcome = .ofFault kind.text f x.reading.elapsed := (congrArg Prod.snd hexecute).symm
          exact .failed hp hparse hrun (ho ▸ (congrArg Prod.fst hexecute).symm) ho
        | ok result =>
          have ho : x.outcome = .ofResult kind.text x.target result x.reading.elapsed :=
            (congrArg Prod.snd hexecute).symm
          exact .succeeded hp hparse hrun (ho ▸ (congrArg Prod.fst hexecute).symm) ho

/-- What running a statement leaves of the catalog. -/
def ran (x : Execution σ) (s : Statement) : Catalog :=
  (x.before.catalog.run x.reading.now x.target s).1

/-- A statement that is read is run, and its success counted as a change if it is of a kind
    to be counted. -/
theorem after_of_parse {x : Execution σ} {statement : String} {kind : Sql.Kind} {s : Statement}
    (hp : Engine.prepare x.sql = .ok (statement, kind)) (hparse : Sql.parse statement kind = .ok s) :
    x.outcome = .ofRun kind.text x.target (x.before.catalog.run x.reading.now x.target s).2 x.reading.elapsed ∧
      x.after.catalog = if x.outcome.success && Engine.touches kind then
        (x.ran s).modifyDatabase x.target (·.touch x.reading.now) else x.ran s := by
  cases x.does with
  | unrecognized hp' => cases hp.symm.trans hp'
  | unreadable hp' hparse' =>
    cases hp.symm.trans hp'
    cases hparse.symm.trans hparse'
  | failed hp' hparse' hrun ha ho =>
    cases hp.symm.trans hp'
    cases hparse.symm.trans hparse'
    refine ⟨by rw [ho, hrun]; rfl, ?_⟩
    rw [ha, Engine.catalog_recordHistory, ran, hrun, if_neg (by simp [ho, Outcome.ofFault])]
  | succeeded hp' hparse' hrun ha ho =>
    cases hp.symm.trans hp'
    cases hparse.symm.trans hparse'
    refine ⟨by rw [ho, hrun]; rfl, ?_⟩
    rw [ha, Engine.catalog_recordHistory, Engine.catalog_afterSuccess, ran, hrun, ho, Outcome.success_ofResult,
      Bool.true_and]

/-- Any other text leaves the catalog alone. -/
theorem catalog_after (x : Execution σ) :
    (x.outcome.success = false ∧ x.after.catalog = x.before.catalog) ∨
      ∃ statement kind s, Engine.prepare x.sql = .ok (statement, kind) ∧ Sql.parse statement kind = .ok s ∧
        x.after.catalog = if x.outcome.success && Engine.touches kind then
          (x.ran s).modifyDatabase x.target (·.touch x.reading.now) else x.ran s := by
  cases x.does with
  | unrecognized hp ha ho => exact .inl ⟨by rw [ho]; rfl, by rw [ha]⟩
  | unreadable hp hparse ha ho => exact .inl ⟨by rw [ho]; rfl, by rw [ha, Engine.catalog_recordHistory]⟩
  | failed hp hparse | succeeded hp hparse => exact .inr ⟨_, _, _, hp, hparse, (after_of_parse hp hparse).2⟩

/-- What running a statement and counting a change keep of a catalog, executing keeps. -/
theorem catalog_keeps {x : Execution σ} {I : Catalog → Prop} (h : I x.before.catalog)
    (hran : ∀ statement kind s, Engine.prepare x.sql = .ok (statement, kind) → Sql.parse statement kind = .ok s →
      I (x.ran s))
    (htouch : ∀ c, I c → I (c.modifyDatabase x.target (·.touch x.reading.now))) : I x.after.catalog := by
  rcases x.catalog_after with ⟨-, hcatalog⟩ | ⟨statement, kind, s, hp, hparse, hafter⟩
  · rwa [hcatalog]
  · have hs := hran statement kind s hp hparse
    rw [hafter]
    split
    · exact htouch _ hs
    · exact hs

end Execution

end PocketSql
