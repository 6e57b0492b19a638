/-
  PocketSql.Proofs.Engine.Batch — batches one after the other.

  Statements are executed up to the first that fails, so a batch of two scripts goes on
  with the second one where all of the first succeeded, in the database that the last USE
  among them reported (`executeAll_append`). Up to the statement that fails, a batch is
  all that is executed: what stands after it may as well be something else. A batch cleans
  its statements twice, as parts of the script and one by one, and the second time changes
  nothing (`cleaned_once`).
-/

import PocketSql.Proofs.Engine.Run
import PocketSql.Proofs.Sql.Cut
import PocketSql.Proofs.Sql.Settled

namespace PocketSql.Engine

variable {σ : Type} [KeyValueStore σ] {e : Engine σ} {clock : Nat → Reading} {database : String}

/-- The database that the last successful USE reported; without one, the database asked
    for. -/
def usedAfter (database : String) (os : List Outcome) : String :=
  (os.reverse.findSome? fun o =>
    if o.success && o.queryType == Sql.Kind.use.text then o.database else none).getD database

theorem usedAfter_cons (database : String) (o : Outcome) (os : List Outcome) :
    usedAfter database (o :: os) = usedAfter (switched database o) os := by
  unfold usedAfter switched
  rw [List.reverse_cons, List.findSome?_append]
  cases os.reverse.findSome? fun o => if o.success && o.queryType == Sql.Kind.use.text then o.database else none with
  | some used => rfl
  | none =>
    rw [Option.none_or, Option.getD_none, List.findSome?_singleton]
    split
    · cases o.database <;> rfl
    · rfl

/-! ## Statements in order -/

section Scripts

variable [RegexCompiler]

theorem executeAll_append (e : Engine σ) (clock : Nat → Reading) (database : String) (first second : List String) :
    e.executeAll clock database (first ++ second) =
      let done := e.executeAll clock database first
      if done.2.all (·.success) then
        let more := done.1.executeAll (fun n => clock (n + done.2.length)) (usedAfter database done.2) second
        (more.1, done.2 ++ more.2)
      else done := by
  induction first generalizing e clock database with
  | nil => rfl
  | cons sql first ih =>
    let x : Execution σ := ⟨e, clock 0, database, sql⟩
    rw [List.cons_append, executeAll_cons, executeAll_cons]
    cases hs : x.outcome.success with
    | false => simp [x, hs]
    | true =>
      have hmore := ih x.after (fun n => clock (n + 1)) (switched database x.outcome)
      simp only [x] at hs hmore
      simp only [hs, hmore, if_true, List.all_cons, Bool.true_and, List.length_cons, usedAfter_cons]
      split
      · simp [Nat.add_assoc]
      · rfl

/-- Only the last result may be a failure. -/
theorem success_of_mem_dropLast (e : Engine σ) (clock : Nat → Reading) (database : String) (statements : List String) :
    ∀ o ∈ (e.executeAll clock database statements).2.dropLast, o.success = true := by
  induction statements generalizing e clock database with
  | nil => simp [executeAll]
  | cons sql more ih =>
    let x : Execution σ := ⟨e, clock 0, database, sql⟩
    rw [executeAll_cons]
    cases hs : x.outcome.success with
    | false => simp [x, hs]
    | true =>
      have hcons : ∀ os : List Outcome, (∀ o ∈ os.dropLast, o.success = true) →
          ∀ o ∈ (x.outcome :: os).dropLast, o.success = true := by
        intro os hos
        cases os with
        | nil => simp
        | cons o os => exact List.forall_mem_cons.mpr ⟨hs, hos⟩
      dsimp only
      rw [if_pos hs]
      exact hcons _ (ih _ _ _)

/-- The statements without a result are not executed. -/
theorem executeAll_take (e : Engine σ) (clock : Nat → Reading) (database : String) (statements : List String) :
    e.executeAll clock database (statements.take (e.executeAll clock database statements).2.length) =
      e.executeAll clock database statements := by
  induction statements generalizing e clock database with
  | nil => rfl
  | cons sql more ih =>
    let x : Execution σ := ⟨e, clock 0, database, sql⟩
    cases hs : x.outcome.success with
    | false =>
      simp only [x] at hs
      simp [executeAll_cons, hs]
    | true =>
      have hmore := ih x.after (fun n => clock (n + 1)) (switched database x.outcome)
      simp only [x] at hs hmore
      simp only [executeAll_cons, hs, if_true, List.length_cons, List.take_succ_cons, hmore]

/-- After a statement that failed, no other one matters. -/
theorem executeAll_eq_of_failed {statements statements' : List String}
    (hfailed : ∃ o ∈ (e.executeAll clock database statements).2, o.success = false)
    (hsame : statements'.take (e.executeAll clock database statements).2.length =
      statements.take (e.executeAll clock database statements).2.length) :
    e.executeAll clock database statements' = e.executeAll clock database statements := by
  have hnot : (e.executeAll clock database statements).2.all (·.success) = false := by
    rw [List.all_eq_false]
    obtain ⟨o, ho, hs⟩ := hfailed
    exact ⟨o, ho, by simp [hs]⟩
  rw [← List.take_append_drop (e.executeAll clock database statements).2.length statements', hsame, executeAll_append,
    executeAll_take]
  dsimp only
  rw [hnot]
  rfl

/-! ## Scripts -/

theorem executeBatch_of_statements {sql : String} (h : Sql.splitStatements sql ≠ []) :
    e.executeBatch clock database sql = e.executeAll clock database (Sql.splitStatements sql) := by
  rw [executeBatch, if_neg (by simpa using h)]

/-- A batch of two scripts with a semicolon and a line break between them is the first and,
    where that succeeds, the second in the database that the first one switched to. Of
    every batch at most the last result is a failure, and any other batch that starts with
    the same statements up to that one gives the same. -/
theorem executeBatch_append (e : Engine σ) (clock : Nat → Reading) (database : String) {a b : String}
    (hplace : Sql.placeAfter .outside a.toList = .outside) (ha : Sql.splitStatements a ≠ [])
    (hb : Sql.splitStatements b ≠ []) :
    (e.executeBatch clock database (a ++ ";\n" ++ b) =
      let first := e.executeBatch clock database a
      if first.2.all (·.success) then
        let second := first.1.executeBatch (fun n => clock (n + first.2.length)) (usedAfter database first.2) b
        (second.1, first.2 ++ second.2)
      else first) ∧
    ∀ (e : Engine σ) (clock : Nat → Reading) (database sql : String),
      let os := (e.executeBatch clock database sql).2
      (∀ o ∈ os.dropLast, o.success = true) ∧
        ∀ sql', (∃ o ∈ os, o.success = false) → Sql.splitStatements sql ≠ [] →
          (Sql.splitStatements sql').take os.length = (Sql.splitStatements sql).take os.length →
          e.executeBatch clock database sql' = e.executeBatch clock database sql := by
  constructor
  · have hstatements : Sql.splitStatements (a ++ ";\n" ++ b) = Sql.splitStatements a ++ Sql.splitStatements b :=
      Sql.splitStatements_append hplace
    have hboth : Sql.splitStatements (a ++ ";\n" ++ b) ≠ [] := by simp [hstatements, ha]
    simp only [executeBatch_of_statements hboth, hstatements, executeBatch_of_statements ha,
      executeBatch_of_statements hb]
    exact executeAll_append ..
  · intro e clock database sql os
    by_cases hsql : Sql.splitStatements sql = []
    · have hone : os = [(e.execute (clock 0) database sql).2] := by simp [os, executeBatch, hsql]
      exact ⟨by simp [hone], fun _ _ hne => absurd hsql hne⟩
    · have hbatch : e.executeBatch clock database sql = e.executeAll clock database (Sql.splitStatements sql) :=
        executeBatch_of_statements hsql
      simp only [os, hbatch]
      refine ⟨success_of_mem_dropLast e clock database _, fun sql' hfailed _ hsame => ?_⟩
      rw [← executeAll_eq_of_failed hfailed hsame]
      refine executeBatch_of_statements fun hnil => ?_
      -- The statement that failed stands in the other batch too.
      rw [hnil, List.take_nil, eq_comm, List.take_eq_nil_iff, List.length_eq_zero_iff] at hsame
      obtain ⟨o, ho, -⟩ := hfailed
      rcases hsame with hnone | hnone
      · rw [hnone] at ho
        cases ho
      · exact hsql hnone

end Scripts

/-- The second script runs in the database that the first one switches to. -/
theorem executeBatch_append_of_use :
    let clock := Function.const Nat (⟨⟨0, 0⟩, .zero⟩ : Reading)
    let a := "CREATE DATABASE `x;y`; USE `x;y` -- from now on\n"
    let b := "CREATE TABLE t (a INT); SHOW TABLES"
    let first := (opened {} ({} : Memory)).executeBatch clock "app" a
    let second := first.1.executeBatch (fun n => clock (n + 2)) "x;y" b
    (first.2.all (·.success) = true ∧ first.2.length = 2 ∧ usedAfter "app" first.2 = "x;y" ∧
      second.2.map (·.database) = [some "x;y", some "x;y"]) ∧
      (opened {} ({} : Memory)).executeBatch clock "app" (a ++ ";\n" ++ b) = (second.1, first.2 ++ second.2) := by
  dsimp only
  refine (fun hrun => ⟨hrun, ?_⟩) ?run
  case run => decide +kernel
  obtain ⟨hsuccess, hlen, hused, -⟩ := hrun
  rw [(executeBatch_append _ _ "app" (by decide +kernel) (by decide +kernel) (by decide +kernel)).1]
  dsimp only
  rw [if_pos hsuccess, hlen, hused]

/-! ## Cleaning a second time -/

section Normal

variable [RegexCompiler]

/-- Executes a statement that is in normal form already. -/
def executeNormal (e : Engine σ) (r : Reading) (database statement : String) : Engine σ × Outcome :=
  match Sql.classify statement with
  | .ok kind => e.executePrepared r database statement kind
  | .error fault => (e, .ofFault Outcome.unknownType fault r.elapsed)

theorem execute_of_normalize {r : Reading} {statement : String} (h : Sql.normalize statement = .ok statement) :
    e.execute r database statement = e.executeNormal r database statement := by
  have hprepare : prepare statement = (Sql.classify statement >>= fun kind => pure (statement, kind)) := by
    simp only [prepare, h, bind, Except.bind]
  rw [execute, hprepare, executeNormal]
  cases Sql.classify statement <;> rfl

/-- The normal form of any text is its own normal form. A statement that is cut out of a
    script is one as well, and a script of nothing else, so that it is executed as it is. -/
theorem cleaned_once (sql : String) :
    (∀ normal, Sql.normalize sql = .ok normal → Sql.normalize normal = .ok normal) ∧
      ∀ statement ∈ Sql.splitStatements sql,
        Sql.normalize statement = .ok statement ∧ Sql.splitStatements statement = [statement] ∧
          ∀ (e : Engine σ) (r : Reading) (database : String),
            e.execute r database statement = e.executeNormal r database statement := by
  refine ⟨fun normal h => Sql.normalize_of_normalize h, fun statement h => ?_⟩
  obtain ⟨hnormal, hsplit⟩ := Sql.normalize_of_mem_splitStatements h
  exact ⟨hnormal, hsplit, fun e r database => execute_of_normalize hnormal⟩

end Normal

/-- The last statement breaks off in a quote, where a semicolon after a backslash falls away. -/
theorem cleaned_once_of_open_quote :
    let sql := " SELECT -- ;\n 'a;  b' /* ; */ - ;; -c \"d; \\; /*"
    let normal := "SELECT 'a;  b' - ;; -c \"d; \\; /*"
    (Sql.normalize sql = .ok normal ∧ Sql.splitStatements sql = ["SELECT 'a;  b' -", "-c \"d; \\; /*"]) ∧
      Sql.normalize normal = .ok normal ∧ Sql.splitStatements "-c \"d; \\; /*" = ["-c \"d; \\; /*"] := by
  dsimp only
  refine (fun hclean => ⟨hclean, ?_⟩) ?clean
  case clean => decide +kernel
  obtain ⟨hnormal, hsplit⟩ := hclean
  have hlast : "-c \"d; \\; /*" ∈ Sql.splitStatements " SELECT -- ;\n 'a;  b' /* ; */ - ;; -c \"d; \\; /*" := by
    simp [hsplit]
  obtain ⟨honce, hpieces⟩ := cleaned_once (σ := Memory) " SELECT -- ;\n 'a;  b' /* ; */ - ;; -c \"d; \\; /*"
  exact ⟨honce _ hnormal, (hpieces _ hlast).2.1⟩

end PocketSql.Engine
