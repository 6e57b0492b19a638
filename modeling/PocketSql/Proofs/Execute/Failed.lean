/-
  PocketSql.Proofs.Execute.Failed — what is left of a statement that fails.

  Every check of a statement comes before its first change, the compiling of its patterns
  as well, so a failure leaves all databases as they were; only an INSERT keeps the rows
  before the one that failed. One thing may remain: a database named for the first time is
  created before the statement is looked at, and stays without tables (`kept_of_fault`).
-/

import PocketSql.Proofs.Execute.Arising
import PocketSql.Proofs.Query.Filtered

namespace PocketSql

/-- The given compiler, but that it refuses expressions of more than `size` characters. -/
@[reducible]
def Regex.bounded (size : Nat) : RegexCompiler where
  escape := Regex.escape
  compile ignoreCase expression :=
    if size < expression.length then .error "Compiled regex exceeds size limit of 10485760 bytes."
    else RegexCompiler.compile ignoreCase expression

theorem Like.length_expression_runs [RegexCompiler] (n : Nat) :
    (Like.expression (String.ofList (List.replicate n '%'))).length = 2 * n + 2 := by
  have hrun : Like.expressionOf '%' = ".*" := rfl
  rw [← String.length_toList]
  simp [Like.expression, String.toList_join, hrun, List.flatMap_replicate]
  omega

namespace Catalog

variable {c : Catalog} {now : Instant} {database : String} {s : Statement} {f : Fault}

/-- Whether `c'` has all that `c` has, and no more than an empty database that a statement
    on it created. -/
def Kept (c : Catalog) (now : Instant) (database : String) (c' : Catalog) : Prop :=
  c' = c ∨ c.hasDatabase database = false ∧
    c' = { c with entries := c.entries ++ [(key database, .empty database now)] }

/-- A step that fails changes no database, if it leaves the one it fails in as it was. -/
theorem kept_access {step : Database → Database × Except Fault QueryResult} (hn : (c.entries.map (·.1)).Nodup)
    (hstep : ∀ db, (step db).2 = .error f → (step db).1 = db)
    (h : (c.access now database step).2 = .error f) : c.Kept now database (c.access now database step).1 := by
  cases hdb : c.database? database with
  | some db =>
    left
    rw [access_of_some hdb] at h ⊢
    rw [hstep db h, put_self hn hdb]
  | none =>
    right
    -- The step failed in the new database, which is still as it was created.
    rw [access_of_none hdb] at h ⊢
    rw [hstep _ h]
    exact ⟨by simp [hasDatabase, hdb], rfl⟩

theorem kept_run [RegexCompiler] (hn : (c.entries.map (·.1)).Nodup) (hs : ∀ i, s ≠ .insert i)
    (h : (c.run now database s).2 = .error f) : c.Kept now database (c.run now database s).1 := by
  rcases run_of_error h with hc | hin
  · exact .inl hc
  · rw [hin, runIn_eq_access] at h ⊢
    apply kept_access hn ?_ h
    intro db hdb
    exact Database.run_of_error hs hdb

/-- A statement that fails, other than an INSERT, leaves every database and the selection as
    they were and adds at most an empty database on first access, also where it fails at a
    pattern that is refused. -/
theorem kept_of_fault [RegexCompiler] {clock : Instant → Prop} (h : c.Arises clock) (hs : ∀ i, s ≠ .insert i)
    (now : Instant) (database : String) {f : Fault} (hf : (c.run now database s).2 = .error f) :
    c.Kept now database (c.run now database s).1 :=
  kept_run h.sound.keys hs hf

/-- An UPDATE whose second column is missing, and a DELETE whose pattern is too large. -/
theorem kept_of_fault_update :
    let create : Statement := .createTable
      { table := "t", columns := [{ name := "a", type := .text }], constraints := [], ifNotExists := false
        engine := none, charset := none }
    let insert : Statement := .insert { table := "t", columns := none, rows := [[.quoted "x"]] }
    let update : Statement := .update
      { table := "t", assignments := [⟨"a", .quoted "y"⟩, ⟨"b", .quoted "z"⟩], condition := none }
    let delete (pattern : String) : Statement := .delete
      { table := "t", condition := some ⟨.like "a" pattern false, []⟩ }
    let wide := String.ofList (List.replicate 10000000 '%')
    let reason := "Compiled regex exceeds size limit of 10485760 bytes."
    let _ : RegexCompiler := Regex.bounded 1000000
    let c := ((Catalog.run {} ⟨0, 0⟩ "App" create).1.run ⟨1, 0⟩ "app" insert).1
    (c.run ⟨2, 0⟩ "app" update).2 = .error (.invalidColumn "b" "a") ∧
      c.Kept ⟨2, 0⟩ "app" (c.run ⟨2, 0⟩ "app" update).1 ∧
      (c.run ⟨2, 0⟩ "app" (delete wide)).2 = .error (.refusedPattern wide reason) ∧
      c.Kept ⟨2, 0⟩ "app" (c.run ⟨2, 0⟩ "app" (delete wide)).1 := by
  intro create insert update delete wide reason _ c
  have hcreate : create.Written := ⟨"CREATE TABLE t (a TEXT)", .createTable, by decide +kernel⟩
  have hinsert : insert.Written := ⟨"INSERT INTO t VALUES ('x')", .insert, by decide +kernel⟩
  have hc : c.Arises fun _ => True := .run _ (.run _ .empty trivial hcreate) trivial hinsert
  have hupdate : (c.run ⟨2, 0⟩ "app" update).2 = .error (.invalidColumn "b" "a") := by decide +kernel
  -- The pattern stays a variable where the statement is run: it is too long to be written out.
  have hrefused : ∀ pattern, 1000000 < (Like.expression pattern).length →
      (c.run ⟨2, 0⟩ "app" (delete pattern)).2 = .error (.refusedPattern pattern reason) := by
    intro pattern hlong
    have htable : (c.database? "app").map (·.table? "t") = some (some
        { name := "t", columns := [{ name := "a", type := .text }], rows := [[.text "x"]] }) := by decide +kernel
    obtain ⟨db, hdb, ht⟩ := Option.map_eq_some_iff.mp htable
    have hcompile : RegexCompiler.compile true (Like.expression pattern) = .error reason := if_pos hlong
    have hrun : db.run ⟨2, 0⟩ (delete pattern) = (db, .error (.refusedPattern pattern reason)) := by
      apply Database.run_delete_of_error ht
      simp only [Table.delete, Table.filter, Table.test, Like.compile, hcompile]
      rfl
    rw [run_of_named rfl (by decide) hdb, hrun]
  have hdelete := hrefused wide (by rw [Like.length_expression_runs]; decide)
  have hnot : (∀ i, update ≠ .insert i) ∧ ∀ pattern i, delete pattern ≠ .insert i := by
    simp [update, delete]
  exact ⟨hupdate, kept_of_fault hc hnot.1 _ _ hupdate, hdelete, kept_of_fault hc (hnot.2 wide) _ _ hdelete⟩

end Catalog

end PocketSql
