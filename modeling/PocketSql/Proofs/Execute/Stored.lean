/-
  PocketSql.Proofs.Execute.Stored — what an INSERT that fails has stored.

  An INSERT is refused as a whole where it names a column that is not there or gives a
  tuple more or fewer values than columns. After that it goes row by row, and a row fails
  only at an identity column that holds the greatest integer. The rows before it stay, as
  if their tuples had been given alone (`stored_of_fault`). So the table is left as it was
  just where the statement is refused or finds no room for its first row.
-/

import PocketSql.Proofs.Execute.Frame
import PocketSql.Proofs.Execute.Identity
import PocketSql.Proofs.Execute.Reachable

namespace PocketSql

/-- The INSERT of the first tuples alone. -/
def Insert.upTo (s : Insert) (n : Nat) : Insert :=
  { s with rows := s.rows.take n }

namespace Table

variable {t : Table} {now : Instant} {s : Insert} {targets : List Nat} {f : Fault}

/-- Whether an INSERT names columns of the table only, and each tuple has a value for
    each of them. -/
def Admits (t : Table) (s : Insert) : Prop :=
  ∃ targets, t.insertTargets s.columns = .ok targets ∧ ∀ row ∈ s.rows, row.length = targets.length

theorem insert_of_not_admits (h : ¬t.Admits s) : (t.insert now s).1 = t := by
  unfold insert
  split
  · rfl
  · rename_i targets htargets
    split
    · rfl
    · rename_i hnone
      have hlengths : ∀ row ∈ s.rows, row.length = targets.length := by simpa using hnone
      exact absurd ⟨targets, htargets, hlengths⟩ h

theorem insert_of_targets (htargets : t.insertTargets s.columns = .ok targets)
    (hlengths : ∀ row ∈ s.rows, row.length = targets.length) :
    t.insert now s = ((t.insertRows now targets s.rows).1, (t.insertRows now targets s.rows).2.map fun _ =>
      .ofAffected s.rows.length (toString s.rows.length ++ " row(s) inserted")) := by
  have hnone : (s.rows.find? fun row => row.length != targets.length) = none := by simpa using hlengths
  simp only [insert, htargets, hnone]

/-- The rows that an INSERT leaves behind when it fails: none, or as many of the first ones
    as there was room for. -/
theorem insert_of_error (h : (t.insert now s).2 = .error f) :
    ∃ stored : List Row, (t.insert now s).1 = { t with rows := t.rows ++ stored } ∧
      (stored = [] ↔ ¬t.Admits s ∨ ¬t.HasRoom) ∧
      (stored ≠ [] → stored.length < s.rows.length ∧ ¬(t.insert now s).1.HasRoom ∧
        (∃ column, f = .autoIncrementOverflow t.name column) ∧
        t.insert now (s.upTo stored.length) = ((t.insert now s).1,
          .ok (.ofAffected stored.length (toString stored.length ++ " row(s) inserted")))) := by
  by_cases hadmits : t.Admits s
  · obtain ⟨targets, htargets, hlengths⟩ := hadmits
    have hadmits : t.Admits s := ⟨targets, htargets, hlengths⟩
    rw [insert_of_targets htargets hlengths] at h ⊢
    obtain ⟨stored, ht, hlength, hfirst, hfull, halone, hf⟩ := insertRows_of_error (map_eq_error.mp h)
    refine ⟨stored, ht, by simp [hadmits, hfirst], fun _ => ⟨hlength, hfull, hf, ?_⟩⟩
    have hlengths' : ∀ row ∈ (s.upTo stored.length).rows, row.length = targets.length := by
      intro row hrow
      exact hlengths row (List.mem_of_mem_take hrow)
    have hfew : (s.upTo stored.length).rows.length = stored.length :=
      List.length_take_of_le (Nat.le_of_lt hlength)
    rw [insert_of_targets (s := s.upTo stored.length) htargets hlengths', hfew]
    simp only [Insert.upTo, halone]
    rfl
  · exact ⟨[], by simp [insert_of_not_admits hadmits], by simp [hadmits], fun hne => absurd rfl hne⟩

end Table

namespace Catalog

variable {c : Catalog} {now : Instant} {database : String} {db : Database} {s : Insert} {t : Table} {f : Fault}

theorem run_insert [RegexCompiler] (hname : (Text.trim database).isEmpty = false) (hdb : c.database? database = some db)
    (ht : db.table? s.table = some t) :
    c.run now database (.insert s) =
      (c.put (key database) (db.modifyTable s.table fun _ => (t.insert now s).1), (t.insert now s).2) := by
  rw [run_of_named rfl hname hdb, Database.run_insert ht (Prod.eta _).symm]

/-- An INSERT that fails leaves in its table the rows before the one that failed, as the
    INSERT of just their tuples stores them. It leaves none just where it names no
    database, does not fit the columns, or finds the table full. -/
theorem stored_of_fault [RegexCompiler] (hdb : c.database? database = some db) (ht : db.table? s.table = some t)
    (h : (c.run now database (.insert s)).2 = .error f) :
    ∃ db' stored, (c.run now database (.insert s)).1.database? database = some db' ∧
      db'.table? s.table = some { t with rows := t.rows ++ stored } ∧
      (stored = [] ↔ (Text.trim database).isEmpty = true ∨ ¬t.Admits s ∨ ¬t.HasRoom) ∧
      (stored ≠ [] → stored.length < s.rows.length ∧ ¬{ t with rows := t.rows ++ stored : Table }.HasRoom ∧
        (∃ column, f = .autoIncrementOverflow t.name column) ∧
        c.run now database (.insert (s.upTo stored.length)) = ((c.run now database (.insert s)).1,
          .ok (.ofAffected stored.length (toString stored.length ++ " row(s) inserted")))) := by
  by_cases hname : (Text.trim database).isEmpty = true
  · have hrun : c.run now database (.insert s) = (c, .error .noDatabaseSelected) := if_pos hname
    rw [hrun]
    exact ⟨db, [], hdb, by simpa using ht, by simp [hname], fun hne => absurd rfl hne⟩
  · rw [Bool.not_eq_true] at hname
    rw [run_insert hname hdb ht] at h ⊢
    obtain ⟨stored, hstored, hnothing, hsome⟩ := Table.insert_of_error h
    refine ⟨_, stored, database?_put c database _, ?_, by simp [hname, hnothing], fun hne => ?_⟩
    · rw [← hstored]
      exact Database.table?_modifyTable ht (Table.keeps_insert s).name
    · obtain ⟨hlength, hfull, hf, halone⟩ := hsome hne
      have hrun : c.run now database (.insert (s.upTo stored.length)) = _ := run_insert hname hdb ht
      rw [halone] at hrun
      exact ⟨hlength, hstored ▸ hfull, hf, hrun⟩

/-- Two tuples for a table with room for one. -/
theorem stored_of_fault_second :
    let identity : Column := { name := "id", type := .int, primaryKey := true, autoIncrement := true }
    let create : Statement := .createTable
      { table := "t", columns := [identity, { name := "v", type := .text }], constraints := [], ifNotExists := false
        engine := none, charset := none }
    let insert (texts : List String) : Insert :=
      { table := "t", columns := some ["v"], rows := texts.map fun v => [.quoted v] }
    let update : Statement := .update
      { table := "t", assignments := [⟨"id", .number "9223372036854775806"⟩], condition := none }
    let c := (((Catalog.run {} ⟨0, 0⟩ "app" create).1.run ⟨1, 0⟩ "app" (.insert (insert ["a"]))).1.run
      ⟨2, 0⟩ "app" update).1
    let failed := c.run ⟨3, 0⟩ "app" (.insert (insert ["b", "c"]))
    let last (c : Catalog) : Option (List Row) :=
      ((c.database? "app").bind (·.table? "t")).map (·.rows)
    c.Reachable ∧ (Statement.insert (insert ["b", "c"])).Written ∧
      failed.2 = .error (.autoIncrementOverflow "t" "id") ∧
      last c = some [[.integer 9223372036854775806, .text "a"]] ∧
      last failed.1 = some [[.integer 9223372036854775806, .text "a"], [.integer 9223372036854775807, .text "b"]] ∧
      c.run ⟨3, 0⟩ "app" (.insert (insert ["b"])) = (failed.1, .ok (.ofAffected 1 "1 row(s) inserted")) := by
  intro identity create insert update c failed last
  have hcreate : create.Written :=
    ⟨"CREATE TABLE t (id INT PRIMARY KEY AUTO_INCREMENT, v TEXT)", .createTable, by decide +kernel⟩
  have hinsert : (Statement.insert (insert ["a"])).Written :=
    ⟨"INSERT INTO t (v) VALUES ('a')", .insert, by decide +kernel⟩
  have hupdate : update.Written := ⟨"UPDATE t SET id = 9223372036854775806", .update, by decide +kernel⟩
  have hmore : (Statement.insert (insert ["b", "c"])).Written :=
    ⟨"INSERT INTO t (v) VALUES ('b'), ('c')", .insert, by decide +kernel⟩
  have hfault : failed.2 = .error (.autoIncrementOverflow "t" "id") := by decide +kernel
  have hbefore : last c = some [[.integer 9223372036854775806, .text "a"]] := by decide +kernel
  have hafter : last failed.1 =
      some [[.integer 9223372036854775806, .text "a"], [.integer 9223372036854775807, .text "b"]] := by decide +kernel
  obtain ⟨t, hfound, hrows⟩ := Option.map_eq_some_iff.mp hbefore
  obtain ⟨db, hdb, ht⟩ := Option.bind_eq_some_iff.mp hfound
  obtain ⟨db', stored, hdb', ht', -, halone⟩ := stored_of_fault (s := insert ["b", "c"]) hdb ht hfault
  have hstored : stored = [[.integer 9223372036854775807, .text "b"]] := by
    change db'.table? "t" = _ at ht'
    simpa [last, failed, hdb', ht', hrows] using hafter
  subst hstored
  exact ⟨.run _ _ (.run _ _ (.run _ _ .empty hcreate) hinsert) hupdate, hmore, hfault, hbefore, hafter,
    (halone (by simp)).2.2.2⟩

end Catalog

end PocketSql
