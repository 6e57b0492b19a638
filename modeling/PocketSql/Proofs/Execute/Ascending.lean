/-
  PocketSql.Proofs.Execute.Ascending — identity columns ascend.

  The next integer of an identity column is greater than all that are in it
  (`lt_nextIdentity`). So the integers of such a column ascend from 1 in the order of the
  rows: INSERT goes on with the next one whatever is given, DELETE and TRUNCATE only take
  rows out, and the rows before one that fails are like any others. Only an UPDATE can put
  in something else. As long as none assigns the column, from the creation of its table
  on, it ascends after every statement of every run (`ascending_of_unassigned`).
-/

import PocketSql.Proofs.Execute.Identity
import PocketSql.Proofs.Execute.Placed
import PocketSql.Proofs.Execute.Reachable
import PocketSql.Proofs.Execute.TableEffect

namespace PocketSql

/-- Whether an UPDATE gives a value to the column of a name. -/
def Update.names (s : Update) (column : String) : Bool :=
  s.assignments.any fun a => Text.sameName a.column column

/-! ## Columns -/

namespace Table

variable {t t' : Table} {now : Instant} {i : Nat} {c : Column} {column : String} {ids : List Int64}

/-- What the rows hold in a column. -/
def cells (t : Table) (i : Nat) : List (Option Value) :=
  t.rows.map (·[i]?)

/-- Whether every row holds an integer in a column, 1 or more, and more than any row before
    it. -/
def Ascending (t : Table) (i : Nat) : Prop :=
  ∃ ids : List Int64, t.cells i = ids.map (fun n => some (.integer n)) ∧ (∀ n ∈ ids, 1 ≤ n) ∧ ids.Pairwise (· < ·)

theorem greatest?_of_cells (h : t.cells i = ids.map fun n => some (.integer n)) :
    t.greatest? i = (ids.map Int64.toInt).max? := by
  have hcells : (t.rows.filterMap fun row => row[i]?.bind identityReading?) =
      (t.cells i).filterMap (·.bind identityReading?) := by
    rw [cells, List.filterMap_map]
    rfl
  rw [greatest?, hcells, h, List.filterMap_map, ← List.filterMap_eq_map]
  rfl

theorem lt_nextIdentity (h : t.cells i = ids.map fun n => some (.integer n)) (hpos : ∀ n ∈ ids, 1 ≤ n) {n : Int64}
    (hn : t.nextIdentity i = .ok n) : 1 ≤ n ∧ ∀ m ∈ ids, m < n := by
  have hnext := toInt_of_nextIdentity hn
  rw [reached, greatest?_of_cells h] at hnext
  have hone : (1 : Int64).toInt = 1 := rfl
  cases hmax : (ids.map Int64.toInt).max? with
  | none =>
    obtain rfl : ids = [] := List.map_eq_nil_iff.mp (List.max?_eq_none_iff.mp hmax)
    rw [hmax, Option.getD_none] at hnext
    exact ⟨Int64.le_iff_toInt_le.mpr (by omega), by simp⟩
  | some greatest =>
    obtain ⟨hmem, hle⟩ := List.max?_eq_some_iff.mp hmax
    rw [hmax, Option.getD_some] at hnext
    obtain ⟨m, hm, rfl⟩ := List.mem_map.mp hmem
    have hm1 := Int64.le_iff_toInt_le.mp (hpos m hm)
    refine ⟨Int64.le_iff_toInt_le.mpr (by omega), ?_⟩
    intro m' hm'
    have hm'le := hle m'.toInt (List.mem_map_of_mem hm')
    exact Int64.lt_iff_toInt_lt.mpr (by omega)

theorem ascending_of_empty (h : t.rows = []) (i : Nat) : t.Ascending i :=
  ⟨[], by rw [cells, h]; rfl, by simp, .nil⟩

theorem Ascending.of_cells (h : t.Ascending i) (hcells : t'.cells i = t.cells i) : t'.Ascending i := by
  obtain ⟨ids, hids, hpos, hlt⟩ := h
  exact ⟨ids, hcells.trans hids, hpos, hlt⟩

theorem Ascending.withRow (h : t.Ascending i) {n : Int64} (hn : t.nextIdentity i = .ok n) {row : Row}
    (hcell : row[i]? = some (.integer n)) : (t.withRow row).Ascending i := by
  obtain ⟨ids, hids, hpos, hlt⟩ := h
  obtain ⟨hn1, hgreater⟩ := lt_nextIdentity hids hpos hn
  refine ⟨ids ++ [n], ?_, ?_, ?_⟩
  · rw [List.map_append, ← hids]
    simp [cells, Table.withRow, hcell]
  · intro m hm
    rcases List.mem_append.mp hm with hm | hm
    · exact hpos m hm
    · rwa [List.mem_singleton.mp hm]
  · refine List.pairwise_append.mpr ⟨hlt, List.pairwise_singleton _ _, ?_⟩
    intro m hm m' hm'
    rw [List.mem_singleton.mp hm']
    exact hgreater m hm

theorem Ascending.deleteWhere (h : t.Ascending i) (p : Row → Bool) : (t.deleteWhere p).1.Ascending i := by
  obtain ⟨ids, hids, hpos, hlt⟩ := h
  have hsub : ((t.deleteWhere p).1.cells i).Sublist (ids.map fun n => some (.integer n)) := by
    rw [← hids]
    exact List.filter_sublist.map _
  obtain ⟨ids', hsub', hids'⟩ := List.sublist_map_iff.mp hsub
  exact ⟨ids', hids', fun n hn => hpos n (hsub'.subset hn), hlt.sublist hsub'⟩

/-! ## Statements on a table -/

/-- Whether the columns of a name ascend, if they are identity columns. -/
def AscendsIn (t : Table) (column : String) : Prop :=
  ∀ i c, t.columns[i]? = some c → c.isIdentity = true → Text.sameName c.name column = true → t.Ascending i

theorem ascendsIn_of_empty (h : t.rows = []) (column : String) : t.AscendsIn column := by
  intro i c _ _ _
  exact ascending_of_empty h i

theorem AscendsIn.insert (h : t.AscendsIn column) (now : Instant) (s : Insert) :
    (t.insert now s).1.AscendsIn column := by
  apply insert_keeps (P := fun t => t.AscendsIn column) ?_ h
  intro t t' targets literals row h hbuild hpush
  rw [eq_withRow_of_pushRow hpush]
  intro i c hc hi hname
  obtain ⟨n, hn, hcell⟩ := identity_of_buildRow hbuild hc hi
  exact (h i c hc hi hname).withRow hn hcell

theorem AscendsIn.delete [RegexCompiler] (h : t.AscendsIn column) {s : Delete} {result : QueryResult}
    (hdelete : t.delete now s = .ok (t', result)) : t'.AscendsIn column := by
  obtain ⟨p, -, hdelete⟩ := bind_eq_ok.mp hdelete
  cases hdelete
  intro i c hc hi hname
  exact (h i c hc hi hname).deleteWhere _

/-- Values assigned in other places leave a cell as it is. -/
theorem getElem?_assign_of_ne {values : List (Nat × Value)} (h : ∀ v ∈ values, v.1 ≠ i) (row : Row) :
    (assign row values)[i]? = row[i]? := by
  have hnone : values.reverse.lookup i = none := by
    rw [List.lookup_eq_none_iff]
    intro v hv
    simpa using (h v (List.mem_reverse.mp hv)).symm
  rw [getElem?_assign, hnone]
  exact Option.map_id'

theorem names_of_assignedValues {s : Update} {values : List (Nat × Value)}
    (h : t.assignedValues now s.assignments = .ok values) (hc : t.columns[i]? = some c)
    (hname : Text.sameName c.name column = true) {v : Value} (hv : (i, v) ∈ values) : s.names column = true := by
  obtain ⟨a, ha, hstep⟩ := mem_of_mapM h hv
  obtain ⟨j, hj, hstep⟩ := bind_eq_ok.mp hstep
  cases hstep
  obtain ⟨hlt, hsame, -⟩ := List.findIdx?_eq_some_iff_getElem.mp (requireColumn_eq_ok.mp hj)
  rw [List.getElem?_eq_getElem hlt] at hc
  rw [Option.some.inj hc, Text.sameName_comm] at hsame
  exact List.any_eq_true.mpr ⟨a, ha, Text.sameName_trans hsame hname⟩

/-- An UPDATE changes a column only if it names it and changes some row. -/
theorem cells_update [RegexCompiler] {s : Update} {result : QueryResult} (h : t.update now s = .ok (t', result))
    (hc : t.columns[i]? = some c) (hname : Text.sameName c.name column = true)
    (hs : s.names column = false ∨ result.affectedRows = 0) : t'.cells i = t.cells i := by
  obtain ⟨values, hvalues, h⟩ := bind_eq_ok.mp h
  obtain ⟨p, -, h⟩ := bind_eq_ok.mp h
  cases h
  show (List.map _ (List.map _ t.rows)) = List.map _ t.rows
  rw [List.map_map]
  refine List.map_congr_left fun row hrow => ?_
  rcases hs with hs | hs
  · have hplaces : ∀ v ∈ values, v.1 ≠ i := by
      rintro ⟨j, v⟩ hv rfl
      rw [names_of_assignedValues hvalues hc hname hv] at hs
      cases hs
    show (if p row then assign row values else row)[i]? = row[i]?
    split
    · exact getElem?_assign_of_ne hplaces row
    · rfl
  · have hcount : t.rows.countP p = 0 := hs
    have hnone : ¬p row = true := List.countP_eq_zero.mp hcount row hrow
    show (if p row then assign row values else row)[i]? = row[i]?
    rw [if_neg hnone]

theorem AscendsIn.update [RegexCompiler] (h : t.AscendsIn column) {s : Update} {result : QueryResult}
    (hupdate : t.update now s = .ok (t', result)) (hs : s.names column = false ∨ result.affectedRows = 0) :
    t'.AscendsIn column := by
  have hcolumns : t'.columns = t.columns := by
    obtain ⟨values, -, hupdate⟩ := bind_eq_ok.mp hupdate
    obtain ⟨p, -, hupdate⟩ := bind_eq_ok.mp hupdate
    cases hupdate
    rfl
  intro i c hc hi hname
  rw [hcolumns] at hc
  exact (h i c hc hi hname).of_cells (cells_update hupdate hc hname hs)

end Table

/-! ## Statements in a catalog -/

namespace Catalog

variable {c : Catalog} {now : Instant} {database : String} {s : Statement} {k table column : String}

/-- Whether there is a table of a name in the database kept under a key. -/
def hasTable (c : Catalog) (k table : String) : Bool :=
  c.entries.any fun e => e.1 == k && e.2.hasTable table

section Unassigned

variable [RegexCompiler]

/-- Whether a statement is an UPDATE that assigns a column of a table in some row. -/
def assigns (c : Catalog) (now : Instant) (database : String) (s : Statement) (k table column : String) : Bool :=
  match s, (c.run now database s).2 with
  | .update u, .ok result =>
    key database == k && Text.sameName u.table table && u.names column && result.affectedRows != 0
  | _, _ => false

/-- The catalogs of runs in which no UPDATE has assigned a column since its table was
    created: those without the table, and what other statements make of them. -/
inductive Unassigned (k table column : String) : Catalog → Prop
  | missing {c : Catalog} : c.Reachable → c.hasTable k table = false → Unassigned k table column c
  | run {c : Catalog} (now : Instant) (database : String) {s : Statement} : Unassigned k table column c → s.Written →
      c.assigns now database s k table column = false → Unassigned k table column (c.run now database s).1

/-- Whether identity columns of a name ascend, in the tables of a name. -/
def AscendsIn (c : Catalog) (k table column : String) : Prop :=
  ∀ db t, (k, db) ∈ c.entries → t ∈ db.tables → Text.sameName t.name table = true → t.AscendsIn column

/-- What a statement that does not assign the column leaves of a table. -/
theorem AscendsIn.leaves (h : c.AscendsIn k table column) {db : Database} (hdb : (k, db) ∈ c.entries)
    (hs : ∀ u result, s = .update u → (db.run now s).2 = .ok result → Text.sameName u.table table = true →
      u.names column = false ∨ result.affectedRows = 0) {t' : Table} (ht' : db.Leaves now s t')
    (hname : Text.sameName t'.name table = true) : t'.AscendsIn column := by
  have hfound : ∀ {name : String} {t : Table}, db.table? name = some t → Text.sameName t.name table = true →
      t.AscendsIn column := by
    intro name t ht hname
    exact h db t hdb (Database.mem_of_table? ht) hname
  cases ht' with
  | kept ht => exact h db t' hdb ht hname
  | created ht => exact Table.ascendsIn_of_empty ht column
  | @indexed _ t _ ht => exact h db t hdb ht hname
  | @inserted s t ht =>
    rw [(Table.keeps_insert s).name] at hname
    exact (hfound ht hname).insert now s
  | @deleted s t _ _ ht hdelete =>
    rw [(Table.keeps_delete hdelete).name] at hname
    exact (hfound ht hname).delete hdelete
  | truncated ht => exact Table.ascendsIn_of_empty rfl column
  | @updated u t _ result ht hupdate =>
    rw [(Table.keeps_update hupdate).name] at hname
    have hin : db.updateIn now u = .ok (db.modifyTable u.table fun _ => t', result) :=
      bind_eq_ok.mpr ⟨t, Database.requireTable_of_table? ht, bind_eq_ok.mpr ⟨_, hupdate, rfl⟩⟩
    have hrun : (db.run now (.update u)).2 = .ok result := by
      rw [Database.run, hin]
      rfl
    -- The statement spells the name of the table in its own case.
    have hnamed : Text.sameName u.table table = true := by
      have hsame := List.find?_some (p := fun t : Table => Text.sameName t.name u.table) ht
      rw [Text.sameName_comm] at hsame
      exact Text.sameName_trans hsame hname
    exact (hfound ht hname).update hupdate (hs u result rfl hrun hnamed)

theorem AscendsIn.run (h : c.AscendsIn k table column) (hs : c.assigns now database s k table column = false) :
    (c.run now database s).1.AscendsIn k table column := by
  intro db' t hdb' ht hname
  rcases mem_tables_run hdb' ht with ⟨db, hdb, ht⟩ | hempty | ⟨db, hdb, hk, hleaves, houtcome⟩
  · exact h db t hdb ht hname
  · exact Table.ascendsIn_of_empty hempty column
  · obtain rfl : k = key database := hk
    refine h.leaves (mem_of_database? hdb) ?_ hleaves hname
    rintro u result rfl hrun hnamed
    rw [← houtcome] at hrun
    simpa [assigns, hrun, hnamed, imp_iff_not_or] using hs

theorem ascendsIn_of_unassigned (h : c.Unassigned k table column) : c.AscendsIn k table column := by
  induction h with
  | @missing c _ hmissing =>
    intro db t hdb ht hname
    have hfound : db.hasTable table = true := by
      rw [Database.hasTable, Database.table?, List.find?_isSome]
      exact ⟨t, ht, hname⟩
    have hthere : c.hasTable k table = true := List.any_eq_true.mpr ⟨(k, db), hdb, by simp [hfound]⟩
    rw [hmissing] at hthere
    cases hthere
  | run now database _ _ hs ih => exact ih.run hs

/-- While no UPDATE has assigned it since its table was created, every identity column of
    every table holds integers from 1 on, in ascending order of the rows. -/
theorem ascending_of_unassigned {db : Database} {t : Table} {i : Nat} {identity : Column} (hdb : (k, db) ∈ c.entries)
    (ht : t ∈ db.tables) (hcolumn : t.columns[i]? = some identity) (hi : identity.isIdentity = true)
    (h : c.Unassigned k t.name identity.name) : t.Ascending i :=
  ascendsIn_of_unassigned h db t hdb ht (Text.sameName_refl _) i identity hcolumn hi (Text.sameName_refl _)

end Unassigned

/-- Two rows with literals for the column, of which the first is deleted and the other has
    its text changed, and one more. -/
theorem ascending_of_unassigned_deleted :
    let identity : Column := { name := "id", type := .int, primaryKey := true, autoIncrement := true }
    let create : Statement := .createTable
      { table := "t", columns := [identity, { name := "v", type := .text }], constraints := [], ifNotExists := false
        engine := none, charset := none }
    let insert : Statement := .insert
      { table := "t", columns := none, rows := [[.number "50", .quoted "a"], [.number "7", .quoted "b"]] }
    let update : Statement := .update { table := "t", assignments := [⟨"v", .quoted "c"⟩], condition := none }
    let delete : Statement := .delete
      { table := "t", condition := some ⟨.compare "id" .eq (.number "1"), []⟩ }
    let more : Statement := .insert { table := "t", columns := some ["v"], rows := [[.quoted "d"]] }
    let c₁ := (Catalog.run {} ⟨0, 0⟩ "app" create).1
    let c₂ := (c₁.run ⟨1, 0⟩ "app" insert).1
    let c₃ := (c₂.run ⟨2, 0⟩ "app" update).1
    let c₄ := (c₃.run ⟨3, 0⟩ "app" delete).1
    let c₅ := (c₄.run ⟨4, 0⟩ "app" more).1
    let t : Table :=
      { name := "t", columns := [identity, { name := "v", type := .text }]
        rows := [[.integer 2, .text "c"], [.integer 3, .text "d"]] }
    (c₅.database? "app").map (·.tables) = some [t] ∧ t.Ascending 0 := by
  intro identity create insert update delete more c₁ c₂ c₃ c₄ c₅ t
  have hcreate : create.Written :=
    ⟨"CREATE TABLE t (id INT PRIMARY KEY AUTO_INCREMENT, v TEXT)", .createTable, by decide +kernel⟩
  have hinsert : insert.Written := ⟨"INSERT INTO t VALUES (50, 'a'), (7, 'b')", .insert, by decide +kernel⟩
  have hupdate : update.Written := ⟨"UPDATE t SET v = 'c'", .update, by decide +kernel⟩
  have hdelete : delete.Written := ⟨"DELETE FROM t WHERE id = 1", .delete, by decide +kernel⟩
  have hmore : more.Written := ⟨"INSERT INTO t (v) VALUES ('d')", .insert, by decide +kernel⟩
  have h₁ : c₁.Unassigned "app" "t" "id" := .run _ _ (.missing .empty rfl) hcreate rfl
  have h₂ : c₂.Unassigned "app" "t" "id" := .run _ _ h₁ hinsert rfl
  have h₃ : c₃.Unassigned "app" "t" "id" := .run _ _ h₂ hupdate (by decide +kernel)
  have h₄ : c₄.Unassigned "app" "t" "id" := .run _ _ h₃ hdelete rfl
  have h₅ : c₅.Unassigned "app" "t" "id" := .run _ _ h₄ hmore rfl
  have htables : (c₅.database? "app").map (·.tables) = some [t] := by decide +kernel
  obtain ⟨db, hdb, ht⟩ := Option.map_eq_some_iff.mp htables
  have hmem : t ∈ db.tables := by
    rw [ht]
    exact List.mem_singleton_self t
  have hcolumn : t.columns[0]? = some identity := rfl
  exact ⟨htables, ascending_of_unassigned (mem_of_database? hdb) hmem hcolumn rfl h₅⟩

end Catalog

end PocketSql
