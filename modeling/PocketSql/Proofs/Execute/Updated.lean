/-
  PocketSql.Proofs.Execute.Updated — the rows that an UPDATE leaves.

  An UPDATE whose columns are there gives each row of which its condition holds the last
  value that is assigned to each column (`update_eq`). It can be repeated without further
  effect (`updatedRows_updatedRows`): a row that it changed has its values already, whether
  or not the condition still holds of it, and a row that it passed over is passed over again.
-/

import PocketSql.Proofs.Execute.Named
import PocketSql.Proofs.Execute.Placed
import PocketSql.Proofs.Query.Filtered

namespace PocketSql

/-! ## What an UPDATE says -/

/-- The last assignment to a column. -/
def Update.assignmentTo? (s : Update) (c : Column) : Option Assignment :=
  s.assignments.reverse.find? fun a => Text.sameName c.name a.column

/-- What becomes of a value in a column. -/
def Update.cell (s : Update) (now : Instant) (c : Column) (v : Value) : Value :=
  match s.assignmentTo? c with
  | some a => c.literalValue now a.value
  | none => v

namespace Table

variable {t : Table} {now : Instant} {s : Update} {row : Row} {i : Nat} {c : Column} {values : List (Nat × Value)}

/-- Whether the columns that an UPDATE names are there. -/
def HasColumnsOf (t : Table) (s : Update) : Prop :=
  ∀ a ∈ s.assignments, ∃ c ∈ t.columns, Text.sameName c.name a.column = true

/-- What becomes of a row that is updated. -/
def updatedRow (t : Table) (now : Instant) (s : Update) (row : Row) : Row :=
  List.zipWith (s.cell now) t.columns row

/-- What becomes of all rows. -/
def updatedRows [RegexCompiler] (t : Table) (now : Instant) (s : Update) : List Row :=
  t.rows.map fun row => if t.holds now s.condition row then t.updatedRow now s row else row

/-! ## The values of a row -/

/-- The values are found where the columns are. -/
theorem exists_assignedValues (now : Instant) (hfound : t.HasColumnsOf s) :
    ∃ values, t.assignedValues now s.assignments = .ok values := by
  have hall : ∀ a ∈ s.assignments, ∃ v, (do
      let i ← t.requireColumn a.column
      return (i, (t.columns[i]?.map (·.literalValue now a.value)).getD .null) : Except Fault (Nat × Value)) = .ok v := by
    intro a ha
    obtain ⟨i, hi⟩ := exists_columnIndex?.mpr (hfound a ha)
    rw [requireColumn_eq_ok.mpr hi]
    exact ⟨_, rfl⟩
  obtain ⟨values, h, -⟩ := exists_mapM hall
  exact ⟨values, h⟩

/-- The last value for a place is the one that is last assigned to its column. -/
theorem lookup_assignedValues (hd : DistinctNames t.columnNames) (hfound : t.HasColumnsOf s)
    (h : t.assignedValues now s.assignments = .ok values) (hc : t.columns[i]? = some c) :
    values.reverse.lookup i = (s.assignmentTo? c).map fun a => c.literalValue now a.value := by
  have hvalues : values = s.assignments.map fun a =>
      (t.place a.column, (t.columns[t.place a.column]?.map (·.literalValue now a.value)).getD .null) := by
    refine eq_map_of_mapM h fun a _ v hv => ?_
    obtain ⟨j, hj, hv⟩ := bind_eq_ok.mp hv
    cases hv
    rw [place_of_requireColumn hj]
  rw [hvalues, lookup_reverse_map, find?_placed hd hfound hc, Update.assignmentTo?]
  cases ha : s.assignments.reverse.find? fun a => Text.sameName c.name a.column with
  | none => rfl
  | some a =>
    have hname := List.find?_some ha
    have hplace : t.place a.column = i := by
      rw [place, (columnIndex?_eq_some_iff hd hc).mpr hname]
      rfl
    simp [hplace, hc]

theorem assign_eq_updatedRow (hd : DistinctNames t.columnNames) (hfound : t.HasColumnsOf s)
    (h : t.assignedValues now s.assignments = .ok values) (hrow : row.length = t.columns.length) :
    assign row values = t.updatedRow now s row := by
  apply List.ext_getElem?
  intro i
  rw [getElem?_assign, updatedRow, List.getElem?_zipWith']
  cases hc : t.columns[i]? with
  | none =>
    have hnone : row[i]? = none := by
      rw [List.getElem?_eq_none_iff] at hc ⊢
      omega
    rw [hnone]
    rfl
  | some c =>
    rw [lookup_assignedValues hd hfound h hc]
    cases row[i]? with
    | none => rfl
    | some v =>
      simp only [Option.map_some, Option.bind_some, Update.cell]
      cases s.assignmentTo? c <;> rfl

/-! ## All rows -/

theorem update_eq [RegexCompiler] (now : Instant) (ht : t.Sound) (hfound : t.HasColumnsOf s)
    (hcondition : Condition.refusal? s.condition = none) :
    t.update now s = .ok ({ t with rows := t.updatedRows now s },
      .ofAffected (t.rows.countP (t.holds now s.condition))
        (toString (t.rows.countP (t.holds now s.condition)) ++ " row(s) updated")) := by
  obtain ⟨values, h⟩ := exists_assignedValues now hfound
  have hrows : (t.rows.map fun row => if t.holds now s.condition row then assign row values else row) =
      t.updatedRows now s := by
    refine List.map_congr_left fun row hrow => ?_
    rw [assign_eq_updatedRow ht.columnNames hfound h (ht.rows row hrow)]
  refine bind_eq_ok.mpr ⟨values, h, bind_eq_ok.mpr ⟨_, filter_of_refusal? hcondition, ?_⟩⟩
  simp only [updateWhere, ← hrows]
  rfl

theorem cell_cell (s : Update) (now : Instant) (c : Column) (v : Value) :
    s.cell now c (s.cell now c v) = s.cell now c v := by
  unfold Update.cell
  cases s.assignmentTo? c <;> rfl

theorem updatedRow_updatedRow (t : Table) (now : Instant) (s : Update) (row : Row) :
    t.updatedRow now s (t.updatedRow now s row) = t.updatedRow now s row := by
  apply List.ext_getElem?
  intro i
  simp only [updatedRow, List.getElem?_zipWith']
  cases t.columns[i]? with
  | none => rfl
  | some c =>
    cases row[i]? with
    | none => rfl
    | some v => simp [cell_cell]

/-- An UPDATE finds its rows as it would leave them. -/
theorem updatedRows_updatedRows [RegexCompiler] (t : Table) (now : Instant) (s : Update) :
    { t with rows := t.updatedRows now s }.updatedRows now s = t.updatedRows now s := by
  show (t.updatedRows now s).map (fun row => if t.holds now s.condition row then t.updatedRow now s row else row) = _
  rw [updatedRows, List.map_map]
  refine List.map_congr_left fun row _ => ?_
  by_cases h : t.holds now s.condition row = true
  · -- The condition may have ceased to hold, but the values are there.
    simp [h, updatedRow_updatedRow]
  · simp [h]

end Table

theorem Database.modifyTable_self {db : Database} {name : String} {t : Table} (h : db.table? name = some t) :
    (db.modifyTable name fun _ => t) = db := by
  rcases db.modifyTable_cases name with ⟨before, u, after, htables, -, hu, hm⟩ | ⟨hnone, -⟩
  · obtain rfl : u = t := Option.some.inj (hu.symm.trans h)
    rw [hm, ← htables]
  · rw [h] at hnone
    cases hnone

namespace Catalog

section

variable [RegexCompiler] {c : Catalog} {now : Instant} {database : String} {db : Database} {s : Update} {t : Table}

theorem run_update {t' : Table} {result : QueryResult} (hname : (Text.trim database).isEmpty = false)
    (hdb : c.database? database = some db) (ht : db.table? s.table = some t)
    (h : t.update now s = .ok (t', result)) :
    c.run now database (.update s) = (c.put (key database) (db.modifyTable s.table fun _ => t'), .ok result) := by
  rw [run_of_named rfl hname hdb, Database.run_update ht h]

/-- A pattern that is refused stops an UPDATE once its columns are found. -/
theorem run_update_of_refused {f : Fault} (hn : (c.entries.map (·.1)).Nodup)
    (hname : (Text.trim database).isEmpty = false) (hdb : c.database? database = some db)
    (ht : db.table? s.table = some t) (hfound : t.HasColumnsOf s) (h : Condition.refusal? s.condition = some f) :
    c.run now database (.update s) = (c, .error f) := by
  obtain ⟨values, hvalues⟩ := Table.exists_assignedValues now hfound
  have hupdate : t.update now s = .error f := by
    rw [Table.update, hvalues]
    show t.filter now s.condition >>= _ = _
    rw [Table.filter_of_refused h]
    rfl
  rw [run_of_named rfl hname hdb, Database.run_update_of_error ht hupdate, put_self hn hdb]

/-- An UPDATE whose columns are there leaves the rows of its table in their order, each of
    which the condition holds with the last value assigned to each column and the others as
    they were, and reports how many it changed. The same UPDATE again leaves the catalog as
    it is. A pattern that is refused stops it before all that. -/
theorem updates_once (now : Instant) (hc : c.Reachable) (hdb : c.database? database = some db)
    (ht : db.table? s.table = some t) (hfound : t.HasColumnsOf s) :
    (∀ f, Condition.refusal? s.condition = some f → c.run now database (.update s) = (c, .error f)) ∧
    (Condition.refusal? s.condition = none → ∃ c' db',
      c.run now database (.update s) = (c', .ok (.ofAffected (t.rows.countP (t.holds now s.condition))
        (toString (t.rows.countP (t.holds now s.condition)) ++ " row(s) updated"))) ∧
      c'.database? database = some db' ∧ db'.table? s.table = some { t with rows := t.updatedRows now s } ∧
      (c'.run now database (.update s)).1 = c') := by
  obtain ⟨hname, htable⟩ := hc.table hdb ht
  have hkeys := (reachable_sound hc).keys
  refine ⟨fun f => run_update_of_refused hkeys hname hdb ht hfound, fun h => ?_⟩
  have hupdate := Table.update_eq now htable hfound h
  let t' : Table := { t with rows := t.updatedRows now s }
  let db' := db.modifyTable s.table fun _ => t'
  have hdb' : (c.put (key database) db').database? database = some db' := database?_put c database db'
  have ht' : db'.table? s.table = some t' := Database.table?_modifyTable ht rfl
  refine ⟨_, db', run_update hname hdb ht hupdate, hdb', ht', ?_⟩
  -- The second run writes the table that it finds.
  have hagain := Table.update_eq now ((Table.keeps_update hupdate).sound htable) hfound h
  rw [Table.updatedRows_updatedRows] at hagain
  rw [run_update hname hdb' ht' hagain]
  show (c.put (key database) db').put (key database) (db'.modifyTable s.table fun _ => t') = _
  rw [Database.modifyTable_self ht', put_self (nodup_put hkeys _ _) hdb']

end

/-- An UPDATE that names one column twice, after which its condition holds of no row. -/
theorem updates_once_twice_named :
    let columns : List Column := [{ name := "a", type := .int }, { name := "b", type := .text }]
    let create : Statement := .createTable
      { table := "t", columns, constraints := [], ifNotExists := false, engine := none, charset := none }
    let insert : Statement := .insert
      { table := "t", columns := none
        rows := [[.number "1", .quoted "x"], [.number "2", .quoted "y"], [.number "3", .quoted "z"]] }
    let update : Update :=
      { table := "T", assignments := [⟨"a", .number "1"⟩, ⟨"b", .default⟩, ⟨"A", .quoted "7.9"⟩]
        condition := some ⟨.compare "a" .eq (.number "1"), [(.or, .like "b" "Z%" false)]⟩ }
    let c := ((Catalog.run {} ⟨0, 0⟩ "app" create).1.run ⟨1, 0⟩ "app" insert).1
    let last (c : Catalog) : Option (List Row) := ((c.database? "APP").bind (·.table? "T")).map (·.rows)
    let once := c.run ⟨2, 0⟩ "APP" (.update update)
    c.Reachable ∧ last c = some [[.integer 1, .text "x"], [.integer 2, .text "y"], [.integer 3, .text "z"]] ∧
      once.2 = .ok (.ofAffected 2 "2 row(s) updated") ∧
      last once.1 = some [[.integer 7, .null], [.integer 2, .text "y"], [.integer 7, .null]] ∧
      once.1.run ⟨2, 0⟩ "APP" (.update update) = (once.1, .ok (.ofAffected 0 "0 row(s) updated")) := by
  intro columns create insert update c last once
  have hcreate : create.Written := ⟨"CREATE TABLE t (a INT, b TEXT)", .createTable, by decide +kernel⟩
  have hinsert : insert.Written := ⟨"INSERT INTO t VALUES (1, 'x'), (2, 'y'), (3, 'z')", .insert, by decide +kernel⟩
  have hc : c.Reachable := .run _ _ (.run _ _ .empty hcreate) hinsert
  have hold : (c.database? "APP").bind (·.table? "T") = some
      { name := "t", columns, rows := [[.integer 1, .text "x"], [.integer 2, .text "y"], [.integer 3, .text "z"]] } := by
    decide +kernel
  obtain ⟨db, hdb, ht⟩ := Option.bind_eq_some_iff.mp hold
  have hfound : ∀ a ∈ update.assignments, ∃ c ∈ columns, Text.sameName c.name a.column = true := by decide
  obtain ⟨c', db', hrun, hdb', ht', hagain⟩ :=
    (updates_once (s := update) ⟨2, 0⟩ hc hdb ht hfound).2 (Condition.refusal?_eq_none update.condition)
  have hcount : once.2 = .ok (.ofAffected 2 "2 row(s) updated") := by decide +kernel
  have hrows : Table.updatedRows
      { name := "t", columns, rows := [[.integer 1, .text "x"], [.integer 2, .text "y"], [.integer 3, .text "z"]] }
      ⟨2, 0⟩ update = [[.integer 7, .null], [.integer 2, .text "y"], [.integer 7, .null]] := by decide +kernel
  rw [hrows] at ht'
  change db'.table? "T" = _ at ht'
  have honce : once.1 = c' := congrArg Prod.fst hrun
  have hnone : (once.1.run ⟨2, 0⟩ "APP" (.update update)).2 = .ok (.ofAffected 0 "0 row(s) updated") := by
    decide +kernel
  refine ⟨hc, ?_, hcount, ?_, ?_⟩
  · simp only [last, hold, Option.map_some]
  · simp only [last, honce, hdb', Option.bind_some, ht', Option.map_some]
  · rw [← honce] at hagain
    exact Prod.ext hagain hnone

end Catalog

end PocketSql
