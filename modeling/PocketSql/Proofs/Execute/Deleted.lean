/-
  PocketSql.Proofs.Execute.Deleted — a DELETE takes out what a SELECT gives.

  Both go by the places of the rows of which the condition holds (`Table.matching`): a
  query for all columns shows the rows at these places (`select_query`), and a DELETE with
  the same condition leaves the rows at the others (`delete_eq`). So the query counts what
  is deleted, and finds nothing after it (`delete_takes_selected`).
-/

import PocketSql.Proofs.Execute.Frame
import PocketSql.Proofs.Query.Selected

namespace PocketSql

/-- The query for all columns of the rows that a DELETE removes. -/
def Delete.query (d : Delete) : Select :=
  { columns := .all, table := d.table, condition := d.condition, groupBy := [], orderBy := [], limit := none }

namespace Table

section

variable [RegexCompiler] {t : Table} {now : Instant}

/-- The rows at all places but some, in their order. -/
def without (t : Table) (places : List Nat) : Table :=
  { t with rows := ((List.range t.rows.length).filter fun i => i ∉ places).map t.rowAt }

/-- What a query for whole rows gives. -/
def selected (t : Table) (now : Instant) (c : Option Condition) : QueryResult :=
  { columns := t.columnNames, rows := (t.matching now c).map fun i => t.shown .all (t.rowAt i) }

theorem select_query (hd : t.columnNames.Nodup) {d : Delete} (h : Condition.refusal? d.condition = none) :
    t.select now d.query = .ok (t.selected now d.condition) := by
  have hplaces : List.range t.columns.length = (t.columnsFor .all).map (·.2) := projected_eq (p := .all) rfl
  have hnames : ((t.columnsFor .all).map (·.2)).map t.nameAt = t.columnNames := by
    rw [List.map_map, columnNames_eq_map, ← columnsFor_all]
    exact List.map_congr_left fun e he => nameAt_columnsFor he
  have hrows : t.selectRows (t.holds now d.query.condition) d.query = (t.matching now d.condition).map t.rowAt :=
    filter_holds d.condition
  refine bind_eq_ok.mpr ⟨_, rfl, bind_eq_ok.mpr ⟨_, filter_of_refusal? h, ?_⟩⟩
  show Except.ok _ = _
  rw [hplaces, hnames, hrows, List.map_map, selected]
  congr 2
  exact List.map_congr_left fun i _ => shown_eq hd .all (t.rowAt i)

theorem filter_not_holds (c : Option Condition) :
    (t.rows.filter fun row => !t.holds now c row) = (t.without (t.matching now c)).rows := by
  nth_rewrite 1 [rows_eq_map t]
  rw [List.filter_map, without]
  congr 1
  refine List.filter_congr fun i hi => ?_
  simp only [Function.comp_apply, matching, List.mem_filter, hi, true_and, Bool.not_eq_true, Bool.decide_eq_false]

theorem delete_eq {d : Delete} (h : Condition.refusal? d.condition = none) : t.delete now d =
    .ok (t.without (t.matching now d.condition), .ofAffected (t.matching now d.condition).length
      (toString (t.matching now d.condition).length ++ " row(s) deleted")) := by
  have hcount : t.rows.countP (t.holds now d.condition) = (t.matching now d.condition).length := by
    rw [List.countP_eq_length_filter, filter_holds, List.length_map]
  rw [delete, filter_of_refusal? h]
  show Except.ok ((t.deleteWhere (t.holds now d.condition)).1, _) = _
  simp only [deleteWhere, hcount, filter_not_holds]
  rfl

/-- The condition holds of no row that is left. -/
theorem matching_without (c : Option Condition) : (t.without (t.matching now c)).matching now c = [] := by
  have hnone : (t.without (t.matching now c)).rows.filter ((t.without (t.matching now c)).holds now c) = [] := by
    rw [← filter_not_holds, List.filter_eq_nil_iff]
    intro row hrow
    have hkept : (!t.holds now c row) = true := (List.mem_filter.mp hrow).2
    show ¬t.holds now c row = true
    simpa using hkept
  rw [filter_holds, List.map_eq_nil_iff] at hnone
  exact hnone

end

end Table

namespace Database

section

variable [RegexCompiler] {db : Database} {now : Instant} {d : Delete} {t : Table}

theorem run_query (ht : db.table? d.table = some t) (hd : t.columnNames.Nodup)
    (h : Condition.refusal? d.condition = none) :
    db.run now (.select d.query) = (db, .ok (t.selected now d.condition)) :=
  run_select (s := d.query) ht (Table.select_query hd h)

/-- A pattern that is refused stops both statements alike. -/
theorem run_of_refused {f : Fault} (ht : db.table? d.table = some t) (h : Condition.refusal? d.condition = some f) :
    db.run now (.select d.query) = (db, .error f) ∧ db.run now (.delete d) = (db, .error f) := by
  have hfilter : t.filter now d.condition = .error f := Table.filter_of_refused h
  constructor
  · apply run_select (s := d.query) ht
    show t.filter now d.condition >>= _ = _
    rw [hfilter]
    rfl
  · apply run_delete_of_error ht
    rw [Table.delete, hfilter]
    rfl

/-- A DELETE takes out just the rows that a query for all columns shows under the same
    condition, and counts them. The others stay in their order, and then the query shows
    none. Where a pattern is refused, both statements fail with the same fault and nothing
    changes. -/
theorem delete_takes_selected (ht : db.table? d.table = some t) (hd : t.columnNames.Nodup) (now : Instant) :
    (∀ f, Condition.refusal? d.condition = some f →
      db.run now (.select d.query) = (db, .error f) ∧ db.run now (.delete d) = (db, .error f)) ∧
    (Condition.refusal? d.condition = none → ∃ places r db', places.Pairwise (· < ·) ∧
      (∀ i, i ∈ places ↔ ∃ row, t.Matches now d.condition i row) ∧
      db.run now (.select d.query) = (db, .ok r) ∧
      r.rows = places.map (fun i => t.shown .all (t.rowAt i)) ∧
      db.run now (.delete d) =
        (db', .ok (.ofAffected r.rows.length (toString r.rows.length ++ " row(s) deleted"))) ∧
      db'.table? d.table = some (t.without places) ∧
      db'.run now (.select d.query) = (db', .ok { r with rows := [] })) := by
  refine ⟨fun f => run_of_refused ht, fun h => ?_⟩
  let left := t.without (t.matching now d.condition)
  have hleft : (db.modifyTable d.table fun _ => left).table? d.table = some left := table?_modifyTable ht rfl
  refine ⟨t.matching now d.condition, t.selected now d.condition, db.modifyTable d.table fun _ => left,
    Table.pairwise_matching _, fun i => ?_, run_query ht hd h, rfl, ?_, hleft, ?_⟩
  · rw [Table.mem_matching]
    constructor
    · exact fun h => ⟨_, h⟩
    · rintro ⟨row, h⟩
      rw [h.rowAt_eq]
      exact h
  · rw [run_delete ht (Table.delete_eq h), Table.selected, List.length_map]
  · rw [run_query hleft hd h, Table.selected, Table.matching_without]
    rfl

end

/-- A condition with a column that is not there, and with a predicate that is none. -/
theorem delete_takes_selected_unknown :
    let t : Table := { name := "t", columns := [{ name := "b", type := .text }, { name := "n", type := .int }]
                       rows := [[.text "x1", .integer 1], [.text "y", .integer 2], [.null, .integer 3],
                         [.text "X2", .null]] }
    let db : Database := { Database.empty "app" ⟨0, 0⟩ with tables := [t] }
    let d : Delete := { table := "T"
                        condition := some ⟨.like "B" "x%" false, [(.and, .unrecognized "EXISTS ( 1 )"),
                          (.or, .compare "missing" .neq .null), (.or, .isNull "b" false)]⟩ }
    let r : QueryResult := { columns := ["b", "n"]
                             rows := [[("b", .text "x1"), ("n", .integer 1)], [("b", .null), ("n", .integer 3)],
                               [("b", .text "X2"), ("n", .null)]] }
    let after := db.run ⟨1, 0⟩ (.delete d)
    db.run ⟨1, 0⟩ (.select d.query) = (db, .ok r) ∧ after.2 = .ok (.ofAffected 3 "3 row(s) deleted") ∧
      (after.1.table? "T").map (·.rows) = some [[.text "y", .integer 2]] ∧
      after.1.run ⟨1, 0⟩ (.select d.query) = (after.1, .ok { r with rows := [] }) := by
  intro t db d r after
  have ht : db.table? d.table = some t := by decide
  obtain ⟨places, r', db', -, hplaces, hquery, hshown, hdelete, hleft, hagain⟩ :=
    (delete_takes_selected ht (by decide) ⟨1, 0⟩).2 (Condition.refusal?_eq_none d.condition)
  have hr : db.run ⟨1, 0⟩ (.select d.query) = (db, .ok r) := by decide +kernel
  obtain rfl : r' = r := by
    rw [hquery] at hr
    exact Except.ok.inj (congrArg Prod.snd hr)
  have hafter : after = (db', .ok (.ofAffected 3 "3 row(s) deleted")) := by
    have hmessage : toString r.rows.length ++ " row(s) deleted" = "3 row(s) deleted" := by decide +kernel
    rw [hmessage] at hdelete
    exact hdelete
  have hrows : (after.1.table? "T").map (·.rows) = some [[.text "y", .integer 2]] := by decide +kernel
  rw [hafter] at hrows ⊢
  exact ⟨hr, rfl, hrows, hagain⟩

end Database

end PocketSql
