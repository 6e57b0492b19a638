/-
  PocketSql.Proofs.Execute.Cell — a string written into one column and read back.

  An INSERT that gives one column a string adds one row at the end of the table. In a
  column whose type keeps texts, that string is what stands in the row
  (`exists_insert_ofString`). A query for the column gives one more row than before, the
  new one at the end (`select_ofColumn_concat`), also where it asks for this string: a text
  equals itself, whether or not it spells a number.
-/

import Mathlib.Data.List.Nodup
import PocketSql.Execute
import PocketSql.Proofs.Fault
import PocketSql.Proofs.Number.Ordered
import PocketSql.Proofs.Query.Selected
import PocketSql.Proofs.Text.Case

namespace PocketSql

/-! ## Statements on one column -/

/-- One row, with a string in one column. -/
def Insert.ofString (table column v : String) : Insert :=
  { table, columns := some [column], rows := [[.quoted v]] }

/-- The values in one column, of the rows that a condition holds of. -/
def Select.ofColumn (table column : String) (condition : Option Condition) : Select :=
  { columns := .columns [column], table, condition, groupBy := [], orderBy := [], limit := none }

/-- That a column holds a string. -/
def Condition.isString (column v : String) : Condition :=
  ⟨.compare column .eq (.quoted v), []⟩

/-- Whether strings become values of the type just as they are. -/
def ColumnType.keepsText : ColumnType → Bool
  | varchar | text | longText | time | blob | json | enum | set => true
  | _ => false

theorem Value.coerce_of_keepsText {type : ColumnType} (h : type.keepsText = true) (raw : String) :
    Value.coerce raw type = .text raw := by
  cases type with
  | varchar | text | longText | time | blob | json | enum | set => rfl
  | _ => cases h

/-- A number that a text spells is finite, so that it equals itself. -/
theorem Value.equal_text_self (v : String) : (Value.text v).equal (.text v) = true := by
  unfold Value.equal
  cases hx : (Value.text v).number? with
  | none => simp
  | some x =>
    have hspelled : Value.numberOfText? v = some x := hx
    rw [Value.numberOfText?, Option.filter_eq_some_iff] at hspelled
    have hnan := Binary64.isNaN_of_isFinite hspelled.2
    simp [Binary64.eq, hnan]

namespace Table

variable {t : Table} {now : Instant} {name : String} {i : Nat} {c : Column}

/-- The one column of the table that goes by a name, and its place. -/
structure OnlyColumn (t : Table) (name : String) (i : Nat) (c : Column) : Prop where
  placed : t.columns[i]? = some c
  named : Text.sameName c.name name = true
  only : ∀ j d, t.columns[j]? = some d → Text.sameName d.name name = true → j = i

/-- Whether no identity column holds the greatest integer. -/
def HasRoom (t : Table) : Prop :=
  ∀ e ∈ t.columns.zipIdx, e.1.isIdentity = true → t.greatest? e.2 ≠ some Int64.maxValue.toInt

instance (t : Table) : Decidable t.HasRoom :=
  inferInstanceAs (Decidable (∀ e ∈ t.columns.zipIdx, _))

theorem OnlyColumn.columnIndex?_eq (h : t.OnlyColumn name i c) : t.columnIndex? name = some i := by
  obtain ⟨hi, hc⟩ := List.getElem?_eq_some_iff.mp h.placed
  refine List.findIdx?_eq_some_iff_getElem.mpr ⟨hi, by rw [hc, h.named], fun j hj hname => ?_⟩
  exact Nat.ne_of_lt hj (h.only j _ (List.getElem?_eq_getElem _) hname)

theorem OnlyColumn.columnsFor_eq (h : t.OnlyColumn name i c) : t.columnsFor (.columns [name]) = [(c, i)] := by
  have hnodup : (t.columnsFor (.columns [name])).Nodup := by
    have hplaces : (t.columns.zipIdx.map (·.2)).Nodup := by
      rw [List.zipIdx_map_snd]
      exact List.nodup_range'
    exact List.filter_sublist.nodup (List.Nodup.of_map Prod.snd hplaces)
  refine List.perm_singleton.mp ((List.perm_ext_iff_of_nodup hnodup (by simp)).mpr ?_)
  rintro ⟨d, j⟩
  simp only [columnsFor, List.mem_filter, List.mem_zipIdx_iff_getElem?, Projection.asksFor, List.any_cons, List.any_nil,
    Bool.or_false, List.mem_singleton, Prod.mk.injEq, Text.sameName_comm name]
  constructor
  · rintro ⟨hj, hname⟩
    obtain rfl := h.only j d hj hname
    exact ⟨Option.some.inj (hj.symm.trans h.placed), rfl⟩
  · rintro ⟨rfl, rfl⟩
    exact ⟨h.placed, h.named⟩

/-! ## Writing -/

/-- The greatest integer of a column is one of 64 bits. -/
theorem exists_of_greatest? {m : Int} (h : t.greatest? i = some m) : ∃ k : Int64, k.toInt = m := by
  obtain ⟨row, -, hrow⟩ := List.mem_filterMap.mp (List.max?_mem h)
  obtain ⟨v, -, hv⟩ := Option.bind_eq_some_iff.mp hrow
  cases v with
  | integer k => exact ⟨k, Option.some.inj hv⟩
  | text s =>
    rw [identityReading?, Option.map_eq_some_iff] at hv
    obtain ⟨k, -, hk⟩ := hv
    exact ⟨k, hk⟩
  | _ => cases hv

theorem exists_nextIdentity (h : t.greatest? i ≠ some Int64.maxValue.toInt) : ∃ n, t.nextIdentity i = .ok n := by
  unfold nextIdentity
  cases hg : t.greatest? i with
  | none => exact ⟨1, rfl⟩
  | some m =>
    obtain ⟨k, rfl⟩ := exists_of_greatest? hg
    have hne : k.toInt ≠ Int64.maxValue.toInt := fun hk => h (hg.trans (congrArg some hk))
    have hlow := k.minValue_le_toInt
    have hhigh := k.toInt_le
    have hfits : Numeral.fitsInt64 (k.toInt + 1) = true := by
      simp only [Numeral.fitsInt64, Bool.and_eq_true, decide_eq_true_eq]
      omega
    exact ⟨_, if_pos hfits⟩

/-- The value that a new row gets in a column, where some are given by place. -/
def newValue (t : Table) (now : Instant) (given : List (Nat × Value)) (e : Column × Nat) : Except Fault Value :=
  match given.lookup e.2 with
  | some v => .ok v
  | none => t.missingValue now e.2 e.1

theorem buildRow_eq {targets : List Nat} {literals : List Literal} {given : List (Nat × Value)}
    (h : t.givenValues now (targets.zip literals) = .ok given) :
    t.buildRow now targets literals = t.columns.zipIdx.mapM (t.newValue now given) := by
  unfold buildRow
  rw [h]
  rfl

theorem exists_newValue (hroom : t.HasRoom) (now : Instant) (given : List (Nat × Value)) :
    ∀ e ∈ t.columns.zipIdx, ∃ v, t.newValue now given e = .ok v := by
  intro e he
  unfold newValue
  cases given.lookup e.2 with
  | some v => exact ⟨v, rfl⟩
  | none =>
    by_cases hident : e.1.isIdentity = true
    · obtain ⟨n, hn⟩ := exists_nextIdentity (hroom e he hident)
      refine ⟨.integer n, ?_⟩
      simp only [missingValue, hident, if_true, hn]
      rfl
    · exact ⟨_, if_neg hident⟩

/-- With one column given and room in the others, a row can be built. -/
theorem exists_buildRow (hc : t.columns[i]? = some c) (hident : c.isIdentity = false) (hroom : t.HasRoom)
    (now : Instant) (l : Literal) : ∃ row, t.buildRow now [i] [l] = .ok row ∧
      row.length = t.columns.length ∧ row[i]? = some (c.literalValue now l) := by
  have hgiven : t.givenValues now ([i].zip [l]) = .ok [(i, c.literalValue now l)] := by
    simp [givenValues, givenValue, hc, hident]
  obtain ⟨row, hrow, hvalues⟩ := exists_mapM (exists_newValue hroom now [(i, c.literalValue now l)])
  refine ⟨row, (buildRow_eq hgiven).trans hrow, by simpa using (congrArg List.length hvalues).symm, ?_⟩
  have hi := congrArg (·[i]?) hvalues
  simp only [List.getElem?_map, List.getElem?_zipIdx, hc, Option.map_some, Nat.zero_add, newValue, List.lookup_cons,
    beq_self_eq_true] at hi
  obtain ⟨v, hv, he⟩ := Option.map_eq_some_iff.mp hi.symm
  rw [hv, Except.ok.inj he]

/-- An INSERT of a string adds one row, with that string in its column. -/
theorem OnlyColumn.exists_insert_ofString (h : t.OnlyColumn name i c) (hkeeps : c.type.keepsText = true)
    (hident : c.isIdentity = false) (hroom : t.HasRoom) (now : Instant) (table v : String) :
    ∃ row, t.insert now (.ofString table name v) =
        ({ t with rows := t.rows ++ [row] }, .ok (.ofAffected 1 "1 row(s) inserted")) ∧
      row[i]? = some (.text v) := by
  obtain ⟨row, hrow, hlength, hcell⟩ := exists_buildRow h.placed hident hroom now (.quoted v)
  refine ⟨row, ?_, by rw [hcell, Column.literalValue, Value.coerce_of_keepsText hkeeps]⟩
  have htargets : t.insertTargets (some [name]) = .ok [i] := by
    simp [insertTargets, requireColumn, h.columnIndex?_eq]
  have hpush : t.pushRow row = .ok { t with rows := t.rows ++ [row] } := by
    simp [pushRow, fits, hlength]
  have hbuilt : (do t.pushRow (← t.buildRow now [i] [.quoted v])) = .ok { t with rows := t.rows ++ [row] } :=
    bind_eq_ok.mpr ⟨_, hrow, hpush⟩
  have hrows : insertRows now [i] t [[.quoted v]] = ({ t with rows := t.rows ++ [row] }, .ok ()) := by
    simp only [insertRows, hbuilt]
  simp only [insert, Insert.ofString, htargets, List.find?_cons, List.find?_nil, List.length_singleton,
    bne_self_eq_false, hrows]
  rfl

/-! ## Reading -/

/-- A query for one column gives its values, in the order of the rows. -/
theorem OnlyColumn.select_ofColumn [RegexCompiler] (h : t.OnlyColumn name i c) (table : String)
    {condition : Option Condition} {p : Row → Bool} (hp : t.filter now condition = .ok p) :
    t.select now (.ofColumn table name condition) = .ok {
      columns := [c.name]
      rows := (t.rows.filter p).map fun row => [(c.name, row.cell (some i))] } := by
  have hplaces : t.projected (.columns [name]) = .ok [i] := by
    rw [projected_columns, h.columnsFor_eq]
    rfl
  have hname : t.nameAt i = c.name := by simp [nameAt, h.placed]
  refine bind_eq_ok.mpr ⟨_, hplaces, bind_eq_ok.mpr ⟨p, hp, ?_⟩⟩
  simp only [List.map_cons, List.map_nil, hname]
  rfl

/-- The test for a string accepts a row that has it. -/
theorem OnlyColumn.exists_filter_isString [RegexCompiler] (h : t.OnlyColumn name i c) {row : Row} {v : String}
    (hcell : row[i]? = some (.text v)) :
    ∃ p, t.filter now (some (.isString name v)) = .ok p ∧ p row = true := by
  have hread : t.read row name = .text v := by
    simp [read, Row.cell, h.columnIndex?_eq, hcell]
  refine ⟨fun row => (t.read row name).equal (.text v), rfl, ?_⟩
  simp only [hread]
  exact Value.equal_text_self v

/-- A row that the condition holds of comes behind what the query gave without it. -/
theorem OnlyColumn.select_ofColumn_concat [RegexCompiler] (h : t.OnlyColumn name i c) {row : Row} {v : String}
    (hcell : row[i]? = some (.text v)) (table : String) {condition : Option Condition} {p : Row → Bool}
    (hp : t.filter now condition = .ok p) (hrow : p row = true) :
    ∃ rows, t.select now (.ofColumn table name condition) = .ok { columns := [c.name], rows } ∧
      { t with rows := t.rows ++ [row] }.select now (.ofColumn table name condition) =
        .ok { columns := [c.name], rows := rows ++ [[(c.name, .text v)]] } := by
  refine ⟨_, h.select_ofColumn table hp, ?_⟩
  have h' : { t with rows := t.rows ++ [row] }.OnlyColumn name i c := ⟨h.placed, h.named, h.only⟩
  have hp' : { t with rows := t.rows ++ [row] }.filter now condition = .ok p := hp
  rw [h'.select_ofColumn table hp']
  simp [List.filter_append, hrow, Row.cell, hcell]

end Table

end PocketSql
