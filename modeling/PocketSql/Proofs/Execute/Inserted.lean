/-
  PocketSql.Proofs.Execute.Inserted — the rows that an INSERT adds.

  An INSERT takes place just where its columns are there, each tuple has a value for each
  of them, and the identity columns have integers left for all the tuples (`Takes`). It
  adds a row for each tuple, and each row can be told from the table before
  (`Table.newRow`): although every row reads the identity columns of the table with the
  rows before it, what it finds there is the greatest integer of the old table and one
  more for each of these rows (`insertRows_eq_ok`). Which values these are is said by the
  types of the columns (`Table.Adds`), also where none is given (`Column.Fills`).
-/

import PocketSql.Proofs.Execute.Named
import PocketSql.Proofs.Execute.Placed
import PocketSql.Proofs.Execute.Stored

namespace PocketSql

/-! ## What stands in a column -/

/-- The zero of a type: 0 for integers and years, 0.0 for other numbers, and the empty text
    for all that is no number. -/
inductive ColumnType.IsZero (type : ColumnType) : Value → Prop
  | integer : type ∈ [.int, .bigInt, .year] → IsZero type (.integer 0)
  | fractional : type ∈ [.decimal, .float, .double] → IsZero type (.float .zero)
  | other : type ∉ [.int, .bigInt, .year, .decimal, .float, .double] → IsZero type (.text "")

theorem ColumnType.isZero_iff {type : ColumnType} {v : Value} : type.IsZero v ↔ v = .zero type := by
  constructor
  · intro hv
    cases hv with
    | integer h | fractional h | other h =>
      revert h
      cases type <;> decide
  · rintro rfl
    cases type with
    | int | bigInt | year => exact .integer (by decide)
    | decimal | float | double => exact .fractional (by decide)
    | _ => exact .other (by decide)

namespace Column

variable {now : Instant} {c : Column} {l : Literal} {v : Value}

/-- What fills a column that no value is given for: its default, else NULL if it may be
    NULL, else the zero of its type. -/
inductive Fills (now : Instant) (c : Column) : Value → Prop
  | null : c.default = some .null → Fills now c .null
  | timestamp : c.default = some .currentTimestamp → Fills now c (.text now.timestampText)
  | literal {raw : String} : c.default = some (.literal raw) → Fills now c (.coerce raw c.type)
  | nullable : c.default = none → c.nullable = true → Fills now c .null
  | zero {v : Value} : c.default = none → c.nullable = false → c.type.IsZero v → Fills now c v

/-- What a literal puts into a column. The time is read as a text is where the type has
    dates or times. -/
inductive Puts (now : Instant) (c : Column) : Literal → Value → Prop
  | null : Puts now c .null .null
  | default {v : Value} : c.Fills now v → Puts now c .default v
  | temporal : c.type ∈ [.date, .dateTime, .timestamp, .time] →
      Puts now c .currentTimestamp (.coerce now.timestampText c.type)
  | timestamp : c.type ∉ [.date, .dateTime, .timestamp, .time] → Puts now c .currentTimestamp (.text now.timestampText)
  | raw {l : Literal} {raw : String} : l.raw? = some raw → Puts now c l (.coerce raw c.type)

theorem fills_iff : c.Fills now v ↔ v = c.fillValue now := by
  rw [fillValue, defaultValue?]
  constructor
  · intro hv
    cases hv with
    | null h | timestamp h | literal h =>
      rw [h]
      rfl
    | nullable h hn =>
      rw [h, hn]
      rfl
    | zero h hn hz =>
      rw [h, hn]
      exact ColumnType.isZero_iff.mp hz
  · rintro rfl
    cases h : c.default with
    | some d =>
      cases d with
      | null => exact .null h
      | currentTimestamp => exact .timestamp h
      | literal raw => exact .literal h
    | none =>
      cases hn : c.nullable with
      | true => exact .nullable h hn
      | false => exact .zero h hn (ColumnType.isZero_iff.mpr rfl)

theorem puts_iff : c.Puts now l v ↔ v = c.literalValue now l := by
  have htemporal : c.type.isTemporal = true ↔ c.type ∈ [.date, .dateTime, .timestamp, .time] := by
    cases c.type <;> decide
  constructor
  · intro hv
    cases hv with
    | null => rfl
    | default h => exact fills_iff.mp h
    | temporal h => exact (if_pos (htemporal.mpr h)).symm
    | timestamp h => exact (if_neg (mt htemporal.mp h)).symm
    | raw h =>
      cases l with
      | quoted raw | number raw | word raw =>
        cases h
        rfl
      | null | default | currentTimestamp => cases h
  · rintro rfl
    cases l with
    | null => exact .null
    | default => exact .default (fills_iff.mpr rfl)
    | quoted raw | number raw | word raw => exact .raw rfl
    | currentTimestamp =>
      unfold literalValue
      dsimp only
      split
      · exact .temporal (htemporal.mp ‹_›)
      · exact .timestamp (mt htemporal.mpr ‹_›)

end Column

/-! ## What an INSERT says -/

namespace Table

variable {t : Table} {now : Instant} {s : Insert} {targets : List Nat} {literals : List Literal} {row : Row}
  {rows : List (List Literal)} {i : Nat} {c : Column}

/-- The columns that an INSERT gives values for; all of them where none are named. -/
def namesFor (t : Table) (s : Insert) : List String :=
  s.columns.getD t.columnNames

/-- The literal that a tuple gives a column: the last one of those under its name. -/
def literalFor (t : Table) (s : Insert) (literals : List Literal) (c : Column) : Option Literal :=
  (((t.namesFor s).zip literals).reverse.find? fun e => Text.sameName c.name e.1).map (·.2)

/-- What the `j`-th tuple, counted from 0, adds to the column at a place. -/
inductive AddsCell (t : Table) (now : Instant) (s : Insert) (j : Nat) (literals : List Literal) (i : Nat) (c : Column) :
    Value → Prop
  /-- The next integer that no row before it has. -/
  | identity {n : Int64} : c.isIdentity = true → n.toInt = t.reached i + 1 + j →
      AddsCell t now s j literals i c (.integer n)
  | given {l : Literal} {v : Value} : c.isIdentity = false → t.literalFor s literals c = some l → c.Puts now l v →
      AddsCell t now s j literals i c v
  | filled {v : Value} : c.isIdentity = false → t.literalFor s literals c = none → c.Fills now v →
      AddsCell t now s j literals i c v

/-- The rows that an INSERT adds: one for each tuple, with a value for each column. -/
structure Adds (t : Table) (now : Instant) (s : Insert) (rows : List Row) : Prop where
  count : rows.length = s.rows.length
  width : ∀ row ∈ rows, row.length = t.columns.length
  cells : ∀ j literals row i c v, s.rows[j]? = some literals → rows[j]? = some row → t.columns[i]? = some c →
    row[i]? = some v → t.AddsCell now s j literals i c v

/-- The value that is added there, computed. -/
def newCell (t : Table) (now : Instant) (s : Insert) (j : Nat) (literals : List Literal) (i : Nat) (c : Column) :
    Value :=
  if c.isIdentity then .integer (Int64.ofInt (t.reached i + 1 + j))
  else
    match t.literalFor s literals c with
    | some l => c.literalValue now l
    | none => c.fillValue now

/-- The row that the `j`-th tuple becomes. -/
def newRow (t : Table) (now : Instant) (s : Insert) (j : Nat) (literals : List Literal) : Row :=
  t.columns.mapIdx (t.newCell now s j literals)

/-- Whether the identity columns have integers left for so many rows. -/
def HasRoomFor (t : Table) (n : Nat) : Prop :=
  ∀ i c, t.columns[i]? = some c → c.isIdentity = true → Numeral.fitsInt64 (t.reached i + n) = true

/-- Whether an INSERT takes place: its columns are there, its tuples have a value for each of
    them, and there is room for the new rows. -/
structure Takes (t : Table) (s : Insert) : Prop where
  named : ∀ name ∈ t.namesFor s, ∃ c ∈ t.columns, Text.sameName c.name name = true
  counts : ∀ literals ∈ s.rows, literals.length = (t.namesFor s).length
  room : t.HasRoomFor s.rows.length

/-! ## Columns -/

/-- Without names the columns are those of the table in order. -/
theorem insertTargets_eq (hd : DistinctNames t.columnNames) :
    t.insertTargets s.columns = (t.namesFor s).mapM t.requireColumn := by
  unfold namesFor insertTargets
  cases s.columns with
  | some names => rfl
  | none =>
    have hplaces : ∀ e ∈ t.columns.zipIdx, t.requireColumn e.1.name = .ok e.2 := by
      rintro ⟨c, i⟩ he
      rw [requireColumn_eq_ok, columnIndex?_eq_some_iff hd (List.mem_zipIdx_iff_getElem?.mp he)]
      exact Text.sameName_refl _
    obtain ⟨places, hok, -⟩ := exists_mapM fun e he => ⟨e.2, hplaces e he⟩
    have hall : places = t.columns.zipIdx.map (·.2) := by
      refine eq_map_of_mapM hok fun e he i hi => ?_
      rw [hplaces e he] at hi
      exact (Except.ok.inj hi).symm
    show Except.ok (List.range t.columns.length) = t.columnNames.mapM t.requireColumn
    rw [columnNames_eq_map, List.mapM_map, range_eq_places, ← hall]
    exact hok.symm

theorem exists_targets_iff (hd : DistinctNames t.columnNames) : (∃ targets, t.insertTargets s.columns = .ok targets) ↔
    ∀ name ∈ t.namesFor s, ∃ c ∈ t.columns, Text.sameName c.name name = true := by
  rw [insertTargets_eq hd]
  constructor
  · rintro ⟨targets, h⟩ name hname
    have hok : t.requireColumn name ∈ (t.namesFor s).map t.requireColumn := List.mem_map_of_mem hname
    rw [map_of_mapM h] at hok
    obtain ⟨i, -, hi⟩ := List.mem_map.mp hok
    exact exists_columnIndex?.mp ⟨i, requireColumn_eq_ok.mp hi.symm⟩
  · intro h
    have hall : ∀ name ∈ t.namesFor s, ∃ i, t.requireColumn name = .ok i := by
      intro name hname
      obtain ⟨i, hi⟩ := exists_columnIndex?.mpr (h name hname)
      exact ⟨i, requireColumn_eq_ok.mpr hi⟩
    obtain ⟨targets, h, -⟩ := exists_mapM hall
    exact ⟨targets, h⟩

theorem targets_eq (hd : DistinctNames t.columnNames) (h : t.insertTargets s.columns = .ok targets) :
    targets = (t.namesFor s).map t.place := by
  rw [insertTargets_eq hd] at h
  exact eq_map_of_mapM h fun _ _ _ => place_of_requireColumn

theorem admits_iff (hd : DistinctNames t.columnNames) : t.Admits s ↔
    (∀ name ∈ t.namesFor s, ∃ c ∈ t.columns, Text.sameName c.name name = true) ∧
      ∀ literals ∈ s.rows, literals.length = (t.namesFor s).length := by
  have hlength : ∀ targets, t.insertTargets s.columns = .ok targets → targets.length = (t.namesFor s).length := by
    intro targets h
    rw [targets_eq hd h, List.length_map]
  rw [← exists_targets_iff hd]
  constructor
  · rintro ⟨targets, h, hcounts⟩
    exact ⟨⟨targets, h⟩, fun row hrow => (hcounts row hrow).trans (hlength targets h)⟩
  · rintro ⟨⟨targets, h⟩, hcounts⟩
    exact ⟨targets, h, fun row hrow => (hcounts row hrow).trans (hlength targets h).symm⟩

/-! ## One row -/

/-- What is given for a column that is no identity column is its last literal. -/
theorem lookup_givenValues {pairs : List (Nat × Literal)} {given : List (Nat × Value)} (hc : t.columns[i]? = some c)
    (hi : c.isIdentity = false) (h : t.givenValues now pairs = .ok given) :
    given.lookup i = (pairs.reverse.lookup i).map (c.literalValue now) := by
  unfold givenValues at h
  induction pairs using List.reverseRecOn generalizing given with
  | nil =>
    cases h
    rfl
  | append_singleton pairs p ih =>
    obtain ⟨j, l⟩ := p
    rw [List.foldlM_append] at h
    obtain ⟨given', hgiven, h⟩ := bind_eq_ok.mp h
    obtain ⟨given'', hstep, h⟩ := bind_eq_ok.mp h
    cases h
    dsimp only at hstep
    rw [List.reverse_append, List.reverse_singleton, List.singleton_append, List.lookup_cons]
    by_cases hij : i = j
    · subst hij
      simp only [hc] at hstep
      obtain ⟨v, hv, hstep⟩ := bind_eq_ok.mp hstep
      cases hstep
      rw [givenValue, if_neg (by simp [hi])] at hv
      cases hv
      simp
    · have hne : (i == j) = false := by simpa using hij
      rw [hne, ← ih hgiven]
      split at hstep
      · obtain ⟨v, -, hstep⟩ := bind_eq_ok.mp hstep
        cases hstep
        rw [List.lookup_cons, hne]
      · cases hstep
        rfl

theorem newCell_of_isIdentity (hi : c.isIdentity = true) (j : Nat) :
    t.newCell now s j literals i c = .integer (Int64.ofInt (t.reached i + 1 + j)) :=
  if_pos hi

/-- Every row that is built is the one of the first tuple. -/
theorem eq_newRow_of_buildRow (hd : DistinctNames t.columnNames) (htargets : t.insertTargets s.columns = .ok targets)
    (h : t.buildRow now targets literals = .ok row) : row = t.newRow now s 0 literals := by
  obtain ⟨given, hgiven, hrow⟩ := bind_eq_ok.mp h
  apply List.ext_getElem?
  intro i
  rw [newRow, List.getElem?_mapIdx]
  cases hc : t.columns[i]? with
  | none =>
    rw [List.getElem?_eq_none_iff] at hc
    simpa [length_of_buildRow h] using hc
  | some c =>
    rw [Option.map_some]
    cases hi : c.isIdentity with
    | true =>
      obtain ⟨n, hn, hcell⟩ := identity_of_buildRow h hc hi
      rw [hcell, newCell_of_isIdentity hi, ← Int64.ofInt_toInt n, toInt_of_nextIdentity hn]
      simp
    | false =>
      have hcell := congrArg (·[i]?) (map_of_mapM hrow)
      simp only [List.getElem?_map, List.getElem?_zipIdx, hc, Option.map_some, Nat.zero_add] at hcell
      obtain ⟨v, hv, hvalue⟩ := Option.map_eq_some_iff.mp hcell.symm
      have hfound := (exists_targets_iff hd).mp ⟨targets, htargets⟩
      have hliteral : t.literalFor s literals c = ((targets.zip literals).reverse).lookup i := by
        have hpairs : targets.zip literals = ((t.namesFor s).zip literals).map fun e => (t.place e.1, e.2) := by
          rw [targets_eq hd htargets, List.zip_map_left]
          rfl
        rw [hpairs, lookup_reverse_map, find?_placed hd (fun e he => hfound e.1 (List.of_mem_zip he).1) hc]
        rfl
      rw [hv, newCell, if_neg (by simp [hi]), hliteral]
      rw [lookup_givenValues hc hi hgiven] at hvalue
      cases hl : (targets.zip literals).reverse.lookup i with
      | some l =>
        rw [hl] at hvalue
        exact congrArg some (Except.ok.inj hvalue)
      | none =>
        rw [hl] at hvalue
        have hfill : t.missingValue now i c = .ok (c.fillValue now) := if_neg (by simp [hi])
        exact congrArg some (Except.ok.inj (hvalue.trans hfill))

/-! ## Room -/

theorem fitsInt64_iff {n : Int} : Numeral.fitsInt64 n = true ↔ -2 ^ 63 ≤ n ∧ n < 2 ^ 63 := by
  have hmin : Int64.minValue.toInt = -2 ^ 63 := by decide
  have hmax : Int64.maxValue.toInt = 2 ^ 63 - 1 := by decide
  simp only [Numeral.fitsInt64, Bool.and_eq_true, decide_eq_true_eq, hmin, hmax]
  omega

theorem fitsInt64_reached (t : Table) (i : Nat) : Numeral.fitsInt64 (t.reached i) = true := by
  unfold reached
  cases h : t.greatest? i with
  | none => decide
  | some m =>
    obtain ⟨k, rfl⟩ := exists_of_greatest? h
    simp only [Option.getD_some, Numeral.fitsInt64, Bool.and_eq_true, decide_eq_true_eq]
    exact ⟨k.minValue_le_toInt, k.toInt_le⟩

theorem eq_newCell {j : Nat} {v : Value} (h : t.AddsCell now s j literals i c v) :
    v = t.newCell now s j literals i c := by
  cases h with
  | identity hi hn => rw [newCell_of_isIdentity hi, ← hn, Int64.ofInt_toInt]
  | given hi hl hv =>
    rw [newCell, if_neg (by simp [hi]), hl]
    exact Column.puts_iff.mp hv
  | filled hi hl hv =>
    rw [newCell, if_neg (by simp [hi]), hl]
    exact Column.fills_iff.mp hv

theorem addsCell_newCell {n j : Nat} (hroom : t.HasRoomFor n) (hc : t.columns[i]? = some c) (hj : j < n) :
    t.AddsCell now s j literals i c (t.newCell now s j literals i c) := by
  cases hi : c.isIdentity with
  | true =>
    have hreached := fitsInt64_iff.mp (t.fitsInt64_reached i)
    have hfits := fitsInt64_iff.mp (hroom i c hc hi)
    rw [newCell_of_isIdentity hi]
    exact .identity hi (Int64.toInt_ofInt_of_le (by omega) (by omega))
  | false =>
    rw [newCell, if_neg (by simp [hi])]
    cases hl : t.literalFor s literals c with
    | some l => exact .given hi hl (Column.puts_iff.mpr rfl)
    | none => exact .filled hi hl (Column.fills_iff.mpr rfl)

/-- Room for some rows is room for fewer. -/
theorem HasRoomFor.mono {m n : Nat} (h : t.HasRoomFor n) (hmn : m ≤ n) : t.HasRoomFor m := by
  intro i c hc hi
  have hreached := fitsInt64_iff.mp (t.fitsInt64_reached i)
  have hn := fitsInt64_iff.mp (h i c hc hi)
  exact fitsInt64_iff.mpr (by omega)

theorem hasRoom_iff : t.HasRoom ↔ t.HasRoomFor 1 := by
  -- the greatest integer is the one that has no next one
  have hnext : ∀ i, t.greatest? i ≠ some Int64.maxValue.toInt ↔ Numeral.fitsInt64 (t.reached i + 1) = true := by
    intro i
    have hn := nextIdentity_eq t i
    constructor
    · intro hne
      obtain ⟨n, hok⟩ := exists_nextIdentity hne
      rw [hok] at hn
      split at hn
      · assumption
      · cases hn
    · intro hfits hfull
      rw [if_pos hfits, nextIdentity_eq_error_iff.mpr ⟨hfull, rfl⟩] at hn
      cases hn
  constructor
  · intro h i c hc hi
    exact (hnext i).mp (h (c, i) (List.mem_zipIdx_iff_getElem?.mpr hc) hi)
  · rintro h ⟨c, i⟩ hc hi
    exact (hnext i).mpr (h i c (List.mem_zipIdx_iff_getElem?.mp hc) hi)

theorem buildRow_eq_newRow (hd : DistinctNames t.columnNames) (htargets : t.insertTargets s.columns = .ok targets)
    (hroom : t.HasRoomFor 1) : t.buildRow now targets literals = .ok (t.newRow now s 0 literals) := by
  cases h : t.buildRow now targets literals with
  | error f => exact absurd (hasRoom_iff.mpr hroom) (not_hasRoom_of_buildRow h).1
  | ok row => rw [eq_newRow_of_buildRow hd htargets h]

/-- The rows that are computed are those that an INSERT adds, and no others are. -/
theorem adds_iff (hroom : t.HasRoomFor s.rows.length) {new : List Row} :
    t.Adds now s new ↔ new = s.rows.mapIdx (t.newRow now s) := by
  constructor
  · rintro ⟨hcount, hwidth, hcells⟩
    apply List.ext_getElem (by simp [hcount])
    intro j hj hj'
    rw [List.getElem_mapIdx]
    apply List.ext_getElem (by simp [newRow, hwidth _ (List.getElem_mem hj)])
    intro i hi hi'
    have hcell := hcells j _ _ i _ _ (List.getElem?_eq_getElem (hcount ▸ hj)) (List.getElem?_eq_getElem hj)
      (List.getElem?_eq_getElem (by simpa [newRow] using hi')) (List.getElem?_eq_getElem hi)
    rw [eq_newCell hcell]
    simp [newRow]
  · rintro rfl
    refine ⟨by simp, fun row hrow => ?_, fun j literals row i c v hl hrow hc hv => ?_⟩
    · obtain ⟨j, hj, rfl⟩ := List.mem_mapIdx.mp hrow
      simp [newRow]
    · rw [List.getElem?_mapIdx, hl, Option.map_some, Option.some.injEq] at hrow
      rw [← hrow, newRow, List.getElem?_mapIdx, hc, Option.map_some, Option.some.injEq] at hv
      rw [← hv]
      exact addsCell_newCell hroom hc (List.getElem?_eq_some_iff.mp hl).1

/-! ## One row after the other -/

/-- An integer greater than all that a column holds is the greatest when it is added. -/
theorem reached_withRow {n : Int64} (hcell : row[i]? = some (.integer n)) (hn : n.toInt = t.reached i + 1) :
    (t.withRow row).reached i = t.reached i + 1 := by
  have hgreatest : (t.withRow row).greatest? i = some n.toInt := by
    have hreadings : ((t.withRow row).rows.filterMap fun row => row[i]?.bind identityReading?) =
        (t.rows.filterMap fun row => row[i]?.bind identityReading?) ++ [n.toInt] := by
      rw [withRow, List.filterMap_append]
      simp [hcell, identityReading?]
    rw [greatest?, hreadings, List.max?_eq_some_iff]
    refine ⟨by simp, fun m hm => ?_⟩
    rcases List.mem_append.mp hm with hm | hm
    · obtain ⟨g, hg⟩ := Option.isSome_iff_exists.mp (List.isSome_max?_of_mem hm)
      have hle := (List.max?_eq_some_iff.mp hg).2 m hm
      have hreached : t.reached i = g := by
        rw [reached, greatest?, hg]
        rfl
      omega
    · exact Int.le_of_eq (List.mem_singleton.mp hm)
  rw [reached, hgreatest, ← hn]
  rfl

theorem reached_withNewRow (hroom : t.HasRoomFor 1) (hc : t.columns[i]? = some c) (hi : c.isIdentity = true) :
    (t.withRow (t.newRow now s 0 literals)).reached i = t.reached i + 1 := by
  have hfits := fitsInt64_iff.mp (hroom i c hc hi)
  have hcell : (t.newRow now s 0 literals)[i]? = some (.integer (Int64.ofInt (t.reached i + 1))) := by
    rw [newRow, List.getElem?_mapIdx, hc, Option.map_some, newCell_of_isIdentity hi]
    simp
  exact reached_withRow hcell (Int64.toInt_ofInt_of_le (by omega) (by omega))

theorem hasRoomFor_withNewRow (hroom : t.HasRoomFor 1) (n : Nat) :
    (t.withRow (t.newRow now s 0 literals)).HasRoomFor n ↔ t.HasRoomFor (n + 1) := by
  have hsame : ∀ i c, t.columns[i]? = some c → c.isIdentity = true →
      (t.withRow (t.newRow now s 0 literals)).reached i + n = t.reached i + (n + 1 : Nat) := by
    intro i c hc hi
    rw [reached_withNewRow hroom hc hi]
    omega
  constructor
  · intro h i c hc hi
    rw [← hsame i c hc hi]
    exact h i c hc hi
  · intro h i c hc hi
    rw [hsame i c hc hi]
    exact h i c hc hi

/-- What a tuple becomes where each identity column has come one further is what it becomes
    one place later. -/
theorem newRow_of_reached {t' : Table} (hcolumns : t'.columns = t.columns)
    (hreached : ∀ i c, t.columns[i]? = some c → c.isIdentity = true → t'.reached i = t.reached i + 1) (j : Nat)
    (literals : List Literal) : t'.newRow now s j literals = t.newRow now s (j + 1) literals := by
  apply List.ext_getElem?
  intro i
  rw [newRow, newRow, List.getElem?_mapIdx, List.getElem?_mapIdx, hcolumns]
  cases hc : t.columns[i]? with
  | none => rfl
  | some c =>
    rw [Option.map_some, Option.map_some]
    cases hi : c.isIdentity with
    | true =>
      rw [newCell_of_isIdentity hi, newCell_of_isIdentity hi, hreached i c hc hi]
      congr 3
      omega
    | false => simp [newCell, hi, literalFor, namesFor, columnNames, hcolumns]

/-- All tuples become rows where there is room for all of them. -/
theorem insertRows_eq_ok (hd : DistinctNames t.columnNames) (htargets : t.insertTargets s.columns = .ok targets)
    (hroom : t.HasRoomFor rows.length) :
    insertRows now targets t rows = ({ t with rows := t.rows ++ rows.mapIdx (t.newRow now s) }, .ok ()) := by
  induction rows generalizing t with
  | nil => simp [insertRows]
  | cons literals rows ih =>
    have hone : t.HasRoomFor 1 := hroom.mono (by simp)
    have hbuild : t.buildRow now targets literals = .ok (t.newRow now s 0 literals) :=
      buildRow_eq_newRow hd htargets hone
    have hrest := ih (t := t.withRow (t.newRow now s 0 literals)) hd htargets
      ((hasRoomFor_withNewRow hone _).mpr hroom)
    have hnext : (t.withRow (t.newRow now s 0 literals)).newRow now s = fun j => t.newRow now s (j + 1) := by
      funext j literals
      refine newRow_of_reached ?_ (fun _ _ => reached_withNewRow hone) j literals
      rfl
    rw [insertRows_cons hbuild, hrest, hnext, List.mapIdx_cons]
    simp [withRow]

/-- And only there. -/
theorem hasRoomFor_of_insertRows (hd : DistinctNames t.columnNames)
    (htargets : t.insertTargets s.columns = .ok targets) (h : (insertRows now targets t rows).2 = .ok ()) :
    t.HasRoomFor rows.length := by
  induction rows generalizing t with
  | nil =>
    intro i c _ _
    simpa using t.fitsInt64_reached i
  | cons literals rows ih =>
    cases hbuild : t.buildRow now targets literals with
    | error f =>
      rw [insertRows_cons_error hbuild] at h
      cases h
    | ok row =>
      have hone : t.HasRoomFor 1 := hasRoom_iff.mp (hasRoom_of_buildRow hbuild)
      rw [insertRows_cons hbuild] at h
      rw [eq_newRow_of_buildRow hd htargets hbuild] at h
      exact (hasRoomFor_withNewRow hone _).mp (ih (t := t.withRow _) hd htargets h)

/-! ## All rows -/

theorem insert_of_takes (hd : DistinctNames t.columnNames) (h : t.Takes s) :
    t.insert now s = ({ t with rows := t.rows ++ s.rows.mapIdx (t.newRow now s) },
      .ok (.ofAffected s.rows.length (toString s.rows.length ++ " row(s) inserted"))) := by
  obtain ⟨targets, htargets, hlengths⟩ := (admits_iff hd).mpr ⟨h.named, h.counts⟩
  rw [insert_of_targets htargets hlengths, insertRows_eq_ok hd htargets h.room]
  rfl

theorem takes_of_insert (hd : DistinctNames t.columnNames) {result : QueryResult}
    (h : (t.insert now s).2 = .ok result) : t.Takes s := by
  unfold insert at h
  split at h
  · cases h
  · rename_i targets htargets
    split at h
    · cases h
    · rename_i hnone
      have hlengths : ∀ row ∈ s.rows, row.length = targets.length := by simpa using hnone
      obtain ⟨hnamed, hcounts⟩ := (admits_iff hd).mp ⟨targets, htargets, hlengths⟩
      obtain ⟨⟨⟩, hdone, -⟩ := map_eq_ok.mp h
      exact ⟨hnamed, hcounts, hasRoomFor_of_insertRows hd htargets hdone⟩

end Table

namespace Catalog

variable {c : Catalog} {now : Instant} {database : String} {db : Database} {s : Insert} {t : Table}

/-- An INSERT succeeds just where its columns are there, each tuple has a value for each of
    them, and every identity column has integers left for all the tuples. Then the old rows
    are followed by one for each tuple: with the next integers in the identity columns, with
    what the last literal that is given for any other column puts there, and with what fills
    a column that none is given for. -/
theorem inserts_iff_takes [RegexCompiler] (now : Instant) (hc : c.Reachable) (hdb : c.database? database = some db)
    (ht : db.table? s.table = some t) :
    ((∃ result, (c.run now database (.insert s)).2 = .ok result) ↔ t.Takes s) ∧
      (t.Takes s →
        (∃ db' rows, (c.run now database (.insert s)).1.database? database = some db' ∧
          db'.table? s.table = some { t with rows := t.rows ++ rows } ∧ t.Adds now s rows) ∧
        (c.run now database (.insert s)).2 =
          .ok (.ofAffected s.rows.length (toString s.rows.length ++ " row(s) inserted"))) := by
  obtain ⟨hname, htable⟩ := hc.table hdb ht
  have hd := htable.columnNames
  rw [run_insert hname hdb ht]
  refine ⟨⟨fun ⟨result, h⟩ => Table.takes_of_insert hd h, fun h => ?_⟩, fun h => ⟨?_, ?_⟩⟩
  · exact ⟨_, congrArg Prod.snd (Table.insert_of_takes hd h)⟩
  · refine ⟨_, _, database?_put c database _, ?_, (Table.adds_iff h.room).mpr rfl⟩
    rw [Table.insert_of_takes hd h]
    exact Database.table?_modifyTable ht rfl
  · exact congrArg Prod.snd (Table.insert_of_takes hd h)

/-- Two tuples with a column named twice, for a table whose identity column holds a negative
    integer. Three columns that may not be NULL are filled with the zeros of their types. -/
theorem inserts_iff_takes_negative :
    let columns : List Column :=
      [{ name := "id", type := .int, primaryKey := true, autoIncrement := true }, { name := "v", type := .text },
        { name := "n", type := .int, default := some (.literal "7") }, { name := "z", type := .int, nullable := false },
        { name := "w", type := .text, nullable := false }, { name := "f", type := .decimal, nullable := false },
        { name := "made", type := .timestamp, default := some .currentTimestamp }, { name := "d", type := .date }]
    let create : Statement := .createTable
      { table := "t", columns, constraints := [], ifNotExists := false, engine := none, charset := none }
    let first : Statement := .insert { table := "t", columns := some ["v"], rows := [[.quoted "x"]] }
    let update : Statement := .update { table := "t", assignments := [⟨"id", .number "-5"⟩], condition := none }
    let insert : Insert :=
      { table := "T", columns := some ["v", "N", "V", "d"]
        rows := [[.quoted "a", .default, .quoted "b", .currentTimestamp], [.null, .quoted "3.9", .null, .null]] }
    let c := (((Catalog.run {} ⟨0, 0⟩ "app" create).1.run ⟨1, 0⟩ "app" first).1.run ⟨2, 0⟩ "app" update).1
    let old : List Row :=
      [[.integer (-5), .text "x", .integer 7, .integer 0, .text "", .float .zero, .text "1970-01-01 00:00:01", .null]]
    let new : List Row :=
      [[.integer (-4), .text "b", .integer 7, .integer 0, .text "", .float .zero, .text "1970-01-01 00:00:03",
          .text "1970-01-01"],
        [.integer (-3), .null, .integer 3, .integer 0, .text "", .float .zero, .text "1970-01-01 00:00:03", .null]]
    let last (c : Catalog) : Option (List Row) := ((c.database? "APP").bind (·.table? "T")).map (·.rows)
    c.Reachable ∧ last c = some old ∧ (c.run ⟨3, 0⟩ "APP" (.insert insert)).2 = .ok (.ofAffected 2 "2 row(s) inserted") ∧
      last (c.run ⟨3, 0⟩ "APP" (.insert insert)).1 = some (old ++ new) := by
  intro columns create first update insert c old new last
  have hcreate : create.Written :=
    ⟨"CREATE TABLE t (id INT PRIMARY KEY AUTO_INCREMENT, v TEXT, n INT DEFAULT 7, z INT NOT NULL, w TEXT NOT NULL, " ++
      "f DECIMAL NOT NULL, made TIMESTAMP DEFAULT CURRENT_TIMESTAMP, d DATE)", .createTable, by decide +kernel⟩
  have hfirst : first.Written := ⟨"INSERT INTO t (v) VALUES ('x')", .insert, by decide +kernel⟩
  have hupdate : update.Written := ⟨"UPDATE t SET id = -5", .update, by decide +kernel⟩
  have hc : c.Reachable := .run _ _ (.run _ _ (.run _ _ .empty hcreate) hfirst) hupdate
  have hold : (c.database? "APP").bind (·.table? "T") = some { name := "t", columns, rows := old } := by decide +kernel
  obtain ⟨db, hdb, ht⟩ := Option.bind_eq_some_iff.mp hold
  have htakes : Table.Takes { name := "t", columns, rows := old } insert := by
    have hroom : ∀ e ∈ columns.zipIdx, e.1.isIdentity = true →
        Numeral.fitsInt64 (Table.reached { name := "t", columns, rows := old } e.2 + 2) = true := by decide +kernel
    refine ⟨by decide, by decide, fun i identity hcolumn => ?_⟩
    exact hroom (identity, i) (List.mem_zipIdx_iff_getElem?.mpr hcolumn)
  obtain ⟨-, h⟩ := inserts_iff_takes (s := insert) ⟨3, 0⟩ hc hdb ht
  obtain ⟨⟨db', rows, hdb', ht', hadds⟩, hresult⟩ := h htakes
  have hmessage : toString insert.rows.length ++ " row(s) inserted" = "2 row(s) inserted" := by decide +kernel
  rw [hmessage] at hresult
  have hnew : insert.rows.mapIdx (Table.newRow { name := "t", columns, rows := old } ⟨3, 0⟩ insert) = new := by
    decide +kernel
  rw [(Table.adds_iff htakes.room).mp hadds, hnew] at ht'
  change db'.table? "T" = _ at ht'
  refine ⟨hc, ?_, hresult, ?_⟩
  · simp only [last, hold, Option.map_some]
  · simp only [last, hdb', Option.bind_some, ht', Option.map_some]

end Catalog

end PocketSql
