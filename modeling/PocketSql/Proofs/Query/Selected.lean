/-
  PocketSql.Proofs.Query.Selected — which rows a query gives, in which order.

  The rows of a result are named by their places in the table. Each stage on rows is one
  on places: the condition keeps some in ascending order, of the rows of one group the
  first stays, and sorting keeps the order of rows that no key tells apart. So every
  successful query has a list of distinct places that `Selects` describes, and gives the
  rows at the places within its limit, reduced to the columns asked for
  (`exists_selects`).
-/

import Mathlib.Data.List.Forall2
import PocketSql.Proofs.Query.Filtered
import PocketSql.Proofs.Query.Order

namespace PocketSql

/-! ## What a query asks for -/

/-- Whether a projection asks for a column. -/
def Projection.asksFor : Projection → Column → Bool
  | .all, _ => true
  | .columns names, c => names.any fun n => Text.sameName n c.name

/-- What a limit leaves of a list. -/
def Limit.cut {α : Type} : Option Limit → List α → List α
  | none, as => as
  | some l, as => (as.drop l.offset).take l.count

namespace Table

variable {t : Table} {now : Instant} {s : Select}

/-- The columns asked for with their places, in the order of the table. -/
def columnsFor (t : Table) (p : Projection) : List (Column × Nat) :=
  t.columns.zipIdx.filter fun e => p.asksFor e.1

/-- A row as a result shows it: the columns asked for, each with the row's own value. -/
def shown (t : Table) (p : Projection) (row : Row) : ResultRow :=
  (t.columnsFor p).map fun e => (e.1.name, row.cell (some e.2))

/-- The row at a place, where the condition holds of it. -/
def Matches [RegexCompiler] (t : Table) (now : Instant) (c : Option Condition) (i : Nat) (row : Row) : Prop :=
  t.rows[i]? = some row ∧ t.holds now c row = true

/-- These are the places of the rows that a query is about, in the order of its result. -/
structure Selects [RegexCompiler] (t : Table) (now : Instant) (s : Select) (places : List Nat) : Prop where
  nodup : places.Nodup
  /-- The rows of which the condition holds; of those with the same texts in the columns of
      GROUP BY the first one. -/
  mem_iff : ∀ i, i ∈ places ↔ ∃ row, t.Matches now s.condition i row ∧
    (s.groupBy ≠ [] → ∀ j < i, ∀ row', t.Matches now s.condition j row' →
      t.groupKey s.groupBy row' ≠ t.groupKey s.groupBy row)
  /-- No row comes before one that precedes it, and of rows that no key tells apart the one
      stored first comes first. -/
  ordered : places.Pairwise fun i j => ∀ row row', t.rows[i]? = some row → t.rows[j]? = some row' →
    t.compareRows s.orderBy row row' ≠ .gt ∧ (t.compareRows s.orderBy row row' = .eq → i < j)

/-! ## Places -/

/-- The row at a place. -/
def rowAt (t : Table) (i : Nat) : Row :=
  (t.rows[i]?).getD []

theorem rows_eq_map (t : Table) : t.rows = (List.range t.rows.length).map t.rowAt := by
  apply List.ext_getElem?
  intro i
  by_cases h : i < t.rows.length
  · simp [h, rowAt]
  · simp [h]

section Matching

variable [RegexCompiler]

/-- The places of the rows of which a condition holds. -/
def matching (t : Table) (now : Instant) (c : Option Condition) : List Nat :=
  (List.range t.rows.length).filter fun i => t.holds now c (t.rowAt i)

theorem filter_holds (c : Option Condition) :
    t.rows.filter (t.holds now c) = (t.matching now c).map t.rowAt := by
  rw [rows_eq_map t, List.filter_map]
  simp [matching, Function.comp_def]

theorem mem_matching {c : Option Condition} {i : Nat} : i ∈ t.matching now c ↔ t.Matches now c i (t.rowAt i) := by
  simp only [matching, List.mem_filter, List.mem_range, Matches, rowAt]
  refine and_congr_left fun _ => ⟨fun h => ?_, fun h => ?_⟩
  · simp [h]
  · exact (List.getElem?_eq_some_iff.mp h).1

theorem Matches.rowAt_eq {c : Option Condition} {i : Nat} {row : Row} (h : t.Matches now c i row) :
    t.rowAt i = row := by
  simp [rowAt, h.1]

theorem pairwise_matching (c : Option Condition) : (t.matching now c).Pairwise (· < ·) :=
  List.Pairwise.filter _ List.pairwise_lt_range

end Matching

end Table

/-! ## The first row of each group -/

/-- What is kept of rows at ascending places are those whose key is neither seen before nor
    the key of a row at an earlier place. -/
theorem exists_firstPerKey {κ : Type} [BEq κ] [LawfulBEq κ] (key : Row → κ) (f : Nat → Row) (seen : List κ)
    {places : List Nat} (hp : places.Pairwise (· < ·)) : ∃ firsts : List Nat, firsts.Sublist places ∧
      firstPerKey key seen (places.map f) = firsts.map f ∧
      ∀ i, i ∈ firsts ↔ i ∈ places ∧ key (f i) ∉ seen ∧ ∀ j ∈ places, j < i → key (f j) ≠ key (f i) := by
  induction places generalizing seen with
  | nil => exact ⟨[], List.Sublist.slnil, rfl, fun i => by simp⟩
  | cons a places ih =>
    obtain ⟨ha, hp⟩ := List.pairwise_cons.mp hp
    rw [List.map_cons, firstPerKey]
    by_cases hseen : key (f a) ∈ seen
    · obtain ⟨firsts, hsub, hmap, hmem⟩ := ih seen hp
      refine ⟨firsts, hsub.cons a, by rw [if_pos (List.contains_iff_mem.mpr hseen), hmap], fun i => ?_⟩
      rw [hmem i]
      constructor
      · rintro ⟨hi, hnew, hfirst⟩
        refine ⟨List.mem_cons_of_mem _ hi, hnew, ?_⟩
        rintro j (_ | ⟨_, hj⟩) hlt
        · intro hkey
          exact hnew (hkey ▸ hseen)
        · exact hfirst j hj hlt
      · rintro ⟨_ | ⟨_, hi⟩, hnew, hfirst⟩
        · exact absurd hseen hnew
        · exact ⟨hi, hnew, fun j hj hlt => hfirst j (List.mem_cons_of_mem _ hj) hlt⟩
    · obtain ⟨firsts, hsub, hmap, hmem⟩ := ih (key (f a) :: seen) hp
      refine ⟨a :: firsts, hsub.cons_cons a, ?_, fun i => ?_⟩
      · rw [if_neg (by simpa using hseen), hmap, List.map_cons]
      rw [List.mem_cons, hmem i]
      constructor
      · rintro (rfl | ⟨hi, hnew, hfirst⟩)
        · refine ⟨List.mem_cons_self, hseen, ?_⟩
          rintro j (_ | ⟨_, hj⟩) hlt
          · exact absurd hlt (Nat.lt_irrefl _)
          · exact absurd (ha j hj) (Nat.not_lt_of_lt hlt)
        · rw [List.mem_cons, not_or] at hnew
          refine ⟨List.mem_cons_of_mem _ hi, hnew.2, ?_⟩
          rintro j (_ | ⟨_, hj⟩) hlt
          · exact Ne.symm hnew.1
          · exact hfirst j hj hlt
      · rintro ⟨_ | ⟨_, hi⟩, hnew, hfirst⟩
        · exact .inl rfl
        · refine .inr ⟨hi, ?_, fun j hj hlt => hfirst j (List.mem_cons_of_mem _ hj) hlt⟩
          rw [List.mem_cons, not_or]
          exact ⟨Ne.symm (hfirst a List.mem_cons_self (ha i hi)), hnew⟩

namespace Table

variable {t : Table} {now : Instant} {s : Select}

/-- The rows that stay after grouping are at these places. -/
theorem exists_grouped [RegexCompiler] (t : Table) (now : Instant) (s : Select) : ∃ places : List Nat,
    places.Pairwise (· < ·) ∧ t.gathered (t.holds now s.condition) s = places.map t.rowAt ∧
    ∀ i, i ∈ places ↔ ∃ row, t.Matches now s.condition i row ∧
      (s.groupBy ≠ [] → ∀ j < i, ∀ row', t.Matches now s.condition j row' →
        t.groupKey s.groupBy row' ≠ t.groupKey s.groupBy row) := by
  have hmatching : (t.matching now s.condition).Pairwise (· < ·) := pairwise_matching s.condition
  by_cases hg : s.groupBy = []
  · refine ⟨t.matching now s.condition, hmatching, ?_, fun i => ?_⟩
    · rw [gathered, if_pos (by simp [hg]), filter_holds]
    · rw [mem_matching]
      constructor
      · exact fun h => ⟨_, h, fun hne => absurd hg hne⟩
      · rintro ⟨row, h, -⟩
        rw [h.rowAt_eq]
        exact h
  · obtain ⟨firsts, hsub, hmap, hmem⟩ := exists_firstPerKey (t.groupKey s.groupBy) t.rowAt [] hmatching
    refine ⟨firsts, hmatching.sublist hsub, ?_, fun i => ?_⟩
    · rw [gathered, if_neg (by simpa using hg), filter_holds, hmap]
    · rw [hmem i, mem_matching]
      constructor
      · rintro ⟨h, -, hfirst⟩
        refine ⟨_, h, fun _ j hlt row' hj => ?_⟩
        have hne := hfirst j (mem_matching.mpr (hj.rowAt_eq ▸ hj)) hlt
        rwa [hj.rowAt_eq] at hne
      · rintro ⟨row, h, hfirst⟩
        refine ⟨h.rowAt_eq ▸ h, by simp, fun j hj hlt => ?_⟩
        rw [h.rowAt_eq]
        exact hfirst hg j hlt _ (mem_matching.mp hj)

/-! ## Sorting -/

theorem pair_sublist_of_pairwise {places : List Nat} (hp : places.Pairwise (· < ·)) {i j : Nat} (hi : i ∈ places)
    (hj : j ∈ places) (hlt : i < j) : [i, j].Sublist places := by
  induction places with
  | nil => cases hi
  | cons a places ih =>
    obtain ⟨ha, hp⟩ := List.pairwise_cons.mp hp
    rcases List.mem_cons.mp hj with rfl | hj'
    · rcases List.mem_cons.mp hi with rfl | hi'
      · exact absurd hlt (Nat.lt_irrefl _)
      · exact absurd (ha i hi') (Nat.not_lt_of_lt hlt)
    · rcases List.mem_cons.mp hi with rfl | hi'
      · exact (List.singleton_sublist.mpr hj').cons_cons i
      · exact (ih hp hi' hj').cons a

/-- In a list without repetitions one of two elements comes first. -/
theorem not_pair_sublist_of_nodup {places : List Nat} (hn : places.Nodup) {i j : Nat}
    (h : [i, j].Sublist places) : ¬[j, i].Sublist places := by
  induction places with
  | nil => cases h
  | cons a places ih =>
    obtain ⟨ha, hn⟩ := List.nodup_cons.mp hn
    intro h'
    cases h with
    | cons _ h =>
      cases h' with
      | cons _ h' => exact ih hn h h'
      | cons_cons _ h' => exact ha (h.subset (by simp))
    | cons_cons _ h =>
      cases h' with
      | cons _ h' => exact ha (h'.subset (by simp))
      | cons_cons _ h' => exact ha (h'.subset (by simp))

/-- Sorting rows is sorting their places, and rows that no key tells apart stay in order. -/
theorem exists_sorted (t : Table) (keys : List OrderKey) {places : List Nat} (hp : places.Pairwise (· < ·)) :
    ∃ sorted : List Nat, sorted.Perm places ∧
      (if keys.isEmpty then places.map t.rowAt else t.sortRows keys (places.map t.rowAt)) = sorted.map t.rowAt ∧
      sorted.Pairwise fun i j => t.compareRows keys (t.rowAt i) (t.rowAt j) ≠ .gt ∧
        (t.compareRows keys (t.rowAt i) (t.rowAt j) = .eq → i < j) := by
  by_cases hk : keys = []
  · subst hk
    refine ⟨places, .refl _, rfl, hp.imp fun hlt => ⟨?_, fun _ => hlt⟩⟩
    intro h
    cases h
  · let before := fun i j => t.compareRows keys (t.rowAt i) (t.rowAt j) != .gt
    have hle : ∀ i j, before i j = (t.compareRows keys (t.rowAt i) (t.rowAt j)).isLE := by
      intro i j
      show (t.compareRows keys (t.rowAt i) (t.rowAt j) != .gt) = _
      cases t.compareRows keys (t.rowAt i) (t.rowAt j) <;> rfl
    have htrans : ∀ i j k, before i j = true → before j k = true → before i k = true := by
      intro i j k hij hjk
      rw [hle] at hij hjk ⊢
      exact Std.TransCmp.isLE_trans hij hjk
    have hswap : ∀ i j, t.compareRows keys (t.rowAt i) (t.rowAt j) =
        (t.compareRows keys (t.rowAt j) (t.rowAt i)).swap := fun _ _ => Std.OrientedCmp.eq_swap
    have htotal : ∀ i j, (before i j || before j i) = true := by
      intro i j
      rw [hle, hle, hswap i j]
      cases t.compareRows keys (t.rowAt j) (t.rowAt i) <;> rfl
    have hperm := List.mergeSort_perm places before
    refine ⟨places.mergeSort before, hperm, ?_, ?_⟩
    · rw [if_neg (by simpa using hk), sortRows]
      symm
      apply List.map_mergeSort
      intro i _ j _
      rfl
    have hsorted := List.pairwise_mergeSort htrans htotal places
    have hnodup : (places.mergeSort before).Nodup := hperm.nodup_iff.mpr (hp.imp Nat.ne_of_lt)
    rw [List.pairwise_iff_forall_sublist] at hsorted ⊢
    intro i j hij
    have hmem : ∀ k ∈ [i, j], k ∈ places := fun k hk => hperm.mem_iff.mp (hij.subset hk)
    refine ⟨by simpa [before] using hsorted hij, fun heq => ?_⟩
    rcases Nat.lt_trichotomy i j with hlt | rfl | hgt
    · exact hlt
    · exact absurd hij (not_pair_sublist_of_nodup hnodup hij)
    · -- a later row that no key tells apart from an earlier one was not moved before it
      have hji : before j i = true := by
        rw [hle, hswap, heq]
        rfl
      have hpair := pair_sublist_of_pairwise hp (hmem j (by simp)) (hmem i (by simp)) hgt
      exact absurd (List.pair_sublist_mergeSort htrans htotal hji hpair) (not_pair_sublist_of_nodup hnodup hij)

/-! ## Columns -/

theorem mem_columnsFor {p : Projection} {e : Column × Nat} (h : e ∈ t.columnsFor p) :
    t.columns[e.2]? = some e.1 :=
  List.mem_zipIdx_iff_getElem?.mp (List.mem_filter.mp h).1

theorem nameAt_columnsFor {p : Projection} {e : Column × Nat} (h : e ∈ t.columnsFor p) :
    t.nameAt e.2 = e.1.name := by
  simp [nameAt, mem_columnsFor h]

theorem columnsFor_all (t : Table) : t.columnsFor .all = t.columns.zipIdx := by
  simp [columnsFor, Projection.asksFor]

theorem columnNames_eq_map (t : Table) : t.columnNames = t.columns.zipIdx.map (·.1.name) := by
  rw [columnNames, ← List.zipIdx_map_fst 0 t.columns, List.map_map, List.zipIdx_map_fst]
  rfl

theorem nodup_columnsFor (hd : t.columnNames.Nodup) (p : Projection) :
    ((t.columnsFor p).map fun e => e.1.name).Nodup := by
  rw [columnNames_eq_map] at hd
  exact hd.sublist (List.filter_sublist.map _)

theorem range_eq_places (t : Table) : List.range t.columns.length = t.columns.zipIdx.map (·.2) := by
  rw [List.zipIdx_map_snd, List.range_eq_range']

/-- The places of named columns are found by going through all of them. -/
theorem projected_columns (t : Table) (names : List String) : t.projected (.columns names) =
    if (t.columnsFor (.columns names)).isEmpty then .error (t.invalidColumn (", ".intercalate names))
    else .ok ((t.columnsFor (.columns names)).map (·.2)) := by
  have hplaces : ((List.range t.columns.length).filter fun i =>
      t.columns[i]?.any fun c => names.any fun n => Text.sameName n c.name) =
      (t.columnsFor (.columns names)).map (·.2) := by
    rw [range_eq_places, List.filter_map, columnsFor]
    congr 1
    refine List.filter_congr fun e he => ?_
    simp [List.mem_zipIdx_iff_getElem?.mp he, Projection.asksFor]
  simp only [projected, hplaces, List.isEmpty_map]

theorem projected_eq {p : Projection} {places : List Nat} (h : t.projected p = .ok places) :
    places = (t.columnsFor p).map (·.2) := by
  cases p with
  | all =>
    cases h
    rw [range_eq_places, columnsFor_all]
  | columns names =>
    rw [projected_columns] at h
    split at h
    · cases h
    · cases h
      rfl

theorem ofPairs_of_nodup {pairs : List (String × Value)} (h : (pairs.map (·.1)).Nodup) :
    ResultRow.ofPairs pairs = pairs := by
  have hfold : ∀ (done more : List (String × Value)), ((done ++ more).map (·.1)).Nodup →
      more.foldl (fun row e => ResultRow.put row e.1 e.2) done = done ++ more := by
    intro done more
    induction more generalizing done with
    | nil => simp
    | cons e more ih =>
      obtain ⟨name, v⟩ := e
      intro hn
      have hnew : (done.any fun d => d.1 == name) = false := by
        rw [List.any_eq_false]
        intro d hd hde
        rw [List.map_append, List.nodup_append] at hn
        exact hn.2.2 d.1 (List.mem_map_of_mem hd) name (by simp) (by simpa using hde)
      have hput : ResultRow.put done name v = done ++ [(name, v)] := by
        unfold ResultRow.put
        rw [hnew]
        rfl
      rw [List.append_cons] at hn ⊢
      rw [List.foldl_cons]
      show more.foldl _ (ResultRow.put done name v) = _
      rw [hput]
      exact ih _ hn
  exact hfold [] pairs h

theorem shown_eq (hd : t.columnNames.Nodup) (p : Projection) (row : Row) :
    ResultRow.ofPairs (((t.columnsFor p).map (·.2)).map fun i => (t.nameAt i, row.cell (some i))) = t.shown p row := by
  have hpairs : (((t.columnsFor p).map (·.2)).map fun i => (t.nameAt i, row.cell (some i))) = t.shown p row := by
    rw [List.map_map, shown]
    refine List.map_congr_left fun e he => ?_
    simp [nameAt_columnsFor he]
  rw [hpairs]
  apply ofPairs_of_nodup
  rw [shown, List.map_map]
  exact nodup_columnsFor hd p

/-! ## Queries -/

theorem cut_map {α β : Type} (f : α → β) (l : Option Limit) (as : List α) :
    Limit.cut l (as.map f) = (Limit.cut l as).map f := by
  cases l with
  | none => rfl
  | some l => simp [Limit.cut, List.map_drop, List.map_take]

theorem mem_of_mem_cut {α : Type} {l : Option Limit} {as : List α} {a : α} (h : a ∈ Limit.cut l as) : a ∈ as := by
  cases l with
  | none => exact h
  | some l => exact List.mem_of_mem_drop (List.mem_of_mem_take h)

/-- The rows that a query is about are at places that it selects. -/
theorem exists_selectRows [RegexCompiler] (t : Table) (now : Instant) (s : Select) : ∃ places,
    t.Selects now s places ∧ t.selectRows (t.holds now s.condition) s = (Limit.cut s.limit places).map t.rowAt := by
  obtain ⟨grouped, hasc, hrows, hmem⟩ := t.exists_grouped now s
  obtain ⟨sorted, hperm, hsorted, hpairwise⟩ := t.exists_sorted s.orderBy hasc
  refine ⟨sorted, ⟨hperm.nodup_iff.mpr (hasc.imp Nat.ne_of_lt), fun i => ?_, ?_⟩, ?_⟩
  · rw [hperm.mem_iff]
    exact hmem i
  · refine hpairwise.imp fun hij row row' hi hj => ?_
    simpa [rowAt, hi, hj] using hij
  · have hlimit : t.selectRows (t.holds now s.condition) s = Limit.cut s.limit (sorted.map t.rowAt) := by
      rw [← hsorted, ← hrows]
      unfold selectRows
      cases s.limit <;> rfl
    rw [hlimit, cut_map]

/-- A successful query on a table of distinct column names gives the rows at the selected
    places within its limit, in their order, with the columns asked for and their values. -/
theorem exists_selects [RegexCompiler] {r : QueryResult} (hd : t.columnNames.Nodup) (h : t.select now s = .ok r) :
    ∃ places, t.Selects now s places ∧ r.columns = (t.columnsFor s.columns).map (·.1.name) ∧
      List.Forall₂ (fun i shown => ∃ row, t.rows[i]? = some row ∧ shown = t.shown s.columns row)
        (Limit.cut s.limit places) r.rows := by
  obtain ⟨columns, hcolumns, h⟩ := bind_eq_ok.mp h
  obtain ⟨p, hp, h⟩ := bind_eq_ok.mp h
  cases h
  cases projected_eq hcolumns
  cases holds_of_filter hp
  obtain ⟨places, hselects, hrows⟩ := t.exists_selectRows now s
  refine ⟨places, hselects, ?_, ?_⟩
  · rw [List.map_map]
    exact List.map_congr_left fun e he => nameAt_columnsFor he
  · rw [hrows, List.forall₂_map_right_iff, List.forall₂_map_right_iff, List.forall₂_same]
    intro i hi
    obtain ⟨row, hrow, -⟩ := (hselects.mem_iff i).mp (mem_of_mem_cut hi)
    refine ⟨row, hrow.1, ?_⟩
    rw [hrow.rowAt_eq]
    exact shown_eq hd s.columns row

/-- A query with every clause: of each group of texts the first row, greater numbers first,
    without the first row of these. Of the rows that tie the one stored first comes first. -/
theorem exists_selects_grouped :
    let t : Table := { name := "t", columns := [{ name := "k", type := .varchar }, { name := "n", type := .int }]
                       rows := [[.text "a", .integer 1], [.text "b", .null], [.text "a", .integer 3],
                         [.null, .integer 2], [.text "c", .integer 1], [.text "d", .integer 0]] }
    let s : Select := { columns := .columns ["N", "missing", "k"], table := "t",
                        condition := some ⟨.compare "k" .neq (.quoted "D"), []⟩, groupBy := ["k"],
                        orderBy := [⟨"n", false⟩, ⟨"missing", true⟩], limit := some ⟨1, 2⟩ }
    let r : QueryResult := { columns := ["k", "n"]
                             rows := [[("k", .text "a"), ("n", .integer 1)], [("k", .text "c"), ("n", .integer 1)]] }
    t.columnNames.Nodup ∧ t.select ⟨0, 0⟩ s = .ok r ∧
    ∃ places, t.Selects ⟨0, 0⟩ s places ∧ r.columns = (t.columnsFor s.columns).map (·.1.name) ∧
      List.Forall₂ (fun i shown => ∃ row, t.rows[i]? = some row ∧ shown = t.shown s.columns row)
        (Limit.cut s.limit places) r.rows := by
  intro t s r
  have hd : t.columnNames.Nodup := by decide
  have hgrouped : firstPerKey (t.groupKey s.groupBy) [] (t.rows.filter (t.holds ⟨0, 0⟩ s.condition)) =
      [[.text "a", .integer 1], [.text "b", .null], [.null, .integer 2], [.text "c", .integer 1]] := by
    decide +kernel
  have hsorted : t.sortRows s.orderBy [[.text "a", .integer 1], [.text "b", .null], [.null, .integer 2],
      [.text "c", .integer 1]] =
      [[.null, .integer 2], [.text "a", .integer 1], [.text "c", .integer 1], [.text "b", .null]] := by
    have hab : t.compareRows s.orderBy [.text "a", .integer 1] [.text "b", .null] = .lt := by decide +kernel
    have hnc : t.compareRows s.orderBy [.null, .integer 2] [.text "c", .integer 1] = .lt := by decide +kernel
    have han : t.compareRows s.orderBy [.text "a", .integer 1] [.null, .integer 2] = .gt := by decide +kernel
    have hac : t.compareRows s.orderBy [.text "a", .integer 1] [.text "c", .integer 1] = .eq := by decide +kernel
    have hbc : t.compareRows s.orderBy [.text "b", .null] [.text "c", .integer 1] = .gt := by decide +kernel
    generalize s.orderBy = keys at hab hnc han hac hbc ⊢
    simp [sortRows, List.mergeSort, hab, hnc, han, hac, hbc]
  have hr : t.select ⟨0, 0⟩ s = .ok r := by
    refine bind_eq_ok.mpr ⟨[0, 1], by rfl, bind_eq_ok.mpr ⟨t.holds ⟨0, 0⟩ s.condition, by rfl, ?_⟩⟩
    have hrows : t.selectRows (t.holds ⟨0, 0⟩ s.condition) s = [[.text "a", .integer 1], [.text "c", .integer 1]] := by
      show ((t.sortRows s.orderBy (firstPerKey (t.groupKey s.groupBy) []
        (t.rows.filter (t.holds ⟨0, 0⟩ s.condition)))).drop 1).take 2 = _
      rw [hgrouped, hsorted]
      rfl
    rw [hrows]
    rfl
  exact ⟨hd, hr, exists_selects hd hr⟩

end Table

end PocketSql
