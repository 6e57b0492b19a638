/-
  PocketSql.Proofs.Execute.Identity — what an INSERT puts into identity columns.

  Every row that is built has the next integer in each identity column, whatever literals
  are given (`identity_of_buildRow`), and one that cannot be built is missing just that:
  some identity column holds the greatest integer already (`not_hasRoom_of_buildRow`). So a table
  takes rows as long as it has room (`insertRows_of_error`).
-/

import PocketSql.Proofs.Execute.Cell

namespace PocketSql.Table

variable {t : Table} {now : Instant} {i : Nat} {c : Column} {targets : List Nat} {literals : List Literal}
  {row : Row} {rows : List (List Literal)} {f : Fault}

/-! ## The next integer -/

/-- The greatest integer in an identity column, and 0 before the first one. -/
def reached (t : Table) (i : Nat) : Int :=
  (t.greatest? i).getD 0

theorem nextIdentity_eq (t : Table) (i : Nat) : t.nextIdentity i =
    if Numeral.fitsInt64 (t.reached i + 1) then .ok (Int64.ofInt (t.reached i + 1))
    else .error (.autoIncrementOverflow t.name ((t.columns[i]?.map (·.name)).getD "")) := by
  unfold nextIdentity reached
  cases t.greatest? i with
  | none =>
    rw [if_pos (by decide)]
    rfl
  | some n => rfl

theorem toInt_of_nextIdentity {n : Int64} (h : t.nextIdentity i = .ok n) : n.toInt = t.reached i + 1 := by
  rw [nextIdentity_eq] at h
  split at h
  · rename_i hfits
    cases h
    have hmin : Int64.minValue.toInt = -2 ^ 63 := by decide
    have hmax : Int64.maxValue.toInt = 2 ^ 63 - 1 := by decide
    simp only [Numeral.fitsInt64, Bool.and_eq_true, decide_eq_true_eq, hmin, hmax] at hfits
    exact Int64.toInt_ofInt_of_le hfits.1 (by omega)
  · cases h

/-- Only a column that holds the greatest integer has no next one. -/
theorem nextIdentity_eq_error_iff : t.nextIdentity i = .error f ↔
    t.greatest? i = some Int64.maxValue.toInt ∧
      f = .autoIncrementOverflow t.name ((t.columns[i]?.map (·.name)).getD "") := by
  constructor
  · intro h
    have hfull : t.greatest? i = some Int64.maxValue.toInt := by
      by_contra hne
      obtain ⟨n, hn⟩ := exists_nextIdentity hne
      rw [hn] at h
      cases h
    rw [nextIdentity_eq] at h
    split at h
    · cases h
    · cases h
      exact ⟨hfull, rfl⟩
  · rintro ⟨hfull, rfl⟩
    rw [nextIdentity_eq, if_neg]
    rw [reached, hfull]
    decide

/-! ## Rows that are built -/

theorem length_of_buildRow (h : t.buildRow now targets literals = .ok row) : row.length = t.columns.length := by
  obtain ⟨given, -, h⟩ := bind_eq_ok.mp h
  simpa using (congrArg List.length (map_of_mapM h)).symm

/-- What is given for an identity column is its next integer. -/
theorem identity_of_givenValues {pairs : List (Nat × Literal)} {given : List (Nat × Value)}
    (h : t.givenValues now pairs = .ok given) (hc : t.columns[i]? = some c) (hi : c.isIdentity = true) {v : Value}
    (hv : (i, v) ∈ given) : Value.integer <$> t.nextIdentity i = .ok v := by
  refine foldlM_keeps (P := fun given => ∀ v, (i, v) ∈ given → Value.integer <$> t.nextIdentity i = .ok v) ?_
    (by simp) h v hv
  rintro ⟨j, l⟩ - given given' hgiven hstep v hv
  dsimp only at hstep
  split at hstep
  · rename_i d hd
    obtain ⟨w, hw, hstep⟩ := bind_eq_ok.mp hstep
    cases hstep
    rcases List.mem_cons.mp hv with he | hv
    · cases he
      obtain rfl : c = d := Option.some.inj (hc.symm.trans hd)
      rwa [givenValue, if_pos hi] at hw
    · exact hgiven v hv
  · cases hstep
    exact hgiven v hv

theorem identity_of_buildRow (h : t.buildRow now targets literals = .ok row) (hc : t.columns[i]? = some c)
    (hi : c.isIdentity = true) : ∃ n, t.nextIdentity i = .ok n ∧ row[i]? = some (.integer n) := by
  obtain ⟨given, hgiven, hrow⟩ := bind_eq_ok.mp h
  have hcell := congrArg (·[i]?) (map_of_mapM hrow)
  simp only [List.getElem?_map, List.getElem?_zipIdx, hc, Option.map_some, Nat.zero_add] at hcell
  obtain ⟨v, hv, hvalue⟩ := Option.map_eq_some_iff.mp hcell.symm
  -- Given or not, the value is the next integer.
  have hnext : Value.integer <$> t.nextIdentity i = .ok v := by
    split at hvalue
    · rename_i w hw
      cases hvalue
      obtain ⟨before, after, he, -⟩ := List.lookup_eq_some_iff.mp hw
      exact identity_of_givenValues hgiven hc hi (by simp [he])
    · rwa [missingValue, if_pos hi, eq_comm] at hvalue
  obtain ⟨n, hn, rfl⟩ := map_eq_ok.mp hnext
  exact ⟨n, hn, hv⟩

/-- A row cannot be built only for want of a next integer. -/
theorem fault_of_buildRow (h : t.buildRow now targets literals = .error f) :
    ∃ i c, t.columns[i]? = some c ∧ c.isIdentity = true ∧ t.nextIdentity i = .error f := by
  -- The fault is met at a literal that is given, or at a column that is filled.
  rcases bind_eq_error.mp h with hgiven | ⟨given, -, hrow⟩
  · obtain ⟨⟨i, l⟩, -, given, hstep⟩ := error_of_foldlM hgiven
    dsimp only at hstep
    split at hstep
    · rename_i c hc
      rcases bind_eq_error.mp hstep with hv | ⟨v, -, hstep⟩
      · unfold givenValue at hv
        split at hv
        · rename_i hi
          exact ⟨i, c, hc, hi, map_eq_error.mp hv⟩
        · cases hv
      · cases hstep
    · cases hstep
  · obtain ⟨⟨c, i⟩, hc, hstep⟩ := error_of_mapM hrow
    dsimp only at hstep
    split at hstep
    · cases hstep
    · unfold missingValue at hstep
      split at hstep
      · rename_i hi
        exact ⟨i, c, List.mem_zipIdx_iff_getElem?.mp hc, hi, map_eq_error.mp hstep⟩
      · cases hstep

theorem hasRoom_of_buildRow (h : t.buildRow now targets literals = .ok row) : t.HasRoom := by
  rintro ⟨c, i⟩ hc hi hfull
  obtain ⟨n, hn, -⟩ := identity_of_buildRow h (List.mem_zipIdx_iff_getElem?.mp hc) hi
  rw [nextIdentity_eq_error_iff.mpr ⟨hfull, rfl⟩] at hn
  cases hn

theorem not_hasRoom_of_buildRow (h : t.buildRow now targets literals = .error f) :
    ¬t.HasRoom ∧ ∃ column, f = .autoIncrementOverflow t.name column := by
  obtain ⟨i, c, hc, hi, hn⟩ := fault_of_buildRow h
  obtain ⟨hfull, hf⟩ := nextIdentity_eq_error_iff.mp hn
  exact ⟨fun hroom => hroom (c, i) (List.mem_zipIdx_iff_getElem?.mpr hc) hi hfull, _, hf⟩

/-! ## Rows one after the other -/

/-- The table with a row more. -/
def withRow (t : Table) (row : Row) : Table :=
  { t with rows := t.rows ++ [row] }

theorem eq_withRow_of_pushRow {t' : Table} (h : t.pushRow row = .ok t') : t' = t.withRow row := by
  unfold pushRow at h
  split at h
  · cases h
    rfl
  · cases h

theorem insertRows_cons (h : t.buildRow now targets literals = .ok row) :
    insertRows now targets t (literals :: rows) = insertRows now targets (t.withRow row) rows := by
  have hfits : t.fits row = true := by simp [fits, length_of_buildRow h]
  have hpush : (do t.pushRow (← t.buildRow now targets literals)) = .ok (t.withRow row) :=
    bind_eq_ok.mpr ⟨row, h, by rw [pushRow, if_pos hfits]; rfl⟩
  simp only [insertRows, hpush]

theorem insertRows_cons_error (h : t.buildRow now targets literals = .error f) :
    insertRows now targets t (literals :: rows) = (t, .error f) := by
  have hpush : (do t.pushRow (← t.buildRow now targets literals)) = .error f := by
    rw [h]
    rfl
  simp only [insertRows, hpush]

/-- Rows that are not all stored: the first ones are, up to one that finds an identity
    column at the greatest integer. -/
theorem insertRows_of_error (h : (insertRows now targets t rows).2 = .error f) :
    ∃ stored : List Row, (insertRows now targets t rows).1 = { t with rows := t.rows ++ stored } ∧
      stored.length < rows.length ∧ (stored = [] ↔ ¬t.HasRoom) ∧ ¬(insertRows now targets t rows).1.HasRoom ∧
      insertRows now targets t (rows.take stored.length) = ((insertRows now targets t rows).1, .ok ()) ∧
      ∃ column, f = .autoIncrementOverflow t.name column := by
  induction rows generalizing t with
  | nil => cases h
  | cons literals rows ih =>
    cases hbuild : t.buildRow now targets literals with
    | error e =>
      rw [insertRows_cons_error hbuild] at h ⊢
      cases h
      obtain ⟨hfull, hf⟩ := not_hasRoom_of_buildRow hbuild
      exact ⟨[], by simp, by simp, by simp [hfull], hfull, rfl, hf⟩
    | ok row =>
      rw [insertRows_cons hbuild] at h ⊢
      -- There was room for this row, whatever the ones after it found.
      obtain ⟨stored, ht, hlength, -, hfull, htake, hf⟩ := ih h
      refine ⟨row :: stored, ?_, by simpa using hlength, ?_, hfull, ?_, hf⟩
      · rw [ht]
        simp [withRow]
      · simp [hasRoom_of_buildRow hbuild]
      · rw [List.length_cons, List.take_succ_cons, insertRows_cons hbuild]
        exact htake

end PocketSql.Table
