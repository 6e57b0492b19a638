/-
  PocketSql.Proofs.Query.Order — the order of rows is a total preorder.

  Values are sorted by four keys, one after the other: NULL, numbers and other texts
  apart, then the place of a number, then the text in lower case, then the text itself
  (`sortOrder_eq`). Orders by keys are transitive and total, and so is one such order
  after another, in either direction. Values tie where they are the same number, the same
  other text or both NULL, and rows where they do in every key (`order_laws`).
-/

import PocketSql.Query.Select

namespace PocketSql

open Std (TransCmp OrientedCmp)

/-! ## Texts and values -/

/-- The code points of a text. -/
def Text.codes (s : String) : List Nat :=
  s.toList.map Char.toNat

theorem Text.compareChars_eq (as bs : List Char) :
    compareChars as bs = compare (as.map Char.toNat) (bs.map Char.toNat) := by
  induction as generalizing bs with
  | nil => cases bs <;> rfl
  | cons a as ih =>
    cases bs with
    | nil => rfl
    | cons b bs =>
      rw [compareChars, ih, List.compare_eq_compareLex, List.map_cons, List.map_cons, List.compareLex_cons_cons]

theorem Text.compareText_eq (a b : String) : compareText a b = compare (codes a) (codes b) :=
  compareChars_eq a.toList b.toList

theorem Text.codes_inj {a b : String} : codes a = codes b ↔ a = b := by
  rw [codes, codes, List.map_inj_right fun c d => Char.toNat_inj.mp, String.toList_inj]

/-- Only the same text ties with a text. -/
theorem Text.compareText_eq_eq {a b : String} : compareText a b = .eq ↔ a = b := by
  rw [compareText_eq, Std.compare_eq_iff_eq, codes_inj]

theorem Text.compareText_swap (a b : String) : compareText a b = (compareText b a).swap := by
  rw [compareText_eq, compareText_eq]
  exact OrientedCmp.eq_swap

/-- The order of all words tells any two words apart. -/
theorem Binary64.totalKey_inj {x y : Binary64} : x.totalKey = y.totalKey ↔ x = y := by
  refine ⟨fun h => ?_, fun h => h ▸ rfl⟩
  have hx := x.bits.toNat_lt
  have hy := y.bits.toNat_lt
  have hnegative : ∀ x : Binary64, x.negative = true ↔ signWeight ≤ x.bits.toNat := fun _ => decide_eq_true_iff
  have hbits : x.bits.toNat = y.bits.toNat := by
    simp only [totalKey, hnegative, magnitude, signWeight] at h
    split at h <;> split at h <;> omega
  obtain ⟨bits⟩ := x
  exact congrArg mk (UInt64.toNat_inj.mp hbits)

namespace Value

/-- NULL comes before numbers, numbers come before other texts. -/
def rank (v : Value) : Nat :=
  if v.isNull then 0 else if v.number?.isSome then 1 else 2

/-- The place of a number among the numbers. -/
def place (v : Value) : Int :=
  (v.number?.map Binary64.totalKey).getD 0

/-- The text by which a value that is no number is sorted, in lower case. -/
def lowerCodes (v : Value) : List Nat :=
  if v.number?.isSome then [] else Text.codes v.lowerText

/-- The text by which a value that is no number is sorted in the end. -/
def textCodes (v : Value) : List Nat :=
  if v.number?.isSome then [] else Text.codes (v.asText?.getD "")

theorem sortOrder_of_ne_null {a b : Value} (ha : a ≠ .null) (hb : b ≠ .null) : a.sortOrder b =
    match a.number?, b.number? with
    | some x, some y => x.compareTotal y
    | some _, none => .lt
    | none, some _ => .gt
    | none, none => (Text.compareText a.lowerText b.lowerText).then
        (Text.compareText (a.asText?.getD "") (b.asText?.getD "")) := by
  unfold sortOrder
  split
  · exact absurd rfl ha
  · exact absurd rfl ha
  · exact absurd rfl hb
  · rfl

theorem isNull_of_ne_null {v : Value} (h : v ≠ .null) : v.isNull = false := by
  cases v with
  | null => exact absurd rfl h
  | _ => rfl

theorem rank_of_ne_null {v : Value} (h : v ≠ .null) : v.rank = if v.number?.isSome then 1 else 2 := by
  rw [rank, isNull_of_ne_null h]
  rfl

theorem rank_pos {v : Value} (h : v ≠ .null) : 0 < v.rank := by
  rw [rank_of_ne_null h]
  split <;> omega

/-- Values are sorted by four keys. -/
theorem sortOrder_eq (a b : Value) : a.sortOrder b =
    compareLex (compareOn rank) (compareLex (compareOn place) (compareLex (compareOn lowerCodes)
      (compareOn textCodes))) a b := by
  simp only [compareLex, compareOn]
  by_cases ha : a = .null
  · by_cases hb : b = .null
    · subst ha hb
      rfl
    · subst ha
      have hrank : compare (rank .null) b.rank = .lt := Nat.compare_eq_lt.mpr (rank_pos hb)
      have horder : sortOrder .null b = .lt := by
        cases b with
        | null => exact absurd rfl hb
        | _ => rfl
      rw [horder, hrank]
      rfl
  · by_cases hb : b = .null
    · subst hb
      have hrank : compare a.rank (rank .null) = .gt := Nat.compare_eq_gt.mpr (rank_pos ha)
      have horder : sortOrder a .null = .gt := by
        cases a with
        | null => exact absurd rfl ha
        | _ => rfl
      rw [horder, hrank]
      rfl
    · rw [sortOrder_of_ne_null ha hb, rank_of_ne_null ha, rank_of_ne_null hb]
      cases hx : a.number? with
      | none =>
        cases hy : b.number? with
        | none => simp [place, lowerCodes, textCodes, hx, hy, Text.compareText_eq]
        | some y => rfl
      | some x =>
        cases hy : b.number? with
        | none => rfl
        | some y => simp [place, lowerCodes, textCodes, hx, hy, Binary64.compareTotal]

instance : TransCmp sortOrder := by
  have h : sortOrder = compareLex (compareOn rank) (compareLex (compareOn place) (compareLex (compareOn lowerCodes)
      (compareOn textCodes))) := by
    funext a b
    exact sortOrder_eq a b
  rw [h]
  infer_instance

end Value

/-! ## Rows -/

section

variable {α β : Type} {cmp : α → α → Ordering} [TransCmp cmp]

theorem transCmp_comap (f : β → α) : TransCmp fun a b => cmp (f a) (f b) where
  eq_swap := OrientedCmp.eq_swap
  isLE_trans := TransCmp.isLE_trans

theorem transCmp_directed (ascending : Bool) : TransCmp fun a b => directed ascending (cmp a b) := by
  cases ascending with
  | true => exact inferInstanceAs (TransCmp cmp)
  | false =>
    have h : (fun a b => directed false (cmp a b)) = fun a b => cmp b a := by
      funext a b
      exact OrientedCmp.eq_swap.symm
    rw [h]
    exact TransCmp.opposite

end

namespace Table

instance transCmp_compareRows (t : Table) (keys : List OrderKey) : TransCmp (t.compareRows keys) := by
  induction keys with
  | nil => exact { eq_swap := rfl, isLE_trans := fun _ _ => rfl }
  | cons k keys ih =>
    have hread : TransCmp fun a b : Row => (t.read a k.column).sortOrder (t.read b k.column) :=
      transCmp_comap fun row => t.read row k.column
    have hkey : TransCmp fun a b : Row => directed k.ascending ((t.read a k.column).sortOrder (t.read b k.column)) :=
      transCmp_directed k.ascending
    exact inferInstanceAs (TransCmp (compareLex
      (fun a b : Row => directed k.ascending ((t.read a k.column).sortOrder (t.read b k.column))) (t.compareRows keys)))

end Table

/-! ## Ties -/

theorem Value.asText?_of_ne_null {v : Value} (h : v ≠ .null) : v.asText? = some v.display := by
  cases v with
  | null => exact absurd rfl h
  | _ => rfl

/-- Values tie where they are the same number, the same text that spells none, or NULL. -/
theorem Value.sortOrder_eq_eq {a b : Value} : a.sortOrder b = .eq ↔
    a.number? = b.number? ∧ (a.number? = none → a.asText? = b.asText?) := by
  by_cases ha : a = .null
  · subst ha
    cases b <;> simp [sortOrder, number?, asNumber?, asText?]
  by_cases hb : b = .null
  · subst hb
    cases a <;> simp [sortOrder, number?, asNumber?, asText?]
  rw [sortOrder_of_ne_null ha hb]
  cases hx : a.number? with
  | none =>
    cases hy : b.number? with
    | none =>
      rw [Ordering.then_eq_eq, Text.compareText_eq_eq, Text.compareText_eq_eq, lowerText, lowerText,
        asText?_of_ne_null ha, asText?_of_ne_null hb]
      simpa using congrArg Text.lower
    | some y => simp
  | some x =>
    cases hy : b.number? with
    | none => simp
    | some y =>
      show compare x.totalKey y.totalKey = .eq ↔ _
      rw [Std.compare_eq_iff_eq, Binary64.totalKey_inj]
      simp

namespace Table

/-- Rows tie where they do in every key. -/
theorem compareRows_eq_eq {t : Table} {keys : List OrderKey} {a b : Row} : t.compareRows keys a b = .eq ↔
    ∀ k ∈ keys, (t.read a k.column).sortOrder (t.read b k.column) = .eq := by
  induction keys with
  | nil => simp [compareRows]
  | cons k keys ih =>
    have hdirected : ∀ o, directed k.ascending o = .eq ↔ o = .eq := by
      intro o
      cases k.ascending <;> cases o <;> decide
    rw [List.forall_mem_cons, ← ih, ← hdirected ((t.read a k.column).sortOrder _), ← Ordering.then_eq_eq]
    rfl

end Table

/-! ## The laws -/

section

variable {α : Type} {cmp : α → α → Ordering} [TransCmp cmp]

theorem ne_gt_trans {a b c : α} (hab : cmp a b ≠ .gt) (hbc : cmp b c ≠ .gt) : cmp a c ≠ .gt :=
  Ordering.isLE_iff_ne_gt.mp
    (TransCmp.isLE_trans (Ordering.isLE_iff_ne_gt.mpr hab) (Ordering.isLE_iff_ne_gt.mpr hbc))

end

/-- Both the order of values and that of rows, under any keys, are total preorders: the
    other way round they give the reverse, and what is not above a second one is not above
    a third one that the second is not above. Only what they read alike ties. -/
theorem order_laws :
    (∀ a b : Value, b.sortOrder a = (a.sortOrder b).swap) ∧
    (∀ a b c : Value, a.sortOrder b ≠ .gt → b.sortOrder c ≠ .gt → a.sortOrder c ≠ .gt) ∧
    (∀ a b : Value, a.sortOrder b = .eq ↔ a.number? = b.number? ∧ (a.number? = none → a.asText? = b.asText?)) ∧
    ∀ (t : Table) (keys : List OrderKey),
      (∀ a b : Row, t.compareRows keys b a = (t.compareRows keys a b).swap) ∧
      (∀ a b c : Row, t.compareRows keys a b ≠ .gt → t.compareRows keys b c ≠ .gt → t.compareRows keys a c ≠ .gt) ∧
      ∀ a b : Row, t.compareRows keys a b = .eq ↔
        ∀ k ∈ keys, (t.read a k.column).sortOrder (t.read b k.column) = .eq :=
  ⟨fun _ _ => OrientedCmp.eq_swap, fun _ _ _ => ne_gt_trans, fun _ _ => Value.sortOrder_eq_eq, fun _ _ =>
    ⟨fun _ _ => OrientedCmp.eq_swap, fun _ _ _ => ne_gt_trans, fun _ _ => Table.compareRows_eq_eq⟩⟩

/-- Numbers and other texts in one column. Comparing each two of them in their own way would
    give no order: 2 is below 10, and as texts "10" is below "1a" and that below "2". -/
theorem order_laws_mixed :
    let t : Table := { name := "t", columns := [{ name := "c", type := .varchar }, { name := "b", type := .boolean }] }
    let keys : List OrderKey := [⟨"C", false⟩, ⟨"missing", true⟩, ⟨"b", true⟩]
    let two : Value := .text "2"
    let ten : Value := .text "10"
    let other : Value := .text "1a"
    (two.sortOrder ten = .lt ∧ ten.sortOrder other = .lt ∧ two.sortOrder other ≠ .gt ∧ other.sortOrder two = .gt) ∧
      t.compareRows keys [other, .null] [ten, .boolean true] = .lt ∧
      t.compareRows keys [ten, .boolean true] [.text " 10.0", .integer 1] = .eq ∧
      t.compareRows keys [other, .null] [.text " 10.0", .integer 1] ≠ .gt := by
  intro t keys two ten other
  have hlow : two.sortOrder ten = .lt := by decide +kernel
  have hhigh : ten.sortOrder other = .lt := by decide +kernel
  have hfirst : t.compareRows keys [other, .null] [ten, .boolean true] = .lt := by decide +kernel
  have hties : t.compareRows keys [ten, .boolean true] [.text " 10.0", .integer 1] = .eq := by decide +kernel
  obtain ⟨-, htrans, -, hrows⟩ := order_laws
  refine ⟨⟨hlow, hhigh, htrans two ten other (by simp [hlow]) (by simp [hhigh]), by decide +kernel⟩, hfirst, hties, ?_⟩
  exact (hrows t keys).2.1 _ [ten, .boolean true] _ (by simp [hfirst]) (by simp [hties])

end PocketSql
