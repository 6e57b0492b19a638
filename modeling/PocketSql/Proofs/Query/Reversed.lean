/-
  PocketSql.Proofs.Query.Reversed — opposite directions give opposite results.

  With every direction turned, rows compare the other way round (`compareRows_reversed`).
  Sorting leaves no row before one that precedes it, and where no two rows tie there is
  only one such arrangement of them. So the rows sorted the other way are the sorted rows
  from the last to the first (`sortRows_reversed`), and so is the result of a query without
  a limit (`select_reversed`).
-/

import Mathlib.Data.List.Pairwise
import PocketSql.Proofs.Query.Filtered
import PocketSql.Proofs.Query.Order

namespace PocketSql

open Std (OrientedCmp)

/-- The same key in the other direction. -/
def OrderKey.reversed (k : OrderKey) : OrderKey :=
  { k with ascending := !k.ascending }

/-- The query with every key in the other direction. -/
def Select.reversed (s : Select) : Select :=
  { s with orderBy := s.orderBy.map OrderKey.reversed }

namespace Table

variable {t : Table} {now : Instant} {s : Select} {keys : List OrderKey} {rows : List Row}

/-! ## Sorting -/

theorem compareRows_reversed (t : Table) (keys : List OrderKey) (a b : Row) :
    t.compareRows (keys.map OrderKey.reversed) a b = (t.compareRows keys a b).swap := by
  induction keys with
  | nil => rfl
  | cons k keys ih =>
    have hdirected : ∀ o, directed (!k.ascending) o = (directed k.ascending o).swap := by
      intro o
      cases k.ascending <;> cases o <;> rfl
    show (directed (!k.ascending) _).then (t.compareRows (keys.map OrderKey.reversed) a b) = (Ordering.then _ _).swap
    rw [hdirected, ih, Ordering.swap_then]
    rfl

theorem compareRows_swap (t : Table) (keys : List OrderKey) (a b : Row) :
    t.compareRows keys b a = (t.compareRows keys a b).swap :=
  OrientedCmp.eq_swap

/-- No row comes before one that precedes it. -/
theorem pairwise_sortRows (t : Table) (keys : List OrderKey) (rows : List Row) :
    (t.sortRows keys rows).Pairwise fun a b => t.compareRows keys a b ≠ .gt := by
  have htrans : ∀ a b c, (t.compareRows keys a b != .gt) = true → (t.compareRows keys b c != .gt) = true →
      (t.compareRows keys a c != .gt) = true := by
    intro a b c hab hbc
    simpa using ne_gt_trans (by simpa using hab) (by simpa using hbc)
  have htotal : ∀ a b, ((t.compareRows keys a b != .gt) || (t.compareRows keys b a != .gt)) = true := by
    intro a b
    rw [compareRows_swap t keys a b]
    cases t.compareRows keys a b <;> rfl
  have hsorted := List.pairwise_mergeSort htrans htotal rows
  exact hsorted.imp fun h => by simpa using h

theorem sortRows_nil (rows : List Row) : t.sortRows [] rows = rows :=
  List.mergeSort_of_pairwise (List.pairwise_of_forall fun _ _ => rfl)

/-- Where no two rows tie, sorting the other way gives the sorted rows backwards. -/
theorem sortRows_reversed (h : rows.Pairwise fun a b => t.compareRows keys a b ≠ .eq) :
    t.sortRows (keys.map OrderKey.reversed) rows = (t.sortRows keys rows).reverse := by
  have hsymm : Std.Symm fun a b => t.compareRows keys a b ≠ .eq :=
    ⟨fun a b hab => by rwa [compareRows_swap, ne_eq, Ordering.swap_eq_eq]⟩
  -- Both lists are arranged so that no row is below one that precedes it.
  have hdown : (t.sortRows (keys.map OrderKey.reversed) rows).Pairwise fun a b => t.compareRows keys a b ≠ .lt := by
    refine (pairwise_sortRows t (keys.map OrderKey.reversed) rows).imp fun hab => ?_
    rwa [compareRows_reversed, ne_eq, Ordering.swap_eq_gt] at hab
  have hback : (t.sortRows keys rows).reverse.Pairwise fun a b => t.compareRows keys a b ≠ .lt := by
    refine List.pairwise_reverse.mpr ((pairwise_sortRows t keys rows).imp fun hab => ?_)
    rwa [compareRows_swap, ne_eq, Ordering.swap_eq_lt]
  have hperm : (t.sortRows (keys.map OrderKey.reversed) rows).Perm rows := List.mergeSort_perm _ _
  have hperm' : (t.sortRows keys rows).reverse.Perm rows := (List.reverse_perm _).trans (List.mergeSort_perm _ _)
  refine List.Perm.eq_of_pairwise (fun a b ha hb hab hba => ?_) hdown hback (hperm.trans hperm'.symm)
  by_contra hne
  have hapart := h.forall (hperm.mem_iff.mp ha) (hperm'.mem_iff.mp hb) hne
  rw [compareRows_swap t keys a b, ne_eq, Ordering.swap_eq_lt] at hba
  cases hcmp : t.compareRows keys a b with
  | lt => exact hab hcmp
  | eq => exact hapart hcmp
  | gt => exact hba hcmp

/-! ## Queries -/

theorem selectRows_of_no_limit {p : Row → Bool} (hlimit : s.limit = none) :
    t.selectRows p s = t.sortRows s.orderBy (t.gathered p s) := by
  have hrows : t.selectRows p s =
      if s.orderBy.isEmpty then t.gathered p s else t.sortRows s.orderBy (t.gathered p s) := by
    unfold selectRows
    rw [hlimit]
  by_cases hkeys : s.orderBy.isEmpty = true
  · rw [hrows, if_pos hkeys, List.isEmpty_iff.mp hkeys, sortRows_nil]
  · rw [hrows, if_neg hkeys]

/-- Where no two of the rows that a query sorts tie, the query with all directions turned
    gives the same result with its rows backwards, or fails in the same way. -/
theorem select_reversed [RegexCompiler] (hlimit : s.limit = none)
    (hapart : (t.gathered (t.holds now s.condition) s).Pairwise fun a b => t.compareRows s.orderBy a b ≠ .eq) :
    t.select now s.reversed = (t.select now s).map fun r => { r with rows := r.rows.reverse } := by
  unfold select
  show t.projected s.columns >>= _ = (t.projected s.columns >>= _).map _
  cases t.projected s.columns with
  | error f => rfl
  | ok places =>
    show t.filter now s.condition >>= _ = (t.filter now s.condition >>= _).map _
    cases hp : t.filter now s.condition with
    | error f => rfl
    | ok p =>
      have hrows : t.selectRows p s.reversed = (t.selectRows p s).reverse := by
        rw [selectRows_of_no_limit hlimit, selectRows_of_no_limit (s := s.reversed) hlimit]
        exact sortRows_reversed (holds_of_filter hp ▸ hapart)
      show Except.ok _ = Except.ok _
      rw [hrows, List.map_reverse]

/-- A column with NULL, numbers and other texts, equal numbers told apart by a second key,
    and a group of which only the first row is sorted. -/
theorem select_reversed_mixed :
    let t : Table := { name := "t", columns := [{ name := "c", type := .varchar }, { name := "n", type := .int }]
                       rows := [[.text "1a", .integer 1], [.text "10", .integer 2], [.null, .integer 3],
                         [.text "9", .integer 4], [.text "10", .integer 5], [.text "010", .null], [.text "x", .integer 6]] }
    let s : Select := { columns := .columns ["c"], table := "t", condition := some ⟨.compare "c" .neq (.quoted "X"), []⟩
                        groupBy := ["c"], orderBy := [⟨"c", true⟩, ⟨"N", false⟩], limit := none }
    let r : QueryResult := { columns := ["c"]
                             rows := [[("c", .null)], [("c", .text "9")], [("c", .text "10")], [("c", .text "010")],
                               [("c", .text "1a")]] }
    s.limit = none ∧
      (t.gathered (t.holds ⟨0, 0⟩ s.condition) s).Pairwise (fun a b => t.compareRows s.orderBy a b ≠ .eq) ∧
      t.select ⟨0, 0⟩ s = .ok r ∧ t.select ⟨0, 0⟩ s.reversed = .ok { r with rows := r.rows.reverse } := by
  intro t s r
  have hgathered : t.gathered (t.holds ⟨0, 0⟩ s.condition) s =
      [[.text "1a", .integer 1], [.text "10", .integer 2], [.null, .integer 3], [.text "9", .integer 4],
        [.text "010", .null]] := by
    decide +kernel
  have hapart : (t.gathered (t.holds ⟨0, 0⟩ s.condition) s).Pairwise fun a b => t.compareRows s.orderBy a b ≠ .eq := by
    rw [hgathered]
    decide +kernel
  have hsorted : t.sortRows s.orderBy [[.text "1a", .integer 1], [.text "10", .integer 2], [.null, .integer 3],
      [.text "9", .integer 4], [.text "010", .null]] = [[.null, .integer 3], [.text "9", .integer 4],
      [.text "10", .integer 2], [.text "010", .null], [.text "1a", .integer 1]] := by
    have h₁ : t.compareRows s.orderBy [.text "1a", .integer 1] [.text "10", .integer 2] = .gt := by decide +kernel
    have h₂ : t.compareRows s.orderBy [.text "10", .integer 2] [.null, .integer 3] = .gt := by decide +kernel
    have h₃ : t.compareRows s.orderBy [.text "9", .integer 4] [.text "010", .null] = .lt := by decide +kernel
    have h₄ : t.compareRows s.orderBy [.null, .integer 3] [.text "9", .integer 4] = .lt := by decide +kernel
    have h₅ : t.compareRows s.orderBy [.text "10", .integer 2] [.text "9", .integer 4] = .gt := by decide +kernel
    have h₆ : t.compareRows s.orderBy [.text "10", .integer 2] [.text "010", .null] = .lt := by decide +kernel
    have h₇ : t.compareRows s.orderBy [.text "1a", .integer 1] [.text "010", .null] = .gt := by decide +kernel
    generalize s.orderBy = keys at h₁ h₂ h₃ h₄ h₅ h₆ h₇ ⊢
    simp [sortRows, List.mergeSort, h₁, h₂, h₃, h₄, h₅, h₆, h₇]
  have hr : t.select ⟨0, 0⟩ s = .ok r := by
    refine bind_eq_ok.mpr ⟨[0], by rfl, bind_eq_ok.mpr ⟨t.holds ⟨0, 0⟩ s.condition, by rfl, ?_⟩⟩
    rw [selectRows_of_no_limit rfl, hgathered, hsorted]
    rfl
  refine ⟨rfl, hapart, hr, ?_⟩
  rw [select_reversed rfl hapart, hr]
  rfl

end Table

end PocketSql
