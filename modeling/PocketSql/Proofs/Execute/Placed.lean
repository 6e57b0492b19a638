/-
  PocketSql.Proofs.Execute.Placed — columns by name and columns by place.

  Statements name columns and tables keep them by place. Where the names of the columns
  are distinct, a name leads to the one column that has it (`columnIndex?_eq_some_iff`), so
  that the last of several entries for a place is the last one under the name of the
  column there (`find?_placed`). Of values that are assigned to one place the last one
  stays (`getElem?_assign`).
-/

import Mathlib.Data.List.Induction
import PocketSql.Execute
import PocketSql.Proofs.Fault
import PocketSql.Proofs.Schema.Sound
import PocketSql.Proofs.Text.Case

namespace PocketSql

/-- The last of several entries under one key. -/
theorem lookup_reverse_map {α β : Type} (key : α → Nat) (value : α → β) (i : Nat) (l : List α) :
    (l.map fun a => (key a, value a)).reverse.lookup i = (l.reverse.find? fun a => key a == i).map value := by
  rw [← List.map_reverse]
  induction l.reverse with
  | nil => rfl
  | cons a l ih =>
    rw [List.map_cons, List.lookup_cons, List.find?_cons, ih, BEq.comm (a := i)]
    cases key a == i <;> rfl

theorem find?_congr {α : Type} {p q : α → Bool} {l : List α} (h : ∀ a ∈ l, p a = q a) : l.find? p = l.find? q := by
  induction l with
  | nil => rfl
  | cons a l ih =>
    rw [List.find?_cons, List.find?_cons, h a List.mem_cons_self, ih fun a ha => h a (List.mem_cons_of_mem _ ha)]

namespace Table

variable {t : Table} {name : String} {i : Nat} {c : Column}

theorem requireColumn_eq_ok : t.requireColumn name = .ok i ↔ t.columnIndex? name = some i := by
  unfold requireColumn
  cases t.columnIndex? name <;> simp

theorem exists_columnIndex? : (∃ i, t.columnIndex? name = some i) ↔ ∃ c ∈ t.columns, Text.sameName c.name name = true := by
  rw [← Option.isSome_iff_exists, columnIndex?, List.findIdx?_isSome, List.any_eq_true]

/-- Among distinct names a column is found at its own place and nowhere else. -/
theorem columnIndex?_eq_some_iff (hd : DistinctNames t.columnNames) (hc : t.columns[i]? = some c) :
    t.columnIndex? name = some i ↔ Text.sameName c.name name = true := by
  obtain ⟨hi, rfl⟩ := List.getElem?_eq_some_iff.mp hc
  rw [columnIndex?, List.findIdx?_eq_some_iff_getElem]
  refine ⟨fun ⟨_, hsame, _⟩ => hsame, fun hsame => ⟨hi, hsame, fun j hj hother => ?_⟩⟩
  have hapart := List.pairwise_iff_getElem.mp hd j i (by simpa [columnNames] using Nat.lt_trans hj hi)
    (by simpa [columnNames] using hi) hj
  simp only [columnNames, List.getElem_map] at hapart
  rw [Text.sameName_comm] at hsame
  rw [Text.sameName_trans hother hsame] at hapart
  cases hapart

/-- The place of the first column of a name, for names that are found. -/
def place (t : Table) (name : String) : Nat :=
  (t.columnIndex? name).getD 0

theorem place_of_requireColumn (h : t.requireColumn name = .ok i) : i = t.place name := by
  rw [place, requireColumn_eq_ok.mp h]
  rfl

/-- The last entry for a place is the last one under the name of its column. -/
theorem find?_placed {α : Type} {named : α → String} {l : List α} (hd : DistinctNames t.columnNames)
    (hfound : ∀ a ∈ l, ∃ c ∈ t.columns, Text.sameName c.name (named a) = true) (hc : t.columns[i]? = some c) :
    (l.reverse.find? fun a => t.place (named a) == i) = l.reverse.find? fun a => Text.sameName c.name (named a) := by
  refine find?_congr fun a ha => ?_
  obtain ⟨j, hj⟩ := exists_columnIndex?.mpr (hfound a (List.mem_reverse.mp ha))
  rw [Bool.eq_iff_iff, ← columnIndex?_eq_some_iff hd hc, place, hj]
  simp

/-- Of the values assigned to one place the last one stays. -/
theorem getElem?_assign (row : Row) (values : List (Nat × Value)) (i : Nat) :
    (assign row values)[i]? = row[i]?.map fun v => (values.reverse.lookup i).getD v := by
  induction values using List.reverseRecOn with
  | nil => simp [assign]
  | append_singleton values p ih =>
    obtain ⟨j, w⟩ := p
    have hlast : assign row (values ++ [(j, w)]) = (assign row values).set j w := by
      simp [assign]
    rw [hlast, List.reverse_append, List.reverse_singleton, List.singleton_append, List.lookup_cons]
    by_cases hij : i = j
    · subst hij
      rw [List.getElem?_set_self', ih]
      cases row[i]? <;> simp
    · have hne : (i == j) = false := by simpa using hij
      rw [List.getElem?_set_ne (Ne.symm hij), ih, hne]

end Table

end PocketSql
