/-
  PocketSql.Proofs.Entries — values kept in a list under their keys.

  A store in memory and a catalog both keep such a list, and both set a value by replacing
  what is there under the key or else by adding it at the end.
-/

namespace PocketSql

variable {α : Type}

theorem lookup_map_set (entries : List (String × α)) (key : String) (value : α) (other : String) :
    (entries.map fun e => if e.1 == key then (key, value) else e).lookup other =
      if other = key ∧ entries.any (·.1 == key) = true then some value else entries.lookup other := by
  induction entries with
  | nil => simp
  | cons e entries ih =>
    obtain ⟨k, v⟩ := e
    rw [List.map_cons, List.lookup_cons, List.lookup_cons, ih]
    by_cases ho : other = key
    · subst ho
      by_cases hk : k = other
      · simp [hk]
      · have hother : (other == k) = false := beq_eq_false_iff_ne.mpr (Ne.symm hk)
        have hkey : (k == other) = false := beq_eq_false_iff_ne.mpr hk
        simp only [hkey, hother, Bool.false_eq_true, if_false, List.any_cons, Bool.false_or]
    · have hother : (other == key) = false := beq_eq_false_iff_ne.mpr ho
      by_cases hk : k = key
      · simp [hk, ho, hother]
      · simp [hk, ho]

/-- A value that was set is found under its key, and under other keys what was there. -/
theorem lookup_set (entries : List (String × α)) (key : String) (value : α) (other : String) :
    (if entries.any (·.1 == key) then entries.map fun e => if e.1 == key then (key, value) else e
      else entries ++ [(key, value)]).lookup other = if other = key then some value else entries.lookup other := by
  by_cases h : entries.any (·.1 == key) = true
  · rw [if_pos h, lookup_map_set]
    simp only [h, and_true]
  · have hnone : entries.lookup key = none := by
      rw [List.lookup_eq_none_iff]
      intro e he
      rw [bne_iff_ne]
      rintro rfl
      exact h (List.any_eq_true.mpr ⟨e, he, by simp⟩)
    rw [if_neg h, List.lookup_append, List.lookup_cons]
    by_cases ho : other = key
    · simp [ho, hnone]
    · have hother : (other == key) = false := beq_eq_false_iff_ne.mpr ho
      simp [ho, hother]

end PocketSql
