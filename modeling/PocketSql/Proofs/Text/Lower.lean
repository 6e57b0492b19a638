/-
  PocketSql.Proofs.Text.Lower — lower case keeps white space apart.

  White space is its own lower case, and no other character has nothing but white space
  for its lower case: the codes that the tables lead to are compared with those of white
  space. So of two texts with the same lower case both are blank or neither is
  (`isEmpty_trim_of_lower_eq`), and white space at the ends of a text is not lost on the
  way (`lower_trim_eq_iff`).
-/

import PocketSql.Proofs.Text.Case

namespace PocketSql.Text

/-! ## Characters -/

/-- The codes of white space. -/
def blanks : List Nat :=
  [9, 10, 11, 12, 13, 32] ++ wideBlanks

theorem isBlank_iff_mem (c : Char) : isBlank c = true ↔ c.toNat ∈ blanks := by
  have hrange : (9 ≤ c.toNat ∧ c.toNat ≤ 13) ∨ c.toNat = 32 ↔ c.toNat ∈ [9, 10, 11, 12, 13, 32] := by
    simp only [List.mem_cons, List.not_mem_nil, or_false]
    omega
  rw [isBlank_iff, blanks, List.mem_append, ← hrange, or_assoc]

theorem wideBlanks_lower :
    (wideBlanks.all fun n => (CaseRuns.lowerExpansions.lookup n).isNone && CaseRun.apply CaseRuns.lower n == n) =
      true := by
  decide +kernel

/-- Whether a run leads to none of the codes. -/
def CaseRun.avoids (r : CaseRun) (codes : List Nat) : Bool :=
  codes.all fun n => (n : Int) < r.first + r.shift || r.last + r.shift < (n : Int)

theorem lower_runs_avoid_blanks : (CaseRuns.lower.all fun r => r.avoids blanks) = true := by
  decide +kernel

theorem lowerExpansions_not_blank :
    (CaseRuns.lowerExpansions.all fun e => (e.2.map Char.ofNat).any fun d => !isBlank d) = true := by
  decide +kernel

theorem toLower_of_isBlank {c : Char} (h : isBlank c = true) : c.toLower = c := by
  have hupper : ¬(65 ≤ c.toNat ∧ c.toNat ≤ 90) := by
    rcases (isBlank_iff c).mp h with hn | hn | hn
    · omega
    · omega
    · have := wideBlanks_wide _ hn
      omega
  rw [← Char.toNat_inj, toNat_toLower, if_neg hupper]

theorem lowerChar_of_isBlank {c : Char} (h : isBlank c = true) : lowerChar c = [c] := by
  unfold lowerChar
  by_cases hc : c.toNat < 128
  · rw [if_pos hc, toLower_of_isBlank h]
  · have hwide : c.toNat ∈ wideBlanks := by
      rcases (isBlank_iff c).mp h with hn | hn | hn
      · omega
      · omega
      · exact hn
    have htables := List.all_eq_true.mp wideBlanks_lower _ hwide
    rw [Bool.and_eq_true, Option.isNone_iff_eq_none, beq_iff_eq] at htables
    rw [if_neg hc, htables.1, htables.2]
    simp

/-- A code that is moved does not become one of white space. -/
theorem apply_lower_not_mem_blanks {n : Nat} (h : n ∉ blanks) : CaseRun.apply CaseRuns.lower n ∉ blanks := by
  unfold CaseRun.apply
  split
  · rename_i r hr
    have hn := List.find?_some hr
    simp only [Bool.and_eq_true, decide_eq_true_eq] at hn
    have havoids := List.all_eq_true.mp lower_runs_avoid_blanks r (List.mem_of_find?_eq_some hr)
    intro hmem
    have hapart := List.all_eq_true.mp havoids _ hmem
    rw [Bool.or_eq_true, decide_eq_true_eq, decide_eq_true_eq] at hapart
    have hzero : 0 ∉ blanks := by decide
    have hpos : ((n : Int) + r.shift).toNat ≠ 0 := fun h0 => hzero (h0 ▸ hmem)
    omega
  · exact h

theorem isBlank_ofNat {n : Nat} (h : n ∉ blanks) : isBlank (Char.ofNat n) = false := by
  have hcode : (Char.ofNat n).toNat = n ∨ (Char.ofNat n).toNat = 0 := by
    by_cases hv : n.isValidChar
    · exact .inl (congrArg Char.toNat (dif_pos hv))
    · exact .inr (congrArg Char.toNat (dif_neg hv))
  have hzero : 0 ∉ blanks := by decide
  rw [Bool.eq_false_iff, ne_eq, isBlank_iff_mem]
  rcases hcode with hn | hn
  · rwa [hn]
  · rwa [hn]

/-- A character that is no white space has a lower case that is not all white space. -/
theorem exists_mem_lowerChar {c : Char} (h : isBlank c = false) : ∃ d ∈ lowerChar c, isBlank d = false := by
  unfold lowerChar
  split
  · rename_i hc
    refine ⟨c.toLower, List.mem_singleton_self _, ?_⟩
    rw [Bool.eq_false_iff] at h ⊢
    intro hb
    apply h
    -- a capital becomes a small letter, and nothing else changes
    by_cases hupper : 65 ≤ c.toNat ∧ c.toNat ≤ 90
    · rw [isBlank_iff, toNat_toLower, if_pos hupper] at hb
      rcases hb with hb | hb | hb
      · omega
      · omega
      · have := wideBlanks_wide _ hb
        omega
    · have hsame : c.toLower = c := by rw [← Char.toNat_inj, toNat_toLower, if_neg hupper]
      rwa [hsame] at hb
  · split
    · rename_i codes hcodes
      obtain ⟨before, after, he, -⟩ := List.lookup_eq_some_iff.mp hcodes
      have hmem : (c.toNat, codes) ∈ CaseRuns.lowerExpansions := by
        rw [he]
        exact List.mem_append_right _ List.mem_cons_self
      obtain ⟨d, hd, hb⟩ := List.any_eq_true.mp (List.all_eq_true.mp lowerExpansions_not_blank _ hmem)
      exact ⟨d, hd, by simpa using hb⟩
    · have hmem : c.toNat ∉ blanks := by
        rwa [← isBlank_iff_mem, Bool.not_eq_true]
      exact ⟨_, List.mem_singleton_self _, isBlank_ofNat (apply_lower_not_mem_blanks hmem)⟩

theorem all_isBlank_lowerChar (c : Char) : (lowerChar c).all isBlank = isBlank c := by
  cases h : isBlank c with
  | true => simp [lowerChar_of_isBlank h, h]
  | false =>
    obtain ⟨d, hd, hb⟩ := exists_mem_lowerChar h
    rw [List.all_eq_false]
    exact ⟨d, hd, by simp [hb]⟩

/-! ## Texts -/

theorem all_isBlank_lowerAfter (before cs : List Char) : (lowerAfter before cs).all isBlank = cs.all isBlank := by
  induction cs generalizing before with
  | nil => rfl
  | cons c cs ih =>
    rw [lowerAfter, List.all_append, ih, List.all_cons]
    congr 1
    split
    · rename_i hfinal
      -- neither sigma is white space
      simp only [Bool.and_eq_true, beq_iff_eq] at hfinal
      rw [hfinal.1.1]
      decide
    · exact all_isBlank_lowerChar c

theorem isEmpty_trim_lower (s : String) : (trim (lower s)).isEmpty = (trim s).isEmpty := by
  rw [isEmpty_trim, isEmpty_trim, lower, String.toList_ofList, all_isBlank_lowerAfter]

/-- Texts of one lower case are both blank or neither is. -/
theorem isEmpty_trim_of_lower_eq {a b : String} (h : lower a = lower b) : (trim a).isEmpty = (trim b).isEmpty := by
  rw [← isEmpty_trim_lower, h, isEmpty_trim_lower]

theorem length_lowerAfter (before cs : List Char) : (lowerAfter before cs).length = (cs.flatMap lowerChar).length := by
  induction cs generalizing before with
  | nil => rfl
  | cons c cs ih =>
    rw [lowerAfter, List.length_append, ih, List.flatMap_cons, List.length_append]
    congr 1
    split
    · rename_i hfinal
      -- both small sigmas are single characters
      simp only [Bool.and_eq_true, beq_iff_eq] at hfinal
      rw [hfinal.1.1]
      decide
    · rfl

/-- What trimming takes away is white space. -/
theorem exists_trim (s : String) : ∃ front back, s.toList = front ++ (trim s).toList ++ back ∧
    (∀ c ∈ front, isBlank c = true) ∧ ∀ c ∈ back, isBlank c = true := by
  have hfront := List.takeWhile_append_dropWhile (p := isBlank) (l := s.toList)
  have hback := List.takeWhile_append_dropWhile (p := isBlank) (l := (trimLeft s.toList).reverse)
  have hsplit : trimLeft s.toList = (trim s).toList ++ ((trimLeft s.toList).reverse.takeWhile isBlank).reverse := by
    rw [trim, String.toList_ofList, trimRight, dropEndWhile, ← List.reverse_append, hback, List.reverse_reverse]
  refine ⟨s.toList.takeWhile isBlank, ((trimLeft s.toList).reverse.takeWhile isBlank).reverse, ?_,
    fun c hc => List.mem_takeWhile_imp hc, fun c hc => List.mem_takeWhile_imp (List.mem_reverse.mp hc)⟩
  rw [List.append_assoc, ← hsplit]
  exact hfront.symm

/-- A text that is blank once it is trimmed was blank before. -/
theorem isEmpty_trim_trim (s : String) : (trim (trim s)).isEmpty = (trim s).isEmpty := by
  obtain ⟨front, back, hs, hfront, hback⟩ := exists_trim s
  rw [isEmpty_trim, isEmpty_trim, hs, List.all_append, List.all_append, List.all_eq_true.mpr hfront,
    List.all_eq_true.mpr hback, Bool.true_and, Bool.and_true]

/-- Trimming a text that has white space at its ends leads to another lower case. -/
theorem lower_trim_eq_iff {s : String} : lower (trim s) = lower s ↔ trim s = s := by
  refine ⟨fun h => ?_, congrArg lower⟩
  obtain ⟨front, back, hs, hfront, hback⟩ := exists_trim s
  have hblank : ∀ cs : List Char, (∀ c ∈ cs, isBlank c = true) → cs.flatMap lowerChar = cs := by
    intro cs hcs
    induction cs with
    | nil => rfl
    | cons c cs ih =>
      rw [List.flatMap_cons, lowerChar_of_isBlank (hcs c List.mem_cons_self),
        ih fun d hd => hcs d (List.mem_cons_of_mem _ hd)]
      rfl
  have hchars : ∀ t : String, (lower t).toList.length = (t.toList.flatMap lowerChar).length := by
    intro t
    rw [lower, String.toList_ofList, length_lowerAfter]
  have hsame := hchars s
  rw [← h, hchars, hs, List.flatMap_append, List.flatMap_append, List.length_append, List.length_append,
    hblank front hfront, hblank back hback] at hsame
  obtain rfl : front = [] := List.eq_nil_of_length_eq_zero (by omega)
  obtain rfl : back = [] := List.eq_nil_of_length_eq_zero (by omega)
  rw [List.nil_append, List.append_nil] at hs
  exact (String.toList_inj.mp hs).symm

end PocketSql.Text
