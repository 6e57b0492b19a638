/-
  PocketSql.Proofs.Text.Case — what upper case leaves as it is, and what it makes equal.

  Only letters have an upper-case form of their own: beyond ASCII every code that the
  table moves lies in a range of alphabetic ones.
-/

import PocketSql.Proofs.Text.Blank
import PocketSql.Text.Case

namespace PocketSql.Text

/-- Whether one of the ranges holds all codes from `first` to `last`, in comparisons that
    the kernel computes with. -/
def covers (ranges : List (Nat × Nat)) (first last : Nat) : Bool :=
  ranges.any fun a => a.1.ble first && last.ble a.2

theorem inRanges_of_covers {ranges : List (Nat × Nat)} {first last n : Nat} (h : covers ranges first last = true)
    (hfirst : first ≤ n) (hlast : n ≤ last) : inRanges ranges n = true := by
  obtain ⟨a, ha, hin⟩ := List.any_eq_true.mp h
  rw [Bool.and_eq_true] at hin
  refine List.any_eq_true.mpr ⟨a, ha, ?_⟩
  rw [Bool.and_eq_true, decide_eq_true_eq, decide_eq_true_eq]
  exact ⟨Nat.le_trans (Nat.le_of_ble_eq_true hin.1) hfirst, Nat.le_trans hlast (Nat.le_of_ble_eq_true hin.2)⟩

theorem upper_runs_alphabetic :
    (CaseRuns.upper.all fun r => covers LetterRanges.alphabetic r.first r.last) = true := by
  decide +kernel

theorem upperExpansions_alphabetic :
    (CaseRuns.upperExpansions.all fun e => covers LetterRanges.alphabetic e.1 e.1) = true := by
  decide +kernel

/-- A code that a run moves is alphabetic. -/
theorem apply_upper {n : Nat} (h : inRanges LetterRanges.alphabetic n = false) : CaseRun.apply CaseRuns.upper n = n := by
  unfold CaseRun.apply
  split
  · rename_i r hr
    have hn := List.find?_some hr
    simp only [Bool.and_eq_true, decide_eq_true_eq] at hn
    have hcovers := List.all_eq_true.mp upper_runs_alphabetic r (List.mem_of_find?_eq_some hr)
    have hrange := inRanges_of_covers hcovers hn.1.1 hn.1.2
    rw [h] at hrange
    cases hrange
  · rfl

theorem lookup_upperExpansions {n : Nat} (h : inRanges LetterRanges.alphabetic n = false) :
    CaseRuns.upperExpansions.lookup n = none := by
  rw [List.lookup_eq_none_iff]
  intro e he
  have hcovers := List.all_eq_true.mp upperExpansions_alphabetic e he
  rw [bne_iff_ne]
  rintro rfl
  have hrange := inRanges_of_covers hcovers (Nat.le_refl e.1) (Nat.le_refl e.1)
  rw [h] at hrange
  cases hrange

theorem toNat_toLower (c : Char) :
    c.toLower.toNat = if 65 ≤ c.toNat ∧ c.toNat ≤ 90 then c.toNat + 32 else c.toNat := by
  have hcap : (c.val ≥ 'A'.val ∧ c.val ≤ 'Z'.val) ↔ 65 ≤ c.toNat ∧ c.toNat ≤ 90 := Iff.rfl
  unfold Char.toLower
  by_cases h : 65 ≤ c.toNat ∧ c.toNat ≤ 90
  · rw [dif_pos (hcap.mpr h), if_pos h]
    have hstep : ('a'.val - 'A'.val).toNat = 32 := by decide
    have hnat : c.val.toNat = c.toNat := rfl
    show (c.val + ('a'.val - 'A'.val)).toNat = c.toNat + 32
    rw [UInt32.toNat_add, hstep, hnat]
    omega
  · rw [dif_neg (fun hc => h (hcap.mp hc)), if_neg h]

theorem toNat_toUpper (c : Char) :
    c.toUpper.toNat = if 97 ≤ c.toNat ∧ c.toNat ≤ 122 then c.toNat - 32 else c.toNat := by
  have hsmall : ('a'.val ≤ c.val ∧ c.val ≤ 'z'.val) ↔ 97 ≤ c.toNat ∧ c.toNat ≤ 122 := Iff.rfl
  unfold Char.toUpper
  by_cases h : 97 ≤ c.toNat ∧ c.toNat ≤ 122
  · rw [dif_pos (hsmall.mpr h), if_pos h]
    have hstep : ('A'.val - 'a'.val).toNat = 4294967264 := by decide
    have hnat : c.val.toNat = c.toNat := rfl
    show (c.val + ('A'.val - 'a'.val)).toNat = c.toNat - 32
    rw [UInt32.toNat_add, hstep, hnat]
    omega
  · rw [dif_neg (fun hc => h (hsmall.mp hc)), if_neg h]

theorem toUpper_of_not_isAlpha {c : Char} (h : c.isAlpha = false) : c.toUpper = c := by
  have hlower : ¬c.isLower = true := by
    rw [isAlpha_eq, Bool.or_eq_false_iff] at h
    simp [h.2]
  rw [isLower_iff] at hlower
  rw [← Char.toNat_inj, toNat_toUpper, if_neg hlower]

/-- What is no letter is its own upper case. -/
theorem upperChar_of_not_isAlphabetic {c : Char} (h : isAlphabetic c = false) : upperChar c = [c] := by
  unfold isAlphabetic at h
  unfold upperChar
  by_cases hc : c.toNat < 128
  · rw [if_pos hc] at h ⊢
    rw [toUpper_of_not_isAlpha h]
  · rw [if_neg hc] at h ⊢
    rw [lookup_upperExpansions h, apply_upper h]
    simp

/-- A character that is a capital ASCII letter up to case has that letter as its upper case. -/
theorem upperChar_of_toLower_eq {c d : Char} (hd : d.isUpper = true) (h : c.toLower = d.toLower) :
    upperChar c = [d] ∧ c.isAlpha = true := by
  rw [isUpper_iff] at hd
  have hlow := congrArg Char.toNat h
  rw [toNat_toLower, toNat_toLower, if_pos hd] at hlow
  have hc : c.toNat = d.toNat ∨ c.toNat = d.toNat + 32 := by
    split at hlow <;> omega
  constructor
  · rw [upperChar, if_pos (by omega)]
    congr 1
    rw [← Char.toNat_inj, toNat_toUpper]
    split <;> omega
  · rw [isAlpha_eq, Bool.or_eq_true, isUpper_iff, isLower_iff]
    omega

theorem sameName_comm (a b : String) : sameName a b = sameName b a :=
  BEq.comm

theorem sameName_refl (a : String) : sameName a a = true :=
  BEq.rfl

theorem sameName_trans {a b c : String} (hab : sameName a b = true) (hbc : sameName b c = true) : sameName a c = true :=
  BEq.trans hab hbc

theorem toList_upper (s : String) : (upper s).toList = s.toList.flatMap upperChar :=
  String.toList_ofList

theorem isAlphabetic_of_isUpper {c : Char} (h : c.isUpper = true) : isAlphabetic c = true := by
  have hc : c.toNat < 128 := by
    have hbounds := (isUpper_iff c).mp h
    omega
  rw [isAlphabetic, if_pos hc, isAlpha_eq, h]
  rfl

/-- A text that is capital letters in upper case is letters. -/
theorem isAlphabetic_of_upper {s : String} (h : ∀ d ∈ (upper s).toList, d.isUpper = true) :
    ∀ c ∈ s.toList, isAlphabetic c = true := by
  intro c hc
  by_contra hletter
  rw [Bool.not_eq_true] at hletter
  -- what is no letter is there in upper case too
  have hmem : c ∈ (upper s).toList := by
    rw [toList_upper]
    exact List.mem_flatMap.mpr ⟨c, hc, by rw [upperChar_of_not_isAlphabetic hletter]; exact List.mem_singleton_self c⟩
  rw [isAlphabetic_of_isUpper (h c hmem)] at hletter
  cases hletter

end PocketSql.Text
