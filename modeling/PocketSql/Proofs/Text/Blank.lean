/-
  PocketSql.Proofs.Text.Blank — white space is apart from letters and digits.

  Beyond ASCII the two kinds of characters are tables of codes, which are compared; ASCII
  letters are intervals of codes. Trimming leaves nothing of a text just where all of it is
  white space (`isEmpty_trim`), and otherwise a text that ends with the last character that
  is none (`getLast?_trim`).
-/

import Mathlib.Data.List.TakeWhile
import PocketSql.Text.Blank
import PocketSql.Text.Letters

namespace PocketSql.Text

/-- The codes of white space beyond ASCII. -/
def wideBlanks : List Nat :=
  [0x85, 0xA0, 0x1680, 0x2000, 0x2001, 0x2002, 0x2003, 0x2004, 0x2005, 0x2006, 0x2007, 0x2008, 0x2009,
    0x200A, 0x2028, 0x2029, 0x202F, 0x205F, 0x3000]

/-- Whether the tables count a code beyond ASCII among letters or digits. -/
def isWideAlphanumeric (n : Nat) : Bool :=
  inRanges LetterRanges.alphabetic n || inRanges LetterRanges.numeric n

theorem wideBlanks_not_alphanumeric : (wideBlanks.all fun n => !isWideAlphanumeric n) = true := by
  decide +kernel

theorem wideBlanks_wide : ∀ n ∈ wideBlanks, 128 ≤ n := by decide

theorem isBlank_iff (c : Char) :
    isBlank c = true ↔ (9 ≤ c.toNat ∧ c.toNat ≤ 13) ∨ c.toNat = 32 ∨ c.toNat ∈ wideBlanks := by
  simp only [isBlank, wideBlanks, Bool.or_eq_true, Bool.and_eq_true, decide_eq_true_eq, beq_iff_eq,
    List.mem_cons, List.not_mem_nil, or_false]
  omega

theorem isAlphanumeric_iff (c : Char) :
    isAlphanumeric c = true ↔ if c.toNat < 128 then c.isAlphanum = true else isWideAlphanumeric c.toNat = true := by
  by_cases h : c.toNat < 128 <;>
    simp [isAlphanumeric, isAlphabetic, isNumeric, isWideAlphanumeric, Char.isAlphanum, h]

theorem isUpper_iff (c : Char) : c.isUpper = true ↔ 65 ≤ c.toNat ∧ c.toNat ≤ 90 :=
  decide_eq_true_iff

theorem isLower_iff (c : Char) : c.isLower = true ↔ 97 ≤ c.toNat ∧ c.toNat ≤ 122 := by
  show (decide ('a'.val ≤ c.val) && decide (c.val ≤ 'z'.val)) = true ↔ _
  rw [Bool.and_eq_true, decide_eq_true_eq, decide_eq_true_eq]
  exact Iff.rfl

theorem isAlpha_eq (c : Char) : c.isAlpha = (c.isUpper || c.isLower) :=
  rfl

theorem isAlphanum_bounds {c : Char} (h : c.isAlphanum = true) : 48 ≤ c.toNat := by
  simp only [Char.isAlphanum, isAlpha_eq, Bool.or_eq_true, isUpper_iff, isLower_iff, Char.isDigit_iff_toNat] at h
  have hzero : '0'.toNat = 48 := rfl
  omega

/-- No white space is a letter or a digit. -/
theorem isBlank_eq_false_of_isAlphanumeric {c : Char} (h : isAlphanumeric c = true) : isBlank c = false := by
  rw [Bool.eq_false_iff]
  intro hb
  rw [isAlphanumeric_iff] at h
  split at h
  · have := isAlphanum_bounds h
    rcases (isBlank_iff c).mp hb with hn | hn | hn
    · omega
    · omega
    · have := wideBlanks_wide _ hn
      omega
  · rcases (isBlank_iff c).mp hb with hn | hn | hn
    · omega
    · omega
    · simpa [h] using List.all_eq_true.mp wideBlanks_not_alphanumeric _ hn

theorem isBlank_of_isDigit {c : Char} (h : c.isDigit = true) : isBlank c = false := by
  apply isBlank_eq_false_of_isAlphanumeric
  have hlt : c.toNat < 58 := Nat.lt_succ_of_le (Char.isDigit_iff_toNat.mp h).2
  rw [isAlphanumeric_iff, if_pos (by omega), Char.isAlphanum, h, Bool.or_true]

/-! ## Trimming -/

theorem getLast?_trimRight (cs : List Char) :
    (trimRight cs).getLast? = cs.reverse.find? fun c => !isBlank c := by
  rw [trimRight, dropEndWhile, List.getLast?_reverse, List.find?_not_eq_head?_dropWhile]

theorem getLast?_trimRight_append (cs more : List Char) :
    (trimRight (cs ++ more)).getLast? = (trimRight more).getLast?.or (trimRight cs).getLast? := by
  simp only [getLast?_trimRight, List.reverse_append, List.find?_append]

theorem getLast?_trimRight_eq_none_iff {cs : List Char} :
    (trimRight cs).getLast? = none ↔ ∀ c ∈ cs, isBlank c = true := by
  simp [getLast?_trimRight]

/-- Trimming leaves the last character that is no white space. -/
theorem getLast?_trim (s : String) : (trim s).toList.getLast? = (trimRight s.toList).getLast? := by
  have hleft : (trimRight (s.toList.takeWhile isBlank)).getLast? = none :=
    getLast?_trimRight_eq_none_iff.mpr fun c hc => List.mem_takeWhile_imp hc
  rw [← List.takeWhile_append_dropWhile (p := isBlank) (l := s.toList), getLast?_trimRight_append, hleft,
    Option.or_none]
  simp [trim, trimLeft]

theorem endsWith_trim (s : String) :
    (trim s).endsWith ";" = ((trimRight s.toList).getLast? == some ';') := by
  rw [← getLast?_trim, Bool.eq_iff_iff, beq_iff_eq, List.getLast?_eq_some_iff]
  refine String.Slice.endsWith_string_iff.trans ?_
  simp [List.IsSuffix, eq_comm]

theorem isEmpty_trim (s : String) : (trim s).isEmpty = s.toList.all isBlank := by
  have hlast : (trim s).toList.getLast? = none ↔ ∀ c ∈ s.toList, isBlank c = true := by
    rw [getLast?_trim, getLast?_trimRight_eq_none_iff]
  rw [Bool.eq_iff_iff, List.all_eq_true, ← hlast, List.getLast?_eq_none_iff]
  simp

/-- What has no white space at its ends is its own trimmed form. -/
theorem trim_of_ends {s : String} (hfirst : ∀ c ∈ s.toList.head?, isBlank c = false)
    (hlast : ∀ c ∈ s.toList.getLast?, isBlank c = false) : trim s = s := by
  have hkeep : ∀ cs : List Char, (∀ c ∈ cs.head?, isBlank c = false) → cs.dropWhile isBlank = cs := by
    intro cs hcs
    cases cs with
    | nil => rfl
    | cons c cs => rw [List.dropWhile_cons_of_neg (by simp [hcs c rfl])]
  rw [trim, trimLeft, hkeep _ hfirst, trimRight, dropEndWhile, hkeep _ (by simpa using hlast), List.reverse_reverse,
    String.ofList_toList]

/-- What has no white space in it has none at its ends. -/
theorem trim_eq_self {s : String} (h : ∀ c ∈ s.toList, isBlank c = false) : trim s = s :=
  trim_of_ends (fun c hc => h c (List.mem_of_head? hc)) fun c hc => h c (List.mem_of_getLast? hc)

end PocketSql.Text
