/-
  PocketSql.Proofs.Value.Compared — how integers compare in conditions and in sorting.

  Both read integers as floating numbers, and a condition reads its literal as one too. So
  two integers compare as their roundings to 53 binary digits do. That is their own order
  but for different integers of one rounding, which count as equal: a condition for one
  holds of the other, and sorting does not tell them apart (`comparesExactly_iff`). Up to
  2 ^ 53 there are none (`comparesExactly_of_natAbs_le`).
-/

import PocketSql.Proofs.Number.Rounded
import PocketSql.Proofs.Number.Written
import PocketSql.Proofs.Text.Blank
import PocketSql.Proofs.Text.Case
import PocketSql.Query.Select

namespace PocketSql

/-- Whether an operator holds between values in some order. -/
def Comparison.ofOrdering (op : Comparison) (o : Ordering) : Bool :=
  match op with
  | .eq => o.isEq
  | .neq => o.isNe
  | .gt => o.isGT
  | .lt => o.isLT
  | .gte => o.isGE
  | .lte => o.isLE

namespace Value

open Binary64 (rounded)

/-- Whether two integers compare as integers do, in conditions, also with a literal that
    spells the second one, and in sorting. -/
structure ComparesExactly (a b : Int64) : Prop where
  equal : (integer a).equal (integer b) = decide (a = b)
  greater : (integer a).greater (integer b) = decide (a > b)
  less : (integer a).less (integer b) = decide (a < b)
  condition : ∀ [RegexCompiler] (t : Table) now row column op (l : Literal), t.read row column = integer a →
    l.raw? = some (toString b.toInt) →
      t.satisfies now row (.compare column op l) = op.ofOrdering (compare a.toInt b.toInt)
  sorting : (integer a).sortOrder (integer b) = compare a.toInt b.toInt

/-! ## Literals -/

theorem natAbs_toInt_lt (a : Int64) : a.toInt.natAbs < 2 ^ 64 := by
  have hlow := a.le_toInt
  have hhigh := a.toInt_lt
  omega

theorem trim_toString (i : Int) : Text.trim (toString i) = toString i := by
  apply Text.trim_eq_self
  intro c hc
  rw [toList_toString_int, List.mem_append] at hc
  rcases hc with hc | hc
  · split at hc
    · rw [List.mem_singleton.mp hc]
      decide
    · cases hc
  · exact Text.isBlank_of_isDigit (isDigit_of_mem_toDigits hc)

theorem ofScaled_zero (negative : Bool) {n : Nat} (hn : n < 2 ^ 64) :
    Binary64.ofScaled negative n 0 = .ofRatio negative n 1 := by
  by_cases h0 : n = 0
  · simp [Binary64.ofScaled, Binary64.ofRatio, h0]
  · have hlog := (Nat.log2_lt h0).mpr hn
    have hhigh : ¬400 < (n.log2 : Int) * 3 / 10 := by omega
    have hlow : ¬(n.log2 : Int) * 3 / 10 < -400 := by omega
    have hten : tenTo 0 = 1 := by decide
    simp [Binary64.ofScaled, h0, hhigh, hlow, hten]

/-- The digits of a number are read as that number, and as no other word. -/
theorem unsigned?_toDigits (negative : Bool) {n : Nat} (hn : n < 2 ^ 64) :
    Numeral.unsigned? negative (Nat.toDigits 10 n) = some (.ofRatio negative n 1) := by
  have hlower : (Nat.toDigits 10 n).map Char.toLower = Nat.toDigits 10 n := by
    refine (List.map_congr_left fun c hc => ?_).trans (List.map_id _)
    have hlt : c.toNat < 58 := Nat.lt_succ_of_le (Char.isDigit_iff_toNat.mp (isDigit_of_mem_toDigits hc)).2
    rw [← Char.toNat_inj, Text.toNat_toLower, if_neg (by omega)]
    rfl
  have hword : ∀ (w : List Char) (c : Char), c ∈ w → c.isDigit = false → (Nat.toDigits 10 n == w) = false := by
    intro w c hc hd
    rw [beq_eq_false_iff_ne]
    rintro rfl
    rw [isDigit_of_mem_toDigits hc] at hd
    cases hd
  have hsplit : Numeral.digits (Nat.toDigits 10 n) = (Nat.toDigits 10 n, []) := by
    have hall : ∀ c ∈ Nat.toDigits 10 n, c.isDigit = true := fun _ => isDigit_of_mem_toDigits
    rw [Numeral.digits, List.takeWhile_eq_self_iff.mpr hall, List.dropWhile_eq_nil_iff.mpr hall]
  have hscaled : Numeral.scaled? (Nat.toDigits 10 n) = some (n, 0) := by
    simp [Numeral.scaled?, hsplit, Numeral.exponent?, value_toDigits, Nat.toDigits_ne_nil]
  simp only [Numeral.unsigned?, hlower, hscaled, hword "inf".toList 'i' (by decide) (by decide),
    hword "infinity".toList 'i' (by decide) (by decide), hword "nan".toList 'n' (by decide) (by decide),
    Bool.or_false, Bool.false_eq_true, if_false, Option.map_some, ofScaled_zero negative hn]

/-- The literal of an integer is read as the integer is. -/
theorem numberOfText?_toString (a : Int64) : numberOfText? (toString a.toInt) = some (.ofInt a.toInt) := by
  have hread : Numeral.binary64? (toString a.toInt).toList = some (.ofInt a.toInt) := by
    rw [toList_toString_int]
    by_cases ha : a.toInt < 0
    · simp only [Numeral.binary64?, if_pos ha, List.singleton_append, Numeral.sign,
        unsigned?_toDigits true (natAbs_toInt_lt a), Binary64.ofInt, decide_eq_true ha]
    · simp only [Numeral.binary64?, if_neg ha, List.nil_append, sign_toDigits,
        unsigned?_toDigits false (natAbs_toInt_lt a), Binary64.ofInt, decide_eq_false ha]
  rw [numberOfText?, trim_toString, hread, Option.filter_some, if_pos (Binary64.ofInt_spec (natAbs_toInt_lt a)).1]

/-! ## Comparisons -/

section Comparisons

variable {a b : Int64} {v : Value} (hv : v.number? = some (.ofInt b.toInt))

include hv

theorem equal_of_number? : (integer a).equal v = decide (rounded a.toInt = rounded b.toInt) := by
  have hread : (integer a).equal v = (Binary64.ofInt a.toInt).eq (.ofInt b.toInt) := by
    unfold equal
    cases v with
    | null => cases hv
    | _ =>
      simp only [hv]
      rfl
  rw [hread, Binary64.ofInt_eq (natAbs_toInt_lt a) (natAbs_toInt_lt b)]

theorem less_of_number? : (integer a).less v = decide (rounded a.toInt < rounded b.toInt) := by
  have hread : (integer a).less v = (Binary64.ofInt a.toInt).lt (.ofInt b.toInt) := by
    unfold less
    cases v with
    | null => cases hv
    | _ =>
      simp only [hv]
      rfl
  rw [hread, Binary64.ofInt_lt (natAbs_toInt_lt a) (natAbs_toInt_lt b)]

theorem greater_of_number? : (integer a).greater v = decide (rounded a.toInt > rounded b.toInt) := by
  have hread : (integer a).greater v = (Binary64.ofInt b.toInt).lt (.ofInt a.toInt) := by
    unfold greater
    cases v with
    | null => cases hv
    | _ =>
      simp only [hv]
      rfl
  rw [hread, Binary64.ofInt_lt (natAbs_toInt_lt b) (natAbs_toInt_lt a)]

/-- A condition compares the rounded integers. -/
theorem holds_of_number? (op : Comparison) :
    op.holds (integer a) v = op.ofOrdering (compare (rounded a.toInt) (rounded b.toInt)) := by
  rcases Int.lt_trichotomy (rounded a.toInt) (rounded b.toInt) with hlt | heq | hgt
  · rw [compare_lt_iff_lt.mpr hlt]
    cases op <;> simp [Comparison.holds, Comparison.ofOrdering, equal_of_number? hv, less_of_number? hv,
      greater_of_number? hv] <;> omega
  · rw [compare_eq_iff_eq.mpr heq]
    cases op <;> simp [Comparison.holds, Comparison.ofOrdering, equal_of_number? hv, less_of_number? hv,
      greater_of_number? hv, heq]
  · rw [compare_gt_iff_gt.mpr hgt]
    cases op <;> simp [Comparison.holds, Comparison.ofOrdering, equal_of_number? hv, less_of_number? hv,
      greater_of_number? hv] <;> omega

end Comparisons

theorem sortOrder_integer (a b : Int64) :
    (integer a).sortOrder (integer b) = compare (rounded a.toInt) (rounded b.toInt) :=
  Binary64.ofInt_compareTotal (natAbs_toInt_lt a) (natAbs_toInt_lt b)

/-! ## Exactness -/

theorem comparesExactly_of_rounded {a b : Int64} (h : a = b ∨ rounded a.toInt ≠ rounded b.toInt) :
    ComparesExactly a b := by
  have horder : compare (rounded a.toInt) (rounded b.toInt) = compare a.toInt b.toInt := by
    apply Binary64.compare_rounded
    rwa [Int64.toInt_inj]
  refine ⟨?_, ?_, ?_, ?_, ?_⟩
  · rw [equal_of_number? rfl, decide_eq_decide, ← compare_eq_iff_eq, horder, compare_eq_iff_eq, Int64.toInt_inj]
  · rw [greater_of_number? rfl, decide_eq_decide, gt_iff_lt, ← compare_gt_iff_gt, horder, compare_gt_iff_gt]
    exact Int64.lt_iff_toInt_lt.symm
  · rw [less_of_number? rfl, decide_eq_decide, ← compare_lt_iff_lt, horder, compare_lt_iff_lt]
    exact Int64.lt_iff_toInt_lt.symm
  · intro _ t now row column op l hread hl
    have hvalue : (l.toValue now).number? = some (.ofInt b.toInt) := by
      cases l with
      | quoted s | number s | word s =>
        cases hl
        exact numberOfText?_toString b
      | _ => cases hl
    have hsatisfies : t.satisfies now row (.compare column op l) = op.holds (t.read row column) (l.toValue now) := rfl
    rw [← horder, ← holds_of_number? hvalue, hsatisfies, hread]
  · rw [sortOrder_integer, horder]

/-- Two integers compare exactly just where they are the same or differ also when rounded to
    53 binary digits. -/
theorem comparesExactly_iff (a b : Int64) :
    ComparesExactly a b ↔ a = b ∨ rounded a.toInt ≠ rounded b.toInt := by
  refine ⟨fun h => ?_, comparesExactly_of_rounded⟩
  have hequal := h.equal
  rw [equal_of_number? rfl] at hequal
  by_cases hr : rounded a.toInt = rounded b.toInt
  · rw [decide_eq_true hr] at hequal
    exact .inl (of_decide_eq_true hequal.symm)
  · exact .inr hr

/-- So do all up to 2 ^ 53. -/
theorem comparesExactly_of_natAbs_le {a b : Int64} (ha : a.toInt.natAbs ≤ 2 ^ 53) (hb : b.toInt.natAbs ≤ 2 ^ 53) :
    ComparesExactly a b := by
  apply comparesExactly_of_rounded
  rw [Binary64.rounded_of_natAbs_le ha, Binary64.rounded_of_natAbs_le hb, ne_eq, Int64.toInt_inj]
  exact em _

/-- The first integer that is rounded to another one counts as that one. -/
theorem not_comparesExactly_two_pow :
    (integer 9007199254740993).equal (integer 9007199254740992) = true ∧
      ¬ComparesExactly 9007199254740993 9007199254740992 := by
  have hequal : rounded (9007199254740993 : Int64).toInt = rounded (9007199254740992 : Int64).toInt := by decide +kernel
  refine ⟨by decide +kernel, fun h => ?_⟩
  rcases (comparesExactly_iff _ _).mp h with hsame | hapart
  · exact absurd hsame (by decide)
  · exact hapart hequal

end Value

end PocketSql
