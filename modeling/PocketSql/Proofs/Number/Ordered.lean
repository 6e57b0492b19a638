/-
  PocketSql.Proofs.Number.Ordered — numbers are ordered by their values.

  Every finite number is a whole multiple of 2 ^ -1074. How many multiples it is grows
  with the low 63 bits, from one word to the next also where the exponent changes
  (`steps_strictMono`). So the keys by which numbers are compared, which only read the
  bits, order them by value (`lt_iff_scaled`), and so does the order of all words but for
  the two zeros (`compareTotal_eq_scaled`).
-/

import Mathlib.Order.Monotone.Basic
import Mathlib.Tactic.Ring
import PocketSql.Number.Binary64

namespace PocketSql.Binary64

variable {x y : Binary64}

/-! ## Values -/

/-- The value of a finite number in units of 2 ^ -1074. -/
def scaled (x : Binary64) : Int :=
  let n := x.significand * twoTo (x.exponent + 1074)
  if x.negative then -(n : Int) else n

/-- How many units the number of a magnitude has. -/
def steps (m : Nat) : Nat :=
  if m < leadingBit then m else (leadingBit + m % leadingBit) * 2 ^ (m / leadingBit - 1)

theorem significand_mul (x : Binary64) : x.significand * twoTo (x.exponent + 1074) = steps x.magnitude := by
  unfold significand exponent steps twoTo
  by_cases h : x.magnitude < leadingBit
  · simp [h]
  · have hexp : ((x.magnitude / leadingBit : Nat) : Int) - 1075 + 1074 = ((x.magnitude / leadingBit - 1 : Nat) : Int) := by
      have := Nat.div_pos (Nat.le_of_not_lt h) (by decide : 0 < leadingBit)
      omega
    simp only [h, if_false, hexp, Int.toNat_natCast]
    rfl

theorem scaled_eq (x : Binary64) : x.scaled = if x.negative then -(steps x.magnitude : Int) else steps x.magnitude := by
  rw [← significand_mul]
  rfl

/-- A fraction that has come to its end carries into the exponent. -/
theorem steps_add {e f : Nat} (hf : f ≤ leadingBit) :
    steps (e * leadingBit + (leadingBit + f)) = (leadingBit + f) * 2 ^ e := by
  rw [steps, if_neg (by omega)]
  rcases Nat.lt_or_eq_of_le hf with hlt | rfl
  · have hmod : (e * leadingBit + (leadingBit + f)) % leadingBit = f := by
      simp only [leadingBit] at hlt ⊢
      omega
    have hdiv : (e * leadingBit + (leadingBit + f)) / leadingBit = e + 1 := by
      simp only [leadingBit] at hlt ⊢
      omega
    rw [hmod, hdiv, Nat.add_sub_cancel]
  · have hmod : (e * leadingBit + (leadingBit + leadingBit)) % leadingBit = 0 := by
      simp only [leadingBit]
      omega
    have hdiv : (e * leadingBit + (leadingBit + leadingBit)) / leadingBit = e + 2 := by
      simp only [leadingBit]
      omega
    rw [hmod, hdiv]
    show leadingBit * 2 ^ (e + 1) = _
    rw [Nat.pow_succ]
    ring

theorem steps_strictMono : StrictMono steps := by
  refine strictMono_nat_of_lt_succ fun m => ?_
  rcases Nat.lt_or_ge m leadingBit with hm | hm
  · -- below the first full significand every step is one unit
    have hnext : steps (m + 1) = m + 1 := by
      rcases Nat.lt_or_eq_of_le (Nat.succ_le_of_lt hm) with hlt | heq
      · exact if_pos hlt
      · rw [← Nat.succ_eq_add_one, heq]
        rfl
    rw [hnext, steps, if_pos hm]
    exact Nat.lt_succ_self m
  · obtain ⟨e, f, hf, rfl⟩ : ∃ e f, f < leadingBit ∧ m = e * leadingBit + (leadingBit + f) := by
      refine ⟨m / leadingBit - 1, m % leadingBit, Nat.mod_lt _ (by decide), ?_⟩
      simp only [leadingBit] at hm ⊢
      omega
    rw [steps_add (Nat.le_of_lt hf), Nat.add_assoc, Nat.add_assoc leadingBit, steps_add hf]
    exact Nat.mul_lt_mul_of_pos_right (by omega) (Nat.two_pow_pos e)

theorem steps_eq_zero {m : Nat} : steps m = 0 ↔ m = 0 :=
  steps_strictMono.injective.eq_iff' rfl

/-! ## Keys -/

theorem numericKey_lt_iff : x.numericKey < y.numericKey ↔ x.scaled < y.scaled := by
  have hlt : steps x.magnitude < steps y.magnitude ↔ x.magnitude < y.magnitude := steps_strictMono.lt_iff_lt
  have hgt : steps y.magnitude < steps x.magnitude ↔ y.magnitude < x.magnitude := steps_strictMono.lt_iff_lt
  have hx : steps x.magnitude = 0 ↔ x.magnitude = 0 := steps_eq_zero
  have hy : steps y.magnitude = 0 ↔ y.magnitude = 0 := steps_eq_zero
  rw [scaled_eq, scaled_eq, numericKey, numericKey]
  split <;> split <;> omega

theorem numericKey_eq_iff : x.numericKey = y.numericKey ↔ x.scaled = y.scaled := by
  have hlt : x.numericKey < y.numericKey ↔ x.scaled < y.scaled := numericKey_lt_iff
  have hgt : y.numericKey < x.numericKey ↔ y.scaled < x.scaled := numericKey_lt_iff
  omega

theorem isNaN_of_isFinite (h : x.isFinite = true) : x.isNaN = false := by
  simp only [isFinite, isNaN, decide_eq_true_eq, decide_eq_false_iff_not] at h ⊢
  omega

/-- Numbers are compared by value. -/
theorem lt_iff_scaled (hx : x.isNaN = false) (hy : y.isNaN = false) : x.lt y = true ↔ x.scaled < y.scaled := by
  rw [lt, hx, hy, ← numericKey_lt_iff]
  simp

theorem eq_iff_scaled (hx : x.isNaN = false) (hy : y.isNaN = false) : x.eq y = true ↔ x.scaled = y.scaled := by
  rw [eq, hx, hy, ← numericKey_eq_iff]
  simp

theorem totalKey_lt_iff (hx : x.negative = true → x.magnitude ≠ 0) (hy : y.negative = true → y.magnitude ≠ 0) :
    x.totalKey < y.totalKey ↔ x.numericKey < y.numericKey := by
  unfold totalKey numericKey
  split
  · rename_i hnx
    have hposx := hx hnx
    split
    · omega
    · omega
  · split
    · rename_i hny
      have hposy := hy hny
      omega
    · omega

/-- Among numbers other than the negative zero the order of all words is that by value. -/
theorem compareTotal_eq_scaled (hx : x.negative = true → x.magnitude ≠ 0) (hy : y.negative = true → y.magnitude ≠ 0) :
    x.compareTotal y = compare x.scaled y.scaled := by
  have hlt : x.totalKey < y.totalKey ↔ x.scaled < y.scaled := (totalKey_lt_iff hx hy).trans numericKey_lt_iff
  have hgt : y.totalKey < x.totalKey ↔ y.scaled < x.scaled := (totalKey_lt_iff hy hx).trans numericKey_lt_iff
  have heq : x.totalKey = y.totalKey ↔ x.scaled = y.scaled := by omega
  show compareOfLessAndEq x.totalKey y.totalKey = compareOfLessAndEq x.scaled y.scaled
  simp only [compareOfLessAndEq, hlt, heq]

end PocketSql.Binary64
