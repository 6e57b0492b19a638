/-
  PocketSql.Proofs.Number.Rounded — integers as floating numbers.

  An integer is read as the nearest number of 53 binary digits (`rounded`), the even one
  of two. Up to 2 ^ 53 that is the integer itself, and beyond no two integers change their
  order, but some become one number. Floating numbers that are read from integers compare
  as their rounded values do (`ofInt_eq`, `ofInt_lt`, `ofInt_compareTotal`).
-/

import PocketSql.Proofs.Number.Ordered

namespace PocketSql.Binary64

/-! ## The nearest quotient -/

section RoundHalfEven

variable {m n d : Nat}

theorem roundHalfEven_mul (a : Nat) (hd : 0 < d) : roundHalfEven (a * d) d = a := by
  simp [roundHalfEven, hd]

theorem roundHalfEven_one (n : Nat) : roundHalfEven n 1 = n := by
  simpa using roundHalfEven_mul n (d := 1) (by decide)

theorem roundHalfEven_bounds (n d : Nat) : n / d ≤ roundHalfEven n d ∧ roundHalfEven n d ≤ n / d + 1 := by
  unfold roundHalfEven
  dsimp only
  split
  · omega
  · split <;> omega

theorem roundHalfEven_mono (h : m ≤ n) : roundHalfEven m d ≤ roundHalfEven n d := by
  rcases Nat.lt_or_eq_of_le (Nat.div_le_div_right h : m / d ≤ n / d) with hlt | heq
  · have hm := roundHalfEven_bounds m d
    have hn := roundHalfEven_bounds n d
    omega
  · have hm := Nat.div_add_mod m d
    have hn := Nat.div_add_mod n d
    rw [heq] at hm
    have hr : m % d ≤ n % d := by omega
    simp only [roundHalfEven, heq]
    grind

theorem le_roundHalfEven {a : Nat} (hd : 0 < d) (h : a * d ≤ n) : a ≤ roundHalfEven n d := by
  rw [← roundHalfEven_mul a hd]
  exact roundHalfEven_mono h

theorem roundHalfEven_le {a : Nat} (hd : 0 < d) (h : n ≤ a * d) : roundHalfEven n d ≤ a := by
  rw [← roundHalfEven_mul a hd]
  exact roundHalfEven_mono h

end RoundHalfEven

/-! ## The nearest number of 53 digits -/

/-- The weight of the last of the 53 digits. -/
def lastUnit (n : Nat) : Nat :=
  2 ^ (n.log2 - 52)

/-- The number of 53 binary digits nearest to a natural number, the even one of two. -/
def roundedNat (n : Nat) : Nat :=
  roundHalfEven n (lastUnit n) * lastUnit n

/-- The same for integers. -/
def rounded (i : Int) : Int :=
  if i < 0 then -(roundedNat i.natAbs : Int) else roundedNat i.natAbs

section RoundedNat

variable {m n : Nat}

theorem lastUnit_pos (n : Nat) : 0 < lastUnit n :=
  Nat.two_pow_pos _

/-- A multiple of its last unit is a number of 53 digits itself. -/
theorem roundedNat_of_dvd (h : lastUnit n ∣ n) : roundedNat n = n := by
  have hpos := lastUnit_pos n
  unfold roundedNat
  generalize lastUnit n = d at h hpos ⊢
  obtain ⟨a, rfl⟩ := h
  rw [Nat.mul_comm d a, roundHalfEven_mul a hpos]

theorem roundedNat_of_le (h : n ≤ 2 ^ 53) : roundedNat n = n := by
  apply roundedNat_of_dvd
  rcases Nat.lt_or_eq_of_le h with hlt | rfl
  · have hlog : n.log2 - 52 = 0 := by
      by_cases hn : n = 0
      · rw [hn]
        rfl
      · have := (Nat.log2_lt hn).mpr hlt
        omega
    rw [lastUnit, hlog]
    exact Nat.one_dvd n
  · rw [lastUnit, Nat.log2_two_pow]
    exact Nat.pow_dvd_pow 2 (by decide)

/-- Rounding stays between the powers of two around a number. -/
theorem roundedNat_bounds (hn : n ≠ 0) : 2 ^ n.log2 ≤ roundedNat n ∧ roundedNat n ≤ 2 ^ (n.log2 + 1) := by
  have hlow : 2 ^ n.log2 ≤ n := Nat.log2_self_le hn
  have hhigh : n < 2 ^ (n.log2 + 1) := Nat.lt_log2_self
  rcases Nat.lt_or_ge n (2 ^ 53) with hlt | hge
  · rw [roundedNat_of_le (Nat.le_of_lt hlt)]
    exact ⟨hlow, Nat.le_of_lt hhigh⟩
  · have hlog : 53 ≤ n.log2 := (Nat.le_log2 hn).mpr hge
    have hunit : 2 ^ n.log2 = 2 ^ 52 * lastUnit n := by
      rw [lastUnit, ← Nat.pow_add]
      congr 1
      omega
    rw [Nat.pow_succ, hunit] at hhigh
    rw [Nat.pow_succ, hunit, roundedNat, Nat.mul_right_comm]
    rw [hunit] at hlow
    exact ⟨Nat.mul_le_mul_right _ (le_roundHalfEven (lastUnit_pos n) hlow),
      Nat.mul_le_mul_right _ (roundHalfEven_le (lastUnit_pos n) (by omega))⟩

theorem roundedNat_mono (h : m ≤ n) : roundedNat m ≤ roundedNat n := by
  by_cases hm : m = 0
  · rw [hm, roundedNat_of_le (Nat.zero_le _)]
    exact Nat.zero_le _
  · have hn : n ≠ 0 := by omega
    have hlog : m.log2 ≤ n.log2 := (Nat.le_log2 hn).mpr (Nat.le_trans (Nat.log2_self_le hm) h)
    rcases Nat.lt_or_eq_of_le hlog with hlt | heq
    · calc roundedNat m ≤ 2 ^ (m.log2 + 1) := (roundedNat_bounds hm).2
        _ ≤ 2 ^ n.log2 := Nat.pow_le_pow_right (by decide) hlt
        _ ≤ roundedNat n := (roundedNat_bounds hn).1
    · unfold roundedNat lastUnit
      rw [heq]
      exact Nat.mul_le_mul_right _ (roundHalfEven_mono h)

end RoundedNat

theorem rounded_mono {i j : Int} (h : i ≤ j) : rounded i ≤ rounded j := by
  unfold rounded
  split <;> split
  · have := roundedNat_mono (show j.natAbs ≤ i.natAbs by omega)
    omega
  · omega
  · omega
  · have := roundedNat_mono (show i.natAbs ≤ j.natAbs by omega)
    omega

/-- Rounding keeps the order of integers that it does not make equal. -/
theorem compare_rounded {i j : Int} (h : i = j ∨ rounded i ≠ rounded j) :
    compare (rounded i) (rounded j) = compare i j := by
  rcases Int.lt_trichotomy i j with hlt | rfl | hgt
  · have hle := rounded_mono (Int.le_of_lt hlt)
    rw [compare_lt_iff_lt.mpr hlt, compare_lt_iff_lt]
    omega
  · rw [compare_eq_iff_eq.mpr rfl, compare_eq_iff_eq.mpr rfl]
  · have hle := rounded_mono (Int.le_of_lt hgt)
    rw [compare_gt_iff_gt.mpr hgt, compare_gt_iff_gt]
    omega

theorem rounded_of_natAbs_le {i : Int} (h : i.natAbs ≤ 2 ^ 53) : rounded i = i := by
  rw [rounded, roundedNat_of_le h]
  split <;> omega

/-! ## Floating numbers -/

section OfMagnitude

variable {m : Nat}

theorem toNat_ofMagnitude (negative : Bool) (h : m < signWeight) :
    (ofMagnitude negative m).bits.toNat = if negative then signWeight + m else m := by
  rw [ofMagnitude, UInt64.toNat_ofNat_of_lt']
  simp only [signWeight, UInt64.size] at h ⊢
  split <;> omega

theorem negative_ofMagnitude (negative : Bool) (h : m < signWeight) : (ofMagnitude negative m).negative = negative := by
  rw [Binary64.negative, toNat_ofMagnitude negative h]
  cases negative <;> simp [h]

theorem magnitude_ofMagnitude (negative : Bool) (h : m < signWeight) : (ofMagnitude negative m).magnitude = m := by
  rw [magnitude, toNat_ofMagnitude negative h]
  cases negative
  · exact Nat.mod_eq_of_lt h
  · simp [Nat.mod_eq_of_lt h]

end OfMagnitude

section OfRatio

variable {n : Nat}

/-- The first 53 digits of a number, rounded. -/
def leadingDigits (n : Nat) : Nat :=
  roundHalfEven (n * 2 ^ (52 - n.log2)) (lastUnit n)

theorem leadingDigits_mul (n : Nat) : leadingDigits n * 2 ^ n.log2 = roundedNat n * leadingBit := by
  have hbit : leadingBit = 2 ^ 52 := by decide
  unfold leadingDigits roundedNat lastUnit
  rcases Nat.le_total n.log2 52 with hlog | hlog
  · rw [Nat.sub_eq_zero_of_le hlog, Nat.pow_zero, roundHalfEven_one, roundHalfEven_one, Nat.mul_assoc, ← Nat.pow_add,
      Nat.sub_add_cancel hlog, Nat.mul_one, hbit]
  · rw [Nat.sub_eq_zero_of_le hlog, Nat.pow_zero, Nat.mul_one, Nat.mul_assoc, hbit, ← Nat.pow_add,
      Nat.sub_add_cancel hlog]

theorem leadingDigits_bounds (hn : n ≠ 0) : leadingBit ≤ leadingDigits n ∧ leadingDigits n ≤ leadingBit + leadingBit := by
  have hpos : 0 < 2 ^ n.log2 := Nat.two_pow_pos _
  have hmul := leadingDigits_mul n
  obtain ⟨hlow, hhigh⟩ := roundedNat_bounds hn
  constructor
  · refine Nat.le_of_mul_le_mul_right ?_ hpos
    rw [hmul, Nat.mul_comm]
    exact Nat.mul_le_mul_right _ hlow
  · refine Nat.le_of_mul_le_mul_right ?_ hpos
    rw [hmul]
    calc roundedNat n * leadingBit ≤ 2 ^ (n.log2 + 1) * leadingBit := Nat.mul_le_mul_right _ hhigh
      _ = (leadingBit + leadingBit) * 2 ^ n.log2 := by ring

/-- The magnitude of a number of at most 64 digits. -/
theorem ofRatio_one (negative : Bool) (hn : n ≠ 0) (hlog : n.log2 ≤ 63) :
    ofRatio negative n 1 = ofMagnitude negative ((n.log2 + 1022) * leadingBit + leadingDigits n) := by
  have hone : ((Nat.log2 1 : Nat) : Int) = 0 := by decide
  have hguess : shiftUp 1 (n.log2 : Int) ≤ shiftUp n (-(n.log2 : Int)) := by
    have hneg : (-(n.log2 : Int)).toNat = 0 := by omega
    simpa [shiftUp, twoTo, hneg] using Nat.log2_self_le hn
  have hexponent : max ((n.log2 : Int) - 52) (-1074) = n.log2 - 52 := by omega
  have hdigits : roundHalfEven (shiftUp n (-((n.log2 : Int) - 52))) (shiftUp 1 ((n.log2 : Int) - 52)) =
      leadingDigits n := by
    have hup : (-((n.log2 : Int) - 52)).toNat = 52 - n.log2 := by omega
    have hdown : ((n.log2 : Int) - 52).toNat = n.log2 - 52 := by omega
    rw [shiftUp, shiftUp, twoTo, twoTo, hup, hdown, Nat.one_mul]
    rfl
  have hfield : ((n.log2 : Int) - 52 + 1074).toNat = n.log2 + 1022 := by omega
  have hfinite : (n.log2 + 1022) * leadingBit + leadingDigits n ≤ infinityMagnitude := by
    have hhigh := (leadingDigits_bounds hn).2
    simp only [infinityMagnitude, leadingBit] at hhigh ⊢
    omega
  simp only [ofRatio, beq_iff_eq, hn, if_false, hone, Int.sub_zero, hguess, if_true, hexponent, hdigits, hfield,
    Nat.min_eq_left hfinite]

/-- How many units of 2 ^ -1074 the number one has. -/
def unitsOfOne : Nat :=
  leadingBit * 2 ^ 1022

theorem unitsOfOne_pos : 0 < unitsOfOne :=
  Nat.mul_pos (by decide) (pow_pos (by decide) 1022)

/-- It has the units of the rounded number. -/
theorem steps_leadingDigits (hn : n ≠ 0) :
    steps ((n.log2 + 1022) * leadingBit + leadingDigits n) = roundedNat n * unitsOfOne := by
  obtain ⟨hlow, hhigh⟩ := leadingDigits_bounds hn
  obtain ⟨f, hf⟩ := Nat.exists_eq_add_of_le hlow
  have hscale : ∀ e, leadingDigits n * 2 ^ (n.log2 + e) = roundedNat n * (leadingBit * 2 ^ e) := by
    intro e
    rw [Nat.pow_add, ← Nat.mul_assoc, leadingDigits_mul, Nat.mul_assoc]
  rw [hf, steps_add (by omega), ← hf]
  exact hscale 1022

end OfRatio

/-! ## Integers of 64 bits -/

section OfInt

variable {i j : Int}

/-- The number that an integer is read as: its rounded value, and no negative zero. -/
theorem ofInt_spec (hi : i.natAbs < 2 ^ 64) : (ofInt i).isFinite = true ∧ (ofInt i).scaled = rounded i * unitsOfOne ∧
    ((ofInt i).negative = true → (ofInt i).magnitude ≠ 0) := by
  by_cases h0 : i = 0
  · subst h0
    decide +kernel
  · have hn : i.natAbs ≠ 0 := by omega
    have hlog : i.natAbs.log2 ≤ 63 := by
      have := (Nat.log2_lt hn).mpr hi
      omega
    obtain ⟨hlow, hhigh⟩ := leadingDigits_bounds hn
    have hsteps := steps_leadingDigits hn
    rw [ofInt, ofRatio_one _ hn hlog]
    generalize hm : (i.natAbs.log2 + 1022) * leadingBit + leadingDigits i.natAbs = m at hsteps ⊢
    have hpos : 0 < m := by
      simp only [leadingBit] at hlow
      omega
    have hfinite : m < infinityMagnitude := by
      simp only [infinityMagnitude, leadingBit] at hhigh hm ⊢
      omega
    have hsign : m < signWeight := Nat.lt_trans hfinite (by decide)
    refine ⟨?_, ?_, ?_⟩
    · rw [isFinite, magnitude_ofMagnitude _ hsign]
      exact decide_eq_true hfinite
    · rw [scaled_eq, negative_ofMagnitude _ hsign, magnitude_ofMagnitude _ hsign, hsteps, rounded]
      by_cases hneg : i < 0
      · rw [if_pos (decide_eq_true hneg), if_pos hneg, Int.natCast_mul, Int.neg_mul]
      · rw [if_neg (by simpa using hneg), if_neg hneg, Int.natCast_mul]
    · intro _
      rw [magnitude_ofMagnitude _ hsign]
      exact Nat.ne_of_gt hpos

variable (hi : i.natAbs < 2 ^ 64) (hj : j.natAbs < 2 ^ 64)

include hi hj

theorem ofInt_eq : (ofInt i).eq (ofInt j) = decide (rounded i = rounded j) := by
  obtain ⟨hfinitei, hscaledi, -⟩ := ofInt_spec hi
  obtain ⟨hfinitej, hscaledj, -⟩ := ofInt_spec hj
  rw [Bool.eq_iff_iff, eq_iff_scaled (isNaN_of_isFinite hfinitei) (isNaN_of_isFinite hfinitej), hscaledi, hscaledj,
    decide_eq_true_iff]
  exact Int.mul_eq_mul_right_iff (Int.natCast_ne_zero.mpr (Nat.ne_of_gt unitsOfOne_pos))

theorem ofInt_lt : (ofInt i).lt (ofInt j) = decide (rounded i < rounded j) := by
  obtain ⟨hfinitei, hscaledi, -⟩ := ofInt_spec hi
  obtain ⟨hfinitej, hscaledj, -⟩ := ofInt_spec hj
  rw [Bool.eq_iff_iff, lt_iff_scaled (isNaN_of_isFinite hfinitei) (isNaN_of_isFinite hfinitej), hscaledi, hscaledj,
    decide_eq_true_iff]
  exact Int.mul_lt_mul_right (Int.natCast_pos.mpr unitsOfOne_pos)

theorem ofInt_compareTotal : (ofInt i).compareTotal (ofInt j) = compare (rounded i) (rounded j) := by
  obtain ⟨-, hscaledi, hzeroi⟩ := ofInt_spec hi
  obtain ⟨-, hscaledj, hzeroj⟩ := ofInt_spec hj
  have hpos : (0 : Int) < unitsOfOne := Int.natCast_pos.mpr unitsOfOne_pos
  rw [compareTotal_eq_scaled hzeroi hzeroj, hscaledi, hscaledj]
  show compareOfLessAndEq _ _ = compareOfLessAndEq _ _
  simp only [compareOfLessAndEq, Int.mul_lt_mul_right hpos, Int.mul_eq_mul_right_iff (Int.ne_of_gt hpos)]

end OfInt

end PocketSql.Binary64
