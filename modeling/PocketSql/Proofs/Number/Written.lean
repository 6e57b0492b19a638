/-
  PocketSql.Proofs.Number.Written — numbers in the form that documents have.

  Integers come back from their digits. A float is written with a point or an exponent,
  so that no reader takes it for an integer, and without a needless zero in front: the
  shortest digits of a number other than zero do not start with one.
-/

import Mathlib.Algebra.Group.Nat.Defs
import PocketSql.Document.Record
import PocketSql.Number.Layout
import PocketSql.Proofs.Document.Text

namespace PocketSql

/-! ## Natural numbers and integers -/

theorem isDigit_of_mem_toDigits {n : Nat} {c : Char} (h : c ∈ Nat.toDigits 10 n) : c.isDigit = true :=
  Nat.isDigit_of_mem_toDigits (by decide) (by decide) h

theorem digits_toDigits (n : Nat) : Json.Digits (Nat.toDigits 10 n) :=
  ⟨Nat.toDigits_ne_nil, fun _ => isDigit_of_mem_toDigits⟩

theorem digitChar_ne_zero : ∀ n, n < 10 → n ≠ 0 → Nat.digitChar n ≠ '0' := by
  decide

/-- Only the digits of zero start with a zero. -/
theorem head?_toDigits {n : Nat} (hn : n ≠ 0) : (Nat.toDigits 10 n).head? ≠ some '0' := by
  induction n using Nat.strongRecOn with
  | ind n ih =>
    by_cases hlt : n < 10
    · rw [Nat.toDigits_of_lt_base hlt]
      intro h
      exact digitChar_ne_zero n hlt hn (by simpa using h)
    · rw [Nat.toDigits_of_base_le (by decide) (by omega), List.head?_append]
      have hne := ih (n / 10) (by omega) (by omega)
      cases hh : (Nat.toDigits 10 (n / 10)).head? with
      | none => exact absurd (List.head?_eq_none_iff.mp hh) Nat.toDigits_ne_nil
      | some c =>
        rw [hh] at hne
        simpa using hne

theorem whole_toDigits (n : Nat) :
    (Nat.toDigits 10 n).head? = some '0' → (Nat.toDigits 10 n).length = 1 := by
  intro h
  by_cases hn : n = 0
  · rw [hn]
    rfl
  · exact absurd h (head?_toDigits hn)

theorem value_toDigits (n : Nat) : Numeral.value (Nat.toDigits 10 n) = n :=
  Nat.ofDigitChars_ten_toDigits

theorem nat?_toDigits (n : Nat) : Numeral.nat? (Nat.toDigits 10 n) = some n := by
  have hd : (Nat.toDigits 10 n).all Char.isDigit = true :=
    List.all_eq_true.mpr fun _ => isDigit_of_mem_toDigits
  simp [Numeral.nat?, hd, Nat.toDigits_ne_nil, value_toDigits]

theorem natBelow?_toString {n bound : Nat} (h : n < bound) : Numeral.natBelow? bound (toString n) = some n := by
  simp [Numeral.natBelow?, nat?_toDigits, h]

theorem numberText_toString (n : Nat) : Json.NumberText (toString n).toList := by
  refine ⟨[], Nat.toDigits 10 n, [], [], by simp, .inl rfl, ⟨digits_toDigits n, whole_toDigits n⟩, .inl rfl, .inl rfl⟩

theorem toList_toString_int (i : Int) :
    (toString i).toList = (if i < 0 then ['-'] else []) ++ Nat.toDigits 10 i.natAbs := by
  rw [Int.toString_eq_repr, Int.repr_eq_if]
  by_cases hi : 0 ≤ i
  · rw [if_pos hi, if_neg (by omega), Nat.toList_repr]
    congr 1
    omega
  · rw [if_neg hi, if_pos (by omega), String.toList_append, Nat.toList_repr]
    congr 2
    omega

theorem numberText_toString_int (i : Int) : Json.NumberText (toString i).toList := by
  rw [toList_toString_int]
  refine ⟨if i < 0 then ['-'] else [], Nat.toDigits 10 i.natAbs, [], [], by simp, ?_,
    ⟨digits_toDigits _, whole_toDigits _⟩, .inl rfl, .inl rfl⟩
  split
  · exact .inr rfl
  · exact .inl rfl

theorem sign_toDigits (n : Nat) : Numeral.sign (Nat.toDigits 10 n) = (false, Nat.toDigits 10 n) := by
  unfold Numeral.sign
  split
  · rename_i h
    have : '-' ∈ Nat.toDigits 10 n := by rw [h]; exact List.mem_cons_self
    exact absurd (isDigit_of_mem_toDigits this) (by decide)
  · rename_i h
    have : '+' ∈ Nat.toDigits 10 n := by rw [h]; exact List.mem_cons_self
    exact absurd (isDigit_of_mem_toDigits this) (by decide)
  · rfl

theorem int?_toString (i : Int64) : Numeral.int? (toString i.toInt).toList = some i := by
  have hfits : Numeral.fitsInt64 i.toInt = true := by
    simp only [Numeral.fitsInt64, Bool.and_eq_true, decide_eq_true_eq]
    exact ⟨i.minValue_le_toInt, i.toInt_le⟩
  rw [toList_toString_int]
  by_cases hi : i.toInt < 0
  · have habs : -(i.toInt.natAbs : Int) = i.toInt := by omega
    simp only [Numeral.int?, if_pos hi, List.singleton_append, Numeral.sign, nat?_toDigits, if_true, habs, hfits,
      Int64.ofInt_toInt]
  · have habs : (i.toInt.natAbs : Int) = i.toInt := by omega
    simp only [Numeral.int?, if_neg hi, List.nil_append, sign_toDigits, nat?_toDigits, Bool.false_eq_true, if_false,
      habs, hfits, if_true, Int64.ofInt_toInt]

theorem toString_ne_minus_zero (i : Int) : toString i ≠ "-0" := by
  intro h
  have hl : (if i < 0 then ['-'] else []) ++ Nat.toDigits 10 i.natAbs = ['-', '0'] := by
    rw [← toList_toString_int, h]
    rfl
  by_cases hi : i < 0
  · have hz : Nat.toDigits 10 i.natAbs = ['0'] := by simpa [hi] using hl
    have hne : i.natAbs ≠ 0 := by omega
    exact head?_toDigits hne (by rw [hz]; rfl)
  · have hm : Nat.toDigits 10 i.natAbs = ['-', '0'] := by simpa [hi] using hl
    have : '-' ∈ Nat.toDigits 10 i.natAbs := by simp [hm]
    exact absurd (isDigit_of_mem_toDigits this) (by decide)

theorem asInt64?_toString (i : Int64) : Json.asInt64? (.number (toString i.toInt)) = some i := by
  have hne : (toString i.toInt == "-0") = false := beq_eq_false_iff_ne.mpr (toString_ne_minus_zero i.toInt)
  show (if toString i.toInt == "-0" then none else Numeral.int? (toString i.toInt).toList) = some i
  rw [hne, int?_toString]
  rfl

/-! ## The shortest digits -/

theorem Decimal.normalize_digits (d : Decimal) : d.normalize.digits = 0 ↔ d.digits = 0 := by
  fun_induction Decimal.normalize d with
  | case1 d h ih =>
    rw [ih]
    have := Nat.div_add_mod d.digits 10
    show d.digits / 10 = 0 ↔ d.digits = 0
    omega
  | case2 => rfl

theorem Decimal.normalize_zero {d : Decimal} (h : d.digits = 0) : d.normalize = d := by
  unfold Decimal.normalize
  simp [h]

theorem twoTo_pos (e : Int) : 0 < twoTo e :=
  Nat.pow_pos (by decide)

theorem tenTo_pos (e : Int) : 0 < tenTo e :=
  Nat.pow_pos (by decide)

namespace Interval

/-- Zero does not round to a number whose interval starts above zero. -/
theorem holds_ne_zero {i : Interval} (hl : 0 < i.low) {c : Nat} {k : Int} (h : i.holds c k = true) : c ≠ 0 := by
  rintro rfl
  have hup : 0 < i.low * tenTo (-k) := Nat.mul_pos hl (tenTo_pos _)
  unfold holds at h
  dsimp only at h
  rw [Nat.zero_mul, Nat.zero_mul] at h
  split at h
  · exact Nat.not_lt.mpr (of_decide_eq_true (Bool.and_eq_true_iff.mp h).1) hup
  · exact Nat.not_lt_zero _ (of_decide_eq_true (Bool.and_eq_true_iff.mp h).1)

theorem nearer_ne_zero (i : Interval) (tie : Tie) {c : Nat} (hc : c ≠ 0) (k : Int) : i.nearer tie c k ≠ 0 := by
  unfold nearer
  dsimp only
  split
  · exact hc
  split
  · exact Nat.succ_ne_zero c
  cases tie with
  | up => exact Nat.succ_ne_zero c
  | toEven =>
    show c + c % 2 ≠ 0
    omega

/-- Searching gives digits other than zero where the last grid that may be reached does. -/
theorem search_ne_zero {i : Interval} (hl : 0 < i.low) (hu : 0 < i.unit) (tie : Tie) (k : Int) (grids : Nat)
    (h : 0 < k - grids → i.unit * tenTo (k - grids) ≤ i.value) :
    0 < (i.search tie k grids).exponent → (i.search tie k grids).digits ≠ 0 := by
  induction grids generalizing k with
  | zero =>
    intro hk
    have hk : 0 < k := hk
    have hv := h (by simpa using hk)
    have h1 : tenTo (-k) = 1 := by
      have : (-k).toNat = 0 := by omega
      simp [tenTo, this]
    have hpos : 0 < i.value * tenTo (-k) / (i.unit * tenTo k) := by
      refine Nat.div_pos ?_ ?_
      · simpa [h1] using hv
      · exact Nat.mul_pos hu (tenTo_pos k)
    exact Nat.ne_of_gt hpos
  | succ grids ih =>
    unfold search
    dsimp only
    split
    · rename_i h1 _
      exact fun _ => nearer_ne_zero i tie (holds_ne_zero hl h1) k
    · rename_i h1 _
      exact fun _ => holds_ne_zero hl h1
    · exact fun _ => Nat.succ_ne_zero _
    · refine ih (k - 1) fun hk => ?_
      have hkg : k - 1 - (grids : Int) = k - ((grids + 1 : Nat) : Int) := by omega
      rw [hkg] at hk ⊢
      exact h hk

theorem digitsBefore_le (i : Interval) :
    i.digitsBefore ≤ ((i.value.log2 : Int) - (i.unit.log2 : Int)) * 30103 / 100000 + 2 := by
  unfold digitsBefore
  dsimp only
  split
  · omega
  split <;> omega

theorem ten_pow_le (k : Nat) : 10 ^ k ≤ 2 ^ (10 * ((k + 2) / 3)) := by
  calc 10 ^ k ≤ 10 ^ (3 * ((k + 2) / 3)) := Nat.pow_le_pow_right (by decide) (by omega)
    _ = (10 ^ 3) ^ ((k + 2) / 3) := Nat.pow_mul ..
    _ ≤ (2 ^ 10) ^ ((k + 2) / 3) := Nat.pow_le_pow_left (by decide) _
    _ = 2 ^ (10 * ((k + 2) / 3)) := (Nat.pow_mul ..).symm

end Interval

namespace Binary64

variable {x : Binary64}

theorem significand_pos (h : x.isZero = false) : 0 < x.significand := by
  have hm : x.magnitude ≠ 0 := by simpa [isZero] using h
  unfold significand
  split
  · omega
  · unfold leadingBit
    omega

theorem significand_lt : x.significand < 2 * leadingBit := by
  unfold significand
  have := Nat.mod_lt x.magnitude (show 0 < leadingBit by decide)
  split <;> omega

theorem exponent_le (h : x.isFinite = true) : x.exponent ≤ 971 := by
  have hm : x.magnitude < 2047 * leadingBit := of_decide_eq_true h
  rw [Nat.mul_comm] at hm
  have hdiv : x.magnitude / leadingBit < 2047 := Nat.div_lt_of_lt_mul hm
  unfold exponent
  split <;> omega

theorem around_low_pos (h : x.isZero = false) : 0 < (Interval.around x).low := by
  have hs := significand_pos h
  unfold Interval.around shiftUp
  dsimp only
  refine Nat.mul_pos ?_ (twoTo_pos _)
  split <;> omega

/-- The grid that is tried last is still not coarser than the number. -/
theorem around_last_grid (h : x.isZero = false) (hf : x.isFinite = true) (k : Int)
    (hk : k = (Interval.around x).digitsBefore - 18) (hpos : 0 < k) :
    (Interval.around x).unit * tenTo k ≤ (Interval.around x).value := by
  have hs := significand_pos h
  have hlt := @significand_lt x
  have he := exponent_le hf
  have hd := (Interval.around x).digitsBefore_le
  have hvalue : (Interval.around x).value = 4 * x.significand * twoTo (x.exponent - 2) := rfl
  have hunit : (Interval.around x).unit = 2 ^ (-(x.exponent - 2)).toNat := rfl
  have hlog : (Interval.around x).unit.log2 = (-(x.exponent - 2)).toNat := by
    rw [hunit, Nat.log2_two_pow]
  have hne : (Interval.around x).value ≠ 0 := by
    rw [hvalue]
    exact Nat.ne_of_gt (Nat.mul_pos (by omega) (twoTo_pos _))
  have hbound : (Interval.around x).value.log2 < 55 + (x.exponent - 2).toNat := by
    rw [Nat.log2_lt hne, hvalue, Nat.pow_add]
    refine Nat.mul_lt_mul_of_lt_of_le ?_ (Nat.le_refl _) (twoTo_pos _)
    unfold leadingBit at hlt
    omega
  -- The number is at least a power of two that is far above the grid.
  have hten : tenTo k ≤ 2 ^ (10 * ((k.toNat + 2) / 3)) := Interval.ten_pow_le k.toNat
  have hexp : (-(x.exponent - 2)).toNat + 10 * ((k.toNat + 2) / 3) ≤ (Interval.around x).value.log2 := by
    rw [hlog] at hd
    omega
  calc (Interval.around x).unit * tenTo k
      ≤ 2 ^ (-(x.exponent - 2)).toNat * 2 ^ (10 * ((k.toNat + 2) / 3)) := Nat.mul_le_mul (Nat.le_of_eq hunit) hten
    _ = 2 ^ ((-(x.exponent - 2)).toNat + 10 * ((k.toNat + 2) / 3)) := (Nat.pow_add ..).symm
    _ ≤ 2 ^ (Interval.around x).value.log2 := Nat.pow_le_pow_right (by decide) hexp
    _ ≤ (Interval.around x).value := Nat.log2_self_le hne

/-- The digits of a number other than zero are those of zero at most where a point follows
    them. -/
theorem shortest_ne_zero (h : x.isZero = false) (hf : x.isFinite = true) (tie : Tie) :
    0 < (x.shortest tie).exponent → (x.shortest tie).digits ≠ 0 := by
  intro hpos hz
  simp only [shortest, h, Bool.false_eq_true, if_false] at hpos hz
  rw [Decimal.normalize_digits] at hz
  rw [Decimal.normalize_zero hz] at hpos
  refine Interval.search_ne_zero (around_low_pos h) (twoTo_pos _) tie _ 17 ?_ hpos hz
  exact around_last_grid h hf _ (by omega)

/-! ## How a document writes a float -/

theorem toList_signed (x : Binary64) (cs : List Char) :
    (x.signed cs).toList = (if x.negative then ['-'] else []) ++ cs := by
  unfold signed
  split <;> simp

/-- A number is written in a form of its own, apart from that of integers. -/
structure FloatText (cs : List Char) : Prop where
  number : ∀ minus, minus = [] ∨ minus = ['-'] → Json.NumberText (minus ++ cs)
  mark : '.' ∈ cs ∨ 'e' ∈ cs

theorem digits_append_zeros {ds : List Char} (h : Json.Digits ds) (n : Nat) : Json.Digits (ds ++ Decimal.zeros n) := by
  refine ⟨by simp [h.nonempty], fun c hc => ?_⟩
  rcases List.mem_append.mp hc with hc | hc
  · exact h.digits c hc
  · rw [(List.mem_replicate.mp hc).2]
    rfl

theorem digits_zeros_append {ds : List Char} (h : Json.Digits ds) (n : Nat) : Json.Digits (Decimal.zeros n ++ ds) := by
  refine ⟨by simp [h.nonempty], fun c hc => ?_⟩
  rcases List.mem_append.mp hc with hc | hc
  · rw [(List.mem_replicate.mp hc).2]
    rfl
  · exact h.digits c hc

theorem floatText_point {whole ds : List Char} (hw : Json.Digits whole)
    (hz : whole.head? = some '0' → whole.length = 1) (hd : Json.Digits ds) : FloatText (whole ++ '.' :: ds) := by
  refine ⟨fun minus hm => ?_, .inl (by simp)⟩
  exact ⟨minus, whole, '.' :: ds, [], by simp, hm, ⟨hw, hz⟩, .inr ⟨ds, rfl, hd⟩, .inl rfl⟩

/-- A decimal that is written out with a point. -/
theorem floatText_positional {d : Decimal} (h : 0 < d.exponent → d.digits ≠ 0) :
    FloatText (if 0 ≤ d.exponent then d.positional ++ ['.', '0'] else d.positional) := by
  have hds : Json.Digits d.digitChars := digits_toDigits d.digits
  have hpos : 0 < d.digitChars.length := List.length_pos_iff.mpr hds.nonempty
  have hzero : d.digitChars.head? = some '0' → d.digits = 0 ∧ d.digitChars.length = 1 := by
    intro hh
    by_cases hd : d.digits = 0
    · exact ⟨hd, whole_toDigits _ hh⟩
    · exact absurd hh (head?_toDigits hd)
  have hone : Json.Digits ['0'] := ⟨by simp, by simp [Char.isDigit]⟩
  by_cases he : 0 ≤ d.exponent
  · rw [if_pos he, Decimal.positional, if_pos he]
    refine floatText_point (digits_append_zeros hds _) (fun hh => ?_) hone
    have hhead : (d.digitChars ++ Decimal.zeros d.exponent.toNat).head? = d.digitChars.head? := by
      obtain ⟨c, more, hc, -⟩ := hds.head
      rw [hc]
      rfl
    obtain ⟨hd, hlen⟩ := hzero (hhead ▸ hh)
    have hexp : d.exponent.toNat = 0 := by
      by_cases hp : 0 < d.exponent
      · exact absurd hd (h hp)
      · omega
    simp [Decimal.zeros, hexp, hlen]
  rw [if_neg he, Decimal.positional, if_neg he]
  split
  · rename_i hp
    have hlt : d.pointAt.toNat < d.digitChars.length := by
      unfold Decimal.pointAt at hp ⊢
      omega
    have htake : d.digitChars.take d.pointAt.toNat ≠ [] := by
      rw [ne_eq, ← List.length_eq_zero_iff, List.length_take]
      omega
    have hdrop : d.digitChars.drop d.pointAt.toNat ≠ [] := by
      rw [ne_eq, ← List.length_eq_zero_iff, List.length_drop]
      omega
    refine floatText_point ⟨htake, fun c hc => hds.digits c (List.mem_of_mem_take hc)⟩ (fun hh => ?_)
      ⟨hdrop, fun c hc => hds.digits c (List.mem_of_mem_drop hc)⟩
    rw [List.head?_take, if_neg (by omega)] at hh
    have hlen := (hzero hh).2
    unfold Decimal.pointAt at hp
    omega
  · exact floatText_point hone (fun _ => rfl) (digits_zeros_append hds _)

/-- A decimal that is written with an exponent. -/
theorem floatText_scientific (d : Decimal) : FloatText d.scientific := by
  have hds : Json.Digits d.digitChars := digits_toDigits d.digits
  have hexp := digits_toDigits (d.pointAt - 1).natAbs
  obtain ⟨c, more, hc, hcd⟩ := hds.head
  have hwhole : Json.Digits [c] := ⟨by simp, by simpa using hcd⟩
  refine ⟨fun minus hm => ?_, .inr (by simp [Decimal.scientific])⟩
  obtain ⟨sign, hsign, hs⟩ : ∃ sign, (if d.pointAt - 1 < 0 then '-' else '+') = sign ∧ (sign = '+' ∨ sign = '-') :=
    ⟨_, rfl, by split <;> simp⟩
  unfold Decimal.scientific
  dsimp only
  rw [hc, hsign]
  cases more with
  | nil =>
    exact ⟨minus, [c], [], 'e' :: sign :: Nat.toDigits 10 (d.pointAt - 1).natAbs, by simp, hm, ⟨hwhole, fun _ => rfl⟩,
      .inl rfl, .inr ⟨_, _, rfl, hs, hexp⟩⟩
  | cons b more =>
    have hrest : Json.Digits (b :: more) :=
      ⟨by simp, fun e he => hds.digits e (by rw [hc]; exact List.mem_cons_of_mem _ he)⟩
    exact ⟨minus, [c], '.' :: b :: more, 'e' :: sign :: Nat.toDigits 10 (d.pointAt - 1).natAbs, by simp, hm,
      ⟨hwhole, fun _ => rfl⟩, .inr ⟨_, rfl, hrest⟩, .inr ⟨_, _, rfl, hs, hexp⟩⟩

theorem exists_floatText (hf : x.isFinite = true) :
    ∃ cs, x.documentText.toList = (if x.negative then ['-'] else []) ++ cs ∧ FloatText cs := by
  have hzero : 0 < (x.shortest .toEven).exponent → (x.shortest .toEven).digits ≠ 0 := by
    cases hz : x.isZero with
    | true => simp [shortest, hz]
    | false => exact shortest_ne_zero hz hf .toEven
  unfold documentText
  dsimp only
  split
  · exact ⟨_, toList_signed _ _, floatText_positional hzero⟩
  · exact ⟨_, toList_signed _ _, floatText_scientific _⟩

theorem numberText_documentText (hf : x.isFinite = true) : Json.NumberText x.documentText.toList := by
  obtain ⟨cs, hcs, h⟩ := exists_floatText hf
  rw [hcs]
  refine h.number _ ?_
  split
  · exact .inr rfl
  · exact .inl rfl

theorem int?_eq_none {cs : List Char} {c : Char} (hc : c ∈ cs) (hd : c.isDigit = false) (hm : c ≠ '-')
    (hp : c ≠ '+') : Numeral.int? cs = none := by
  have hrest : c ∈ (Numeral.sign cs).2 := by
    unfold Numeral.sign
    split <;> simp_all
  have hnat : Numeral.nat? (Numeral.sign cs).2 = none := by
    have hall : (Numeral.sign cs).2.all Char.isDigit = false := by
      rw [Bool.eq_false_iff]
      intro h
      have := List.all_eq_true.mp h c hrest
      simp [hd] at this
    simp [Numeral.nat?, hall]
  simp [Numeral.int?, hnat]

/-- No reader takes a float in a document for an integer. -/
theorem asInt64?_documentText (hf : x.isFinite = true) : Json.asInt64? (.number x.documentText) = none := by
  obtain ⟨cs, hcs, h⟩ := exists_floatText hf
  show (if x.documentText == "-0" then none else Numeral.int? x.documentText.toList) = none
  split
  · rfl
  · rw [hcs]
    rcases h.mark with hm | hm
    · exact int?_eq_none (List.mem_append_right _ hm) rfl (by decide) (by decide)
    · exact int?_eq_none (List.mem_append_right _ hm) rfl (by decide) (by decide)

end Binary64

end PocketSql
