/-
  PocketSql.Proofs.Document.Float — which floats a document leads back to some number.

  A reader takes as many digits as 64 bits hold and multiplies them by a power of ten, and
  it refuses a number whose product is out of range. The product of a number that is
  written for a float below 2 ^ 75 is far from that: its digits say how many of them stand
  before the point (`pointAt_shortest_le`), and so which power is taken.
-/

import PocketSql.Proofs.Number.Rounded
import PocketSql.Proofs.Number.Written

namespace PocketSql

/-! ## Quotients in range -/

namespace Binary64

variable {num den : Nat}

theorem magnitude_ofRatio_le (negative : Bool) (hden : den ≠ 0)
    (h : (num.log2 : Int) - (den.log2 : Int) ≤ 900) :
    (ofRatio negative num den).magnitude ≤ 2000 * leadingBit := by
  by_cases hnum : num = 0
  · rw [ofRatio, if_pos (beq_iff_eq.mpr hnum), magnitude_ofMagnitude _ (by decide)]
    exact Nat.zero_le _
  · let guess : Int := (num.log2 : Int) - (den.log2 : Int)
    obtain ⟨log, hlog, hlow, hhigh⟩ : ∃ log, (if shiftUp den guess ≤ shiftUp num (-guess) then guess else guess - 1) = log ∧
        guess - 1 ≤ log ∧ log ≤ guess := by
      refine ⟨_, rfl, ?_, ?_⟩ <;> split <;> omega
    let e : Int := max (log - 52) (-1074)
    -- Both powers of two below bound the quotient by one with 55 digits.
    have hquotient : shiftUp num (-e) ≤ 8 * leadingBit * shiftUp den e := by
      have hexponents : num.log2 + 1 + (-e).toNat ≤ 55 + (den.log2 + e.toNat) := by omega
      calc num * 2 ^ (-e).toNat ≤ 2 ^ (num.log2 + 1) * 2 ^ (-e).toNat :=
            Nat.mul_le_mul_right _ (Nat.le_of_lt Nat.lt_log2_self)
        _ = 2 ^ (num.log2 + 1 + (-e).toNat) := (Nat.pow_add ..).symm
        _ ≤ 2 ^ (55 + (den.log2 + e.toNat)) := Nat.pow_le_pow_right (by decide) hexponents
        _ = 2 ^ 55 * (2 ^ den.log2 * 2 ^ e.toNat) := by rw [Nat.pow_add, Nat.pow_add]
        _ ≤ 8 * leadingBit * (den * 2 ^ e.toNat) :=
            Nat.mul_le_mul_left _ (Nat.mul_le_mul_right _ (Nat.log2_self_le hden))
    have hrounded : roundHalfEven (shiftUp num (-e)) (shiftUp den e) ≤ 8 * leadingBit :=
      roundHalfEven_le (Nat.mul_pos (Nat.pos_of_ne_zero hden) (twoTo_pos e)) hquotient
    have hfield : (e + 1074).toNat * leadingBit ≤ 1922 * leadingBit := Nat.mul_le_mul_right _ (by omega)
    have hsmall : (e + 1074).toNat * leadingBit + roundHalfEven (shiftUp num (-e)) (shiftUp den e) ≤
        2000 * leadingBit := by omega
    have hratio : ofRatio negative num den = ofMagnitude negative
        ((e + 1074).toNat * leadingBit + roundHalfEven (shiftUp num (-e)) (shiftUp den e)) := by
      have hmin := Nat.min_eq_left (Nat.le_trans hsmall (by decide : 2000 * leadingBit ≤ infinityMagnitude))
      rw [ofRatio, if_neg (by simpa using hnum)]
      dsimp only
      rw [hlog, hmin]
    rw [hratio, magnitude_ofMagnitude _ (Nat.lt_of_le_of_lt hsmall (by decide))]
    exact hsmall

theorem isFinite_mul {x y : Binary64} (h : x.exponent + y.exponent ≤ 700) : (x.mul y).isFinite = true := by
  let e := x.exponent + y.exponent
  have hden : (shiftUp 1 (-e)).log2 = (-e).toNat := by
    rw [shiftUp, Nat.one_mul]
    exact Nat.log2_two_pow
  have hnum : (shiftUp (x.significand * y.significand) e).log2 ≤ 106 + e.toNat := by
    have hlt : shiftUp (x.significand * y.significand) e < 2 ^ (107 + e.toNat) := by
      rw [Nat.pow_add]
      refine Nat.mul_lt_mul_of_lt_of_le ?_ (Nat.le_refl _) (twoTo_pos e)
      calc x.significand * y.significand ≤ 2 * leadingBit * (2 * leadingBit) :=
            Nat.mul_le_mul (Nat.le_of_lt significand_lt) (Nat.le_of_lt significand_lt)
        _ < 2 ^ 107 := by decide
    by_cases h0 : shiftUp (x.significand * y.significand) e = 0
    · rw [h0]
      exact Nat.zero_le _
    · have := (Nat.log2_lt h0).mpr hlt
      omega
  have hsmall : (x.mul y).magnitude ≤ 2000 * leadingBit := by
    refine magnitude_ofRatio_le _ (Nat.ne_of_gt (Nat.mul_pos (by decide) (twoTo_pos _))) ?_
    rw [hden]
    show (((shiftUp (x.significand * y.significand) e).log2 : Nat) : Int) - _ ≤ _
    omega
  exact decide_eq_true (Nat.lt_of_le_of_lt hsmall (by decide))

theorem exponent_ofInt_le {n : Nat} (hn : n < 2 ^ 64) : (ofInt n).exponent ≤ 12 := by
  by_cases h0 : n = 0
  · subst h0
    decide
  · have hlog : n.log2 ≤ 63 := by
      have := (Nat.log2_lt h0).mpr hn
      omega
    have hdigits := (leadingDigits_bounds h0).2
    have hof : ofInt (n : Int) = ofMagnitude false ((n.log2 + 1022) * leadingBit + leadingDigits n) := by
      have hpos : decide ((n : Int) < 0) = false := by simp
      rw [ofInt, hpos, Int.natAbs_natCast, ofRatio_one _ h0 hlog]
    have hmagnitude : (ofInt (n : Int)).magnitude ≤ 1087 * leadingBit := by
      rw [hof, magnitude_ofMagnitude]
      · simp only [leadingBit] at hdigits ⊢
        omega
      · simp only [leadingBit, signWeight] at hdigits ⊢
        omega
    have hdiv : (ofInt (n : Int)).magnitude / leadingBit ≤ 1087 :=
      Nat.div_le_of_le_mul (by rwa [Nat.mul_comm])
    unfold exponent
    split <;> omega

theorem exponent_powerOfTen_le : ∀ k < 201, (Json.powerOfTen k).exponent ≤ 650 := by
  decide +kernel

end Binary64

/-! ## Digits that are read -/

namespace Json

theorem takeDigits_lt {n : Nat} (hn : n < 2 ^ 64) (ds : List Char) : (takeDigits n ds).1 < 2 ^ 64 := by
  fun_induction takeDigits n ds with
  | case1 => exact hn
  | case2 n d ds m h ih => exact ih h
  | case3 => exact hn

theorem length_takeDigits_le (n : Nat) (ds : List Char) : (takeDigits n ds).2.length ≤ ds.length := by
  fun_induction takeDigits n ds with
  | case1 => exact Nat.le_refl _
  | case2 n d ds m h ih => exact Nat.le_succ_of_le ih
  | case3 => exact Nat.le_refl _

theorem exists_scaled? {n : Nat} (hn : n < 2 ^ 64) {e : Int} (he : e ≤ 200) : ∃ x, scaled? n e = some x := by
  unfold scaled?
  dsimp only
  by_cases h0 : 0 ≤ e
  · have hpower := Binary64.exponent_powerOfTen_le e.toNat (by omega)
    have hint := Binary64.exponent_ofInt_le hn
    have hfinite := Binary64.isFinite_mul (x := .ofInt n) (y := powerOfTen e.toNat) (by omega)
    rw [if_pos h0, if_neg (by omega), if_pos hfinite]
    exact ⟨_, rfl⟩
  · rw [if_neg h0]
    exact ⟨_, rfl⟩

/-- A number with or without a fraction or a power of ten. -/
theorem exists_ofDigits? {whole fraction power : List Char} {e : Int} (hwhole : ∀ c ∈ whole, c.isDigit = true)
    (hfraction : fraction = [] ∨ ∃ ds, fraction = '.' :: ds ∧ ∀ c ∈ ds, c.isDigit = true)
    (hpower : ∀ c ∈ power.head?, c = 'e') (hexponent : Numeral.exponent? power = some e)
    (he : whole.length + e ≤ 200) : ∃ x, ofDigits? (whole ++ (fraction ++ power)) = some x := by
  have hleft := length_takeDigits_le 0 whole
  have hscaled : ∀ ds : List Char, ∃ x, scaled? (takeDigits (takeDigits 0 whole).1 ds).1
      ((takeDigits 0 whole).2.length - (ds.length - (takeDigits (takeDigits 0 whole).1 ds).2.length : Nat) + e) =
        some x := fun ds =>
    exists_scaled? (takeDigits_lt (takeDigits_lt (by decide) whole) ds) (by omega)
  have hdigit : ∀ c ∈ power.head?, c.isDigit = false := fun c hc => by rw [hpower c hc]; rfl
  rcases hfraction with rfl | ⟨ds, rfl, hds⟩
  · have hpoint : ∀ more, power ≠ '.' :: more := by
      rintro more rfl
      exact absurd (hpower '.' rfl) (by decide)
    rw [ofDigits?, List.nil_append, digits_append hwhole hdigit]
    simpa [hexponent] using hscaled []
  · have hrest : ∀ c ∈ ('.' :: (ds ++ power)).head?, c.isDigit = false := by
      rintro c ⟨⟩
      rfl
    rw [ofDigits?, List.cons_append, digits_append hwhole hrest]
    simp only [digits_append hds hdigit]
    simpa [hexponent] using hscaled ds

/-- The same with a sign. -/
theorem exists_asFloat? {s : String} {minus whole fraction power : List Char} {e : Int}
    (hs : s.toList = minus ++ (whole ++ (fraction ++ power))) (hminus : minus = [] ∨ minus = ['-'])
    (hwhole : Digits whole) (hfraction : fraction = [] ∨ ∃ ds, fraction = '.' :: ds ∧ ∀ c ∈ ds, c.isDigit = true)
    (hpower : ∀ c ∈ power.head?, c = 'e') (hexponent : Numeral.exponent? power = some e)
    (he : whole.length + e ≤ 200) : ∃ x, asFloat? (number s) = some x := by
  obtain ⟨x, hx⟩ := exists_ofDigits? hwhole.digits hfraction hpower hexponent he
  rcases hminus with rfl | rfl
  · obtain ⟨d, more, rfl, hd⟩ := hwhole.head
    refine ⟨x, ?_⟩
    unfold asFloat?
    dsimp only
    rw [hs]
    split
    · rename_i heq
      obtain ⟨rfl, -⟩ := List.cons.inj heq
      exact absurd hd (by decide)
    · exact hx
  · refine ⟨x.neg, ?_⟩
    unfold asFloat?
    dsimp only
    rw [hs]
    exact congrArg (Option.map Binary64.neg) hx

end Json

/-! ## Digits that are written -/

namespace Decimal

theorem pointAt_normalize (d : Decimal) : d.normalize.pointAt = d.pointAt := by
  fun_induction normalize d with
  | case1 d h ih =>
    rw [ih]
    have hlen : (Nat.toDigits 10 d.digits).length = (Nat.toDigits 10 (d.digits / 10)).length + 1 := by
      rw [Nat.toDigits_of_base_le (by decide) (by omega), List.length_append]
      rfl
    unfold pointAt digitChars
    dsimp only
    omega
  | case2 => rfl

theorem pointAt_le {d : Decimal} {n : Nat} (h : d.digits ≤ 10 ^ n) : d.pointAt ≤ n + 1 + d.exponent := by
  have hlt : d.digits < 10 ^ (n + 1) := Nat.lt_of_le_of_lt h (Nat.pow_lt_pow_right (by decide) (Nat.lt_succ_self n))
  have hlen := (Nat.length_toDigits_le_iff (by decide) (Nat.succ_pos n)).mpr hlt
  unfold pointAt digitChars
  omega

theorem exists_positional (d : Decimal) : ∃ whole ds,
    (if 0 ≤ d.exponent then d.positional ++ ['.', '0'] else d.positional) = whole ++ '.' :: ds ∧ Json.Digits whole ∧
      (∀ c ∈ ds, c.isDigit = true) ∧ (whole.length : Int) ≤ max d.pointAt 1 := by
  have hdigits : Json.Digits d.digitChars := digits_toDigits d.digits
  unfold positional
  dsimp only
  by_cases he : 0 ≤ d.exponent
  · rw [if_pos he, if_pos he]
    refine ⟨_, ['0'], rfl, Binary64.digits_append_zeros hdigits _, by simp [Char.isDigit], ?_⟩
    simp only [List.length_append, zeros, List.length_replicate, pointAt]
    omega
  · rw [if_neg he, if_neg he]
    split
    · rename_i hp
      have hwhole : d.digitChars.take d.pointAt.toNat ≠ [] := by
        rw [ne_eq, List.take_eq_nil_iff, not_or]
        exact ⟨by omega, hdigits.nonempty⟩
      refine ⟨_, _, rfl, ⟨hwhole, fun c hc => hdigits.digits c (List.mem_of_mem_take hc)⟩,
        fun c hc => hdigits.digits c (List.mem_of_mem_drop hc), ?_⟩
      rw [List.length_take]
      omega
    · exact ⟨['0'], _, rfl, ⟨by simp, by simp [Char.isDigit]⟩, (Binary64.digits_zeros_append hdigits _).digits,
        Int.le_max_right _ _⟩

theorem exists_scientific (d : Decimal) : ∃ c fraction, d.scientific = [c] ++ (fraction ++
      'e' :: (if d.pointAt - 1 < 0 then '-' else '+') :: Nat.toDigits 10 (d.pointAt - 1).natAbs) ∧
    Json.Digits [c] ∧ (fraction = [] ∨ ∃ ds, fraction = '.' :: ds ∧ ∀ c ∈ ds, c.isDigit = true) := by
  have hdigits : Json.Digits d.digitChars := digits_toDigits d.digits
  obtain ⟨c, more, hc, hcd⟩ := hdigits.head
  have hone : Json.Digits [c] := ⟨by simp, by simpa using hcd⟩
  unfold scientific
  dsimp only
  rw [hc] at hdigits ⊢
  cases more with
  | nil => exact ⟨c, [], rfl, hone, .inl rfl⟩
  | cons b more =>
    exact ⟨c, '.' :: b :: more, rfl, hone, .inr ⟨_, rfl, fun e he => hdigits.digits e (List.mem_cons_of_mem _ he)⟩⟩

theorem exponent?_signed (e : Int) :
    Numeral.exponent? ('e' :: (if e < 0 then '-' else '+') :: Nat.toDigits 10 e.natAbs) = some e := by
  by_cases h : e < 0
  · have hsigned : -(e.natAbs : Int) = e := by omega
    simp only [Numeral.exponent?, h, if_true, Numeral.sign, nat?_toDigits]
    exact congrArg some hsigned
  · have hsigned : (e.natAbs : Int) = e := by omega
    simp only [Numeral.exponent?, h, if_false, Numeral.sign, nat?_toDigits]
    exact congrArg some hsigned

end Decimal

namespace Interval

/-- What is found on a grid is one of the two neighbours there. -/
theorem digits_search_le (i : Interval) (tie : Tie) (k : Int) (grids : Nat) :
    (i.search tie k grids).exponent ≤ k ∧ (i.search tie k grids).digits ≤
      i.value * tenTo (-(i.search tie k grids).exponent) / (i.unit * tenTo (i.search tie k grids).exponent) + 1 := by
  induction grids generalizing k with
  | zero => exact ⟨Int.le_refl k, Nat.le_succ _⟩
  | succ grids ih =>
    unfold search
    dsimp only
    split
    · refine ⟨Int.le_refl k, ?_⟩
      unfold nearer
      dsimp only
      split
      · exact Nat.le_succ _
      split
      · exact Nat.le_refl _
      cases tie with
      | up => exact Nat.le_refl _
      | toEven => exact Nat.add_le_add_left (Nat.le_of_lt_succ (Nat.mod_lt _ (by decide))) _
    · exact ⟨Int.le_refl k, Nat.le_succ _⟩
    · exact ⟨Int.le_refl k, Nat.le_refl _⟩
    · obtain ⟨hle, hdigits⟩ := ih (k - 1)
      exact ⟨Int.le_trans hle (Int.sub_le_self k (by decide)), hdigits⟩

theorem pointAt_search_le {i : Interval} {n : Nat} (h : i.value < i.unit * 10 ^ n) (tie : Tie) (k : Int) (grids : Nat) :
    (i.search tie k grids).pointAt ≤ n + 1 + max k 0 := by
  obtain ⟨hle, hdigits⟩ := i.digits_search_le tie k grids
  generalize i.search tie k grids = d at hle hdigits ⊢
  have hbelow : i.value * tenTo (-d.exponent) < i.unit * tenTo d.exponent * 10 ^ (n + (-d.exponent).toNat) :=
    calc i.value * tenTo (-d.exponent) < i.unit * 10 ^ n * tenTo (-d.exponent) :=
          Nat.mul_lt_mul_of_pos_right h (tenTo_pos _)
      _ = i.unit * 1 * 10 ^ (n + (-d.exponent).toNat) := by
          rw [Nat.pow_add, Nat.mul_one, Nat.mul_assoc]
          rfl
      _ ≤ i.unit * tenTo d.exponent * 10 ^ (n + (-d.exponent).toNat) :=
          Nat.mul_le_mul_right _ (Nat.mul_le_mul_left _ (tenTo_pos _))
  have hpower : d.digits ≤ 10 ^ (n + (-d.exponent).toNat) :=
    Nat.le_trans hdigits (Nat.div_lt_of_lt_mul hbelow)
  have := Decimal.pointAt_le hpower
  omega

end Interval

namespace Binary64

variable {x : Binary64}

theorem pointAt_shortest_le (h : x.exponent ≤ 22) (tie : Tie) : (x.shortest tie).pointAt ≤ 50 := by
  let i := Interval.around x
  have hsignificand := @significand_lt x
  have hvalue : i.value < 2 ^ 75 := by
    have hpower : (x.exponent - 2).toNat ≤ 20 := by omega
    calc 4 * x.significand * 2 ^ (x.exponent - 2).toNat < 4 * (2 * leadingBit) * 2 ^ (x.exponent - 2).toNat :=
          Nat.mul_lt_mul_of_pos_right (by omega) (Nat.two_pow_pos _)
      _ ≤ 4 * (2 * leadingBit) * 2 ^ 20 := Nat.mul_le_mul_left _ (Nat.pow_le_pow_right (by decide) hpower)
      _ = 2 ^ 75 := by decide
  have hten : i.value < i.unit * 10 ^ 23 :=
    calc i.value < 1 * 10 ^ 23 := Nat.lt_of_lt_of_le hvalue (by decide)
      _ ≤ i.unit * 10 ^ 23 := Nat.mul_le_mul_right _ (twoTo_pos _)
  have hlog : i.value.log2 < 75 := by
    by_cases h0 : i.value = 0
    · rw [h0]
      decide
    · exact (Nat.log2_lt h0).mpr hvalue
  unfold shortest
  split
  · decide
  · have hgrid := i.digitsBefore_le
    have := Interval.pointAt_search_le hten tie (i.digitsBefore - 1) 17
    rw [Decimal.pointAt_normalize]
    show (i.search tie (i.digitsBefore - 1) 17).pointAt ≤ 50
    omega

/-- What is written for a number below 2 ^ 75, up to its sign, is read as some number. -/
theorem exists_asFloat?_documentText (h : x.exponent ≤ 22) : ∃ y, Json.asFloat? (.number x.documentText) = some y := by
  have hpoint := pointAt_shortest_le h .toEven
  generalize hd : x.shortest .toEven = d at hpoint
  have hminus : (if x.negative then ['-'] else []) = [] ∨ (if x.negative then ['-'] else []) = ['-'] := by
    split <;> simp
  unfold documentText
  rw [hd]
  dsimp only
  split
  · obtain ⟨whole, ds, hcs, hwhole, hds, hlen⟩ := d.exists_positional
    rw [hcs, ← List.append_nil ('.' :: ds)]
    exact Json.exists_asFloat? (toList_signed x _) hminus hwhole (.inr ⟨ds, rfl, hds⟩) (by simp) rfl (by omega)
  · obtain ⟨c, fraction, hcs, hc, hfraction⟩ := d.exists_scientific
    have hpower := Decimal.exponent?_signed (d.pointAt - 1)
    have hlen : (([c] : List Char).length : Int) = 1 := rfl
    rw [hcs]
    exact Json.exists_asFloat? (toList_signed x _) hminus hc hfraction (by simp) hpower (by omega)

end Binary64

end PocketSql
