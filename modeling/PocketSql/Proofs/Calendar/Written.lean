/-
  PocketSql.Proofs.Calendar.Written — instants come back from their text.

  The days of a date count back to the number that the date was made from
  (`toDays_ofDays`), for any number of days. Every part of an instant is written with as
  many digits as its reader takes, so that the parts are read one after the other up to
  the `Z` at the end.
-/

import Mathlib.Algebra.Group.Nat.Defs
import PocketSql.Calendar.Reading
import PocketSql.Calendar.Writing
import PocketSql.Proofs.Number.Written
import PocketSql.Proofs.Text.Blank

namespace PocketSql

/-! ## Days -/

namespace Date

/-- The year that holds a day of an era is one of the era's 400. -/
theorem yearOfEra_bounds {d y : Int} (h0 : 0 ≤ d) (h1 : d < 146097)
    (hy : y = (d - d / 1460 + d / 36524 - d / 146096) / 365) :
    0 ≤ y ∧ y < 400 := by
  omega

/-- No year starts after a day that is counted in it. -/
theorem dayOfYear_nonneg {d y : Int} (h0 : 0 ≤ d) (h1 : d < 146097)
    (hy : y = (d - d / 1460 + d / 36524 - d / 146096) / 365) : 365 * y + y / 4 - y / 100 ≤ d := by
  have hlow : 365 * y ≤ d - d / 1460 + d / 36524 - d / 146096 := by omega
  have he : d / 36524 ≤ d / 1460 := by omega
  have hg : y / 4 ≤ d / 1460 := by omega
  clear hy
  refine Int.not_lt.mp fun hlt => ?_
  have hmany : y / 100 + 1 ≤ d / 36524 := by omega
  omega

/-- Nor does it end before. -/
theorem dayOfYear_le {d y : Int} (h0 : 0 ≤ d) (h1 : d < 146097)
    (hy : y = (d - d / 1460 + d / 36524 - d / 146096) / 365) : d ≤ 365 * y + y / 4 - y / 100 + 365 := by
  have hb := yearOfEra_bounds h0 h1 hy
  have hhigh : d - d / 1460 + d / 36524 - d / 146096 ≤ 365 * y + 364 := by omega
  clear hy
  refine Int.not_lt.mp fun hlt => ?_
  have hg : d / 1460 ≤ y / 4 + 1 := by omega
  have hmany : d / 36524 ≤ y / 100 - 1 + d / 146096 := by omega
  have hlast : d / 146096 = 0 ∨ d = 146096 := by omega
  rcases hlast with hlast | rfl <;> omega

/-- A number of days is that of the date it leads to. -/
theorem toDays_ofDays (n : Int) : (ofDays n).toDays = n := by
  have hera : ∀ m : Int, Int.fdiv m 146097 = m / 146097 := fun m => Int.fdiv_eq_ediv_of_nonneg m (by decide)
  have hcent : ∀ m : Int, Int.fdiv m 400 = m / 400 := fun m => Int.fdiv_eq_ediv_of_nonneg m (by decide)
  unfold ofDays
  dsimp only
  rw [hera]
  generalize hd : n + 719468 - (n + 719468) / 146097 * 146097 = d
  generalize hy : (d - d / 1460 + d / 36524 - d / 146096) / 365 = y
  have h0 : 0 ≤ d := by omega
  have h1 : d < 146097 := by omega
  have hyear := yearOfEra_bounds h0 h1 hy.symm
  have hlow := dayOfYear_nonneg h0 h1 hy.symm
  have hhigh := dayOfYear_le h0 h1 hy.symm
  clear hy
  generalize hdoy : d - (365 * y + y / 4 - y / 100) = k
  generalize hp : (5 * k + 2) / 153 = p
  generalize hm : (if p < 10 then (p + 3).toNat else (p - 9).toNat) = m
  have hmarch : (((m + 9) % 12 : Nat) : Int) = p := by
    split at hm <;> omega
  have hyears : ∀ z : Int, (if m ≤ 2 then (if m ≤ 2 then z + 1 else z) - 1 else if m ≤ 2 then z + 1 else z) = z := by
    intro z
    split <;> omega
  unfold toDays
  dsimp only
  rw [hcent, hyears, hmarch]
  have hcentury : (y + (n + 719468) / 146097 * 400) / 400 = (n + 719468) / 146097 := by omega
  have hyear' : y + (n + 719468) / 146097 * 400 - (n + 719468) / 146097 * 400 = y := by omega
  rw [hcentury, hyear']
  omega
end Date

/-! ## Digits -/

theorem digits_paddedDigits (width n : Nat) : Json.Digits (paddedDigits width n) := by
  refine ⟨by simp [paddedDigits, Nat.toDigits_ne_nil], fun c hc => ?_⟩
  rcases List.mem_append.mp hc with hc | hc
  · rw [List.eq_of_mem_replicate hc]
    rfl
  · exact isDigit_of_mem_toDigits hc

theorem value_paddedDigits (width n : Nat) : Numeral.value (paddedDigits width n) = n := by
  have hvalue : Numeral.value (paddedDigits width n) = Nat.ofDigitChars 10 (paddedDigits width n) 0 := rfl
  rw [hvalue, paddedDigits, Nat.ofDigitChars_append, Nat.ofDigitChars_replicate_zero, Nat.mul_zero]
  exact Nat.ofDigitChars_ten_toDigits

theorem length_paddedDigits {width n : Nat} (hw : 0 < width) (hn : n < 10 ^ width) :
    (paddedDigits width n).length = width := by
  have hlen := (Nat.length_toDigits_le_iff (by decide) hw).mpr hn
  simp only [paddedDigits, List.length_append, List.length_replicate]
  omega

namespace Scan

variable {ds rest : List Char} {low high n width : Nat}

variable {α β : Type} {scan : Scan α} {f : α → Scan β} {a : α}

/-- What is read first is passed on, with the text that is left. -/
theorem run_bind {cs rest : List Char} (h : scan.run cs = some (a, rest)) : (scan >>= f).run cs = (f a).run rest := by
  rw [StateT.run_bind, h]
  rfl

theorem whole?_eq_some {cs : List Char} (h : scan.run cs = some (a, [])) : whole? scan cs = some a := by
  have hfinish : (scan <* finish).run cs = some (a, []) := by
    rw [seqLeft_eq_bind, run_bind h]
    rfl
  rw [whole?, hfinish]
  rfl

theorem run_get (cs : List Char) : (get : Scan (List Char)).run cs = some (cs, cs) :=
  rfl

theorem run_set (cs rest : List Char) : (set rest : Scan Unit).run cs = some ((), rest) :=
  rfl

theorem run_blanks {c : Char} (hc : Text.isBlank c = false) (cs : List Char) :
    blanks.run (c :: cs) = some ((), c :: cs) := by
  show some ((), Text.trimLeft (c :: cs)) = _
  simp [Text.trimLeft, hc]

theorem run_oneOf {c : Char} {cs : List Char} (hc : c ∈ cs) (rest : List Char) :
    (oneOf cs).run (c :: rest) = some ((), rest) := by
  simp [oneOf, hc]

/-- Digits are read as one number up to the reader's width, or up to what is no digit. -/
theorem run_number (rest : List Char) (hd : Json.Digits ds) (hw : ds.length ≤ width)
    (hr : ds.length = width ∨ ∀ c ∈ rest.head?, c.isDigit = false) :
    (number width).run (ds ++ rest) = some (Numeral.value ds, rest) := by
  have htake : ((ds ++ rest).takeWhile Char.isDigit).take width = ds := by
    rw [List.takeWhile_append_of_pos hd.digits]
    rcases hr with hr | hr
    · rw [← hr, List.take_left']
      rfl
    · have hnone : rest.takeWhile Char.isDigit = [] := by
        cases rest with
        | nil => rfl
        | cons c rest => simp [hr c rfl]
      rw [hnone, List.append_nil, List.take_of_length_le hw]
  simp only [number, StateT.run_bind, StateT.run_get, pure_bind, htake]
  simp [hd.nonempty]

theorem run_field (hl : low ≤ n) (hh : n ≤ high) (hn : n < 100) (rest : List Char) :
    (field low high).run (paddedDigits 2 n ++ rest) = some (n, rest) := by
  have hlen : (paddedDigits 2 n).length = 2 := length_paddedDigits (by decide) hn
  have hread := run_number rest (digits_paddedDigits 2 n) (by omega) (.inl hlen)
  obtain ⟨c, more, hc, hd⟩ := (digits_paddedDigits 2 n).head
  have hblank : blanks.run (paddedDigits 2 n ++ rest) = some ((), paddedDigits 2 n ++ rest) := by
    rw [hc]
    exact run_blanks (Text.isBlank_of_isDigit hd) _
  rw [field, run_bind hblank, run_bind hread, value_paddedDigits, if_pos (by simp [hl, hh])]
  rfl

/-- A year is read up to what is no digit. -/
theorem run_year (y : Int) (hr : ∀ c ∈ rest.head?, c.isDigit = false) :
    year.run (Date.yearChars y ++ rest) = some (y, rest) := by
  unfold Date.yearChars
  split
  · rename_i hy
    have hlen : (paddedDigits 4 y.toNat).length = 4 := length_paddedDigits (by decide) (by omega)
    have hread := run_number rest (digits_paddedDigits 4 y.toNat) (by omega) (.inl hlen)
    have hback : ((y.toNat : Nat) : Int) = y := by omega
    rw [value_paddedDigits] at hread
    obtain ⟨c, more, hc, hd⟩ := (digits_paddedDigits 4 y.toNat).head
    rw [hc, List.cons_append] at hread ⊢
    rw [year, run_bind (run_blanks (Text.isBlank_of_isDigit hd) _), run_bind (run_get _)]
    split
    · rename_i h
      cases h
      cases hd
    · rename_i h
      cases h
      cases hd
    · rw [run_bind hread, hback]
      rfl
  · have hread : (number (paddedDigits 4 y.natAbs ++ rest).length).run (paddedDigits 4 y.natAbs ++ rest) =
        some (y.natAbs, rest) := by
      rw [run_number _ (digits_paddedDigits 4 y.natAbs) (by simp) (.inr hr), value_paddedDigits]
    split
    · have hback : -((y.natAbs : Nat) : Int) = y := by omega
      rw [year, List.cons_append, run_bind (run_blanks rfl _), run_bind (run_get _)]
      split
      · rename_i h
        cases h
        rw [run_bind (run_set _ _), run_bind hread, hback]
        rfl
      · rename_i h
        cases h
      · rename_i hm _
        exact absurd rfl (hm _)
    · have hback : ((y.natAbs : Nat) : Int) = y := by omega
      rw [year, List.cons_append, run_bind (run_blanks rfl _), run_bind (run_get _)]
      split
      · rename_i h
        cases h
      · rename_i h
        cases h
        rw [run_bind (run_set _ _), run_bind hread, hback]
        rfl
      · rename_i hp
        exact absurd rfl (hp _)

/-- What is read between the parts of a date or time is nothing where no white space is. -/
def Passes (gap : Scan Unit) : Prop :=
  ∀ c cs, Text.isBlank c = false → gap.run (c :: cs) = some ((), c :: cs)

theorem passes_blanks : Passes blanks :=
  fun _ cs h => run_blanks h cs

theorem run_dateAfterYear {gap : Scan Unit} (hg : Passes gap) {d : Date} (hd : d.isValid = true) (rest : List Char) :
    (dateAfterYear gap d.year).run ('-' :: (paddedDigits 2 d.month ++ '-' :: (paddedDigits 2 d.day ++ rest))) =
      some (d, rest) := by
  simp only [Date.isValid, Bool.and_eq_true, decide_eq_true_eq] at hd
  obtain ⟨⟨⟨⟨-, hm⟩, hm'⟩, hday⟩, hday'⟩ := hd
  have hlast : d.day ≤ 31 := by
    refine Nat.le_trans hday' ?_
    unfold Date.daysInMonth
    split <;> (try split) <;> decide
  rw [dateAfterYear, run_bind (hg _ _ rfl), run_bind (run_oneOf (by decide) _),
    run_bind (run_field hm hm' (by omega) _), run_bind (hg _ _ rfl), run_bind (run_oneOf (by decide) _),
    run_bind (run_field hday hlast (by omega) _)]
  rfl

theorem run_timeOf {gap : Scan Unit} (hg : Passes gap) {t : DateTime} (ht : t.isValid = true) (rest : List Char) :
    (timeOf gap t.date).run (t.timeChars ++ rest) = some (t, rest) := by
  simp only [DateTime.isValid, Bool.and_eq_true, decide_eq_true_eq] at ht
  obtain ⟨⟨⟨-, hh⟩, hm⟩, hs⟩ := ht
  simp only [DateTime.timeChars, List.append_assoc, List.cons_append]
  rw [timeOf, run_bind (run_field (Nat.zero_le _) hh (by omega) _), run_bind (hg _ _ rfl),
    run_bind (run_oneOf (by decide) _), run_bind (run_field (Nat.zero_le _) hm (by omega) _),
    run_bind (hg _ _ rfl), run_bind (run_oneOf (by decide) _),
    run_bind (run_field (Nat.zero_le _) hs (by omega) _)]
  rfl

theorem run_fraction_digits {k m : Nat} (hk : 0 < k) (hk' : k ≤ 9) (hm : m < 10 ^ k)
    (hr : ∀ c ∈ rest.head?, c.isDigit = false) :
    fraction.run ('.' :: (paddedDigits k m ++ rest)) = some (m * tenTo (9 - k), rest) := by
  have hlen : (paddedDigits k m).length = k := length_paddedDigits hk hm
  have hread : (number 9).run (paddedDigits k m ++ rest) = some (m, rest) := by
    rw [run_number rest (digits_paddedDigits k m) (by omega) (.inr hr), value_paddedDigits]
  have hused : (paddedDigits k m ++ rest).length - rest.length = k := by
    rw [List.length_append, hlen]
    omega
  have hdrop : rest.dropWhile Char.isDigit = rest := by
    cases rest with
    | nil => rfl
    | cons c rest => simp [hr c rfl]
  rw [fraction, run_bind (run_get _)]
  split
  · rename_i h
    cases h
    rw [run_bind (run_set _ _)]
    dsimp only
    rw [run_bind hread, run_bind (run_get _), hused]
    have hmodify : (modify (·.dropWhile Char.isDigit) : Scan Unit).run rest = some ((), rest) := by
      show some ((), rest.dropWhile Char.isDigit) = _
      rw [hdrop]
    rw [run_bind hmodify]
    rfl
  · rename_i h
    exact absurd rfl (h _)

/-- A fraction of a second is read in the precision that it is written with. -/
theorem run_fraction {i : Instant} (hi : i.fraction < 10 ^ 9)
    (hr : ∀ c ∈ rest.head?, c.isDigit = false ∧ c ≠ '.') :
    fraction.run (i.fractionChars ++ rest) = some (i.fraction, rest) := by
  have hdigit := fun c hc => (hr c hc).1
  unfold Instant.fractionChars
  dsimp only
  split
  · rename_i hz
    rw [eq_of_beq hz, List.nil_append, fraction, run_bind (run_get _)]
    split
    · exact absurd rfl (hr '.' rfl).2
    · rfl
  split
  · rename_i hz
    have hback : i.fraction / 1000000 * tenTo (9 - (3 : Nat)) = i.fraction := by
      have := eq_of_beq hz
      show i.fraction / 1000000 * 10 ^ 6 = _
      omega
    rw [List.cons_append, run_fraction_digits (by decide) (by decide) (by omega) hdigit, hback]
  split
  · rename_i hz
    have hback : i.fraction / 1000 * tenTo (9 - (6 : Nat)) = i.fraction := by
      have := eq_of_beq hz
      show i.fraction / 1000 * 10 ^ 3 = _
      omega
    rw [List.cons_append, run_fraction_digits (by decide) (by decide) (by omega) hdigit, hback]
  · rw [List.cons_append, run_fraction_digits (by decide) (by decide) hi hdigit]
    show some (i.fraction * 10 ^ 0, rest) = _
    rw [Nat.pow_zero, Nat.mul_one]

end Scan

namespace Instant

/-- What every instant that a clock shows keeps: a date in range, and a leap second only
    at the end of a minute. -/
structure Valid (i : Instant) : Prop where
  date : i.toDateTime.isValid = true
  nanos : i.nanos < 2 * billion
  leap : i.isLeapSecond = true → i.seconds % 60 = 59

instance (i : Instant) : Decidable i.Valid :=
  decidable_of_iff
    (i.toDateTime.isValid = true ∧ i.nanos < 2 * billion ∧ (i.isLeapSecond = true → i.seconds % 60 = 59))
    ⟨fun h => ⟨h.1, h.2.1, h.2.2⟩, fun h => ⟨h.date, h.nanos, h.leap⟩⟩

variable {i : Instant}

/-- The parts that an instant is shown with lead back to it. -/
theorem Valid.ofLocal_toDateTime (h : i.Valid) : ofLocal i.toDateTime i.fraction 0 = i := by
  have hday : ∀ s : Int, Int.fdiv s 86400 = s / 86400 := fun s => Int.fdiv_eq_ediv_of_nonneg s (by decide)
  obtain ⟨seconds, nanos⟩ := i
  generalize hrest : (seconds - seconds / 86400 * 86400).toNat = rest
  cases hl : (⟨seconds, nanos⟩ : Instant).isLeapSecond with
  | true =>
    have hend : seconds % 60 = 59 := h.leap hl
    have hnanos : 1000000000 ≤ nanos := of_decide_eq_true hl
    have hsecond : rest % 60 + 1 = 60 := by omega
    simp [ofLocal, toDateTime, fraction, hl, Date.toDays_ofDays, secondsPerDay, billion, hday, hrest, hsecond]
    omega
  | false =>
    have hsecond : rest % 60 ≠ 60 := by omega
    simp [ofLocal, toDateTime, fraction, hl, Date.toDays_ofDays, secondsPerDay, hday, hrest, hsecond]
    omega

theorem Valid.fraction_lt (h : i.Valid) : i.fraction < 10 ^ 9 := by
  have hnanos := h.nanos
  unfold fraction isLeapSecond billion at *
  split
  · omega
  · rename_i hl
    exact Nat.lt_of_not_le fun hle => hl (decide_eq_true hle)

theorem toList_text (i : Instant) :
    (i.text "Z").toList = Date.yearChars i.toDateTime.date.year ++
      '-' :: (paddedDigits 2 i.toDateTime.date.month ++ '-' :: (paddedDigits 2 i.toDateTime.date.day ++
        'T' :: (i.toDateTime.timeChars ++ (i.fractionChars ++ ['Z'])))) := by
  simp [text, DateTime.chars, Date.chars]

/-- An instant is read back from its text in a document. -/
theorem Valid.ofText?_text (h : i.Valid) : ofText? (i.text "Z") = some i := by
  have hdate : i.toDateTime.date.isValid = true := by
    have := h.date
    simp only [DateTime.isValid, Bool.and_eq_true] at this
    exact this.1.1.1
  have hread : reading.run (i.text "Z").toList = some (i, []) := by
    rw [toList_text, reading, Scan.run_bind (Scan.run_year _ (by simp)),
      Scan.run_bind (Scan.run_dateAfterYear Scan.passes_blanks hdate _),
      Scan.run_bind (Scan.run_oneOf (by decide) _),
      Scan.run_bind (Scan.run_timeOf Scan.passes_blanks h.date _),
      Scan.run_bind (Scan.run_fraction h.fraction_lt (by simp)),
      Scan.run_bind (Scan.run_blanks rfl _),
      Scan.run_bind (show Scan.offset.run ['Z'] = some (0, []) from rfl),
      Scan.run_bind (show Scan.blanks.run [] = some ((), []) from rfl), if_pos h.date, h.ofLocal_toDateTime]
    rfl
  rw [ofText?, Scan.whole?_eq_some hread]
  exact Option.filter_some_pos h.date

end Instant

end PocketSql
