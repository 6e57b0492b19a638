/-
  PocketSql.Proofs.Value.Coerced — a coerced value is coerced to itself.

  A value of any type but the fractional ones is shown as a text that the type reads as that
  value (`coerce_display`). Dates and times are read in several forms and written in one,
  which is among those that are read, for every year in range and in a leap second too; a
  text in none of the forms stays as it is, and stays in none of them.
-/

import PocketSql.Proofs.Calendar.Written
import PocketSql.Proofs.Value.Compared

namespace PocketSql

/-! ## Dates and times in their normal forms -/

namespace Scan

theorem run_date {d : Date} (h : d.isValid = true) (rest : List Char) :
    date.run (d.chars ++ rest) = some (d, rest) := by
  simp only [Date.chars, List.append_assoc, List.cons_append]
  rw [date, run_bind (run_year _ (by simp))]
  exact run_dateAfterYear (fun _ _ _ => rfl) h rest

/-- One space is passed over in front of a digit. -/
theorem run_blanks_space {c : Char} (hc : c.isDigit = true) (cs : List Char) :
    blanks.run (' ' :: c :: cs) = some ((), c :: cs) := by
  show some ((), Text.trimLeft (' ' :: c :: cs)) = _
  simp [Text.trimLeft, Text.isBlank_of_isDigit hc, show Text.isBlank ' ' = true from rfl]

end Scan

namespace Date

variable {d : Date} {cs : List Char}

theorem isValid_of_ofChars? (h : ofChars? cs = some d) : d.isValid = true :=
  (Option.filter_eq_some_iff.mp h).2

/-- A date is read from its text. -/
theorem ofChars?_chars (h : d.isValid = true) : ofChars? d.chars = some d := by
  have hread := Scan.run_date h []
  rw [List.append_nil] at hread
  rw [ofChars?, Scan.whole?_eq_some hread]
  exact Option.filter_some_pos h

theorem not_isBlank_head?_chars (d : Date) : ∀ c ∈ d.chars.head?, Text.isBlank c = false := by
  have hyear : ∃ c more, yearChars d.year = c :: more ∧ Text.isBlank c = false := by
    unfold yearChars
    split
    · obtain ⟨c, more, hc, hd⟩ := (digits_paddedDigits 4 d.year.toNat).head
      exact ⟨c, more, hc, Text.isBlank_of_isDigit hd⟩
    · exact ⟨_, _, rfl, by split <;> rfl⟩
  obtain ⟨c, more, hc, hb⟩ := hyear
  simp [chars, hc, hb]

end Date

/-- A text that ends in padded digits ends in no white space. -/
theorem not_isBlank_getLast?_paddedDigits (cs : List Char) (width n : Nat) :
    ∀ c ∈ (cs ++ paddedDigits width n).getLast?, Text.isBlank c = false := by
  have hdigits := digits_paddedDigits width n
  intro c hc
  rw [List.getLast?_append, List.getLast?_eq_some_getLast hdigits.nonempty, Option.some_or] at hc
  cases hc
  exact Text.isBlank_of_isDigit (hdigits.digits _ (List.getLast_mem _))

theorem Date.trim_chars (d : Date) : Text.trim (String.ofList d.chars) = String.ofList d.chars := by
  apply Text.trim_of_ends
  · rw [String.toList_ofList]
    exact d.not_isBlank_head?_chars
  · have hends := not_isBlank_getLast?_paddedDigits (yearChars d.year ++ '-' :: paddedDigits 2 d.month ++ ['-']) 2 d.day
    simpa [chars] using hends

namespace DateTime

variable {t : DateTime} {cs : List Char}

theorem isValid_of_ofChars? (h : ofChars? cs = some t) : t.isValid = true := by
  obtain ⟨form, -, hform⟩ := List.exists_of_findSome?_eq_some h
  exact (Option.filter_eq_some_iff.mp hform).2

theorem isValid_date (h : t.isValid = true) : t.date.isValid = true := by
  simp only [isValid, Bool.and_eq_true] at h
  exact h.1.1.1

/-- The first form is the one that dates and times are written in. -/
theorem ofChars?_chars (h : t.isValid = true) : ofChars? (t.chars ' ') = some t := by
  have hread : spaced.run (t.chars ' ') = some (t, []) := by
    obtain ⟨c, more, hc, hd⟩ := (digits_paddedDigits 2 t.hour).head
    have htime : ∃ cs, t.timeChars = c :: cs := ⟨_, by rw [timeChars, hc]; rfl⟩
    obtain ⟨cs, htime⟩ := htime
    have hclock : (Scan.timeOf (pure ()) t.date).run (t.timeChars ++ []) = _ :=
      Scan.run_timeOf (fun _ _ _ => rfl) h []
    rw [List.append_nil, htime] at hclock
    rw [spaced, chars, Scan.run_bind (Scan.run_date (isValid_date h) _), htime,
      Scan.run_bind (Scan.run_blanks_space hd cs), hclock]
  rw [ofChars?, List.findSome?_cons, Scan.whole?_eq_some hread, Option.filter_some_pos h]

theorem trim_chars (t : DateTime) : Text.trim (String.ofList (t.chars ' ')) = String.ofList (t.chars ' ') := by
  apply Text.trim_of_ends
  · have hne : t.date.chars ≠ [] := by simp [Date.chars]
    rw [String.toList_ofList, chars, List.head?_append, List.head?_eq_some_head hne, Option.some_or,
      ← List.head?_eq_some_head hne]
    exact t.date.not_isBlank_head?_chars
  · have hends := not_isBlank_getLast?_paddedDigits
      (t.date.chars ++ ' ' :: paddedDigits 2 t.hour ++ ':' :: paddedDigits 2 t.minute ++ [':']) 2 t.second
    simpa [chars, timeChars] using hends

end DateTime

/-! ## Coercion -/

namespace Value

variable {d : Date} {t : DateTime}

theorem normalizeDate_chars (h : d.isValid = true) : normalizeDate (String.ofList d.chars) = String.ofList d.chars := by
  have hread : Date.ofChars? (Text.trim (String.ofList d.chars)).toList = some d := by
    rw [d.trim_chars, String.toList_ofList, Date.ofChars?_chars h]
  unfold normalizeDate
  dsimp only
  rw [hread]

theorem normalizeDateTime_chars (h : t.isValid = true) :
    normalizeDateTime (String.ofList (t.chars ' ')) = String.ofList (t.chars ' ') := by
  have hread : DateTime.ofChars? (Text.trim (String.ofList (t.chars ' '))).toList = some t := by
    rw [t.trim_chars, String.toList_ofList, DateTime.ofChars?_chars h]
  unfold normalizeDateTime
  dsimp only
  rw [hread]

/-- A date in its normal form is the text of a date, or was none to begin with. -/
theorem normalizeDate_cases (raw : String) :
    (∃ d : Date, d.isValid = true ∧ normalizeDate raw = String.ofList d.chars) ∨ normalizeDate raw = raw := by
  unfold normalizeDate
  dsimp only
  split
  · rename_i d hd
    exact .inl ⟨d, Date.isValid_of_ofChars? hd, rfl⟩
  split
  · rename_i t ht
    exact .inl ⟨t.date, DateTime.isValid_date (DateTime.isValid_of_ofChars? ht), rfl⟩
  · exact .inr rfl

theorem normalizeDateTime_cases (raw : String) :
    (∃ t : DateTime, t.isValid = true ∧ normalizeDateTime raw = String.ofList (t.chars ' ')) ∨
      normalizeDateTime raw = raw := by
  unfold normalizeDateTime
  dsimp only
  split
  · rename_i t ht
    exact .inl ⟨t, DateTime.isValid_of_ofChars? ht, rfl⟩
  split
  · rename_i d hd
    have hmidnight : (DateTime.mk d 0 0 0).isValid = true := by simp [DateTime.isValid, Date.isValid_of_ofChars? hd]
    exact .inl ⟨_, hmidnight, rfl⟩
  · exact .inr rfl

theorem normalizeDate_normalizeDate (raw : String) : normalizeDate (normalizeDate raw) = normalizeDate raw := by
  rcases normalizeDate_cases raw with ⟨d, hd, h⟩ | h
  · rw [h, normalizeDate_chars hd]
  · rw [h, h]

theorem normalizeDateTime_normalizeDateTime (raw : String) :
    normalizeDateTime (normalizeDateTime raw) = normalizeDateTime raw := by
  rcases normalizeDateTime_cases raw with ⟨t, ht, h⟩ | h
  · rw [h, normalizeDateTime_chars ht]
  · rw [h, h]

theorem integerOfText?_toString (i : Int64) : integerOfText? (toString i.toInt) = some i := by
  rw [integerOfText?, int?_toString]

theorem coerce_boolean (b : Bool) : coerce (boolean b).display .boolean = boolean b := by
  cases b <;> decide +kernel

/-- The text of a value that a literal was coerced to is coerced to that value again, but
    for fractional types. A text in the normal form of a date, or of a date and time, is
    what it is normalised to, and the texts of all dates and times in range are such. -/
theorem coerce_display (raw : String) :
    (∀ type : ColumnType, type.isFractional = false → coerce (coerce raw type).display type = coerce raw type) ∧
    (normalizeDate (normalizeDate raw) = normalizeDate raw ∧
      normalizeDateTime (normalizeDateTime raw) = normalizeDateTime raw) ∧
    (∀ d : Date, d.isValid = true → normalizeDate (String.ofList d.chars) = String.ofList d.chars) ∧
    ∀ t : DateTime, t.isValid = true →
      normalizeDateTime (String.ofList (t.chars ' ')) = String.ofList (t.chars ' ') := by
  refine ⟨fun type htype => ?_, ⟨normalizeDate_normalizeDate raw, normalizeDateTime_normalizeDateTime raw⟩,
    fun d => normalizeDate_chars, fun t => normalizeDateTime_chars⟩
  cases type with
  | int | bigInt | year => simp only [coerce, display, trim_toString, integerOfText?_toString, Option.getD_some]
  | boolean => exact coerce_boolean _
  | date => simp only [coerce, display, normalizeDate_normalizeDate]
  | dateTime | timestamp => simp only [coerce, display, normalizeDateTime_normalizeDateTime]
  | decimal | float | double => cases htype
  | varchar | text | longText | time | blob | json | enum | set => simp only [coerce, display]

/-- A leap second of a year with five digits, and a leap day before the year 0. -/
theorem coerce_display_of_leap_second :
    (ColumnType.timestamp.isFractional = false ∧
      coerce " +12345-1-02 3:04:60.75 " .timestamp = text "+12345-01-02 03:04:60" ∧
      coerce "+12345-01-02 03:04:60" .timestamp = text "+12345-01-02 03:04:60") ∧
    ((Date.mk (-4) 2 29).isValid = true ∧ normalizeDate "-0004-02-29" = "-0004-02-29") ∧
    (DateTime.mk ⟨-4, 2, 29⟩ 23 59 60).isValid = true ∧
      normalizeDateTime "-0004-02-29 23:59:60" = "-0004-02-29 23:59:60" := by
  obtain ⟨htype, -, hdate, htime⟩ := coerce_display " +12345-1-02 3:04:60.75 "
  have hday : (Date.mk (-4) 2 29).isValid = true := by decide
  have hsecond : (DateTime.mk ⟨-4, 2, 29⟩ 23 59 60).isValid = true := by decide
  have hdate := hdate _ hday
  have htime := htime _ hsecond
  have hagain := htype .timestamp rfl
  have hraw : coerce " +12345-1-02 3:04:60.75 " .timestamp = text "+12345-01-02 03:04:60" := by decide +kernel
  have hdateText : String.ofList (Date.mk (-4) 2 29).chars = "-0004-02-29" := by decide +kernel
  have htimeText : String.ofList ((DateTime.mk ⟨-4, 2, 29⟩ 23 59 60).chars ' ') = "-0004-02-29 23:59:60" := by
    decide +kernel
  rw [hdateText] at hdate
  rw [htimeText] at htime
  rw [hraw] at hagain
  exact ⟨⟨rfl, hraw, hagain⟩, ⟨hday, hdate⟩, hsecond, htime⟩

end Value

end PocketSql
