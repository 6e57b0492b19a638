/-
  PocketSql.Proofs.Document.Text — documents are read back from their compact text.

  The reader takes the characters that a document is written with and leaves what follows
  it, as long as that is the end or goes on like a list (`Readable.value?_chars`). Quoted
  texts come back with every escape undone. Numbers come back as they were written, which
  is part of what makes a document readable.
-/

import PocketSql.Document.Reading

namespace PocketSql.Json

/-! ## Texts -/

theorem code?_control : ∀ n, n < 32 → code? '0' '0' (hexDigit (n / 16)) (hexDigit (n % 16)) = some n := by
  decide

theorem units?_escape_control {c : Char} (hc : c.toNat < 32) {us : List TextUnit} {cs after : List Char}
    (h : units? cs = some (us, after)) :
    units? ('\\' :: 'u' :: '0' :: '0' :: hexDigit (c.toNat / 16) :: hexDigit (c.toNat % 16) :: cs) =
      some (.char c :: us, after) := by
  have hu : unitOfCode c.toNat = .char c := by
    unfold unitOfCode
    rw [if_neg (by simp; omega), Char.ofNat_toNat]
  simp [units?, code?_control c.toNat hc, h, hu]

theorem units?_plain {c : Char} (hq : c ≠ '"') (hb : c ≠ '\\') (hc : ¬ c.toNat < 32) {us : List TextUnit}
    {cs after : List Char} (h : units? cs = some (us, after)) :
    units? (c :: cs) = some (.char c :: us, after) := by
  rw [units?.eq_def]
  split <;> simp_all

theorem units?_short {e c : Char} (he : e ≠ 'u') (hs : shortEscape? e = some c) {us : List TextUnit}
    {cs after : List Char} (h : units? cs = some (us, after)) :
    units? ('\\' :: e :: cs) = some (.char c :: us, after) := by
  simp [units?, he, hs, h]

/-- A character comes back from however it is written in a text. -/
theorem units?_escape (c : Char) {us : List TextUnit} {cs after : List Char} (h : units? cs = some (us, after)) :
    units? (escape c ++ cs) = some (.char c :: us, after) := by
  have control : ∀ n : Nat, c.toNat = n → c = Char.ofNat n := fun n hn => by rw [← hn, Char.ofNat_toNat]
  unfold escape
  split
  · rename_i hc
    rw [eq_of_beq hc]
    exact units?_short (by decide) rfl h
  rename_i hq
  split
  · rename_i hc
    rw [eq_of_beq hc]
    exact units?_short (by decide) rfl h
  rename_i hb
  split
  · rename_i hc
    rw [eq_of_beq hc]
    exact units?_short (by decide) rfl h
  split
  · rename_i hc
    rw [eq_of_beq hc]
    exact units?_short (by decide) rfl h
  split
  · rename_i hc
    rw [eq_of_beq hc]
    exact units?_short (by decide) rfl h
  split
  · rename_i hc
    rw [control 8 (eq_of_beq hc)]
    exact units?_short (by decide) rfl h
  split
  · rename_i hc
    rw [control 12 (eq_of_beq hc)]
    exact units?_short (by decide) rfl h
  split
  · rename_i hc
    exact units?_escape_control hc h
  · rename_i hc
    exact units?_plain (by simpa using hq) (by simpa using hb) hc h

theorem units?_flatMap_escape (cs rest : List Char) :
    units? (cs.flatMap escape ++ '"' :: rest) = some (cs.map .char, rest) := by
  induction cs with
  | nil => rfl
  | cons c cs ih =>
    rw [List.flatMap_cons, List.append_assoc]
    exact units?_escape c ih

theorem joinUnits?_map_char (cs : List Char) : joinUnits? (cs.map .char) = some cs := by
  induction cs with
  | nil => rfl
  | cons c cs ih => simp [joinUnits?, ih]

theorem text?_quote (s : String) (rest : List Char) :
    ∃ cs, quote s ++ rest = '"' :: cs ∧ text? cs = some (some s, rest) := by
  refine ⟨s.toList.flatMap escape ++ '"' :: rest, by simp [quote], ?_⟩
  simp [text?, units?_flatMap_escape, joinUnits?_map_char]

/-! ## Numbers -/

/-- What may follow a document in a compact text. -/
def Ends (rest : List Char) : Prop :=
  ∀ c ∈ rest.head?, c = ',' ∨ c = ']' ∨ c = '\x7d'

theorem Ends.not_digit {rest : List Char} (h : Ends rest) : ∀ c ∈ rest.head?, c.isDigit = false := by
  intro c hc
  rcases h c hc with rfl | rfl | rfl <;> rfl

/-- At least one digit, and nothing else. -/
structure Digits (ds : List Char) : Prop where
  nonempty : ds ≠ []
  digits : ∀ c ∈ ds, c.isDigit = true

/-- The parts of a number as a document may write it. -/
structure NumberText (cs : List Char) : Prop where
  parts : ∃ minus whole fraction exponent, cs = minus ++ whole ++ fraction ++ exponent ∧
    (minus = [] ∨ minus = ['-']) ∧
    (Digits whole ∧ (whole.head? = some '0' → whole.length = 1)) ∧
    (fraction = [] ∨ ∃ ds, fraction = '.' :: ds ∧ Digits ds) ∧
    (exponent = [] ∨ ∃ sign ds, exponent = 'e' :: sign :: ds ∧ (sign = '+' ∨ sign = '-') ∧ Digits ds)

theorem digits_append {ds rest : List Char} (hd : ∀ c ∈ ds, c.isDigit = true)
    (hr : ∀ c ∈ rest.head?, c.isDigit = false) : Numeral.digits (ds ++ rest) = (ds, rest) := by
  unfold Numeral.digits
  rw [List.takeWhile_append_of_pos hd, List.dropWhile_append_of_pos hd]
  cases rest with
  | nil => simp
  | cons c rest => simp [hr c rfl]

theorem someDigits?_append {ds rest : List Char} (hd : Digits ds) (hr : ∀ c ∈ rest.head?, c.isDigit = false) :
    someDigits? (ds ++ rest) = some (ds, rest) := by
  simp [someDigits?, digits_append hd.digits hr, hd.nonempty]

theorem wholePart?_append {ds rest : List Char} (hd : Digits ds) (hz : ds.head? = some '0' → ds.length = 1)
    (hr : ∀ c ∈ rest.head?, c.isDigit = false) : wholePart? (ds ++ rest) = some (ds, rest) := by
  simp only [wholePart?, someDigits?_append hd hr, Option.bind_eq_bind, Option.bind_some]
  rw [if_neg]
  simpa using hz

theorem exponentPart?_append {exponent rest : List Char}
    (he : exponent = [] ∨ ∃ sign ds, exponent = 'e' :: sign :: ds ∧ (sign = '+' ∨ sign = '-') ∧ Digits ds)
    (hr : Ends rest) : exponentPart? (exponent ++ rest) = some (exponent, rest) := by
  rcases he with rfl | ⟨sign, ds, rfl, hs, hd⟩
  · cases rest with
    | nil => rfl
    | cons c rest =>
      have hc : (c == 'e' || c == 'E') = false := by
        rcases hr c rfl with rfl | rfl | rfl <;> rfl
      simp [exponentPart?, hc]
  · have hs : (sign == '+' || sign == '-') = true := by
      rcases hs with rfl | rfl <;> rfl
    simp [exponentPart?, hs, someDigits?_append hd hr.not_digit]

theorem fractionPart?_append {fraction rest : List Char}
    (hf : fraction = [] ∨ ∃ ds, fraction = '.' :: ds ∧ Digits ds)
    (hr : ∀ c ∈ rest.head?, c.isDigit = false ∧ c ≠ '.') :
    fractionPart? (fraction ++ rest) = some (fraction, rest) := by
  rcases hf with rfl | ⟨ds, rfl, hd⟩
  · unfold fractionPart?
    split
    · rename_i h
      exact absurd rfl (hr '.' (by rw [← List.nil_append rest, h]; rfl)).2
    · rfl
  · simp [fractionPart?, someDigits?_append hd fun c hc => (hr c hc).1]

theorem Digits.head {ds : List Char} (hd : Digits ds) : ∃ d more, ds = d :: more ∧ d.isDigit = true := by
  cases ds with
  | nil => exact absurd rfl hd.nonempty
  | cons d more => exact ⟨d, more, rfl, hd.digits d List.mem_cons_self⟩

/-- What a fraction is followed by does not go on with it. -/
theorem not_fraction {exponent rest : List Char}
    (he : exponent = [] ∨ ∃ sign ds, exponent = 'e' :: sign :: ds ∧ (sign = '+' ∨ sign = '-') ∧ Digits ds)
    (hr : Ends rest) : ∀ c ∈ (exponent ++ rest).head?, c.isDigit = false ∧ c ≠ '.' := by
  intro c hc
  rcases he with rfl | ⟨sign, ds, rfl, -, -⟩
  · rcases hr c hc with rfl | rfl | rfl <;> exact ⟨rfl, by decide⟩
  · cases hc
    exact ⟨rfl, by decide⟩

theorem not_whole {fraction exponent rest : List Char}
    (hf : fraction = [] ∨ ∃ ds, fraction = '.' :: ds ∧ Digits ds)
    (he : ∀ c ∈ (exponent ++ rest).head?, c.isDigit = false ∧ c ≠ '.') :
    ∀ c ∈ (fraction ++ (exponent ++ rest)).head?, c.isDigit = false := by
  intro c hc
  rcases hf with rfl | ⟨ds, rfl, -⟩
  · exact (he c hc).1
  · cases hc
    rfl

/-- A number is read as it is written. -/
theorem NumberText.number?_append {cs rest : List Char} (h : NumberText cs) (hr : Ends rest) :
    number? (cs ++ rest) = some (number (String.ofList cs), rest) := by
  obtain ⟨minus, whole, fraction, exponent, rfl, hm, ⟨hw, hz⟩, hf, he⟩ := h.parts
  have hfollow := not_fraction he hr
  have hwhole := wholePart?_append hw hz (not_whole hf hfollow)
  have hfraction := fractionPart?_append hf hfollow
  have hexponent := exponentPart?_append he hr
  rcases hm with rfl | rfl
  · obtain ⟨d, more, rfl, hd⟩ := hw.head
    have hne : d ≠ '-' := by
      rintro rfl
      cases hd
    simp only [List.nil_append, List.append_assoc, List.cons_append] at hwhole ⊢
    unfold number?
    split
    · rename_i h
      split at h
      · rename_i hcs
        cases hcs
        exact absurd rfl hne
      · cases h
        simp [hwhole, hfraction, hexponent, String.append_assoc]
  · simp [number?, hwhole, hfraction, hexponent]

/-! ## Documents -/

/-- What the documents that are written have in common: texts and names that can be read,
    and numbers of the usual form. -/
inductive Readable : Json → Prop
  | null : Readable null
  | bool (b : Bool) : Readable (bool b)
  | number {n : String} : NumberText n.toList → Readable (number n)
  | text (s : String) : Readable (ofString s)
  | array {items : List Json} : (∀ j ∈ items, Readable j) → Readable (array items)
  | object {fields : List (Option String × Json)} :
      (∀ f ∈ fields, f.1.isSome = true) → (∀ f ∈ fields, Readable f.2) → Readable (object fields)

theorem NumberText.head {cs : List Char} (h : NumberText cs) :
    ∃ c more, cs = c :: more ∧ (c = '-' ∨ c.isDigit = true) := by
  obtain ⟨minus, whole, fraction, exponent, rfl, hm, ⟨hw, -⟩, -, -⟩ := h.parts
  obtain ⟨d, more, rfl, hd⟩ := hw.head
  rcases hm with rfl | rfl
  · exact ⟨d, more ++ fraction ++ exponent, by simp, .inr hd⟩
  · exact ⟨'-', d :: more ++ fraction ++ exponent, by simp, .inl rfl⟩

theorem skipSpace_of_not_isSpace {c : Char} (hc : isSpace c = false) (cs : List Char) :
    skipSpace (c :: cs) = c :: cs := by
  simp [skipSpace, hc]

theorem not_isSpace_of_number {c : Char} (hc : c = '-' ∨ c.isDigit = true) : isSpace c = false := by
  rw [Bool.eq_false_iff]
  intro hs
  simp only [isSpace, Bool.or_eq_true, beq_iff_eq] at hs
  rcases hc with rfl | hc
  · rcases hs with ((hs | hs) | hs) | hs <;> exact absurd hs (by decide)
  · rcases hs with ((rfl | rfl) | rfl) | rfl <;> cases hc

theorem not_bracket_of_number {c : Char} (hc : c = '-' ∨ c.isDigit = true) : c ≠ ']' := by
  rintro rfl
  rcases hc with hc | hc <;> exact absurd hc (by decide)

theorem value?_number {cs rest : List Char} (h : NumberText cs) (hr : Ends rest) (fuel : Nat) :
    value? (fuel + 1) (cs ++ rest) = some (number (String.ofList cs), rest) := by
  obtain ⟨c, more, rfl, hc⟩ := h.head
  rw [← h.number?_append hr, value?, List.cons_append, skipSpace_of_not_isSpace (not_isSpace_of_number hc)]
  split
  · rename_i he
    cases he
  all_goals
    first
    | rfl
    | (rename_i he
       cases he
       rcases hc with hc | hc <;> exact absurd hc (by decide))

theorem value?_text (s : String) (rest : List Char) (fuel : Nat) :
    value? (fuel + 1) (quote s ++ rest) = some (ofString s, rest) := by
  obtain ⟨cs, hcs, ht⟩ := text?_quote s rest
  rw [hcs, value?, skipSpace_of_not_isSpace rfl]
  simp [ht, ofString]

theorem Readable.head {j : Json} (h : Readable j) :
    ∃ c more, chars j = c :: more ∧ isSpace c = false ∧ c ≠ ']' := by
  cases h with
  | null => exact ⟨'n', _, rfl, rfl, by decide⟩
  | bool b =>
    cases b with
    | false => exact ⟨'f', _, rfl, rfl, by decide⟩
    | true => exact ⟨'t', _, rfl, rfl, by decide⟩
  | number hn =>
    obtain ⟨c, more, hc, hd⟩ := hn.head
    exact ⟨c, more, hc, not_isSpace_of_number hd, not_bracket_of_number hd⟩
  | text s => exact ⟨'"', _, rfl, rfl, by decide⟩
  | array => exact ⟨'[', _, rfl, rfl, by decide⟩
  | object => exact ⟨'\x7b', _, rfl, rfl, by decide⟩

/-- The reader takes a document's characters when it has fuel for them. -/
def Reads (j : Json) : Prop :=
  ∀ fuel rest, 2 * (chars j).length ≤ fuel → Ends rest → value? fuel (chars j ++ rest) = some (j, rest)

theorem items?_itemChars {items : List Json} (hne : items ≠ []) (h : ∀ j ∈ items, Reads j) {fuel : Nat}
    {rest : List Char} (hf : 2 * (itemChars items).length + 1 ≤ fuel) :
    items? fuel (itemChars items ++ ']' :: rest) = some (items, rest) := by
  induction items generalizing fuel with
  | nil => exact absurd rfl hne
  | cons j items ih =>
    obtain ⟨f, rfl⟩ : ∃ f, fuel = f + 1 := ⟨fuel - 1, by omega⟩
    have hj := h j List.mem_cons_self
    cases items with
    | nil =>
      simp only [itemChars] at hf ⊢
      have hv := hj f (']' :: rest) (by omega) (by simp [Ends])
      simp [items?, hv, skipSpace, isSpace]
    | cons k items =>
      simp only [itemChars, List.length_append, List.length_cons, List.append_assoc, List.cons_append] at hf ⊢
      have hv := hj f (',' :: (itemChars (k :: items) ++ ']' :: rest)) (by omega) (by simp [Ends])
      have hmore : 2 * (itemChars (k :: items)).length + 1 ≤ f := by omega
      have hi := ih (by simp) (fun i hi => h i (List.mem_cons_of_mem _ hi)) hmore
      simp [items?, hv, hi, skipSpace, isSpace]

theorem fields?_fieldChars {fields : List (Option String × Json)} (hne : fields ≠ [])
    (hn : ∀ f ∈ fields, f.1.isSome = true) (h : ∀ f ∈ fields, Reads f.2) {fuel : Nat} {rest : List Char}
    (hf : 2 * (fieldChars fields).length + 1 ≤ fuel) :
    fields? fuel (fieldChars fields ++ '\x7d' :: rest) = some (fields, rest) := by
  induction fields generalizing fuel with
  | nil => exact absurd rfl hne
  | cons field fields ih =>
    obtain ⟨f, rfl⟩ : ∃ f, fuel = f + 1 := ⟨fuel - 1, by omega⟩
    obtain ⟨name, j⟩ := field
    obtain ⟨s, rfl⟩ := Option.isSome_iff_exists.mp (hn _ List.mem_cons_self)
    have hj : Reads j := h _ List.mem_cons_self
    cases fields with
    | nil =>
      simp only [fieldChars, quoted, Option.getD_some, List.length_append, List.length_cons,
        List.append_assoc, List.cons_append] at hf ⊢
      obtain ⟨cs, hcs, ht⟩ := text?_quote s (':' :: (chars j ++ '\x7d' :: rest))
      have hv := hj f ('\x7d' :: rest) (by omega) (by simp [Ends])
      rw [hcs]
      simp [fields?, ht, hv, skipSpace, isSpace]
    | cons k fields =>
      simp only [fieldChars, quoted, Option.getD_some, List.length_append, List.length_cons,
        List.append_assoc, List.cons_append] at hf ⊢
      obtain ⟨cs, hcs, ht⟩ := text?_quote s (':' :: (chars j ++ ',' :: (fieldChars (k :: fields) ++ '\x7d' :: rest)))
      have hv := hj f (',' :: (fieldChars (k :: fields) ++ '\x7d' :: rest)) (by omega) (by simp [Ends])
      have hmore : 2 * (fieldChars (k :: fields)).length + 1 ≤ f := by omega
      have hi := ih (by simp) (fun i hi => hn i (List.mem_cons_of_mem _ hi))
        (fun i hi => h i (List.mem_cons_of_mem _ hi)) hmore
      rw [hcs]
      simp [fields?, ht, hv, hi, skipSpace, isSpace]

theorem itemChars_head {items : List Json} (hne : items ≠ []) (h : ∀ j ∈ items, Readable j) :
    ∃ c more, itemChars items = c :: more ∧ isSpace c = false ∧ c ≠ ']' := by
  cases items with
  | nil => exact absurd rfl hne
  | cons j items =>
    obtain ⟨c, more, hc, hcs⟩ := (h j List.mem_cons_self).head
    cases items with
    | nil => exact ⟨c, more, hc, hcs⟩
    | cons k items => exact ⟨c, more ++ ',' :: itemChars (k :: items), by simp [itemChars, hc], hcs⟩

theorem fieldChars_head {fields : List (Option String × Json)} (hne : fields ≠ []) :
    ∃ more, fieldChars fields = '"' :: more := by
  cases fields with
  | nil => exact absurd rfl hne
  | cons field fields =>
    obtain ⟨name, j⟩ := field
    cases fields <;> exact ⟨_, rfl⟩

/-- A document is read from its characters, and what follows it is left. -/
theorem Readable.value?_chars {j : Json} (h : Readable j) : Reads j := by
  induction h with
  | null =>
    intro fuel rest hf _
    obtain ⟨f, rfl⟩ : ∃ f, fuel = f + 1 := ⟨fuel - 1, by simp [chars] at hf; omega⟩
    rfl
  | bool b =>
    intro fuel rest hf _
    obtain ⟨f, rfl⟩ : ∃ f, fuel = f + 1 := ⟨fuel - 1, by cases b <;> simp [chars] at hf <;> omega⟩
    cases b <;> rfl
  | @number n hn =>
    intro fuel rest hf hr
    have hpos : n.toList ≠ [] := by
      obtain ⟨c, more, hc, -⟩ := hn.head
      simp [hc]
    obtain ⟨f, rfl⟩ : ∃ f, fuel = f + 1 := by
      have := List.length_pos_iff.mpr hpos
      exact ⟨fuel - 1, by simp only [chars] at hf; omega⟩
    simpa [chars] using value?_number hn hr f
  | text s =>
    intro fuel rest hf _
    obtain ⟨f, rfl⟩ : ∃ f, fuel = f + 1 := ⟨fuel - 1, by simp [ofString, chars, quoted, quote] at hf; omega⟩
    exact value?_text s rest f
  | @array items hitems ih =>
    intro fuel rest hf _
    simp only [chars, List.length_append, List.length_cons, List.length_nil, List.cons_append, List.append_assoc,
      List.nil_append] at hf ⊢
    obtain ⟨f, rfl⟩ : ∃ f, fuel = f + 1 := ⟨fuel - 1, by omega⟩
    by_cases hne : items = []
    · subst hne
      rfl
    · obtain ⟨c, more, hc, hs, hb⟩ := itemChars_head hne hitems
      have hi : items? f (itemChars items ++ ']' :: rest) = _ := items?_itemChars hne ih (show _ ≤ f by omega)
      rw [hc, List.cons_append] at hi ⊢
      rw [value?, skipSpace_of_not_isSpace rfl]
      simp only [skipSpace_of_not_isSpace hs]
      split
      · rename_i he
        cases he
        exact absurd rfl hb
      · rw [hi]
        rfl
  | @object fields hn hfields ih =>
    intro fuel rest hf _
    simp only [chars, List.length_append, List.length_cons, List.length_nil, List.cons_append, List.append_assoc,
      List.nil_append] at hf ⊢
    obtain ⟨f, rfl⟩ : ∃ f, fuel = f + 1 := ⟨fuel - 1, by omega⟩
    by_cases hne : fields = []
    · subst hne
      rfl
    · obtain ⟨more, hc⟩ := fieldChars_head hne
      have hi : fields? f (fieldChars fields ++ '\x7d' :: rest) = _ := fields?_fieldChars hne hn ih (show _ ≤ f by omega)
      rw [hc, List.cons_append] at hi ⊢
      rw [value?, skipSpace_of_not_isSpace rfl]
      simp only [skipSpace_of_not_isSpace (show isSpace '"' = false from rfl)]
      split
      · rename_i he
        cases he
      · rw [hi]
        rfl

/-- A document is what its text holds. -/
theorem Readable.ofText?_render {j : Json} (h : Readable j) : ofText? j.render = some j := by
  have hv := h.value?_chars (2 * j.chars.length + 2) [] (by omega) (by simp [Ends])
  rw [List.append_nil] at hv
  simp [ofText?, render, hv, skipSpace]

end PocketSql.Json
