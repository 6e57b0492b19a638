/-
  PocketSql.Proofs.Sql.Settled — cleaned text is left as it is.

  A text is settled when the cleaning pass copies it: outside quotes no comment starts in
  it, white space is single spaces, and no semicolon cuts it. Whatever the pass reads, text
  that breaks off in a quote or a comment included, it goes on with settled text
  (`exists_writes`): a sign that is copied is followed by what followed it before, or by the
  one space that stands for a gap. To finish a piece takes characters from its end only, and
  the front of a settled text is settled, even where the end was taken from inside a quote.
  So a piece is in normal form, and the texts in normal form are those that another pass
  does not change (`normalize_eq_self_iff`, `splitStatements_eq_singleton`).
-/

import PocketSql.Proofs.Sql.Cleaning

namespace PocketSql.Sql

/-- Whether cleaning copies a character outside quotes, in front of `rest` and with `done`
    before it: one that starts no gap, or the space that is all there is of one. -/
def stays (split : Bool) (done : List Char) (c : Char) (rest : List Char) : Bool :=
  !startsGap (c :: rest) && !(c == ';' && split) || c == ' ' && withSpace done == ' ' :: done

/-- Whether cleaning copies a text that is read from this place on, with `done` before it. -/
def settled (split : Bool) : Place → List Char → List Char → Bool
  | _, _, [] => true
  | .outside, done, c :: rest =>
    stays split done c rest && settled split (if isQuote c then .quoted c else .outside) (c :: done) rest
  | .quoted q, done, c :: rest =>
    if c == '\\' && q != backtick then settled split (.escaped q) (c :: done) rest
    else settled split (if c == q then .outside else .quoted q) (c :: done) rest
  | .escaped q, done, c :: rest => settled split (.quoted q) (c :: done) rest
  | .lineComment, _, _ :: _ | .blockComment, _, _ :: _ => false

variable {split : Bool} {place : Place} {c : Char} {cs rest done out : List Char} {pieces : List (List Char)}

/-! ## Settled text is copied -/

theorem cleanFrom_of_stays (h : stays split done c rest = true) : cleanFrom split .outside done (c :: rest) =
    cleanFrom split (if isQuote c then .quoted c else .outside) (c :: done) rest := by
  simp only [stays, Bool.or_eq_true, Bool.and_eq_true, Bool.not_eq_true', beq_iff_eq] at h
  rcases h with ⟨hg, hs⟩ | ⟨rfl, hd⟩
  · cases hq : isQuote c with
    | true => exact cleanFrom_open hq done rest
    | false =>
      have hs : c ≠ ';' ∨ split = false := by simpa [imp_iff_not_or] using hs
      exact cleanFrom_copy done hg hq hs
  · rw [cleanFrom_blank (by decide), hd]
    rfl

theorem cleanFrom_of_settled (h : settled split place done cs = true) :
    cleanFrom split place done cs = [finishPiece (cs.reverse ++ done)] := by
  fun_induction settled split place done cs with
  | case1 => simp [cleanFrom]
  | case2 done c rest ih =>
    obtain ⟨hc, hrest⟩ := Bool.and_eq_true_iff.mp h
    rw [cleanFrom_of_stays hc, ih hrest]
    simp
  | case3 q done c rest he ih =>
    rw [cleanFrom, if_pos he, ih h]
    simp
  | case4 q done c rest he ih =>
    rw [cleanFrom, if_neg he, ih h]
    simp
  | case5 q done c rest ih =>
    rw [cleanFrom, ih h]
    simp
  | case6 => cases h
  | case7 => cases h

/-- Whether a character stays hangs on the next one only. -/
theorem stays_of_head? {rest' : List Char} (h : stays split done c rest = true)
    (hh : rest'.head? = none ∨ rest'.head? = some ' ' ∨ rest'.head? = rest.head?) :
    stays split done c rest' = true := by
  simp only [stays, startsGap_cons, Bool.or_eq_true, Bool.and_eq_true, Bool.not_eq_true', Bool.or_eq_false_iff] at h ⊢
  refine h.imp_left fun ⟨⟨⟨hb, hm⟩, hd⟩, hs⟩ => ⟨⟨⟨hb, ?_⟩, ?_⟩, hs⟩
  · rcases hh with hh | hh | hh <;> simp_all
  · rcases hh with hh | hh | hh <;> simp_all

/-- The front of a settled text is settled. -/
theorem settled_of_append {cs' : List Char} (h : settled split place done (cs ++ cs') = true) :
    settled split place done cs = true := by
  fun_induction settled split place done cs with
  | case1 => rfl
  | case2 done c rest ih =>
    obtain ⟨hc, hrest⟩ := Bool.and_eq_true_iff.mp h
    refine Bool.and_eq_true_iff.mpr ⟨stays_of_head? hc ?_, ih hrest⟩
    cases rest <;> simp
  | case3 q done c rest he ih =>
    rw [List.cons_append, settled, if_pos he] at h
    exact ih h
  | case4 q done c rest he ih =>
    rw [List.cons_append, settled, if_neg he] at h
    exact ih h
  | case5 q done c rest ih => exact ih h
  | case6 => cases h
  | case7 => cases h

/-- What no semicolon cuts stays whole where none is to cut. -/
theorem settled_of_split (h : settled true place done cs = true) : settled false place done cs = true := by
  fun_induction settled true place done cs with
  | case1 => simp [settled]
  | case2 done c rest ih =>
    obtain ⟨hc, hrest⟩ := Bool.and_eq_true_iff.mp h
    refine Bool.and_eq_true_iff.mpr ⟨?_, ih hrest⟩
    simp only [stays, Bool.or_eq_true, Bool.and_eq_true, Bool.not_eq_true'] at hc ⊢
    exact hc.imp_left fun hg => ⟨hg.1, Bool.and_false _⟩
  | case3 q done c rest he ih =>
    rw [settled, if_pos he]
    exact ih h
  | case4 q done c rest he ih =>
    rw [settled, if_neg he]
    exact ih h
  | case5 q done c rest ih => exact ih h
  | case6 => cases h
  | case7 => cases h

/-! ## Cleaning writes settled text -/

/-- Where a text goes on after a comment. -/
def Place.resumed : Place → Place
  | .lineComment | .blockComment => .outside
  | place => place

/-- The first of `pieces` is `done` with a settled text after it, and each later one a settled
    text by itself. Outside quotes what is written after a character starts with a space
    or with what comes next, unless that character is a space itself. -/
structure Writes (split : Bool) (place : Place) (done cs out : List Char) (pieces : List (List Char)) : Prop where
  current : pieces.head? = some (finishPiece (out.reverse ++ done))
  settled : settled split place.resumed done out = true
  goesOn : place = .outside → ∀ c ∈ done.head?, c ≠ ' ' →
    out.head? = none ∨ out.head? = some ' ' ∨ out.head? = cs.head?
  later : ∀ piece ∈ pieces.tail, ∃ out, Sql.settled split .outside [] out = true ∧ piece = finishPiece out.reverse

/-- A gap writes one space, or none after another or at the start. -/
theorem Writes.gap {place' : Place} {cs' : List Char} (h : Writes split place' (withSpace done) cs' out pieces)
    (hplace : place'.resumed = .outside) (cs : List Char) : ∃ out, Writes split .outside done cs out pieces := by
  have hsettled := h.settled
  rw [hplace] at hsettled
  by_cases hd : withSpace done = done
  · rw [hd] at hsettled
    refine ⟨out, by rw [h.current, hd], hsettled, fun _ c hc hne => ?_, h.later⟩
    obtain ⟨done, rfl⟩ : ∃ more, done = c :: more := List.head?_eq_some_iff.mp hc
    rw [withSpace_of_ne hne] at hd
    simp at hd
  · have hd : withSpace done = ' ' :: done := by
      unfold withSpace at hd ⊢
      split <;> simp_all
    rw [hd] at hsettled
    refine ⟨' ' :: out, by rw [h.current, hd]; simp, ?_, fun _ _ _ _ => .inr (.inl rfl), h.later⟩
    have hstays : stays split done ' ' out = true := by simp [stays, hd]
    exact Bool.and_eq_true_iff.mpr ⟨hstays, hsettled⟩

/-- A character that is copied comes first in what is written. -/
theorem Writes.copy {place' : Place} {cs' : List Char} (h : Writes split place' (c :: done) cs' out pieces)
    (hsettled : Sql.settled split place.resumed done (c :: out) = true) :
    Writes split place done (c :: rest) (c :: out) pieces :=
  ⟨by rw [h.current]; simp, hsettled, fun _ _ _ _ => .inr (.inr rfl), h.later⟩

/-- Every piece that starts here is a settled text by itself. -/
theorem Writes.exists_of_mem (h : Writes split .outside [] cs out pieces) :
    ∀ piece ∈ pieces, ∃ out, Sql.settled split .outside [] out = true ∧ piece = finishPiece out.reverse := by
  intro piece hpiece
  have hcurrent := h.current
  cases pieces with
  | nil => cases hpiece
  | cons first more =>
    rw [List.head?_cons, List.append_nil, Option.some.injEq] at hcurrent
    rcases List.mem_cons.mp hpiece with rfl | hlater
    · exact ⟨out, h.settled, hcurrent⟩
    · exact h.later piece hlater

theorem stays_of_not_startsGap (hg : startsGap (c :: rest) = false) (hs : ¬(c == ';' && split) = true) :
    stays split done c rest = true := by
  simp [stays, hg, hs]

/-- From any place on, and wherever the text breaks off, cleaning writes settled text. -/
theorem exists_writes (split : Bool) (place : Place) (done cs : List Char) :
    ∃ out, Writes split place done cs out (cleanFrom split place done cs) := by
  fun_induction cleanFrom split place done cs with
  | case1 place done => exact ⟨[], rfl, by simp [settled], fun _ _ _ _ => .inl rfl, by simp⟩
  | case2 q done c rest he ih =>
    obtain ⟨out, ih⟩ := ih
    refine ⟨c :: out, ih.copy ?_⟩
    show settled split (.quoted q) done (c :: out) = true
    rw [settled, if_pos he]
    exact ih.settled
  | case3 q done c rest he ih =>
    obtain ⟨out, ih⟩ := ih
    refine ⟨c :: out, ih.copy ?_⟩
    show settled split (.quoted q) done (c :: out) = true
    have hresumed : (if c == q then Place.outside else .quoted q).resumed = if c == q then .outside else .quoted q := by
      split <;> rfl
    rw [settled, if_neg he, ← hresumed]
    exact ih.settled
  | case4 q done c rest ih =>
    obtain ⟨out, ih⟩ := ih
    exact ⟨c :: out, ih.copy ih.settled⟩
  | case5 done c rest ih =>
    obtain ⟨out, ih⟩ := ih
    have hsettled := ih.settled
    refine ⟨out, ih.current, ?_, by simp, ih.later⟩
    split at hsettled <;> exact hsettled
  | case6 done rest ih =>
    obtain ⟨out, ih⟩ := ih
    exact ⟨out, ih.current, ih.settled, by simp, ih.later⟩
  | case7 done c rest hend ih =>
    obtain ⟨out, ih⟩ := ih
    exact ⟨out, ih.current, ih.settled, by simp, ih.later⟩
  | case8 done rest ih =>
    obtain ⟨out, ih⟩ := ih
    exact ih.gap rfl _
  | case9 done rest ih =>
    obtain ⟨out, ih⟩ := ih
    exact ih.gap rfl _
  | case10 done c rest hminus hslash hq ih =>
    obtain ⟨out, ih⟩ := ih
    have hsemicolon : ¬(c == ';' && split) = true := by
      rw [Bool.and_eq_true, beq_iff_eq]
      rintro ⟨rfl, -⟩
      cases hq
    have hsettled : settled split (if isQuote c then .quoted c else .outside) (c :: done) out = true := by
      rw [if_pos hq]
      exact ih.settled
    exact ⟨c :: out, ih.copy (Bool.and_eq_true_iff.mpr
      ⟨stays_of_not_startsGap (startsGap_of_isQuote hq out) hsemicolon, hsettled⟩)⟩
  | case11 done c rest hminus hslash hq hs ih =>
    obtain ⟨out, ih⟩ := ih
    exact ⟨[], rfl, by simp [settled], fun _ _ _ _ => .inl rfl, ih.exists_of_mem⟩
  | case12 done c rest hminus hslash hq hs hb ih =>
    obtain ⟨out, ih⟩ := ih
    exact ih.gap rfl _
  | case13 done c rest hminus hslash hq hs hb ih =>
    obtain ⟨out, ih⟩ := ih
    have hg : startsGap (c :: rest) = false := by
      rw [startsGap]
      · simpa using hb
      · exact fun more hc hrest => hminus more hc hrest
      · exact fun more hc hrest => hslash more hc hrest
    have hne : c ≠ ' ' := by
      rintro rfl
      exact hb (by decide)
    have hstays : stays split done c out = true :=
      stays_of_head? (stays_of_not_startsGap hg hs) (ih.goesOn rfl c rfl hne)
    have hsettled : settled split (if isQuote c then .quoted c else .outside) (c :: done) out = true := by
      rw [if_neg hq]
      exact ih.settled
    exact ⟨c :: out, ih.copy (Bool.and_eq_true_iff.mpr ⟨hstays, hsettled⟩)⟩

/-! ## Normal forms -/

/-- Whether a text is in normal form: cleaning copies it and takes nothing from its end. -/
def isNormal (split : Bool) (cs : List Char) : Bool :=
  settled split .outside [] cs && cs.getLast?.all isSolid

/-- No white space stands at the start of a settled text. -/
theorem trimLeft_of_settled (h : settled split .outside [] cs = true) : Text.trimLeft cs = cs := by
  cases cs with
  | nil => rfl
  | cons c cs =>
    have hb : Text.isBlank c = false := by
      simp only [settled, stays, startsGap_cons, Bool.and_eq_true, Bool.or_eq_true, Bool.not_eq_true',
        Bool.or_eq_false_iff, beq_iff_eq] at h
      rcases h.1 with hg | hspace
      · exact hg.1.1.1
      · cases hspace.2
    rw [Text.trimLeft, List.dropWhile_cons_of_neg (by simp [hb])]

theorem rdropWhile_eq_self_iff_isSolid :
    (cs.rdropWhile fun c => Text.isBlank c || c == ';') = cs ↔ cs.getLast?.all isSolid = true := by
  rw [List.rdropWhile_eq_self_iff]
  cases hlast : cs.getLast? with
  | none => simp [List.getLast?_eq_none_iff.mp hlast]
  | some c =>
    obtain ⟨front, rfl⟩ := List.getLast?_eq_some_iff.mp hlast
    simp [isSolid]

/-- A settled piece loses nothing but what is loose at its end. -/
theorem finishPiece_of_settled (h : settled split .outside [] cs = true) :
    finishPiece cs.reverse = cs.rdropWhile (fun c => Text.isBlank c || c == ';') ∧
      settled split .outside [] (finishPiece cs.reverse) = true := by
  have hfront : settled split .outside [] (cs.rdropWhile fun c => Text.isBlank c || c == ';') = true := by
    obtain ⟨back, hback⟩ := List.rdropWhile_prefix (fun c => Text.isBlank c || c == ';') (l := cs)
    rw [← hback] at h
    exact settled_of_append h
  have hpiece : finishPiece cs.reverse = cs.rdropWhile (fun c => Text.isBlank c || c == ';') :=
    trimLeft_of_settled hfront
  exact ⟨hpiece, by rw [hpiece]; exact hfront⟩

theorem isNormal_of_mem_cleanFrom {piece : List Char} (h : piece ∈ cleanFrom split .outside [] cs) :
    isNormal split piece = true := by
  obtain ⟨out, hout⟩ := exists_writes split .outside [] cs
  obtain ⟨out, hsettled, rfl⟩ := hout.exists_of_mem piece h
  obtain ⟨hpiece, hfront⟩ := finishPiece_of_settled hsettled
  refine Bool.and_eq_true_iff.mpr ⟨hfront, rdropWhile_eq_self_iff_isSolid.mp ?_⟩
  rw [hpiece]
  exact List.rdropWhile_idempotent _ _

theorem cleanFrom_of_isNormal (h : isNormal split cs = true) : cleanFrom split .outside [] cs = [cs] := by
  obtain ⟨hsettled, hlast⟩ := Bool.and_eq_true_iff.mp h
  rw [cleanFrom_of_settled hsettled, List.append_nil, (finishPiece_of_settled hsettled).1,
    rdropWhile_eq_self_iff_isSolid.mpr hlast]

section Texts

variable {s sql : String}

theorem isNormal_of_mem_clean (h : s ∈ clean split sql) : isNormal split s.toList = true := by
  obtain ⟨piece, hpiece, rfl⟩ := List.mem_map.mp h
  rw [String.toList_ofList]
  exact isNormal_of_mem_cleanFrom hpiece

theorem clean_eq_singleton_iff : clean split s = [s] ↔ isNormal split s.toList = true := by
  refine ⟨fun h => isNormal_of_mem_clean (by simp [h] : s ∈ clean split s), fun h => ?_⟩
  rw [clean, cleanFrom_of_isNormal h, List.map_singleton, String.ofList_toList]

/-- The normal form of a statement is one of the texts that cleaning makes. -/
theorem normalize_eq_ok (h : normalize sql = .ok s) : s ∈ clean false sql ∧ s.isEmpty = false := by
  unfold normalize at h
  split at h
  · cases h
  · rename_i statement hlast
    split at h
    · cases h
    · rename_i hempty
      cases h
      exact ⟨List.mem_of_getLast? hlast, by simpa using hempty⟩

/-- A text is its own normal form where it is in normal form and not empty. -/
theorem normalize_eq_self_iff : normalize s = .ok s ↔ isNormal false s.toList = true ∧ s.isEmpty = false := by
  refine ⟨fun h => ?_, fun ⟨hnormal, hne⟩ => ?_⟩
  · obtain ⟨hmem, hne⟩ := normalize_eq_ok h
    exact ⟨isNormal_of_mem_clean hmem, hne⟩
  · simp [normalize, clean_eq_singleton_iff.mpr hnormal, hne]

theorem splitStatements_eq_singleton_iff :
    splitStatements s = [s] ↔ isNormal true s.toList = true ∧ s.isEmpty = false := by
  refine ⟨fun h => ?_, fun ⟨hnormal, hne⟩ => ?_⟩
  · have hmem : s ∈ splitStatements s := by simp [h]
    obtain ⟨hmem, hne⟩ := List.mem_filter.mp hmem
    exact ⟨isNormal_of_mem_clean hmem, by simpa using hne⟩
  · simp [splitStatements, clean_eq_singleton_iff.mpr hnormal, hne]

theorem normalize_of_normalize (h : normalize sql = .ok s) : normalize s = .ok s := by
  obtain ⟨hmem, hne⟩ := normalize_eq_ok h
  exact normalize_eq_self_iff.mpr ⟨isNormal_of_mem_clean hmem, hne⟩

/-- A statement of a script is a normal form, and a script of that statement alone. -/
theorem normalize_of_mem_splitStatements (h : s ∈ splitStatements sql) :
    normalize s = .ok s ∧ splitStatements s = [s] := by
  obtain ⟨hmem, hne⟩ := List.mem_filter.mp h
  have hne : s.isEmpty = false := by simpa using hne
  obtain ⟨hsettled, hlast⟩ := Bool.and_eq_true_iff.mp (isNormal_of_mem_clean hmem)
  have hwhole : isNormal false s.toList = true := Bool.and_eq_true_iff.mpr ⟨settled_of_split hsettled, hlast⟩
  exact ⟨normalize_eq_self_iff.mpr ⟨hwhole, hne⟩,
    splitStatements_eq_singleton_iff.mpr ⟨isNormal_of_mem_clean hmem, hne⟩⟩

end Texts

end PocketSql.Sql
