/-
  PocketSql.Proofs.Sql.Tidy — cleaned text has no comments.

  A text is tidy when no comment starts in it outside quotes. What cleaning copies is tidy,
  and so are all normal forms (`tidy_of_normalize`).
-/

import PocketSql.Proofs.Sql.Settled

namespace PocketSql.Sql

/-- Whether a comment starts here, outside quotes. -/
def startsComment : List Char → Bool
  | '-' :: '-' :: _ => true
  | '/' :: '*' :: _ => true
  | _ => false

/-- Whether no comment starts outside quotes, in a text that is read from this place on. -/
def tidy : Place → List Char → Bool
  | _, [] => true
  | .quoted q, c :: rest =>
    if c == '\\' && q != backtick then tidy (.escaped q) rest
    else tidy (if c == q then .outside else .quoted q) rest
  | .escaped q, _ :: rest => tidy (.quoted q) rest
  | _, c :: rest => !startsComment (c :: rest) && tidy (if isQuote c then .quoted c else .outside) rest

variable {c : Char} {cs rest : List Char} {place : Place}

theorem startsComment_cons (c : Char) (rest : List Char) : startsComment (c :: rest) =
    ((c == '-' && rest.head? == some '-') || (c == '/' && rest.head? == some '*')) := by
  unfold startsComment
  split
  · rename_i h
    cases h
    simp
  · rename_i h
    cases h
    simp
  · rename_i h1 h2
    cases rest with
    | nil => simp
    | cons d rest =>
      have h1 : ¬(c = '-' ∧ d = '-') := fun ⟨hc, hd⟩ => h1 rest (by rw [hc, hd])
      have h2 : ¬(c = '/' ∧ d = '*') := fun ⟨hc, hd⟩ => h2 rest (by rw [hc, hd])
      rw [Bool.eq_iff_iff]
      simp [h1, h2]

theorem tidy_outside (h : startsComment (c :: rest) = false) (hq : isQuote c = false) :
    tidy .outside (c :: rest) = tidy .outside rest := by
  simp [tidy, h, hq]

theorem tidy_open (h : isQuote c = true) : tidy .outside (c :: rest) = tidy (.quoted c) rest := by
  have hc : startsComment (c :: rest) = false := by
    simp only [isQuote, Bool.or_eq_true, beq_iff_eq] at h
    rcases h with (rfl | rfl) | rfl <;> simp [startsComment_cons, backtick]
  simp [tidy, hc, h]

theorem not_startsComment_of_isBlank (h : Text.isBlank c = true) (rest : List Char) :
    startsComment (c :: rest) = false ∧ isQuote c = false := by
  have hne : c ≠ '-' ∧ c ≠ '/' ∧ isQuote c = false := by
    refine ⟨?_, ?_, ?_⟩
    · rintro rfl
      exact absurd h (by decide)
    · rintro rfl
      exact absurd h (by decide)
    · rw [Bool.eq_false_iff]
      intro hq
      simp only [isQuote, Bool.or_eq_true, beq_iff_eq] at hq
      rcases hq with (rfl | rfl) | rfl <;> exact absurd h (by decide)
  exact ⟨by simp [startsComment_cons, hne.1, hne.2.1], hne.2.2⟩

theorem tidy_blank (h : Text.isBlank c = true) (rest : List Char) : tidy .outside (c :: rest) = tidy .outside rest := by
  obtain ⟨hc, hq⟩ := not_startsComment_of_isBlank h rest
  exact tidy_outside hc hq

theorem tidy_trimLeft (h : tidy .outside cs = true) : tidy .outside (Text.trimLeft cs) = true := by
  induction cs with
  | nil => rfl
  | cons c cs ih =>
    unfold Text.trimLeft at ih ⊢
    by_cases hb : Text.isBlank c = true
    · rw [List.dropWhile_cons_of_pos hb]
      rw [tidy_blank hb] at h
      exact ih h
    · rw [List.dropWhile_cons_of_neg hb]
      exact h

/-! ## Cleaning -/

/-- What cleaning copies is tidy. -/
theorem tidy_of_settled {split : Bool} {done : List Char} (h : settled split place done cs = true) :
    tidy place cs = true := by
  fun_induction settled split place done cs with
  | case1 => simp [tidy]
  | case2 done c rest ih =>
    obtain ⟨hc, hrest⟩ := Bool.and_eq_true_iff.mp h
    have hcomment : startsComment (c :: rest) = false := by
      simp only [stays, startsGap_cons, Bool.or_eq_true, Bool.and_eq_true, Bool.not_eq_true', Bool.or_eq_false_iff,
        beq_iff_eq] at hc
      rw [startsComment_cons, Bool.or_eq_false_iff]
      rcases hc with ⟨⟨⟨-, hm⟩, hd⟩, -⟩ | ⟨rfl, -⟩
      · exact ⟨hm, hd⟩
      · exact ⟨rfl, rfl⟩
    rw [tidy, hcomment, ih hrest]
    · rfl
    · simp
    · simp
  | case3 q done c rest he ih =>
    rw [tidy, if_pos he]
    exact ih h
  | case4 q done c rest he ih =>
    rw [tidy, if_neg he]
    exact ih h
  | case5 q done c rest ih => exact ih h
  | case6 => cases h
  | case7 => cases h

theorem tidy_of_normalize {sql n : String} (h : normalize sql = .ok n) : tidy .outside n.toList = true :=
  tidy_of_settled (Bool.and_eq_true_iff.mp (isNormal_of_mem_clean (normalize_eq_ok h).1)).1

end PocketSql.Sql
