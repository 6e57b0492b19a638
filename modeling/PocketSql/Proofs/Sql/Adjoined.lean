/-
  PocketSql.Proofs.Sql.Adjoined — tokens with no space behind them.

  A parenthesis, a comma or a point may stand right behind the text of a token, which is
  read as that token all the same (`IsTextOf.scan_adjoined`). The one exception is a number
  in front of a point and a digit: if it has no point yet, it goes on with them.
-/

import PocketSql.Proofs.Sql.Piece

namespace PocketSql.Sql

/-- Whether no token goes on with this character, but a number with a point, and none makes
    a comment with it. -/
def isStop (c : Char) : Bool :=
  c == ' ' || c == '(' || c == ')' || c == ',' || c == '.'

/-- Whether a number, with a point in it or not, does not go on with this text. -/
def leavesNumber (hasPoint : Bool) : List Char → Bool
  | '.' :: d :: _ => hasPoint || !d.isDigit
  | _ => true

variable {c q : Char} {seen : Bool} {t : Token} {cs run rest after : List Char}

theorem isStop_cases (h : isStop c = true) : c = ' ' ∨ c = '(' ∨ c = ')' ∨ c = ',' ∨ c = '.' := by
  simpa [isStop, or_assoc] using h

theorem doubleSymbol?_isStop (c : Char) {d : Char} (h : isStop d = true) : doubleSymbol? c d = none := by
  unfold doubleSymbol?
  rcases isStop_cases h with rfl | rfl | rfl | rfl | rfl <;> split <;> simp_all

/-! ## Runs of characters -/

/-- A run of characters that stops by itself stops there in front of a stop too. -/
theorem takeWhile_append_stop {p : Char → Bool} (hall : ∀ d ∈ run, p d = true) (hr : ∀ d ∈ rest.head?, p d = false) :
    (run ++ rest).takeWhile p = run ∧ (run ++ rest).dropWhile p = rest := by
  have hrest : rest.takeWhile p = [] ∧ rest.dropWhile p = rest := by
    cases rest with
    | nil => exact ⟨rfl, rfl⟩
    | cons d rest => simp [hr d rfl]
  rw [List.takeWhile_append_of_pos hall, List.dropWhile_append_of_pos hall, hrest.1, hrest.2, List.append_nil]
  exact ⟨rfl, rfl⟩

/-- A quoted run is read in front of anything but its quote. -/
theorem readQuoted_append (h : readQuoted q cs = some (run, [])) (hr : rest.head? ≠ some q) :
    readQuoted q (cs ++ rest) = some (run, rest) := by
  rw [readQuoted_eq_some_iff] at h ⊢
  induction h with
  | close _ => exact .close hr
  | twice _ ih => exact .twice ih
  | escape hq hb _ ih => exact .escape hq hb ih
  | plain hc he _ ih => exact .plain hc he ih

/-- A number goes on behind its own characters as it would with what follows alone. -/
theorem readNumber_append (h : readNumber seen cs = (cs, [])) (rest : List Char) : readNumber seen (cs ++ rest) =
    (cs ++ (readNumber (seen || cs.contains '.') rest).1, (readNumber (seen || cs.contains '.') rest).2) := by
  fun_induction readNumber seen cs with
  | case1 seen => simp
  | case2 seen c hc =>
    have hne : c ≠ '.' := by
      rintro rfl
      cases hc
    rw [List.singleton_append, readNumber_digit hc]
    simp [hne.symm]
  | case3 => cases h
  | case4 seen c d more hc ds after hread ih =>
    cases h
    have hne : c ≠ '.' := by
      rintro rfl
      cases hc
    rw [List.cons_append, readNumber_digit hc, ih hread]
    simp [hne.symm]
  | case5 seen c d more hc hpoint ds after hread ih =>
    cases h
    have hmore := ih hread
    obtain rfl : c = '.' := by simp_all
    rw [List.cons_append] at hmore ⊢
    rw [List.cons_append, readNumber, if_neg hc, if_pos hpoint, hmore]
    simp
  | case6 seen c d more hc hpoint he ds after hread ih =>
    cases h
    have hne : c ≠ '.' ∧ d ≠ '.' := by
      simp only [Bool.and_eq_true, Bool.or_eq_true, beq_iff_eq] at he
      refine ⟨?_, ?_⟩
      · rintro rfl
        simp at he
      · rintro rfl
        simp at he
    rw [List.cons_append, List.cons_append, readNumber, if_neg hc, if_neg hpoint, if_pos he, ih hread]
    simp [hne.1.symm, hne.2.symm]
  | case7 => cases h

/-- In front of a stop that it does not go on with a number ends. -/
theorem readNumber_stop (hr : ∀ d ∈ rest.head?, isStop d = true) (hp : leavesNumber seen rest = true) :
    readNumber seen rest = ([], rest) := by
  cases rest with
  | nil => rfl
  | cons d rest =>
    have hd := isStop_cases (hr d rfl)
    cases rest with
    | nil => rcases hd with rfl | rfl | rfl | rfl | rfl <;> rfl
    | cons e rest =>
      rcases hd with rfl | rfl | rfl | rfl | rfl
      · rfl
      · rfl
      · rfl
      · rfl
      · have hpoint : (!seen && e.isDigit) = false := by
          simp only [leavesNumber, Bool.or_eq_true, Bool.not_eq_true'] at hp
          rcases hp with hp | hp <;> simp [hp]
        rw [readNumber]
        simp [hpoint]

theorem readNumber_ne_nil (h : leavesNumber seen rest = false) : (readNumber seen rest).1 ≠ [] := by
  unfold leavesNumber at h
  split at h
  · rename_i d more
    rw [Bool.or_eq_false_iff, Bool.not_eq_false'] at h
    rw [readNumber]
    simp [h.1, h.2]
  · cases h

/-! ## Tokens -/

theorem map_cons_eq_ok {ε : Type} {x : Except ε (List Token)} {ts : List Token} :
    x.map (t :: ·) = .ok ts ↔ ∃ us, x = .ok us ∧ ts = t :: us := by
  cases x <;> simp [Except.map, eq_comm]

/-- A number is read from its digits, or from a minus sign and its digits. -/
theorem number_of_token {a : String} (h : token c rest = .ok (.number a, after)) :
    (c.isDigit = true ∧ readNumber false (c :: rest) = (a.toList, after)) ∨
      (c = '-' ∧ ∃ d more ds, rest = d :: more ∧ d.isDigit = true ∧ readNumber false rest = (ds, after) ∧
        a.toList = '-' :: ds) := by
  generalize htoken : Token.number a = t at h
  cases tokenAt_of_token h with
  | quoted =>
    unfold quotedToken at htoken
    split at htoken <;> cases htoken
  | number hd hread =>
    cases htoken
    exact .inl ⟨hd, by rw [hread, String.toList_ofList]⟩
  | word =>
    unfold wordToken at htoken
    split at htoken <;> cases htoken
  | negative hc hmore hd hread =>
    cases htoken
    rw [String.toList_ofList]
    exact .inr ⟨hc, _, _, _, hmore, hd, hmore ▸ hread, rfl⟩
  | double => cases htoken
  | single => cases htoken

/-- A number goes on with what stands behind it as far as it can. -/
theorem token_number_append {a : String} {more : List Char} (h : token c more = .ok (.number a, []))
    (rest : List Char) : token c (more ++ rest) =
      .ok (.number (a ++ String.ofList (readNumber (a.toList.contains '.') rest).1),
        (readNumber (a.toList.contains '.') rest).2) := by
  refine token_of_tokenAt ?_
  rcases number_of_token h with ⟨hd, hread⟩ | ⟨rfl, d, more, ds, rfl, hd, hread, ha⟩
  · have hcs := (readNumber_frame hread).1
    rw [List.append_nil] at hcs
    rw [hcs] at hread
    have happend := readNumber_append hread rest
    rw [← hcs, List.cons_append, hcs, Bool.false_or] at happend
    have hnumber : TokenAt c (more ++ rest) _ _ := .number hd happend
    rwa [String.ofList_append, String.ofList_toList] at hnumber
  · have hcs := (readNumber_frame hread).1
    rw [List.append_nil] at hcs
    subst hcs
    have happend := readNumber_append hread rest
    have hpoint : a.toList.contains '.' = (d :: more).contains '.' := by
      rw [ha, List.contains_cons]
      rfl
    rw [hpoint]
    have hnumber : TokenAt '-' (d :: more ++ rest) _ _ := .negative rfl rfl hd happend
    rwa [← List.cons_append, ← ha, String.ofList_append, String.ofList_toList, Bool.false_or] at hnumber

theorem not_startsGap_append {more : List Char} (h : startsGap (c :: more) = false)
    (hr : ∀ d ∈ rest.head?, isStop d = true) : startsGap (c :: (more ++ rest)) = false := by
  cases more with
  | cons d more => simpa [startsGap_cons] using h
  | nil =>
    cases rest with
    | nil => exact h
    | cons d rest =>
      simp only [startsGap_cons, List.nil_append, List.head?_cons, Bool.or_eq_false_iff] at h ⊢
      refine ⟨⟨h.1.1, ?_⟩, ?_⟩
      · rcases isStop_cases (hr d rfl) with rfl | rfl | rfl | rfl | rfl <;> simp
      · rcases isStop_cases (hr d rfl) with rfl | rfl | rfl | rfl | rfl <;> simp

/-- The text of a token is that token also where a stop follows it, and a number if that does
    not go on with it. -/
theorem IsTextOf.scan_adjoined (h : IsTextOf t cs) (hr : ∀ d ∈ rest.head?, isStop d = true)
    (hp : ∀ n, t = .number n → leavesNumber (n.toList.contains '.') rest = true) :
    scan (cs ++ rest) = (scan rest).map (t :: ·) := by
  obtain ⟨c, more, rfl, hg, ht⟩ := h
  rw [List.cons_append]
  refine scan_of_token (skip_of_not_startsGap (not_startsGap_append hg hr)) ?_
  by_cases hnumber : ∃ n, t = .number n
  · obtain ⟨n, rfl⟩ := hnumber
    rw [token_number_append ht, readNumber_stop hr (hp n rfl)]
    simp
  refine token_of_tokenAt ?_
  generalize hafter : ([] : List Char) = after at ht
  cases tokenAt_of_token ht with
  | quoted hq hread =>
    subst hafter
    refine .quoted hq (readQuoted_append hread ?_)
    intro hhead
    rcases isStop_cases (hr c hhead) with rfl | rfl | rfl | rfl | rfl <;> cases hq
  | number => exact absurd ⟨_, rfl⟩ hnumber
  | negative => exact absurd ⟨_, rfl⟩ hnumber
  | word hw =>
    have hall : ∀ d ∈ more, continuesWord d = true := List.dropWhile_eq_nil_iff.mp hafter.symm
    have hstop : ∀ d ∈ rest.head?, continuesWord d = false := by
      intro d hd
      rcases isStop_cases (hr d hd) with rfl | rfl | rfl | rfl | rfl <;> decide
    obtain ⟨htake, hdrop⟩ := takeWhile_append_stop hall hstop
    have hword : TokenAt c (more ++ rest) _ _ := .word hw
    rw [htake, hdrop] at hword
    rwa [List.takeWhile_eq_self_iff.mpr hall]
  | double hmore hs =>
    subst hafter hmore
    exact .double rfl hs
  | single hs hf =>
    subst hafter
    refine .single hs fun d after hd => ?_
    have hstop : isStop d = true := hr d (by simpa using congrArg List.head? hd)
    refine ⟨?_, doubleSymbol?_isStop c hstop⟩
    rcases isStop_cases hstop with rfl | rfl | rfl | rfl | rfl <;> simp

/-- A parenthesis, a comma or a point is a token whatever follows it. -/
theorem scan_symbol {s : Symbol} (hs : singleSymbol? c = some s) (hc : isStop c = true) (rest : List Char) :
    scan (c :: rest) = (scan rest).map (.symbol s :: ·) := by
  have hne : c ≠ '-' ∧ c ≠ '/' ∧ Text.isBlank c = false ∧ ∀ d, doubleSymbol? c d = none := by
    rcases isStop_cases hc with rfl | rfl | rfl | rfl | rfl
    · cases hs
    all_goals exact ⟨by decide, by decide, rfl, fun d => by simp [doubleSymbol?]⟩
  obtain ⟨hminus, hslash, hblank, hdouble⟩ := hne
  have hg : startsGap (c :: rest) = false := by simp [startsGap_cons, hminus, hslash, hblank]
  exact scan_of_token (skip_of_not_startsGap hg)
    (token_of_tokenAt (.single hs fun d _ _ => ⟨by simp [hminus], hdouble d⟩))

end PocketSql.Sql
