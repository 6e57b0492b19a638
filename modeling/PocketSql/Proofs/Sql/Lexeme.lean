/-
  PocketSql.Proofs.Sql.Lexeme — the characters that tokens are read from.

  A text that has tokens is a row of lexemes with white space and comments between some
  of them (`exists_reads_of_scan`). A token is read from its own characters and from
  nothing further on, as long as what follows is the same up to a space or the end
  (`token_frame`). So the tokens of any front part of the row survive when each gap is
  replaced by one space (`Reads.scan_spell`).
-/

import PocketSql.Proofs.Text.Blank
import PocketSql.Sql.Lexer

namespace PocketSql.Sql

/-! ## Rests that a token cannot tell apart -/

/-- `b` is `a` up to some place, where it ends or goes on with a space. -/
inductive Follows : List Char → List Char → Prop
  | nil (a : List Char) : Follows a []
  | space (a b : List Char) : Follows a (' ' :: b)
  | cons (c : Char) {a b : List Char} : Follows a b → Follows (c :: a) (c :: b)

theorem Follows.append (w : List Char) {a b : List Char} (h : Follows a b) :
    Follows (w ++ a) (w ++ b) := by
  induction w with
  | nil => exact h
  | cons c w ih => exact .cons c ih

theorem Follows.head? {a b : List Char} (h : Follows a b) :
    b.head? = none ∨ b.head? = some ' ' ∨ b.head? = a.head? := by
  cases h <;> simp

theorem isQuote_ne_space {q : Char} (h : isQuote q = true) : ' ' ≠ q := by
  rintro rfl
  exact absurd h (by decide)

/-- How a quoted run is read in front of `after`: it ends at a quote that no other follows, and
    what stands before that is a quote written twice, an escape or any other character. -/
inductive QuotedRun (q : Char) (after : List Char) : List Char → List Char → Prop
  | close : after.head? ≠ some q → QuotedRun q after (q :: after) []
  | twice {cs run : List Char} : QuotedRun q after cs run → QuotedRun q after (q :: q :: cs) (q :: run)
  | escape {d : Char} {cs run : List Char} : '\\' ≠ q → q ≠ backtick → QuotedRun q after cs run →
      QuotedRun q after ('\\' :: d :: cs) (unescape d :: run)
  | plain {c : Char} {cs run : List Char} : c ≠ q → (c = '\\' → q = backtick) → QuotedRun q after cs run →
      QuotedRun q after (c :: cs) (c :: run)

theorem QuotedRun.readQuoted_eq {q : Char} {cs run after : List Char} (h : QuotedRun q after cs run) :
    readQuoted q cs = some (run, after) := by
  induction h with
  | close hafter =>
    cases after with
    | nil => simp [readQuoted]
    | cons d after =>
      have hd : d ≠ q := by simpa using hafter
      simp [readQuoted, hd]
  | twice _ ih => simp [readQuoted, ih]
  | escape hq hb _ ih => simp [readQuoted, hq, hb, ih]
  | @plain c cs run hc he hrun ih =>
    obtain ⟨d, more, rfl⟩ : ∃ d more, cs = d :: more := by
      cases hrun <;> exact ⟨_, _, rfl⟩
    have hescape : (c == '\\' && q != backtick) = false := by simpa using he
    simp [readQuoted, hc, hescape, ih]

theorem quotedRun_of_readQuoted {q : Char} {cs run after : List Char} (h : readQuoted q cs = some (run, after)) :
    QuotedRun q after cs run := by
  fun_induction readQuoted q cs generalizing run after with
  | case1 => cases h
  | case2 c hc =>
    cases h
    obtain rfl : c = q := by simpa using hc
    exact .close (by simp)
  | case3 => cases h
  | case4 c d more hc hd ih =>
    simp only [Option.map_eq_some_iff, Prod.mk.injEq] at h
    obtain ⟨⟨run, after⟩, hread, rfl, rfl⟩ := h
    obtain rfl : c = q := by simpa using hc
    obtain rfl : d = c := by simpa using hd
    exact .twice (ih hread)
  | case5 c d more hc hd =>
    cases h
    obtain rfl : c = q := by simpa using hc
    exact .close (by simpa using hd)
  | case6 c d more hc he ih =>
    simp only [Option.map_eq_some_iff, Prod.mk.injEq] at h
    obtain ⟨⟨run, after⟩, hread, rfl, rfl⟩ := h
    obtain ⟨rfl, hb⟩ : c = '\\' ∧ q ≠ backtick := by simpa using he
    exact .escape (by simpa using hc) hb (ih hread)
  | case7 c d more hc he ih =>
    simp only [Option.map_eq_some_iff, Prod.mk.injEq] at h
    obtain ⟨⟨run, after⟩, hread, rfl, rfl⟩ := h
    exact .plain (by simpa using hc) (by simpa using he) (ih hread)

theorem readQuoted_eq_some_iff {q : Char} {cs run after : List Char} :
    readQuoted q cs = some (run, after) ↔ QuotedRun q after cs run :=
  ⟨quotedRun_of_readQuoted, QuotedRun.readQuoted_eq⟩

/-- A quoted run is read from its own characters and from nothing behind its closing quote
    but that no further quote stands there. -/
theorem readQuoted_frame {q : Char} (hq : isQuote q = true) {cs run after : List Char}
    (h : readQuoted q cs = some (run, after)) :
    ∃ w, cs = w ++ after ∧ ∀ b, Follows after b → readQuoted q (w ++ b) = some (run, b) := by
  simp only [readQuoted_eq_some_iff] at h ⊢
  induction h with
  | close hafter =>
    refine ⟨[q], rfl, fun b hb => .close ?_⟩
    have hspace := isQuote_ne_space hq
    rcases hb.head? with hb | hb | hb <;> simp_all
  | twice _ ih =>
    obtain ⟨w, rfl, hw⟩ := ih
    exact ⟨q :: q :: w, rfl, fun b hb => .twice (hw b hb)⟩
  | @escape d _ _ hne hb _ ih =>
    obtain ⟨w, rfl, hw⟩ := ih
    exact ⟨'\\' :: d :: w, rfl, fun b hfollows => .escape hne hb (hw b hfollows)⟩
  | @plain c _ _ hc he _ ih =>
    obtain ⟨w, rfl, hw⟩ := ih
    exact ⟨c :: w, rfl, fun b hb => .plain hc he (hw b hb)⟩

theorem readNumber_digit {c : Char} (hc : c.isDigit = true) (seen : Bool) (cs : List Char) :
    readNumber seen (c :: cs) = (c :: (readNumber seen cs).1, (readNumber seen cs).2) := by
  cases cs <;> simp [readNumber, hc]

theorem readNumber_space (seen : Bool) (cs : List Char) :
    readNumber seen (' ' :: cs) = ([], ' ' :: cs) := by
  cases cs <;> simp [readNumber]

/-- A number is read from its own characters, kept as they are. -/
theorem readNumber_frame {seen : Bool} {cs ds after : List Char}
    (h : readNumber seen cs = (ds, after)) :
    cs = ds ++ after ∧ ∀ b, Follows after b → readNumber seen (ds ++ b) = (ds, b) := by
  fun_induction readNumber seen cs generalizing ds after with
  | case1 seen =>
    cases h
    refine ⟨rfl, fun b hb => ?_⟩
    cases hb with
    | nil => rfl
    | space => exact readNumber_space _ _
  | case2 seen c hc =>
    cases h
    refine ⟨rfl, fun b hb => ?_⟩
    cases hb with
    | nil => simp [readNumber, hc]
    | space => simp [readNumber_digit hc, readNumber_space]
  | case3 seen c hc =>
    cases h
    refine ⟨rfl, fun b hb => ?_⟩
    cases hb with
    | nil => rfl
    | space => exact readNumber_space _ _
    | cons _ hb =>
      cases hb with
      | nil => simp [readNumber, hc]
      | space => simp [readNumber, hc]
  | case4 seen c d rest hc cs' after' hr ih =>
    cases h
    obtain ⟨hcs, hw⟩ := ih hr
    refine ⟨by rw [hcs]; rfl, fun b hb => ?_⟩
    rw [List.cons_append, readNumber_digit hc, hw b hb]
  | case5 seen c d rest hc hp cs' after' hr ih =>
    cases h
    obtain ⟨hcs, hw⟩ := ih hr
    have hd : d.isDigit = true := by simp_all
    rw [readNumber_digit hd] at hr
    obtain ⟨ds, rfl⟩ : ∃ ds, cs' = d :: ds := ⟨_, (congrArg Prod.fst hr).symm⟩
    refine ⟨by rw [hcs]; rfl, fun b hb => ?_⟩
    have := hw b hb
    simp only [List.cons_append] at this ⊢
    simp [readNumber, hc, hp, this]
  | case6 seen c d rest hc hp he cs' after' hr ih =>
    cases h
    obtain ⟨hcs, hw⟩ := ih hr
    refine ⟨by rw [hcs]; rfl, fun b hb => ?_⟩
    simp [readNumber, hc, hp, he, hw b hb]
  | case7 seen c d rest hc hp he =>
    cases h
    refine ⟨rfl, fun b hb => ?_⟩
    cases hb with
    | nil => rfl
    | space => exact readNumber_space _ _
    | cons _ hb =>
      cases hb with
      | nil => simp [readNumber, hc]
      | space => simp [readNumber, hc]
      | cons _ hb => simp [readNumber, hc, hp, he]

/-- A run of characters that satisfy `p` ends where a space, or nothing, follows it. -/
theorem takeWhile_frame {p : Char → Bool} (hs : p ' ' = false) (cs : List Char) {b : List Char}
    (h : Follows (cs.dropWhile p) b) :
    (cs.takeWhile p ++ b).takeWhile p = cs.takeWhile p ∧ (cs.takeWhile p ++ b).dropWhile p = b := by
  induction cs with
  | nil => cases h <;> simp [hs]
  | cons c cs ih =>
    by_cases hc : p c = true
    · rw [List.dropWhile_cons_of_pos hc] at h
      obtain ⟨h1, h2⟩ := ih h
      simp [hc, h1, h2]
    · rw [List.dropWhile_cons_of_neg hc] at h
      cases h <;> simp [hc, hs]

theorem continuesWord_space : continuesWord ' ' = false := by decide

/-! ## How a token is read -/

/-- The token that starts with `c` before `rest`, and what follows it: one rule for each
    kind of token. A sign before a digit belongs to a number, and a symbol of two
    characters goes before one of a single character. -/
inductive TokenAt (c : Char) (rest : List Char) : Token → List Char → Prop
  | quoted {run after : List Char} : isQuote c = true → readQuoted c rest = some (run, after) →
      TokenAt c rest (quotedToken c run) after
  | number {ds after : List Char} : c.isDigit = true → readNumber false (c :: rest) = (ds, after) →
      TokenAt c rest (.number (String.ofList ds)) after
  | word : startsWord c = true →
      TokenAt c rest (wordToken (c :: rest.takeWhile continuesWord)) (rest.dropWhile continuesWord)
  | negative {d : Char} {more ds after : List Char} : c = '-' → rest = d :: more → d.isDigit = true →
      readNumber false (d :: more) = (ds, after) → TokenAt c rest (.number (String.ofList ('-' :: ds))) after
  | double {d : Char} {s : Symbol} {after : List Char} : rest = d :: after → doubleSymbol? c d = some s →
      TokenAt c rest (.symbol s) after
  | single {s : Symbol} : singleSymbol? c = some s →
      (∀ d after, rest = d :: after → (c == '-' && d.isDigit) = false ∧ doubleSymbol? c d = none) →
      TokenAt c rest (.symbol s) rest

theorem startsWord_disjoint {c : Char} (h : startsWord c = true) : isQuote c = false ∧ c.isDigit = false := by
  constructor
  · rw [Bool.eq_false_iff]
    intro hq
    simp only [isQuote, Bool.or_eq_true, beq_iff_eq] at hq
    rcases hq with (rfl | rfl) | rfl <;> exact absurd h (by decide)
  · rw [Bool.eq_false_iff]
    intro hd
    have hn := Char.isDigit_iff_toNat.mp hd
    have : '0'.toNat = 48 ∧ '9'.toNat = 57 := ⟨rfl, rfl⟩
    simp only [startsWord, Text.isAlphabetic, Bool.or_eq_true, beq_iff_eq] at h
    rcases h with (h | rfl) | rfl
    · rw [if_pos (by omega)] at h
      rw [Text.isAlpha_eq, Bool.or_eq_true, Text.isUpper_iff, Text.isLower_iff] at h
      omega
    · cases hd
    · cases hd

theorem singleSymbol?_disjoint {c : Char} {s : Symbol} (h : singleSymbol? c = some s) :
    isQuote c = false ∧ c.isDigit = false ∧ startsWord c = false := by
  unfold singleSymbol? at h
  split at h
  all_goals first | exact ⟨rfl, rfl, rfl⟩ | cases h

theorem doubleSymbol?_disjoint {c d : Char} {s : Symbol} (h : doubleSymbol? c d = some s) :
    isQuote c = false ∧ c.isDigit = false ∧ startsWord c = false ∧ c ≠ '-' := by
  unfold doubleSymbol? at h
  split at h
  all_goals first | exact ⟨rfl, rfl, rfl, by decide⟩ | cases h

theorem single_eq_ok_iff {c : Char} {rest after : List Char} {t : Token} :
    token.single c rest = .ok (t, after) ↔ ∃ s, singleSymbol? c = some s ∧ t = .symbol s ∧ rest = after := by
  unfold token.single
  constructor
  · intro h
    split at h
    · rename_i s hs
      simp only [Except.ok.injEq, Prod.mk.injEq] at h
      exact ⟨s, hs, h.1.symm, h.2⟩
    · cases h
  · rintro ⟨s, hs, rfl, rfl⟩
    rw [hs]

theorem tokenAt_of_token {c : Char} {rest after : List Char} {t : Token}
    (h : token c rest = .ok (t, after)) : TokenAt c rest t after := by
  unfold token at h
  split at h
  · rename_i hq
    split at h
    · rename_i hr
      cases h
      exact .quoted hq hr
    · cases h
  split at h
  · rename_i hd
    split at h
    rename_i hr
    cases h
    exact .number hd hr
  split at h
  · rename_i hw
    simp only [Except.ok.injEq, Prod.mk.injEq] at h
    obtain ⟨rfl, rfl⟩ := h
    exact .word hw
  split at h
  · rename_i d more
    split at h
    · rename_i hm
      simp only [Bool.and_eq_true, beq_iff_eq] at hm
      split at h
      rename_i hr
      cases h
      exact .negative hm.1 rfl hm.2 hr
    · rename_i hm
      split at h
      · rename_i hs
        cases h
        exact .double rfl hs
      · rename_i hs
        obtain ⟨s, hc, rfl, rfl⟩ := single_eq_ok_iff.mp h
        refine .single hc fun d' after' he => ?_
        cases he
        exact ⟨by simpa using hm, hs⟩
  · obtain ⟨s, hc, rfl, rfl⟩ := single_eq_ok_iff.mp h
    refine .single hc fun d' after' he => ?_
    cases he

theorem token_of_tokenAt {c : Char} {rest after : List Char} {t : Token} (h : TokenAt c rest t after) :
    token c rest = .ok (t, after) := by
  cases h with
  | quoted hq hr => simp [token, hq, hr]
  | number hd hr =>
    have hq : isQuote c = false := by
      rw [Bool.eq_false_iff]
      intro hq
      simp only [isQuote, Bool.or_eq_true, beq_iff_eq] at hq
      rcases hq with (rfl | rfl) | rfl <;> exact absurd hd (by decide)
    simp [token, hq, hd, hr]
  | word hw =>
    obtain ⟨hq, hd⟩ := startsWord_disjoint hw
    simp [token, hq, hd, hw]
  | negative hc hrest hd hr =>
    subst hc hrest
    have hq : isQuote '-' = false := rfl
    have hn : '-'.isDigit = false := rfl
    have hw : startsWord '-' = false := rfl
    simp [token, hq, hn, hw, hd, hr]
  | double hrest hs =>
    subst hrest
    obtain ⟨hq, hd, hw, hm⟩ := doubleSymbol?_disjoint hs
    simp [token, hq, hd, hw, hm, hs]
  | single hc hf =>
    obtain ⟨hq, hd, hw⟩ := singleSymbol?_disjoint hc
    unfold token
    rw [if_neg (by simp [hq]), if_neg (by simp [hd]), if_neg (by simp [hw])]
    split
    · rename_i d more
      obtain ⟨hm, hs⟩ := hf d more rfl
      simp [hm, hs, single_eq_ok_iff, hc]
    · simp [single_eq_ok_iff, hc]

theorem token_eq_ok_iff {c : Char} {rest after : List Char} {t : Token} :
    token c rest = .ok (t, after) ↔ TokenAt c rest t after :=
  ⟨tokenAt_of_token, token_of_tokenAt⟩

theorem doubleSymbol?_space (c : Char) : doubleSymbol? c ' ' = none := by
  unfold doubleSymbol?
  split <;> simp_all

/-- A number from its first digit on. -/
theorem readNumber_frame_digit {c : Char} (hc : c.isDigit = true) {seen : Bool}
    {rest ds after : List Char} (h : readNumber seen (c :: rest) = (ds, after)) :
    ∃ w, ds = c :: w ∧ rest = w ++ after ∧
      ∀ b, Follows after b → readNumber seen (c :: (w ++ b)) = (ds, b) := by
  obtain ⟨hcs, hf⟩ := readNumber_frame h
  rw [readNumber_digit hc] at h
  obtain ⟨w, rfl⟩ : ∃ w, ds = c :: w := ⟨_, (congrArg Prod.fst h).symm⟩
  exact ⟨w, rfl, by simpa using hcs, hf⟩

/-- A token is read from its own characters; of what follows it, only that it does not go on
    in the same way. -/
theorem token_frame {c : Char} {rest after : List Char} {t : Token}
    (h : token c rest = .ok (t, after)) :
    ∃ w, rest = w ++ after ∧ ∀ b, Follows after b → token c (w ++ b) = .ok (t, b) := by
  simp only [token_eq_ok_iff] at h ⊢
  cases h with
  | quoted hq hr =>
    obtain ⟨w, hw, hf⟩ := readQuoted_frame hq hr
    exact ⟨w, hw, fun b hb => .quoted hq (hf b hb)⟩
  | number hd hr =>
    obtain ⟨w, rfl, hw, hf⟩ := readNumber_frame_digit hd hr
    exact ⟨w, hw, fun b hb => .number hd (hf b hb)⟩
  | word hw =>
    refine ⟨rest.takeWhile continuesWord, by simp, fun b hb => ?_⟩
    obtain ⟨h1, h2⟩ := takeWhile_frame continuesWord_space rest hb
    have ht : TokenAt c (rest.takeWhile continuesWord ++ b) _ _ := .word hw
    rwa [h1, h2] at ht
  | negative hc hrest hd hr =>
    obtain ⟨w, rfl, hw, hf⟩ := readNumber_frame_digit hd hr
    exact ⟨_ :: w, by rw [hrest, hw]; rfl, fun b hb => .negative hc rfl hd (hf b hb)⟩
  | double hrest hs => exact ⟨[_], hrest, fun b _ => .double rfl hs⟩
  | single hc hf =>
    refine ⟨[], rfl, fun b hb => .single hc fun d more he => ?_⟩
    subst he
    cases hb with
    | space => exact ⟨by simp, doubleSymbol?_space c⟩
    | cons _ hb => exact hf d _ rfl

/-! ## Lexemes -/

/-- Whether white space or a comment starts here. -/
def startsGap : List Char → Bool
  | '-' :: '-' :: _ => true
  | '/' :: '*' :: _ => true
  | c :: _ => Text.isBlank c
  | [] => false

theorem startsGap_cons (c : Char) (rest : List Char) :
    startsGap (c :: rest) = (Text.isBlank c || (c == '-' && rest.head? == some '-') ||
      (c == '/' && rest.head? == some '*')) := by
  unfold startsGap
  split
  · rename_i h
    cases h
    simp
  · rename_i h
    cases h
    simp
  · rename_i h1 h2 h
    cases h
    cases rest with
    | nil => simp
    | cons d rest =>
      have h1 : ¬(c = '-' ∧ d = '-') := fun ⟨hc, hd⟩ => h1 rest hc (by rw [hd])
      have h2 : ¬(c = '/' ∧ d = '*') := fun ⟨hc, hd⟩ => h2 rest hc (by rw [hd])
      rw [Bool.eq_iff_iff]
      simp [h1, h2]
  · rename_i h
    cases h

theorem startsGap_of_isQuote {q : Char} (hq : isQuote q = true) (rest : List Char) : startsGap (q :: rest) = false := by
  simp only [isQuote, Bool.or_eq_true, beq_iff_eq] at hq
  rcases hq with (rfl | rfl) | rfl <;> exact startsGap_cons _ _

theorem skip_of_not_startsGap {cs : List Char} (h : startsGap cs = false) : skip .outside cs = cs := by
  unfold startsGap at h
  split at h
  · cases h
  · cases h
  · unfold skip
    split <;> simp_all
  · rfl

theorem not_startsGap_skip (b : Between) (cs : List Char) : startsGap (skip b cs) = false := by
  fun_induction skip b cs with
  | case5 c rest h1 h2 hb =>
    unfold startsGap
    split
    · rename_i h
      cases h
      exact (h1 _ rfl rfl).elim
    · rename_i h
      cases h
      exact (h2 _ rfl rfl).elim
    · rename_i h
      cases h
      simpa using hb
    · rfl
  | _ => first | assumption | rfl

theorem not_startsGap_of_follows {c : Char} {a b : List Char} (ha : startsGap (c :: a) = false)
    (h : Follows a b) : startsGap (c :: b) = false := by
  rw [startsGap_cons] at ha ⊢
  rcases h.head? with h | h | h <;> simp_all

/-- A token with the characters it is read from, and whether a gap stands before it. -/
structure Lexeme where
  spaced : Bool
  first : Char
  more : List Char
  token : Token

def Lexeme.chars (l : Lexeme) : List Char := l.first :: l.more

/-- `cs` is made of these lexemes, with white space and comments between some of them. -/
inductive Reads : List Char → List Lexeme → Prop
  | nil {cs : List Char} : skip .outside cs = [] → Reads cs []
  | cons {cs after : List Char} {l : Lexeme} {ls : List Lexeme} :
      skip .outside cs = l.chars ++ after → l.spaced = (startsGap cs) →
      Sql.token l.first (l.more ++ after) = .ok (l.token, after) → Reads after ls → Reads cs (l :: ls)

/-- The lexemes with one space for each gap before them. -/
def spell : List Lexeme → List Char
  | [] => []
  | l :: ls => (if l.spaced then [' '] else []) ++ l.chars ++ spell ls

theorem scan_nil {cs : List Char} (h : skip .outside cs = []) : scan cs = .ok [] := by
  rw [scan]
  split
  · rfl
  · simp_all

/-- The first token stands in front of those of the text behind it. -/
theorem scan_of_token {cs rest after : List Char} {c : Char} {t : Token} (hs : skip .outside cs = c :: rest)
    (ht : token c rest = .ok (t, after)) : scan cs = (scan after).map (t :: ·) := by
  rw [scan]
  split
  · simp_all
  · rename_i c' rest' hs'
    rw [hs] at hs'
    cases hs'
    split
    · simp_all
    · rename_i t' after' ht'
      rw [ht] at ht'
      cases ht'
      cases scan after <;> rfl

theorem scan_cons {cs rest after : List Char} {c : Char} {t : Token} {ts : List Token}
    (hs : skip .outside cs = c :: rest) (ht : token c rest = .ok (t, after)) (ha : scan after = .ok ts) :
    scan cs = .ok (t :: ts) := by
  rw [scan_of_token hs ht, ha]
  rfl

/-- A text that does not end with its gap has a first token, and the others behind that. -/
theorem exists_token_of_scan {cs rest : List Char} {c : Char} {ts : List Token} (hs : skip .outside cs = c :: rest)
    (h : scan cs = .ok ts) : ∃ t after us, token c rest = .ok (t, after) ∧ scan after = .ok us ∧ ts = t :: us := by
  rw [scan] at h
  split at h
  · simp_all
  · rename_i c' rest' hs'
    rw [hs] at hs'
    cases hs'
    split at h
    · cases h
    · rename_i t after ht
      split at h
      · cases h
      · rename_i us ha
        cases h
        exact ⟨t, after, us, ht, ha, rfl⟩

/-- The tokens of a text are those of its lexemes. -/
theorem exists_reads_of_scan {cs : List Char} {ts : List Token} (h : scan cs = .ok ts) :
    ∃ ls, Reads cs ls ∧ ls.map (·.token) = ts := by
  fun_induction scan cs generalizing ts with
  | case1 cs hs =>
    cases h
    exact ⟨[], .nil hs, rfl⟩
  | case2 => cases h
  | case3 => cases h
  | case4 cs c rest hs t after ht ts' ha ih =>
    cases h
    obtain ⟨ls, hr, rfl⟩ := ih ha
    obtain ⟨w, rfl, -⟩ := token_frame ht
    exact ⟨⟨startsGap cs, c, w, t⟩ :: ls, .cons hs rfl ht hr, rfl⟩

/-- The lexemes of a text with single spaces follow the text, up to its first gap. -/
theorem Reads.follows {cs : List Char} {ls ms : List Lexeme} (h : Reads cs (ls ++ ms)) :
    Follows cs (spell ls) := by
  induction ls generalizing cs with
  | nil => exact .nil cs
  | cons l ls ih =>
    cases h with
    | cons hs hsp ht hr =>
      by_cases hg : startsGap cs = true
      · simpa [spell, hsp, hg] using Follows.space cs _
      · have hg : startsGap cs = false := by simpa using hg
        rw [skip_of_not_startsGap hg] at hs
        rw [hs]
        simpa [spell, hsp, hg] using (ih hr).append l.chars

theorem skip_space (cs : List Char) : skip .outside (' ' :: cs) = skip .outside cs := by
  rfl

section Front

variable {cs : List Char} {l : Lexeme} {ls ms : List Lexeme}

theorem Reads.skip_chars (h : Reads cs (l :: ls ++ ms)) :
    skip .outside (l.chars ++ spell ls) = l.chars ++ spell ls := by
  cases h with
  | cons hs _ _ hr =>
    have hn : startsGap (l.chars ++ _) = false := hs ▸ not_startsGap_skip _ _
    exact skip_of_not_startsGap (not_startsGap_of_follows hn (hr.follows.append l.more))

theorem Reads.token_spell (h : Reads cs (l :: ls ++ ms)) :
    token l.first (l.more ++ spell ls) = .ok (l.token, spell ls) := by
  cases h with
  | cons _ _ ht hr =>
    obtain ⟨w, hw, hf⟩ := token_frame ht
    rw [List.append_cancel_right hw]
    exact hf _ hr.follows

/-- Any front part of the lexemes has its own tokens when each gap is one space. -/
theorem Reads.scan_spell (h : Reads cs (ls ++ ms)) : scan (spell ls) = .ok (ls.map (·.token)) := by
  induction ls generalizing cs with
  | nil => exact scan_nil rfl
  | cons l ls ih =>
    have hsk : skip .outside (spell (l :: ls)) = l.chars ++ spell ls := by
      by_cases hg : l.spaced = true
      · simp only [spell, hg]
        exact (skip_space _).trans h.skip_chars
      · simpa [spell, hg] using h.skip_chars
    have ht := h.token_spell
    cases h with
    | cons _ _ _ hr => exact scan_cons hsk ht (ih hr)

end Front

/-- The lexemes without a space in front of the first. -/
def compact : List Lexeme → List Char
  | [] => []
  | l :: ls => l.chars ++ spell ls

theorem Reads.drop {cs : List Char} {ks ls : List Lexeme} (h : Reads cs (ks ++ ls)) : ∃ cs', Reads cs' ls := by
  induction ks generalizing cs with
  | nil => exact ⟨cs, h⟩
  | cons k ks ih =>
    cases h with
    | cons _ _ _ hr => exact ih hr

/-- Any part of the lexemes has its own tokens. -/
theorem Reads.scan_compact {cs : List Char} {ls part : List Lexeme} (h : Reads cs ls) (hp : part <:+: ls) :
    scan (compact part) = .ok (part.map (·.token)) := by
  obtain ⟨ks, ms, rfl⟩ := hp
  rw [List.append_assoc] at h
  obtain ⟨cs', h⟩ := h.drop
  cases part with
  | nil => exact scan_nil rfl
  | cons l part =>
    have ht := h.token_spell
    have hsk := h.skip_chars
    cases h with
    | cons _ _ _ hr => exact scan_cons hsk ht hr.scan_spell

/-- What any text makes of a lexeme: no gap starts at its first character, and its token is
    read from its characters. -/
def Lexeme.Stands (l : Lexeme) : Prop :=
  ∃ after, startsGap (l.chars ++ after) = false ∧ Sql.token l.first (l.more ++ after) = .ok (l.token, after)

end PocketSql.Sql
