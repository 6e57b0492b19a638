/-
  PocketSql.Proofs.Sql.Rejoined — tokens as one text, and that text read again.

  The text of a run of tokens has a space between any two, but not around a point, inside
  parentheses or before a comma. Read again it is the same tokens unless something is lost
  in it: the backticks of a name that needs them, the backslash that stands in front of
  another in a literal, or the space between a number and a point that a digit follows.
  Nothing makes up for these (`lex_join_iff`): a text has all the backticks and backslashes
  of its tokens' text and those that are lost in that (`count_of_scan`), and a number that
  runs on is another one.
-/

import PocketSql.Proofs.Sql.Adjoined

namespace PocketSql.Sql

variable {x q c d : Char} {cs run rest after : List Char} {t : Token} {ts : List Token}

namespace Token

/-- Whether the text of a token is that token: a name needs no backticks, and a literal has no
    backslash. -/
def isKept : Token → Bool
  | identifier name => isPlainWord name.toList
  | quoted text => !text.toList.contains '\\'
  | _ => true

/-- How many more `x` a text has for a token than the text of the token has, at least. -/
def lost (x : Char) : Token → Nat
  | identifier name => if x == backtick && !isPlainWord name.toList then 2 else 0
  | quoted text => if x == '\\' then text.toList.count x else 0
  | _ => 0

def lostIn (x : Char) : List Token → Nat
  | [] => 0
  | t :: ts => t.lost x + lostIn x ts

theorem lost_eq_zero_of_lostIn (h : lostIn x ts = 0) : ∀ t ∈ ts, t.lost x = 0 := by
  induction ts with
  | nil => simp
  | cons t ts ih =>
    rw [lostIn, Nat.add_eq_zero_iff] at h
    exact List.forall_mem_cons.mpr ⟨h.1, ih h.2⟩

/-- Whether these start with a number that goes on with the point and the digit behind it. -/
def runsOn : List Token → Bool
  | number a :: symbol .dot :: number b :: _ => !a.toList.contains '.' && b.toList.head?.any Char.isDigit
  | _ => false

end Token

/-! ## What a text has for its tokens -/

/-- Backticks and backslashes, which stand for themselves in quotes and in no word. -/
def isMark (x : Char) : Bool :=
  x == backtick || x == '\\'

theorem isMark_cases (h : isMark x = true) : x = backtick ∨ x = '\\' := by
  simpa [isMark] using h

theorem unescape_eq_of_isMark (hx : isMark (unescape d) = true) : unescape d = d := by
  unfold unescape at hx ⊢
  split at hx
  · cases hx
  · cases hx
  · cases hx
  · cases hx
  · rfl

/-- A quoted run has its marks from the text. The closing quote may be one more, and of two
    backslashes there is one in the run. -/
theorem count_readQuoted (hx : isMark x = true) (h : readQuoted q cs = some (run, after)) :
    run.count x + (if x = q then 1 else 0) + (if x = '\\' ∧ q ≠ backtick then run.count x else 0) +
      after.count x ≤ cs.count x := by
  replace h := quotedRun_of_readQuoted h
  induction h with
  | close _ =>
    simp only [List.count_cons, List.count_nil]
    grind
  | twice _ ih =>
    simp only [List.count_cons]
    grind
  | @escape d _ _ _ _ _ ih =>
    have hd : unescape d = x → d = x := by
      rintro rfl
      exact (unescape_eq_of_isMark hx).symm
    simp only [List.count_cons]
    grind
  | plain _ _ _ ih =>
    simp only [List.count_cons]
    grind

theorem count_quoteChars (hx : isMark x = true) (cs : List Char) : (Token.quoteChars cs).count x = cs.count x := by
  have hne : x ≠ '\'' := by
    rintro rfl
    cases hx
  have hdoubled : (cs.flatMap fun c => if c == '\'' then ['\'', '\''] else [c]).count x = cs.count x := by
    induction cs with
    | nil => rfl
    | cons c cs ih =>
      rw [List.flatMap_cons, List.count_append, ih, List.count_cons]
      grind
  rw [Token.quoteChars, List.cons_append, List.count_cons, List.count_append, hdoubled]
  simp [hne.symm]

theorem count_symbol (hx : isMark x = true) (s : Symbol) : s.text.toList.count x = 0 := by
  rcases isMark_cases hx with rfl | rfl <;> cases s <;> decide +kernel

theorem count_keyword (hx : isMark x = true) (k : Keyword) : k.text.toList.count x = 0 := by
  rcases isMark_cases hx with rfl | rfl <;> cases k <;> decide +kernel

/-- A token has its marks from its characters in the text, which has those that are lost besides. -/
theorem count_token (hx : isMark x = true) (h : token c rest = .ok (t, after)) :
    t.chars.count x + t.lost x + after.count x ≤ (c :: rest).count x := by
  cases tokenAt_of_token h with
  | quoted hq hread =>
    have hcount := count_readQuoted hx hread
    unfold quotedToken
    split
    · rename_i hc
      simp only [Token.chars, Token.lost, String.toList_ofList, List.count_cons]
      grind
    · rename_i hc
      simp only [Token.chars, Token.lost, String.toList_ofList, List.count_cons, count_quoteChars hx]
      grind
  | number hd hread =>
    obtain ⟨hcs, -⟩ := readNumber_frame hread
    rw [hcs]
    simp [Token.chars, Token.lost]
  | word hw =>
    have hsplit : (c :: rest).count x =
        (c :: rest.takeWhile continuesWord).count x + (rest.dropWhile continuesWord).count x := by
      rw [← List.count_append, List.cons_append, List.takeWhile_append_dropWhile]
    rw [hsplit]
    unfold wordToken
    split
    · simp [Token.chars, Token.lost, count_keyword hx]
    · rename_i hk
      have hplain : isPlainWord (c :: rest.takeWhile continuesWord) = true := by
        rw [isPlainWord, hk]
        simp [hw, continuesWord_of_startsWord hw]
      simp [Token.chars, Token.lost, hplain]
  | negative hc hmore hd hread =>
    obtain ⟨hcs, -⟩ := readNumber_frame hread
    rw [hmore, hcs]
    simp [Token.chars, Token.lost, List.count_cons, hc]
    omega
  | double hmore hs =>
    simp only [Token.chars, Token.lost, count_symbol hx, hmore, List.count_cons]
    omega
  | single hs hf => simp [Token.chars, Token.lost, count_symbol hx, List.count_cons]

theorem count_skip_le (x : Char) (b : Between) (cs : List Char) : (skip b cs).count x ≤ cs.count x := by
  fun_induction skip b cs <;> simp_all [List.count_cons] <;> omega

theorem count_joinChars_cons (hx : isMark x = true) (t : Token) (ts : List Token) :
    (Token.joinChars (t :: ts)).count x = t.chars.count x + (Token.joinChars ts).count x := by
  have hspace : ' ' ≠ x := by
    rintro rfl
    cases hx
  rw [Token.joinChars, List.count_append]
  cases ts with
  | nil => rfl
  | cons u ts =>
    rw [Token.joinAfter, Token.joinChars, List.append_assoc, List.count_append]
    split <;> simp [hspace]

/-- A text has at least the marks of its tokens' text, and those that are lost in that. -/
theorem count_of_scan (hx : isMark x = true) (h : scan cs = .ok ts) :
    (Token.joinChars ts).count x + Token.lostIn x ts ≤ cs.count x := by
  fun_induction scan cs generalizing ts with
  | case1 =>
    cases h
    exact Nat.zero_le _
  | case2 => cases h
  | case3 => cases h
  | case4 cs c rest hs t after ht ts ha ih =>
    cases h
    have hskip := count_skip_le x .outside cs
    have htoken := count_token hx ht
    have hmore := ih ha
    rw [hs] at hskip
    rw [count_joinChars_cons hx, Token.lostIn]
    omega

theorem isKept_of_lost (h : ∀ x, isMark x = true → t.lost x = 0) : t.isKept = true := by
  have htick := h backtick rfl
  have hslash := h '\\' rfl
  cases t with
  | identifier name =>
    rw [Token.isKept]
    by_contra hplain
    simp [Token.lost, hplain] at htick
  | quoted text => simpa [Token.lost, Token.isKept, List.count_eq_zero] using hslash
  | _ => rfl

/-- Tokens that are read from their text have lost nothing in it: it would have to have more marks
    than it has. -/
theorem isKept_of_scan_joinChars (h : scan (Token.joinChars ts) = .ok ts) : ∀ t ∈ ts, t.isKept = true := by
  intro t ht
  refine isKept_of_lost fun x hx => ?_
  have hcount := count_of_scan hx h
  exact Token.lost_eq_zero_of_lostIn (by omega) t ht

/-! ## Texts of tokens -/

/-- A number by itself is read as it was. -/
theorem isTextOf_number {a : String} (h : token c rest = .ok (.number a, after)) :
    IsTextOf (.number a) a.toList := by
  obtain ⟨w, -, hframe⟩ := token_frame h
  have ht := hframe [] (.nil _)
  rw [List.append_nil] at ht
  rcases number_of_token ht with ⟨hd, hread⟩ | ⟨rfl, d, more, ds, rfl, hd, hread, ha⟩
  · have hcs := (readNumber_frame hread).1
    rw [List.append_nil] at hcs
    exact ⟨c, w, hcs.symm, hcs ▸ startsGap_of_isPlain (isPlain_of_isDigit hd) w, ht⟩
  · have hcs := (readNumber_frame hread).1
    rw [List.append_nil] at hcs
    have hne : d ≠ '-' := by
      rintro rfl
      cases hd
    exact ⟨'-', d :: more, by rw [ha, hcs], by simp [ha, ← hcs, startsGap_cons, hne, Text.isBlank], ht⟩

theorem quoteChars_eq (h : '\\' ∉ cs) : Token.quoteChars cs = quoteWith '\'' cs := by
  have hsame : ∀ c ∈ cs, (if c == '\'' then ['\'', '\''] else [c]) = if isDoubled '\'' c then [c, c] else [c] := by
    intro c hc
    have hne : c ≠ '\\' := by
      rintro rfl
      exact h hc
    by_cases hq : c = '\'' <;> simp [isDoubled, hq, hne]
  rw [Token.quoteChars, quoteWith, doubled, List.flatMap_congr hsame]

/-- A kept token is read from its text. -/
theorem isTextOf_chars (h : token c rest = .ok (t, after)) (hk : t.isKept = true) : IsTextOf t t.chars := by
  cases t with
  | keyword k => exact Piece.isTextOf (p := .reserved k) rfl
  | identifier name => exact Piece.isTextOf (p := .word name) hk
  | number a => exact isTextOf_number h
  | quoted text =>
    rw [Token.chars, quoteChars_eq (by simpa [Token.isKept] using hk)]
    exact Piece.isTextOf (p := .string text) rfl
  | symbol s => exact Piece.isTextOf (p := .symbol s) rfl

theorem isTextOf_of_scan (h : scan cs = .ok ts) : ∀ t ∈ ts, t.isKept = true → IsTextOf t t.chars := by
  fun_induction scan cs generalizing ts with
  | case1 =>
    cases h
    simp
  | case2 => cases h
  | case3 => cases h
  | case4 cs c rest hs t after ht ts ha ih =>
    cases h
    exact List.forall_mem_cons.mpr ⟨isTextOf_chars ht, ih ha⟩

/-! ## Tokens one behind the other -/

/-- No more than a space stands between a token and the text of those behind it. -/
theorem scan_joinAfter (t : Token) (ts : List Token) : scan (Token.joinAfter t ts) = scan (Token.joinChars ts) := by
  cases ts with
  | nil => rfl
  | cons u ts =>
    rw [Token.joinAfter, Token.joinChars, List.append_assoc]
    split
    · rfl
    · exact scan_space _

theorem isStop_joinAfter (h : t.opensUp = false) (ts : List Token) :
    ∀ d ∈ (Token.joinAfter t ts).head?, isStop d = true := by
  cases ts with
  | nil => simp [Token.joinAfter]
  | cons u ts =>
    rw [Token.joinAfter, h, Bool.or_false]
    split
    · rename_i hu
      cases u with
      | symbol s => cases s <;> simp [Token.closesUp, Token.chars, Symbol.text, isStop] at hu ⊢
      | _ => cases hu
    · simp [isStop]

theorem exists_number_of_token (hc : c.isDigit = true) (h : token c rest = .ok (t, after)) : ∃ a, t = .number a := by
  have hnumber := token_of_tokenAt (.number hc rfl : TokenAt c rest _ _)
  rw [h] at hnumber
  cases hnumber
  exact ⟨_, rfl⟩

/-- A number runs on where the text behind it makes it do so. -/
theorem leavesNumber_joinAfter (a : String) (h : ∀ t ∈ ts, IsTextOf t t.chars) :
    leavesNumber (a.toList.contains '.') (Token.joinAfter (.number a) ts) = !Token.runsOn (.number a :: ts) := by
  cases ts with
  | nil => rfl
  | cons u ts =>
    by_cases hu : u = .symbol .dot
    · subst hu
      cases ts with
      | nil => rfl
      | cons v ts =>
        obtain ⟨d, more, hchars, -, htoken⟩ := h v (by simp)
        have hjoin : Token.joinAfter (.number a) (.symbol .dot :: v :: ts) =
            '.' :: d :: (more ++ Token.joinAfter v ts) := by
          rw [← List.cons_append, ← hchars]
          simp [Token.joinAfter, Token.closesUp, Token.opensUp, Token.chars, Symbol.text]
        rw [hjoin, leavesNumber]
        cases hd : d.isDigit with
        | true =>
          obtain ⟨b, rfl⟩ := exists_number_of_token hd htoken
          have hb : b.toList = d :: more := hchars
          simp [Token.runsOn, hb, hd]
        | false =>
          cases v with
          | number b =>
            have hb : b.toList = d :: more := hchars
            simp [Token.runsOn, hb, hd]
          | _ => simp [Token.runsOn]
    · have hruns : Token.runsOn (.number a :: u :: ts) = false := by
        cases u with
        | symbol s => cases s <;> first | rfl | exact absurd rfl hu
        | _ => rfl
      rw [hruns]
      cases u with
      | symbol s => cases s <;> first | rfl | exact absurd rfl hu
      | _ => rfl

/-- A token that does not run on is read from its text, in front of the others. -/
theorem scan_joinChars_cons (ht : IsTextOf t t.chars) (h : ∀ u ∈ ts, IsTextOf u u.chars)
    (hr : Token.runsOn (t :: ts) = false) :
    scan (Token.joinChars (t :: ts)) = (scan (Token.joinChars ts)).map (t :: ·) := by
  rw [Token.joinChars, ← scan_joinAfter t ts]
  cases hopen : t.opensUp with
  | true =>
    cases t with
    | symbol s =>
      cases s with
      | lparen => exact scan_symbol (c := '(') rfl rfl _
      | dot => exact scan_symbol (c := '.') rfl rfl _
      | _ => cases hopen
    | _ => cases hopen
  | false =>
    refine ht.scan_adjoined (isStop_joinAfter hopen ts) ?_
    rintro a rfl
    rw [leavesNumber_joinAfter a h, hr]
    rfl

/-- A number that runs on is another one. -/
theorem scan_joinChars_ne (ht : IsTextOf t t.chars) (h : ∀ u ∈ ts, IsTextOf u u.chars)
    (hr : Token.runsOn (t :: ts) = true) : scan (Token.joinChars (t :: ts)) ≠ .ok (t :: ts) := by
  intro hscan
  obtain ⟨a, rfl⟩ : ∃ a, t = .number a := by
    unfold Token.runsOn at hr
    split at hr
    · simp_all
    · cases hr
  have hleaves := leavesNumber_joinAfter a h
  rw [hr] at hleaves
  obtain ⟨c, more, hchars, hg, htoken⟩ := ht
  have hchars : a.toList = c :: more := hchars
  rw [Token.joinChars, Token.chars, hchars] at hscan
  obtain ⟨u, after, us, hu, -, heq⟩ := exists_token_of_scan (skip_of_not_startsGap
    (not_startsGap_append (hchars ▸ hg) (isStop_joinAfter rfl ts))) hscan
  rw [token_number_append htoken] at hu
  cases heq
  simp only [Except.ok.injEq, Prod.mk.injEq, Token.number.injEq] at hu
  have hlist := congrArg String.toList hu.1
  rw [String.toList_append, String.toList_ofList] at hlist
  exact readNumber_ne_nil hleaves (List.append_right_eq_self.mp hlist)

/-- Kept tokens are read from their text just where no number runs on. -/
theorem scan_joinChars_iff (h : ∀ t ∈ ts, IsTextOf t t.chars) :
    scan (Token.joinChars ts) = .ok ts ↔ ∀ us, us <:+ ts → Token.runsOn us = false := by
  induction ts with
  | nil =>
    refine iff_of_true (scan_nil rfl) fun us hus => ?_
    rw [List.suffix_nil.mp hus]
    rfl
  | cons t ts ih =>
    rw [List.forall_mem_cons] at h
    cases hr : Token.runsOn (t :: ts) with
    | true =>
      refine iff_of_false (scan_joinChars_ne h.1 h.2 hr) fun hall => ?_
      rw [hall _ List.suffix_rfl] at hr
      cases hr
    | false =>
      rw [scan_joinChars_cons h.1 h.2 hr, map_cons_eq_ok]
      simp [List.suffix_cons_iff, hr, ← ih h.2]

/-- The text of the tokens of any text is read as those tokens just where no name among them needs
    backticks, no literal has a backslash, and no number stands before a point and a digit that it
    would go on with. -/
theorem lex_join_iff {sql : String} (h : lex sql = .ok ts) : lex (Token.join ts) = .ok ts ↔
    (∀ t ∈ ts, t.isKept = true) ∧ ∀ us, us <:+ ts → Token.runsOn us = false := by
  rw [lex_eq_ok_iff, Token.join, String.toList_ofList]
  have htexts := isTextOf_of_scan (lex_eq_ok_iff.mp h)
  constructor
  · intro hjoin
    have hkept := isKept_of_scan_joinChars hjoin
    exact ⟨hkept, (scan_joinChars_iff fun t ht => htexts t ht (hkept t ht)).mp hjoin⟩
  · rintro ⟨hkept, hruns⟩
    exact (scan_joinChars_iff fun t ht => htexts t ht (hkept t ht)).mpr hruns

/-- Two backslashes for one, as a definition writes it and as the text of its tokens does not. -/
theorem lex_join_of_backslashes :
    let ts : List Token := [.identifier "CHECK", .symbol .lparen, .identifier "a", .symbol .neq, .quoted "x\\y",
      .symbol .rparen]
    lex "CHECK (a <> 'x\\\\y')" = .ok ts ∧ Token.join ts = "CHECK (a <> 'x\\y')" ∧ lex (Token.join ts) ≠ .ok ts := by
  have hlex : lex "CHECK (a <> 'x\\\\y')" = .ok [.identifier "CHECK", .symbol .lparen, .identifier "a", .symbol .neq,
      .quoted "x\\y", .symbol .rparen] := by
    decide +kernel
  exact ⟨hlex, by decide +kernel, fun hjoin => absurd ((lex_join_iff hlex).mp hjoin).1 (by decide +kernel)⟩

/-- The space in `1 . 5` is lost. -/
example : lex (Token.join [.number "1", .symbol .dot, .number "5"]) = .ok [.number "1.5"] := by
  decide +kernel

end PocketSql.Sql
