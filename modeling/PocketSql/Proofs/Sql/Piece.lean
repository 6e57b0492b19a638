/-
  PocketSql.Proofs.Sql.Piece — statement text put together from pieces.

  A piece is the text of one token: a reserved or plain word, a symbol, a number, or a
  name or string in quotes, in which whatever would end the quoted run or start an escape
  is written twice. Pieces with one space between any two are read back as their tokens,
  whatever the names and strings are (`lex_spaced`).
-/

import PocketSql.Number.Numeral
import PocketSql.Proofs.Sql.Cleaning

namespace PocketSql.Sql

/-! ## Quoting -/

/-- Whether a character is written twice between these quotes. -/
def isDoubled (quote c : Char) : Bool :=
  c == quote || (c == '\\' && quote != backtick)

/-- The characters between two quotes, some of them written twice. -/
def doubled (quote : Char) (cs : List Char) : List Char :=
  cs.flatMap fun c => if isDoubled quote c then [c, c] else [c]

/-- A text in quotes. -/
def quoteWith (quote : Char) (cs : List Char) : List Char :=
  quote :: doubled quote cs ++ [quote]

theorem readQuoted_doubled (q : Char) (cs : List Char) :
    readQuoted q (doubled q cs ++ [q]) = some (cs, []) := by
  induction cs with
  | nil => simp [doubled, readQuoted]
  | cons c cs ih =>
    have hcons : doubled q (c :: cs) = (if isDoubled q c then [c, c] else [c]) ++ doubled q cs := by
      simp [doubled]
    rw [hcons, List.append_assoc]
    by_cases hc : c = q
    · simp [hc, isDoubled, readQuoted, ih]
    · by_cases he : c = '\\' ∧ q ≠ backtick
      · obtain ⟨rfl, hb⟩ := he
        simp [isDoubled, hb, readQuoted, hc, ih, unescape]
      · have hd : isDoubled q c = false := by simpa [isDoubled, hc] using he
        have hesc : (c == '\\' && q != backtick) = false := by simpa using he
        obtain ⟨d, more, hm⟩ : ∃ d more, doubled q cs ++ [q] = d :: more :=
          List.exists_cons_of_ne_nil (by simp)
        rw [hm] at ih
        rw [hd, hm]
        simp [readQuoted, hc, hesc, ih]

/-! ## Numerals -/

/-- Whether digits, and nothing before them, stand in front of what satisfies `rest`. -/
def startsWithDigits (rest : List Char → Bool) (cs : List Char) : Bool :=
  !(Numeral.digits cs).1.isEmpty && rest (Numeral.digits cs).2

/-- Whether this is empty, or an exponent of a decimal number. -/
def isExponent (cs : List Char) : Bool :=
  (Numeral.exponent? cs).isSome

/-- Whether this follows the whole part of a decimal number. -/
def isFraction : List Char → Bool
  | '.' :: cs => startsWithDigits isExponent cs
  | cs => isExponent cs

/-- Whether this is a decimal number: digits, maybe a point with more digits, maybe an
    exponent, and maybe a minus sign in front. -/
def isNumeral : List Char → Bool
  | '-' :: cs => startsWithDigits isFraction cs
  | cs => startsWithDigits isFraction cs

theorem readNumber_digits {ds : List Char} (hd : ∀ c ∈ ds, c.isDigit = true) (seen : Bool) (rest : List Char) :
    readNumber seen (ds ++ rest) = (ds ++ (readNumber seen rest).1, (readNumber seen rest).2) := by
  induction ds with
  | nil => rfl
  | cons c ds ih =>
    rw [List.cons_append, readNumber_digit (hd c List.mem_cons_self), ih fun d h => hd d (List.mem_cons_of_mem _ h)]
    rfl

theorem readNumber_all_digits {ds : List Char} (hd : ∀ c ∈ ds, c.isDigit = true) (seen : Bool) :
    readNumber seen ds = (ds, []) := by
  have h := readNumber_digits hd seen []
  simpa [readNumber] using h

theorem digits_of_nat? {cs : List Char} (h : (Numeral.nat? cs).isSome = true) :
    ∃ d more, cs = d :: more ∧ ∀ c ∈ d :: more, c.isDigit = true := by
  unfold Numeral.nat? at h
  split at h
  · cases h
  · cases cs with
    | nil => simp_all
    | cons d more => exact ⟨d, more, rfl, by simp_all⟩

/-- Whether a run of characters ends in a digit. -/
def endsInDigit (cs : List Char) : Bool :=
  cs.getLast?.any Char.isDigit

theorem endsInDigit_append (cs : List Char) {more : List Char} (h : endsInDigit more = true) :
    endsInDigit (cs ++ more) = true := by
  unfold endsInDigit at h ⊢
  cases hl : more.getLast? with
  | none => simp [hl] at h
  | some c => rwa [List.getLast?_append, hl, Option.some_or, ← hl]

theorem endsInDigit_of_digits {cs : List Char} (hne : cs ≠ []) (h : ∀ c ∈ cs, c.isDigit = true) :
    endsInDigit cs = true := by
  rw [endsInDigit, List.getLast?_eq_some_getLast hne]
  exact h _ (List.getLast_mem hne)

/-- An exponent is empty, or a mark, a sign or a digit, and digits. -/
theorem isExponent_cases {cs : List Char} (h : isExponent cs = true) :
    cs = [] ∨ ∃ e d more, cs = e :: d :: more ∧ (e == 'e' || e == 'E') = true ∧
      (d.isDigit || d == '+' || d == '-') = true ∧ (∀ c ∈ more, c.isDigit = true) ∧
      endsInDigit (d :: more) = true := by
  unfold isExponent Numeral.exponent? at h
  split at h
  · exact .inl rfl
  · rename_i e rest
    split at h
    · rename_i he
      have hn : (Numeral.nat? (Numeral.sign rest).2).isSome = true := by
        cases hn : Numeral.nat? (Numeral.sign rest).2 with
        | none => simp [hn] at h
        | some n => rfl
      obtain ⟨d, more, hds, hd⟩ := digits_of_nat? hn
      have hend : endsInDigit (d :: more) = true := endsInDigit_of_digits (by simp) hd
      refine .inr ⟨e, ?_⟩
      unfold Numeral.sign at hds
      split at hds <;> dsimp only at hds <;> subst hds
      · exact ⟨'-', d :: more, rfl, he, by decide, hd, endsInDigit_append ['-'] hend⟩
      · exact ⟨'+', d :: more, rfl, he, by decide, hd, endsInDigit_append ['+'] hend⟩
      · exact ⟨d, more, rfl, he, by simp [hd d List.mem_cons_self], fun c hc => hd c (List.mem_cons_of_mem _ hc), hend⟩
    · cases h

theorem readNumber_exponent {cs : List Char} (h : isExponent cs = true) (seen : Bool) :
    readNumber seen cs = (cs, []) := by
  rcases isExponent_cases h with rfl | ⟨e, d, more, rfl, he, hd, hmore, -⟩
  · rfl
  · have hnd : e.isDigit = false ∧ e ≠ '.' := by
      simp only [Bool.or_eq_true, beq_iff_eq] at he
      rcases he with rfl | rfl <;> decide
    have hmark : ((e == 'e' || e == 'E') && (d.isDigit || d == '+' || d == '-')) = true := by
      rw [he, hd]
      rfl
    rw [readNumber]
    simp only [hnd.1, Bool.false_eq_true, if_false, beq_eq_false_iff_ne.mpr hnd.2, Bool.false_and, hmark, if_true,
      readNumber_all_digits hmore]

theorem exponent_endsInDigit {cs : List Char} (h : isExponent cs = true) : cs = [] ∨ endsInDigit cs = true := by
  rcases isExponent_cases h with rfl | ⟨e, d, more, rfl, -, -, -, hend⟩
  · exact .inl rfl
  · exact .inr (endsInDigit_append [e] hend)

/-- A number is read to its end where what follows its digits is. -/
theorem readNumber_of_startsWithDigits {seen : Bool} {rest : List Char → Bool} {cs : List Char}
    (h : startsWithDigits rest cs = true) (hr : ∀ more, rest more = true → readNumber seen more = (more, [])) :
    ∃ d more, cs = d :: more ∧ d.isDigit = true ∧ readNumber seen cs = (cs, []) := by
  simp only [startsWithDigits, Numeral.digits, Bool.and_eq_true, Bool.not_eq_true', List.isEmpty_eq_false_iff] at h
  have hdigits : ∀ c ∈ cs.takeWhile Char.isDigit, c.isDigit = true :=
    fun c hc => List.all_eq_true.mp List.all_takeWhile c hc
  have hread := readNumber_digits hdigits seen (cs.dropWhile Char.isDigit)
  rw [hr _ h.2, List.takeWhile_append_dropWhile] at hread
  cases cs with
  | nil => simp at h
  | cons d more =>
    refine ⟨d, more, rfl, ?_, hread⟩
    cases hd : d.isDigit with
    | true => rfl
    | false => simp [hd] at h

theorem readNumber_fraction {cs : List Char} (h : isFraction cs = true) :
    readNumber false cs = (cs, []) := by
  unfold isFraction at h
  split at h
  · rename_i cs
    obtain ⟨d, more, rfl, hd, hread⟩ := readNumber_of_startsWithDigits h fun _ hm => readNumber_exponent hm true
    simp [readNumber, hd, hread]
  · exact readNumber_exponent h false

/-- Digits with what ends in a digit behind them end in a digit. -/
theorem startsWithDigits_endsInDigit {rest : List Char → Bool} {cs : List Char} (h : startsWithDigits rest cs = true)
    (hr : ∀ more, rest more = true → more = [] ∨ endsInDigit more = true) : endsInDigit cs = true := by
  simp only [startsWithDigits, Numeral.digits, Bool.and_eq_true, Bool.not_eq_true', List.isEmpty_eq_false_iff] at h
  have hsplit : cs.takeWhile Char.isDigit ++ cs.dropWhile Char.isDigit = cs := List.takeWhile_append_dropWhile
  have hdigits : endsInDigit (cs.takeWhile Char.isDigit) = true :=
    endsInDigit_of_digits h.1 fun c hc => List.all_eq_true.mp List.all_takeWhile c hc
  rcases hr _ h.2 with hnil | hend
  · rw [hnil, List.append_nil] at hsplit
    rwa [hsplit] at hdigits
  · rw [← hsplit]
    exact endsInDigit_append _ hend

theorem fraction_endsInDigit {cs : List Char} (h : isFraction cs = true) : cs = [] ∨ endsInDigit cs = true := by
  unfold isFraction at h
  split at h
  · rename_i cs
    have hend := startsWithDigits_endsInDigit h fun _ => exponent_endsInDigit
    exact .inr (endsInDigit_append ['.'] hend)
  · exact exponent_endsInDigit h

theorem numeral_endsInDigit {cs : List Char} (h : isNumeral cs = true) : endsInDigit cs = true := by
  unfold isNumeral at h
  split at h
  · rename_i cs
    have hend := startsWithDigits_endsInDigit h fun _ => fraction_endsInDigit
    exact endsInDigit_append ['-'] hend
  · exact startsWithDigits_endsInDigit h fun _ => fraction_endsInDigit

theorem endsInSign_of_endsInDigit {cs : List Char} (h : endsInDigit cs = true) : endsInSign cs = false := by
  unfold endsInDigit at h
  unfold endsInSign
  cases hl : cs.getLast? with
  | none => rfl
  | some c =>
    have hc : c.isDigit = true := by simpa [hl] using h
    have hplus : c ≠ '+' := by
      rintro rfl
      cases hc
    have hminus : c ≠ '-' := by
      rintro rfl
      cases hc
    simp [hplus, hminus]

theorem startsGap_of_isPlain {c : Char} (h : isPlain c = true) (rest : List Char) : startsGap (c :: rest) = false := by
  simp only [isPlain, Bool.and_eq_true, Bool.not_eq_true', bne_iff_ne, ne_eq] at h
  obtain ⟨⟨⟨⟨-, -⟩, hb⟩, hm⟩, hd⟩ := h
  simp [startsGap_cons, hb, hm, hd]

theorem token_numeral {cs : List Char} (h : isNumeral cs = true) :
    ∃ c more, cs = c :: more ∧ startsGap cs = false ∧ token c more = .ok (.number (String.ofList cs), []) := by
  unfold isNumeral at h
  split at h
  · obtain ⟨d, more, rfl, hd, hread⟩ := readNumber_of_startsWithDigits h fun _ => readNumber_fraction
    have hne : d ≠ '-' := by
      rintro rfl
      cases hd
    exact ⟨'-', d :: more, rfl, by simp [startsGap_cons, hne, Text.isBlank],
      token_of_tokenAt (.negative rfl rfl hd hread)⟩
  · obtain ⟨d, more, rfl, hd, hread⟩ := readNumber_of_startsWithDigits h fun _ => readNumber_fraction
    exact ⟨d, more, rfl, startsGap_of_isPlain (isPlain_of_isDigit hd) more, token_of_tokenAt (.number hd hread)⟩

/-! ## Pieces -/

/-- Whether this is a word, and no reserved one. -/
def isPlainWord (cs : List Char) : Bool :=
  cs.head?.any startsWord && cs.all continuesWord && (Keyword.ofWord? (String.ofList cs)).isNone

/-- What a text is put together from. -/
inductive Piece where
  | reserved (k : Keyword)
  | symbol (s : Symbol)
  /-- A word that stands without quotes. -/
  | word (s : String)
  /-- A name in backticks. -/
  | name (s : String)
  /-- A string in single quotes. -/
  | string (s : String)
  | number (s : String)
  deriving DecidableEq

namespace Piece

/-- The text of a piece. -/
def chars : Piece → List Char
  | reserved k => k.text.toList
  | symbol s => s.text.toList
  | word s | number s => s.toList
  | name s => quoteWith backtick s.toList
  | string s => quoteWith '\'' s.toList

/-- The token that a piece is the text of. -/
def token : Piece → Token
  | reserved k => .keyword k
  | symbol s => .symbol s
  | word s | name s => .identifier s
  | string s => .quoted s
  | number s => .number s

/-- Names and strings may be any text; words and numbers have their forms. -/
def isWritable : Piece → Bool
  | word s => isPlainWord s.toList
  | number s => isNumeral s.toList
  | reserved _ | symbol _ | name _ | string _ => true

/-- Whether a piece may stand in a statement: it has its form and ends no statement. -/
def isInStatement (p : Piece) : Bool :=
  p.isWritable && p != symbol .semicolon

@[simp] theorem isInStatement_reserved (k : Keyword) : (reserved k).isInStatement = true :=
  rfl

@[simp] theorem isInStatement_symbol (s : Symbol) : (symbol s).isInStatement = (s != .semicolon) := by
  cases s <;> rfl

@[simp] theorem isInStatement_name (s : String) : (name s).isInStatement = true :=
  rfl

@[simp] theorem isInStatement_string (s : String) : (string s).isInStatement = true :=
  rfl

@[simp] theorem isInStatement_number (s : String) : (number s).isInStatement = isNumeral s.toList :=
  Bool.and_true _

theorem isWritable_of_isInStatement {p : Piece} (h : p.isInStatement = true) : p.isWritable = true :=
  (Bool.and_eq_true_iff.mp h).1

theorem token_ne_semicolon {p : Piece} (h : p.isInStatement = true) : p.token ≠ .symbol .semicolon := by
  intro ht
  cases p with
  | symbol s =>
    cases ht
    cases h
  | _ => cases ht

end Piece

/-- A written number ends in a digit. -/
theorem Piece.endsInSign_token {p : Piece} (h : p.isWritable = true) : p.token.endsInSign = false := by
  cases p with
  | number s => exact endsInSign_of_endsInDigit (numeral_endsInDigit h)
  | _ => rfl

theorem token_quoteWith {q : Char} (hq : isQuote q = true) (cs : List Char) :
    token q (doubled q cs ++ [q]) = .ok (quotedToken q cs, []) :=
  token_of_tokenAt (.quoted hq (readQuoted_doubled q cs))

theorem token_word {c : Char} {more : List Char} (hc : startsWord c = true)
    (hm : ∀ d ∈ more, continuesWord d = true) : token c more = .ok (wordToken (c :: more), []) := by
  have h := token_of_tokenAt (.word hc : TokenAt c more _ _)
  rwa [List.takeWhile_eq_self_iff.mpr hm, List.dropWhile_eq_nil_iff.mpr hm] at h

theorem isPlainWord_keyword (k : Keyword) : k.text.toList.head?.any startsWord = true ∧
    k.text.toList.all continuesWord = true ∧ wordToken k.text.toList = .keyword k := by
  cases k <;> decide +kernel

/-- Whether characters by themselves are read as this one token. -/
def IsTextOf (t : Token) (cs : List Char) : Prop :=
  ∃ c more, cs = c :: more ∧ startsGap cs = false ∧ token c more = .ok (t, [])

theorem isTextOf_symbol (s : Symbol) : IsTextOf (.symbol s) s.text.toList := by
  cases s <;> exact ⟨_, _, rfl, by decide +kernel, by decide +kernel⟩

/-- A word is read as a reserved one or as a name. -/
theorem isTextOf_word {cs : List Char} (hs : cs.head?.any startsWord = true) (hc : cs.all continuesWord = true) :
    IsTextOf (wordToken cs) cs := by
  cases cs with
  | nil => cases hs
  | cons c more =>
    have hs : startsWord c = true := by simpa using hs
    exact ⟨c, more, rfl, startsGap_of_isPlain (isPlain_of_startsWord hs) more,
      token_word hs fun d hd => List.all_eq_true.mp hc d (List.mem_cons_of_mem _ hd)⟩

theorem isTextOf_quoteWith {q : Char} (hq : isQuote q = true) (cs : List Char) :
    IsTextOf (quotedToken q cs) (quoteWith q cs) :=
  ⟨q, _, rfl, startsGap_of_isQuote hq _, token_quoteWith hq cs⟩

/-- A piece by itself is its token. -/
theorem Piece.isTextOf {p : Piece} (h : p.isWritable = true) : IsTextOf p.token p.chars := by
  cases p with
  | reserved k =>
    obtain ⟨hs, hc, ht⟩ := isPlainWord_keyword k
    have hk := isTextOf_word hs hc
    rwa [ht] at hk
  | symbol s => exact isTextOf_symbol s
  | word s =>
    simp only [Piece.isWritable, isPlainWord, Bool.and_eq_true, Option.isNone_iff_eq_none] at h
    have hw : wordToken s.toList = .identifier s := by
      rw [wordToken, h.2, String.ofList_toList]
    have hs := isTextOf_word h.1.1 h.1.2
    rwa [hw] at hs
  | name s =>
    have hs := isTextOf_quoteWith (q := backtick) (by decide) s.toList
    rwa [quotedToken, if_pos (by decide), String.ofList_toList] at hs
  | string s =>
    have hs := isTextOf_quoteWith (q := '\'') (by decide) s.toList
    rwa [quotedToken, if_neg (by decide), String.ofList_toList] at hs
  | number s =>
    obtain ⟨c, more, he, hg, ht⟩ := token_numeral h
    rw [String.ofList_toList] at ht
    exact ⟨c, more, he, hg, ht⟩

/-! ## Texts -/

/-- The pieces with one space between any two. -/
def spaced (ps : List Piece) : String :=
  String.ofList ([' '].intercalate (ps.map Piece.chars))

theorem scan_space (cs : List Char) : scan (' ' :: cs) = scan cs := by
  rw [scan, scan.eq_def cs]
  rfl

/-- The text of a token is that token also where nothing or a space follows it. -/
theorem IsTextOf.scan_append {t : Token} {cs rest : List Char} (h : IsTextOf t cs) (hf : Follows [] rest) :
    scan (cs ++ rest) = (scan rest).map (t :: ·) := by
  obtain ⟨c, more, rfl, hg, ht⟩ := h
  obtain ⟨w, hw, hframe⟩ := token_frame ht
  rw [List.append_nil] at hw
  subst hw
  have hmore : Follows more (more ++ rest) := by simpa using hf.append more
  rw [List.cons_append]
  exact scan_of_token (skip_of_not_startsGap (not_startsGap_of_follows hg hmore)) (hframe rest hf)

/-- Texts of tokens with one space between any two are read as the tokens. -/
theorem scan_intercalate {ι : Type} {chars : ι → List Char} {token : ι → Token} {is : List ι}
    (h : ∀ i ∈ is, IsTextOf (token i) (chars i)) : scan ([' '].intercalate (is.map chars)) = .ok (is.map token) := by
  induction is with
  | nil => exact scan_nil rfl
  | cons i is ih =>
    have ih := ih fun j hj => h j (List.mem_cons_of_mem _ hj)
    have hi := h i List.mem_cons_self
    cases is with
    | nil =>
      have hnil : scan [] = .ok [] := scan_nil rfl
      have hscan := hi.scan_append (.nil [])
      rw [List.append_nil, hnil] at hscan
      simpa [Except.map] using hscan
    | cons j js =>
      have hscan := hi.scan_append (.space [] ([' '].intercalate ((j :: js).map chars)))
      rw [scan_space, ih] at hscan
      simpa [List.intercalate_cons_cons, Except.map] using hscan

/-- Pieces are read as their tokens. -/
theorem lex_spaced {ps : List Piece} (h : ∀ p ∈ ps, p.isWritable = true) :
    lex (spaced ps) = .ok (ps.map Piece.token) := by
  rw [lex_eq_ok_iff, spaced, String.toList_ofList]
  exact scan_intercalate fun p hp => Piece.isTextOf (h p hp)

end PocketSql.Sql
