/-
  PocketSql.Proofs.Sql.Cleaning — cleaning a text keeps its tokens.

  Cleaning and the lexer read a text side by side: over a gap cleaning writes at most one
  space, and a token's characters it copies. So the normal form of a text spells its
  lexemes, and the pieces of a script spell the runs between semicolons. The one thing
  that goes wrong is a number that ends in a sign, which may open a comment together with
  a minus behind it.
-/

import Mathlib.Data.List.DropRight
import PocketSql.Proofs.Sql.Lexeme
import PocketSql.Proofs.Text.Blank
import PocketSql.Sql.Script

namespace PocketSql.Sql

variable {split : Bool}

/-! ## Characters that are copied -/

/-- Whether cleaning copies a character outside quotes whatever follows it. -/
def isPlain (c : Char) : Bool :=
  !isQuote c && c != ';' && !Text.isBlank c && c != '-' && c != '/'

theorem isPlain_of_continuesWord {c : Char} (h : continuesWord c = true) : isPlain c = true := by
  have hne : ∀ d, continuesWord d = false → c ≠ d := by
    rintro d hd rfl
    rw [h] at hd
    cases hd
  have hb : Text.isBlank c = false := by
    simp only [continuesWord, Bool.or_eq_true, beq_iff_eq] at h
    rcases h with (h | rfl) | rfl
    · exact Text.isBlank_eq_false_of_isAlphanumeric h
    · rfl
    · rfl
  simp [isPlain, isQuote, hb, hne '\'' (by decide), hne '"' (by decide), hne backtick (by decide),
    hne ';' (by decide), hne '-' (by decide), hne '/' (by decide)]

theorem isPlain_of_isDigit {c : Char} (h : c.isDigit = true) : isPlain c = true := by
  apply isPlain_of_continuesWord
  have hc : c.toNat < 128 := by
    have := (Char.isDigit_iff_toNat.mp h).2
    have : '9'.toNat = 57 := rfl
    omega
  simp [continuesWord, Text.isAlphanumeric, Text.isNumeric, hc, h]

theorem continuesWord_of_startsWord {c : Char} (h : startsWord c = true) : continuesWord c = true := by
  simp only [startsWord, continuesWord, Text.isAlphanumeric, Bool.or_eq_true] at h ⊢
  rcases h with (h | h) | h
  · exact .inl (.inl (.inl h))
  · exact .inl (.inr h)
  · exact .inr h

theorem isPlain_of_startsWord {c : Char} (h : startsWord c = true) : isPlain c = true :=
  isPlain_of_continuesWord (continuesWord_of_startsWord h)

theorem cleanFrom_copy {c : Char} {rest : List Char} (done : List Char) (hg : startsGap (c :: rest) = false)
    (hq : isQuote c = false) (hs : c ≠ ';' ∨ split = false) :
    cleanFrom split .outside done (c :: rest) = cleanFrom split .outside (c :: done) rest := by
  have hb : Text.isBlank c = false := by simp_all [startsGap_cons]
  have hs : (c == ';' && split) = false := by
    rcases hs with h | h <;> simp [h]
  unfold startsGap at hg
  rw [cleanFrom.eq_def]
  split at hg
  · cases hg
  · cases hg
  · rename_i h1 h2 h
    cases h
    split <;> simp_all
  · rename_i h
    cases h

theorem cleanFrom_plain {c : Char} (hc : isPlain c = true) (done rest : List Char) :
    cleanFrom split .outside done (c :: rest) = cleanFrom split .outside (c :: done) rest := by
  simp only [isPlain, Bool.and_eq_true, Bool.not_eq_true', bne_iff_ne, ne_eq] at hc
  obtain ⟨⟨⟨⟨hq, hs⟩, hb⟩, hm⟩, hd⟩ := hc
  exact cleanFrom_copy done (by simp [startsGap_cons, hb, hm, hd]) hq (.inl hs)

theorem cleanFrom_plains {w : List Char} (hw : ∀ c ∈ w, isPlain c = true) (done rest : List Char) :
    cleanFrom split .outside done (w ++ rest) = cleanFrom split .outside (w.reverse ++ done) rest := by
  induction w generalizing done with
  | nil => rfl
  | cons c w ih =>
    rw [List.cons_append, cleanFrom_plain (hw c List.mem_cons_self),
      ih fun d hd => hw d (List.mem_cons_of_mem _ hd)]
    simp

/-! ## Lexemes that are copied -/

theorem cleanFrom_quoted_end {q : Char} (hq : isQuote q = true) (done rest : List Char) :
    cleanFrom split (.quoted q) done (q :: rest) = cleanFrom split .outside (q :: done) rest := by
  have hne : q ≠ '\\' := by
    rintro rfl
    cases hq
  simp [cleanFrom, hne]

theorem cleanFrom_open {q : Char} (hq : isQuote q = true) (done rest : List Char) :
    cleanFrom split .outside done (q :: rest) = cleanFrom split (.quoted q) (q :: done) rest := by
  simp only [isQuote, Bool.or_eq_true, beq_iff_eq] at hq
  rcases hq with (rfl | rfl) | rfl <;> rfl

/-- Cleaning leaves a quoted run where the lexer does, with all its characters kept. -/
theorem cleanFrom_readQuoted {q : Char} (hq : isQuote q = true) {cs run after : List Char}
    (h : readQuoted q cs = some (run, after)) :
    ∃ w, cs = w ++ after ∧
      ∀ done, cleanFrom split (.quoted q) done cs = cleanFrom split .outside (w.reverse ++ done) after := by
  replace h := quotedRun_of_readQuoted h
  induction h with
  | close _ => exact ⟨[q], rfl, fun done => cleanFrom_quoted_end hq done after⟩
  | twice _ ih =>
    obtain ⟨w, rfl, hw⟩ := ih
    refine ⟨q :: q :: w, rfl, fun done => ?_⟩
    rw [cleanFrom_quoted_end hq, cleanFrom_open hq, hw]
    simp
  | @escape d _ _ hne hb _ ih =>
    obtain ⟨w, rfl, hw⟩ := ih
    refine ⟨'\\' :: d :: w, rfl, fun done => ?_⟩
    rw [cleanFrom, if_pos (by simpa using hb), cleanFrom, hw]
    simp
  | @plain c _ _ hc he _ ih =>
    obtain ⟨w, rfl, hw⟩ := ih
    refine ⟨c :: w, rfl, fun done => ?_⟩
    rw [cleanFrom, if_neg (by simpa using he), if_neg (by simpa using hc), hw]
    simp

/-- Whether a run of characters ends in a sign. -/
def endsInSign (cs : List Char) : Bool :=
  cs.getLast? == some '+' || cs.getLast? == some '-'

theorem endsInSign_tail {c : Char} {cs : List Char} (h : endsInSign (c :: cs) = false) :
    endsInSign cs = false := by
  cases cs with
  | nil => rfl
  | cons d cs => simpa [endsInSign, List.getLast?_cons_cons] using h

theorem readNumber_head_ne_minus {seen : Bool} {cs ds after : List Char} {d : Char}
    (h : readNumber seen cs = (d :: ds, after)) : d ≠ '-' := by
  rintro rfl
  unfold readNumber at h
  split at h
  · cases h
  · split at h <;> simp_all
  · split at h
    · simp_all
    · split at h
      · simp_all
      · split at h <;> simp_all

/-- Cleaning copies a number that does not end in a sign. In front of one that does, a
    minus sign would open a comment together with that sign. -/
theorem cleanFrom_readNumber {seen : Bool} {cs ds after : List Char}
    (h : readNumber seen cs = (ds, after)) (hs : endsInSign ds = false) (done : List Char) :
    cleanFrom split .outside done cs = cleanFrom split .outside (ds.reverse ++ done) after := by
  fun_induction readNumber seen cs generalizing ds after done with
  | case1 => cases h; rfl
  | case2 seen c hc =>
    cases h
    exact cleanFrom_plain (isPlain_of_isDigit hc) done []
  | case3 => cases h; rfl
  | case4 seen c d rest hc ds' after' hr ih =>
    cases h
    rw [cleanFrom_plain (isPlain_of_isDigit hc), ih hr (endsInSign_tail hs)]
    simp
  | case5 seen c d rest hc hp ds' after' hr ih =>
    cases h
    obtain rfl : c = '.' := by simp_all
    rw [cleanFrom_plain (by decide), ih hr (endsInSign_tail hs)]
    simp
  | case6 seen c d rest hc hp he ds' after' hr ih =>
    cases h
    have hc : isPlain c = true := by
      simp only [Bool.and_eq_true, Bool.or_eq_true, beq_iff_eq] at he
      rcases he.1 with rfl | rfl <;> decide
    have hd : cleanFrom split .outside (c :: done) (d :: rest) =
        cleanFrom split .outside (d :: c :: done) rest := by
      simp only [Bool.and_eq_true, Bool.or_eq_true, beq_iff_eq] at he
      rcases he.2 with (hd | rfl) | rfl
      · exact cleanFrom_plain (isPlain_of_isDigit hd) _ _
      · exact cleanFrom_plain (by decide) _ _
      · obtain ⟨e, ds', rfl⟩ : ∃ e l, ds' = e :: l := by
          cases ds' with
          | nil => simp [endsInSign] at hs
          | cons e l => exact ⟨e, l, rfl⟩
        have hne := readNumber_head_ne_minus hr
        refine cleanFrom_copy _ ?_ (by decide) (.inl (by decide))
        rw [startsGap_cons, (readNumber_frame hr).1]
        simpa [Text.isBlank] using hne
    rw [cleanFrom_plain hc, hd, ih hr (endsInSign_tail (endsInSign_tail hs))]
    simp
  | case7 => cases h; rfl

/-- Whether the token is a number that ends in a sign, such as `1e-`. -/
def Token.endsInSign : Token → Bool
  | .number n => Sql.endsInSign n.toList
  | _ => false

theorem doubleSymbol?_plain {c d : Char} {s : Symbol} (h : doubleSymbol? c d = some s) :
    isPlain c = true ∧ isPlain d = true := by
  unfold doubleSymbol? at h
  split at h
  · exact ⟨by decide, by decide⟩
  · exact ⟨by decide, by decide⟩
  · exact ⟨by decide, by decide⟩
  · exact ⟨by decide, by decide⟩
  · cases h

theorem singleSymbol?_semicolon {s : Symbol} (h : singleSymbol? ';' = some s) : s = .semicolon := by
  cases h
  rfl

/-- Cleaning copies the characters of a token. -/
theorem cleanFrom_token {c : Char} {rest after : List Char} {t : Token}
    (ht : token c rest = .ok (t, after)) (hg : startsGap (c :: rest) = false) (hn : t.endsInSign = false)
    (hs : t ≠ .symbol .semicolon ∨ split = false) :
    ∃ w, rest = w ++ after ∧ ∀ done,
      cleanFrom split .outside done (c :: rest) = cleanFrom split .outside (w.reverse ++ c :: done) after := by
  cases tokenAt_of_token ht with
  | quoted hq hr =>
    obtain ⟨w, hw, hc⟩ := cleanFrom_readQuoted hq hr
    exact ⟨w, hw, fun done => by rw [cleanFrom_open hq, hc]⟩
  | number hd hr =>
    obtain ⟨w, rfl, hw, -⟩ := readNumber_frame_digit hd hr
    have hn : endsInSign (c :: w) = false := by simpa [Token.endsInSign] using hn
    exact ⟨w, hw, fun done => by rw [cleanFrom_readNumber hr hn]; simp⟩
  | word hw =>
    refine ⟨rest.takeWhile continuesWord, by simp, fun done => ?_⟩
    have hp : ∀ d ∈ rest.takeWhile continuesWord, isPlain d = true := fun d hd =>
      isPlain_of_continuesWord (List.all_eq_true.mp List.all_takeWhile d hd)
    rw [cleanFrom_plain (isPlain_of_startsWord hw), ← cleanFrom_plains hp, List.takeWhile_append_dropWhile]
  | @negative d more ds after' hc hrest hd hr =>
    subst hc hrest
    obtain ⟨w, rfl, hw, -⟩ := readNumber_frame_digit hd hr
    have hn : endsInSign (d :: w) = false :=
      endsInSign_tail (c := '-') (by simpa [Token.endsInSign] using hn)
    refine ⟨d :: w, by rw [hw]; rfl, fun done => ?_⟩
    rw [cleanFrom_copy done hg rfl (.inl (by decide)), cleanFrom_readNumber hr hn]
  | @double d s after' hrest hs2 =>
    subst hrest
    obtain ⟨hc, hd⟩ := doubleSymbol?_plain hs2
    exact ⟨[d], rfl, fun done => by rw [cleanFrom_plain hc, cleanFrom_plain hd]; rfl⟩
  | single hc _ =>
    have hc' : c ≠ ';' ∨ split = false := by
      rcases hs with hs | hs
      · left
        rintro rfl
        exact hs (congrArg Token.symbol (singleSymbol?_semicolon hc))
      · exact .inr hs
    exact ⟨[], rfl, fun done => cleanFrom_copy done hg (singleSymbol?_disjoint hc).1 hc'⟩

/-! ## Gaps become one space -/

theorem withSpace_of_ne {c : Char} (hc : c ≠ ' ') (done : List Char) :
    withSpace (c :: done) = ' ' :: c :: done := by
  unfold withSpace
  split <;> simp_all

theorem withSpace_withSpace (done : List Char) : withSpace (withSpace done) = withSpace done := by
  cases done with
  | nil => rfl
  | cons c done =>
    by_cases hc : c = ' '
    · rw [hc]; rfl
    · rw [withSpace_of_ne hc]; rfl

theorem cleanFrom_blank {c : Char} (hb : Text.isBlank c = true) (done rest : List Char) :
    cleanFrom split .outside done (c :: rest) = cleanFrom split .outside (withSpace done) rest := by
  have hne : ∀ d, Text.isBlank d = false → c ≠ d := by
    rintro d hd rfl
    rw [hb] at hd
    cases hd
  have hq : isQuote c = false := by
    simp [isQuote, hne '\'' (by decide), hne '"' (by decide), hne backtick (by decide)]
  have hs : c ≠ ';' := hne ';' (by decide)
  rw [cleanFrom.eq_def]
  split <;> simp_all
  · exact absurd rfl (hne '-' (by decide))
  · exact absurd rfl (hne '/' (by decide))

/-- Where cleaning stands between two tokens. -/
def Between.place : Between → Place
  | .outside => .outside
  | .lineComment => .lineComment
  | .blockComment => .blockComment

/-- With a space already written, cleaning passes over what the lexer passes over. -/
theorem cleanFrom_skip {done : List Char} (hd : withSpace done = done) (b : Between) (cs : List Char) :
    cleanFrom split b.place done cs = cleanFrom split .outside done (skip b cs) := by
  fun_induction skip b cs with
  | case1 b => cases b <;> rfl
  | case2 rest ih => exact (congrArg (cleanFrom split .lineComment · rest) hd).trans ih
  | case3 rest ih => exact (congrArg (cleanFrom split .blockComment · rest) hd).trans ih
  | case4 c rest h1 h2 hb ih =>
    rw [Between.place, cleanFrom_blank hb, hd]
    exact ih
  | case5 => rfl
  | case6 rest ih => exact ih
  | case7 c rest h ih =>
    rw [Between.place, cleanFrom, if_neg (by simpa using h)]
    exact ih
  | case8 rest ih => exact ih
  | case9 c rest h ih =>
    rw [Between.place, cleanFrom]
    · exact ih
    · exact h

theorem cleanFrom_gap {cs : List Char} (hg : startsGap cs = true) (done : List Char) :
    cleanFrom split .outside done cs = cleanFrom split .outside (withSpace done) cs := by
  unfold startsGap at hg
  split at hg
  · show cleanFrom split .lineComment (withSpace done) _ = cleanFrom split .lineComment (withSpace (withSpace done)) _
    rw [withSpace_withSpace]
  · show cleanFrom split .blockComment (withSpace done) _ = cleanFrom split .blockComment (withSpace (withSpace done)) _
    rw [withSpace_withSpace]
  · rw [cleanFrom_blank hg, cleanFrom_blank hg, withSpace_withSpace]
  · cases hg

/-! ## The ends of lexemes -/

/-- Whether a character is neither white space nor a semicolon. -/
def isSolid (c : Char) : Bool :=
  !(Text.isBlank c || c == ';')

theorem isSolid_of_isPlain {c : Char} (h : isPlain c = true) : isSolid c = true := by
  simp only [isPlain, isSolid, Bool.and_eq_true, Bool.not_eq_true', Bool.or_eq_false_iff, bne_iff_ne,
    beq_eq_false_iff_ne] at h ⊢
  exact ⟨h.1.1.2, h.1.1.1.2⟩

theorem isSolid_of_isQuote {c : Char} (h : isQuote c = true) : isSolid c = true := by
  simp only [isQuote, Bool.or_eq_true, beq_iff_eq] at h
  rcases h with (rfl | rfl) | rfl <;> decide

theorem isSolid_of_single {c : Char} {s : Symbol} (h : singleSymbol? c = some s) :
    isSolid c = true ∨ (c = ';' ∧ s = .semicolon) := by
  unfold singleSymbol? at h
  split at h
  all_goals first | exact .inl (by decide) | (cases h; exact .inr ⟨rfl, rfl⟩) | cases h

theorem readQuoted_last {q : Char} {cs run after : List Char} (h : readQuoted q cs = some (run, after)) :
    ∃ w, cs = w ++ q :: after := by
  replace h := quotedRun_of_readQuoted h
  induction h with
  | close _ => exact ⟨[], rfl⟩
  | twice _ ih =>
    obtain ⟨w, rfl⟩ := ih
    exact ⟨q :: q :: w, rfl⟩
  | @escape d _ _ _ _ _ ih =>
    obtain ⟨w, rfl⟩ := ih
    exact ⟨'\\' :: d :: w, rfl⟩
  | @plain c _ _ _ _ _ ih =>
    obtain ⟨w, rfl⟩ := ih
    exact ⟨c :: w, rfl⟩

theorem readNumber_solid {seen : Bool} {cs ds after : List Char} (h : readNumber seen cs = (ds, after)) :
    ∀ c ∈ ds, isSolid c = true := by
  have digit : ∀ {c : Char}, c.isDigit = true → isSolid c = true := fun hc =>
    isSolid_of_isPlain (isPlain_of_isDigit hc)
  fun_induction readNumber seen cs generalizing ds after with
  | case1 => cases h; simp
  | case2 seen c hc =>
    cases h
    simpa using digit hc
  | case3 => cases h; simp
  | case4 seen c d rest hc ds' after' hr ih =>
    cases h
    exact List.forall_mem_cons.mpr ⟨digit hc, ih hr⟩
  | case5 seen c d rest hc hp ds' after' hr ih =>
    cases h
    obtain rfl : c = '.' := by simp_all
    exact List.forall_mem_cons.mpr ⟨by decide, ih hr⟩
  | case6 seen c d rest hc hp he ds' after' hr ih =>
    cases h
    simp only [Bool.and_eq_true, Bool.or_eq_true, beq_iff_eq] at he
    refine List.forall_mem_cons.mpr ⟨?_, List.forall_mem_cons.mpr ⟨?_, ih hr⟩⟩
    · rcases he.1 with rfl | rfl <;> decide
    · rcases he.2 with (hd | rfl) | rfl
      · exact digit hd
      · decide
      · decide
  | case7 => cases h; simp

/-- Every token but a semicolon ends with a character that cleaning keeps at the end of a piece. -/
theorem token_last {c : Char} {rest after : List Char} {t : Token} (ht : token c rest = .ok (t, after))
    (hs : t ≠ .symbol .semicolon) : ∃ w d, c :: rest = w ++ d :: after ∧ isSolid d = true := by
  have run : ∀ w, rest = w ++ after → (∀ d ∈ c :: w, isSolid d = true) →
      ∃ w d, c :: rest = w ++ d :: after ∧ isSolid d = true := by
    intro w hw hd
    refine ⟨(c :: w).dropLast, (c :: w).getLast (by simp), ?_, hd _ (List.getLast_mem _)⟩
    rw [hw, ← List.singleton_append (l := after), ← List.append_assoc, List.dropLast_append_getLast]
    rfl
  cases tokenAt_of_token ht with
  | quoted hq hr =>
    obtain ⟨w, hw⟩ := readQuoted_last hr
    exact ⟨c :: w, c, by rw [hw]; rfl, isSolid_of_isQuote hq⟩
  | number hd hr =>
    obtain ⟨w, rfl, hw, -⟩ := readNumber_frame_digit hd hr
    exact run w hw (readNumber_solid hr)
  | word hw =>
    refine run (rest.takeWhile continuesWord) (by simp) (List.forall_mem_cons.mpr ⟨?_, fun d hd => ?_⟩)
    · exact isSolid_of_isPlain (isPlain_of_startsWord hw)
    · exact isSolid_of_isPlain (isPlain_of_continuesWord (List.all_eq_true.mp List.all_takeWhile d hd))
  | @negative d more ds after' hc hrest hd hr =>
    subst hc hrest
    obtain ⟨w, rfl, hw, -⟩ := readNumber_frame_digit hd hr
    exact run (d :: w) (by rw [hw]; rfl) (List.forall_mem_cons.mpr ⟨by decide, readNumber_solid hr⟩)
  | @double d s after' hrest hs2 =>
    subst hrest
    exact ⟨[c], d, rfl, isSolid_of_isPlain (doubleSymbol?_plain hs2).2⟩
  | single hc _ =>
    rcases isSolid_of_single hc with h | ⟨-, rfl⟩
    · exact ⟨[], c, rfl, h⟩
    · exact absurd rfl hs

theorem singleSymbol?_eq_semicolon {c : Char} (h : singleSymbol? c = some .semicolon) : c = ';' := by
  unfold singleSymbol? at h
  split at h
  all_goals first | rfl | cases h

theorem doubleSymbol?_ne_semicolon (c d : Char) : doubleSymbol? c d ≠ some .semicolon := by
  unfold doubleSymbol?
  split <;> simp

theorem token_semicolon {c : Char} {rest after : List Char} {t : Token} (ht : token c rest = .ok (t, after))
    (hs : t = .symbol .semicolon) : c = ';' ∧ rest = after := by
  cases tokenAt_of_token ht with
  | quoted =>
    unfold quotedToken at hs
    split at hs <;> cases hs
  | number => cases hs
  | word =>
    unfold wordToken at hs
    split at hs <;> cases hs
  | negative => cases hs
  | double _ h2 =>
    cases hs
    exact absurd h2 (doubleSymbol?_ne_semicolon _ _)
  | single h1 _ =>
    cases hs
    exact ⟨singleSymbol?_eq_semicolon h1, rfl⟩

/-- Whether a lexeme is a semicolon. -/
def Lexeme.isSemicolon (l : Lexeme) : Bool :=
  l.token == .symbol .semicolon

section Ends

variable {l : Lexeme}

theorem Lexeme.Stands.not_blank (h : l.Stands) : Text.isBlank l.first = false := by
  obtain ⟨_, hg, -⟩ := h
  simp only [Lexeme.chars, List.cons_append, startsGap_cons, Bool.or_eq_false_iff] at hg
  exact hg.1.1

theorem Lexeme.Stands.chars_semicolon (h : l.Stands) (hs : l.isSemicolon = true) : l.chars = [';'] := by
  obtain ⟨after, -, ht⟩ := h
  obtain ⟨hc, hm⟩ := token_semicolon ht (by simpa [Lexeme.isSemicolon] using hs)
  rw [Lexeme.chars, hc, List.append_left_eq_self.mp hm]

theorem Lexeme.Stands.chars_last (h : l.Stands) (hs : l.isSemicolon = false) :
    ∃ w d, l.chars = w ++ [d] ∧ isSolid d = true := by
  obtain ⟨after, -, ht⟩ := h
  obtain ⟨w, d, hw, hd⟩ := token_last ht (by simpa [Lexeme.isSemicolon] using hs)
  have hw : l.chars ++ after = w ++ [d] ++ after := by simpa [Lexeme.chars] using hw
  exact ⟨w, d, List.append_cancel_right hw, hd⟩

end Ends

/-! ## Pieces -/

theorem spell_append (ks ls : List Lexeme) : spell (ks ++ ls) = spell ks ++ spell ls := by
  induction ks with
  | nil => rfl
  | cons k ks ih => simp [spell, ih]

theorem compact_concat (ls : List Lexeme) (l : Lexeme) :
    compact (ls ++ [l]) = compact ls ++ (if l.spaced && !ls.isEmpty then [' '] else []) ++ l.chars := by
  cases ls with
  | nil => simp [compact, spell]
  | cons k ks => simp [compact, spell, spell_append]

theorem withSpace_compact {ls : List Lexeme} (h : ∀ l ∈ ls, l.Stands) :
    withSpace (compact ls).reverse = (if ls.isEmpty then [] else [' ']) ++ (compact ls).reverse := by
  rcases List.eq_nil_or_concat' ls with rfl | ⟨ls, l, rfl⟩
  · rfl
  · obtain ⟨w, d, hw, hd⟩ : ∃ w d, l.chars = w ++ [d] ∧ d ≠ ' ' := by
      have hl : l.Stands := h l (by simp)
      cases hs : l.isSemicolon with
      | true => exact ⟨[], ';', hl.chars_semicolon hs, by decide⟩
      | false =>
        obtain ⟨w, d, hw, hd⟩ := hl.chars_last hs
        refine ⟨w, d, hw, ?_⟩
        rintro rfl
        exact absurd hd (by decide)
    rw [compact_concat, hw]
    simp [withSpace_of_ne hd]

theorem finishPiece_withSpace (done : List Char) : finishPiece (withSpace done) = finishPiece done := by
  unfold withSpace
  split <;> rfl

theorem trimLeft_compact {ls : List Lexeme} (h : ∀ l ∈ ls, l.Stands) :
    Text.trimLeft (compact ls) = compact ls := by
  cases ls with
  | nil => rfl
  | cons l ls =>
    have hb := (h l List.mem_cons_self).not_blank
    simp [Text.trimLeft, compact, Lexeme.chars, hb]

/-- Finishing a piece drops its semicolons at the end, and no other lexeme. -/
theorem finishPiece_compact {ls : List Lexeme} (h : ∀ l ∈ ls, l.Stands) :
    finishPiece (compact ls).reverse = compact (ls.rdropWhile Lexeme.isSemicolon) := by
  induction ls using List.reverseRecOn with
  | nil => rfl
  | append_singleton ls l ih =>
    have hl : l.Stands := h l (by simp)
    cases hs : l.isSemicolon with
    | true =>
      have ih := ih fun k hk => h k (by simp [hk])
      rw [List.rdropWhile_concat_pos _ _ _ hs, ← ih, compact_concat, hl.chars_semicolon hs]
      by_cases hg : (l.spaced && !ls.isEmpty) = true
      · rw [if_pos hg]
        simp [finishPiece, Text.isBlank]
      · rw [if_neg hg]
        simp [finishPiece]
    | false =>
      obtain ⟨w, d, hw, hd⟩ := hl.chars_last hs
      rw [List.rdropWhile_concat_neg _ _ _ (by simp [hs])]
      have hlast : ((compact (ls ++ [l])).reverse.dropWhile fun c => Text.isBlank c || c == ';') =
          (compact (ls ++ [l])).reverse := by
        rw [compact_concat, hw, ← List.append_assoc, List.reverse_concat, List.dropWhile_cons_of_neg]
        simpa [isSolid] using hd
      rw [finishPiece, hlast, List.reverse_reverse, trimLeft_compact h]

/-- The runs of lexemes that cleaning makes pieces of. -/
def runs (split : Bool) (ls : List Lexeme) : List (List Lexeme) :=
  if split then ls.splitOnP Lexeme.isSemicolon else [ls]

/-- The text that follows a gap and a lexeme, given what was read before. -/
theorem cleanFrom_lexeme (split : Bool) {cs after : List Char} {l : Lexeme} {ks : List Lexeme} (hk : ∀ k ∈ ks, k.Stands)
    (hs : skip .outside cs = l.chars ++ after) (hsp : l.spaced = startsGap cs) :
    ∃ done, cleanFrom split .outside (compact ks).reverse cs =
        cleanFrom split .outside done (l.chars ++ after) ∧
      finishPiece done = finishPiece (compact ks).reverse ∧
      l.chars.reverse ++ done = (compact (ks ++ [l])).reverse := by
  cases hg : startsGap cs with
  | true =>
    refine ⟨withSpace (compact ks).reverse, ?_, finishPiece_withSpace _, ?_⟩
    · rw [cleanFrom_gap hg, ← hs]
      exact cleanFrom_skip (withSpace_withSpace _) .outside cs
    · rw [withSpace_compact hk, compact_concat, hsp, hg]
      cases ks <;> simp
  | false =>
    rw [skip_of_not_startsGap hg] at hs
    exact ⟨_, by rw [hs], rfl, by simp [compact_concat, hsp, hg]⟩

/-- Cleaning the rest of a text whose lexemes `ks` are read spells the runs of all lexemes. -/
theorem Reads.cleanFrom_eq {cs : List Char} {ls : List Lexeme} (h : Reads cs ls)
    (hn : ∀ l ∈ ls, l.token.endsInSign = false) {ks : List Lexeme} (hk : ∀ k ∈ ks, k.Stands)
    (hks : split = true → ∀ k ∈ ks, k.isSemicolon = false) :
    cleanFrom split .outside (compact ks).reverse cs =
      (runs split (ks ++ ls)).map fun run => compact (run.rdropWhile Lexeme.isSemicolon) := by
  induction h generalizing ks with
  | @nil cs hs =>
    have hr : runs split (ks ++ []) = [ks] := by
      cases split with
      | false => simp [runs]
      | true => simp [runs, List.splitOnP_eq_singleton (hks rfl)]
    rw [hr, List.map_singleton, ← finishPiece_compact hk]
    cases hg : startsGap cs with
    | true =>
      have hsk : cleanFrom split .outside (withSpace (compact ks).reverse) cs = _ :=
        cleanFrom_skip (withSpace_withSpace _) .outside cs
      rw [cleanFrom_gap hg, hsk, hs, ← finishPiece_withSpace]
      rfl
    | false =>
      rw [skip_of_not_startsGap hg] at hs
      rw [hs]
      rfl
  | @cons cs after l ls hs hsp ht hr ih =>
    have hl : l.Stands := ⟨after, hs ▸ not_startsGap_skip _ _, ht⟩
    have hns : ∀ m ∈ ls, m.token.endsInSign = false := fun m hm => hn m (List.mem_cons_of_mem _ hm)
    obtain ⟨done, hc, hf, hd⟩ := cleanFrom_lexeme split hk hs hsp
    rw [hc]
    by_cases hsem : l.isSemicolon = true ∧ split = true
    · obtain ⟨hsem, rfl⟩ := hsem
      have hrun : runs true (ks ++ l :: ls) = ks :: runs true ([] ++ ls) := by
        simpa [runs] using List.splitOnP_append_cons_of_forall_mem (hks rfl) l hsem ls
      have hcut : cleanFrom true .outside done (';' :: after) =
          finishPiece done :: cleanFrom true .outside [] after := rfl
      rw [hl.chars_semicolon hsem, List.singleton_append, hcut, hf, finishPiece_compact hk, hrun, List.map_cons,
        ← ih hns (by simp) (by simp)]
      rfl
    · have hsplit : l.token ≠ .symbol .semicolon ∨ split = false := by
        cases split with
        | false => exact .inr rfl
        | true => exact .inl (by simpa [Lexeme.isSemicolon] using hsem)
      have hg : startsGap (l.chars ++ after) = false := hs ▸ not_startsGap_skip _ _
      obtain ⟨w, hw, hcopy⟩ := cleanFrom_token ht hg (hn l List.mem_cons_self) hsplit
      obtain rfl := List.append_cancel_right hw
      have hks' : split = true → ∀ k ∈ ks ++ [l], k.isSemicolon = false := by
        intro hsp' k hk'
        rcases List.mem_append.mp hk' with hk' | hk'
        · exact hks hsp' k hk'
        · rw [List.mem_singleton.mp hk']
          simpa [hsp'] using hsem
      have hk' : ∀ k ∈ ks ++ [l], k.Stands := by
        intro k hk'
        rcases List.mem_append.mp hk' with hk' | hk'
        · exact hk k hk'
        · rwa [List.mem_singleton.mp hk']
      have hread := ih hns hk' hks'
      rw [← hd, List.append_assoc, List.singleton_append] at hread
      rw [← hread, Lexeme.chars, List.cons_append, hcopy]
      simp

/-! ## What the lexer sees afterwards -/

theorem lex_eq_ok_iff {sql : String} {ts : List Token} : lex sql = .ok ts ↔ scan sql.toList = .ok ts := by
  simp only [lex]
  constructor
  · intro h
    split at h
    · rename_i hs
      rw [hs, Except.ok.inj h]
    · cases h
    · cases h
  · intro h
    rw [h]

theorem mem_splitOnPPrepend {α : Type} {p : α → Bool} {xs acc run : List α}
    (h : run ∈ xs.splitOnPPrepend p acc) (hacc : ∀ x ∈ acc, p x = false) :
    run <:+: acc.reverse ++ xs ∧ ∀ x ∈ run, p x = false := by
  induction xs generalizing acc with
  | nil =>
    obtain rfl : run = acc.reverse := by simpa using h
    exact ⟨by simp, by simpa using hacc⟩
  | cons x xs ih =>
    by_cases hx : p x = true
    · rw [List.splitOnPPrepend_cons_pos hx] at h
      rcases List.mem_cons.mp h with rfl | h
      · exact ⟨(List.prefix_append _ _).isInfix, by simpa using hacc⟩
      · have h : run ∈ xs.splitOnPPrepend p [] := by simpa using h
        obtain ⟨hin, hp⟩ := ih h (by simp)
        refine ⟨hin.trans ((List.suffix_cons x xs).isInfix.trans ?_), hp⟩
        exact (List.suffix_append _ _).isInfix
    · have hx : p x = false := by simpa using hx
      rw [List.splitOnPPrepend_cons_neg hx] at h
      obtain ⟨hin, hp⟩ := ih h (List.forall_mem_cons.mpr ⟨hx, hacc⟩)
      exact ⟨by simpa using hin, hp⟩

theorem map_splitOnP {α β : Type} (f : α → β) (p : β → Bool) (xs : List α) :
    (xs.map f).splitOnP p = (xs.splitOnP (p ∘ f)).map (List.map f) := by
  induction xs with
  | nil => rfl
  | cons x xs ih =>
    rw [List.map_cons, List.splitOnP_cons_eq_if_modifyHead, List.splitOnP_cons_eq_if_modifyHead, ih]
    by_cases hx : p (f x) = true
    · simp [hx]
    · cases xs.splitOnP (p ∘ f) <;> simp [hx]

section Cleaned

variable {sql : String} {ls : List Lexeme}

theorem Reads.clean_eq (h : Reads sql.toList ls) (hn : ∀ l ∈ ls, l.token.endsInSign = false) :
    clean split sql = (runs split ls).map fun run =>
      String.ofList (compact (run.rdropWhile Lexeme.isSemicolon)) := by
  have hc : cleanFrom split .outside (compact []).reverse sql.toList = _ := h.cleanFrom_eq hn (by simp) (by simp)
  have hc : cleanFrom split .outside [] sql.toList = _ := hc
  rw [clean, hc, List.map_map]
  rfl

theorem lex_compact {cs : List Char} (h : Reads cs ls) {run : List Lexeme} (hr : run <:+: ls) :
    lex (String.ofList (compact run)) = .ok (run.map (·.token)) := by
  rw [lex_eq_ok_iff, String.toList_ofList]
  exact h.scan_compact hr

theorem isEmpty_compact (run : List Lexeme) : (String.ofList (compact run)).isEmpty = run.isEmpty := by
  cases run <;> simp [compact, Lexeme.chars, String.isEmpty_iff]

/-- The pieces of a script are the runs of its tokens between semicolons. -/
theorem Reads.map_lex_splitStatements (h : Reads sql.toList ls) (hn : ∀ l ∈ ls, l.token.endsInSign = false) :
    (splitStatements sql).map lex =
      (((ls.map (·.token)).splitOn (.symbol .semicolon)).filter (!·.isEmpty)).map .ok := by
  have hruns : (ls.map (·.token)).splitOn (.symbol .semicolon) =
      (ls.splitOnP Lexeme.isSemicolon).map (List.map (·.token)) := by
    rw [List.splitOn_eq_splitOnP, map_splitOnP]
    rfl
  have hmem : ∀ run ∈ ls.splitOnP Lexeme.isSemicolon, run <:+: ls ∧ ∀ l ∈ run, l.isSemicolon = false :=
    fun run hrun => mem_splitOnPPrepend hrun (by simp)
  have hdrop : ∀ run ∈ ls.splitOnP Lexeme.isSemicolon, run.rdropWhile Lexeme.isSemicolon = run := by
    intro run hrun
    rw [List.rdropWhile_eq_self_iff]
    intro hne
    simpa using (hmem run hrun).2 _ (List.getLast_mem hne)
  have hclean : clean true sql = (ls.splitOnP Lexeme.isSemicolon).map fun run => String.ofList (compact run) := by
    rw [h.clean_eq hn]
    refine List.map_congr_left fun run hrun => ?_
    rw [hdrop run hrun]
  rw [splitStatements, hclean, hruns, List.filter_map, List.filter_map, List.map_map, List.map_map]
  have hempty : (fun run : List Lexeme => !(String.ofList (compact run)).isEmpty) =
      fun run => !(run.map (·.token)).isEmpty := by
    funext run
    rw [isEmpty_compact, List.isEmpty_map]
  refine (congrArg (List.map _) (congrArg (List.filter · _) hempty)).trans ?_
  refine List.map_congr_left fun run hrun => ?_
  exact lex_compact h (hmem run (List.mem_of_mem_filter hrun)).1

theorem Reads.normalize_eq (h : Reads sql.toList ls) (hn : ∀ l ∈ ls, l.token.endsInSign = false) :
    normalize sql = if (ls.rdropWhile Lexeme.isSemicolon).isEmpty then .error .emptyStatement
      else .ok (String.ofList (compact (ls.rdropWhile Lexeme.isSemicolon))) := by
  have hclean : clean false sql = [String.ofList (compact (ls.rdropWhile Lexeme.isSemicolon))] := by
    rw [h.clean_eq hn]
    rfl
  simp only [normalize, hclean, List.getLast?_singleton, isEmpty_compact]

theorem map_rdropWhile_isSemicolon (ls : List Lexeme) :
    (ls.rdropWhile Lexeme.isSemicolon).map (·.token) =
      (ls.map (·.token)).rdropWhile (· == .symbol .semicolon) := by
  simp only [List.rdropWhile, ← List.map_reverse, List.dropWhile_map]
  rfl

end Cleaned

/-- Cleaning keeps the tokens of every text in which no number ends in a sign: the pieces of
    a script have the tokens between its semicolons, and the normal form of a statement has
    its tokens up to the semicolons at its end. It fails for a text without any others. -/
theorem cleaning_keeps_tokens {sql : String} {ts : List Token} (h : lex sql = .ok ts)
    (hn : ∀ t ∈ ts, t.endsInSign = false) :
    (splitStatements sql).map lex = ((ts.splitOn (.symbol .semicolon)).filter (!·.isEmpty)).map .ok ∧
    (normalize sql = .error .emptyStatement ↔ ∀ t ∈ ts, t = .symbol .semicolon) ∧
    ((∃ t ∈ ts, t ≠ .symbol .semicolon) → ∃ text, normalize sql = .ok text ∧
      lex text = .ok (ts.rdropWhile (· == .symbol .semicolon))) := by
  obtain ⟨ls, hr, rfl⟩ := exists_reads_of_scan (lex_eq_ok_iff.mp h)
  have hn : ∀ l ∈ ls, l.token.endsInSign = false := fun l hl => hn _ (List.mem_map_of_mem hl)
  have hall : (∀ t ∈ ls.map (·.token), t = .symbol .semicolon) ↔
      (ls.rdropWhile Lexeme.isSemicolon).isEmpty = true := by
    rw [List.isEmpty_iff, List.rdropWhile_eq_nil_iff]
    simp [Lexeme.isSemicolon]
  refine ⟨hr.map_lex_splitStatements hn, ?_, fun hex => ?_⟩
  · rw [hr.normalize_eq hn, hall]
    split <;> simp_all
  · have hne : (ls.rdropWhile Lexeme.isSemicolon).isEmpty = false := by
      rw [Bool.eq_false_iff, ne_eq, ← hall]
      intro hs
      obtain ⟨t, ht, hts⟩ := hex
      exact hts (hs t ht)
    refine ⟨_, by rw [hr.normalize_eq hn, hne]; rfl, ?_⟩
    rw [lex_compact hr (List.rdropWhile_prefix _ _).isInfix, map_rdropWhile_isSemicolon]

theorem cleaning_keeps_tokens_of_names :
    let sql := "a 'b;''c' -- ;\n;; /* ; */ \x60d;\x60 = -1e5;"
    let first : List Token := [.identifier "a", .quoted "b;'c"]
    let second : List Token := [.identifier "d;", .symbol .eq, .number "-1e5"]
    (splitStatements sql).map lex = [.ok first, .ok second] ∧
    ∃ text, normalize sql = .ok text ∧
      lex text = .ok (first ++ [.symbol .semicolon, .symbol .semicolon] ++ second) := by
  intro sql first second
  have hl : lex sql = .ok (first ++ [.symbol .semicolon, .symbol .semicolon] ++ second ++ [.symbol .semicolon]) := by
    decide +kernel
  obtain ⟨hsplit, -, hnormal⟩ := cleaning_keeps_tokens hl (by decide)
  exact ⟨hsplit, hnormal ⟨.identifier "a", by decide, by decide⟩⟩

end PocketSql.Sql
