/-
  PocketSql.Proofs.Sql.Classified — a statement that is read is classified as what it is read as.

  The kind of a text is told from the words in it, the statement is read from its tokens.
  In a text without comments the first tokens that spell capital words are the first
  words of the text in upper case, also where they stand in backticks
  (`leadingWords_of_leads`). Every form of a statement starts with the words of a pattern of its
  kind (`leads_of_statement`), and no pattern is the front of another one of another kind.
-/

import PocketSql.Proofs.Sql.Cleaning
import PocketSql.Proofs.Sql.Takes
import PocketSql.Proofs.Sql.Tidy
import PocketSql.Proofs.Sql.Yields
import PocketSql.Proofs.Text.Blank
import PocketSql.Proofs.Text.Case

namespace PocketSql.Sql

/-! ## Words of tokens -/

/-- Whether a token is this word, reserved or not. -/
def Token.spells (word : String) : Token → Bool
  | keyword k => k.text == word
  | t => t.isWord word

/-- The first tokens are these words. -/
def Leads : List String → List Token → Prop
  | [], _ => True
  | _ :: _, [] => False
  | w :: ws, t :: ts => t.spells w = true ∧ Leads ws ts

/-- Whether a word is made of capital ASCII letters. -/
def isCapital (w : String) : Bool :=
  !w.toList.isEmpty && w.toList.all Char.isUpper

/-- The characters of a text in upper case. -/
def upperChars (cs : List Char) : List Char :=
  cs.flatMap Text.upperChar

variable {c : Char} {cs w rest after : List Char} {n : Nat}

theorem upperChars_append (cs ds : List Char) : upperChars (cs ++ ds) = upperChars cs ++ upperChars ds :=
  List.flatMap_append

theorem isWordChar_of_isUpper (h : c.isUpper = true) : isWordChar c = true := by
  have hc : c.toNat < 128 := by
    rw [Text.isUpper_iff] at h
    omega
  simp [isWordChar, Text.isAlphanumeric, Text.isAlphabetic, hc, Text.isAlpha_eq, h]

theorem isAlphabetic_eq_false_of_isWordChar (h : isWordChar c = false) : Text.isAlphabetic c = false := by
  simp only [isWordChar, Text.isAlphanumeric, Bool.or_eq_false_iff] at h
  exact h.1.1

theorem upperChar_of_not_isWordChar (h : isWordChar c = false) : Text.upperChar c = [c] :=
  Text.upperChar_of_not_isAlphabetic (isAlphabetic_eq_false_of_isWordChar h)

theorem upperChars_cons (h : isWordChar c = false) (cs : List Char) : upperChars (c :: cs) = c :: upperChars cs := by
  rw [upperChars, List.flatMap_cons, upperChar_of_not_isWordChar h]
  rfl

/-! ## Leading words -/

/-- What belongs to no word is passed over. -/
theorem leadingWords_skip (h : isWordChar c = false) (n : Nat) (cs : List Char) :
    leadingWords n (c :: cs) = leadingWords n cs := by
  cases n with
  | zero => rfl
  | succ n =>
    have hdrop : (c :: cs).dropWhile (fun c => !isWordChar c) = cs.dropWhile fun c => !isWordChar c :=
      List.dropWhile_cons_of_pos (by simp [h])
    simp only [leadingWords, hdrop]

theorem leadingWords_append (hne : w ≠ []) (hw : ∀ c ∈ w, isWordChar c = true)
    (hrest : ∀ c ∈ rest.head?, isWordChar c = false) (n : Nat) :
    leadingWords (n + 1) (w ++ rest) = w :: leadingWords n rest := by
  have hdrop : (w ++ rest).dropWhile (fun c => !isWordChar c) = w ++ rest := by
    cases w with
    | nil => exact absurd rfl hne
    | cons c w => exact List.dropWhile_cons_of_neg (by simp [hw c List.mem_cons_self])
  have htake : rest.takeWhile isWordChar = [] ∧ rest.dropWhile isWordChar = rest := by
    cases rest with
    | nil => exact ⟨rfl, rfl⟩
    | cons c rest =>
      have hc := hrest c rfl
      exact ⟨List.takeWhile_cons_of_neg (by simp [hc]), List.dropWhile_cons_of_neg (by simp [hc])⟩
  simp only [leadingWords, hdrop]
  rw [if_neg (by simp [hne]), List.takeWhile_append_of_pos hw, List.dropWhile_append_of_pos hw, htake.1, htake.2,
    List.append_nil]

/-- White space in front changes nothing. -/
theorem leadingWords_trimLeft (n : Nat) (cs : List Char) :
    leadingWords n (upperChars (Text.trimLeft cs)) = leadingWords n (upperChars cs) := by
  induction cs with
  | nil => rfl
  | cons c cs ih =>
    unfold Text.trimLeft at ih ⊢
    by_cases hb : Text.isBlank c = true
    · have hword : isWordChar c = false := by
        rw [Bool.eq_false_iff]
        intro hc
        simp only [isWordChar, Bool.or_eq_true, beq_iff_eq] at hc
        rcases hc with hc | rfl
        · rw [Text.isBlank_eq_false_of_isAlphanumeric hc] at hb
          cases hb
        · exact absurd hb (by decide)
      rw [List.dropWhile_cons_of_pos hb, ih, upperChars_cons hword, leadingWords_skip hword]
    · rw [List.dropWhile_cons_of_neg hb]

/-! ## Tokens in tidy text -/

theorem skip_blank (h : Text.isBlank c = true) (cs : List Char) : skip .outside (c :: cs) = skip .outside cs := by
  rw [skip.eq_def]
  split
  · rename_i he
    cases he
  · rename_i he
    cases he
    exact absurd h (by decide)
  · rename_i he
    cases he
    exact absurd h (by decide)
  · rename_i he
    cases he
    rw [if_pos h]
  all_goals simp_all

/-- In tidy text only white space stands between tokens. -/
theorem skip_of_tidy (h : tidy .outside cs = true) : skip .outside cs = Text.trimLeft cs := by
  induction cs with
  | nil => rfl
  | cons c cs ih =>
    rw [Text.trimLeft]
    by_cases hb : Text.isBlank c = true
    · rw [skip_blank hb, List.dropWhile_cons_of_pos hb]
      rw [tidy_blank hb] at h
      exact ih h
    · have hcomment : startsComment (c :: cs) = false := by
        simp only [tidy, Bool.and_eq_true, Bool.not_eq_true'] at h
        exact h.1
      have hgap : startsGap (c :: cs) = false := by
        rw [startsComment_cons] at hcomment
        rw [startsGap_cons, Bool.or_assoc, hcomment]
        simpa using hb
      rw [skip_of_not_startsGap hgap, List.dropWhile_cons_of_neg hb]

theorem tidy_plains (hw : ∀ c ∈ w, isPlain c = true) (rest : List Char) :
    tidy .outside (w ++ rest) = tidy .outside rest := by
  induction w with
  | nil => rfl
  | cons c w ih =>
    have hc := hw c List.mem_cons_self
    simp only [isPlain, Bool.and_eq_true, Bool.not_eq_true', bne_iff_ne, ne_eq] at hc
    obtain ⟨⟨⟨⟨hq, -⟩, -⟩, hm⟩, hd⟩ := hc
    rw [List.cons_append, tidy_outside (by simp [startsComment_cons, hm, hd]) hq]
    exact ih fun d hd => hw d (List.mem_cons_of_mem _ hd)

/-- A name without backticks is what stands between its own. -/
theorem readQuoted_backtick {run : List Char} (h : readQuoted backtick cs = some (run, after))
    (hr : ∀ c ∈ run, c ≠ backtick) : cs = run ++ backtick :: after := by
  replace h := quotedRun_of_readQuoted h
  induction h with
  | close _ => rfl
  | twice _ _ => exact absurd rfl (hr _ List.mem_cons_self)
  | escape _ hb _ _ => exact absurd rfl hb
  | plain _ _ _ ih =>
    rw [ih fun c hc => hr c (List.mem_cons_of_mem _ hc)]
    rfl

theorem tidy_letters (hw : ∀ c ∈ w, c.isAlpha = true) (rest : List Char) :
    tidy (.quoted backtick) (w ++ backtick :: rest) = tidy .outside rest := by
  induction w with
  | nil => simp [tidy, backtick]
  | cons c w ih =>
    have hc : c ≠ backtick := by
      rintro rfl
      exact absurd (hw _ List.mem_cons_self) (by decide)
    rw [List.cons_append, tidy]
    simp only [bne_self_eq_false, Bool.and_false, Bool.false_eq_true, if_false, beq_eq_false_iff_ne.mpr hc]
    exact ih fun d hd => hw d (List.mem_cons_of_mem _ hd)

theorem upper_of_sameName {s w : String} (hw : isCapital w = true) (h : Text.sameName s w = true) :
    upperChars s.toList = w.toList ∧ ∀ c ∈ s.toList, c.isAlpha = true := by
  have hupper : w.toList.all Char.isUpper = true := (Bool.and_eq_true_iff.mp hw).2
  have hlow : s.toList.map Char.toLower = w.toList.map Char.toLower := beq_iff_eq.mp h
  generalize s.toList = cs at hlow
  generalize w.toList = ds at hlow hupper
  induction cs generalizing ds with
  | nil =>
    cases ds with
    | nil => exact ⟨rfl, by simp⟩
    | cons d ds => cases hlow
  | cons c cs ih =>
    cases ds with
    | nil => cases hlow
    | cons d ds =>
      obtain ⟨hd, hds⟩ := Bool.and_eq_true_iff.mp hupper
      obtain ⟨hcd, hrest⟩ := List.cons.inj hlow
      obtain ⟨hc, ha⟩ := Text.upperChar_of_toLower_eq hd hcd
      obtain ⟨ihc, iha⟩ := ih ds hrest hds
      refine ⟨?_, ?_⟩
      · rw [upperChars, List.flatMap_cons, hc]
        exact congrArg (d :: ·) ihc
      · rintro c' (_ | ⟨_, hc'⟩)
        · exact ha
        · exact iha c' hc'

/-- A word token that spells a capital word is that word in upper case. -/
theorem upper_of_wordToken {run : List Char} {word : String} (hw : isCapital word = true)
    (h : (wordToken run).spells word = true) : upperChars run = word.toList := by
  unfold wordToken at h
  split at h
  · rename_i k hk
    have hfound := List.find?_some hk
    simp only [Token.spells, beq_iff_eq] at h hfound
    rw [← h, hfound, Text.toList_upper, String.toList_ofList]
    rfl
  · have h := (upper_of_sameName hw h).1
    rwa [String.toList_ofList] at h

/-- A token that spells a capital word is one word of the text, and what follows it is tidy
    again. -/
theorem leadingWords_token {t : Token} {word : String} (hw : isCapital word = true)
    (ht : token c rest = .ok (t, after)) (hs : t.spells word = true) (htidy : tidy .outside (c :: rest) = true)
    (n : Nat) : leadingWords (n + 1) (upperChars (c :: rest)) = word.toList :: leadingWords n (upperChars after) ∧
      tidy .outside after = true := by
  obtain ⟨hne, hupper⟩ := Bool.and_eq_true_iff.mp hw
  have hne : word.toList ≠ [] := by simpa using hne
  have hword : ∀ c ∈ word.toList, isWordChar c = true := fun c hc =>
    isWordChar_of_isUpper (List.all_eq_true.mp hupper c hc)
  cases token_eq_ok_iff.mp ht with
  | @quoted run _ hq hr =>
    unfold quotedToken at hs
    split at hs
    · rename_i hb
      cases beq_iff_eq.mp hb
      obtain ⟨hrun, halpha⟩ := upper_of_sameName hw hs
      rw [String.toList_ofList] at hrun halpha
      have hin : ∀ c ∈ run, c ≠ backtick := by
        rintro c hc rfl
        exact absurd (halpha _ hc) (by decide)
      have htext : upperChars (backtick :: rest) = backtick :: (word.toList ++ backtick :: upperChars after) := by
        rw [readQuoted_backtick hr hin, ← List.cons_append, upperChars_append, ← hrun]
        rfl
      have hback : isWordChar backtick = false := by decide
      refine ⟨?_, ?_⟩
      · rw [htext, leadingWords_skip hback, leadingWords_append hne hword (by simp [hback]), leadingWords_skip hback]
      · rw [tidy_open hq, readQuoted_backtick hr hin, tidy_letters halpha] at htidy
        exact htidy
    · cases hs
  | number hd hr => cases hs
  | word hc =>
    have hrun := upper_of_wordToken hw hs
    have htext : c :: rest = (c :: rest.takeWhile continuesWord) ++ rest.dropWhile continuesWord := by
      simp
    have hhead : ∀ d ∈ (upperChars (rest.dropWhile continuesWord)).head?, isWordChar d = false := by
      intro d hd
      cases hafter : rest.dropWhile continuesWord with
      | nil =>
        rw [hafter] at hd
        cases hd
      | cons e more =>
        have he : continuesWord e = false := by
          have hfirst := List.head?_dropWhile_not continuesWord rest
          rw [hafter] at hfirst
          simpa using hfirst
        have hword : isWordChar e = false := by
          simp only [continuesWord, Bool.or_eq_false_iff] at he
          simp [isWordChar, he.1]
        rw [hafter, upperChars, List.flatMap_cons, upperChar_of_not_isWordChar hword] at hd
        cases hd
        exact hword
    refine ⟨?_, ?_⟩
    · rw [htext, upperChars_append, hrun, leadingWords_append hne hword hhead]
    · rw [htext, tidy_plains] at htidy
      · exact htidy
      · rintro d (_ | ⟨_, hd⟩)
        · exact isPlain_of_startsWord hc
        · exact isPlain_of_continuesWord (List.all_eq_true.mp List.all_takeWhile d hd)
  | negative hc hrest hd hr => cases hs
  | double hrest hd => cases hs
  | single hc hd => cases hs

/-- The capital words that the first tokens spell are the first words of the text. -/
theorem leadingWords_of_leads {ls : List Lexeme} {ws : List String} (hr : Reads cs ls)
    (ht : tidy .outside cs = true) (hws : ∀ w ∈ ws, isCapital w = true) (hl : Leads ws (ls.map (·.token)))
    (hn : ws.length ≤ n) : ws.map String.toList <+: leadingWords n (upperChars cs) := by
  induction ws generalizing cs ls n with
  | nil => exact List.nil_prefix
  | cons w ws ih =>
    cases hr with
    | nil _ => cases hl
    | @cons _ after l ls hskip hgap htoken hafter =>
      obtain ⟨n, rfl⟩ : ∃ m, n = m + 1 := Nat.exists_eq_succ_of_ne_zero (by simp at hn; omega)
      obtain ⟨hspell, hl⟩ := hl
      rw [← leadingWords_trimLeft]
      have htrim := tidy_trimLeft ht
      rw [← skip_of_tidy ht, hskip] at htrim ⊢
      obtain ⟨hword, htidy⟩ := leadingWords_token (hws w List.mem_cons_self) htoken hspell htrim n
      show _ <+: leadingWords (n + 1) (upperChars (l.first :: (l.more ++ after)))
      rw [hword, List.map_cons]
      refine (List.cons_prefix_cons).mpr ⟨rfl, ?_⟩
      exact ih hafter htidy (fun w hw => hws w (List.mem_cons_of_mem _ hw)) hl (by simpa using hn)

/-! ## Patterns -/

namespace Kind

theorem isCapital_patterns : ∀ p ∈ patterns, ∀ w ∈ p.1, isCapital w = true := by
  decide +kernel

theorem length_patterns : ∀ p ∈ patterns, p.1 ≠ [] ∧ p.1.length ≤ 3 := by
  decide

/-- No pattern is the front of one of another kind. -/
theorem patterns_apart : ∀ p ∈ patterns, ∀ q ∈ patterns, p.1.isPrefixOf q.1 = true → p.2 = q.2 := by
  decide +kernel

end Kind

theorem not_isEmpty_trim {sql : String} (h : Text.trimLeft sql.toList ≠ []) : (Text.trim sql).isEmpty = false := by
  rw [Text.isEmpty_trim, Bool.eq_false_iff, ne_eq, List.all_eq_true]
  exact fun hall => h (List.dropWhile_eq_nil_iff.mpr hall)

/-- A text whose first words in upper case are those of a pattern is classified by it. -/
theorem classify_of_leadingWords {sql : String} {ws : List String} {k : Kind} (hp : (ws, k) ∈ Kind.patterns)
    (hblank : Text.trimLeft sql.toList ≠ [])
    (hwords : ws.map String.toList <+: leadingWords 3 (upperChars sql.toList)) : classify sql = .ok k := by
  have hfront : ws <+: (leadingWords 3 (Text.upper sql).toList).map String.ofList := by
    have hmap := hwords.map String.ofList
    rw [List.map_map] at hmap
    rw [Text.toList_upper]
    simpa [Function.comp_def, upperChars] using hmap
  unfold classify
  rw [not_isEmpty_trim hblank]
  simp only [Bool.false_eq_true, if_false]
  generalize (leadingWords 3 (Text.upper sql).toList).map String.ofList = words at hfront
  cases hfind : Kind.patterns.find? fun p => p.1.isPrefixOf words with
  | none =>
    have := List.find?_eq_none.mp hfind _ hp
    exact absurd (List.isPrefixOf_iff_prefix.mpr hfront) this
  | some q =>
    obtain ⟨ws', k'⟩ := q
    have hq := List.mem_of_find?_eq_some hfind
    have hfront' : ws' <+: words :=
      List.isPrefixOf_iff_prefix.mp (List.find?_some (p := fun q : List String × Kind => q.1.isPrefixOf words) hfind)
    have hk : k' = k := by
      rcases List.prefix_or_prefix_of_prefix hfront hfront' with h | h
      · exact (Kind.patterns_apart _ hp _ hq (List.isPrefixOf_iff_prefix.mpr h)).symm
      · exact Kind.patterns_apart _ hq _ hp (List.isPrefixOf_iff_prefix.mpr h)
    rw [hk]

/-- A tidy text that starts with the words of a pattern is classified by it. -/
theorem classify_of_leads {sql : String} {ts : List Token} {ws : List String} {k : Kind} (hl : lex sql = .ok ts)
    (ht : tidy .outside sql.toList = true) (hp : (ws, k) ∈ Kind.patterns) (hws : Leads ws ts) :
    classify sql = .ok k := by
  obtain ⟨ls, hr, rfl⟩ := exists_reads_of_scan (lex_eq_ok_iff.mp hl)
  obtain ⟨hne, hlength⟩ := Kind.length_patterns _ hp
  have hwords := leadingWords_of_leads hr ht (Kind.isCapital_patterns _ hp) hws hlength
  refine classify_of_leadingWords hp ?_ hwords
  rw [← skip_of_tidy ht]
  cases hr with
  | nil _ =>
    cases ws with
    | nil => exact absurd rfl hne
    | cons w ws => cases hws
  | cons hskip _ _ _ =>
    rw [hskip]
    simp [Lexeme.chars]

/-! ## The first words of statements -/

theorem Token.spells_of_isWord {t : Token} {word : String} (h : t.isWord word = true) : t.spells word = true := by
  cases t with
  | identifier name => exact h
  | _ => cases h

theorem Token.spells_keyword (k : Keyword) : (Token.keyword k).spells k.text = true :=
  beq_self_eq_true _

namespace Parser

variable {α : Type} {f : Unit → Parser α} {a : α} {ts rest : List Token}

theorem after_keyword {k : Keyword} (h : (expectKeyword k >>= f).Takes ts a rest) :
    ∃ t ts', ts = t :: ts' ∧ t.spells k.text = true ∧ (f ()).Takes ts' a rest := by
  obtain ⟨u, ts', hk, h⟩ := takes_bind.mp h
  exact ⟨_, ts', takes_expectKeyword.mp hk, Token.spells_keyword k, h⟩

theorem after_word {word : String} (h : (expectWord word >>= f).Takes ts a rest) :
    ∃ t ts', ts = t :: ts' ∧ t.spells word = true ∧ (f ()).Takes ts' a rest := by
  obtain ⟨u, ts', hw, hf⟩ := takes_bind.mp h
  obtain ⟨t, ht, rfl⟩ := takes_expectWord.mp hw
  exact ⟨t, ts', rfl, Token.spells_of_isWord ht, hf⟩

theorem spells_of_takeKeyword {k : Keyword} (h : (takeKeyword k).Takes ts true rest) :
    ∃ t, ts = t :: rest ∧ t.spells k.text = true :=
  ⟨_, takes_takeKeyword_true.mp h, Token.spells_keyword k⟩

theorem spells_of_takeWord {word : String} (h : (takeWord word).Takes ts true rest) :
    ∃ t, ts = t :: rest ∧ t.spells word = true := by
  obtain ⟨t, ht, rfl⟩ := takes_takeIf_true.mp h
  exact ⟨t, rfl, Token.spells_of_isWord ht⟩

/-- What was not taken is still there. -/
theorem rest_of_takeIf_false {q : Token → Bool} (h : (takeIf q).Takes ts false rest) : rest = ts :=
  (takes_takeIf_false.mp h).1

theorem spells_of_databaseWord {u : Unit} (h : databaseWord.Takes ts u rest) :
    ∃ t, ts = t :: rest ∧ (t.spells "DATABASE" = true ∨ t.spells "SCHEMA" = true) := by
  rcases takes_takeEither.mp (takes_require.mp h) with h | ⟨ts', hno, h⟩
  · obtain ⟨t, rfl, ht⟩ := spells_of_takeKeyword h
    exact ⟨t, rfl, .inl ht⟩
  · cases rest_of_takeIf_false hno
    obtain ⟨t, rfl, ht⟩ := spells_of_takeKeyword h
    exact ⟨t, rfl, .inr ht⟩

/-- What is read as a statement of a kind starts with the words of a pattern of the kind. -/
theorem leads_of_body {k : Kind} {s : Statement} (h : (body k).Takes ts s rest) :
    ∃ ws, (ws, k) ∈ Kind.patterns ∧ Leads ws ts := by
  cases k with
  | select =>
    obtain ⟨s, h, -⟩ := takes_map.mp h
    obtain ⟨t, ts, rfl, ht, -⟩ := after_keyword h
    exact ⟨["SELECT"], by simp [Kind.patterns], ht, trivial⟩
  | insert =>
    obtain ⟨s, h, -⟩ := takes_map.mp h
    obtain ⟨t, ts, rfl, ht, h⟩ := after_keyword h
    obtain ⟨t', ts, rfl, ht', -⟩ := after_keyword h
    exact ⟨["INSERT", "INTO"], by simp [Kind.patterns], ht, ht', trivial⟩
  | update =>
    obtain ⟨s, h, -⟩ := takes_map.mp h
    obtain ⟨t, ts, rfl, ht, -⟩ := after_keyword h
    exact ⟨["UPDATE"], by simp [Kind.patterns], ht, trivial⟩
  | delete =>
    obtain ⟨s, h, -⟩ := takes_map.mp h
    obtain ⟨t, ts, rfl, ht, h⟩ := after_keyword h
    obtain ⟨t', ts, rfl, ht', -⟩ := after_keyword h
    exact ⟨["DELETE", "FROM"], by simp [Kind.patterns], ht, ht', trivial⟩
  | createTable =>
    obtain ⟨s, h, -⟩ := takes_map.mp h
    obtain ⟨t, ts, rfl, ht, h⟩ := after_keyword h
    obtain ⟨t', ts, rfl, ht', -⟩ := after_keyword h
    exact ⟨["CREATE", "TABLE"], by simp [Kind.patterns], ht, ht', trivial⟩
  | dropTable =>
    obtain ⟨t, ts, rfl, ht, h⟩ := after_keyword h
    obtain ⟨t', ts, rfl, ht', -⟩ := after_keyword h
    exact ⟨["DROP", "TABLE"], by simp [Kind.patterns], ht, ht', trivial⟩
  | alterTable =>
    obtain ⟨t, ts, rfl, ht, h⟩ := after_word h
    obtain ⟨t', ts, rfl, ht', -⟩ := after_keyword h
    exact ⟨["ALTER", "TABLE"], by simp [Kind.patterns], ht, ht', trivial⟩
  | truncateTable =>
    obtain ⟨t, ts, rfl, ht, h⟩ := after_word h
    obtain ⟨t', ts, rfl, ht', -⟩ := after_keyword h
    exact ⟨["TRUNCATE", "TABLE"], by simp [Kind.patterns], ht, ht', trivial⟩
  | createDatabase =>
    obtain ⟨t, ts, rfl, ht, h⟩ := after_keyword h
    obtain ⟨u, ts', hword, -⟩ := takes_bind.mp h
    obtain ⟨t', rfl, ht' | ht'⟩ := spells_of_databaseWord hword
    · exact ⟨["CREATE", "DATABASE"], by simp [Kind.patterns], ht, ht', trivial⟩
    · exact ⟨["CREATE", "SCHEMA"], by simp [Kind.patterns], ht, ht', trivial⟩
  | dropDatabase =>
    obtain ⟨t, ts, rfl, ht, h⟩ := after_keyword h
    obtain ⟨u, ts', hword, -⟩ := takes_bind.mp h
    obtain ⟨t', rfl, ht' | ht'⟩ := spells_of_databaseWord hword
    · exact ⟨["DROP", "DATABASE"], by simp [Kind.patterns], ht, ht', trivial⟩
    · exact ⟨["DROP", "SCHEMA"], by simp [Kind.patterns], ht, ht', trivial⟩
  | createIndex =>
    obtain ⟨s, h, -⟩ := takes_map.mp h
    obtain ⟨t, ts, rfl, ht, h⟩ := after_keyword h
    obtain ⟨unique, ts', hunique, h⟩ := takes_bind.mp h
    obtain ⟨t', ts'', rfl, ht', -⟩ := after_word h
    cases unique with
    | true =>
      obtain ⟨t'', rfl, ht''⟩ := spells_of_takeKeyword hunique
      exact ⟨["CREATE", "UNIQUE", "INDEX"], by simp [Kind.patterns], ht, ht'', ht', trivial⟩
    | false =>
      cases rest_of_takeIf_false hunique
      exact ⟨["CREATE", "INDEX"], by simp [Kind.patterns], ht, ht', trivial⟩
  | dropIndex =>
    obtain ⟨t, ts, rfl, ht, h⟩ := after_keyword h
    obtain ⟨t', ts, rfl, ht', -⟩ := after_word h
    exact ⟨["DROP", "INDEX"], by simp [Kind.patterns], ht, ht', trivial⟩
  | showTables =>
    obtain ⟨t, ts, rfl, ht, h⟩ := after_word h
    obtain ⟨t', ts, rfl, ht', -⟩ := after_word h
    exact ⟨["SHOW", "TABLES"], by simp [Kind.patterns], ht, ht', trivial⟩
  | showDatabases =>
    obtain ⟨t, ts, rfl, ht, h⟩ := after_word h
    obtain ⟨u, ts', hword, -⟩ := takes_bind.mp h
    rcases takes_takeEither.mp (takes_require.mp hword) with hword | ⟨ts'', hno, hword⟩
    · obtain ⟨t', rfl, ht'⟩ := spells_of_takeWord hword
      exact ⟨["SHOW", "DATABASES"], by simp [Kind.patterns], ht, ht', trivial⟩
    · cases rest_of_takeIf_false hno
      obtain ⟨t', rfl, ht'⟩ := spells_of_takeWord hword
      exact ⟨["SHOW", "SCHEMAS"], by simp [Kind.patterns], ht, ht', trivial⟩
  | describe =>
    obtain ⟨u, ts', hword, -⟩ := takes_bind.mp h
    rcases takes_takeEither.mp (takes_require.mp hword) with hword | ⟨ts'', hno, hword⟩
    · obtain ⟨t, rfl, ht⟩ := spells_of_takeKeyword hword
      exact ⟨["DESC"], by simp [Kind.patterns], ht, trivial⟩
    · cases rest_of_takeIf_false hno
      obtain ⟨t, rfl, ht⟩ := spells_of_takeWord hword
      exact ⟨["DESCRIBE"], by simp [Kind.patterns], ht, trivial⟩
  | use =>
    obtain ⟨t, ts, rfl, ht, -⟩ := after_word h
    exact ⟨["USE"], by simp [Kind.patterns], ht, trivial⟩
  | explain => exact absurd h (not_takes_fail _)
  | begin =>
    obtain ⟨started, ts', hstart, hmore⟩ := takes_bind.mp h
    cases started with
    | true =>
      obtain ⟨t, rfl, ht⟩ := spells_of_takeWord hstart
      obtain ⟨t', ts, rfl, ht', -⟩ := after_word hmore
      exact ⟨["START", "TRANSACTION"], by simp [Kind.patterns], ht, ht', trivial⟩
    | false =>
      cases rest_of_takeIf_false hstart
      obtain ⟨t, ts, rfl, ht, -⟩ := after_word hmore
      exact ⟨["BEGIN"], by simp [Kind.patterns], ht, trivial⟩
  | commit =>
    obtain ⟨t, ts, rfl, ht, -⟩ := after_word h
    exact ⟨["COMMIT"], by simp [Kind.patterns], ht, trivial⟩
  | rollback =>
    obtain ⟨t, ts, rfl, ht, -⟩ := after_word h
    exact ⟨["ROLLBACK"], by simp [Kind.patterns], ht, trivial⟩

theorem leads_of_statement {k : Kind} {s : Statement} (h : (statement k).Takes ts s rest) :
    ∃ ws, (ws, k) ∈ Kind.patterns ∧ Leads ws ts := by
  obtain ⟨s', ts', hread, -⟩ := takes_bind.mp h
  split at hread
  · rename_i hk
    cases beq_iff_eq.mp hk
    obtain ⟨t, ts, rfl, ht, -⟩ := after_word hread
    exact ⟨["EXPLAIN"], by simp [Kind.patterns], ht, trivial⟩
  · exact leads_of_body hread

end Parser

/-- What is read as a statement of a kind is classified as that kind. -/
theorem classify_normalized {sql n : String} {k : Kind} {s : Statement} (hn : normalize sql = .ok n)
    (hp : parse n k = .ok s) : classify n = .ok k := by
  obtain ⟨ts, hl, hrun⟩ := bind_eq_ok.mp hp
  obtain ⟨⟨s', rest⟩, hread, -⟩ := map_eq_ok.mp hrun
  obtain ⟨ws, hpattern, hleads⟩ := Parser.leads_of_statement hread
  exact classify_of_leads hl (tidy_of_normalize hn) hpattern hleads

/-- A normalized text that is read as a statement of some kind is classified as that kind,
    and the statement is of it. -/
theorem classify_of_parse {sql n : String} {k : Kind} {s : Statement} (hn : normalize sql = .ok n)
    (hp : parse n k = .ok s) : classify n = .ok k ∧ s.kind = k :=
  ⟨classify_normalized hn hp, (readAs_of_parse hp).kind⟩

/-- A text with the words of another statement in a comment and with a word of its own in
    backticks. -/
theorem classify_of_parse_index :
    let sql := "/* DROP TABLE */ create -- unique\n\t\x60index\x60 \x60i\x60on t(a)  ; "
    let n := "create \x60index\x60 \x60i\x60on t(a)"
    let s : Statement := .createIndex { index := "i", table := "t", columns := ["a"], unique := false }
    normalize sql = .ok n ∧ parse n .createIndex = .ok s ∧ classify n = .ok .createIndex ∧ s.kind = .createIndex := by
  intro sql n s
  have hn : normalize sql = .ok n := by
    simp only [sql, n]
    rfl
  have hp : parse n .createIndex = .ok s := by
    have hlex : lex n = .ok [.keyword .CREATE, .identifier "index", .identifier "i", .keyword .ON, .identifier "t",
        .symbol .lparen, .identifier "a", .symbol .rparen] := by decide +kernel
    exact bind_eq_ok.mpr ⟨_, hlex, rfl⟩
  exact ⟨hn, hp, classify_of_parse hn hp⟩

end PocketSql.Sql
