/-
  PocketSql.Proofs.Sql.Explained — EXPLAIN reads exactly the statements that can be run.

  What EXPLAIN is about is classified from its tokens, put together again without the
  quotes of names. That text may look quite different, but where the tokens can be read
  as a statement of some kind, its first words are those of a pattern of the kind
  (`classify_join`), as the first words of the statement's own text are. So EXPLAIN reads
  a statement where the statement by itself is classified and read (`explain_reads_iff`).
-/

import PocketSql.Proofs.Sql.Classified
import PocketSql.Proofs.Sql.Piece

namespace PocketSql.Sql

/-! ## Words of joined tokens -/

variable {t : Token} {ts rest : List Token} {word : String} {ws : List String} {n : Nat}

theorem upperChars_of_isUpper {cs : List Char} (h : ∀ c ∈ cs, c.isUpper = true) : upperChars cs = cs := by
  induction cs with
  | nil => rfl
  | cons c cs ih =>
    have hc : Text.upperChar c = [c] := (Text.upperChar_of_toLower_eq (h c List.mem_cons_self) rfl).1
    rw [upperChars, List.flatMap_cons, hc]
    exact congrArg (c :: ·) (ih fun d hd => h d (List.mem_cons_of_mem _ hd))

/-- A token that spells a capital word is that word in upper case, also without its quotes. -/
theorem upperChars_of_spells (hw : isCapital word = true) (h : t.spells word = true) :
    upperChars t.chars = word.toList := by
  cases t with
  | keyword k =>
    cases beq_iff_eq.mp h
    exact upperChars_of_isUpper (List.all_eq_true.mp (Bool.and_eq_true_iff.mp hw).2)
  | identifier name => exact (upper_of_sameName hw h).1
  | _ => cases h

theorem not_opensUp_of_spells (h : t.spells word = true) : t.opensUp = false := by
  cases t with
  | symbol s => cases h
  | _ => rfl

theorem not_closesUp_of_spells (h : t.spells word = true) : t.closesUp = false := by
  cases t with
  | symbol s => cases h
  | _ => rfl

/-- What follows a word in joined tokens does not belong to it. -/
theorem not_isWordChar_of_joinAfter (h : t.opensUp = false) (ts : List Token) :
    ∀ c ∈ (upperChars (Token.joinAfter t ts)).head?, isWordChar c = false := by
  have hends : ∀ c cs, isWordChar c = false → ∀ d ∈ (upperChars (c :: cs)).head?, isWordChar d = false := by
    intro c cs hc d hd
    rw [upperChars_cons hc] at hd
    cases hd
    exact hc
  cases ts with
  | nil => simp [Token.joinAfter, upperChars]
  | cons t' ts =>
    cases hclose : t'.closesUp with
    | true =>
      unfold Token.closesUp at hclose
      split at hclose
      · exact hends ')' _ (by decide)
      · exact hends ',' _ (by decide)
      · exact hends '.' _ (by decide)
      · cases hclose
    | false =>
      simp only [Token.joinAfter, hclose, h]
      exact hends ' ' _ (by decide)

/-- The capital words that the first tokens spell are the first words of the joined tokens. -/
theorem leadingWords_join (hws : ∀ w ∈ ws, isCapital w = true) (hl : Leads ws ts) (hn : ws.length ≤ n) :
    ws.map String.toList <+: leadingWords n (upperChars (Token.joinChars ts)) := by
  induction ws generalizing ts n with
  | nil => exact List.nil_prefix
  | cons w ws ih =>
    cases ts with
    | nil => cases hl
    | cons t ts =>
      obtain ⟨n, rfl⟩ : ∃ m, n = m + 1 := Nat.exists_eq_succ_of_ne_zero (by simp at hn; omega)
      obtain ⟨hspell, hl⟩ := hl
      have hw := hws w List.mem_cons_self
      obtain ⟨hne, hupper⟩ := Bool.and_eq_true_iff.mp hw
      have hword : ∀ c ∈ w.toList, isWordChar c = true := fun c hc =>
        isWordChar_of_isUpper (List.all_eq_true.mp hupper c hc)
      have hopens := not_opensUp_of_spells hspell
      rw [Token.joinChars, upperChars_append, upperChars_of_spells hw hspell,
        leadingWords_append (by simpa using hne) hword (not_isWordChar_of_joinAfter hopens ts), List.map_cons]
      refine List.cons_prefix_cons.mpr ⟨rfl, ?_⟩
      have ih := @ih ts n (fun w hw => hws w (List.mem_cons_of_mem _ hw)) hl (by simpa using hn)
      cases ws with
      | nil => exact List.nil_prefix
      | cons w' ws =>
        cases ts with
        | nil => cases hl
        | cons t' ts =>
          have hspace : Token.joinAfter t (t' :: ts) = ' ' :: Token.joinChars (t' :: ts) := by
            simp [Token.joinAfter, Token.joinChars, hopens, not_closesUp_of_spells hl.1]
          have hblank : isWordChar ' ' = false := by decide
          rwa [hspace, upperChars_cons hblank, leadingWords_skip hblank]

/-- Tokens that start with the words of a pattern are classified by it when they are joined. -/
theorem classify_join {k : Kind} (hp : (ws, k) ∈ Kind.patterns) (hws : Leads ws ts) :
    classify (Token.join ts) = .ok k := by
  obtain ⟨hne, hlength⟩ := Kind.length_patterns _ hp
  have hwords := leadingWords_join (Kind.isCapital_patterns _ hp) hws hlength
  have hchars : (Token.join ts).toList = Token.joinChars ts := String.toList_ofList
  refine classify_of_leadingWords hp ?_ (hchars.symm ▸ hwords)
  -- a blank text has no words
  intro hblank
  rw [← leadingWords_trimLeft, ← hchars, hblank] at hwords
  have hnil := List.prefix_nil.mp hwords
  exact hne (List.map_eq_nil_iff.mp hnil)

/-! ## Reading EXPLAIN -/

/-- EXPLAIN is one token in front of those of the text behind it. -/
theorem lex_explain {sql : String} {us : List Token} : lex ("EXPLAIN " ++ sql) = .ok us ↔
    ∃ ts, lex sql = .ok ts ∧ us = .identifier "EXPLAIN" :: ts := by
  have hword : (Piece.word "EXPLAIN").isWritable = true := by decide +kernel
  have htext : ("EXPLAIN " ++ sql).toList = (Piece.word "EXPLAIN").chars ++ ' ' :: sql.toList := by
    rw [String.toList_append]
    rfl
  simp only [lex_eq_ok_iff, htext, (Piece.isTextOf hword).scan_append (.space _ _), scan_space]
  cases scan sql.toList <;> simp [Except.map, Piece.token, eq_comm]

namespace Parser

variable {s : Statement} {k : Kind}

/-- What EXPLAIN is about is read to the end as a statement of the kind of its joined tokens. -/
theorem takes_explain {s' : Statement} : explain.Takes (.identifier "EXPLAIN" :: ts) s' rest ↔
    ∃ k s, classify (Token.join ts) = .ok k ∧ (closed k (body k)).Takes ts s rest ∧ s' = .explain s := by
  have hword : (expectWord "EXPLAIN").Takes (.identifier "EXPLAIN" :: ts) () ts :=
    takes_expectWord.mpr ⟨.identifier "EXPLAIN", Text.sameName_refl "EXPLAIN", rfl⟩
  constructor
  · intro h
    obtain ⟨u, ts₁, hexplain, h⟩ := takes_bind.mp h
    obtain ⟨t, -, ht⟩ := takes_expectWord.mp hexplain
    cases ht
    replace h := takes_get.mp h
    split at h
    · rename_i k hk
      obtain ⟨s, hs, rfl⟩ := takes_map.mp h
      exact ⟨k, s, hk, hs, rfl⟩
    · exact absurd h (not_takes_fail _)
    · cases h
  · rintro ⟨k, s, hk, hs, rfl⟩
    refine hword.bind (Takes.get ?_)
    simp only [hk]
    exact hs.map

theorem takes_statement_explain : (statement .explain).Takes (.identifier "EXPLAIN" :: ts) (.explain s) [] ↔
    ∃ k, classify (Token.join ts) = .ok k ∧ (closed k (body k)).Takes ts s [] := by
  rw [statement, if_pos (by decide), takes_closed, takes_explain, takes_explain]
  constructor
  · rintro ⟨-, ⟨k, s', hk, hs, he⟩ | ⟨k, s', hk, hs, he⟩⟩
    · cases he
      exact ⟨k, hk, hs⟩
    · cases (takes_closed.mp hs).1
  · rintro ⟨k, hk, hs⟩
    exact ⟨rfl, .inl ⟨k, s, hk, hs, rfl⟩⟩

end Parser

/-- EXPLAIN in front of a normalized text is read as the explanation of a statement just
    where the text by itself is of another kind than EXPLAIN and is read as that statement. -/
theorem explain_reads_iff {sql n : String} {s : Statement} (hn : normalize sql = .ok n) :
    (parse ("EXPLAIN " ++ n) .explain = .ok (.explain s) ↔
      ∃ k, k ≠ .explain ∧ classify n = .ok k ∧ parse n k = .ok s) ∧
    (parse ("EXPLAIN " ++ n) .explain = .ok (.explain s) → s.kind ≠ .explain) := by
  have hiff : parse ("EXPLAIN " ++ n) .explain = .ok (.explain s) ↔
      ∃ k, k ≠ .explain ∧ classify n = .ok k ∧ parse n k = .ok s := by
    constructor
    · intro h
      obtain ⟨us, hl, hread⟩ := parse_eq_ok_iff.mp h
      obtain ⟨ts, hts, rfl⟩ := lex_explain.mp hl
      obtain ⟨k, -, hs⟩ := Parser.takes_statement_explain.mp hread
      have hk : k ≠ .explain := by
        rintro rfl
        rcases (Parser.takes_closed.mp hs).2 with hs | hs <;> exact Parser.not_takes_fail _ hs
      have hp : parse n k = .ok s := parse_eq_ok_iff.mpr ⟨ts, hts, Parser.statement_of_ne_explain hk ▸ hs⟩
      exact ⟨k, hk, classify_normalized hn hp, hp⟩
    · rintro ⟨k, hk, -, hp⟩
      obtain ⟨ts, hl, hread⟩ := parse_eq_ok_iff.mp hp
      obtain ⟨ws, hpattern, hleads⟩ := Parser.leads_of_statement hread
      have hkind := classify_join hpattern hleads
      exact parse_eq_ok_iff.mpr ⟨_, lex_explain.mpr ⟨ts, hl, rfl⟩,
        Parser.takes_statement_explain.mpr ⟨k, hkind, Parser.statement_of_ne_explain hk ▸ hread⟩⟩
  refine ⟨hiff, fun h => ?_⟩
  obtain ⟨k, hk, -, hp⟩ := hiff.mp h
  rw [(readAs_of_parse hp).kind]
  exact hk

/-- A table whose name is EXPLAIN, with a qualifier of two words: joined, its tokens have
    lost both pairs of backticks. -/
theorem explain_reads_iff_of_names :
    let sql := "-- plan\nDESC \x60a b\x60 . \x60EXPLAIN\x60 ; "
    let n := "DESC \x60a b\x60 . \x60EXPLAIN\x60"
    normalize sql = .ok n ∧ parse ("EXPLAIN " ++ n) .explain = .ok (.explain (.describe "EXPLAIN")) := by
  intro sql n
  have hn : normalize sql = .ok n := by
    simp only [sql, n]
    rfl
  have hlex : lex n = .ok [.keyword .DESC, .identifier "a b", .symbol .dot, .identifier "EXPLAIN"] := by
    decide +kernel
  have hp : parse n .describe = .ok (.describe "EXPLAIN") := bind_eq_ok.mpr ⟨_, hlex, rfl⟩
  exact ⟨hn, (explain_reads_iff hn).1.mpr ⟨.describe, by decide, classify_normalized hn hp, hp⟩⟩

end PocketSql.Sql
