/-
  PocketSql.Proofs.Sql.Takes — what parsers read from given tokens.

  `p.Takes ts a rest` says that from `ts` the parser reads `a` and leaves `rest`. Steps are
  composed by `Takes.bind` and taken apart by `takes_bind`. A list is read where each of
  its items is read in front of a comma and in front of what follows the list.
-/

import PocketSql.Proofs.Fault
import PocketSql.Sql.Grammar.Statement

namespace PocketSql.Sql

namespace Parser

variable {α β : Type} {p : Parser α} {f : α → Parser β} {a : α} {b : β} {u : Unit} {ts ts' rest : List Token}

/-- From these tokens the parser reads `a` and leaves `rest`. -/
def Takes (p : Parser α) (ts : List Token) (a : α) (rest : List Token) : Prop :=
  p.run ts = .ok (a, rest)

theorem Takes.pure (a : α) (ts : List Token) : (pure a : Parser α).Takes ts a ts :=
  rfl

theorem takes_bind : (p >>= f).Takes ts b rest ↔ ∃ a ts', p.Takes ts a ts' ∧ (f a).Takes ts' b rest := by
  refine bind_eq_ok.trans ⟨?_, ?_⟩
  · rintro ⟨⟨a, ts'⟩, ha, hb⟩
    exact ⟨a, ts', ha, hb⟩
  · rintro ⟨a, ts', ha, hb⟩
    exact ⟨(a, ts'), ha, hb⟩

theorem Takes.bind (hp : p.Takes ts a ts') (hf : (f a).Takes ts' b rest) : (p >>= f).Takes ts b rest :=
  takes_bind.mpr ⟨a, ts', hp, hf⟩

theorem Takes.map {g : α → β} (hp : p.Takes ts a rest) : (g <$> p).Takes ts (g a) rest :=
  Takes.bind (f := fun a => Pure.pure (g a)) hp (.pure _ _)

theorem takes_map {g : α → β} : (g <$> p).Takes ts b rest ↔ ∃ a, p.Takes ts a rest ∧ b = g a := by
  refine ⟨fun h => ?_, ?_⟩
  · obtain ⟨a, ts', ha, hb⟩ := takes_bind (f := fun a => Pure.pure (g a)).mp h
    cases hb
    exact ⟨a, ha, rfl⟩
  · rintro ⟨a, ha, rfl⟩
    exact ha.map

/-- The steps that see the tokens go on with them. -/
theorem Takes.get {g : List Token → Parser α} (h : (g ts).Takes ts a rest) : (get >>= g : Parser α).Takes ts a rest :=
  Takes.bind (a := ts) rfl h

theorem takes_get {g : List Token → Parser α} : (get >>= g : Parser α).Takes ts a rest ↔ (g ts).Takes ts a rest := by
  refine ⟨fun h => ?_, .get⟩
  obtain ⟨ts', ts'', hget, h⟩ := takes_bind.mp h
  cases hget
  exact h

theorem set_takes (ts rest : List Token) : (set rest : Parser PUnit).Takes ts ⟨⟩ rest :=
  rfl

theorem next_takes (t : Token) (rest : List Token) : next.Takes (t :: rest) (some t) (t :: rest) :=
  rfl

theorem advance_takes (t : Token) (rest : List Token) : advance.Takes (t :: rest) ⟨⟩ rest :=
  rfl

theorem not_takes_fail (cause : SyntaxFault) : ¬ (fail cause : Parser α).Takes ts a rest := by
  intro h
  cases h

theorem not_takes_unexpected (expected : String) : ¬ (unexpected expected : Parser α).Takes ts a rest := by
  intro h
  obtain ⟨next, ts', -, h⟩ := takes_bind.mp h
  exact not_takes_fail _ h

theorem takes_liftM {α : Type} {e : Except Fault α} {a : α} :
    (liftM e : Parser α).Takes ts a rest ↔ e = .ok a ∧ rest = ts := by
  cases e with
  | error f => exact ⟨(nomatch ·), fun h => nomatch h.1⟩
  | ok b =>
    constructor
    · intro h
      cases h
      exact ⟨rfl, rfl⟩
    · rintro ⟨⟨⟩, rfl⟩
      exact rfl

/-! ## Single tokens -/

theorem takes_takeIf {q : Token → Bool} {taken : Bool} : (takeIf q).Takes ts taken rest ↔
    (taken = true ∧ ∃ t, q t = true ∧ ts = t :: rest) ∨
      (taken = false ∧ rest = ts ∧ ∀ t ∈ ts.head?, q t = false) := by
  unfold takeIf
  refine takes_bind.trans ⟨?_, ?_⟩
  · rintro ⟨ts', ts'', hget, h⟩
    cases hget
    cases ts with
    | nil =>
      cases h
      exact .inr ⟨rfl, rfl, by simp⟩
    | cons t ts =>
      dsimp only at h
      split at h
      · cases h
        exact .inl ⟨rfl, t, ‹_›, rfl⟩
      · rename_i hq
        cases h
        exact .inr ⟨rfl, rfl, by simpa using hq⟩
  · rintro (⟨rfl, t, hq, rfl⟩ | ⟨rfl, rfl, hq⟩)
    · refine ⟨_, _, rfl, ?_⟩
      simp only [hq, if_true]
      exact rfl
    · refine ⟨_, _, rfl, ?_⟩
      cases rest with
      | nil => exact rfl
      | cons t ts =>
        simp only [hq t rfl]
        exact rfl

theorem takes_takeIf_true {q : Token → Bool} : (takeIf q).Takes ts true rest ↔ ∃ t, q t = true ∧ ts = t :: rest := by
  simp [takes_takeIf]

theorem takes_takeIf_false {q : Token → Bool} :
    (takeIf q).Takes ts false rest ↔ rest = ts ∧ ∀ t ∈ ts.head?, q t = false := by
  simp [takes_takeIf]

theorem takes_takeSymbol_true {s : Symbol} : (takeSymbol s).Takes ts true rest ↔ ts = .symbol s :: rest := by
  simp [takeSymbol, takes_takeIf_true]

theorem takes_takeKeyword_true {k : Keyword} : (takeKeyword k).Takes ts true rest ↔ ts = .keyword k :: rest := by
  simp [takeKeyword, takes_takeIf_true]

theorem takeSymbol_false {s : Symbol} (h : ts.head? ≠ some (.symbol s)) : (takeSymbol s).Takes ts false ts := by
  refine takes_takeIf_false.mpr ⟨rfl, fun t ht => ?_⟩
  rw [Option.mem_def.mp ht] at h
  simpa using h

theorem takeKeyword_false {k : Keyword} (h : ts.head? ≠ some (.keyword k)) : (takeKeyword k).Takes ts false ts := by
  refine takes_takeIf_false.mpr ⟨rfl, fun t ht => ?_⟩
  rw [Option.mem_def.mp ht] at h
  simpa using h

theorem takes_require {taken : Parser Bool} {expected : String} :
    (require expected taken).Takes ts u rest ↔ taken.Takes ts true rest := by
  refine takes_bind.trans ⟨?_, fun h => ⟨true, rest, h, rfl⟩⟩
  rintro ⟨b, ts', h, hb⟩
  cases b with
  | true =>
    cases hb
    exact h
  | false => exact absurd hb (not_takes_unexpected _)

theorem takes_expectSymbol {s : Symbol} : (expectSymbol s).Takes ts u rest ↔ ts = .symbol s :: rest :=
  takes_require.trans takes_takeSymbol_true

theorem takes_expectKeyword {k : Keyword} : (expectKeyword k).Takes ts u rest ↔ ts = .keyword k :: rest :=
  takes_require.trans takes_takeKeyword_true

theorem takes_expectWord {word : String} :
    (expectWord word).Takes ts u rest ↔ ∃ t, t.isWord word = true ∧ ts = t :: rest :=
  takes_require.trans takes_takeIf_true

theorem takes_takeEither {first second : Parser Bool} : (takeEither first second).Takes ts true rest ↔
    first.Takes ts true rest ∨ ∃ ts', first.Takes ts false ts' ∧ second.Takes ts' true rest := by
  refine takes_bind.trans ⟨?_, ?_⟩
  · rintro ⟨b, ts', hb, h⟩
    cases b with
    | true =>
      cases h
      exact .inl hb
    | false => exact .inr ⟨ts', hb, h⟩
  · rintro (h | ⟨ts', hf, hs⟩)
    · exact ⟨true, rest, h, rfl⟩
    · exact ⟨false, ts', hf, hs⟩

theorem atEnd_nil : atEnd.Takes [] true [] :=
  rfl

/-! ## Names and numbers -/

theorem identifier_takes (name : String) (rest : List Token) :
    identifier.Takes (.identifier name :: rest) name rest :=
  rfl

/-- A name without a qualifier ends where no dot follows. -/
theorem objectName_takes (name : String) (h : rest.head? ≠ some (.symbol .dot)) :
    objectName.Takes (.identifier name :: rest) name rest :=
  (identifier_takes name rest).bind ((takeSymbol_false h).bind (.pure _ _))

theorem rowCount_takes {n : Nat} {text : String} (h : Numeral.natBelow? UInt64.size text = some n)
    (rest : List Token) : rowCount.Takes (.number text :: rest) n rest := by
  unfold rowCount natural
  refine Takes.get ?_
  simp only [h]
  exact rfl

/-! ## Lists -/

/-- Runs of tokens with a comma between any two. -/
def commaSeparated (runs : List (List Token)) : List Token :=
  [.symbol .comma].intercalate runs

theorem map_intercalate (f : α → β) (sep : α) (runs : List (List α)) :
    ([sep].intercalate runs).map f = [f sep].intercalate (runs.map (·.map f)) := by
  induction runs with
  | nil => rfl
  | cons run runs ih =>
    cases runs with
    | nil => simp
    | cons run' runs =>
      simp only [List.map_cons, List.intercalate_cons_cons, List.map_append, List.map_nil] at ih ⊢
      rw [ih]

theorem mem_commaSeparated {t : Token} {runs : List (List Token)} (h : t ∈ commaSeparated runs) :
    t = .symbol .comma ∨ ∃ run ∈ runs, t ∈ run := by
  induction runs with
  | nil => cases h
  | cons run runs ih =>
    cases runs with
    | nil => exact .inr ⟨run, by simp, by simpa [commaSeparated] using h⟩
    | cons run' runs =>
      simp only [commaSeparated, List.intercalate_cons_cons, List.mem_append, List.mem_singleton] at h ih
      rcases h with (h | h) | h
      · exact .inr ⟨run, List.mem_cons_self, h⟩
      · exact .inl h
      · rcases ih h with hcomma | ⟨r, hr, ht⟩
        · exact .inl hcomma
        · exact .inr ⟨r, List.mem_cons_of_mem _ hr, ht⟩

theorem itemsWithin_takes {item : Parser α} {run : α → List Token} {as : List α} {n : Nat} (hne : as ≠ [])
    (hn : as.length ≤ n + 1)
    (hitem : ∀ a ∈ as, ∀ more, more.head? = some (.symbol .comma) ∨ more = rest → item.Takes (run a ++ more) a more)
    (hrest : rest.head? ≠ some (.symbol .comma)) :
    (itemsWithin item n).Takes (commaSeparated (as.map run) ++ rest) as rest := by
  induction as generalizing n with
  | nil => exact absurd rfl hne
  | cons a as ih =>
    cases as with
    | nil =>
      have ha : item.Takes (commaSeparated (List.map run [a]) ++ rest) a rest := by
        simpa [commaSeparated] using hitem a List.mem_cons_self rest (.inr rfl)
      cases n with
      | zero => exact ha.bind (.pure _ _)
      | succ n => exact ha.bind ((takeSymbol_false hrest).bind (.pure _ _))
    | cons a' as =>
      obtain ⟨n, rfl⟩ : ∃ m, n = m + 1 := Nat.exists_eq_succ_of_ne_zero (by simp at hn; omega)
      have hcut : commaSeparated ((a :: a' :: as).map run) ++ rest =
          run a ++ .symbol .comma :: (commaSeparated ((a' :: as).map run) ++ rest) := by
        simp [commaSeparated, List.intercalate_cons_cons]
      rw [hcut]
      refine (hitem a List.mem_cons_self _ (.inl rfl)).bind ((takes_takeSymbol_true.mpr rfl).bind ?_)
      exact (ih (by simp) (by simpa using hn) fun b hb => hitem b (List.mem_cons_of_mem _ hb)).bind (.pure _ _)

theorem length_le_commaSeparated (runs : List (List Token)) : runs.length ≤ (commaSeparated runs).length + 1 := by
  induction runs with
  | nil => simp
  | cons run runs ih =>
    cases runs with
    | nil => simp
    | cons run' runs =>
      simp only [commaSeparated, List.intercalate_cons_cons, List.length_append, List.length_cons] at ih ⊢
      omega

/-- A list is read where each item is, in front of a comma and of what follows the list. -/
theorem items_takes {item : Parser α} {run : α → List Token} {as : List α} (hne : as ≠ [])
    (hitem : ∀ a ∈ as, ∀ more, more.head? = some (.symbol .comma) ∨ more = rest → item.Takes (run a ++ more) a more)
    (hrest : rest.head? ≠ some (.symbol .comma)) :
    (items item).Takes (commaSeparated (as.map run) ++ rest) as rest := by
  refine Takes.get (itemsWithin_takes hne ?_ hitem hrest)
  have h := length_le_commaSeparated (as.map run)
  simp only [List.length_map, List.length_append] at h ⊢
  omega

theorem parenthesized_takes {inner : Parser α} (h : inner.Takes ts a (.symbol .rparen :: rest)) :
    (parenthesized inner).Takes (.symbol .lparen :: ts) a rest :=
  Takes.bind (a := ()) (takes_expectSymbol.mpr rfl)
    (h.bind (Takes.bind (a := ()) (takes_expectSymbol.mpr rfl) (.pure _ _)))

/-! ## Statements -/

section

variable {s : Statement} {k : Kind}

theorem takes_atEnd {b : Bool} : atEnd.Takes ts b rest ↔ b = ts.isEmpty ∧ rest = ts := by
  constructor
  · intro h
    cases h
    exact ⟨rfl, rfl⟩
  · rintro ⟨rfl, rfl⟩
    exact rfl

/-- A statement is read to the end, with or without a semicolon behind it. -/
theorem takes_closed {p : Parser Statement} : (closed k p).Takes ts s rest ↔
    rest = [] ∧ (p.Takes ts s [] ∨ p.Takes ts s [.symbol .semicolon]) := by
  refine takes_bind.trans ⟨?_, ?_⟩
  · rintro ⟨s', ts₁, hp, h⟩
    obtain ⟨taken, ts₂, htaken, h⟩ := takes_bind.mp h
    obtain ⟨ended, ts₃, hended, h⟩ := takes_bind.mp h
    obtain ⟨rfl, rfl⟩ := takes_atEnd.mp hended
    split at h
    · rename_i hempty
      cases h
      cases List.isEmpty_iff.mp hempty
      cases taken with
      | true =>
        cases takes_takeSymbol_true.mp htaken
        exact ⟨rfl, .inr hp⟩
      | false =>
        cases (takes_takeIf_false.mp htaken).1
        exact ⟨rfl, .inl hp⟩
    · obtain ⟨next, ts₄, -, h⟩ := takes_bind.mp h
      exact absurd h (not_takes_fail _)
  · rintro ⟨rfl, hp | hp⟩
    · exact ⟨s, _, hp, (takeSymbol_false (by simp)).bind (atEnd_nil.bind (.pure _ _))⟩
    · exact ⟨s, _, hp, (takes_takeSymbol_true.mpr rfl).bind (atEnd_nil.bind (.pure _ _))⟩

theorem statement_of_ne_explain (hk : k ≠ .explain) : statement k = closed k (body k) := by
  rw [statement, if_neg (by simpa using hk)]

end

end Parser

/-- A text is read where all its tokens are. -/
theorem parse_eq_ok_iff {sql : String} {k : Kind} {s : Statement} :
    parse sql k = .ok s ↔ ∃ ts, lex sql = .ok ts ∧ (Parser.statement k).Takes ts s [] := by
  refine bind_eq_ok.trans ⟨?_, ?_⟩
  · rintro ⟨ts, hl, hrun⟩
    obtain ⟨⟨s', rest⟩, hread, rfl⟩ := map_eq_ok.mp hrun
    cases (Parser.takes_closed.mp hread).1
    exact ⟨ts, hl, hread⟩
  · rintro ⟨ts, hl, hread⟩
    exact ⟨ts, hl, map_eq_ok.mpr ⟨_, hread, rfl⟩⟩

end PocketSql.Sql
