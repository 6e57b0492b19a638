/-
  PocketSql.Proofs.Sql.Modified — what the modifiers of a column do.

  The loop over modifiers goes by the next token: one of a few starts a modifier
  (`modifierAfter?`), any other is passed over. What a modifier sets does not depend on
  the column, so the tokens behind a type state a list of changes (`States`), and the
  column is what they make of it one after the other (`takes_column`). A definition goes on
  with tokens that stand apart from it by what these state alone
  (`takes_column_append`).
-/

import Mathlib.Data.List.Perm.Basic
import Mathlib.Tactic.SplitIfs
import PocketSql.Proofs.Sql.Framed

namespace PocketSql

/-! ## Changes -/

/-- What a modifier changes in a column. -/
inductive Change where
  | nullable (allowed : Bool)
  | primaryKey
  | unique
  | autoIncrement
  | default (value : ColumnDefault)
  | references (target : Reference)
  deriving DecidableEq

namespace Column

/-- The column with one change. -/
def changed (c : Column) : Change → Column
  | .nullable allowed => { c with nullable := allowed }
  | .primaryKey => { c with primaryKey := true }
  | .unique => { c with unique := true }
  | .autoIncrement => { c with autoIncrement := true }
  | .default value => { c with default := some value }
  | .references target => { c with references := some target }

/-- The column with all changes, one after the other. -/
def changedBy (c : Column) (changes : List Change) : Column :=
  changes.foldl changed c

end Column

namespace Sql

/-- Whether a token starts a modifier. -/
def startsModifier (t : Token) : Bool :=
  ([.NOT, .NULL, .PRIMARY, .UNIQUE, .DEFAULT] : List Keyword).any (t == .keyword ·) ||
    ["AUTO_INCREMENT", "AUTOINCREMENT", "REFERENCES"].any (t.isWord ·)

/-! ## Words in any case -/

/-- A token that is the word `word`, in any case. -/
structure Spelling (word : String) where
  token : Token
  isWord : token.isWord word = true

namespace Spelling

variable {word : String} (w : Spelling word)

/-- No spelling of a word is told from another. -/
theorem exists_name : ∃ name, w.token = .identifier name ∧
    ∀ other, (Token.identifier name).isWord other = (Token.identifier word).isWord other := by
  obtain ⟨t, ht⟩ := w
  cases t with
  | identifier name =>
    refine ⟨name, rfl, fun other => ?_⟩
    have hlower : name.toList.map Char.toLower = word.toList.map Char.toLower := beq_iff_eq.mp ht
    simp only [Token.isWord, Text.sameName, hlower]
  | _ => cases ht

theorem startsModifier_token : startsModifier w.token = startsModifier (.identifier word) := by
  obtain ⟨name, hname, hother⟩ := w.exists_name
  simp only [startsModifier, hname, hother]
  rfl

end Spelling

namespace Parser

variable {σ : Type} {p : Parser Change} {t : Token} {ts us more rest : List Token} {c c' : Column}

/-! ## One modifier -/

/-- The rest of the modifier that a token starts, for those that start one. -/
def modifierAfter? (t : Token) : Option (Parser Change) :=
  if t == .keyword .NOT then some do
    expectKeyword .NULL
    return .nullable false
  else if t == .keyword .NULL then some do return .nullable true
  else if t == .keyword .PRIMARY then some do
    expectWord "KEY"
    return .primaryKey
  else if t == .keyword .UNIQUE then some do
    let _ ← takeWord "KEY"
    return .unique
  else if t.isWord "AUTO_INCREMENT" || t.isWord "AUTOINCREMENT" then some do return .autoIncrement
  else if t == .keyword .DEFAULT then some (.default <$> columnDefault)
  else if t.isWord "REFERENCES" then some (.references <$> reference)
  else none

theorem run_takeIf {α : Type} {q : Token → Bool} (f : Bool → Parser α) (t : Token) (ts : List Token) :
    (takeIf q >>= f).run (t :: ts) = if q t then (f true).run ts else (f false).run (t :: ts) := by
  have htake : (takeIf q).run (t :: ts) = if q t then .ok (true, ts) else .ok (false, t :: ts) := by
    show (if q t then _ else _ : Parser Bool).run (t :: ts) = _
    split <;> rfl
  rw [StateT.run_bind, htake]
  split <;> rfl

theorem run_takeEither {α : Type} {q r : Token → Bool} (f : Bool → Parser α) (t : Token) (ts : List Token) :
    (takeEither (takeIf q) (takeIf r) >>= f).run (t :: ts) =
      if q t || r t then (f true).run ts else (f false).run (t :: ts) := by
  rw [takeEither, bind_assoc, run_takeIf]
  cases hq : q t with
  | true => rfl
  | false =>
    show (takeIf r >>= f).run (t :: ts) = _
    rw [run_takeIf]
    rfl

theorem modifierAfter?_spelling {word : String} (w : Spelling word) :
    modifierAfter? w.token = modifierAfter? (.identifier word) := by
  obtain ⟨name, hname, hother⟩ := w.exists_name
  simp only [modifierAfter?, hname, hother]
  rfl

theorem continues_spelling {word : String} (w : Spelling word) : continues w.token = continues (.identifier word) := by
  obtain ⟨name, hname, hother⟩ := w.exists_name
  simp only [continues, hname, hother]
  rfl

/-- A modifier goes by its first token, and changes the column as that says. -/
theorem run_modifier (c : Column) (t : Token) (ts : List Token) : (modifier c).run (t :: ts) =
    match modifierAfter? t with
    | some p => (c.changed <$> p).run ts
    | none => .ok (c, ts) := by
  unfold modifier takeKeyword takeWord modifierAfter?
  simp only [run_takeIf, run_takeEither, if_true, Bool.false_eq_true, if_false]
  split_ifs
  all_goals simp [Column.changed, takeWord]
  -- a token that starts no modifier is passed over
  exact rfl

theorem takes_modifier : (modifier c).Takes (t :: ts) c' rest ↔
    (∃ p m, modifierAfter? t = some p ∧ p.Takes ts m rest ∧ c' = c.changed m) ∨
      (modifierAfter? t = none ∧ c' = c ∧ rest = ts) := by
  unfold Takes
  rw [run_modifier]
  cases modifierAfter? t with
  | some p =>
    refine (takes_map (p := p)).trans ?_
    simp [Takes]
  | none => simp [eq_comm]

theorem modifierAfter?_eq_none_iff : modifierAfter? t = none ↔ startsModifier t = false := by
  unfold modifierAfter? startsModifier
  simp only [List.any_cons, List.any_nil, Bool.or_false]
  split_ifs <;> grind

theorem framed_columnDefault (h : Apart rest) : Framed rest columnDefault := by
  refine (framed_literal h).bind fun v => ?_
  split
  · exact Framed.pure _
  · exact Framed.pure _
  · exact Framed.pure _
  · exact Framed.pure _
  · exact Framed.pure _
  · exact Framed.fail _

theorem framed_reference (h : Apart rest) : Framed rest reference := by
  refine (framed_objectName h).bind fun table => ?_
  refine (Framed.takeSymbol (h.head?_ne_symbol rfl)).bind fun opened => ?_
  cases opened with
  | true => exact Framed.identifier.bind fun _ => Framed.require.bind fun _ => Framed.pure _
  | false => exact Framed.pure _

theorem framed_modifierAfter (hp : modifierAfter? t = some p) (h : Apart rest) : Framed rest p := by
  have hkey : ∀ t ∈ rest.head?, t.isWord "KEY" = false := by
    intro t ht
    have hc := h t ht
    simp only [continues, Bool.or_eq_false_iff] at hc
    exact hc.2
  unfold modifierAfter? at hp
  split_ifs at hp <;> cases hp
  · exact Framed.require.bind fun _ => Framed.pure _
  · exact Framed.pure _
  · exact Framed.require.bind fun _ => Framed.pure _
  · exact (Framed.takeIf hkey).bind fun _ => Framed.pure _
  · exact Framed.pure _
  · exact (framed_columnDefault h).bind fun _ => Framed.pure _
  · exact (framed_reference h).bind fun _ => Framed.pure _

theorem shortens_columnDefault : Shortens columnDefault := by
  refine Shortens.bind (fun ts v more hv => Nat.le_of_lt (length_lt_of_literal hv)) fun v => ?_
  split
  · exact Shortens.pure _
  · exact Shortens.pure _
  · exact Shortens.pure _
  · exact Shortens.pure _
  · exact Shortens.pure _
  · exact Shortens.fail _

theorem shortens_reference : Shortens reference := by
  refine shortens_objectName.bind fun table => (Shortens.takeIf _).bind fun opened => ?_
  cases opened with
  | true => exact Shortens.identifier.bind fun _ => Shortens.require.bind fun _ => Shortens.pure _
  | false => exact Shortens.pure _

theorem shortens_modifierAfter (hp : modifierAfter? t = some p) : Shortens p := by
  unfold modifierAfter? at hp
  split_ifs at hp <;> cases hp
  · exact Shortens.require.bind fun _ => Shortens.pure _
  · exact Shortens.pure _
  · exact Shortens.require.bind fun _ => Shortens.pure _
  · exact (Shortens.takeIf _).bind fun _ => Shortens.pure _
  · exact Shortens.pure _
  · exact shortens_columnDefault.bind fun _ => Shortens.pure _
  · exact shortens_reference.bind fun _ => Shortens.pure _

/-! ## All modifiers -/

theorem stepsWithin_congr {stop : Token → Bool} {step : σ → Parser σ}
    (hstep : ∀ s t ts s' ts', (step s).Takes (t :: ts) s' ts' → ts'.length ≤ ts.length) {n m : Nat}
    (hn : ts.length ≤ n) (hm : ts.length ≤ m) {s s' : σ} (h : (stepsWithin stop step n s).Takes ts s' rest) :
    (stepsWithin stop step m s).Takes ts s' rest := by
  induction n generalizing m ts s with
  | zero =>
    cases List.length_eq_zero_iff.mp (Nat.le_zero.mp hn)
    cases m <;> exact h
  | succ n ih =>
    cases ts with
    | nil => cases m <;> exact h
    | cons t ts =>
      obtain ⟨m, rfl⟩ : ∃ k, m = k + 1 := Nat.exists_eq_succ_of_ne_zero (by simp at hm; omega)
      obtain ⟨next, ts', hnext, h⟩ := takes_bind.mp h
      cases hnext
      refine (next_takes t ts).bind ?_
      dsimp only [List.head?_cons] at h ⊢
      split at h
      · rename_i hstop
        rw [if_pos hstop]
        exact h
      · rename_i hstop
        rw [if_neg hstop]
        obtain ⟨s₁, ts₁, hs, h⟩ := takes_bind.mp h
        have hle := hstep _ _ _ _ _ hs
        simp only [List.length_cons] at hn hm
        exact hs.bind (ih (by omega) (by omega) h)

/-- Steps are one step, and then steps on what that left. -/
theorem takes_steps_cons {stop : Token → Bool} {step : σ → Parser σ}
    (hstep : ∀ s t ts s' ts', (step s).Takes (t :: ts) s' ts' → ts'.length ≤ ts.length) (hstop : stop t = false)
    {s s' : σ} : (steps stop step s).Takes (t :: ts) s' rest ↔
      ∃ s₁ ts₁, (step s).Takes (t :: ts) s₁ ts₁ ∧ (steps stop step s₁).Takes ts₁ s' rest := by
  have hunfold : ∀ {n}, (stepsWithin stop step (n + 1) s).Takes (t :: ts) s' rest ↔
      ∃ s₁ ts₁, (step s).Takes (t :: ts) s₁ ts₁ ∧ (stepsWithin stop step n s₁).Takes ts₁ s' rest := by
    intro n
    refine takes_bind.trans ⟨?_, ?_⟩
    · rintro ⟨next, ts', hnext, h⟩
      cases hnext
      dsimp only [List.head?_cons] at h
      rw [hstop] at h
      exact takes_bind.mp h
    · rintro ⟨s₁, ts₁, hs, h⟩
      refine ⟨some t, t :: ts, rfl, ?_⟩
      dsimp only
      rw [hstop]
      exact hs.bind h
  constructor
  · intro h
    replace h := takes_get.mp h
    obtain ⟨s₁, ts₁, hs, h⟩ := hunfold.mp h
    exact ⟨s₁, ts₁, hs, Takes.get (stepsWithin_congr hstep (hstep _ _ _ _ _ hs) (Nat.le_refl _) h)⟩
  · rintro ⟨s₁, ts₁, hs, h⟩
    replace h := takes_get.mp h
    exact Takes.get (hunfold.mpr ⟨s₁, ts₁, hs, stepsWithin_congr hstep (Nat.le_refl _) (hstep _ _ _ _ _ hs) h⟩)

/-- The changes that the tokens behind a type state. -/
inductive States : List Token → List Change → Prop
  | nil : States [] []
  | skip {t : Token} {ts : List Token} {ms : List Change} : modifierAfter? t = none → States ts ms → States (t :: ts) ms
  | cons {t : Token} {ts us : List Token} {p : Parser Change} {m : Change} {ms : List Change} :
      modifierAfter? t = some p → p.Takes ts m us → States us ms → States (t :: ts) (m :: ms)

theorem States.unique {ms ns : List Change} (h : States ts ms) (h' : States ts ns) : ms = ns := by
  induction h generalizing ns with
  | nil =>
    cases h'
    rfl
  | skip ht _ ih =>
    cases h' with
    | skip _ h' => exact ih h'
    | cons ht' _ _ => simp [ht] at ht'
  | cons ht hm _ ih =>
    cases h' with
    | skip ht' _ => simp [ht] at ht'
    | cons ht' hm' h' =>
      cases ht.symm.trans ht'
      obtain ⟨rfl, rfl⟩ := hm.unique hm'
      rw [ih h']

/-- Modifiers are read one by one, each in front of what stands apart from it. -/
theorem States.append {ms ns : List Change} (h : States ts ms) (hrest : States rest ns) (hapart : Apart rest) :
    States (ts ++ rest) (ms ++ ns) := by
  induction h with
  | nil => exact hrest
  | skip ht _ ih => exact .skip ht ih
  | cons ht hm _ ih => exact .cons ht (framed_modifierAfter ht hapart hm) ih

/-- What stands apart from modifiers states its own changes. -/
theorem States.of_append {ms ns : List Change} (h : States ts ms) (hapart : Apart rest)
    (hall : States (ts ++ rest) ns) : ∃ ns', States rest ns' ∧ ns = ms ++ ns' := by
  induction h generalizing ns with
  | nil => exact ⟨ns, hall, rfl⟩
  | skip ht _ ih =>
    cases hall with
    | skip _ hall => exact ih hall
    | cons ht' _ _ => simp [ht] at ht'
  | cons ht hm _ ih =>
    cases hall with
    | skip ht' _ => simp [ht] at ht'
    | cons ht' hm' hall =>
      cases ht.symm.trans ht'
      obtain ⟨rfl, rfl⟩ := (framed_modifierAfter ht hapart hm).unique hm'
      obtain ⟨ns', hrest, rfl⟩ := ih hall
      exact ⟨ns', hrest, rfl⟩

theorem length_le_of_modifier (c : Column) (t : Token) (ts : List Token) (c' : Column) (us : List Token)
    (h : (modifier c).Takes (t :: ts) c' us) : us.length ≤ ts.length := by
  rcases takes_modifier.mp h with ⟨p, m, hp, hm, -⟩ | ⟨-, -, rfl⟩
  · exact shortens_modifierAfter hp hm
  · exact Nat.le_refl _

/-- All modifiers are read to the end, and the column is what they make of it. -/
theorem takes_modifiers : (steps (fun _ => false) modifier c).Takes ts c' rest ↔
    rest = [] ∧ ∃ ms, States ts ms ∧ c' = c.changedBy ms := by
  constructor
  · intro h
    induction hn : ts.length using Nat.strongRecOn generalizing ts c with
    | ind n ih =>
      cases ts with
      | nil =>
        cases h
        exact ⟨rfl, [], .nil, rfl⟩
      | cons t ts =>
        obtain ⟨c₁, ts₁, hstep, h⟩ := (takes_steps_cons length_le_of_modifier rfl).mp h
        have hle := length_le_of_modifier _ _ _ _ _ hstep
        obtain ⟨rfl, ms, hms, rfl⟩ := ih ts₁.length (by simp at hn; omega) h rfl
        rcases takes_modifier.mp hstep with ⟨p, m, hp, hm, rfl⟩ | ⟨hp, rfl, rfl⟩
        · exact ⟨rfl, m :: ms, .cons hp hm hms, rfl⟩
        · exact ⟨rfl, ms, .skip hp hms, rfl⟩
  · rintro ⟨rfl, ms, h, rfl⟩
    induction h generalizing c with
    | nil => exact rfl
    | skip ht _ ih =>
      exact (takes_steps_cons length_le_of_modifier rfl).mpr ⟨c, _, takes_modifier.mpr (.inr ⟨ht, rfl, rfl⟩), ih⟩
    | cons ht hm _ ih =>
      exact (takes_steps_cons length_le_of_modifier rfl).mpr
        ⟨_, _, takes_modifier.mpr (.inl ⟨_, _, ht, hm, rfl⟩), ih⟩

/-! ## Columns -/

/-- A column is its name, its type and the changes that the tokens behind that state. -/
theorem takes_column : column.Takes ts c rest ↔ rest = [] ∧ ∃ name ts₁ c₁ ts₂ ms,
    ts = .identifier name :: ts₁ ∧ (columnType name).Takes ts₁ c₁ ts₂ ∧ States ts₂ ms ∧ c = c₁.changedBy ms := by
  constructor
  · intro h
    obtain ⟨name, ts₁, hname, h⟩ := takes_bind.mp h
    obtain ⟨c₁, ts₂, htype, h⟩ := takes_bind.mp h
    obtain ⟨rfl, ms, hms, rfl⟩ := takes_modifiers.mp h
    exact ⟨rfl, name, ts₁, c₁, ts₂, ms, takes_identifier.mp hname, htype, hms, rfl⟩
  · rintro ⟨rfl, name, ts₁, c₁, ts₂, ms, rfl, htype, hms, rfl⟩
    exact (identifier_takes name ts₁).bind (htype.bind (takes_modifiers.mpr ⟨rfl, ms, hms, rfl⟩))

/-- A definition goes on with tokens that stand apart from it by what these state alone. -/
theorem takes_column_append (h : column.Takes ts c []) (hapart : Apart us) : column.Takes (ts ++ us) c' rest ↔
    rest = [] ∧ ∃ ms, States us ms ∧ c' = c.changedBy ms := by
  obtain ⟨-, name, ts₁, c₁, ts₂, ms, rfl, htype, hms, rfl⟩ := takes_column.mp h
  constructor
  · intro h'
    obtain ⟨rfl, name', ts₁', c₁', ts₂', ms', hts, htype', hms', rfl⟩ := takes_column.mp h'
    cases hts
    obtain ⟨rfl, rfl⟩ := (framed_columnType hapart name htype).unique htype'
    obtain ⟨ns, hns, rfl⟩ := hms.of_append hapart hms'
    exact ⟨rfl, ns, hns, List.foldl_append⟩
  · rintro ⟨rfl, ns, hns, rfl⟩
    refine takes_column.mpr ⟨rfl, name, _, c₁, _, ms ++ ns, rfl, framed_columnType hapart name htype,
      hms.append hns hapart, ?_⟩
    exact List.foldl_append.symm

end Parser

end Sql

end PocketSql
