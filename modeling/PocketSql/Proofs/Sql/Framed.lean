/-
  PocketSql.Proofs.Sql.Framed — what is read is read in front of further tokens too.

  Most parsers stop at the first token that they have no use for. Those of column
  definitions look at one token behind what they read only to see whether it is a
  parenthesis, a dot, a comma or the word KEY. So what they read from all of some tokens
  they read in front of any tokens that start otherwise, and leave those
  (`framed_literal`, `framed_columnType`).
-/

import PocketSql.Proofs.Sql.Takes

namespace PocketSql.Sql.Parser

variable {α β : Type} {p : Parser α} {f : α → Parser β} {q : Token → Bool} {a a' : α} {ts more more' rest : List Token}

/-- What the parser reads it reads in front of `rest` too, and leaves that. -/
def Framed (rest : List Token) (p : Parser α) : Prop :=
  ∀ ⦃ts a more⦄, p.Takes ts a more → p.Takes (ts ++ rest) a (more ++ rest)

/-- The parser leaves no more tokens than there were. -/
def Shortens (p : Parser α) : Prop :=
  ∀ ⦃ts a more⦄, p.Takes ts a more → more.length ≤ ts.length

/-- A parser reads one thing. -/
theorem Takes.unique (h : p.Takes ts a more) (h' : p.Takes ts a' more') : a = a' ∧ more = more' := by
  have he : (.ok (a, more) : Except Fault (α × List Token)) = .ok (a', more') := h.symm.trans h'
  cases he
  exact ⟨rfl, rfl⟩

/-- A step that is known to read something can be left out. -/
theorem Takes.bind_iff {ts' : List Token} {b : β} (hp : p.Takes ts a ts') :
    (p >>= f).Takes ts b rest ↔ (f a).Takes ts' b rest := by
  refine ⟨fun h => ?_, hp.bind⟩
  obtain ⟨a', ts'', hp', hf⟩ := takes_bind.mp h
  obtain ⟨rfl, rfl⟩ := hp.unique hp'
  exact hf

theorem takes_identifier {name : String} : identifier.Takes ts name more ↔ ts = .identifier name :: more := by
  constructor
  · intro h
    replace h := takes_get.mp h
    split at h
    · cases h
      rfl
    · exact absurd h (not_takes_unexpected _)
  · rintro rfl
    exact identifier_takes name more

/-- Whether a token may go on with what a column definition has in front of it. -/
def continues (t : Token) : Bool :=
  t == .symbol .lparen || t == .symbol .dot || t == .symbol .comma || t.isWord "KEY"

/-- What is in front of these tokens does not go on with them. -/
def Apart (rest : List Token) : Prop :=
  ∀ t ∈ rest.head?, continues t = false

theorem Apart.head?_ne_symbol (h : Apart rest) {s : Symbol} (hs : continues (.symbol s) = true) :
    rest.head? ≠ some (.symbol s) := by
  intro he
  rw [h _ he] at hs
  cases hs

/-! ## Steps -/

namespace Framed

theorem pure (a : α) : Framed rest (pure a : Parser α) := by
  intro ts a' more h
  cases h
  exact rfl

theorem bind (hp : Framed rest p) (hf : ∀ a, Framed rest (f a)) : Framed rest (p >>= f) := by
  intro ts b more h
  obtain ⟨a, ts', ha, hb⟩ := takes_bind.mp h
  exact (hp ha).bind (hf a hb)

theorem fail (cause : SyntaxFault) : Framed rest (fail cause : Parser α) :=
  fun _ _ _ h => absurd h (not_takes_fail _)

theorem takeIf (h : ∀ t ∈ rest.head?, q t = false) : Framed rest (takeIf q) := by
  intro ts taken more ht
  cases taken with
  | true =>
    obtain ⟨t, hq, rfl⟩ := takes_takeIf_true.mp ht
    exact takes_takeIf_true.mpr ⟨t, hq, rfl⟩
  | false =>
    obtain ⟨rfl, hq⟩ := takes_takeIf_false.mp ht
    refine takes_takeIf_false.mpr ⟨rfl, ?_⟩
    cases more with
    | nil => exact h
    | cons t more => exact hq

theorem takeSymbol {s : Symbol} (h : rest.head? ≠ some (.symbol s)) : Framed rest (takeSymbol s) := by
  refine takeIf fun t ht => ?_
  rw [Option.mem_def.mp ht] at h
  simpa using h

theorem require {expected : String} : Framed rest (require expected (Parser.takeIf q)) := by
  intro ts u more h
  obtain ⟨t, hq, rfl⟩ := takes_takeIf_true.mp (takes_require.mp h)
  exact takes_require.mpr (takes_takeIf_true.mpr ⟨t, hq, rfl⟩)

theorem identifier : Framed rest identifier := by
  intro ts name more h
  cases takes_identifier.mp h
  exact takes_identifier.mpr rfl

theorem natural (purpose : String) (bound : Nat) : Framed rest (natural purpose bound) := by
  intro ts n more h
  replace h := takes_get.mp h
  split at h
  · split at h
    · rename_i hn
      cases h
      refine Takes.get ?_
      simp only [List.cons_append, hn]
      exact rfl
    · exact absurd h (not_takes_fail _)
  · exact absurd h (not_takes_unexpected _)

end Framed

namespace Shortens

theorem pure (a : α) : Shortens (pure a : Parser α) := by
  intro ts a' more h
  cases h
  exact Nat.le_refl _

theorem bind (hp : Shortens p) (hf : ∀ a, Shortens (f a)) : Shortens (p >>= f) := by
  intro ts b more h
  obtain ⟨a, ts', ha, hb⟩ := takes_bind.mp h
  exact Nat.le_trans (hf a hb) (hp ha)

theorem fail (cause : SyntaxFault) : Shortens (fail cause : Parser α) :=
  fun _ _ _ h => absurd h (not_takes_fail _)

theorem takeIf (q : Token → Bool) : Shortens (takeIf q) := by
  intro ts taken more h
  rcases takes_takeIf.mp h with ⟨-, t, -, rfl⟩ | ⟨-, rfl, -⟩
  · simp
  · exact Nat.le_refl _

theorem require {expected : String} : Shortens (require expected (Parser.takeIf q)) :=
  fun _ _ _ h => takeIf q (takes_require.mp h)

theorem identifier : Shortens identifier := by
  intro ts name more h
  cases takes_identifier.mp h
  simp

end Shortens

/-! ## Names and literals -/

theorem framed_objectName (h : Apart rest) : Framed rest objectName := by
  refine Framed.identifier.bind fun name => (Framed.takeSymbol (h.head?_ne_symbol rfl)).bind fun dotted => ?_
  cases dotted with
  | true => exact Framed.identifier
  | false => exact Framed.pure _

theorem shortens_objectName : Shortens objectName := by
  refine Shortens.identifier.bind fun name => (Shortens.takeIf _).bind fun dotted => ?_
  cases dotted with
  | true => exact Shortens.identifier
  | false => exact Shortens.pure _

/-- What follows the word CURRENT_TIMESTAMP: parentheses, or nothing. -/
def timestamp : Parser Literal := do
  if ← takeSymbol .lparen then expectSymbol .rparen
  return .currentTimestamp

theorem framed_timestamp (h : Apart rest) : Framed rest timestamp := by
  refine (Framed.takeSymbol (h.head?_ne_symbol rfl)).bind fun called => ?_
  cases called with
  | true => exact Framed.require.bind fun _ => Framed.pure _
  | false => exact Framed.pure _

theorem shortens_timestamp : Shortens timestamp := by
  refine (Shortens.takeIf _).bind fun called => ?_
  cases called with
  | true => exact Shortens.require.bind fun _ => Shortens.pure _
  | false => exact Shortens.pure _

theorem framed_signedNumber (sign : String) : Framed rest (signedNumber sign) := by
  intro ts v more h
  replace h := takes_get.mp h
  split at h
  · cases h
    exact rfl
  · exact absurd h (not_takes_unexpected _)

theorem framed_literal (h : Apart rest) : Framed rest literal := by
  intro ts v more hv
  replace hv := takes_get.mp hv
  split at hv
  · cases hv
    exact rfl
  · cases hv
    exact rfl
  · cases hv
    exact rfl
  · cases hv
    exact rfl
  · exact framed_signedNumber "-" hv
  · exact framed_signedNumber "" hv
  · rename_i word ts
    refine Takes.get ?_
    simp only [List.cons_append]
    split at hv
    · rename_i htime
      rw [if_pos htime]
      exact framed_timestamp h hv
    · rename_i htime
      rw [if_neg htime]
      have hhead : ((ts ++ rest).head? == some (.symbol .lparen)) = (ts.head? == some (.symbol .lparen)) := by
        cases ts with
        | nil => simpa using h.head?_ne_symbol rfl
        | cons t ts => rfl
      rw [hhead]
      split at hv
      · rename_i hcall
        rw [if_pos hcall]
        cases ts with
        | nil => simp at hcall
        | cons t ts => exact (Framed.require.bind fun _ => Framed.pure _) hv
      · rename_i hcall
        rw [if_neg hcall]
        cases hv
        exact rfl
  · exact absurd hv (not_takes_unexpected _)

/-- A literal has at least one token. -/
theorem length_lt_of_literal {v : Literal} (h : literal.Takes ts v more) : more.length < ts.length := by
  have hsigned : ∀ sign ts, (signedNumber sign).Takes ts v more → more.length < ts.length := by
    intro sign ts h
    replace h := takes_get.mp h
    split at h
    · cases h
      simp
    · exact absurd h (not_takes_unexpected _)
  replace h := takes_get.mp h
  split at h
  · cases h
    simp
  · cases h
    simp
  · cases h
    simp
  · cases h
    simp
  · exact Nat.lt_succ_of_lt (hsigned _ _ h)
  · exact Nat.lt_succ_of_lt (hsigned _ _ h)
  · rename_i word ts
    refine Nat.lt_succ_of_le ?_
    split at h
    · exact shortens_timestamp h
    · split at h
      · have htail := (Shortens.require.bind fun _ => Shortens.pure _) h
        exact Nat.le_trans htail (by simp)
      · cases h
        exact Nat.le_refl _
  · exact absurd h (not_takes_unexpected _)

theorem framed_textLiteral (h : Apart rest) (cause : SyntaxFault) : Framed rest (textLiteral cause) := by
  refine (framed_literal h).bind fun v => ?_
  split
  · exact Framed.pure _
  · exact Framed.fail _

theorem length_lt_of_textLiteral {cause : SyntaxFault} {s : String} (h : (textLiteral cause).Takes ts s more) :
    more.length < ts.length := by
  obtain ⟨v, ts', hv, h⟩ := takes_bind.mp h
  refine Nat.lt_of_le_of_lt ?_ (length_lt_of_literal hv)
  split at h
  · cases h
    exact Nat.le_refl _
  · exact absurd h (not_takes_fail _)

/-! ## Lists -/

theorem itemsWithin_framed {item : Parser α} (hi : Framed rest item) (h : Apart rest)
    (hshort : ∀ ts a more, item.Takes ts a more → more.length < ts.length) {n : Nat} (extra : Nat)
    (hn : ts.length ≤ n) {as : List α} (ht : (itemsWithin item n).Takes ts as more) :
    (itemsWithin item (n + extra)).Takes (ts ++ rest) as (more ++ rest) := by
  induction n generalizing ts as more with
  | zero =>
    obtain ⟨a, ts', ha, -⟩ := takes_bind.mp ht
    exact absurd (hshort _ _ _ ha) (by omega)
  | succ n ih =>
    rw [Nat.add_right_comm]
    obtain ⟨a, ts', ha, ht⟩ := takes_bind.mp ht
    obtain ⟨comma, ts'', hcomma, ht⟩ := takes_bind.mp ht
    refine (hi ha).bind ((Framed.takeSymbol (h.head?_ne_symbol rfl) hcomma).bind ?_)
    cases comma with
    | true =>
      obtain ⟨as', ts₃, has, ht⟩ := takes_bind.mp ht
      cases ht
      have := hshort _ _ _ ha
      have := Shortens.takeIf _ hcomma
      exact (ih (by omega) has).bind (.pure _ _)
    | false =>
      cases ht
      exact .pure _ _

theorem framed_items {item : Parser α} (hi : Framed rest item) (h : Apart rest)
    (hshort : ∀ ts a more, item.Takes ts a more → more.length < ts.length) : Framed rest (items item) := by
  intro ts as more ht
  replace ht := takes_get.mp ht
  refine Takes.get ?_
  rw [List.length_append]
  exact itemsWithin_framed hi h hshort rest.length (Nat.le_refl _) ht

/-! ## Types of columns -/

theorem framed_typeDetail (h : Apart rest) (c : Column) : Framed rest (typeDetail c) := by
  unfold typeDetail
  split
  · exact (framed_items (framed_textLiteral h _) h fun _ _ _ => length_lt_of_textLiteral).bind fun _ => Framed.pure _
  refine (Framed.natural _ _).bind fun length => ?_
  refine (Framed.takeSymbol (h.head?_ne_symbol rfl)).bind fun comma => ?_
  cases comma with
  | true => exact (Framed.natural _ _).bind fun _ => Framed.pure _
  | false => exact Framed.pure _

/-- The word that a token is as the name of a type. -/
def typeWord? : Token → Option String
  | .identifier word => some word
  | .keyword k => some k.text
  | _ => none

theorem takes_typeName {word : String} :
    typeName.Takes ts word more ↔ more = ts ∧ ts.head?.bind typeWord? = some word := by
  constructor
  · intro h
    obtain ⟨next, ts', hnext, h⟩ := takes_bind.mp h
    cases hnext
    split at h
    · rename_i hhead
      cases h
      exact ⟨rfl, by rw [hhead]; rfl⟩
    · rename_i hhead
      cases h
      exact ⟨rfl, by rw [hhead]; rfl⟩
    · exact absurd h (not_takes_unexpected _)
  · rintro ⟨rfl, h⟩
    cases more with
    | nil => cases h
    | cons t more =>
      cases t with
      | identifier w =>
        cases h
        exact rfl
      | keyword k =>
        cases h
        exact rfl
      | _ => cases h

/-- What follows the name of a type: its size or members in parentheses, or nothing. -/
def typeTail (column : Column) : Parser Column := do
  if ← takeSymbol .lparen then
    let column ← typeDetail column
    expectSymbol .rparen
    return column
  else return column

theorem framed_typeTail (h : Apart rest) (c : Column) : Framed rest (typeTail c) := by
  refine (Framed.takeSymbol (h.head?_ne_symbol rfl)).bind fun opened => ?_
  cases opened with
  | true => exact (framed_typeDetail h c).bind fun _ => Framed.require.bind fun _ => Framed.pure _
  | false => exact Framed.pure _

/-- A type is a word that names one and what follows that. -/
theorem takes_columnType {name : String} {c : Column} : (columnType name).Takes ts c more ↔
    ∃ t ts' type, ts = t :: ts' ∧ (typeWord? t).bind ColumnType.ofName? = some type ∧
      (typeTail { name, type }).Takes ts' c more := by
  constructor
  · intro h
    obtain ⟨word, ts', hword, hmore⟩ := takes_bind.mp h
    obtain ⟨rfl, hhead⟩ := takes_typeName.mp hword
    cases ts' with
    | nil => cases hhead
    | cons t ts =>
      have hhead : typeWord? t = some word := hhead
      split at hmore
      · rename_i type htype
        obtain ⟨u, ts', hadvance, htail⟩ := takes_bind.mp hmore
        cases hadvance
        exact ⟨t, ts, type, rfl, by rw [hhead]; exact htype, htail⟩
      · exact absurd hmore (not_takes_fail _)
  · rintro ⟨t, ts, type, rfl, htype, h⟩
    obtain ⟨word, hword, htype⟩ := Option.bind_eq_some_iff.mp htype
    have hname : typeName.Takes (t :: ts) word (t :: ts) := takes_typeName.mpr ⟨rfl, hword⟩
    refine hname.bind ?_
    simp only [htype]
    exact (advance_takes t ts).bind h

theorem framed_columnType (h : Apart rest) (name : String) : Framed rest (columnType name) := by
  intro ts c more ht
  obtain ⟨t, ts, type, rfl, htype, ht⟩ := takes_columnType.mp ht
  exact takes_columnType.mpr ⟨t, _, type, rfl, htype, framed_typeTail h _ ht⟩

end PocketSql.Sql.Parser
