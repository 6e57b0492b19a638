/-
  PocketSql.Proofs.Sql.Labelled — the label of a column's type as a definition.

  A label writes a type as a definition would, and behind a column's name it is read as
  that type with its sizes. Members stand in it in single quotes, and nothing in them is
  written twice: a quote ends a member early, and a backslash takes the next character with
  it. No other text makes up for that (`readQuoted_raw_iff`): what the reader is ahead
  of the member, it gains with every further character. So a label is read back where no
  member has a quote or a backslash in it, and nowhere else (`label_reads_iff`).
-/

import PocketSql.Proofs.Sql.Adjoined
import PocketSql.Proofs.Sql.Defined
import PocketSql.Proofs.Sql.Written
import PocketSql.Proofs.Sql.Yields

namespace PocketSql

theorem ColumnType.ofName?_name (type : ColumnType) : ofName? type.name = some type := by
  cases type <;> decide +kernel

namespace Sql

variable {q c d e : Char} {cs run rest after : List Char}

/-! ## Quoted runs as they are -/

theorem isDoubled_self (q : Char) : isDoubled q q = true := by
  simp [isDoubled]

theorem isDoubled_eq_false_iff : isDoubled q c = false ↔ c ≠ q ∧ (c = '\\' → q = backtick) := by
  simp [isDoubled]

theorem isDoubled_backslash (h : q ≠ backtick) : isDoubled q '\\' = true := by
  simp [isDoubled, h]

theorem doubled_of_isDoubled (h : ∀ c ∈ cs, isDoubled q c = false) : doubled q cs = cs := by
  induction cs with
  | nil => rfl
  | cons c cs ih =>
    rw [List.forall_mem_cons] at h
    rw [doubled, List.flatMap_cons, ← doubled, ih h.2]
    simp [h.1]

/-- No escape stands for a quote or a backslash but those two themselves. -/
theorem unescape_of_isDoubled (hq : isQuote q = true) (h : isDoubled q (unescape d) = true) : unescape d = d := by
  unfold unescape at h ⊢
  split at h
  all_goals first
    | rfl
    | (simp only [isQuote, Bool.or_eq_true, beq_iff_eq] at hq
       rcases hq with (rfl | rfl) | rfl <;> cases h)

/-- A run that starts with what was passed over before it, quotes and backslashes only, has
    nothing else in it up to its end. -/
theorem QuotedRun.behind (hq : isQuote q = true) (h : QuotedRun q after cs run) {passed : List Char}
    (hne : passed ≠ []) (hpassed : ∀ c ∈ passed, isDoubled q c = true) (hrun : run <+: passed ++ cs) :
    ∃ read, cs = read ++ q :: after ∧ run.length ≤ read.length ∧ ∀ c ∈ read, isDoubled q c = true := by
  have hself := isDoubled_self q
  induction h generalizing passed with
  | close _ => exact ⟨[], rfl, Nat.le_refl _, by simp⟩
  | twice _ ih =>
    obtain ⟨p, passed, rfl⟩ := List.exists_cons_of_ne_nil hne
    rw [List.forall_mem_cons] at hpassed
    obtain ⟨-, hmore⟩ := List.cons_prefix_cons.mp hrun
    obtain ⟨read, rfl, hle, hall⟩ := ih (by simp : passed ++ [q, q] ≠ [])
      (List.forall_mem_append.mpr ⟨hpassed.2, by simp [hself]⟩) (by simpa using hmore)
    exact ⟨q :: q :: read, rfl, by simp; omega, by simp_all⟩
  | @escape d _ _ hquote hb _ ih =>
    obtain ⟨p, passed, rfl⟩ := List.exists_cons_of_ne_nil hne
    rw [List.forall_mem_cons] at hpassed
    obtain ⟨rfl, hmore⟩ := List.cons_prefix_cons.mp hrun
    have hd := hpassed.1
    rw [unescape_of_isDoubled hq hd] at hd
    have hslash := isDoubled_backslash hb
    obtain ⟨read, rfl, hle, hall⟩ := ih (by simp : passed ++ ['\\', d] ≠ [])
      (List.forall_mem_append.mpr ⟨hpassed.2, by simp [hslash, hd]⟩) (by simpa using hmore)
    exact ⟨'\\' :: d :: read, rfl, by simp; omega, by simp_all⟩
  | plain hc he _ _ =>
    obtain ⟨p, passed, rfl⟩ := List.exists_cons_of_ne_nil hne
    obtain ⟨rfl, -⟩ := List.cons_prefix_cons.mp hrun
    have hdoubled := hpassed _ List.mem_cons_self
    rw [isDoubled_eq_false_iff.mpr ⟨hc, he⟩] at hdoubled
    cases hdoubled

/-- Past a quote or a backslash that it took for part of an escape, the reader does not get
    back to the text. -/
theorem not_quotedRun_of_isDoubled {m more : List Char} (hq : isQuote q = true) (he : isDoubled q e = false)
    (hd : isDoubled q d = true) (hm : m ++ q :: e :: rest = d :: more) : ¬ QuotedRun q after more m := by
  intro h
  obtain ⟨read, rfl, hle, hall⟩ := h.behind hq (List.cons_ne_nil d []) (by simpa using hd) ⟨q :: e :: rest, hm⟩
  -- so `e`, which stands behind the text, was passed over or is the closing quote
  have hplace : (read ++ q :: after)[m.length]? = some e := by
    have hm := congrArg (·[m.length + 1]?) hm
    simpa using hm.symm
  have hmem : e ∈ read ++ [q] := by
    rw [List.append_cons, List.getElem?_append_left (by simp; omega)] at hplace
    exact List.mem_of_getElem? hplace
  have hdoubled : isDoubled q e = true := by
    rcases List.mem_append.mp hmem with hread | hquote
    · exact hall e hread
    · rw [List.mem_singleton.mp hquote]
      exact isDoubled_self q
  simp [hdoubled] at he

/-- In quotes, with nothing in it written twice, a text is read as itself just where it has
    nothing to be written twice. -/
theorem readQuoted_raw_iff {m : List Char} (hq : isQuote q = true) (he : isDoubled q e = false) :
    readQuoted q (m ++ q :: e :: rest) = some (m, after) ↔
      (∀ c ∈ m, isDoubled q c = false) ∧ after = e :: rest := by
  rw [readQuoted_eq_some_iff]
  induction m with
  | nil =>
    constructor
    · intro h
      cases h with
      | close _ => exact ⟨by simp, rfl⟩
    · rintro ⟨-, rfl⟩
      exact .close (by simpa using (isDoubled_eq_false_iff.mp he).1)
  | cons c m ih =>
    obtain ⟨d, more, hm⟩ : ∃ d more, m ++ q :: e :: rest = d :: more :=
      List.exists_cons_of_ne_nil (by simp)
    rw [hm] at ih
    rw [List.forall_mem_cons, List.cons_append, hm]
    constructor
    · intro h
      generalize hrun : c :: m = run at h
      cases h with
      | close _ => cases hrun
      | twice h =>
        cases hrun
        exact absurd h (not_quotedRun_of_isDoubled hq he (isDoubled_self _) hm)
      | escape _ hb h =>
        obtain ⟨hd, rfl⟩ := List.cons.inj hrun
        have hslash := isDoubled_backslash hb
        rw [hd] at hslash
        rw [unescape_of_isDoubled hq hslash] at hslash
        exact absurd h (not_quotedRun_of_isDoubled hq he hslash hm)
      | plain hc hescape h =>
        cases hrun
        obtain ⟨hall, rfl⟩ := ih.mp h
        exact ⟨⟨isDoubled_eq_false_iff.mpr ⟨hc, hescape⟩, hall⟩, rfl⟩
    · rintro ⟨⟨hc, hall⟩, rfl⟩
      obtain ⟨hne, hescape⟩ := isDoubled_eq_false_iff.mp hc
      exact .plain hne hescape (ih.mpr ⟨hall, rfl⟩)

/-! ## Lists in parentheses -/

/-- Texts in parentheses, with commas between them, where there are any. -/
def enclosed : List (List Char) → List Char
  | [] => []
  | texts => '(' :: [','].intercalate texts ++ [')']

theorem enclosed_of_ne_nil {texts : List (List Char)} (h : texts ≠ []) :
    enclosed texts = '(' :: [','].intercalate texts ++ [')'] := by
  cases texts with
  | nil => exact absurd rfl h
  | cons text texts => rfl

/-- Tokens in parentheses, with commas between them, where there are any. -/
def enclosedTokens : List Token → List Token
  | [] => []
  | ts => .symbol .lparen :: Parser.commaSeparated (ts.map fun t => [t]) ++ [.symbol .rparen]

/-- Up to the closing parenthesis texts with commas between them are read as their tokens. -/
theorem scan_items {a : List Char × Token} {args : List (List Char × Token)}
    (h : ∀ b ∈ a :: args, IsTextOf b.2 b.1) : scan ([','].intercalate ((a :: args).map Prod.fst) ++ [')']) =
      .ok (Parser.commaSeparated ((a :: args).map fun b => [b.2]) ++ [.symbol .rparen]) := by
  have ha := h a List.mem_cons_self
  induction args generalizing a with
  | nil =>
    have hclose : scan [')'] = .ok [.symbol .rparen] := by
      rw [scan_symbol rfl rfl, scan_nil rfl]
      rfl
    have hscan : scan (a.1 ++ [')']) = _ := ha.scan_adjoined (by simp [isStop]) fun _ _ => rfl
    simpa [hclose, Parser.commaSeparated, Except.map] using hscan
  | cons b args ih =>
    have hmore : ∀ d ∈ b :: args, IsTextOf d.2 d.1 := fun d hd => h d (List.mem_cons_of_mem _ hd)
    have hscan : scan (a.1 ++ ',' :: ([','].intercalate ((b :: args).map Prod.fst) ++ [')'])) = _ :=
      ha.scan_adjoined (by simp [isStop]) fun _ _ => rfl
    rw [scan_symbol rfl rfl, ih hmore (hmore b List.mem_cons_self)] at hscan
    simpa [Parser.commaSeparated, List.intercalate_cons_cons, Except.map] using hscan

theorem scan_enclosed {args : List (List Char × Token)} (h : ∀ a ∈ args, IsTextOf a.2 a.1) :
    scan (enclosed (args.map Prod.fst)) = .ok (enclosedTokens (args.map Prod.snd)) := by
  cases args with
  | nil => exact scan_nil rfl
  | cons a args =>
    have hopen : scan (enclosed ((a :: args).map Prod.fst)) = _ :=
      scan_symbol (c := '(') rfl rfl ([','].intercalate ((a :: args).map Prod.fst) ++ [')'])
    rw [hopen, scan_items h]
    simp [Except.map, enclosedTokens, Function.comp_def]

theorem exists_readQuoted_of_token {t : Token} (hq : isQuote q = true) (h : token q cs = .ok (t, after)) :
    ∃ run, readQuoted q cs = some (run, after) ∧ t = quotedToken q run := by
  unfold token at h
  rw [if_pos hq] at h
  split at h
  · rename_i run after hread
    cases h
    exact ⟨run, hread, rfl⟩
  · cases h

/-- A list is its first item, and the others behind a comma. -/
theorem Parser.takes_itemsWithin_cons {α : Type} {item : Parser α} {a : α} {as : List α} {n : Nat}
    {ts rest : List Token} (h : (itemsWithin item n).Takes ts (a :: as) rest) : ∃ ts', item.Takes ts a ts' ∧
      (as = [] ∨ ∃ n us, ts' = .symbol .comma :: us ∧ (itemsWithin item n).Takes us as rest) := by
  cases n with
  | zero =>
    obtain ⟨b, ts₁, hb, h⟩ := takes_bind.mp h
    cases h
    exact ⟨_, hb, .inl rfl⟩
  | succ n =>
    obtain ⟨b, ts₁, hb, h⟩ := takes_bind.mp h
    obtain ⟨comma, ts₂, hcomma, h⟩ := takes_bind.mp h
    cases comma with
    | true =>
      obtain ⟨bs, ts₃, hbs, h⟩ := takes_bind.mp h
      cases h
      exact ⟨ts₁, hb, .inr ⟨n, ts₂, takes_takeSymbol_true.mp hcomma, hbs⟩⟩
    | false =>
      cases h
      exact ⟨ts₁, hb, .inl rfl⟩

/-- Members in quotes, with nothing written twice, are read as themselves only where they have
    nothing to be written twice. -/
theorem isDoubled_of_takes_members {cause : SyntaxFault} {members : List String} {n : Nat} {ts more : List Token}
    (hs : scan ([','].intercalate (members.map fun m => '\'' :: m.toList ++ ['\'']) ++ [')']) = .ok ts)
    (ht : (Parser.itemsWithin (Parser.textLiteral cause) n).Takes ts members more) :
    ∀ m ∈ members, ∀ c ∈ m.toList, isDoubled '\'' c = false := by
  induction members generalizing n ts with
  | nil => simp
  | cons m members ih =>
    -- behind the member stands `e`, the comma or the closing parenthesis
    obtain ⟨e, rest, he, htext, hrest⟩ : ∃ e rest, isDoubled '\'' e = false ∧
        [','].intercalate ((m :: members).map fun m => '\'' :: m.toList ++ ['\'']) ++ [')'] =
          '\'' :: (m.toList ++ '\'' :: e :: rest) ∧
        (members ≠ [] → e = ',' ∧
          rest = [','].intercalate (members.map fun m => '\'' :: m.toList ++ ['\'']) ++ [')']) := by
      cases members with
      | nil => exact ⟨')', [], by decide, by simp, by simp⟩
      | cons m' members => exact ⟨',', _, by decide, by simp [List.intercalate_cons_cons], fun _ => ⟨rfl, rfl⟩⟩
    rw [htext] at hs
    obtain ⟨t, after, us, htoken, hs, rfl⟩ :=
      exists_token_of_scan (skip_of_not_startsGap (startsGap_of_isQuote (by decide) _)) hs
    obtain ⟨run, hread, rfl⟩ := exists_readQuoted_of_token (by decide) htoken
    obtain ⟨ts', hm, hmore⟩ := Parser.takes_itemsWithin_cons ht
    have hliteral : (Parser.textLiteral cause).Takes (quotedToken '\'' run :: us) (String.ofList run) us := rfl
    obtain ⟨rfl, rfl⟩ := hliteral.unique hm
    rw [String.toList_ofList] at hread
    obtain ⟨hplain, rfl⟩ := (readQuoted_raw_iff (by decide) he).mp hread
    refine List.forall_mem_cons.mpr ⟨by simpa using hplain, ?_⟩
    rcases hmore with rfl | ⟨n, us, rfl, hmembers⟩
    · simp
    cases members with
    | nil => simp
    | cons m' members =>
      obtain ⟨rfl, rfl⟩ := hrest (List.cons_ne_nil _ _)
      rw [scan_symbol rfl rfl] at hs
      obtain ⟨us, hus, heq⟩ := map_cons_eq_ok.mp hs
      cases heq
      exact ih hus hmembers

end Sql

/-! ## Labels -/

namespace Column

/-- The sizes of a type, as its label has them. -/
def sizes (c : Column) : List Nat :=
  match c.length with
  | none => []
  | some length => length :: c.scale.toList

/-- What stands in the parentheses of a label, with the tokens that it stands for. -/
def labelArguments (c : Column) : List (List Char × Sql.Token) :=
  if c.members.isEmpty then c.sizes.map fun n => ((toString n).toList, .number (toString n))
  else c.members.map fun m => ('\'' :: m.toList ++ ['\''], .quoted m)

/-- A column of another name and with other modifiers, but of the same type in everything. -/
structure SameType (c d : Column) : Prop where
  type : d.type = c.type
  length : d.length = c.length
  scale : d.scale = c.scale
  members : d.members = c.members

/-- A type has members or sizes, and no scale without a length. -/
structure Fitting (c : Column) : Prop where
  length : c.type.hasMembers = true → c.length = none
  members : c.type.hasMembers = false → c.members = []
  scale : c.length = none → c.scale = none

variable {c d : Column}

theorem toList_typeLabel (c : Column) :
    c.typeLabel.toList = c.type.name.toList ++ Sql.enclosed (c.labelArguments.map Prod.fst) := by
  unfold typeLabel labelArguments
  split
  · unfold sizes
    cases c.length with
    | none => simp [Sql.enclosed]
    | some length =>
      cases c.scale <;> simp [Sql.enclosed, List.intercalate_cons_cons]
  · rename_i hmembers
    rw [Sql.enclosed_of_ne_nil (by simpa using hmembers)]
    simp [String.toList_intercalate, Function.comp_def]

/-- Modifiers change nothing in the type. -/
theorem sameType_changedBy (c : Column) (ms : List Change) : c.SameType (c.changedBy ms) := by
  induction ms generalizing c with
  | nil => exact ⟨rfl, rfl, rfl, rfl⟩
  | cons m ms ih =>
    have hchanged := ih (c.changed m)
    cases m <;> exact ⟨hchanged.type, hchanged.length, hchanged.scale, hchanged.members⟩

theorem SameType.fitting (h : c.SameType d) (hc : c.Fitting) : d.Fitting := by
  obtain ⟨htype, hlength, hscale, hmembers⟩ := h
  refine ⟨?_, ?_, ?_⟩
  · rw [htype, hlength]
    exact hc.length
  · rw [htype, hmembers]
    exact hc.members
  · rw [hlength, hscale]
    exact hc.scale

theorem Fitting.hasMembers (h : c.Fitting) (hm : c.members ≠ []) : c.type.hasMembers = true := by
  rw [← Bool.not_eq_false]
  exact mt h.members hm

end Column

namespace Sql

namespace Parser

theorem yields_typeTail (name : String) (type : ColumnType) : (typeTail { name, type }).Yields Column.Fitting := by
  have hplain : ({ name, type } : Column).Fitting := ⟨fun _ => rfl, fun _ => rfl, fun _ => rfl⟩
  have hdetail : (typeDetail { name, type }).Yields Column.Fitting := by
    unfold typeDetail
    split
    · rename_i htype
      exact Yields.after fun members => Yields.pure ⟨fun _ => rfl, fun h => by simp [htype] at h, fun _ => rfl⟩
    · rename_i htype
      refine Yields.after fun length => Yields.after fun comma => ?_
      split
      · exact Yields.after fun scale => Yields.pure ⟨fun h => absurd h htype, fun _ => rfl, nofun⟩
      · exact Yields.pure ⟨fun h => absurd h htype, fun _ => rfl, fun _ => rfl⟩
  unfold typeTail
  refine Yields.after fun opened => ?_
  split
  · exact hdetail.bind fun c hc => Yields.after fun _ => Yields.pure hc
  · exact Yields.pure hplain

/-- A column that is read has a type with what belongs to it. -/
theorem fitting_of_takes {ts rest : List Token} {c : Column} (h : column.Takes ts c rest) : c.Fitting := by
  obtain ⟨-, name, ts₁, c₁, ts₂, ms, -, htype, -, rfl⟩ := takes_column.mp h
  obtain ⟨t, ts₃, type, -, -, htail⟩ := takes_columnType.mp htype
  exact (c₁.sameType_changedBy ms).fitting (yields_typeTail name type _ _ _ htail)

theorem typeSize_takes {n : Nat} (h : n < UInt32.size) (rest : List Token) :
    typeSize.Takes (.number (toString n) :: rest) n rest := by
  unfold typeSize natural
  refine Takes.get ?_
  simp only [natBelow?_toString h]
  exact rfl

/-- What is read in the parentheses of a type that has members are its members. -/
theorem takes_members {name : String} {type : ColumnType} {c : Column} {ts rest : List Token}
    (htype : type.hasMembers = true) (h : (typeTail { name, type }).Takes (.symbol .lparen :: ts) c rest) :
    ∃ more, (items (textLiteral .invalidMember)).Takes ts c.members more := by
  have htail := (Takes.bind_iff (takes_takeSymbol_true.mpr rfl)).mp h
  rw [if_pos rfl, typeDetail, if_pos htype] at htail
  obtain ⟨c₁, ts₁, hdetail, htail⟩ := takes_bind.mp htail
  obtain ⟨members, ts₂, hmembers, hdetail⟩ := takes_bind.mp hdetail
  obtain ⟨u, ts₃, -, htail⟩ := takes_bind.mp htail
  cases hdetail
  cases htail
  exact ⟨_, hmembers⟩

/-- A length, and maybe a scale, is read behind a type without members. -/
theorem typeTail_takes_sizes (name : String) {type : ColumnType} {length : Nat} {scale : Option Nat}
    (htype : type.hasMembers = false) (hlength : length < UInt32.size) (hscale : ∀ n ∈ scale, n < UInt32.size) :
    (typeTail { name, type }).Takes (enclosedTokens ((length :: scale.toList).map fun n => .number (toString n)))
      { name, type, length := some length, scale } [] := by
  have hdetail : (typeDetail { name, type }).Takes
      (commaSeparated ((length :: scale.toList).map fun n => [.number (toString n)]) ++ [.symbol .rparen])
      { name, type, length := some length, scale } [.symbol .rparen] := by
    unfold typeDetail
    simp only [htype, Bool.false_eq_true, if_false]
    cases scale with
    | none =>
      exact (typeSize_takes hlength _).bind ((takeSymbol_false (by simp)).bind (.pure _ _))
    | some scale =>
      exact (typeSize_takes hlength _).bind ((takes_takeSymbol_true.mpr rfl).bind
        ((typeSize_takes (hscale scale rfl) _).bind (.pure _ _)))
  have htokens : enclosedTokens ((length :: scale.toList).map fun n => .number (toString n)) = .symbol .lparen ::
      (commaSeparated ((length :: scale.toList).map fun n => [.number (toString n)]) ++ [.symbol .rparen]) := by
    simp [enclosedTokens, Function.comp_def]
  rw [htokens]
  exact (takes_takeSymbol_true.mpr rfl).bind (hdetail.bind
    (Takes.bind (a := ()) (takes_expectSymbol.mpr rfl) (.pure _ _)))

/-- What a label has in parentheses is read as what the type has. -/
theorem typeTail_takes_label {c : Column} (hf : c.Fitting) (hs : c.Storable) (name : String) :
    (typeTail { name, type := c.type }).Takes (enclosedTokens (c.labelArguments.map Prod.snd))
      { name, type := c.type, length := c.length, scale := c.scale, members := c.members } [] := by
  by_cases hm : c.members = []
  · have hsizes : c.labelArguments.map Prod.snd = c.sizes.map fun n => .number (toString n) := by
      simp [Column.labelArguments, hm]
    rw [hsizes, hm]
    unfold Column.sizes
    cases hlength : c.length with
    | none =>
      rw [hf.scale hlength]
      exact (takeSymbol_false (by simp [enclosedTokens])).bind (.pure _ _)
    | some length =>
      have htype : c.type.hasMembers = false := by
        rw [← Bool.not_eq_true]
        intro htype
        simp [hf.length htype] at hlength
      exact typeTail_takes_sizes name htype (hs.length length hlength) hs.scale
  · have htype := hf.hasMembers hm
    have htokens : enclosedTokens (c.labelArguments.map Prod.snd) = ColumnText.memberTokens c.members := by
      obtain ⟨m, members, hm⟩ := List.exists_cons_of_ne_nil hm
      simp [Column.labelArguments, hm, enclosedTokens, ColumnText.memberTokens, Function.comp_def]
    rw [htokens, hf.length htype, hf.scale (hf.length htype)]
    exact ColumnText.typeTail_takes name fun _ => htype

end Parser

variable {name : String} {nameChars : List Char}

/-- A name with a label behind it: the tokens of both, and those in the parentheses. -/
theorem scan_label (hn : IsTextOf (.identifier name) nameChars) (c : Column) :
    scan (nameChars ++ ' ' :: c.typeLabel.toList) = (scan (enclosed (c.labelArguments.map Prod.fst))).map
      fun us => .identifier name :: c.type.token c.type.name :: us := by
  have htype := ColumnType.isTextOf_token c.type.ofName?_name
  have hnumber : ∀ n, c.type.token c.type.name ≠ .number n := by
    intro n
    unfold ColumnType.token
    split <;> simp
  have hstop : ∀ d ∈ (enclosed (c.labelArguments.map Prod.fst)).head?, isStop d = true := by
    cases c.labelArguments <;> simp [enclosed, isStop]
  rw [hn.scan_append (.space [] _), scan_space, c.toList_typeLabel,
    htype.scan_adjoined hstop fun n hn => absurd hn (hnumber n)]
  cases scan (enclosed (c.labelArguments.map Prod.fst)) <;> rfl

theorem forall_isDoubled_iff {cs : List Char} :
    (∀ c ∈ cs, isDoubled '\'' c = false) ↔ '\'' ∉ cs ∧ '\\' ∉ cs := by
  have hone : ∀ c, isDoubled '\'' c = false ↔ c ≠ '\'' ∧ c ≠ '\\' := by
    intro c
    simp [isDoubled_eq_false_iff, backtick]
  simp only [hone]
  grind

/-- What a label is read as has members only if they stand in it as they are. -/
theorem isDoubled_of_label {c d : Column} {ts rest : List Token} (hf : c.Fitting)
    (hs : scan (enclosed (c.labelArguments.map Prod.fst)) = .ok ts)
    (ht : (Parser.typeTail { name, type := c.type }).Takes ts d rest) (hm : d.members = c.members) :
    ∀ m ∈ c.members, ∀ e ∈ m.toList, isDoubled '\'' e = false := by
  by_cases hne : c.members = []
  · simp [hne]
  have htype := hf.hasMembers hne
  have htexts : c.labelArguments.map Prod.fst = c.members.map fun m => '\'' :: m.toList ++ ['\''] := by
    simp [Column.labelArguments, hne]
  rw [enclosed_of_ne_nil (by simpa [htexts] using hne), htexts, List.cons_append, scan_symbol rfl rfl] at hs
  obtain ⟨us, hus, rfl⟩ := map_cons_eq_ok.mp hs
  obtain ⟨more, hitems⟩ := Parser.takes_members htype ht
  rw [hm] at hitems
  exact isDoubled_of_takes_members hus (Parser.takes_get.mp hitems)

/-- The label of a column that was read is read behind any name as the same type, with the same
    sizes and members, just where no member has a quote or a backslash in it. -/
theorem label_reads_iff {ts : List Token} {c : Column} (h : Parser.column.Takes ts c [])
    (hn : IsTextOf (.identifier name) nameChars) :
    (∃ us d, lex (String.ofList (nameChars ++ ' ' :: c.typeLabel.toList)) = .ok us ∧ Parser.column.Takes us d [] ∧
      c.SameType d) ↔ ∀ m ∈ c.members, '\'' ∉ m.toList ∧ '\\' ∉ m.toList := by
  have hf := Parser.fitting_of_takes h
  simp only [← forall_isDoubled_iff, lex_eq_ok_iff, String.toList_ofList, scan_label hn]
  constructor
  · rintro ⟨us, d, hscan, hread, hsame⟩
    cases hs : scan (enclosed (c.labelArguments.map Prod.fst)) with
    | error e =>
      rw [hs] at hscan
      cases hscan
    | ok us =>
      rw [hs] at hscan
      cases hscan
      obtain ⟨c₁, us', ms, htail, -, rfl⟩ := (Parser.takes_column_of_type c.type.ofName?_name).mp hread
      have hmembers := (c₁.sameType_changedBy ms).members.symm.trans hsame.members
      exact isDoubled_of_label hf hs htail hmembers
  · intro hplain
    have htexts : ∀ a ∈ c.labelArguments, IsTextOf a.2 a.1 := by
      intro a ha
      unfold Column.labelArguments at ha
      split at ha
      · obtain ⟨n, -, rfl⟩ := List.mem_map.mp ha
        exact Piece.isTextOf (p := .number (toString n)) (isNumeral_toString n)
      · obtain ⟨m, hm, rfl⟩ := List.mem_map.mp ha
        have hquoted : '\'' :: m.toList ++ ['\''] = quoteWith '\'' m.toList := by
          rw [quoteWith, doubled_of_isDoubled (hplain m hm)]
        rw [hquoted]
        exact Piece.isTextOf (p := .string m) rfl
    refine ⟨_, _, by rw [scan_enclosed htexts]; rfl, (Parser.takes_column_of_type c.type.ofName?_name).mpr
      ⟨_, [], [], Parser.typeTail_takes_label hf (Parser.yields_column _ _ _ h) name, .nil, rfl⟩, ?_⟩
    exact ⟨rfl, rfl, rfl, rfl⟩

/-- A member with a quote, as a definition writes it and as the label does not. -/
theorem label_not_read_of_quote :
    let ts : List Token := [.identifier "a", .identifier "ENUM", .symbol .lparen, .quoted "it's", .symbol .rparen]
    let c : Column := { name := "a", type := .enum, members := ["it's"] }
    lex "a ENUM('it''s')" = .ok ts ∧ Parser.column.Takes ts c [] ∧ c.typeLabel = "ENUM('it's')" ∧
      IsTextOf (.identifier "a") ['a'] ∧
      ¬ ∃ us d, lex (String.ofList (['a'] ++ ' ' :: c.typeLabel.toList)) = .ok us ∧ Parser.column.Takes us d [] ∧
        c.SameType d := by
  have ht : Parser.column.Takes
      [.identifier "a", .identifier "ENUM", .symbol .lparen, .quoted "it's", .symbol .rparen]
      { name := "a", type := .enum, members := ["it's"] } [] :=
    ColumnText.column_takes
      ⟨"a", "ENUM", .enum, ["it's"], ColumnType.ofName?_name .enum, by simp [ColumnType.hasMembers]⟩
  have hn : IsTextOf (.identifier "a") ['a'] := Piece.isTextOf (p := .word "a") (by decide +kernel)
  refine ⟨by decide +kernel, ht, by decide +kernel, hn, ?_⟩
  exact mt (label_reads_iff ht hn).mp (by decide +kernel)

end Sql

end PocketSql
