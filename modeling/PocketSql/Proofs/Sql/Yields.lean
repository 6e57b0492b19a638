/-
  PocketSql.Proofs.Sql.Yields — what holds of everything that a parser reads.

  A statement that is read has the kind that it was read as. A table definition that is
  read has a column, and column names that are distinct up to the case of ASCII letters:
  pieces of its body are added one by one, and one of a name that is there already fails
  the whole statement. Sizes of types have 32 bits.
-/

import PocketSql.Proofs.Execute.Sound
import PocketSql.Sql.Grammar.Statement

namespace PocketSql.Sql

namespace Parser

variable {α β σ : Type} {p : Parser α} {f : α → Parser β} {P : α → Prop} {Q : β → Prop}

/-- `P` holds of whatever the parser reads, from any tokens. -/
def Yields (p : Parser α) (P : α → Prop) : Prop :=
  ∀ ts a rest, p.run ts = .ok (a, rest) → P a

theorem Yields.pure {a : α} (h : P a) : (pure a : Parser α).Yields P := by
  intro ts b rest hb
  cases hb
  exact h

theorem Yields.imp {P' : α → Prop} (hp : p.Yields P) (h : ∀ a, P a → P' a) : p.Yields P' :=
  fun ts a rest ha => h a (hp ts a rest ha)

theorem Yields.error (e : Fault) : (throw e : Parser α).Yields P := by
  intro ts a rest h
  cases h

theorem yields_fail (cause : SyntaxFault) : (fail cause : Parser α).Yields P :=
  Yields.error _

theorem Yields.bind (hp : p.Yields P) (hf : ∀ a, P a → (f a).Yields Q) : (p >>= f).Yields Q := by
  intro ts b rest h
  obtain ⟨⟨a, ts'⟩, ha, hb⟩ := bind_eq_ok.mp h
  exact hf a (hp _ _ _ ha) _ _ _ hb

theorem yields_any (p : Parser α) : p.Yields fun _ => True :=
  fun _ _ _ _ => trivial

theorem Yields.after (hf : ∀ a, (f a).Yields Q) : (p >>= f).Yields Q :=
  (yields_any p).bind fun a _ => hf a

theorem Yields.map {g : α → β} (h : p.Yields fun a => Q (g a)) : (g <$> p).Yields Q := by
  intro ts b rest hb
  obtain ⟨⟨a, ts'⟩, ha, hb⟩ := bind_eq_ok.mp hb
  cases hb
  exact h _ _ _ ha

theorem Yields.lift {x : Except Fault α} (h : ∀ a, x = .ok a → P a) : (liftM x : Parser α).Yields P := by
  intro ts a rest ha
  obtain ⟨a', hx, ha⟩ := bind_eq_ok.mp ha
  cases ha
  exact h _ hx

/-- What each step keeps, all of them keep. -/
theorem Yields.steps {stop : Token → Bool} {step : σ → Parser σ} {I : σ → Prop}
    (hs : ∀ s, I s → (step s).Yields I) {s : σ} (h : I s) : (Parser.steps stop step s).Yields I := by
  refine Yields.after fun ts => ?_
  induction ts.length generalizing s with
  | zero => exact Yields.pure h
  | succ more ih =>
    refine Yields.after fun t => ?_
    split
    · exact Yields.pure h
    · split
      · exact Yields.pure h
      · exact (hs s h).bind fun s' hs' => ih hs'

end Parser

/-! ## Columns -/

namespace Parser

theorem yields_natural (purpose : String) (bound : Nat) : (natural purpose bound).Yields (· < bound) := by
  unfold natural
  refine Yields.after fun ts => ?_
  split
  · split
    · rename_i n value hvalue
      refine Yields.after fun _ => Yields.pure ?_
      unfold Numeral.natBelow? at hvalue
      split at hvalue
      · split at hvalue
        · cases hvalue
          assumption
        · cases hvalue
      · cases hvalue
    · exact yields_fail _
  · exact Yields.after fun _ => yields_fail _

theorem yields_typeDetail {c : Column} (h : c.Storable) : (typeDetail c).Yields Column.Storable := by
  unfold typeDetail
  split
  · exact Yields.after fun _ => Yields.pure ⟨h.length, h.scale⟩
  refine (yields_natural _ _).bind fun length hlength => ?_
  have hlength : ∀ n ∈ some length, n < UInt32.size := by
    rintro n ⟨⟩
    exact hlength
  refine Yields.after fun comma => ?_
  split
  · refine (yields_natural _ _).bind fun scale hscale => Yields.pure ⟨hlength, ?_⟩
    rintro n ⟨⟩
    exact hscale
  · exact Yields.pure ⟨hlength, h.scale⟩

theorem yields_columnType (name : String) : (columnType name).Yields Column.Storable := by
  have hplain : ∀ type, ({ name, type } : Column).Storable := fun _ => ⟨by simp, by simp⟩
  unfold columnType
  refine Yields.after fun word => ?_
  split
  · refine Yields.after fun _ => Yields.after fun opened => ?_
    split
    · exact (yields_typeDetail (hplain _)).bind fun _ hc => Yields.after fun _ => Yields.pure hc
    · exact Yields.pure (hplain _)
  · exact yields_fail _

/-- No modifier touches the sizes. -/
theorem yields_modifier {c : Column} (h : c.Storable) : (modifier c).Yields Column.Storable := by
  unfold modifier
  refine Yields.after fun not => ?_
  split
  · exact Yields.after fun _ => Yields.pure ⟨h.length, h.scale⟩
  refine Yields.after fun null => ?_
  split
  · exact Yields.pure ⟨h.length, h.scale⟩
  refine Yields.after fun primary => ?_
  split
  · exact Yields.after fun _ => Yields.pure ⟨h.length, h.scale⟩
  refine Yields.after fun unique => ?_
  split
  · exact Yields.after fun _ => Yields.pure ⟨h.length, h.scale⟩
  refine Yields.after fun auto => ?_
  split
  · exact Yields.pure ⟨h.length, h.scale⟩
  refine Yields.after fun default => ?_
  split
  · exact Yields.after fun _ => Yields.pure ⟨h.length, h.scale⟩
  refine Yields.after fun references => ?_
  split
  · exact Yields.after fun _ => Yields.pure ⟨h.length, h.scale⟩
  · exact Yields.after fun _ => Yields.pure h

theorem yields_column : column.Yields Column.Storable :=
  Yields.after fun name => (yields_columnType name).bind fun _ hc => Yields.steps (fun _ => yields_modifier) hc

end Parser

/-! ## Table definitions -/

/-- What the pieces of a body read so far have to keep. -/
structure TableBody.Defined (body : TableBody) : Prop where
  names : DistinctNames (body.columns.map (·.name))
  columns : ∀ c ∈ body.columns, c.Storable

theorem TableBody.Defined.addPiece {table : String} {body body' : TableBody} {piece : List Token}
    (h : body.Defined) (hb : body.addPiece table piece = .ok body') : body'.Defined := by
  unfold TableBody.addPiece at hb
  split at hb
  · cases hb
    exact h
  split at hb
  · cases hb
    exact ⟨h.names, h.columns⟩
  split at hb
  · cases hb
    exact h
  rename_i c rest hc
  split at hb
  · cases hb
  · rename_i hn
    cases hb
    refine ⟨?_, fun d hd => ?_⟩
    · rw [List.map_append]
      exact h.names.concat (by simpa using hn)
    · rcases List.mem_append.mp hd with hd | hd
      · exact h.columns d hd
      · rw [List.mem_singleton.mp hd]
        exact Parser.yields_column _ _ _ hc

theorem TableBody.ofPieces_ok {table : String} {pieces : List (List Token)} {body : TableBody}
    (hb : TableBody.ofPieces table pieces = .ok body) : body.columns ≠ [] ∧ body.Defined := by
  obtain ⟨body', hp, hb⟩ := bind_eq_ok.mp hb
  split at hb
  · cases hb
  · rename_i hn
    cases hb
    have hempty : TableBody.Defined {} := ⟨.nil, by simp⟩
    exact ⟨by simpa using hn, foldlM_keeps (fun _ _ _ _ h => h.addPiece) hempty hp⟩

namespace Parser

theorem yields_tableOption (s : CreateTable) : (tableOption s).Yields fun s' => s'.columns = s.columns := by
  unfold tableOption
  refine Yields.after fun engine => ?_
  split
  · exact Yields.after fun _ => Yields.after fun _ => Yields.pure rfl
  refine Yields.after fun charset => ?_
  split
  · exact Yields.after fun _ => Yields.after fun _ => Yields.pure rfl
  refine Yields.after fun character => ?_
  split
  · exact Yields.after fun _ => Yields.after fun _ => Yields.after fun _ => Yields.pure rfl
  · exact Yields.after fun _ => Yields.pure rfl

theorem yields_createTable : createTable.Yields fun s => (Statement.createTable s).Defined := by
  unfold createTable
  refine Yields.after fun _ => Yields.after fun _ => Yields.after fun _ => Yields.after fun table => ?_
  refine Yields.after fun opened => ?_
  dsimp only
  split
  · exact Yields.bind (P := fun _ => False) (yields_fail _) fun _ h => h.elim
  refine Yields.after fun ts => ?_
  split
  · refine Yields.after fun _ => ?_
    refine Yields.bind (Yields.lift fun _ => TableBody.ofPieces_ok) fun body hbody => ?_
    intro ts s rest hs
    have hcolumns : s.columns = body.columns := Yields.steps
      (I := fun s : CreateTable => s.columns = body.columns)
      (fun s hs ts s' rest h => (yields_tableOption s ts s' rest h).trans hs) rfl _ _ _ hs
    rw [Statement.Defined, hcolumns]
    exact ⟨hbody.1, hbody.2.names, hbody.2.columns⟩
  · exact yields_fail _

/-! ## All statements -/

/-- What holds of a statement that was read as one of this kind. -/
structure ReadAs (kind : Kind) (s : Statement) : Prop where
  kind : s.kind = kind
  defined : s.Defined

theorem yields_body (kind : Kind) : (body kind).Yields (ReadAs kind) := by
  cases kind with
  | createTable => exact (yields_createTable.imp fun s hs => ReadAs.mk (s := .createTable s) rfl hs).map
  | select | insert | update | delete | createIndex =>
    refine Yields.map ?_
    exact fun _ _ _ _ => ⟨rfl, trivial⟩
  | explain => exact yields_fail _
  | commit | rollback => exact Yields.after fun _ => Yields.after fun _ => Yields.pure ⟨rfl, trivial⟩
  | showTables => exact Yields.after fun _ => Yields.after fun _ => Yields.pure ⟨rfl, trivial⟩
  | showDatabases => exact Yields.after fun _ => Yields.after fun _ => Yields.pure ⟨rfl, trivial⟩
  | describe => exact Yields.after fun _ => Yields.after fun _ => Yields.pure ⟨rfl, trivial⟩
  | «use» => exact Yields.after fun _ => Yields.after fun _ => Yields.pure ⟨rfl, trivial⟩
  | truncateTable => exact Yields.after fun _ => Yields.after fun _ => Yields.after fun _ => Yields.pure ⟨rfl, trivial⟩
  | alterTable =>
    exact Yields.after fun _ => Yields.after fun _ => Yields.after fun _ => Yields.after fun _ => Yields.pure ⟨rfl, trivial⟩
  | dropTable =>
    exact Yields.after fun _ => Yields.after fun _ => Yields.after fun _ => Yields.after fun _ => Yields.pure ⟨rfl, trivial⟩
  | dropDatabase =>
    exact Yields.after fun _ => Yields.after fun _ => Yields.after fun _ => Yields.after fun _ => Yields.pure ⟨rfl, trivial⟩
  | createDatabase =>
    exact Yields.after fun _ => Yields.after fun _ => Yields.after fun _ => Yields.after fun _ =>
      Yields.after fun _ => Yields.pure ⟨rfl, trivial⟩
  | dropIndex =>
    refine Yields.after fun _ => Yields.after fun _ => Yields.after fun _ => Yields.after fun _ => ?_
    split
    · exact Yields.after fun _ => Yields.pure ⟨rfl, trivial⟩
    · exact Yields.pure ⟨rfl, trivial⟩
  | begin =>
    refine Yields.after fun start => ?_
    split
    · exact Yields.after fun _ => Yields.pure ⟨rfl, trivial⟩
    · exact Yields.after fun _ => Yields.after fun _ => Yields.pure ⟨rfl, trivial⟩

theorem Yields.closed {kind : Kind} {s : Parser Statement} {P : Statement → Prop} (h : s.Yields P) :
    (Parser.closed kind s).Yields P := by
  refine h.bind fun s hs => ?_
  refine Yields.after fun _ => Yields.after fun ended => ?_
  split
  · exact Yields.pure hs
  · exact Yields.after fun _ => yields_fail _

theorem yields_statement (kind : Kind) : (statement kind).Yields (ReadAs kind) := by
  unfold statement
  refine Yields.closed ?_
  split
  · rename_i hk
    rw [eq_of_beq hk]
    refine Yields.after fun _ => Yields.after fun ts => ?_
    split
    · refine Yields.map ?_
      exact fun _ _ _ _ => ⟨rfl, trivial⟩
    · exact yields_fail _
    · exact Yields.error _
  · exact yields_body kind

end Parser

/-- A statement that is read is of the kind that was asked for, and can be run. -/
theorem readAs_of_parse {sql : String} {kind : Kind} {s : Statement} (h : parse sql kind = .ok s) :
    Parser.ReadAs kind s := by
  obtain ⟨ts, -, h⟩ := bind_eq_ok.mp h
  obtain ⟨⟨s', rest⟩, hs, h⟩ := map_eq_ok.mp h
  cases h
  exact Parser.yields_statement kind _ _ _ hs

end PocketSql.Sql
