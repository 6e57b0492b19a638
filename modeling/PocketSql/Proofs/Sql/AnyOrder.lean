/-
  PocketSql.Proofs.Sql.AnyOrder — modifiers may come in any order.

  A modifier changes one thing about a column, and is read without its neighbours: none
  starts with what another may go on with (`apart_modifiers`). So the column is what
  the changes make of it, and changes of different things may be swapped
  (`column_of_perm`).
-/

import Mathlib.Data.List.Nodup
import PocketSql.Proofs.Sql.Modified

namespace PocketSql

/-! ## Changes of different things -/

/-- What a modifier is about. -/
inductive Aspect where
  | nullable | primaryKey | unique | autoIncrement | default | references
  deriving DecidableEq

def Change.aspect : Change → Aspect
  | nullable _ => .nullable
  | primaryKey => .primaryKey
  | unique => .unique
  | autoIncrement => .autoIncrement
  | default _ => .default
  | references _ => .references

namespace Column

theorem changed_comm {m n : Change} (h : m.aspect ≠ n.aspect) (c : Column) :
    (c.changed m).changed n = (c.changed n).changed m := by
  cases m <;> cases n <;> first | rfl | exact absurd rfl h

/-- Changes of different things may be made in any order. -/
theorem changedBy_perm {ms ns : List Change} (hone : (ms.map Change.aspect).Nodup) (hp : ms.Perm ns) (c : Column) :
    c.changedBy ms = c.changedBy ns := by
  refine hp.foldl_eq' (fun m hm n hn c => ?_) c
  by_cases he : m = n
  · rw [he]
  · exact changed_comm (fun ha => he (List.inj_on_of_nodup_map hone hm hn ha)) c

end Column

/-- The default that a literal states; DEFAULT itself states none. -/
def Literal.asDefault? : Literal → Option ColumnDefault
  | null => some .null
  | currentTimestamp => some .currentTimestamp
  | quoted s | number s | word s => some (.literal s)
  | default => none

theorem Literal.isSome_asDefault? {v : Literal} (h : v ≠ .default) : v.asDefault?.isSome = true := by
  cases v with
  | default => exact absurd rfl h
  | _ => rfl

namespace Sql

/-! ## Modifiers as they stand in a definition -/

/-- One modifier with its tokens. -/
inductive ModifierText where
  | notNull
  | null
  | primaryKey (key : Spelling "KEY")
  | unique
  | uniqueKey (key : Spelling "KEY")
  | autoIncrement (w : Spelling "AUTO_INCREMENT")
  | autoincrement (w : Spelling "AUTOINCREMENT")
  /-- DEFAULT and the tokens of a literal other than DEFAULT. -/
  | default (value : List Token) (v : Literal) (reads : Parser.literal.Takes value v []) (other : v ≠ .default)
  | references (w : Spelling "REFERENCES") (qualifier : Option String) (table : String) (column : Option String)

namespace ModifierText

/-- The table of a reference. -/
def tableTokens (qualifier : Option String) (table : String) : List Token :=
  match qualifier with
  | some q => [.identifier q, .symbol .dot, .identifier table]
  | none => [.identifier table]

/-- The column of a reference in parentheses, if one is named. -/
def columnTokens : Option String → List Token
  | some column => [.symbol .lparen, .identifier column, .symbol .rparen]
  | none => []

def first : ModifierText → Token
  | notNull => .keyword .NOT
  | null => .keyword .NULL
  | primaryKey _ => .keyword .PRIMARY
  | unique | uniqueKey _ => .keyword .UNIQUE
  | autoIncrement w => w.token
  | autoincrement w => w.token
  | default .. => .keyword .DEFAULT
  | references w .. => w.token

/-- The tokens behind the first. -/
def more : ModifierText → List Token
  | notNull => [.keyword .NULL]
  | primaryKey key | uniqueKey key => [key.token]
  | default value .. => value
  | references _ qualifier table column => tableTokens qualifier table ++ columnTokens column
  | null | unique | autoIncrement _ | autoincrement _ => []

def tokens (m : ModifierText) : List Token :=
  m.first :: m.more

def change : ModifierText → Change
  | notNull => .nullable false
  | null => .nullable true
  | primaryKey _ => .primaryKey
  | unique | uniqueKey _ => .unique
  | autoIncrement _ | autoincrement _ => .autoIncrement
  | default _ v _ other => .default (v.asDefault?.get (Literal.isSome_asDefault? other))
  | references _ _ table column => .references ⟨table, column⟩

end ModifierText

/-! ## Reading them -/

namespace Parser

variable {name : String} {type rest : List Token} {c : Column} {ms ns : List ModifierText}

theorem columnDefault_takes {value : List Token} {v : Literal} {d : ColumnDefault} (hv : literal.Takes value v rest)
    (hd : v.asDefault? = some d) : columnDefault.Takes value d rest := by
  refine hv.bind ?_
  cases v with
  | default => cases hd
  | _ =>
    cases hd
    exact .pure _ _

theorem objectName_takes_qualified (qualifier table : String) (rest : List Token) :
    objectName.Takes (.identifier qualifier :: .symbol .dot :: .identifier table :: rest) table rest :=
  (identifier_takes _ _).bind ((takes_takeSymbol_true.mpr rfl).bind (identifier_takes _ _))

theorem reference_takes (qualifier : Option String) (table : String) (column : Option String) :
    reference.Takes (ModifierText.tableTokens qualifier table ++ ModifierText.columnTokens column)
      ⟨table, column⟩ [] := by
  have htable : objectName.Takes (ModifierText.tableTokens qualifier table ++ ModifierText.columnTokens column) table
      (ModifierText.columnTokens column) := by
    cases qualifier with
    | some q => exact objectName_takes_qualified q table _
    | none => exact objectName_takes table (by cases column <;> simp [ModifierText.columnTokens])
  refine htable.bind ?_
  cases column with
  | some column => exact rfl
  | none => exact rfl

/-- A modifier is read from its own tokens. -/
theorem modifierAfter?_takes (m : ModifierText) :
    ∃ p, modifierAfter? m.first = some p ∧ p.Takes m.more m.change [] := by
  cases m with
  | notNull => exact ⟨_, rfl, rfl⟩
  | null => exact ⟨_, rfl, rfl⟩
  | primaryKey key =>
    exact ⟨_, rfl, Takes.bind (a := ()) (takes_expectWord.mpr ⟨_, key.isWord, rfl⟩) (.pure _ _)⟩
  | unique => exact ⟨_, rfl, rfl⟩
  | uniqueKey key =>
    exact ⟨_, rfl, Takes.bind (a := true) (takes_takeIf_true.mpr ⟨_, key.isWord, rfl⟩) (.pure _ _)⟩
  | autoIncrement w =>
    have hw : (Token.identifier "AUTO_INCREMENT").isWord "AUTO_INCREMENT" = true := beq_self_eq_true _
    refine ⟨pure .autoIncrement, (modifierAfter?_spelling w).trans ?_, rfl⟩
    simp [modifierAfter?, hw]
  | autoincrement w =>
    have hw : (Token.identifier "AUTOINCREMENT").isWord "AUTOINCREMENT" = true := beq_self_eq_true _
    refine ⟨pure .autoIncrement, (modifierAfter?_spelling w).trans ?_, rfl⟩
    simp [modifierAfter?, hw]
  | default value v reads other =>
    have hd : v.asDefault? = some (v.asDefault?.get (Literal.isSome_asDefault? other)) := (Option.some_get _).symm
    exact ⟨_, rfl, (columnDefault_takes reads hd).map⟩
  | references w qualifier table column =>
    have hw : (Token.identifier "REFERENCES").isWord "AUTO_INCREMENT" = false ∧
        (Token.identifier "REFERENCES").isWord "AUTOINCREMENT" = false ∧
        (Token.identifier "REFERENCES").isWord "REFERENCES" = true := by decide +kernel
    refine ⟨.references <$> reference, (modifierAfter?_spelling w).trans ?_,
      (reference_takes qualifier table column).map⟩
    simp [modifierAfter?, hw]

theorem states_tokens (m : ModifierText) : States m.tokens [m.change] := by
  obtain ⟨p, hp, hm⟩ := modifierAfter?_takes m
  exact .cons hp hm .nil

theorem continues_first (m : ModifierText) : continues m.first = false := by
  have hword : continues (.identifier "AUTO_INCREMENT") = false ∧ continues (.identifier "AUTOINCREMENT") = false ∧
      continues (.identifier "REFERENCES") = false := by decide +kernel
  cases m with
  | autoIncrement w => exact (continues_spelling w).trans hword.1
  | autoincrement w => exact (continues_spelling w).trans hword.2.1
  | references w qualifier table column => exact (continues_spelling w).trans hword.2.2
  | _ => rfl

theorem apart_modifiers (ms : List ModifierText) : Apart (ms.flatMap ModifierText.tokens) := by
  cases ms with
  | nil => simp [Apart]
  | cons m ms =>
    rintro t ⟨⟩
    exact continues_first m

theorem states_modifiers (ms : List ModifierText) :
    States (ms.flatMap ModifierText.tokens) (ms.map ModifierText.change) := by
  induction ms with
  | nil => exact .nil
  | cons m ms ih => exact (states_tokens m).append ih (apart_modifiers ms)

/-- Modifiers behind a name and a type change the column as they say, one after the other. -/
theorem column_takes (hc : (columnType name).Takes type c []) (ms : List ModifierText) :
    column.Takes (.identifier name :: (type ++ ms.flatMap ModifierText.tokens))
      (c.changedBy (ms.map ModifierText.change)) [] :=
  takes_column.mpr
    ⟨rfl, name, _, c, _, _, rfl, framed_columnType (apart_modifiers ms) name hc, states_modifiers ms, rfl⟩

/-- Modifiers of different things may stand in any order behind a name and a type: the same
    column is read. -/
theorem column_of_perm (hc : (columnType name).Takes type c []) (hone : (ms.map fun m => m.change.aspect).Nodup)
    (hp : ms.Perm ns) : ∃ c', column.Takes (.identifier name :: (type ++ ms.flatMap ModifierText.tokens)) c' [] ∧
      column.Takes (.identifier name :: (type ++ ns.flatMap ModifierText.tokens)) c' [] := by
  refine ⟨_, column_takes hc ms, ?_⟩
  have hchanged : c.changedBy (ms.map ModifierText.change) = c.changedBy (ns.map ModifierText.change) :=
    Column.changedBy_perm (by rwa [List.map_map]) (hp.map _) c
  rw [hchanged]
  exact column_takes hc ns

/-- A word that parentheses may follow stands in front of NULL, and last; the table of the
    reference has the name of what UNIQUE may go on with. -/
theorem column_of_perm_of_reverse :
    let type : List Token :=
      [.identifier "ENUM", .symbol .lparen, .quoted "a", .symbol .comma, .quoted "b", .symbol .rparen]
    let ms : List ModifierText := [.default [.identifier "CURRENT_TIMESTAMP"] .currentTimestamp rfl (by decide), .null,
      .unique, .references ⟨.identifier "references", by decide +kernel⟩ (some "shop") "key" none]
    (columnType "n").Takes type { name := "n", type := .enum, members := ["a", "b"] } [] ∧
      (ms.map fun m => m.change.aspect).Nodup ∧ ms.Perm ms.reverse ∧
      ∃ c', column.Takes (.identifier "n" :: (type ++ ms.flatMap ModifierText.tokens)) c' [] ∧
        column.Takes (.identifier "n" :: (type ++ ms.reverse.flatMap ModifierText.tokens)) c' [] := by
  intro type ms
  have hc : (columnType "n").Takes type { name := "n", type := .enum, members := ["a", "b"] } [] :=
    takes_columnType.mpr ⟨_, _, .enum, rfl, by decide +kernel, rfl⟩
  have hone : (ms.map fun m => m.change.aspect).Nodup := by decide
  have hp : ms.Perm ms.reverse := ms.reverse_perm.symm
  exact ⟨hc, hone, hp, column_of_perm hc hone hp⟩

end Parser

end Sql

end PocketSql
