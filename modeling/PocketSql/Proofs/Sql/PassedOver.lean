/-
  PocketSql.Proofs.Sql.PassedOver — clauses of a column that are passed over.

  COLLATE, COMMENT, CHECK and the actions of a reference are no modifiers. They are passed
  over token by token, and every token is looked at, those inside parentheses too. So a
  column keeps what it is when such clauses are put behind its definition just where no
  token of them starts a modifier (`kept_iff`): COMMENT always does, ON DELETE SET NULL
  and CHECK (n IS NOT NULL) never do (`passed_over_iff`).
-/

import PocketSql.Proofs.Sql.Modified

namespace PocketSql.Sql

/-! ## Clauses -/

/-- What happens to the rows that refer to a row. -/
inductive ReferenceAction where
  | cascade (w : Spelling "CASCADE")
  | restrict (w : Spelling "RESTRICT")
  | noAction (no : Spelling "NO") (action : Spelling "ACTION")
  | setNull
  | setDefault

namespace ReferenceAction

def tokens : ReferenceAction → List Token
  | cascade w => [w.token]
  | restrict w => [w.token]
  | noAction no action => [no.token, action.token]
  | setNull => [.keyword .SET, .keyword .NULL]
  | setDefault => [.keyword .SET, .keyword .DEFAULT]

def isPassedOver : ReferenceAction → Bool
  | cascade _ | restrict _ | noAction .. => true
  | setNull | setDefault => false

end ReferenceAction

/-- What may happen to the row that is referred to. -/
inductive RowEvent where
  | delete
  | update

def RowEvent.keyword : RowEvent → Keyword
  | delete => .DELETE
  | update => .UPDATE

/-- A clause of a column that says nothing that is kept. -/
inductive Clause where
  | collate (w : Spelling "COLLATE") (collation : String)
  | comment (w : Spelling "COMMENT") (text : String)
  /-- A condition in parentheses, of any tokens. -/
  | check (w : Spelling "CHECK") (condition : List Token)
  | on (event : RowEvent) (action : ReferenceAction)

namespace Clause

def tokens : Clause → List Token
  | collate w collation => [w.token, .identifier collation]
  | comment w text => [w.token, .quoted text]
  | check w condition => w.token :: .symbol .lparen :: condition ++ [.symbol .rparen]
  | on event action => .keyword .ON :: .keyword event.keyword :: action.tokens

/-- Whether no token of a clause starts a modifier. -/
def isPassedOver : Clause → Bool
  | collate _ collation => !startsModifier (.identifier collation)
  | comment .. => true
  | check _ condition => condition.all fun t => !startsModifier t
  | on _ action => action.isPassedOver

end Clause

namespace Clause

theorem all_action (action : ReferenceAction) :
    (∀ t ∈ action.tokens, startsModifier t = false) ↔ action.isPassedOver = true := by
  have hword : startsModifier (.identifier "CASCADE") = false ∧ startsModifier (.identifier "RESTRICT") = false ∧
      startsModifier (.identifier "NO") = false ∧ startsModifier (.identifier "ACTION") = false := by decide +kernel
  cases action with
  | cascade w => simp [ReferenceAction.tokens, ReferenceAction.isPassedOver, w.startsModifier_token, hword]
  | restrict w => simp [ReferenceAction.tokens, ReferenceAction.isPassedOver, w.startsModifier_token, hword]
  | noAction no action =>
    simp [ReferenceAction.tokens, ReferenceAction.isPassedOver, no.startsModifier_token,
      action.startsModifier_token, hword]
  | setNull => simp [ReferenceAction.tokens, ReferenceAction.isPassedOver, startsModifier]
  | setDefault => simp [ReferenceAction.tokens, ReferenceAction.isPassedOver, startsModifier]

theorem all_tokens (cl : Clause) : (∀ t ∈ cl.tokens, startsModifier t = false) ↔ cl.isPassedOver = true := by
  have hword : startsModifier (.identifier "COLLATE") = false ∧ startsModifier (.identifier "COMMENT") = false ∧
      startsModifier (.identifier "CHECK") = false := by decide +kernel
  have hparens : startsModifier (.symbol .lparen) = false ∧ startsModifier (.symbol .rparen) = false := by decide
  cases cl with
  | collate w collation => simp [tokens, isPassedOver, w.startsModifier_token, hword]
  | comment w text =>
    have htext : startsModifier (.quoted text) = false := rfl
    simp [tokens, isPassedOver, w.startsModifier_token, hword, htext]
  | check w condition => simp [tokens, isPassedOver, w.startsModifier_token, hword, hparens, or_imp, forall_and]
  | on event action =>
    have hevent : startsModifier (.keyword event.keyword) = false := by cases event <;> rfl
    have hon : startsModifier (.keyword .ON) = false := rfl
    simp [tokens, isPassedOver, hevent, hon, ← all_action]

end Clause

/-! ## What is passed over changes nothing -/

namespace Parser

variable {us : List Token}

theorem states_nil_iff : States us [] ↔ ∀ t ∈ us, startsModifier t = false := by
  induction us with
  | nil => exact ⟨fun _ _ ht => absurd ht List.not_mem_nil, fun _ => .nil⟩
  | cons t us ih =>
    rw [List.forall_mem_cons, ← ih, ← modifierAfter?_eq_none_iff]
    constructor
    · intro h
      cases h with
      | skip ht h => exact ⟨ht, h⟩
    · rintro ⟨ht, h⟩
      exact .skip ht h

/-- A column that may be null, or may not, and no more. -/
def plainColumn (nullable : Bool) : Column :=
  { name := "n", type := .int, nullable }

/-- The definition of a plain column. -/
def plainTokens (nullable : Bool) : List Token :=
  [.identifier "n", .identifier "INT"] ++ if nullable then [] else [.keyword .NOT, .keyword .NULL]

theorem plainColumn_takes (nullable : Bool) : column.Takes (plainTokens nullable) (plainColumn nullable) [] := by
  cases nullable <;> exact rfl

/-- No changes leave both plain columns as they are: the last of them shows in one. -/
theorem eq_nil_of_kept {ms : List Change} (h : ∀ nullable, (plainColumn nullable).changedBy ms = plainColumn nullable) :
    ms = [] := by
  cases List.eq_nil_or_concat ms with
  | inl hnil => exact hnil
  | inr hlast =>
    obtain ⟨ms, m, rfl⟩ := hlast
    have hm : ∀ nullable, ((plainColumn nullable).changedBy ms).changed m = plainColumn nullable := by
      simpa [Column.changedBy] using h
    cases m with
    | nullable allowed => exact absurd (congrArg Column.nullable (hm !allowed)) (by simp [Column.changed, plainColumn])
    | primaryKey => cases congrArg Column.primaryKey (hm true)
    | unique => cases congrArg Column.unique (hm true)
    | autoIncrement => cases congrArg Column.autoIncrement (hm true)
    | default value => cases congrArg Column.default (hm true)
    | references target => cases congrArg Column.references (hm true)

/-- Tokens behind the definition of a column leave it as it is, whatever it is, just where
    none of them starts a modifier. -/
theorem kept_iff (hapart : Apart us) : (∀ ts c, column.Takes ts c [] → column.Takes (ts ++ us) c []) ↔
    ∀ t ∈ us, startsModifier t = false := by
  rw [← states_nil_iff]
  constructor
  · intro h
    have hstates : ∀ nullable, ∃ ms, States us ms ∧ plainColumn nullable = (plainColumn nullable).changedBy ms :=
      fun nullable => ((takes_column_append (plainColumn_takes nullable) hapart).mp
        (h _ _ (plainColumn_takes nullable))).2
    obtain ⟨ms, hms, -⟩ := hstates true
    have hnil : ms = [] := eq_nil_of_kept fun nullable => by
      obtain ⟨ns, hns, hkept⟩ := hstates nullable
      rw [hms.unique hns]
      exact hkept.symm
    rwa [hnil] at hms
  · intro h ts c hc
    exact (takes_column_append hc hapart).mpr ⟨rfl, [], h, rfl⟩

theorem apart_clauses (clauses : List Clause) : Apart (clauses.flatMap Clause.tokens) := by
  cases clauses with
  | nil => simp [Apart]
  | cons cl clauses =>
    have hword : continues (.identifier "COLLATE") = false ∧ continues (.identifier "COMMENT") = false ∧
        continues (.identifier "CHECK") = false := by decide +kernel
    intro t ht
    rw [List.flatMap_cons] at ht
    cases cl with
    | collate w collation =>
      cases ht
      exact (continues_spelling w).trans hword.1
    | comment w text =>
      cases ht
      exact (continues_spelling w).trans hword.2.1
    | check w condition =>
      cases ht
      exact (continues_spelling w).trans hword.2.2
    | on event action =>
      cases ht
      rfl

/-- Clauses behind the definition of a column are passed over, whatever that is, just where
    none of them has a token that starts a modifier. -/
theorem passed_over_iff (clauses : List Clause) :
    (∀ ts c, column.Takes ts c [] → column.Takes (ts ++ clauses.flatMap Clause.tokens) c []) ↔
      ∀ cl ∈ clauses, cl.isPassedOver = true := by
  rw [kept_iff (apart_clauses clauses)]
  simp only [← Clause.all_tokens, List.mem_flatMap]
  constructor
  · rintro h cl hcl t ht
    exact h t ⟨cl, hcl, ht⟩
  · rintro h t ⟨cl, hcl, ht⟩
    exact h cl hcl t ht

end Parser

end PocketSql.Sql
