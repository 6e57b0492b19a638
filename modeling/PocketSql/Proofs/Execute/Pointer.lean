/-
  PocketSql.Proofs.Execute.Pointer — when the selected database is there.

  Databases are found by their names in full lower case, but dropping one clears the
  selection only where the name is the selected one up to the case of ASCII letters. So a
  selection is left without its database by a drop that spells the selected name in
  another case of a letter beyond ASCII, and by nothing else (`selected_after_iff`).
-/

import Mathlib.Data.List.Induction
import PocketSql.Proofs.Execute.Sound

namespace PocketSql

/-- Nothing but what a catalog is asked to do with databases: directly, or by a statement of
    any kind. -/
inductive CatalogCall where
  | create (name : String) (now : Instant)
  | drop (name : String)
  | select (name : String)
  | obtain (name : String) (now : Instant)
  | statement (s : Statement) (now : Instant) (database : String)

namespace Catalog

variable {c c' : Catalog}

/-- The catalog after a call. One that fails changes what `run` says, and nothing else. -/
def call [RegexCompiler] (c : Catalog) : CatalogCall → Catalog
  | .create name now => (c.createDatabase name now).toOption.getD c
  | .drop name => ((c.dropDatabase name).map (·.1)).toOption.getD c
  | .select name => (c.useDatabase name).toOption.getD c
  | .obtain name now => (c.databaseOrCreate name now).1
  | .statement s now database => (c.run now database s).1

/-- The selected database is there. -/
def Selected (c : Catalog) : Prop :=
  ∀ name, c.current = some name → c.hasDatabase name = true

/-- Whether a name means the selected database in a spelling that is another one in more
    than the case of ASCII letters. -/
def Misspells (c : Catalog) (name : String) : Prop :=
  ∃ selected, c.current = some selected ∧ key selected = key name ∧ Text.sameName selected name = false

/-- Whether a call drops the selected database under such a name. -/
def Loses (c : Catalog) : CatalogCall → Prop
  | .drop name | .statement (.dropDatabase name _) _ _ => c.Misspells name
  | _ => False

/-- Each database is kept under the key of its name. -/
def Keyed (c : Catalog) : Prop :=
  ∀ e ∈ c.entries, e.1 = key e.2.name

/-! ## Calls that leave all databases there -/

theorem hasDatabase_iff {name : String} : c.hasDatabase name = true ↔ key name ∈ c.entries.map (·.1) := by
  have hnone : c.database? name = none ↔ key name ∉ c.entries.map (·.1) := by
    unfold database?
    rw [List.lookup_eq_none_iff, List.mem_map]
    constructor
    · rintro h ⟨e, he, hk⟩
      simpa [hk] using h e he
    · intro h e he
      rw [bne_iff_ne]
      rintro hk
      exact h ⟨e, he, hk.symm⟩
  rw [hasDatabase, Option.isSome_iff_ne_none, ne_eq, hnone, Decidable.not_not]

/-- What is left as it is, or added to, when the selection does not change. -/
structure Grows (c c' : Catalog) : Prop where
  current : c'.current = c.current
  keyed : c.Keyed → c'.Keyed
  databases : ∀ name, c.hasDatabase name = true → c'.hasDatabase name = true

theorem Grows.refl (c : Catalog) : c.Grows c :=
  ⟨rfl, id, fun _ => id⟩

theorem Grows.trans {c'' : Catalog} (h : c.Grows c') (h' : c'.Grows c'') : c.Grows c'' :=
  ⟨h'.current.trans h.current, h'.keyed ∘ h.keyed, fun name hn => h'.databases name (h.databases name hn)⟩

theorem Grows.selected (h : c.Grows c') (hs : c.Selected) : c'.Selected := by
  intro name hn
  rw [h.current] at hn
  exact h.databases name (hs name hn)

theorem grows_put {k : String} {db : Database} (hk : k = key db.name) : c.Grows (c.put k db) := by
  refine ⟨?_, fun h e he => ?_, fun name hn => ?_⟩
  · unfold put
    split <;> rfl
  · rcases mem_put he with he | rfl
    · exact h e he
    · exact hk
  · rw [hasDatabase_iff] at hn ⊢
    rw [keys_put]
    split
    · exact hn
    · exact List.mem_append_left _ hn

theorem grows_obtain (name : String) (now : Instant) : c.Grows (c.databaseOrCreate name now).1 := by
  unfold databaseOrCreate
  split
  · exact .refl c
  · exact grows_put rfl

theorem Keyed.obtain (h : c.Keyed) (name : String) (now : Instant) :
    key name = key (c.databaseOrCreate name now).2.name := by
  unfold databaseOrCreate
  split
  · rename_i db hdb
    exact h _ (mem_of_database? hdb)
  · rfl

theorem not_misspells_of_not_hasDatabase (hs : c.Selected) {name : String} (hn : c.database? name = none) :
    ¬ c.Misspells name := by
  rintro ⟨selected, hsel, hkey, -⟩
  have hthere := hs selected hsel
  rw [hasDatabase, database?, hkey] at hthere
  rw [database?] at hn
  rw [hn] at hthere
  cases hthere

section

variable [RegexCompiler]

theorem grows_create (name : String) (now : Instant) : c.Grows (c.call (.create name now)) := by
  cases hc : c.createDatabase name now with
  | error e =>
    simp only [call, hc]
    exact .refl c
  | ok c' =>
    simp only [call, hc]
    unfold createDatabase at hc
    split at hc
    · cases hc
    · cases hc
      exact grows_put rfl

theorem Keyed.grows_runIn (h : c.Keyed) (now : Instant) (database : String) (s : Statement) :
    c.Grows (c.runIn now database s).1 :=
  (grows_obtain database now).trans
    (grows_put ((h.obtain database now).trans (congrArg key (Database.name_run _ now s).symm)))

/-! ## Calls that change the selection -/

theorem call_drop_none {name : String} (h : c.database? name = none) : c.call (.drop name) = c := by
  simp [call, dropDatabase, h, Except.map, Except.toOption]

theorem call_drop_some {name : String} {db : Database} (h : c.database? name = some db) :
    c.call (.drop name) =
      { entries := c.entries.filter fun e => e.1 != key name
        current := c.current.filter fun s => !Text.sameName s name } := by
  simp [call, dropDatabase, h, Except.map, Except.toOption]

/-- Dropping a database loses the selected one exactly where it was misspelt. -/
theorem Selected.drop (hs : c.Selected) (name : String) :
    (c.call (.drop name)).Selected ↔ ¬ c.Misspells name := by
  cases hdb : c.database? name with
  | none =>
    rw [call_drop_none hdb]
    exact ⟨fun _ => not_misspells_of_not_hasDatabase hs hdb, fun _ => hs⟩
  | some db =>
    rw [call_drop_some hdb]
    have hkeys : ∀ k, k ∈ (c.entries.filter fun e => e.1 != key name).map (·.1) ↔
        k ∈ c.entries.map (·.1) ∧ k ≠ key name := by
      intro k
      simp only [List.mem_map, List.mem_filter, bne_iff_ne]
      constructor
      · rintro ⟨e, ⟨he, hne⟩, rfl⟩
        exact ⟨⟨e, he, rfl⟩, hne⟩
      · rintro ⟨⟨e, he, rfl⟩, hne⟩
        exact ⟨e, ⟨he, hne⟩, rfl⟩
    have hsel : ∀ selected, (c.current.filter fun s => !Text.sameName s name) = some selected ↔
        c.current = some selected ∧ Text.sameName selected name = false := by
      intro selected
      simp [Option.filter_eq_some_iff]
    constructor
    · rintro h ⟨selected, hcur, hkey, hname⟩
      have hthere := h selected ((hsel selected).mpr ⟨hcur, hname⟩)
      exact ((hkeys _).mp (hasDatabase_iff.mp hthere)).2 hkey
    · intro h selected hcur
      obtain ⟨hcur, hname⟩ := (hsel selected).mp hcur
      have hthere := hasDatabase_iff.mp (hs selected hcur)
      exact hasDatabase_iff.mpr ((hkeys _).mpr ⟨hthere, fun hkey => h ⟨selected, hcur, hkey, hname⟩⟩)

theorem Keyed.drop (h : c.Keyed) (name : String) : (c.call (.drop name)).Keyed := by
  cases hdb : c.database? name with
  | none =>
    rw [call_drop_none hdb]
    exact h
  | some db =>
    rw [call_drop_some hdb]
    exact fun e he => h e (List.mem_filter.mp he).1

theorem call_select (c : Catalog) (name : String) :
    c.call (.select name) = match c.database? name with
      | some db => { c with current := some db.name }
      | none => c := by
  cases h : c.database? name <;> simp [call, useDatabase, requireDatabase, h, Except.map, Except.toOption]

theorem Keyed.select (h : c.Keyed) (name : String) : (c.call (.select name)).Keyed := by
  rw [call_select]
  split <;> exact h

/-- A database that is selected is there, as its key is that of its name. -/
theorem Selected.select (hs : c.Selected) (h : c.Keyed) (name : String) : (c.call (.select name)).Selected := by
  rw [call_select]
  split
  · rename_i db hdb
    intro selected hsel
    cases hsel
    have hm := mem_of_database? hdb
    exact hasDatabase_iff.mpr (List.mem_map.mpr ⟨_, hm, h _ hm⟩)
  · exact hs

/-! ## Statements as calls -/

theorem call_createDatabase (c : Catalog) (now : Instant) (database name : String) (ifNotExists : Bool) :
    c.call (.statement (.createDatabase name ifNotExists) now database) = c.call (.create name now) := by
  unfold call run addDatabase
  dsimp only
  split
  · rename_i h
    simp only [Bool.and_eq_true] at h
    simp [createDatabase, h.2, settle, Except.toOption]
  · cases c.createDatabase name now <;> rfl

theorem call_dropDatabase (c : Catalog) (now : Instant) (database name : String) (ifExists : Bool) :
    c.call (.statement (.dropDatabase name ifExists) now database) = c.call (.drop name) := by
  unfold call run removeDatabase
  dsimp only
  split
  · rename_i h
    simp only [Bool.and_eq_true, Bool.not_eq_true', hasDatabase, Option.isSome_eq_false_iff,
      Option.isNone_iff_eq_none] at h
    simp [dropDatabase, h.2, settle, Except.map, Except.toOption]
  · cases c.dropDatabase name <;> rfl

theorem call_use (c : Catalog) (now : Instant) (database name : String) :
    c.call (.statement (.use name) now database) = c.call (.select name) := by
  unfold call run switchTo
  dsimp only
  cases c.useDatabase name <;> rfl

/-- A statement that is none on databases adds at most the database it runs in. -/
theorem Keyed.grows_statement (h : c.Keyed) (now : Instant) (database : String) {s : Statement}
    (hs : c.run now database s = if (Text.trim database).isEmpty then (c, .error .noDatabaseSelected)
      else c.runIn now database s) : c.Grows (c.call (.statement s now database)) := by
  unfold call
  dsimp only
  rw [hs]
  split
  · exact .refl c
  · exact h.grows_runIn now database s

/-! ## All calls -/

/-- A call drops a database, selects one, or at most adds one. -/
theorem Keyed.call_cases (h : c.Keyed) (a : CatalogCall) :
    (∃ name, c.call a = c.call (.drop name) ∧ (c.Loses a ↔ c.Misspells name)) ∨
      (∃ name, c.call a = c.call (.select name) ∧ ¬ c.Loses a) ∨ (c.Grows (c.call a) ∧ ¬ c.Loses a) := by
  cases a with
  | create name now => exact .inr (.inr ⟨grows_create name now, id⟩)
  | drop name => exact .inl ⟨name, rfl, Iff.rfl⟩
  | select name => exact .inr (.inl ⟨name, rfl, id⟩)
  | obtain name now => exact .inr (.inr ⟨grows_obtain name now, id⟩)
  | statement s now database =>
    cases s with
    | createDatabase name ifNotExists =>
      rw [call_createDatabase]
      exact .inr (.inr ⟨grows_create name now, id⟩)
    | dropDatabase name ifExists => exact .inl ⟨name, call_dropDatabase .., Iff.rfl⟩
    | «use» name => exact .inr (.inl ⟨name, call_use .., id⟩)
    | showDatabases | begin | commit | rollback => exact .inr (.inr ⟨.refl c, id⟩)
    | _ => exact .inr (.inr ⟨h.grows_statement now database rfl, id⟩)

theorem Keyed.call (h : c.Keyed) (a : CatalogCall) : (c.call a).Keyed := by
  rcases h.call_cases a with ⟨name, ha, -⟩ | ⟨name, ha, -⟩ | ⟨ha, -⟩
  · rw [ha]
    exact h.drop name
  · rw [ha]
    exact h.select name
  · exact ha.keyed h

/-- While the selected database is there, one call keeps it so or loses it. -/
theorem Selected.call (hs : c.Selected) (h : c.Keyed) (a : CatalogCall) : (c.call a).Selected ↔ ¬ c.Loses a := by
  rcases h.call_cases a with ⟨name, ha, hl⟩ | ⟨name, ha, hl⟩ | ⟨ha, hl⟩
  · rw [ha, hl]
    exact hs.drop name
  · rw [ha]
    exact iff_of_true (hs.select h name) hl
  · exact iff_of_true (ha.selected hs) hl

/-- The catalog after one call after the other, from the empty one. -/
def after (calls : List CatalogCall) : Catalog :=
  calls.foldl call {}

theorem after_concat (calls : List CatalogCall) (a : CatalogCall) : after (calls ++ [a]) = (after calls).call a := by
  simp [after]

theorem keyed_after (calls : List CatalogCall) : (after calls).Keyed := by
  induction calls using List.reverseRecOn with
  | nil =>
    intro e he
    cases he
  | append_singleton calls a ih =>
    rw [after_concat]
    exact ih.call a

/-- The selected database is there all along a run exactly where no call of the run drops
    it under a spelling that is another one in more than the case of ASCII letters. -/
theorem selected_after_iff (calls : List CatalogCall) :
    (∀ before, before <+: calls → (after before).Selected) ↔
      ∀ before a, before ++ [a] <+: calls → ¬ (after before).Loses a := by
  constructor
  · intro h before a ha
    have hs := h before ((List.prefix_append _ _).trans ha)
    rw [← hs.call (keyed_after before), ← after_concat]
    exact h _ ha
  · intro h before
    induction before using List.reverseRecOn with
    | nil =>
      intro _ name hn
      cases hn
    | append_singleton before a ih =>
      intro ha
      have hs := ih ((List.prefix_append _ _).trans ha)
      rw [after_concat, hs.call (keyed_after before)]
      exact h before a ha

end

example :
    let c := after [.create "É" ⟨0, 0⟩, .select "É", .drop "é"]
    c.current = some "É" ∧ c.databases = [] := by decide +kernel

end Catalog

end PocketSql
