/-
  PocketSql.Proofs.Execute.Commuting — statements on different tables commute.

  A SELECT, INSERT, UPDATE, DELETE, TRUNCATE TABLE or CREATE INDEX reads and writes the one
  table that it names. It is a step of that table, in which the table keeps its name
  (`exists_step`). Tables are found by name, so steps of two tables of a database do not
  see each other (`commutes_onTable`), and neither do steps of two databases
  (`commutes_access_of_ne`). So two such statements may change places, also where one of
  them fails, or stops halfway as an INSERT may (`run_commutes`).
-/

import PocketSql.Proofs.Execute.Updated

namespace PocketSql

/-- Whether two steps may change places: each answers the same before and after the other,
    and both orders lead to the same state. -/
structure Commutes {σ ω : Type} (s : σ) (f g : σ → σ × ω) : Prop where
  first : (f (g s).1).2 = (f s).2
  second : (g (f s).1).2 = (g s).2
  state : (g (f s).1).1 = (f (g s).1).1

section

variable {σ ω : Type} {s : σ} {f g : σ → σ × ω}

theorem Commutes.symm (h : Commutes s f g) : Commutes s g f :=
  ⟨h.second, h.first, h.state.symm⟩

/-- A step that goes nowhere may change places with any other. -/
theorem commutes_of_idle {a : ω} (h : ∀ s, f s = (s, a)) : Commutes s f g := by
  constructor <;> simp only [h]

end

/-- The table that a statement works on, for those that look at no other. -/
def Statement.ownTable? : Statement → Option String
  | .select s => some s.table
  | .insert s => some s.table
  | .update s => some s.table
  | .delete s => some s.table
  | .truncateTable table => some table
  | .createIndex s => some s.table
  | _ => none

/-! ## In a table -/

/-- A step of a table, which gives the table after it and an answer. -/
abbrev TableStep := Table → Table × Except Fault QueryResult

/-- A table's step where it changes nothing if it fails. -/
def Table.settle (t : Table) (outcome : Except Fault (Table × QueryResult)) : Table × Except Fault QueryResult :=
  match outcome with
  | .ok (t, result) => (t, .ok result)
  | .error f => (t, .error f)

/-- Whether a step leaves every table its name. -/
def TableStep.KeepsName (step : TableStep) : Prop :=
  ∀ t, (step t).1.name = t.name

theorem keepsName_settle {f : Table → Except Fault (Table × QueryResult)}
    (h : ∀ t t' result, f t = .ok (t', result) → t'.name = t.name) : TableStep.KeepsName fun t => t.settle (f t) := by
  intro t
  show (t.settle (f t)).1.name = t.name
  cases hf : f t with
  | error e => rfl
  | ok r => exact h t r.1 r.2 hf

/-! ## In a database -/

namespace Database

variable {db : Database} {name other : String} {now : Instant} {s : Statement}

/-- What a step does to the table of a name, which has to be there. -/
def onTable (db : Database) (name : String) (step : TableStep) : Database × Except Fault QueryResult :=
  (db.modifyTable name fun t => (step t).1, do (step (← db.requireTable name)).2)

/-- A change to the first table of a name only depends on that table. -/
theorem modifyTable_of_table? {t : Table} (h : db.table? name = some t) (change : Table → Table) :
    db.modifyTable name change = db.modifyTable name fun _ => change t := by
  rcases modifyTable_cases db name with ⟨before, u, after, -, -, hu, hm⟩ | ⟨-, hm⟩
  · obtain rfl : u = t := Option.some.inj (hu.symm.trans h)
    rw [hm, hm]
  · rw [hm, hm]

theorem onTable_of_table? {t : Table} (h : db.table? name = some t) (step : TableStep) :
    db.onTable name step = (db.modifyTable name fun _ => (step t).1, (step t).2) := by
  rw [onTable, modifyTable_of_table? h, requireTable_of_table? h]
  rfl

theorem onTable_of_table?_eq_none (h : db.table? name = none) (step : TableStep) :
    db.onTable name step = (db, .error (.tableNotFound name)) := by
  rcases modifyTable_cases db name with ⟨_, u, _, -, -, hu, -⟩ | ⟨-, hm⟩
  · rw [h] at hu
    cases hu
  · rw [onTable, hm, requireTable, h]
    rfl

/-- What only reads a table is a step that leaves it as it is. -/
theorem onTable_reads (read : Table → Except Fault QueryResult) :
    db.onTable name (fun t => (t, read t)) = (db, do read (← db.requireTable name)) := by
  cases h : db.table? name with
  | none =>
    rw [onTable_of_table?_eq_none h, requireTable, h]
    rfl
  | some t =>
    rw [onTable_of_table? h, modifyTable_self h, requireTable_of_table? h]
    rfl

/-- What writes a table back only where it succeeds is a step of that table. -/
theorem onTable_settle (f : Table → Except Fault (Table × QueryResult)) :
    db.onTable name (fun t => t.settle (f t)) = db.settle do
      let t ← db.requireTable name
      let (t, result) ← f t
      return (db.modifyTable name fun _ => t, result) := by
  cases h : db.table? name with
  | none =>
    rw [onTable_of_table?_eq_none h, requireTable, h]
    rfl
  | some t =>
    rw [onTable_of_table? h, requireTable_of_table? h]
    show _ = db.settle (f t >>= _)
    cases f t with
    | error e => exact congrArg (·, _) (modifyTable_self h)
    | ok r => rfl

/-- An INSERT writes its table back also where it fails. -/
theorem insertInto_eq_onTable (now : Instant) (s : Insert) :
    db.insertInto now s = db.onTable s.table fun t => t.insert now s := by
  cases h : db.table? s.table with
  | none => rw [onTable_of_table?_eq_none h, insertInto, requireTable, h]
  | some t => rw [onTable_of_table? h, insertInto, requireTable_of_table? h]

/-- Each of these statements is a step of its own table. -/
theorem exists_step [RegexCompiler] (hs : s.ownTable? = some name) (now : Instant) :
    ∃ step : TableStep, step.KeepsName ∧ ∀ db : Database, db.run now s = db.onTable name step := by
  cases s with
  | select s =>
    cases hs
    refine ⟨fun t => (t, t.select now s), fun t => rfl, fun db => ?_⟩
    rw [onTable_reads]
    rfl
  | insert s =>
    cases hs
    exact ⟨fun t => t.insert now s, fun t => (Table.keeps_insert s).name, fun db => insertInto_eq_onTable now s⟩
  | update s =>
    cases hs
    refine ⟨fun t => t.settle (t.update now s), keepsName_settle fun t t' result h => (Table.keeps_update h).name,
      fun db => ?_⟩
    rw [onTable_settle]
    rfl
  | delete s =>
    cases hs
    refine ⟨fun t => t.settle (t.delete now s), keepsName_settle fun t t' result h => (Table.keeps_delete h).name,
      fun db => ?_⟩
    rw [onTable_settle]
    rfl
  | truncateTable table =>
    cases hs
    refine ⟨fun t => t.settle (.ok (t.truncate.1, .ofAffected t.truncate.2
      ("Table '" ++ name ++ "' truncated, " ++ toString t.truncate.2 ++ " row(s) removed"))), fun t => rfl, fun db => ?_⟩
    rw [onTable_settle]
    rfl
  | createIndex s =>
    cases hs
    refine ⟨fun t => t.settle do
      s.columns.forM fun column => do
        let _ ← t.requireColumn column
      return ({ t with indexes :=
          if t.indexes.any fun i => Text.sameName i s.index then t.indexes else t.indexes ++ [s.index] },
        .ofMessage ("Index '" ++ s.index ++ "' created on '" ++ s.table ++ "'")),
      keepsName_settle fun t t' result h => ?_, fun db => ?_⟩
    · obtain ⟨_, -, h⟩ := bind_eq_ok.mp h
      cases h
      rfl
    · rw [onTable_settle]
      show db.settle (db.createIndex s) = _
      unfold createIndex
      cases h : db.requireTable s.table with
      | error f => rfl
      | ok t =>
        simp only [bind_assoc, modifyTable_of_table? (mem_of_requireTable h)]
        rfl
  | _ => cases hs

/-! ### Two tables -/

theorem modifyTable_of_tableIndex? {i : Nat} (h : db.tableIndex? name = some i) (change : Table → Table) :
    db.modifyTable name change = { db with tables := db.tables.modify i change } := by
  rw [modifyTable, h]

theorem modifyTable_of_tableIndex?_eq_none (h : db.tableIndex? name = none) (change : Table → Table) :
    db.modifyTable name change = db := by
  rw [modifyTable, h]

/-- A change that keeps a table's name keeps the places at which names are found. -/
theorem tableIndex?_modifyTable {change : Table → Table} (h : ∀ t, (change t).name = t.name) :
    (db.modifyTable name change).tableIndex? other = db.tableIndex? other := by
  have hnames : (db.modifyTable name change).tables.map (·.name) = db.tables.map (·.name) := by
    rcases modifyTable_cases db name with ⟨before, t, after, htables, -, -, hm⟩ | ⟨-, hm⟩
    · rw [hm, htables]
      simp [h]
    · rw [hm]
  have hindex : ∀ db : Database, db.tableIndex? other = (db.tables.map (·.name)).findIdx? (Text.sameName · other) := by
    intro db
    rw [List.findIdx?_map]
    rfl
  rw [hindex, hindex, hnames]

/-- Different names lead to different places. -/
theorem tableIndex?_ne {i j : Nat} (hname : Text.sameName name other = false) (hi : db.tableIndex? name = some i)
    (hj : db.tableIndex? other = some j) : i ≠ j := by
  rintro rfl
  obtain ⟨_, hsame, -⟩ := List.findIdx?_eq_some_iff_getElem.mp hi
  obtain ⟨_, hother, -⟩ := List.findIdx?_eq_some_iff_getElem.mp hj
  rw [Text.sameName_comm] at hsame
  rw [Text.sameName_trans hsame hother] at hname
  cases hname

/-- A table is found as before where one of another name was changed. -/
theorem table?_modifyTable_of_ne {change : Table → Table} (h : ∀ t, (change t).name = t.name)
    (hname : Text.sameName name other = false) : (db.modifyTable name change).table? other = db.table? other := by
  rw [table?_eq, table?_eq, tableIndex?_modifyTable h]
  cases hj : db.tableIndex? other with
  | none => rfl
  | some j =>
    cases hi : db.tableIndex? name with
    | none => rw [modifyTable_of_tableIndex?_eq_none hi]
    | some i =>
      rw [modifyTable_of_tableIndex? hi]
      exact List.getElem?_modify_ne change _ (tableIndex?_ne hname hi hj)

theorem modifyTable_comm {f g : Table → Table} (hf : ∀ t, (f t).name = t.name) (hg : ∀ t, (g t).name = t.name)
    (hname : Text.sameName name other = false) :
    (db.modifyTable name f).modifyTable other g = (db.modifyTable other g).modifyTable name f := by
  have hafter : (db.modifyTable name f).tableIndex? other = db.tableIndex? other := tableIndex?_modifyTable hf
  have hbefore : (db.modifyTable other g).tableIndex? name = db.tableIndex? name := tableIndex?_modifyTable hg
  cases hi : db.tableIndex? name with
  | none =>
    rw [modifyTable_of_tableIndex?_eq_none hi, modifyTable_of_tableIndex?_eq_none (hbefore.trans hi)]
  | some i =>
    cases hj : db.tableIndex? other with
    | none =>
      rw [modifyTable_of_tableIndex?_eq_none hj, modifyTable_of_tableIndex?_eq_none (hafter.trans hj)]
    | some j =>
      rw [modifyTable_of_tableIndex? (hafter.trans hj), modifyTable_of_tableIndex? (hbefore.trans hi),
        modifyTable_of_tableIndex? hi, modifyTable_of_tableIndex? hj]
      show { db with tables := (db.tables.modify i f).modify j g } = { db with tables := (db.tables.modify j g).modify i f }
      rw [List.modify_modify_ne f g db.tables (tableIndex?_ne hname hi hj)]

/-- Steps of tables of different names may change places. -/
theorem commutes_onTable {f g : TableStep} (hf : f.KeepsName) (hg : g.KeepsName)
    (hname : Text.sameName name other = false) : Commutes db (·.onTable name f) (·.onTable other g) := by
  have hswap : Text.sameName other name = false := Text.sameName_comm name other ▸ hname
  constructor
  · simp only [onTable, requireTable, table?_modifyTable_of_ne hg hswap]
  · simp only [onTable, requireTable, table?_modifyTable_of_ne hf hname]
  · exact modifyTable_comm hf hg hname

end Database

/-! ## In a catalog -/

namespace Catalog

variable {c : Catalog} {now₁ now₂ : Instant} {name database₁ database₂ table₁ table₂ : String} {s s₁ s₂ : Statement}

/-- A database is found as before where another one was put. -/
theorem database?_put_of_ne {k : String} (hk : key name ≠ k) (db : Database) :
    (c.put k db).database? name = c.database? name :=
  (database?_put_eq c k db name).trans (if_neg hk)

/-- Databases that are there can be changed in either order. -/
theorem put_comm {k k' : String} (h : k ∈ c.entries.map (·.1)) (h' : k' ∈ c.entries.map (·.1)) (hk : k ≠ k')
    (db db' : Database) : (c.put k db).put k' db' = (c.put k' db').put k db := by
  rw [put_of_mem (mem_keys_put h' db), put_of_mem (mem_keys_put h db'), put_of_mem h, put_of_mem h',
    List.map_map, List.map_map]
  congr 1
  refine List.map_congr_left fun e _ => ?_
  by_cases he : e.1 = k
  · simp [he, hk]
  · by_cases he' : e.1 = k'
    · simp [he', Ne.symm hk]
    · simp [he, he']

section Access

variable {f g : Database → Database × Except Fault QueryResult}

/-- Steps of two databases may change places. -/
theorem commutes_access_of_ne {db₁ db₂ : Database} (h₁ : c.database? database₁ = some db₁)
    (h₂ : c.database? database₂ = some db₂) (hk : key database₁ ≠ key database₂) :
    Commutes c (·.access now₁ database₁ f) (·.access now₂ database₂ g) := by
  have h₁' : ∀ db, (c.put (key database₂) db).database? database₁ = some db₁ := by
    intro db
    rw [database?_put_of_ne hk, h₁]
  have h₂' : ∀ db, (c.put (key database₁) db).database? database₂ = some db₂ := by
    intro db
    rw [database?_put_of_ne hk.symm, h₂]
  have hmem₁ : key database₁ ∈ c.entries.map (·.1) := List.mem_map_of_mem (mem_of_database? h₁)
  have hmem₂ : key database₂ ∈ c.entries.map (·.1) := List.mem_map_of_mem (mem_of_database? h₂)
  constructor <;> simp only [access_of_some h₁, access_of_some h₂, access_of_some (h₁' _), access_of_some (h₂' _)]
  exact put_comm hmem₁ hmem₂ hk _ _

/-- Steps of one database, each under a name of its own, may change places where they may
    in the database. -/
theorem commutes_access_of_eq {db : Database} (h : c.database? database₁ = some db)
    (hk : key database₁ = key database₂) (hcomm : Commutes db f g) :
    Commutes c (·.access now₁ database₁ f) (·.access now₂ database₂ g) := by
  have hfound : ∀ c : Catalog, c.database? database₂ = c.database? database₁ := by
    intro c
    rw [database?, database?, hk]
  have h₂ : c.database? database₂ = some db := (hfound c).trans h
  have hput : ∀ db', (c.put (key database₂) db').database? database₁ = some db' := by
    intro db'
    rw [← hk, database?_put]
  have hput₂ : ∀ db', (c.put (key database₂) db').database? database₂ = some db' := database?_put c database₂
  constructor <;> simp only [access_of_some h, access_of_some h₂, hk, access_of_some (hput _), access_of_some (hput₂ _)]
  · exact hcomm.first
  · exact hcomm.second
  · rw [put_put, put_put, hcomm.state]

end Access

section Statements

variable [RegexCompiler]

/-- These statements run in the database that is named, if the name is not blank. -/
theorem run_eq_access {table : String} (hs : s.ownTable? = some table) (now : Instant) (database : String)
    (c : Catalog) : c.run now database s =
      if (Text.trim database).isEmpty then (c, .error .noDatabaseSelected)
      else c.access now database fun db => db.run now s := by
  cases s with
  | select | update | delete | insert | truncateTable | createIndex => rfl
  | _ => cases hs

theorem commutes_access (hs₁ : s₁.ownTable? = some table₁) (hs₂ : s₂.ownTable? = some table₂)
    (hdb₁ : c.hasDatabase database₁ = true) (hdb₂ : c.hasDatabase database₂ = true)
    (hapart : key database₁ ≠ key database₂ ∨ Text.sameName table₁ table₂ = false)
    (now₁ now₂ : Instant) : Commutes c (·.access now₁ database₁ fun db => db.run now₁ s₁)
      (·.access now₂ database₂ fun db => db.run now₂ s₂) := by
  obtain ⟨db₁, h₁⟩ := Option.isSome_iff_exists.mp hdb₁
  obtain ⟨db₂, h₂⟩ := Option.isSome_iff_exists.mp hdb₂
  by_cases hk : key database₁ = key database₂
  · obtain ⟨step₁, hname₁, hrun₁⟩ := Database.exists_step hs₁ now₁
    obtain ⟨step₂, hname₂, hrun₂⟩ := Database.exists_step hs₂ now₂
    apply commutes_access_of_eq h₁ hk
    simp only [hrun₁, hrun₂]
    exact Database.commutes_onTable hname₁ hname₂ (hapart.resolve_left fun hne => hne hk)
  · exact commutes_access_of_ne h₁ h₂ hk

/-- Two statements, each on a table of its own in a database that is there, may change
    places: each has the same result or fault before and after the other, and both orders
    lead to the same catalog. The tables are in different databases or have different
    names; whether they are there does not matter. -/
theorem run_commutes (hs₁ : s₁.ownTable? = some table₁) (hs₂ : s₂.ownTable? = some table₂)
    (hdb₁ : c.hasDatabase database₁ = true) (hdb₂ : c.hasDatabase database₂ = true)
    (hapart : key database₁ ≠ key database₂ ∨ Text.sameName table₁ table₂ = false) (now₁ now₂ : Instant) :
    Commutes c (·.run now₁ database₁ s₁) (·.run now₂ database₂ s₂) := by
  simp only [run_eq_access hs₁, run_eq_access hs₂]
  by_cases hblank₁ : (Text.trim database₁).isEmpty = true
  · simp only [if_pos hblank₁]
    exact commutes_of_idle fun _ => rfl
  by_cases hblank₂ : (Text.trim database₂).isEmpty = true
  · simp only [if_pos hblank₂]
    exact (commutes_of_idle fun _ => rfl).symm
  simp only [if_neg hblank₁, if_neg hblank₂]
  exact commutes_access hs₁ hs₂ hdb₁ hdb₂ hapart now₁ now₂

end Statements

/-- An INSERT of two rows into a table that has room for one identity only, and a DELETE
    from the table beside it. -/
theorem run_commutes_partly :
    let t : Table := { name := "t", columns := [{ name := "id", type := .bigInt, primaryKey := true, autoIncrement := true }]
                       rows := [[.integer 9223372036854775806]] }
    let u : Table := { name := "u", columns := [{ name := "a", type := .text }], rows := [[.text "x1"], [.text "y"]] }
    let c : Catalog := { entries := [("app", { Database.empty "app" ⟨0, 0⟩ with tables := [t, u] })] }
    let insert : Statement := .insert { table := "T", columns := none, rows := [[.default], [.default]] }
    let delete : Statement := .delete { table := "U", condition := some ⟨.like "a" "X%" false, []⟩ }
    let after := ((c.run ⟨1, 0⟩ "App" insert).1.run ⟨2, 0⟩ "app" delete).1
    insert.ownTable? = some "T" ∧ delete.ownTable? = some "U" ∧ c.hasDatabase "App" = true ∧
      c.hasDatabase "app" = true ∧ Text.sameName "T" "U" = false ∧
      (c.run ⟨1, 0⟩ "App" insert).2 = .error (.autoIncrementOverflow "t" "id") ∧
      (c.run ⟨2, 0⟩ "app" delete).2 = .ok (.ofAffected 1 "1 row(s) deleted") ∧
      (after.databases.map fun db => db.tables.map (·.rows)) =
        [[[[.integer 9223372036854775806], [.integer 9223372036854775807]], [[.text "y"]]]] ∧
      Commutes c (·.run ⟨1, 0⟩ "App" insert) (·.run ⟨2, 0⟩ "app" delete) := by
  intro t u c insert delete after
  have happ : c.hasDatabase "App" = true := by decide +kernel
  have hdb : c.hasDatabase "app" = true := by decide +kernel
  have hname : Text.sameName "T" "U" = false := by decide
  exact ⟨rfl, rfl, happ, hdb, hname, by decide +kernel, by decide +kernel, by decide +kernel,
    run_commutes rfl rfl happ hdb (.inr hname) ⟨1, 0⟩ ⟨2, 0⟩⟩

end Catalog

end PocketSql
