/-
  PocketSql.Proofs.Execute.Sound — statements keep every catalog sound and storable.

  A statement on a table or database keeps its name and what holds of it, whether it
  succeeds or fails. The values that it writes are finite. A table that is created needs a
  column, distinct column names and sizes of 32 bits, which every text that is read as a
  statement gives. So every catalog that runs reach from the empty one is sound.
-/

import PocketSql.Execute
import PocketSql.Proofs.Fault
import PocketSql.Proofs.Schema.Storable

namespace PocketSql

/-! ## Values that are written -/

theorem Value.finite_coerce (raw : String) (type : ColumnType) : (coerce raw type).Finite := by
  have hnumber : ((numberOfText? raw).getD .zero).isFinite = true := by
    cases h : numberOfText? raw with
    | none => exact (by decide : Binary64.zero.isFinite = true)
    | some x => exact (Option.filter_eq_some_iff.mp h).2
  cases type with
  | decimal | float | double => exact hnumber
  | _ => trivial

theorem Value.finite_zero (type : ColumnType) : (zero type).Finite := by
  unfold zero
  split
  · trivial
  split
  · exact (by decide : Binary64.zero.isFinite = true)
  · trivial

namespace Column

theorem finite_fillValue (now : Instant) (c : Column) : (c.fillValue now).Finite := by
  unfold fillValue
  split
  · rename_i v hv
    obtain ⟨d, -, rfl⟩ := Option.map_eq_some_iff.mp hv
    cases d with
    | null | currentTimestamp => trivial
    | literal raw => exact Value.finite_coerce raw c.type
  · split
    · trivial
    · exact Value.finite_zero c.type

theorem finite_literalValue (now : Instant) (c : Column) (l : Literal) : (c.literalValue now l).Finite := by
  cases l with
  | null => trivial
  | default => exact finite_fillValue now c
  | currentTimestamp =>
    unfold literalValue
    dsimp only
    split
    · exact Value.finite_coerce _ _
    · trivial
  | quoted raw | number raw | word raw => exact Value.finite_coerce raw c.type

end Column

/-! ## Statements on a table -/

/-- What every statement on a table keeps of it. -/
structure Table.Keeps (t t' : Table) : Prop where
  name : t'.name = t.name
  sound : t.Sound → t'.Sound
  storable : t.Storable → t'.Storable

namespace Table

variable {t : Table} {now : Instant}

theorem Keeps.refl (t : Table) : t.Keeps t :=
  ⟨rfl, id, id⟩

theorem Keeps.trans {t' t'' : Table} (h : t.Keeps t') (h' : t'.Keeps t'') : t.Keeps t'' :=
  ⟨h'.name.trans h.name, h'.sound ∘ h.sound, h'.storable ∘ h.storable⟩

theorem name_pushRow {t' : Table} {row : Row} (h : t.pushRow row = .ok t') : t'.name = t.name := by
  unfold pushRow at h
  split at h
  · cases h
    rfl
  · cases h

theorem finite_identity {i : Nat} {v : Value} (h : Value.integer <$> t.nextIdentity i = .ok v) : v.Finite := by
  obtain ⟨n, -, rfl⟩ := map_eq_ok.mp h
  trivial

theorem finite_givenValues {targets : List (Nat × Literal)} {given : List (Nat × Value)}
    (h : t.givenValues now targets = .ok given) : ∀ g ∈ given, g.2.Finite := by
  refine foldlM_keeps (P := fun given : List (Nat × Value) => ∀ g ∈ given, g.2.Finite) ?_ (by simp) h
  rintro ⟨i, l⟩ - given given' hgiven hstep
  dsimp only at hstep
  split at hstep
  · rename_i c hc
    obtain ⟨v, hv, hstep⟩ := bind_eq_ok.mp hstep
    cases hstep
    intro g hg
    rcases List.mem_cons.mp hg with rfl | hg
    · unfold givenValue at hv
      split at hv
      · exact finite_identity hv
      · cases hv
        exact Column.finite_literalValue now c l
    · exact hgiven g hg
  · cases hstep
    exact hgiven

/-- A row that is built holds identities, given literals and fill values. -/
theorem finite_buildRow {targets : List Nat} {literals : List Literal} {row : Row}
    (h : t.buildRow now targets literals = .ok row) : ∀ v ∈ row, v.Finite := by
  obtain ⟨given, hgiven, h⟩ := bind_eq_ok.mp h
  intro v hv
  obtain ⟨⟨c, i⟩, -, hv⟩ := mem_of_mapM h hv
  dsimp only at hv
  split at hv
  · rename_i w hw
    cases hv
    obtain ⟨before, after, he, -⟩ := List.lookup_eq_some_iff.mp hw
    exact finite_givenValues hgiven (i, v) (by simp [he])
  · unfold missingValue at hv
    split at hv
    · exact finite_identity hv
    · cases hv
      exact Column.finite_fillValue now c

/-- What every row that is stored keeps of a table, an INSERT keeps. -/
theorem insert_keeps {P : Table → Prop} {s : Insert}
    (hrow : ∀ u u' targets literals row, P u → u.buildRow now targets literals = .ok row → u.pushRow row = .ok u' → P u')
    (h : P t) : P (t.insert now s).1 := by
  have hrows : ∀ targets t rows, P t → P (insertRows now targets t rows).1 := by
    intro targets t rows
    induction rows generalizing t with
    | nil => exact id
    | cons literals rows ih =>
      intro h
      unfold insertRows
      split
      · exact h
      · rename_i t' ht
        obtain ⟨row, hbuild, hpush⟩ := bind_eq_ok.mp ht
        exact ih t' (hrow t t' targets literals row h hbuild hpush)
  unfold insert
  split
  · exact h
  · split
    · exact h
    · exact hrows _ t s.rows h

theorem keeps_insert (s : Insert) : t.Keeps (t.insert now s).1 := by
  refine insert_keeps (P := fun u => t.Keeps u) ?_ (.refl t)
  intro u u' targets literals row h hbuild hpush
  exact h.trans ⟨name_pushRow hpush, fun h => h.pushRow hpush, fun h => h.pushRow (finite_buildRow hbuild) hpush⟩

theorem length_assign (row : Row) (values : List (Nat × Value)) : (assign row values).length = row.length := by
  unfold assign
  induction values generalizing row with
  | nil => rfl
  | cons v values ih => rw [List.foldl_cons, ih, List.length_set]

theorem finite_assignedValues {assignments : List Assignment} {values : List (Nat × Value)}
    (h : t.assignedValues now assignments = .ok values) : ∀ v ∈ values, v.2.Finite := by
  intro v hv
  obtain ⟨a, -, ha⟩ := mem_of_mapM h hv
  obtain ⟨i, -, ha⟩ := bind_eq_ok.mp ha
  cases ha
  cases t.columns[i]? with
  | none => trivial
  | some c => exact Column.finite_literalValue now c a.value

theorem finite_assign {row : Row} {values : List (Nat × Value)} (hr : ∀ v ∈ row, v.Finite)
    (hv : ∀ v ∈ values, v.2.Finite) : ∀ v ∈ assign row values, v.Finite := by
  unfold assign
  induction values generalizing row with
  | nil => exact hr
  | cons v values ih =>
    rw [List.foldl_cons]
    refine ih (fun w hw => ?_) fun w hw => hv w (List.mem_cons_of_mem _ hw)
    rcases List.mem_or_eq_of_mem_set hw with hw | rfl
    · exact hr w hw
    · exact hv v List.mem_cons_self

theorem keeps_update [RegexCompiler] {s : Update} {t' : Table} {result : QueryResult}
    (h : t.update now s = .ok (t', result)) : t.Keeps t' := by
  obtain ⟨values, hvalues, h⟩ := bind_eq_ok.mp h
  obtain ⟨holds, -, h⟩ := bind_eq_ok.mp h
  cases h
  exact ⟨rfl, fun h => h.updateWhere _ fun row => length_assign row values,
    fun h => h.updateWhere _ fun row hr => finite_assign hr (finite_assignedValues hvalues)⟩

theorem keeps_delete [RegexCompiler] {s : Delete} {t' : Table} {result : QueryResult}
    (h : t.delete now s = .ok (t', result)) : t.Keeps t' := by
  obtain ⟨holds, -, h⟩ := bind_eq_ok.mp h
  cases h
  exact ⟨rfl, fun h => h.deleteWhere _, fun h => h.deleteWhere _⟩

end Table

/-! ## Statements on a database -/

/-- What every statement on a database keeps of it. -/
structure Database.Keeps (db db' : Database) : Prop where
  name : db'.name = db.name
  sound : db.Sound → db'.Sound
  storable : db.Storable → db'.Storable

/-- What a statement has to say for a table that it creates to be sound and storable. -/
def Statement.Defined : Statement → Prop
  | .createTable s =>
    s.columns ≠ [] ∧ DistinctNames (s.columns.map (·.name)) ∧ ∀ c ∈ s.columns, c.Storable
  | _ => True

namespace Database

variable {db db' : Database} {now : Instant} {result : QueryResult}

theorem Keeps.refl (db : Database) : db.Keeps db :=
  ⟨rfl, id, id⟩

theorem Keeps.trans {db'' : Database} (h : db.Keeps db') (h' : db'.Keeps db'') : db.Keeps db'' :=
  ⟨h'.name.trans h.name, h'.sound ∘ h.sound, h'.storable ∘ h.storable⟩

theorem name_modifyTable (db : Database) (name : String) (change : Table → Table) :
    (db.modifyTable name change).name = db.name := by
  rcases modifyTable_cases db name with ⟨_, _, _, -, -, -, hm⟩ | ⟨-, hm⟩ <;> rw [hm]

theorem keeps_modifyTable {name : String} {change : Table → Table}
    (hc : ∀ t, db.table? name = some t → t.Keeps (change t)) : db.Keeps (db.modifyTable name change) := by
  refine ⟨name_modifyTable db name change, fun h => h.modifyTable fun t ht => ?_,
    fun h => h.modifyTable fun t ht => (hc t ht).storable (h.tables t (mem_of_table? ht))⟩
  exact ⟨(hc t ht).sound (h.tables t (mem_of_table? ht)), (hc t ht).name⟩

/-- Putting back a table that was changed on its own. -/
theorem keeps_replaceTable {name : String} {t t' : Table} (ht : db.requireTable name = .ok t) (h : t.Keeps t') :
    db.Keeps (db.modifyTable name fun _ => t') := by
  refine keeps_modifyTable fun u hu => ?_
  rw [mem_of_requireTable ht] at hu
  cases hu
  exact h

theorem keeps_settle {outcome : Except Fault (Database × QueryResult)}
    (h : ∀ db' result, outcome = .ok (db', result) → db.Keeps db') : db.Keeps (db.settle outcome).1 := by
  unfold settle
  split
  · exact h _ _ rfl
  · exact .refl db

theorem name_addTable {t : Table} (h : db.addTable t = .ok db') : db'.name = db.name := by
  unfold addTable at h
  split at h
  · cases h
  · cases h
    rfl

theorem name_createTable {s : CreateTable} (h : db.createTable s = .ok (db', result)) : db'.name = db.name := by
  unfold createTable at h
  split at h
  · split at h
    · cases h
      rfl
    · cases h
  · obtain ⟨db'', hadd, h⟩ := bind_eq_ok.mp h
    cases h
    exact name_addTable hadd

theorem keeps_createTable {s : CreateTable} (hd : (Statement.createTable s).Defined)
    (h : db.createTable s = .ok (db', result)) : db.Keeps db' := by
  unfold createTable at h
  split at h
  · split at h
    · cases h
      exact .refl db
    · cases h
  · obtain ⟨db'', hadd, h⟩ := bind_eq_ok.mp h
    cases h
    obtain ⟨hne, hnames, hcolumns⟩ := hd
    refine ⟨name_addTable hadd, fun hs => hs.addTable ?_ hadd, fun hs => hs.addTable ?_ hadd⟩
    · exact ⟨hne, hnames, by simp, .nil⟩
    · exact ⟨hcolumns, by simp⟩

theorem keeps_removeTable {table : String} {ifExists : Bool}
    (h : db.removeTable table ifExists = .ok (db', result)) : db.Keeps db' := by
  unfold removeTable at h
  split at h
  · cases h
    exact .refl db
  · obtain ⟨⟨db'', t⟩, hdrop, h⟩ := bind_eq_ok.mp h
    cases h
    refine ⟨?_, fun hs => hs.dropTable hdrop, fun hs => hs.dropTable hdrop⟩
    unfold dropTable at hdrop
    split at hdrop
    · split at hdrop
      · cases hdrop
        rfl
      · cases hdrop
    · cases hdrop

theorem keeps_truncateTable {table : String} (h : db.truncateTable table = .ok (db', result)) : db.Keeps db' := by
  obtain ⟨t, ht, h⟩ := bind_eq_ok.mp h
  cases h
  exact keeps_replaceTable ht ⟨rfl, Table.Sound.truncate, Table.Storable.truncate⟩

theorem keeps_createIndex {s : CreateIndex} (h : db.createIndex s = .ok (db', result)) : db.Keeps db' := by
  obtain ⟨t, ht, h⟩ := bind_eq_ok.mp h
  obtain ⟨-, -, h⟩ := bind_eq_ok.mp h
  cases h
  refine keeps_modifyTable fun u hu => ⟨rfl, fun hs => hs.withIndexes ?_, fun hs => hs.withIndexes _⟩
  rw [mem_of_requireTable ht] at hu
  cases hu
  split
  · exact hs.indexes
  · rename_i hn
    exact hs.indexes.concat (by simpa using hn)

theorem keeps_withoutIndex (db : Database) (index : String) (names : List String) :
    db.Keeps (names.foldl
      (fun db name => db.modifyTable name fun t =>
        { t with indexes := t.indexes.filter fun i => !Text.sameName i index }) db) := by
  induction names generalizing db with
  | nil => exact .refl db
  | cons name names ih =>
    rw [List.foldl_cons]
    refine Keeps.trans ?_ (ih _)
    refine keeps_modifyTable fun t _ => ⟨rfl, fun hs => ?_, fun hs => hs.withIndexes _⟩
    exact hs.withIndexes (hs.indexes.sublist List.filter_sublist)

theorem keeps_dropIndex {index : String} {table : Option String}
    (h : db.dropIndex index table = .ok (db', result)) : db.Keeps db' := by
  unfold dropIndex at h
  cases table with
  | none =>
    cases h
    exact keeps_withoutIndex db index _
  | some name =>
    obtain ⟨t, -, h⟩ := bind_eq_ok.mp h
    cases h
    exact keeps_withoutIndex db index _

theorem keeps_insertInto (s : Insert) : db.Keeps (db.insertInto now s).1 := by
  unfold insertInto
  split
  · exact .refl db
  · rename_i t ht
    exact keeps_replaceTable ht (Table.keeps_insert s)

section

variable [RegexCompiler]

theorem keeps_updateIn {s : Update} (h : db.updateIn now s = .ok (db', result)) : db.Keeps db' := by
  obtain ⟨t, ht, h⟩ := bind_eq_ok.mp h
  obtain ⟨⟨t', r⟩, hu, h⟩ := bind_eq_ok.mp h
  cases h
  exact keeps_replaceTable ht (Table.keeps_update hu)

theorem keeps_deleteFrom {s : Delete} (h : db.deleteFrom now s = .ok (db', result)) : db.Keeps db' := by
  obtain ⟨t, ht, h⟩ := bind_eq_ok.mp h
  obtain ⟨⟨t', r⟩, hd, h⟩ := bind_eq_ok.mp h
  cases h
  exact keeps_replaceTable ht (Table.keeps_delete hd)

/-- A statement keeps its database's name and what holds of it, also where it fails. -/
theorem keeps_run (db : Database) (now : Instant) {s : Statement} (hs : s.Defined) :
    db.Keeps (db.run now s).1 := by
  cases s with
  | insert s => exact keeps_insertInto s
  | update s => exact keeps_settle fun _ _ => keeps_updateIn
  | delete s => exact keeps_settle fun _ _ => keeps_deleteFrom
  | createTable s => exact keeps_settle fun _ _ => keeps_createTable hs
  | dropTable table ifExists => exact keeps_settle fun _ _ => keeps_removeTable
  | truncateTable table => exact keeps_settle fun _ _ => keeps_truncateTable
  | createIndex s => exact keeps_settle fun _ _ => keeps_createIndex
  | dropIndex index table => exact keeps_settle fun _ _ => keeps_dropIndex
  | _ => exact .refl db

/-- No statement renames the database it runs in. -/
theorem name_run (db : Database) (now : Instant) (s : Statement) : (db.run now s).1.name = db.name := by
  cases s with
  | createTable s =>
    cases h : db.createTable s with
    | error e => simp [run, h, settle]
    | ok r =>
      simp only [run, h, settle]
      exact name_createTable h
  | _ => exact Keeps.name (keeps_run db now (by trivial))

end

end Database

/-! ## Statements on a catalog -/

namespace Catalog

variable [RegexCompiler] {c c' : Catalog} {now : Instant} {result : QueryResult}

/-- What the operations on databases keep of a catalog, and what running in a database that
    is named keeps of it, every statement keeps. -/
theorem run_keeps {I : Catalog → Prop} {database : String} {s : Statement} (h : I c)
    (hcreate : ∀ name c', c.createDatabase name now = .ok c' → I c')
    (hdrop : ∀ name c' db, c.dropDatabase name = .ok (c', db) → I c')
    (huse : ∀ name c', c.useDatabase name = .ok c' → I c')
    (hin : (Text.trim database).isEmpty = false → I (c.runIn now database s).1) : I (c.run now database s).1 := by
  have hsettle : ∀ outcome, (∀ c' result, outcome = .ok (c', result) → I c') → I (c.settle outcome).1 := by
    intro outcome ho
    unfold Catalog.settle
    split
    · exact ho _ _ rfl
    · exact h
  have hin : I ((if (Text.trim database).isEmpty then (c, .error .noDatabaseSelected)
      else c.runIn now database s) : Catalog × Except Fault QueryResult).1 := by
    split
    · exact h
    · rename_i hname
      exact hin (by simpa using hname)
  cases s with
  | createDatabase name ifNotExists =>
    refine hsettle _ fun c' result hc => ?_
    unfold addDatabase at hc
    split at hc
    · cases hc
      exact h
    · obtain ⟨c'', hc', hc⟩ := bind_eq_ok.mp hc
      cases hc
      exact hcreate name _ hc'
  | dropDatabase name ifExists =>
    refine hsettle _ fun c' result hc => ?_
    unfold removeDatabase at hc
    split at hc
    · cases hc
      exact h
    · obtain ⟨⟨c'', db⟩, hc', hc⟩ := bind_eq_ok.mp hc
      cases hc
      exact hdrop name _ db hc'
  | «use» name =>
    refine hsettle _ fun c' result hc => ?_
    obtain ⟨c'', hc', hc⟩ := bind_eq_ok.mp hc
    cases hc
    exact huse name _ hc'
  | showDatabases | begin | commit | rollback => exact h
  | _ => exact hin

theorem Sound.runIn (h : c.Sound) (now : Instant) (database : String) {s : Statement} (hs : s.Defined) :
    (c.runIn now database s).1.Sound := by
  obtain ⟨hc, hdb, hk⟩ := h.databaseOrCreate database now
  have hkeeps := Database.keeps_run (c.databaseOrCreate database now).2 now hs
  exact hc.put (hkeeps.sound hdb) (hk.trans (congrArg key hkeeps.name.symm))

/-- A statement keeps its catalog sound, also where it fails. -/
theorem Sound.run (h : c.Sound) (now : Instant) (database : String) {s : Statement} (hs : s.Defined) :
    (c.run now database s).1.Sound :=
  run_keeps h (fun _ _ => h.createDatabase) (fun _ _ _ => h.dropDatabase) (fun _ _ => h.useDatabase)
    (fun _ => h.runIn now database hs)

/-- And storable, while the clock shows dates in range. -/
theorem Storable.run (h : c.Storable) (hn : now.Valid) (database : String) {s : Statement} (hs : s.Defined) :
    (c.run now database s).1.Storable := by
  obtain ⟨hc, hdb⟩ := h.databaseOrCreate hn database
  have hkeeps := Database.keeps_run (c.databaseOrCreate database now).2 now hs
  exact run_keeps h (fun _ _ => h.createDatabase hn) (fun _ _ _ => h.dropDatabase) (fun _ _ => h.useDatabase)
    (fun _ => hc.put (hkeeps.storable hdb) _)

end Catalog

end PocketSql
