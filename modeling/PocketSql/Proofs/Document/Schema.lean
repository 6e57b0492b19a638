/-
  PocketSql.Proofs.Document.Schema — a catalog comes back from its two documents.

  Every part of a catalog that documents can hold is read as it was written: values and
  columns, tables, databases in their order. What no document promises is that the digits
  of a float lead back to it, since the reader rounds more than once, and that a version
  has 64 bits; so these are asked for (`Exact`). The selected database comes back if it is
  there (`ofTexts_eq`).
-/

import PocketSql.Document.Schema
import PocketSql.Proofs.Document.Record
import PocketSql.Proofs.Schema.Storable

namespace PocketSql

open Json

/-! ## Instants and values -/

theorem Instant.Valid.ofJson?_toJson {i : Instant} (h : i.Valid) : Instant.ofJson? i.toJson = some i := by
  rw [Instant.ofJson?, Instant.toJson, asText?_ofString, Option.bind_some, h.ofText?_text]

/-- Whether the digits of a float lead back to it. -/
def Binary64.Exact (x : Binary64) : Prop :=
  asFloat? (.number x.documentText) = some x

namespace Value

def Exact : Value → Prop
  | float x => x.Exact
  | _ => True

instance : DecidablePred Exact
  | float x => inferInstanceAs (Decidable (asFloat? (.number x.documentText) = some x))
  | null | boolean _ | integer _ | text _ => .isTrue trivial

theorem ofJson?_toJson {v : Value} (hf : v.Finite) (hx : v.Exact) :
    ofJson? v.toJson = some v := by
  cases v with
  | null | boolean b => rfl
  | text s => rfl
  | integer i => rw [toJson, ofJson?, asInt64?_toString]
  | float x =>
    have hfinite : x.isFinite = true := hf
    have hexact : asFloat? (.number x.documentText) = some x := hx
    simp [toJson, Binary64.toJson, hfinite, ofJson?, Binary64.asInt64?_documentText hfinite, hexact]

theorem readable_toJson (v : Value) : Readable v.toJson := by
  cases v with
  | null => exact .null
  | boolean b => exact .bool b
  | text s => exact .text s
  | integer i => exact .number (numberText_toString_int _)
  | float x =>
    unfold toJson Binary64.toJson
    dsimp only
    split
    · rename_i hf
      exact .number (Binary64.numberText_documentText hf)
    · exact .null

end Value

/-! ## Columns and tables -/

namespace ColumnDefault

theorem ofJson?_toJson (d : ColumnDefault) : ofJson? d.toJson = some d := by
  cases d <;> rfl

theorem readable_toJson (d : ColumnDefault) : Readable d.toJson := by
  cases d with
  | null | currentTimestamp => exact .ofFields (List.forall_mem_singleton.mpr (Readable.text _).there)
  | literal raw =>
    exact .ofFields (List.forall_mem_cons.mpr ⟨(Readable.text _).there,
      List.forall_mem_singleton.mpr (Readable.text _).there⟩)

end ColumnDefault

namespace Reference

theorem ofJson?_toJson (r : Reference) : ofJson? r.toJson = some r := by
  obtain ⟨record, hr, hl⟩ :=
    exists_record (by decide : ["table", "column"].Nodup) (show r.toJson = ofFields _ from rfl) rfl 2
  have htable : record.get? "table" asText? = some r.table := get?_eq (hl _) rfl
  have hcolumn : record.getD? "column" none (asOption? asText?) = some r.column := by
    refine getD?_eq (hl _) ?_
    cases r.column <;> rfl
  simp [ofJson?, hr, htable, hcolumn]

theorem readable_toJson (r : Reference) : Readable r.toJson := by
  refine .ofFields (List.forall_mem_cons.mpr ⟨(Readable.text _).there, List.forall_mem_singleton.mpr ?_⟩)
  cases r.column with
  | none => exact Readable.null.there
  | some name => exact (Readable.text name).there

end Reference

namespace Column

theorem ofJson?_toJson {c : Column} (h : c.Storable) : ofJson? c.toJson = some c := by
  obtain ⟨r, hr, hl⟩ := exists_record (by decide : fieldNames.Nodup) (show c.toJson = ofFields _ from rfl) rfl 8
  have hname : r.get? "name" asText? = some c.name := get?_eq (hl _) rfl
  have htype : r.get? "type" (asWord? ColumnType.ofExactName?) = some c.type := by
    refine get?_eq (hl _) ?_
    cases c.type <;> rfl
  have hlength : r.getD? "length" none (asOption? (asNat? UInt32.size)) = some c.length :=
    getD?_option (hl _) fun n hn => ⟨by simp [ofNat], asNat?_ofNat (h.length n hn)⟩
  have hscale : r.getD? "scale" none (asOption? (asNat? UInt32.size)) = some c.scale :=
    getD?_option (hl _) fun n hn => ⟨by simp [ofNat], asNat?_ofNat (h.scale n hn)⟩
  have hnullable : r.get? "nullable" asBool? = some c.nullable := get?_eq (hl _) rfl
  have hprimary : r.get? "primaryKey" asBool? = some c.primaryKey := get?_eq (hl _) rfl
  have hauto : r.get? "autoIncrement" asBool? = some c.autoIncrement := get?_eq (hl _) rfl
  have hunique : r.get? "unique" asBool? = some c.unique := get?_eq (hl _) rfl
  have hdefault : r.getD? "defaultValue" none (asOption? ColumnDefault.ofJson?) = some c.default :=
    getD?_option (hl _) fun d _ => ⟨by cases d <;> simp [ColumnDefault.toJson, ofFields], d.ofJson?_toJson⟩
  have hreferences : r.getD? "foreignKey" none (asOption? Reference.ofJson?) = some c.references :=
    getD?_option (hl _) fun s _ => ⟨by simp [Reference.toJson, ofFields], s.ofJson?_toJson⟩
  have hmembers : r.getD? "members" [] (asList? asText?) = some c.members := by
    have hfield : r.lookup "members" = if c.members.isEmpty then none else some (array (c.members.map .ofString)) :=
      hl _
    split at hfield
    · rename_i hempty
      rw [Record.getD?, hfield, List.isEmpty_iff.mp hempty]
    · exact getD?_eq hfield (asList?_array fun s _ => asText?_ofString s)
  simp [ofJson?, hr, hname, htype, hlength, hscale, hnullable, hprimary, hauto, hunique, hdefault, hreferences,
    hmembers]

theorem readable_toJson (c : Column) : Readable c.toJson := by
  have hmembers : ∀ j ∈ if c.members.isEmpty then none else some (array (c.members.map .ofString)), Readable j := by
    split
    · simp
    · exact (Readable.list Readable.text c.members).there
  refine .ofFields ?_
  simp only [List.forall_mem_cons, List.not_mem_nil, false_imp_iff, implies_true, and_true]
  exact ⟨(Readable.text _).there, (Readable.text _).there, .optional .ofNat _, .optional .ofNat _,
    (Readable.bool _).there, (Readable.bool _).there, (Readable.bool _).there, (Readable.bool _).there,
    .optional ColumnDefault.readable_toJson _, .optional Reference.readable_toJson _, hmembers⟩

end Column

namespace Constraint

theorem ofJson?_toJson (c : Constraint) : ofJson? c.toJson = some c := by
  obtain ⟨r, hr, hl⟩ :=
    exists_record (by decide : ["kind", "definition"].Nodup) (show c.toJson = ofFields _ from rfl) rfl 2
  have hkind : r.get? "kind" (asWord? ConstraintKind.ofName?) = some c.kind := by
    refine get?_eq (hl _) ?_
    cases c.kind <;> rfl
  have hdefinition : r.get? "definition" asText? = some c.definition := get?_eq (hl _) rfl
  simp [ofJson?, hr, hkind, hdefinition]

theorem readable_toJson (c : Constraint) : Readable c.toJson :=
  .ofFields (List.forall_mem_cons.mpr ⟨(Readable.text _).there,
    List.forall_mem_singleton.mpr (Readable.text _).there⟩)

end Constraint

/-- Whether every float in the table comes back from its digits. -/
def Table.Exact (t : Table) : Prop :=
  ∀ row ∈ t.rows, ∀ v ∈ row, v.Exact

namespace Table

instance (t : Table) : Decidable t.Exact :=
  inferInstanceAs (Decidable (∀ row ∈ t.rows, ∀ v ∈ row, v.Exact))

theorem ofJson?_toJson {t : Table} (h : t.Storable) (hx : t.Exact) : ofJson? t.toJson = some t := by
  obtain ⟨r, hr, hl⟩ := exists_record (by decide : fieldNames.Nodup) (show t.toJson = ofFields _ from rfl) rfl 3
  have hname : r.get? "name" asText? = some t.name := get?_eq (hl _) rfl
  have hcolumns : r.get? "columns" (asList? Column.ofJson?) = some t.columns :=
    get?_eq (hl _) (asList?_array fun c hc => Column.ofJson?_toJson (h.columns c hc))
  have hrows : r.get? "rows" (asList? (asList? Value.ofJson?)) = some t.rows := by
    refine get?_eq (hl _) (asList?_array fun row hrow => asList?_array fun v hv => ?_)
    exact Value.ofJson?_toJson (h.cells row hrow v hv) (hx row hrow v hv)
  have hindexes : ∀ default, r.getD? "indexes" default (asList? asText?) = some t.indexes := fun _ =>
    getD?_eq (hl _) (asList?_array fun s _ => asText?_ofString s)
  have hconstraints : ∀ default, r.getD? "constraints" default (asList? Constraint.ofJson?) = some t.constraints :=
    fun _ => getD?_eq (hl _) (asList?_array fun c _ => c.ofJson?_toJson)
  have hengine : ∀ default, r.getD? "engine" default asText? = some t.engine := fun _ => getD?_eq (hl _) rfl
  have hcharset : ∀ default, r.getD? "charset" default asText? = some t.charset := fun _ => getD?_eq (hl _) rfl
  simp [ofJson?, hr, hname, hcolumns, hrows, hindexes, hconstraints, hengine, hcharset]

theorem readable_toJson (t : Table) : Readable t.toJson := by
  refine .ofFields ?_
  simp only [List.forall_mem_cons, List.not_mem_nil, false_imp_iff, implies_true, and_true]
  exact ⟨(Readable.text _).there, (Readable.list Column.readable_toJson _).there,
    (Readable.list (fun row => .list Value.readable_toJson row) _).there, (Readable.list Readable.text _).there,
    (Readable.list Constraint.readable_toJson _).there, (Readable.text _).there, (Readable.text _).there⟩

end Table

/-! ## Databases -/

/-- Whether every float comes back from its digits, and the version has 64 bits. -/
structure Database.Exact (db : Database) : Prop where
  version : db.version < UInt64.size
  tables : ∀ t ∈ db.tables, t.Exact

namespace Database

instance (db : Database) : Decidable db.Exact :=
  decidable_of_iff (db.version < UInt64.size ∧ ∀ t ∈ db.tables, t.Exact)
    ⟨fun h => ⟨h.1, h.2⟩, fun h => ⟨h.version, h.tables⟩⟩

theorem ofJson?_toJson {db : Database} (h : db.Storable) (hx : db.Exact) : ofJson? db.toJson = some db := by
  obtain ⟨r, hr, hl⟩ := exists_record (by decide : fieldNames.Nodup) (show db.toJson = ofFields _ from rfl) rfl 5
  have hname : r.get? "name" asText? = some db.name := get?_eq (hl _) rfl
  have htables : r.get? "tables" (asList? Table.ofJson?) = some db.tables :=
    get?_eq (hl _) (asList?_array fun t ht => Table.ofJson?_toJson (h.tables t ht) (hx.tables t ht))
  have hcreated : r.get? "createdAt" Instant.ofJson? = some db.createdAt :=
    get?_eq (hl _) h.createdAt.ofJson?_toJson
  have hmodified : r.get? "lastModified" Instant.ofJson? = some db.lastModified :=
    get?_eq (hl _) h.lastModified.ofJson?_toJson
  have hversion : r.get? "version" (asNat? UInt64.size) = some db.version :=
    get?_eq (hl _) (asNat?_ofNat hx.version)
  have hdescription : r.getD? "description" none (asOption? asText?) = some db.description :=
    getD?_option (hl _) fun s _ => ⟨by simp [ofString], asText?_ofString s⟩
  simp [ofJson?, hr, hname, htables, hcreated, hmodified, hversion, hdescription]

theorem readable_toJson (db : Database) : Readable db.toJson := by
  refine .ofFields ?_
  simp only [List.forall_mem_cons, List.not_mem_nil, false_imp_iff, implies_true, and_true]
  exact ⟨(Readable.text _).there, (Readable.list Table.readable_toJson _).there, (Readable.text _).there,
    (Readable.text _).there, (Readable.ofNat _).there, .optional .text _⟩

end Database

/-! ## Catalogs -/

def Catalog.Exact (c : Catalog) : Prop :=
  ∀ e ∈ c.entries, e.2.Exact

instance (c : Catalog) : Decidable c.Exact :=
  inferInstanceAs (Decidable (∀ e ∈ c.entries, e.2.Exact))

theorem Table.Sound.validate {t : Table} (h : t.Sound) : t.validate = .ok () := by
  have hfit : t.rows.findIdx? (fun row => !t.fits row) = none := by
    rw [List.findIdx?_eq_none_iff]
    intro row hrow
    simp [fits, h.rows row hrow]
  simp [Table.validate, hfit]

theorem Database.Sound.validate {db : Database} (h : db.Sound) : db.validate = .ok () := by
  have hall : ∀ ts : List Table, (∀ t ∈ ts, t.Sound) → ts.forM Table.validate = .ok () := by
    intro ts hts
    induction ts with
    | nil => rfl
    | cons t ts ih =>
      exact bind_eq_ok.mpr ⟨(), (hts t List.mem_cons_self).validate, ih fun t ht => hts t (List.mem_cons_of_mem _ ht)⟩
  exact hall db.tables h.tables

namespace Catalog

variable {c : Catalog}

/-- Databases that are read are kept one after the other, each under its key. -/
theorem foldlM_keep {c : Catalog} {entries : List (String × Database)}
    (hkeyed : ∀ e ∈ entries, e.1 = key e.2.name) (hsound : ∀ e ∈ entries, e.2.Sound)
    (hkeys : ((c.entries ++ entries).map (·.1)).Nodup) :
    (entries.map (·.2)).foldlM keep c = .ok { c with entries := c.entries ++ entries } := by
  induction entries generalizing c with
  | nil =>
    rw [List.append_nil]
    rfl
  | cons e entries ih =>
    obtain ⟨k, db⟩ := e
    have hk : k = key db.name := hkeyed _ List.mem_cons_self
    have hnew : k ∉ c.entries.map (·.1) := by
      intro hmem
      rw [List.map_append, List.nodup_append] at hkeys
      exact hkeys.2.2 k hmem k (by simp) rfl
    have hkeep : keep c db = .ok { c with entries := c.entries ++ [(k, db)] } := by
      rw [keep, (hsound _ List.mem_cons_self : db.Sound).validate, ← hk, put_of_not_mem hnew]
      rfl
    rw [List.map_cons, List.foldlM_cons, hkeep]
    refine (ih (fun e he => hkeyed e (List.mem_cons_of_mem _ he)) (fun e he => hsound e (List.mem_cons_of_mem _ he))
      (by simpa using hkeys)).trans ?_
    simp

/-- The document of all databases is the array of theirs. -/
theorem ofText?_databasesText (c : Catalog) : ofText? c.databasesText = some (.array (c.databases.map (·.toJson))) :=
  (Readable.list Database.readable_toJson _).ofText?_render

theorem decode_databasesText (h : c.Storable) (hx : c.Exact) :
    Json.decode (asList? Database.ofJson?) c.databasesText = .ok c.databases := by
  have hread : asList? Database.ofJson? (.array (c.databases.map (·.toJson))) = some c.databases := by
    refine asList?_array fun db hdb => ?_
    obtain ⟨e, he, rfl⟩ := List.mem_map.mp hdb
    exact Database.ofJson?_toJson (h e he) (hx e he)
  rw [Json.decode, ofText?_databasesText, Option.bind_some, hread]

theorem decode_currentText (c : Catalog) : Json.decode (asOption? asText?) c.currentText = .ok c.current := by
  unfold Json.decode currentText
  cases c.current with
  | none => rw [show ofOption (Option.map ofString none) = null from rfl, Readable.null.ofText?_render]; rfl
  | some name =>
    rw [show ofOption (Option.map ofString (some name)) = ofString name from rfl, (Readable.text name).ofText?_render]
    rfl

/-- A document that was never written stands for no databases. -/
theorem ofTexts_databases {databases : Option String} (hs : c.Sound) (h : c.Storable) (hx : c.Exact)
    (hd : databases = some c.databasesText ∨ databases = none ∧ c.entries = []) :
    ofTexts databases none = .ok { entries := c.entries } := by
  rcases hd with rfl | ⟨rfl, he⟩
  · refine bind_eq_ok.mpr ⟨_, decode_databasesText h hx, bind_eq_ok.mpr ⟨_, ?_, rfl⟩⟩
    exact foldlM_keep hs.keyed hs.databases (by simpa using hs.keys)
  · rw [he]
    rfl

theorem ofTexts_current {databases : Option String} (h : ofTexts databases none = .ok c) (s : String) :
    ofTexts databases (some s) =
      (Json.decode (asOption? asText?) s).map fun name => { c with current := name.filter c.hasDatabase } := by
  have hselect : ∀ c : Catalog, (do
      let name ← Json.decode (asOption? asText?) s
      return { c with current := name.filter c.hasDatabase } : Except Fault Catalog) =
      (Json.decode (asOption? asText?) s).map fun name => { c with current := name.filter c.hasDatabase } := by
    intro c
    cases Json.decode (asOption? asText?) s <;> rfl
  unfold ofTexts at h ⊢
  cases databases with
  | none =>
    cases h
    exact hselect {}
  | some text =>
    obtain ⟨list, hlist, h⟩ := bind_eq_ok.mp h
    obtain ⟨c', hkeep, h⟩ := bind_eq_ok.mp h
    cases h
    dsimp only
    rw [hlist]
    show (list.foldlM keep {} >>= fun c => do
      let name ← Json.decode (asOption? asText?) s
      return { c with current := name.filter c.hasDatabase }) = _
    rw [hkeep]
    exact hselect c

/-- What keeping a database under the key of its name keeps, all databases that are read have. -/
theorem ofTexts_keeps {I : List (String × Database) → Prop} (hempty : I [])
    (hput : ∀ (c : Catalog) db, I c.entries → I (c.put (key db.name) db).entries) {databases current : Option String}
    (h : ofTexts databases current = .ok c) : I c.entries := by
  have hkeep : ∀ (list : List Database) c', list.foldlM keep {} = .ok c' → I c'.entries := by
    intro list c' hlist
    have hstep : ∀ db ∈ list, ∀ c c', I c.entries → keep c db = .ok c' → I c'.entries := by
      intro db _ c c' hi hkeep
      obtain ⟨-, -, hkeep⟩ := bind_eq_ok.mp hkeep
      cases hkeep
      exact hput c db hi
    exact foldlM_keeps (P := fun c : Catalog => I c.entries) hstep hempty hlist
  cases databases with
  | none | some =>
    obtain ⟨list, -, h⟩ := bind_eq_ok.mp h
    obtain ⟨c', hkept, h⟩ := bind_eq_ok.mp h
    have hi := hkeep list c' hkept
    cases current with
    | none =>
      cases h
      exact hi
    | some s =>
      obtain ⟨name, -, h⟩ := bind_eq_ok.mp h
      cases h
      exact hi

/-- Databases that are read have different keys. -/
theorem nodup_ofTexts {databases current : Option String} (h : ofTexts databases current = .ok c) :
    (c.entries.map (·.1)).Nodup :=
  ofTexts_keeps (I := fun entries => (entries.map (·.1)).Nodup) List.nodup_nil (fun _ _ hn => nodup_put hn _ _) h

/-- What is read from two documents is the catalog that they were written for, where the
    selected database is only one that is there. -/
theorem ofTexts_eq {databases current : Option String} (hs : c.Sound) (h : c.Storable) (hx : c.Exact)
    (hd : databases = some c.databasesText ∨ databases = none ∧ c.entries = [])
    (hc : current = some c.currentText ∨ current = none ∧ c.current = none) :
    ofTexts databases current = .ok { c with current := c.current.filter c.hasDatabase } := by
  have hdatabases := ofTexts_databases hs h hx hd
  rcases hc with rfl | ⟨rfl, hnone⟩
  · rw [ofTexts_current hdatabases, decode_currentText]
    rfl
  · rw [hdatabases, hnone]
    rfl

end Catalog

end PocketSql
