/-
  PocketSql.Proofs.Engine.Quoted — strings in quotes go through statement texts unchanged.

  A text with the tokens of a written statement on rows is prepared, read and run as that
  statement, however it is laid out and whatever its strings and names are
  (`execute_of_isText`): nothing in a quoted run ends the run, the statement or a
  comment. So a string that an INSERT writes into a column of texts is the one that a
  query reads there, and one that a condition finds (`quoted_kept`).
-/

import PocketSql.Proofs.Engine.Run
import PocketSql.Proofs.Execute.Cell
import PocketSql.Proofs.Execute.Frame
import PocketSql.Proofs.Sql.Classified
import PocketSql.Proofs.Sql.Written

namespace PocketSql

open Sql (Piece)

/-! ## Texts of a statement -/

namespace Statement

/-- Whether a text has the tokens of a statement as it is written, and maybe semicolons
    behind them. -/
def IsText (s : Statement) (sql : String) : Prop :=
  ∃ n, Sql.lex sql = (Sql.lex s.written).map (· ++ List.replicate n (.symbol .semicolon))

variable {s : Statement} {sql : String}

theorem isText_written (s : Statement) : s.IsText s.written :=
  ⟨0, by cases Sql.lex s.written <;> simp [Except.map]⟩

theorem pieces_ne_nil (hs : s.isWritable = true) : s.pieces ≠ [] := by
  cases s with
  | select | insert | update | delete => exact List.cons_ne_nil _ _
  | _ => cases hs

/-- A text of a statement has a normal form, with just the statement's tokens. -/
theorem IsText.exists_normalize (h : s.IsText sql) (hs : s.isWritable = true) :
    ∃ n, Sql.normalize sql = .ok n ∧ Sql.lex n = .ok (s.pieces.map Piece.token) := by
  obtain ⟨k, hl⟩ := h
  have hpieces := Sql.isInStatement_of_mem_pieces hs
  rw [written, Sql.lex_spaced fun p hp => Piece.isWritable_of_isInStatement (hpieces p hp)] at hl
  obtain ⟨ls, hr, hls⟩ := Sql.exists_reads_of_scan (Sql.lex_eq_ok_iff.mp hl)
  have hsign : ∀ l ∈ ls, l.token.endsInSign = false := by
    intro l hlmem
    have hmem := List.mem_map_of_mem (f := (·.token)) hlmem
    rw [hls] at hmem
    rcases List.mem_append.mp hmem with hp | hsemi
    · obtain ⟨p, hp, hpt⟩ := List.mem_map.mp hp
      rw [← hpt]
      exact Piece.endsInSign_token (Piece.isWritable_of_isInStatement (hpieces p hp))
    · rw [(List.mem_replicate.mp hsemi).2]
      rfl
  -- the semicolons behind the statement fall away, and none of its own tokens does
  have hdrop : (ls.rdropWhile Sql.Lexeme.isSemicolon).map (·.token) = s.pieces.map Piece.token := by
    have hown : (s.pieces.map Piece.token).rdropWhile (· == .symbol .semicolon) = s.pieces.map Piece.token := by
      refine List.rdropWhile_eq_self_iff.mpr fun hne => ?_
      obtain ⟨p, hp, hpt⟩ := List.mem_map.mp (List.getLast_mem hne)
      rw [← hpt, beq_iff_eq]
      exact Piece.token_ne_semicolon (hpieces p hp)
    rw [Sql.map_rdropWhile_isSemicolon, hls, List.rdropWhile, List.reverse_append, List.reverse_replicate,
      List.dropWhile_append_of_pos (by simp)]
    exact hown
  have hne : (ls.rdropWhile Sql.Lexeme.isSemicolon).isEmpty = false := by
    rw [← List.isEmpty_map, hdrop, List.isEmpty_map, List.isEmpty_eq_false_iff]
    exact pieces_ne_nil hs
  refine ⟨_, by rw [hr.normalize_eq hsign, hne]; rfl, ?_⟩
  rw [Sql.lex_compact hr (List.rdropWhile_prefix _ _).isInfix, hdrop]

/-- A text of a statement on rows is prepared and read as that statement. -/
theorem IsText.exists_prepare (h : s.IsText sql) (hs : s.isWritable = true) :
    ∃ n, Engine.prepare sql = .ok (n, s.kind) ∧ Sql.parse n s.kind = .ok s := by
  obtain ⟨n, hn, hl⟩ := h.exists_normalize hs
  have hp := Sql.parse_of_lex hs hl
  have hk := Sql.classify_normalized hn hp
  exact ⟨n, bind_eq_ok.mpr ⟨n, hn, bind_eq_ok.mpr ⟨s.kind, hk, rfl⟩⟩, hp⟩

end Statement

/-! ## Statements on rows -/

namespace Catalog

variable {c : Catalog} {database : String} {db : Database}

/-- A statement on rows runs in the database that is named. -/
theorem run_of_isWritable [RegexCompiler] {s : Statement} (hs : s.isWritable = true)
    (hne : (Text.trim database).isEmpty = false) (h : c.database? database = some db) (now : Instant) :
    c.run now database s = (c.put (key database) (db.run now s).1, (db.run now s).2) := by
  cases s with
  | select | insert | update | delete => exact run_of_named rfl hne h
  | _ => cases hs

end Catalog

/-! ## Executing a text -/

namespace Engine

variable {σ : Type} [KeyValueStore σ] {e : Engine σ} {r : Reading} {database sql : String}

/-- The database that a statement on rows runs in, if it is there. -/
def database? (e : Engine σ) (requested : String) : Option Database :=
  let target := e.targetDatabase requested
  if (Text.trim target).isEmpty then none else e.catalog.database? target

/-- The table that a statement on rows finds under a name. -/
def table? (e : Engine σ) (requested name : String) : Option Table :=
  (e.database? requested).bind (·.table? name)

/-- What a statement did to its database is what the next one finds there. -/
theorem table?_of_succeeded {db' : Database} {kind : Sql.Kind} {result : QueryResult} {before : Nat} {text : String}
    {o : Outcome} (hne : (Text.trim (e.targetDatabase database)).isEmpty = false) (name : String) :
    ((({ e with catalog := e.catalog.put (Catalog.key (e.targetDatabase database)) db' }.afterSuccess r.now kind
      (e.targetDatabase database) result before).recordHistory r text o).table? database name) = db'.table? name := by
  generalize htarget : e.targetDatabase database = target at hne ⊢
  have hput := Catalog.database?_put e.catalog target db'
  have hcurrent := Catalog.current_put e.catalog (Catalog.key target) db'
  generalize e.catalog.put (Catalog.key target) db' = c at hput hcurrent ⊢
  have hcatalog := catalog_afterSuccess { e with catalog := c } r.now kind target result before
  have hconfig := config_afterSuccess { e with catalog := c } r.now kind target result before
  generalize Engine.afterSuccess { e with catalog := c } r.now kind target result before = e' at hcatalog hconfig ⊢
  -- counting the change keeps the tables, and neither it nor the history selects a database
  have hkept : e'.catalog.current = e.catalog.current ∧
      (e'.catalog.database? target).map (·.tables) = some db'.tables := by
    rw [hcatalog]
    split
    · rw [Catalog.current_modifyDatabase, Catalog.database?_modifyDatabase hput]
      exact ⟨hcurrent, rfl⟩
    · exact ⟨hcurrent, by rw [hput]; rfl⟩
  have htarget' : (e'.recordHistory r text o).targetDatabase database = target := by
    rw [← htarget]
    unfold targetDatabase
    rw [show (e'.recordHistory r text o).config = e.config from hconfig, catalog_recordHistory, hkept.1]
  obtain ⟨db'', hdb, htables⟩ := Option.map_eq_some_iff.mp hkept.2
  simp only [table?, database?, htarget', hne, Bool.false_eq_true, if_false, catalog_recordHistory, hdb,
    Option.bind_some, Database.table?, htables]

/-- A text of a statement on rows is run as that statement: what it does to the database
    is what the engine finds after it. -/
theorem execute_of_isText [RegexCompiler] {s : Statement} {db db' : Database} {result : QueryResult} (h : s.IsText sql)
    (hs : s.isWritable = true) (hdb : e.database? database = some db) (hrun : db.run r.now s = (db', .ok result)) :
    (e.execute r database sql).2 = .ofResult s.kind.text (e.targetDatabase database) result r.elapsed ∧
      ∀ name, (e.execute r database sql).1.table? database name = db'.table? name := by
  obtain ⟨n, hprepare, hparse⟩ := h.exists_prepare hs
  simp only [database?, Option.ite_none_left_eq_some, Bool.not_eq_true] at hdb
  obtain ⟨hne, hdb⟩ := hdb
  have hcatalog := Catalog.run_of_isWritable hs hne hdb r.now
  rw [hrun] at hcatalog
  let x : Execution σ := ⟨e, r, database, sql⟩
  cases x.does with
  | unrecognized hp => cases hprepare.symm.trans hp
  | unreadable hp hread =>
    cases hprepare.symm.trans hp
    cases hparse.symm.trans hread
  | failed hp hread hrun' =>
    cases hprepare.symm.trans hp
    cases hparse.symm.trans hread
    cases hcatalog.symm.trans hrun'
  | succeeded hp hread hrun' hafter houtcome =>
    cases hprepare.symm.trans hp
    cases hparse.symm.trans hread
    cases hcatalog.symm.trans hrun'
    refine ⟨houtcome, fun name => ?_⟩
    show x.after.table? database name = _
    rw [hafter]
    exact table?_of_succeeded hne name

/-! ## Strings stored and found -/

variable {table column v : String} {t : Table} {i : Nat} {c : Column}

theorem isWritable_ofString (table column v : String) :
    (Statement.insert (.ofString table column v)).isWritable = true := by
  simp [Statement.isWritable, Insert.isWritable, Insert.ofString, Literal.isWritable]

theorem isWritable_ofColumn (table column : String) {condition : Option Condition}
    (h : condition.all Condition.isWritable = true) :
    (Statement.select (.ofColumn table column condition)).isWritable = true := by
  simp [Statement.isWritable, Select.isWritable, Select.ofColumn, h]

/-- A query for a column gives one more row after a row was added, if its condition holds
    of that row. It leaves the table as it is. -/
theorem execute_ofColumn_concat [RegexCompiler] {e' : Engine σ} {row : Row} {condition : Option Condition}
    {p : Row → Bool}
    (ht : e.table? database table = some t)
    (ht' : e'.table? database table = some { t with rows := t.rows ++ [row] }) (hc : t.OnlyColumn column i c)
    (hcell : row[i]? = some (.text v)) (hp : t.filter r.now condition = .ok p) (hrow : p row = true)
    (hcondition : condition.all Condition.isWritable = true)
    (h : (Statement.select (.ofColumn table column condition)).IsText sql) :
    ((e'.execute r database sql).2.success = true ∧ ∃ rows, (e.execute r database sql).2.rows = some rows ∧
      (e'.execute r database sql).2.rows = some (rows ++ [[(c.name, .text v)]])) ∧
    (e'.execute r database sql).1.table? database table = some { t with rows := t.rows ++ [row] } := by
  obtain ⟨rows, hold, hnew⟩ := hc.select_ofColumn_concat hcell table hp hrow
  have hs := isWritable_ofColumn table column hcondition
  obtain ⟨db, hdb, htable⟩ := Option.bind_eq_some_iff.mp ht
  obtain ⟨db', hdb', htable'⟩ := Option.bind_eq_some_iff.mp ht'
  have hrun : db.run r.now (.select (.ofColumn table column condition)) = (db, .ok _) :=
    Database.run_select htable hold
  have hrun' : db'.run r.now (.select (.ofColumn table column condition)) = (db', .ok _) :=
    Database.run_select htable' hnew
  obtain ⟨hout, -⟩ := execute_of_isText h hs hdb hrun
  obtain ⟨hout', hfound⟩ := execute_of_isText h hs hdb' hrun'
  rw [hout, hout', hfound]
  exact ⟨⟨Outcome.success_ofResult _ _ _ _, rows, rfl, rfl⟩, htable'⟩

/-- A string that an INSERT gives to a column of texts, in quotes and with the quotes and
    backslashes in it doubled, adds one row. A query for the column gives that very string
    for the row, and so does one for the rows with that string. -/
theorem quoted_kept [RegexCompiler] {insertText selectText findText : String} (ht : e.table? database table = some t)
    (hc : t.OnlyColumn column i c) (hkeeps : c.type.keepsText = true) (hident : c.isIdentity = false)
    (hroom : t.HasRoom) (hinsert : (Statement.insert (.ofString table column v)).IsText insertText)
    (hselect : (Statement.select (.ofColumn table column none)).IsText selectText)
    (hfind : (Statement.select (.ofColumn table column (some (.isString column v)))).IsText findText)
    (r r' r'' : Reading) :
    let inserted := e.execute r database insertText
    let selected := inserted.1.execute r' database selectText
    let found := selected.1.execute r'' database findText
    (inserted.2.success = true ∧ inserted.2.affectedRows = some 1 ∧
      ∃ row, row[i]? = some (.text v) ∧
        inserted.1.table? database table = some { t with rows := t.rows ++ [row] }) ∧
    (selected.2.success = true ∧ ∃ rows, (e.execute r' database selectText).2.rows = some rows ∧
      selected.2.rows = some (rows ++ [[(c.name, .text v)]])) ∧
    (found.2.success = true ∧ ∃ rows, (e.execute r'' database findText).2.rows = some rows ∧
      found.2.rows = some (rows ++ [[(c.name, .text v)]])) := by
  intro inserted selected found
  obtain ⟨row, hrow, hcell⟩ := hc.exists_insert_ofString hkeeps hident hroom r.now table v
  obtain ⟨db, hdb, htable⟩ := Option.bind_eq_some_iff.mp ht
  have hrun : db.run r.now (.insert (.ofString table column v)) = (_, .ok _) := Database.run_insert htable hrow
  obtain ⟨hout, htables⟩ := execute_of_isText hinsert (isWritable_ofString table column v) hdb hrun
  have ht' : inserted.1.table? database table = some { t with rows := t.rows ++ [row] } :=
    (htables table).trans (Database.table?_modifyTable htable rfl)
  obtain ⟨hselected, ht''⟩ := execute_ofColumn_concat ht ht' hc hcell rfl rfl rfl hselect
  obtain ⟨p, hp, hpasses⟩ := hc.exists_filter_isString hcell
  obtain ⟨hfound, -⟩ := execute_ofColumn_concat ht ht'' hc hcell hp hpasses rfl hfind
  refine ⟨⟨?_, ?_, row, hcell, ht'⟩, hselected, hfound⟩
  · show (e.execute r database insertText).2.success = true
    rw [hout]
    exact Outcome.success_ofResult _ _ _ _
  · show (e.execute r database insertText).2.affectedRows = some 1
    rw [hout]
    rfl

/-- A string with quotes, a backslash, a semicolon and openings of comments, next to an
    identity column, in a text with comments of its own. -/
theorem quoted_kept_of_note :
    let v := "it's \\'; --\n/*"
    let t : Table :=
      { name := "notes"
        columns := [{ name := "id", type := .int, primaryKey := true, autoIncrement := true },
          { name := "body", type := .text }]
        rows := [[.integer 1, .text "first"]] }
    let e : Engine Memory :=
      { config := {}
        catalog := { entries := [("app", { Database.empty "app" default with tables := [t] })] }
        history := { capacity := 10 }
        store := {} }
    let find : Statement := .select (.ofColumn "notes" "body" (some (.isString "body" v)))
    let inserted := e.execute default "app"
      "insert /* ' */ into notes(\x60body\x60)\nvalues('it''s \\\\''; --\n/*') -- '\n;"
    let selected := inserted.1.execute default "app" "SELECT body FROM notes"
    let found := selected.1.execute default "app" find.written
    inserted.2.affectedRows = some 1 ∧
      selected.2.rows = some [[("body", .text "first")], [("body", .text v)]] ∧
      found.2.rows = some [[("body", .text v)]] := by
  intro v t e find
  have ht : e.table? "app" "notes" = some t := by decide +kernel
  have hc : t.OnlyColumn "body" 1 { name := "body", type := .text } := by
    refine ⟨rfl, by decide, fun j d hj hname => ?_⟩
    rcases j with _ | _ | j
    · cases hj
      cases hname
    · rfl
    · cases hj
  have hroom : t.HasRoom := by decide
  have hinsert : (Statement.insert (.ofString "notes" "body" v)).IsText
      "insert /* ' */ into notes(\x60body\x60)\nvalues('it''s \\\\''; --\n/*') -- '\n;" :=
    ⟨1, by decide +kernel⟩
  have hselect : (Statement.select (.ofColumn "notes" "body" none)).IsText "SELECT body FROM notes" :=
    ⟨0, by decide +kernel⟩
  have hall : (e.execute default "app" "SELECT body FROM notes").2.rows = some [[("body", .text "first")]] := by
    decide +kernel
  have hnone : (e.execute default "app" find.written).2.rows = some [] := by
    decide +kernel
  obtain ⟨⟨-, hone, -⟩, ⟨-, rows, hrows, hselected⟩, -, rows', hrows', hfound⟩ :=
    quoted_kept ht hc rfl rfl hroom hinsert hselect find.isText_written default default default
  have hrows : rows = _ := Option.some.inj (hrows.symm.trans hall)
  have hrows' : rows' = _ := Option.some.inj (hrows'.symm.trans hnone)
  rw [hrows] at hselected
  rw [hrows'] at hfound
  exact ⟨hone, hselected, hfound⟩

end Engine

end PocketSql
