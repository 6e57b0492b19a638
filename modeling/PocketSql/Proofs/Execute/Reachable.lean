/-
  PocketSql.Proofs.Execute.Reachable — the catalogs that statements lead to.

  A run starts at the empty catalog and takes any statements that texts are read as, on
  databases of any name and at any times. Whether they succeed or fail, what they leave
  is sound (`reachable_sound`).
-/

import Mathlib.Control.Monad.Basic
import PocketSql.Proofs.Sql.Yields

namespace PocketSql

/-- Whether some text is read as this statement. -/
def Statement.Written (s : Statement) : Prop :=
  ∃ sql kind, Sql.parse sql kind = .ok s

namespace Catalog

/-- A catalog that is left after some run. -/
inductive Reachable [RegexCompiler] : Catalog → Prop
  | empty : Reachable {}
  | run {c : Catalog} (now : Instant) (database : String) {s : Statement} :
      Reachable c → s.Written → Reachable (c.run now database s).1

/-- In every catalog that runs lead to, each database is kept under the key of its name and
    under no other's, no two of its tables have the same name, and each table has columns
    of different names, a value for each of them in every row, and indexes of different
    names. -/
theorem reachable_sound [RegexCompiler] {c : Catalog} (h : c.Reachable) : c.Sound := by
  induction h with
  | empty => exact sound_empty
  | run now database _ hs ih =>
    obtain ⟨sql, kind, hparse⟩ := hs
    exact ih.run now database (Sql.readAs_of_parse hparse).defined

theorem reachable_sound_of_insert :
    let create : Statement := .createTable
      { table := "t", columns := [{ name := "a", type := .int }], constraints := [], ifNotExists := false
        engine := none, charset := none }
    let insert : Statement := .insert { table := "t", columns := none, rows := [[.number "1"], [.number "2"]] }
    let c := ((Catalog.run {} ⟨0, 0⟩ "App" create).1.run ⟨1, 0⟩ "app" insert).1
    (c.entries.map fun e => (e.1, e.2.tables.map (·.rows))) = [("app", [[[.integer 1], [.integer 2]]])] ∧
      c.Sound := by
  intro create insert c
  have hcreate : create.Written := by
    have hlex : Sql.lex "CREATE TABLE t (a INT)" = .ok [.keyword .CREATE, .keyword .TABLE, .identifier "t",
        .symbol .lparen, .identifier "a", .identifier "INT", .symbol .rparen] := by decide +kernel
    exact ⟨"CREATE TABLE t (a INT)", .createTable, bind_eq_ok.mpr ⟨_, hlex, rfl⟩⟩
  have hinsert : insert.Written := by
    have hlex : Sql.lex "INSERT INTO t VALUES (1), (2)" = .ok [.keyword .INSERT, .keyword .INTO, .identifier "t",
        .keyword .VALUES, .symbol .lparen, .number "1", .symbol .rparen, .symbol .comma, .symbol .lparen,
        .number "2", .symbol .rparen] := by decide +kernel
    exact ⟨"INSERT INTO t VALUES (1), (2)", .insert, bind_eq_ok.mpr ⟨_, hlex, rfl⟩⟩
  have hc : c.Reachable := .run _ _ (.run _ _ .empty hcreate) hinsert
  exact ⟨by decide +kernel, reachable_sound hc⟩

end Catalog

end PocketSql
