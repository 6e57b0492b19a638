/-
  PocketSql.Query.Filter — which rows a condition holds of.

  A condition makes a test of rows, once its patterns are compiled; where one of them is
  refused it makes none. A column that the table does not have reads as NULL.
-/

import PocketSql.Like
import PocketSql.Schema.Table
import PocketSql.Statement
import PocketSql.Value.Compare

namespace PocketSql

/-- Whether the operator holds between two values. -/
def Comparison.holds (op : Comparison) (a b : Value) : Bool :=
  match op with
  | .eq => a.equal b
  | .neq => !a.equal b
  | .gt => a.greater b
  | .lt => a.less b
  | .gte => a.equal b || a.greater b
  | .lte => a.equal b || a.less b

namespace Table

variable [RegexCompiler]

/-- The value that a row of the table has in a column. -/
def read (t : Table) (row : Row) (column : String) : Value :=
  row.cell (t.columnIndex? column)

/-- The test of rows that a predicate makes. -/
def test (t : Table) (now : Instant) : Predicate → Except Fault (Row → Bool)
  | .compare column op value => .ok fun row => op.holds (t.read row column) (value.toValue now)
  | .inList column values negated =>
    .ok fun row => (values.any fun v => (t.read row column).equal (v.toValue now)) != negated
  | .like column pattern negated => do
    let isMatch ← Like.compile pattern
    return fun row => ((t.read row column).asText?.any isMatch) != negated
  | .isNull column negated => .ok fun row => (t.read row column).isNull != negated
  | .unrecognized _ => .ok fun _ => true

/-- Two truths under a connective. -/
def joined (c : Connective) (a b : Bool) : Bool :=
  match c with
  | .and => a && b
  | .or => a || b

/-- The test of rows that a condition makes: its predicates are joined from left to right.
    Without a condition every row is meant. -/
def filter (t : Table) (now : Instant) : Option Condition → Except Fault (Row → Bool)
  | none => .ok fun _ => true
  | some c => do
    let first ← t.test now c.first
    let rest ← c.rest.mapM fun (op, p) => return (op, ← t.test now p)
    return fun row => rest.foldl (fun held (op, holds) => joined op held (holds row)) (first row)

/-- Whether a predicate holds of a row. -/
def satisfies (t : Table) (now : Instant) (row : Row) (p : Predicate) : Bool :=
  (t.test now p).toOption.any (· row)

/-- Whether a condition holds of a row. One with a pattern that is refused holds of none. -/
def holds (t : Table) (now : Instant) (condition : Option Condition) (row : Row) : Bool :=
  (t.filter now condition).toOption.any (· row)

end Table

end PocketSql
