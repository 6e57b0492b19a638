/-
  PocketSql.Query.Select — queries on one table.

  The rows go through five stages: those that satisfy the condition, of each group the
  first one, sorted, cut to the limit, and reduced to the columns asked for.
-/

import PocketSql.Query.Filter
import PocketSql.Query.Result

namespace PocketSql

/-! ## Order -/

namespace Value

/-- The order of values when rows are sorted: NULL, then numbers in their total order,
    then other texts in lower case, equal ones by the texts themselves. -/
def sortOrder (a b : Value) : Ordering :=
  match a, b with
  | .null, .null => .eq
  | .null, _ => .lt
  | _, .null => .gt
  | _, _ =>
    match a.number?, b.number? with
    | some x, some y => x.compareTotal y
    | some _, none => .lt
    | none, some _ => .gt
    | none, none =>
      (Text.compareText a.lowerText b.lowerText).then
        (Text.compareText ((a.asText?).getD "") ((b.asText?).getD ""))

end Value

/-- A direction applied to an order. -/
def directed (ascending : Bool) (o : Ordering) : Ordering :=
  if ascending then o else o.swap

namespace Table

/-- The order of rows under several keys, the first that tells them apart. -/
def compareRows (t : Table) (keys : List OrderKey) (a b : Row) : Ordering :=
  keys.foldr
    (fun k rest =>
      (directed k.ascending ((t.read a k.column).sortOrder (t.read b k.column))).then rest)
    .eq

/-- The rows in ascending order. Rows that no key tells apart keep their order. -/
def sortRows (t : Table) (keys : List OrderKey) (rows : List Row) : List Row :=
  rows.mergeSort fun a b => t.compareRows keys a b != .gt

/-! ## Groups -/

/-- What a row is grouped by: the text in each column, none for NULL. -/
def groupKey (t : Table) (columns : List String) (row : Row) : List (Option String) :=
  columns.map fun c => (t.read row c).asText?

end Table

/-- The rows whose key is neither in `seen` nor the key of an earlier row. -/
def firstPerKey {κ : Type} [BEq κ] (key : Row → κ) (seen : List κ) : List Row → List Row
  | [] => []
  | row :: rows =>
    if seen.contains (key row) then firstPerKey key seen rows
    else row :: firstPerKey key (key row :: seen) rows

/-! ## Columns -/

namespace Table

/-- The places of the columns asked for, in the order of the table. -/
def projected (t : Table) : Projection → Except Fault (List Nat)
  | .all => .ok (List.range t.columns.length)
  | .columns names =>
    let places := (List.range t.columns.length).filter fun i =>
      t.columns[i]?.any fun c => names.any fun n => Text.sameName n c.name
    if places.isEmpty then .error (t.invalidColumn (", ".intercalate names)) else .ok places

/-- The name of the column at a place. -/
def nameAt (t : Table) (i : Nat) : String :=
  (t.columns[i]?.map (·.name)).getD ""

/-! ## All stages -/

/-- The rows that a query sorts: those that satisfy `p`, of each group the first. -/
def gathered (t : Table) (p : Row → Bool) (s : Select) : List Row :=
  let rows := t.rows.filter p
  if s.groupBy.isEmpty then rows else firstPerKey (t.groupKey s.groupBy) [] rows

/-- The rows that a query is about, in the order of its result. -/
def selectRows (t : Table) (p : Row → Bool) (s : Select) : List Row :=
  let rows := t.gathered p s
  let rows := if s.orderBy.isEmpty then rows else t.sortRows s.orderBy rows
  match s.limit with
  | none => rows
  | some limit => (rows.drop limit.offset).take limit.count

/-- The result of a query. -/
def select [RegexCompiler] (t : Table) (now : Instant) (s : Select) : Except Fault QueryResult := do
  let places ← t.projected s.columns
  let holds ← t.filter now s.condition
  return {
    columns := places.map t.nameAt
    rows := (t.selectRows holds s).map fun row =>
      .ofPairs (places.map fun i => (t.nameAt i, row.cell (some i))) }

end Table

end PocketSql
