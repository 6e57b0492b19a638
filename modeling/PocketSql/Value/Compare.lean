/-
  PocketSql.Value.Compare — how values compare in conditions and in sorting.

  In a condition two values compare as numbers where both are numbers (a boolean counts
  as 1 or 0), else as texts in lower case. NULL equals NULL only and is neither above nor
  below anything. In sorting NULL comes first, then numbers, then other texts.
-/

import PocketSql.Text.Case
import PocketSql.Value

namespace PocketSql.Value

/-- The number that a condition reads in a value. -/
def number? : Value → Option Binary64
  | boolean b => some (.ofInt (if b then 1 else 0))
  | v => v.asNumber?

/-- The text that a condition reads in a value. -/
def lowerText (v : Value) : String :=
  Text.lower ((v.asText?).getD "")

/-- Whether `=` holds. -/
def equal (a b : Value) : Bool :=
  match a, b with
  | null, null => true
  | null, _ | _, null => false
  | _, _ =>
    match a.number?, b.number? with
    | some x, some y => x.eq y
    | _, _ => a.lowerText == b.lowerText

/-- Whether `<` holds. -/
def less (a b : Value) : Bool :=
  if a.isNull || b.isNull then false
  else match a.number?, b.number? with
    | some x, some y => x.lt y
    | _, _ => Text.compareText a.lowerText b.lowerText == .lt

/-- Whether `>` holds. -/
def greater (a b : Value) : Bool :=
  if a.isNull || b.isNull then false
  else match a.number?, b.number? with
    | some x, some y => y.lt x
    | _, _ => Text.compareText a.lowerText b.lowerText == .gt

end PocketSql.Value
