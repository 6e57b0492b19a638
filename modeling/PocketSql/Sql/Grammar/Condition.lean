/-
  PocketSql.Sql.Grammar.Condition — the WHERE clause.

  The tokens of the clause are first cut into segments at the ANDs and ORs outside
  parentheses, then each segment is read on its own. A segment of no known form is kept
  as text.
-/

import PocketSql.Sql.Grammar.Basic

namespace PocketSql.Sql

/-! ## Cutting the clause -/

/-- A clause cut into segments, and the tokens after it. -/
structure Segments where
  first : List Token
  rest : List (Connective × List Token)
  after : List Token

namespace Segments

/-- The segments with one more token at the start of the first one. -/
def push (t : Token) (s : Segments) : Segments :=
  { s with first := t :: s.first }

/-- The segments with an empty one before them. -/
def startWith (c : Connective) (s : Segments) : Segments :=
  { s with first := [], rest := (c, s.first) :: s.rest }

end Segments

/-- Whether a token ends the clause, at some depth of parentheses. -/
def endsCondition (depth : Nat) : Token → Bool
  | .symbol .semicolon => true
  | .keyword .GROUP | .keyword .ORDER | .keyword .LIMIT => depth == 0
  | _ => false

/-- The connective that a token stands for outside parentheses. -/
def connective? (depth : Nat) : Token → Option Connective
  | .keyword .AND => if depth == 0 then some .and else none
  | .keyword .OR => if depth == 0 then some .or else none
  | _ => none

/-- The depth of parentheses after a token. A closing one too many counts for nothing. -/
def depthAfter (depth : Nat) : Token → Nat
  | .symbol .lparen => depth + 1
  | .symbol .rparen => depth - 1
  | _ => depth

/-- Cuts the clause that starts at some depth of parentheses. -/
def cutCondition (depth : Nat) : List Token → Segments
  | [] => ⟨[], [], []⟩
  | t :: rest =>
    if endsCondition depth t then ⟨[], [], t :: rest⟩
    else match connective? depth t with
      | some c => (cutCondition depth rest).startWith c
      | none => (cutCondition (depthAfter depth t) rest).push t

/-! ## Reading a segment -/

def comparison? : Token → Option Comparison
  | .symbol .eq => some .eq
  | .symbol .neq => some .neq
  | .symbol .lt => some .lt
  | .symbol .gt => some .gt
  | .symbol .lte => some .lte
  | .symbol .gte => some .gte
  | _ => none

namespace Parser

/-- `IN (…)` or `LIKE …` after a column and maybe NOT; anything else is up to `other`. -/
def membership (column : String) (negated : Bool) (other : Parser Predicate) :
    Parser Predicate := do
  if ← takeKeyword .IN then
    return .inList column (← parenthesized (items literal)) negated
  else if ← takeKeyword .LIKE then
    return .like column (← textLiteral .missingPattern) negated
  else other

/-- An operator and a literal after a column. -/
def compared (column : String) : Parser Predicate := do
  match (← next).bind comparison? with
  | some op =>
    advance
    return .compare column op (← literal)
  | none => unexpected "a comparison operator"

/-- What a predicate states of a column. -/
def statedOf (column : String) : Parser Predicate := do
  if ← takeKeyword .IS then
    let negated ← takeKeyword .NOT
    expectKeyword .NULL
    return .isNull column negated
  else if ← takeKeyword .NOT then
    membership column true (unexpected "IN or LIKE")
  else
    membership column false (compared column)

/-- A predicate up to the end of the tokens. -/
def predicate : Parser Predicate := do
  let p ← statedOf (← objectName)
  if ← atEnd then return p else unexpected "end of condition"

end Parser

/-- The predicate that a segment states. -/
def predicateOf (segment : List Token) : Predicate :=
  match Parser.predicate.run segment with
  | .ok (p, _) => p
  | .error _ => .unrecognized (Token.join segment)

namespace Parser

/-- A WHERE clause after its first word, which has to have no empty segment. -/
def condition : Parser Condition := do
  let cut := cutCondition 0 (← get)
  set cut.after
  if cut.first.isEmpty || cut.rest.any (·.2.isEmpty) then
    fail .incompleteCondition
  return ⟨predicateOf cut.first, cut.rest.map fun (c, segment) => (c, predicateOf segment)⟩

/-- An optional WHERE clause. -/
def condition? : Parser (Option Condition) := do
  if ← takeKeyword .WHERE then return some (← condition) else return none

end Parser

end PocketSql.Sql
