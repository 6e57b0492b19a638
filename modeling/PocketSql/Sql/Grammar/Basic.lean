/-
  PocketSql.Sql.Grammar.Basic — reading from the front of a token list.

  A parser takes some tokens and leaves the rest, or fails with what it expected and
  what it found. The end of the list is the end of the input.
-/

import PocketSql.Sql.Lexer
import PocketSql.Statement

namespace PocketSql.Sql

/-- Reads from the front of the tokens that are left. -/
abbrev Parser := StateT (List Token) (Except Fault)

namespace Parser

/-- The next token, which stays where it is. -/
def next : Parser (Option Token) := do
  return (← get).head?

/-- Passes over the next token, if there is one. -/
def advance : Parser Unit :=
  modify List.tail

def atEnd : Parser Bool := do
  return (← get).isEmpty

def fail {α : Type} (cause : SyntaxFault) : Parser α :=
  throw (.invalidSyntax cause)

/-- Fails at the next token. -/
def unexpected {α : Type} (expected : String) : Parser α := do
  fail (.expected expected (describe (← next)))

/-- Takes the next token if it satisfies `p`, and tells whether it did. -/
def takeIf (p : Token → Bool) : Parser Bool := do
  match ← get with
  | t :: rest => if p t then set rest; return true else return false
  | [] => return false

def takeSymbol (s : Symbol) : Parser Bool :=
  takeIf (· == .symbol s)

def takeKeyword (k : Keyword) : Parser Bool :=
  takeIf (· == .keyword k)

/-- Takes a word that is not reserved, in any case. -/
def takeWord (word : String) : Parser Bool :=
  takeIf (·.isWord word)

/-- Takes one of several things, the first that is there. -/
def takeEither (first second : Parser Bool) : Parser Bool := do
  if ← first then return true else second

/-- Fails unless something was taken. -/
def require (expected : String) (taken : Parser Bool) : Parser Unit := do
  if ← taken then pure () else unexpected expected

def expectSymbol (s : Symbol) : Parser Unit :=
  require s.text (takeSymbol s)

def expectKeyword (k : Keyword) : Parser Unit :=
  require k.text (takeKeyword k)

def expectWord (word : String) : Parser Unit :=
  require word (takeWord word)

def identifier : Parser String := do
  match ← get with
  | .identifier name :: rest =>
    set rest
    return name
  | _ => unexpected "identifier"

/-- A number token that spells a natural number below `bound`. -/
def natural (purpose : String) (bound : Nat) : Parser Nat := do
  match ← get with
  | .number n :: rest =>
    match Numeral.natBelow? bound n with
    | some value =>
      set rest
      return value
    | none => fail (.invalidNumber purpose n)
  | _ => unexpected ("a " ++ purpose)

/-- A number of rows. -/
def rowCount : Parser Nat :=
  natural "row count" UInt64.size

/-- A length or scale of a type, such as the 100 of `VARCHAR(100)`. -/
def typeSize : Parser Nat :=
  natural "type size" UInt32.size

/-! ## Lists -/

/-- One item, then further ones while commas follow, at most `more` of them. -/
def itemsWithin {α : Type} (item : Parser α) : Nat → Parser (List α)
  | 0 => do return [← item]
  | more + 1 => do
    let first ← item
    if ← takeSymbol .comma then return first :: (← itemsWithin item more)
    else return [first]

/-- One item or several, with commas between them. There are no more commas than
    tokens. -/
def items {α : Type} (item : Parser α) : Parser (List α) := do
  itemsWithin item (← get).length

/-- What stands in parentheses. -/
def parenthesized {α : Type} (inner : Parser α) : Parser α := do
  expectSymbol .lparen
  let a ← inner
  expectSymbol .rparen
  return a

/-- Applies `step` again and again up to the end of the tokens or until `stop` holds of
    the next one. Every step is to take a token. -/
def stepsWithin {σ : Type} (stop : Token → Bool) (step : σ → Parser σ) : Nat → σ → Parser σ
  | 0, state => return state
  | more + 1, state => do
    match ← next with
    | none => return state
    | some t => if stop t then return state else stepsWithin stop step more (← step state)

/-- Applies `step` up to the end or to a token that satisfies `stop`. There are no more steps
    than tokens. -/
def steps {σ : Type} (stop : Token → Bool) (step : σ → Parser σ) (state : σ) : Parser σ := do
  stepsWithin stop step (← get).length state

/-! ## Names and literals -/

/-- `name` or `qualifier.name`; the qualifier is dropped. -/
def objectName : Parser String := do
  let name ← identifier
  if ← takeSymbol .dot then identifier else return name

/-- The number after a sign. -/
def signedNumber (sign : String) : Parser Literal := do
  match ← get with
  | .number n :: rest =>
    set rest
    return .number (sign ++ n)
  | _ => unexpected "a number"

/-- One literal. A sign may stand apart from its number. -/
def literal : Parser Literal := do
  match ← get with
  | .quoted s :: rest => set rest; return .quoted s
  | .number n :: rest => set rest; return .number n
  | .keyword .NULL :: rest => set rest; return .null
  | .keyword .DEFAULT :: rest => set rest; return .default
  | .symbol .minus :: rest => set rest; signedNumber "-"
  | .symbol .plus :: rest => set rest; signedNumber ""
  | .identifier word :: rest =>
    if Text.sameName word "CURRENT_TIMESTAMP" then
      set rest
      if ← takeSymbol .lparen then expectSymbol .rparen
      return .currentTimestamp
    else if Text.sameName word "NOW" && rest.head? == some (.symbol .lparen) then
      set rest.tail
      expectSymbol .rparen
      return .currentTimestamp
    else
      set rest
      return .word word
  | _ => unexpected "a value"

/-- A literal that has a text of its own; any other fails with `cause`. -/
def textLiteral (cause : SyntaxFault) : Parser String := do
  match (← literal).raw? with
  | some s => return s
  | none => fail cause

end Parser

end PocketSql.Sql
