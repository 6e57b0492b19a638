/-
  PocketSql.Regex — regular expressions.

  An expression is a text. A compiler makes a test of it, which tells whether the expression
  matches some part of a text, or refuses it. Whoever runs conditions brings a compiler
  along. The one given here knows expressions that are anchors and atoms in a row, where an
  atom stands for one character, or with a star behind it for any number of them.

  It reads a text from its end. For each suffix of it, one pass over the expression finds
  which suffixes of the expression match there, from the answers for the suffix before.
-/

import PocketSql.Text.Case

namespace PocketSql

/-- A compiler of regular expressions. -/
class RegexCompiler where
  /-- The expression that stands for a text as it is. -/
  escape : String → String
  /-- The test that an expression makes, or why it is refused. -/
  compile (ignoreCase : Bool) (expression : String) : Except String (String → Bool)

namespace Regex

/-! ## Expressions -/

/-- Characters that stand for themselves only behind a backslash. -/
def isMeta (c : Char) : Bool :=
  ['\\', '.', '+', '*', '?', '(', ')', '|', '[', ']', '\x7b', '\x7d', '^', '$', '#', '&', '-', '~'].contains c

/-- The expression with a backslash in front of each such character of a text. -/
def escape (s : String) : String :=
  String.ofList (s.toList.flatMap fun c => if isMeta c then ['\\', c] else [c])

/-- What stands for one character. -/
inductive Atom where
  /-- Any character but a line break. -/
  | any
  | char (c : Char)
  deriving DecidableEq

/-- What an expression is made of. -/
inductive Piece where
  /-- The beginning of the text. -/
  | start
  /-- Its end. -/
  | stop
  | one (a : Atom)
  /-- Any number of characters, none included. -/
  | many (a : Atom)
  deriving DecidableEq

/-- The signs of an expression. -/
inductive Sign where
  | start | stop | star
  | atom (a : Atom)
  deriving DecidableEq

/-- The signs of an expression, behind a backslash if `escaped`. -/
def signs (escaped : Bool) : List Char → Option (List Sign)
  | [] => if escaped then none else some []
  | c :: cs =>
    if escaped then if isMeta c then (.atom (.char c) :: ·) <$> signs false cs else none
    else if c == '\\' then signs true cs
    else if c == '.' then (.atom .any :: ·) <$> signs false cs
    else if c == '*' then (.star :: ·) <$> signs false cs
    else if c == '^' then (.start :: ·) <$> signs false cs
    else if c == '$' then (.stop :: ·) <$> signs false cs
    else if isMeta c then none
    else (.atom (.char c) :: ·) <$> signs false cs

/-- What signs stand for together. -/
def pieces : List Sign → Option (List Piece)
  | [] => some []
  | .start :: more => (.start :: ·) <$> pieces more
  | .stop :: more => (.stop :: ·) <$> pieces more
  | .atom a :: .star :: more => (.many a :: ·) <$> pieces more
  | .atom a :: more => (.one a :: ·) <$> pieces more
  | .star :: _ => none

/-- The pieces of an expression; none if it has something else in it. -/
def read (expression : String) : Option (List Piece) :=
  signs false expression.toList >>= pieces

/-! ## Matching -/

/-- Whether an atom stands for a character. -/
def Atom.accepts (ignoreCase : Bool) : Atom → Char → Bool
  | any, c => c != '\n'
  | char p, c => if ignoreCase then Text.sameFolded p c else p == c

/-- For each suffix of an expression, longest first, whether it matches at the end of a text,
    which is also its beginning if `first`. -/
def matchEnd (first : Bool) : List Piece → List Bool
  | [] => [true]
  | p :: ps =>
    let shorter := matchEnd first ps
    let here := match p with
      | .start => first && shorter.headD false
      | .stop | .many _ => shorter.headD false
      | .one _ => false
    here :: shorter

/-- For each suffix of an expression, longest first, whether it matches in front of the
    character `c`, where `behind` answers for the place behind that. -/
def matchBefore (ignoreCase first : Bool) (c : Char) : List Piece → List Bool → List Bool
  | [], _ => [true]
  | p :: ps, behind =>
    let shorter := matchBefore ignoreCase first c ps behind.tail
    let here := match p with
      | .start => first && shorter.headD false
      | .stop => false
      | .one a => a.accepts ignoreCase c && behind.tail.headD false
      | .many a => shorter.headD false || (a.accepts ignoreCase c && behind.headD false)
    here :: shorter

/-- The answers for the place in front of a text, and whether the expression matches there or
    at some place behind. -/
def scan (ignoreCase : Bool) (ps : List Piece) (first : Bool) : List Char → List Bool × Bool
  | [] =>
    let here := matchEnd first ps
    (here, here.headD false)
  | c :: cs =>
    let (behind, found) := scan ignoreCase ps false cs
    let here := matchBefore ignoreCase first c ps behind
    (here, here.headD false || found)

/-- Whether pieces match some part of a text. -/
def isMatch (ignoreCase : Bool) (ps : List Piece) (text : String) : Bool :=
  (scan ignoreCase ps true text.toList).2

end Regex

instance : RegexCompiler where
  escape := Regex.escape
  compile ignoreCase expression :=
    match Regex.read expression with
    | some ps => .ok (Regex.isMatch ignoreCase ps)
    | none => .error "unsupported expression"

end PocketSql
