/-
  PocketSql.Sql.Lexer — from statement text to tokens.

  White space and comments separate tokens and are dropped. A quoted run ends at the
  first quote that is neither doubled nor escaped; backslashes escape in string
  literals, not in backticks. Every step leaves a shorter text, which is what makes
  `scan` end. Faults carry how much text was left, from which `lex` finds the place.
-/

import PocketSql.Fault
import PocketSql.Sql.Token
import PocketSql.Text.Blank

namespace PocketSql.Sql

/-! ## What separates tokens -/

/-- Where a text between two tokens stands. -/
inductive Between where
  | outside
  | lineComment
  | blockComment

/-- The text from its first character that is neither white space nor in a comment. -/
def skip : Between → List Char → List Char
  | _, [] => []
  | .outside, '-' :: '-' :: rest => skip .lineComment rest
  | .outside, '/' :: '*' :: rest => skip .blockComment rest
  | .outside, c :: rest => if Text.isBlank c then skip .outside rest else c :: rest
  | .lineComment, '\n' :: rest => skip .outside rest
  | .lineComment, _ :: rest => skip .lineComment rest
  | .blockComment, '*' :: '/' :: rest => skip .outside rest
  | .blockComment, _ :: rest => skip .blockComment rest

/-! ## Runs of characters that make one token -/

def backtick : Char := '\x60'

/-- The character that a backslash and `c` stand for. -/
def unescape : Char → Char
  | 'n' => '\n'
  | 't' => '\t'
  | 'r' => '\r'
  | '0' => Char.ofNat 0
  | c => c

/-- Reads up to the closing quote: the text between the quotes and what follows them.
    `none` when the quote is never closed. -/
def readQuoted (quote : Char) : List Char → Option (List Char × List Char)
  | [] => none
  | [c] => if c == quote then some ([], []) else none
  | c :: d :: rest =>
    if c == quote then
      if d == quote then (readQuoted quote rest).map fun (cs, after) => (quote :: cs, after)
      else some ([], d :: rest)
    else if c == '\\' && quote != backtick then
      (readQuoted quote rest).map fun (cs, after) => (unescape d :: cs, after)
    else (readQuoted quote (d :: rest)).map fun (cs, after) => (c :: cs, after)

/-- Reads the rest of a number, as written: digits, one point before a digit, and
    exponent marks before a digit or a sign. -/
def readNumber (seenPoint : Bool) : List Char → List Char × List Char
  | [] => ([], [])
  | [c] => if c.isDigit then ([c], []) else ([], [c])
  | c :: d :: rest =>
    if c.isDigit then
      let (cs, after) := readNumber seenPoint (d :: rest)
      (c :: cs, after)
    else if c == '.' && !seenPoint && d.isDigit then
      let (cs, after) := readNumber true (d :: rest)
      (c :: cs, after)
    else if (c == 'e' || c == 'E') && (d.isDigit || d == '+' || d == '-') then
      let (cs, after) := readNumber seenPoint rest
      (c :: d :: cs, after)
    else ([], c :: d :: rest)

/-- Whether a word may start with this character. -/
def startsWord (c : Char) : Bool :=
  Text.isAlphabetic c || c == '_' || c == '$'

/-- Whether a word may go on with this character. -/
def continuesWord (c : Char) : Bool :=
  Text.isAlphanumeric c || c == '_' || c == '$'

/-- A word is a reserved one or an identifier. -/
def wordToken (cs : List Char) : Token :=
  match Keyword.ofWord? (String.ofList cs) with
  | some k => .keyword k
  | none => .identifier (String.ofList cs)

/-! ## Tokens -/

/-- A fault with the number of characters from its place to the end. -/
inductive LexFault where
  | unexpected (c : Char) (left : Nat)
  | unterminated (left : Nat)
  deriving DecidableEq

/-- The token of a single character that starts no longer one. -/
def singleSymbol? : Char → Option Symbol
  | '(' => some .lparen
  | ')' => some .rparen
  | ',' => some .comma
  | ';' => some .semicolon
  | '.' => some .dot
  | '+' => some .plus
  | '-' => some .minus
  | '*' => some .asterisk
  | '/' => some .slash
  | '%' => some .percent
  | '=' => some .eq
  | '<' => some .lt
  | '>' => some .gt
  | _ => none

/-- The token of two characters. -/
def doubleSymbol? : Char → Char → Option Symbol
  | '<', '=' => some .lte
  | '<', '>' => some .neq
  | '>', '=' => some .gte
  | '!', '=' => some .neq
  | _, _ => none

/-- A quoted token: a name in backticks, a literal in other quotes. -/
def quotedToken (quote : Char) (cs : List Char) : Token :=
  if quote == backtick then .identifier (String.ofList cs) else .quoted (String.ofList cs)

/-- Whether a character opens a quoted run. -/
def isQuote (c : Char) : Bool :=
  c == '\'' || c == '"' || c == backtick

/-- The token that starts with `c`, and what follows it. -/
def token (c : Char) (rest : List Char) : Except LexFault (Token × List Char) :=
  if isQuote c then
    match readQuoted c rest with
    | some (cs, after) => .ok (quotedToken c cs, after)
    | none => .error (.unterminated (rest.length + 1))
  else if c.isDigit then
    let (cs, after) := readNumber false (c :: rest)
    .ok (.number (String.ofList cs), after)
  else if startsWord c then
    .ok (wordToken (c :: rest.takeWhile continuesWord), rest.dropWhile continuesWord)
  else
    match rest with
    | d :: after =>
      if c == '-' && d.isDigit then
        let (cs, after) := readNumber false (d :: after)
        .ok (.number (String.ofList ('-' :: cs)), after)
      else
        match doubleSymbol? c d with
        | some s => .ok (.symbol s, after)
        | none => single c rest
    | [] => single c rest
where
  single (c : Char) (rest : List Char) : Except LexFault (Token × List Char) :=
    match singleSymbol? c with
    | some s => .ok (.symbol s, rest)
    | none => .error (.unexpected c (rest.length + 1))

/-! ## Every step leaves a shorter text -/

theorem length_skip_le (b : Between) (cs : List Char) : (skip b cs).length ≤ cs.length := by
  fun_induction skip b cs <;> grind

theorem length_readQuoted_lt {quote : Char} {cs run after : List Char}
    (h : readQuoted quote cs = some (run, after)) : after.length < cs.length := by
  fun_induction readQuoted quote cs generalizing run after <;>
    simp_all [Option.map_eq_some_iff] <;> grind

theorem length_readNumber_le (seenPoint : Bool) (cs : List Char) :
    (readNumber seenPoint cs).2.length ≤ cs.length := by
  fun_induction readNumber seenPoint cs <;> grind

theorem length_readNumber_lt {c : Char} (h : c.isDigit = true) (rest : List Char) :
    (readNumber false (c :: rest)).2.length < (c :: rest).length := by
  cases rest with
  | nil => simp [readNumber, h]
  | cons d rest =>
    have := length_readNumber_le false (d :: rest)
    simp only [readNumber, h, if_true, List.length_cons] at this ⊢
    omega

theorem single_after {c : Char} {rest after : List Char} {t : Token}
    (h : token.single c rest = .ok (t, after)) : after = rest := by
  unfold token.single at h
  split at h <;> simp_all

theorem length_token_le {c : Char} {rest after : List Char} {t : Token}
    (h : token c rest = .ok (t, after)) : after.length ≤ rest.length := by
  unfold token at h
  split at h
  · split at h
    · rename_i hq
      cases h
      exact Nat.le_of_lt (length_readQuoted_lt hq)
    · cases h
  · split at h
    · rename_i hd
      cases h
      exact Nat.le_of_lt_succ (length_readNumber_lt hd rest)
    · split at h
      · cases h
        exact (List.dropWhile_sublist _).length_le
      · split at h
        · split at h
          · rename_i d more hc
            cases h
            have := length_readNumber_lt (c := d) (by simp_all) more
            simp only [List.length_cons] at this ⊢
            omega
          · split at h
            · cases h; simp
            · exact Nat.le_of_eq (congrArg List.length (single_after h))
        · exact Nat.le_of_eq (congrArg List.length (single_after h))

/-! ## Texts -/

/-- All tokens of a text. -/
def scan (cs : List Char) : Except LexFault (List Token) :=
  match _hs : skip .outside cs with
  | [] => .ok []
  | c :: rest =>
    match _ht : token c rest with
    | .error e => .error e
    | .ok (t, after) =>
      match scan after with
      | .error e => .error e
      | .ok ts => .ok (t :: ts)
termination_by cs.length
decreasing_by
  have h₁ := length_skip_le .outside cs
  have h₂ := length_token_le _ht
  simp only [_hs, List.length_cons] at h₁
  omega

/-- The tokens of a statement text. -/
def lex (sql : String) : Except Fault (List Token) :=
  let cs := sql.toList
  match scan cs with
  | .ok ts => .ok ts
  | .error (.unexpected c left) => .error (.unexpectedCharacter c (cs.length - left))
  | .error (.unterminated left) => .error (.unterminatedString (cs.length - left))

end PocketSql.Sql
