/-
  PocketSql.Document.Reading — JSON documents from text.

  White space may stand around every token. Texts may not hold control characters, and
  numbers have no needless zeros in front.
-/

import PocketSql.Document.Json
import PocketSql.Number.Numeral

namespace PocketSql.Json

/-- The four characters that may stand between tokens. -/
def isSpace (c : Char) : Bool :=
  c == ' ' || c == '\t' || c == '\n' || c == '\r'

def skipSpace (cs : List Char) : List Char :=
  cs.dropWhile isSpace

/-- The rest of a text that starts with `word`. -/
def afterWord? (word : String) (cs : List Char) : Option (List Char) :=
  if word.toList.isPrefixOf cs then some (cs.drop word.length) else none

/-! ## Numbers -/

/-- At least one digit, and the rest. -/
def someDigits? (cs : List Char) : Option (List Char × List Char) :=
  let (ds, rest) := Numeral.digits cs
  if ds.isEmpty then none else some (ds, rest)

/-- The digits before the point: no zero in front of others. -/
def wholePart? (cs : List Char) : Option (List Char × List Char) := do
  let (ds, rest) ← someDigits? cs
  if ds.head? == some '0' && ds.length != 1 then none else some (ds, rest)

/-- A fraction with its point, or nothing. -/
def fractionPart? : List Char → Option (List Char × List Char)
  | '.' :: cs => (someDigits? cs).map fun (ds, rest) => ('.' :: ds, rest)
  | cs => some ([], cs)

/-- An exponent with its mark, or nothing. -/
def exponentPart? : List Char → Option (List Char × List Char)
  | [] => some ([], [])
  | e :: cs =>
    if e == 'e' || e == 'E' then
      match cs with
      | s :: more =>
        if s == '+' || s == '-' then
          (someDigits? more).map fun (ds, rest) => (e :: s :: ds, rest)
        else (someDigits? cs).map fun (ds, rest) => (e :: ds, rest)
      | [] => none
    else some ([], e :: cs)

/-- A number, as it is written. -/
def number? (cs : List Char) : Option (Json × List Char) := do
  let (minus, cs) := match cs with
    | '-' :: rest => (['-'], rest)
    | cs => ([], cs)
  let (whole, cs) ← wholePart? cs
  let (fraction, cs) ← fractionPart? cs
  let (exponent, cs) ← exponentPart? cs
  return (number (String.ofList (minus ++ whole ++ fraction ++ exponent)), cs)

/-! ## Texts -/

def hexValue? (c : Char) : Option Nat :=
  if c.isDigit then some (c.toNat - 48)
  else if 'a' ≤ c && c ≤ 'f' then some (c.toNat - 87)
  else if 'A' ≤ c && c ≤ 'F' then some (c.toNat - 55)
  else none

/-- The code of four hexadecimal digits. -/
def code? (a b c d : Char) : Option Nat := do
  return (((← hexValue? a) * 16 + (← hexValue? b)) * 16 + (← hexValue? c)) * 16 + (← hexValue? d)

/-- The character that a backslash and `c` stand for. -/
def shortEscape? : Char → Option Char
  | '"' => some '"'
  | '\\' => some '\\'
  | '/' => some '/'
  | 'b' => some (Char.ofNat 8)
  | 'f' => some (Char.ofNat 12)
  | 'n' => some '\n'
  | 'r' => some '\r'
  | 't' => some '\t'
  | _ => none

/-- A unit of a text: a character, or half of a surrogate pair. -/
inductive TextUnit where
  | char (c : Char)
  | half (code : Nat)

def unitOfCode (n : Nat) : TextUnit :=
  if 0xD800 ≤ n && n < 0xE000 then .half n else .char (Char.ofNat n)

/-- The units of a text up to its closing quote, and the rest. -/
def units? : List Char → Option (List TextUnit × List Char)
  | [] => none
  | '"' :: rest => some ([], rest)
  | '\\' :: 'u' :: a :: b :: c :: d :: rest => do
    let n ← code? a b c d
    let (us, after) ← units? rest
    return (unitOfCode n :: us, after)
  | '\\' :: e :: rest => do
    let c ← shortEscape? e
    let (us, after) ← units? rest
    return (.char c :: us, after)
  | c :: rest =>
    if c == '\\' || c.toNat < 32 then none
    else do
      let (us, after) ← units? rest
      return (.char c :: us, after)

/-- The characters of a text; none if a half of a pair stands alone. -/
def joinUnits? : List TextUnit → Option (List Char)
  | [] => some []
  | .char c :: rest => (joinUnits? rest).map (c :: ·)
  | .half n :: .half m :: rest =>
    if n < 0xDC00 && 0xDC00 ≤ m then
      (joinUnits? rest).map (Char.ofNat (0x10000 + (n - 0xD800) * 1024 + (m - 0xDC00)) :: ·)
    else none
  | .half _ :: _ => none

/-- A text after its opening quote, and the rest. -/
def text? (cs : List Char) : Option (Option String × List Char) :=
  (units? cs).map fun (us, rest) => ((joinUnits? us).map String.ofList, rest)

/-! ## Documents -/

mutual

/-- A document at the start of a text, and the rest. `fuel` bounds how often the reader
    calls itself. -/
def value? : Nat → List Char → Option (Json × List Char)
  | 0, _ => none
  | fuel + 1, cs =>
    match skipSpace cs with
    | [] => none
    | '"' :: rest => (text? rest).map fun (s, rest) => (text s, rest)
    | '[' :: rest =>
      match skipSpace rest with
      | ']' :: rest => some (array [], rest)
      | rest => (items? fuel rest).map fun (items, rest) => (array items, rest)
    | '\x7b' :: rest =>
      match skipSpace rest with
      | '\x7d' :: rest => some (object [], rest)
      | rest => (fields? fuel rest).map fun (fields, rest) => (object fields, rest)
    | 't' :: rest => (afterWord? "rue" rest).map fun rest => (bool true, rest)
    | 'f' :: rest => (afterWord? "alse" rest).map fun rest => (bool false, rest)
    | 'n' :: rest => (afterWord? "ull" rest).map fun rest => (null, rest)
    | rest => number? rest

/-- The items of an array up to its closing bracket, and the rest. -/
def items? : Nat → List Char → Option (List Json × List Char)
  | 0, _ => none
  | fuel + 1, cs =>
    match value? fuel cs with
    | none => none
    | some (j, rest) =>
      match skipSpace rest with
      | ']' :: rest => some ([j], rest)
      | ',' :: rest => (items? fuel rest).map fun (items, rest) => (j :: items, rest)
      | _ => none

/-- The fields of an object up to its closing bracket, and the rest. -/
def fields? : Nat → List Char → Option (List (Option String × Json) × List Char)
  | 0, _ => none
  | fuel + 1, cs =>
    match skipSpace cs with
    | '"' :: rest =>
      match text? rest with
      | none => none
      | some (name, rest) =>
        match skipSpace rest with
        | ':' :: rest =>
          match value? fuel rest with
          | none => none
          | some (j, rest) =>
            match skipSpace rest with
            | '\x7d' :: rest => some ([(name, j)], rest)
            | ',' :: rest =>
              (fields? fuel rest).map fun (fields, rest) => ((name, j) :: fields, rest)
            | _ => none
        | _ => none
    | _ => none

end

/-- The document that a text holds. Each call of the reader takes a character or hands
    over to one that does, so twice as many calls as characters are enough. -/
def ofText? (s : String) : Option Json :=
  let cs := s.toList
  match value? (2 * cs.length + 2) cs with
  | some (j, rest) => if (skipSpace rest).isEmpty then some j else none
  | none => none

end PocketSql.Json
