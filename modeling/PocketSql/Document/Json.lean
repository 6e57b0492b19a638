/-
  PocketSql.Document.Json — JSON documents and their compact text.

  Numbers keep the text they are written with. A text may be unreadable: JSON can escape
  half of a surrogate pair, which no string of characters holds.
-/

namespace PocketSql

/-- A JSON document. -/
inductive Json where
  | null
  | bool (b : Bool)
  | number (text : String)
  /-- None where the text has an unpaired surrogate. -/
  | text (s : Option String)
  | array (items : List Json)
  | object (fields : List (Option String × Json))

namespace Json

def ofString (s : String) : Json :=
  text (some s)

def ofNat (n : Nat) : Json :=
  number (toString n)

def ofOption (j : Option Json) : Json :=
  j.getD null

/-- The fields that are there, under their names. -/
def ofFields (fields : List (String × Option Json)) : Json :=
  object (fields.filterMap fun (name, j) => j.map fun j => (some name, j))

/-! ## Text -/

def hexDigit (n : Nat) : Char :=
  if n < 10 then Char.ofNat (48 + n) else Char.ofNat (87 + n)

/-- A character between quotes. Quotes, backslashes and control characters are escaped. -/
def escape (c : Char) : List Char :=
  if c == '"' then ['\\', '"']
  else if c == '\\' then ['\\', '\\']
  else if c == '\n' then ['\\', 'n']
  else if c == '\r' then ['\\', 'r']
  else if c == '\t' then ['\\', 't']
  else if c.toNat == 8 then ['\\', 'b']
  else if c.toNat == 12 then ['\\', 'f']
  else if c.toNat < 32 then
    ['\\', 'u', '0', '0', hexDigit (c.toNat / 16), hexDigit (c.toNat % 16)]
  else [c]

def quote (s : String) : List Char :=
  '"' :: s.toList.flatMap escape ++ ['"']

/-- A text in quotes. An unreadable one is written as if it were empty. -/
def quoted (s : Option String) : List Char :=
  quote (s.getD "")

mutual

/-- The document without any white space. -/
def chars : Json → List Char
  | null => "null".toList
  | bool b => (if b then "true" else "false").toList
  | number n => n.toList
  | text s => quoted s
  | array items => '[' :: itemChars items ++ [']']
  | object fields => '\x7b' :: fieldChars fields ++ ['\x7d']

def itemChars : List Json → List Char
  | [] => []
  | [j] => chars j
  | j :: rest => chars j ++ ',' :: itemChars rest

def fieldChars : List (Option String × Json) → List Char
  | [] => []
  | [(name, j)] => quoted name ++ ':' :: chars j
  | (name, j) :: rest => quoted name ++ ':' :: chars j ++ ',' :: fieldChars rest

end

def render (j : Json) : String :=
  String.ofList j.chars

end Json

end PocketSql
