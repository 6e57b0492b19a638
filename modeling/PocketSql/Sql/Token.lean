/-
  PocketSql.Sql.Token — the tokens of statement text, and token runs as text.

  Only the words that delimit clauses are reserved. Every other word, the names of types
  among them, is an identifier that a statement may compare with a word it expects.
-/

import PocketSql.Text.Case

namespace PocketSql.Sql

/-- Reserved words. -/
inductive Keyword where
  | CREATE | DROP | TABLE | DATABASE | SCHEMA
  | SELECT | INSERT | UPDATE | DELETE | INTO | VALUES | SET | FROM | WHERE
  | AND | OR | NOT | AS | ON | IS | IN | LIKE
  | ORDER | GROUP | BY | ASC | DESC | LIMIT | OFFSET
  | PRIMARY | UNIQUE | DEFAULT | NULL
  deriving DecidableEq

namespace Keyword

def all : List Keyword :=
  [CREATE, DROP, TABLE, DATABASE, SCHEMA, SELECT, INSERT, UPDATE, DELETE, INTO, VALUES, SET,
    FROM, WHERE, AND, OR, NOT, AS, ON, IS, IN, LIKE, ORDER, GROUP, BY, ASC, DESC, LIMIT, OFFSET,
    PRIMARY, UNIQUE, DEFAULT, NULL]

def text : Keyword → String
  | CREATE => "CREATE" | DROP => "DROP" | TABLE => "TABLE" | DATABASE => "DATABASE"
  | SCHEMA => "SCHEMA" | SELECT => "SELECT" | INSERT => "INSERT" | UPDATE => "UPDATE"
  | DELETE => "DELETE" | INTO => "INTO" | VALUES => "VALUES" | SET => "SET" | FROM => "FROM"
  | WHERE => "WHERE" | AND => "AND" | OR => "OR" | NOT => "NOT" | AS => "AS" | ON => "ON"
  | IS => "IS" | IN => "IN" | LIKE => "LIKE" | ORDER => "ORDER" | GROUP => "GROUP" | BY => "BY"
  | ASC => "ASC" | DESC => "DESC" | LIMIT => "LIMIT" | OFFSET => "OFFSET"
  | PRIMARY => "PRIMARY" | UNIQUE => "UNIQUE" | DEFAULT => "DEFAULT" | NULL => "NULL"

/-- The reserved word that a word spells, in any case. -/
def ofWord? (word : String) : Option Keyword :=
  let upper := Text.upper word
  all.find? fun k => k.text == upper

end Keyword

/-- Operators and punctuation. -/
inductive Symbol where
  | eq | neq | lt | gt | lte | gte
  | plus | minus | asterisk | slash | percent
  | lparen | rparen | comma | semicolon | dot
  deriving DecidableEq

def Symbol.text : Symbol → String
  | eq => "=" | neq => "<>" | lt => "<" | gt => ">" | lte => "<=" | gte => ">="
  | plus => "+" | minus => "-" | asterisk => "*" | slash => "/" | percent => "%"
  | lparen => "(" | rparen => ")" | comma => "," | semicolon => ";" | dot => "."

/-- A word, literal or symbol of a statement. -/
inductive Token where
  | keyword (k : Keyword)
  /-- A word that is not reserved, or any name in backticks. -/
  | identifier (name : String)
  /-- A number, as written. -/
  | number (text : String)
  /-- A string literal without its quotes. -/
  | quoted (text : String)
  | symbol (s : Symbol)
  deriving DecidableEq

namespace Token

/-- A literal in single quotes, each quote inside it doubled. -/
def quoteChars (cs : List Char) : List Char :=
  '\'' :: cs.flatMap (fun c => if c == '\'' then ['\'', '\''] else [c]) ++ ['\'']

/-- The token as text. It reads as the same token again, but for names that need backticks
    and literals with backslashes. -/
def chars : Token → List Char
  | keyword k => k.text.toList
  | identifier name => name.toList
  | number text => text.toList
  | quoted text => quoteChars text.toList
  | symbol s => s.text.toList

def text (t : Token) : String :=
  String.ofList t.chars

/-- Whether this is the word `word`, not reserved and in any case. -/
def isWord (word : String) : Token → Bool
  | identifier name => Text.sameName name word
  | _ => false

/-- Whether no space goes before this token. -/
def closesUp : Token → Bool
  | symbol .rparen | symbol .comma | symbol .dot => true
  | _ => false

/-- Whether no space goes after this token. -/
def opensUp : Token → Bool
  | symbol .lparen | symbol .dot => true
  | _ => false

/-- The tokens that follow `before`, each with the space that goes before it. -/
def joinAfter (before : Token) : List Token → List Char
  | [] => []
  | t :: rest =>
    (if t.closesUp || before.opensUp then [] else [' ']) ++ t.chars ++ joinAfter t rest

/-- A run of tokens as compact text, such as `PRIMARY KEY (id, name)`. -/
def joinChars : List Token → List Char
  | [] => []
  | t :: rest => t.chars ++ joinAfter t rest

/-- A run of tokens as one text, as constraints keep it. -/
def join (tokens : List Token) : String :=
  String.ofList (joinChars tokens)

end Token

/-- What stands at a place of a token list, in words. -/
def describe : Option Token → String
  | some t => t.text
  | none => "end of input"

end PocketSql.Sql
