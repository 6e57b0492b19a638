/-
  PocketSql.Sql.Script — statement texts in a normal form, and scripts of several.

  A text is cleaned in one pass: comments and runs of white space become one space,
  quoted runs stay as they are, and semicolons at the end fall away. A script is cut at
  the semicolons outside quotes and comments, and its empty pieces are dropped.
-/

import PocketSql.Sql.Lexer

namespace PocketSql.Sql

/-- Where the cleaning pass stands. -/
inductive Place where
  | outside
  | quoted (quote : Char)
  /-- Right after a backslash in quotes. -/
  | escaped (quote : Char)
  | lineComment
  | blockComment
  deriving DecidableEq

/-- Adds a space to the text read so far, given backwards, unless it is empty or ends
    with one. -/
def withSpace : List Char → List Char
  | [] => []
  | ' ' :: done => ' ' :: done
  | done => ' ' :: done

/-- A finished piece, from its text backwards: without white space around it and without
    semicolons at its end. -/
def finishPiece (done : List Char) : List Char :=
  Text.trimLeft (done.dropWhile fun c => Text.isBlank c || c == ';').reverse

/-- Cleans the rest of a text of which `done`, given backwards, is the current piece so
    far. Semicolons outside quotes end a piece if `split` is set. -/
def cleanFrom (split : Bool) : Place → List Char → List Char → List (List Char)
  | _, done, [] => [finishPiece done]
  | .quoted q, done, c :: rest =>
    if c == '\\' && q != backtick then cleanFrom split (.escaped q) (c :: done) rest
    else cleanFrom split (if c == q then .outside else .quoted q) (c :: done) rest
  | .escaped q, done, c :: rest => cleanFrom split (.quoted q) (c :: done) rest
  | .lineComment, done, c :: rest =>
    cleanFrom split (if c == '\n' then .outside else .lineComment) done rest
  | .blockComment, done, '*' :: '/' :: rest => cleanFrom split .outside done rest
  | .blockComment, done, _ :: rest => cleanFrom split .blockComment done rest
  | .outside, done, '-' :: '-' :: rest => cleanFrom split .lineComment (withSpace done) rest
  | .outside, done, '/' :: '*' :: rest => cleanFrom split .blockComment (withSpace done) rest
  | .outside, done, c :: rest =>
    if isQuote c then cleanFrom split (.quoted c) (c :: done) rest
    else if c == ';' && split then finishPiece done :: cleanFrom split .outside [] rest
    else if Text.isBlank c then cleanFrom split .outside (withSpace done) rest
    else cleanFrom split .outside (c :: done) rest

/-- The pieces of a text, cleaned. Without `split` there is one. -/
def clean (split : Bool) (sql : String) : List String :=
  (cleanFrom split .outside [] sql.toList).map String.ofList

/-- The normal form of one statement's text. -/
def normalize (sql : String) : Except Fault String :=
  match (clean false sql).getLast? with
  | none => .error .emptyStatement
  | some statement => if statement.isEmpty then .error .emptyStatement else .ok statement

/-- The statements of a script, each in normal form. -/
def splitStatements (sql : String) : List String :=
  (clean true sql).filter fun statement => !statement.isEmpty

end PocketSql.Sql
