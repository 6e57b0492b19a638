/-
  PocketSql.Sql.Grammar.Definition — columns and constraints in a table definition.

  The body of a definition is cut at its commas outside parentheses. A piece that starts
  like a constraint is one; any other is a column, or else it is dropped.
-/

import PocketSql.Sql.Grammar.Basic

namespace PocketSql.Sql

/-! ## Cutting the body -/

/-- The pieces of a body, up to the parenthesis that closes it, and the tokens after
    that; `none` when it is never closed. -/
def cutBody (depth : Nat) : List Token → Option (List Token × List (List Token) × List Token)
  | [] => none
  | .symbol .rparen :: rest =>
    match depth with
    | 0 => some ([], [], rest)
    | depth + 1 => push (.symbol .rparen) (cutBody depth rest)
  | .symbol .comma :: rest =>
    match depth with
    | 0 => (cutBody 0 rest).map fun (piece, more, after) => ([], piece :: more, after)
    | depth + 1 => push (.symbol .comma) (cutBody (depth + 1) rest)
  | .symbol .lparen :: rest => push (.symbol .lparen) (cutBody (depth + 1) rest)
  | t :: rest => push t (cutBody depth rest)
where
  push (t : Token) (cut : Option (List Token × List (List Token) × List Token)) :=
    cut.map fun (piece, more, after) => (t :: piece, more, after)

/-! ## Constraints -/

/-- The kind of constraint that a token announces. -/
def constraintKind? (t : Token) : Option ConstraintKind :=
  if t == .keyword .PRIMARY then some .primaryKey
  else if t == .keyword .UNIQUE then some .uniqueKey
  else if t.isWord "FOREIGN" then some .foreignKey
  else if t.isWord "CHECK" then some .check
  else if t.isWord "KEY" || t.isWord "INDEX" || t.isWord "FULLTEXT" then some .index
  else none

/-- Whether a token is the name of a type that is not a reserved word. -/
def namesType : Option Token → Bool
  | some (.identifier word) => (ColumnType.ofName? word).isSome
  | _ => false

/-- The constraint that a piece of a body states. A column may itself be called `key` or
    `index`: it is one where a type follows. -/
def constraint? (piece : List Token) : Option Constraint :=
  match piece with
  | [] => none
  | first :: rest =>
    let kind :=
      if first.isWord "CONSTRAINT" then
        some (((rest.take 2).findSome? constraintKind?).getD .check)
      else if namesType rest.head? then none
      else constraintKind? first
    kind.map fun kind => ⟨kind, Token.join piece⟩

/-! ## Columns -/

namespace Parser

/-- The name of a column's type. A reserved word may be one. -/
def typeName : Parser String := do
  match ← next with
  | some (.identifier word) => return word
  | some (.keyword k) => return k.text
  | _ => unexpected "a data type"

/-- What the parentheses after a type hold: its members, or its size. -/
def typeDetail (column : Column) : Parser Column := do
  if column.type.hasMembers then
    return { column with members := ← items (textLiteral .invalidMember) }
  else
    let length ← typeSize
    if ← takeSymbol .comma then
      return { column with length := some length, scale := some (← typeSize) }
    else return { column with length := some length }

/-- A column of the given name: its type, with a size or members if they follow. -/
def columnType (name : String) : Parser Column := do
  let word ← typeName
  let some type := ColumnType.ofName? word
    | fail (.unknownType word name)
  advance
  if ← takeSymbol .lparen then
    let column ← typeDetail { name, type }
    expectSymbol .rparen
    return column
  else return { name, type }

/-- The literal of a DEFAULT clause. -/
def columnDefault : Parser ColumnDefault := do
  match ← literal with
  | .null => return .null
  | .currentTimestamp => return .currentTimestamp
  | .quoted s | .number s | .word s => return .literal s
  | .default => fail .invalidDefault

/-- The table of a REFERENCES clause, and the column if one is named. -/
def reference : Parser Reference := do
  let table ← objectName
  if ← takeSymbol .lparen then
    let column ← identifier
    expectSymbol .rparen
    return ⟨table, some column⟩
  else return ⟨table, none⟩

/-- One modifier of a column. A token that starts no known one is passed over. -/
def modifier (column : Column) : Parser Column := do
  if ← takeKeyword .NOT then
    expectKeyword .NULL
    return { column with nullable := false }
  else if ← takeKeyword .NULL then
    return { column with nullable := true }
  else if ← takeKeyword .PRIMARY then
    expectWord "KEY"
    return { column with primaryKey := true }
  else if ← takeKeyword .UNIQUE then
    let _ ← takeWord "KEY"
    return { column with unique := true }
  else if ← takeEither (takeWord "AUTO_INCREMENT") (takeWord "AUTOINCREMENT") then
    return { column with autoIncrement := true }
  else if ← takeKeyword .DEFAULT then
    return { column with default := some (← columnDefault) }
  else if ← takeWord "REFERENCES" then
    return { column with references := some (← reference) }
  else
    advance
    return column

/-- A column: its name, its type, and its modifiers in any order. -/
def column : Parser Column := do
  let name ← identifier
  steps (fun _ => false) modifier (← columnType name)

end Parser

/-! ## Bodies -/

/-- The columns and constraints of a table, each in the order of the definition. -/
structure TableBody where
  columns : List Column := []
  constraints : List Constraint := []

/-- Adds a piece of a table's body to what was read before it. -/
def TableBody.addPiece (table : String) (body : TableBody) (piece : List Token) :
    Except Fault TableBody :=
  if piece.isEmpty then .ok body
  else match constraint? piece with
    | some c => .ok { body with constraints := body.constraints ++ [c] }
    | none =>
      match Parser.column.run piece with
      | .error _ => .ok body
      | .ok (c, _) =>
        if body.columns.any fun d => Text.sameName d.name c.name then
          .error (.invalidSyntax (.duplicateColumn c.name table))
        else .ok { body with columns := body.columns ++ [c] }

/-- The body that the pieces make up, which has to have a column. -/
def TableBody.ofPieces (table : String) (pieces : List (List Token)) : Except Fault TableBody := do
  let body ← pieces.foldlM (addPiece table) {}
  if body.columns.isEmpty then .error (.noColumnsParsed table) else .ok body

end PocketSql.Sql
