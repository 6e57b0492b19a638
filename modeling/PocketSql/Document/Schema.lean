/-
  PocketSql.Document.Schema — catalogs as documents.

  The databases of a catalog are one document and the name of the selected one is
  another. A catalog that was read back has one database for each key, the last of
  several in the place of the first, and selects only a database that it has.
-/

import PocketSql.Document.Record
import PocketSql.Schema.Catalog

namespace PocketSql

/-! ## Instants and values -/

def Instant.toJson (i : Instant) : Json :=
  .ofString (i.text "Z")

def Instant.ofJson? (j : Json) : Option Instant :=
  j.asText?.bind Instant.ofText?

/-- A float in a document. What is not finite becomes null. -/
def Binary64.toJson (x : Binary64) : Json :=
  if x.isFinite then .number x.documentText else .null

namespace Value

def toJson : Value → Json
  | null => .null
  | boolean b => .bool b
  | integer i => .number (toString i.toInt)
  | float x => x.toJson
  | text s => .ofString s

def ofJson? : Json → Option Value
  | .null => some null
  | .bool b => some (boolean b)
  | .text s => s.map text
  | .number n =>
    match Json.asInt64? (.number n) with
    | some i => some (integer i)
    | none => (Json.asFloat? (.number n)).map float
  | .array _ | .object _ => none

end Value

/-! ## Columns and tables -/

namespace ColumnDefault

def toJson : ColumnDefault → Json
  | null => .ofFields [("kind", some (.ofString "null"))]
  | currentTimestamp => .ofFields [("kind", some (.ofString "currentTimestamp"))]
  | literal raw =>
    .ofFields [("kind", some (.ofString "literal")), ("value", some (.ofString raw))]

/-- The kind of a default. In an object it is one of several words, in an array it is
    written as a text. -/
def kind? : Json → Json → Option String
  | .array _ => Json.asText?
  | _ => Json.asWord? some

/-- A default without a value of its own may come with null in its place. -/
def ofJson? (j : Json) : Option ColumnDefault := do
  let r ← j.record? ["kind", "value"] 2
  let hasNone := match r.lookup "value" with
    | none | some .null => true
    | _ => false
  match ← r.get? "kind" (kind? j) with
  | "null" => if hasNone then some null else none
  | "currentTimestamp" => if hasNone then some currentTimestamp else none
  | "literal" => (r.get? "value" Json.asText?).map literal
  | _ => none

end ColumnDefault

namespace Reference

def toJson (r : Reference) : Json :=
  .ofFields [("table", some (.ofString r.table)),
    ("column", some (.ofOption (r.column.map .ofString)))]

def ofJson? (j : Json) : Option Reference := do
  let r ← j.record? ["table", "column"] 2
  return {
    table := ← r.get? "table" Json.asText?
    column := ← r.getD? "column" none (Json.asOption? Json.asText?) }

end Reference

namespace Column

def toJson (c : Column) : Json :=
  .ofFields [
    ("name", some (.ofString c.name)),
    ("type", some (.ofString c.type.name)),
    ("length", c.length.map .ofNat),
    ("scale", c.scale.map .ofNat),
    ("nullable", some (.bool c.nullable)),
    ("primaryKey", some (.bool c.primaryKey)),
    ("autoIncrement", some (.bool c.autoIncrement)),
    ("unique", some (.bool c.unique)),
    ("defaultValue", c.default.map (·.toJson)),
    ("foreignKey", c.references.map (·.toJson)),
    ("members", if c.members.isEmpty then none else some (.array (c.members.map .ofString)))]

def fieldNames : List String :=
  ["name", "type", "length", "scale", "nullable", "primaryKey", "autoIncrement", "unique",
    "defaultValue", "foreignKey", "members"]

def ofJson? (j : Json) : Option Column := do
  let r ← j.record? fieldNames 8
  let size := Json.asOption? (Json.asNat? UInt32.size)
  return {
    name := ← r.get? "name" Json.asText?
    type := ← r.get? "type" (Json.asWord? ColumnType.ofExactName?)
    length := ← r.getD? "length" none size
    scale := ← r.getD? "scale" none size
    nullable := ← r.get? "nullable" Json.asBool?
    primaryKey := ← r.get? "primaryKey" Json.asBool?
    autoIncrement := ← r.get? "autoIncrement" Json.asBool?
    unique := ← r.get? "unique" Json.asBool?
    default := ← r.getD? "defaultValue" none (Json.asOption? ColumnDefault.ofJson?)
    references := ← r.getD? "foreignKey" none (Json.asOption? Reference.ofJson?)
    members := ← r.getD? "members" [] (Json.asList? Json.asText?) }

end Column

namespace Constraint

def toJson (c : Constraint) : Json :=
  .ofFields [("kind", some (.ofString c.kind.name)),
    ("definition", some (.ofString c.definition))]

def ofJson? (j : Json) : Option Constraint := do
  let r ← j.record? ["kind", "definition"] 2
  return {
    kind := ← r.get? "kind" (Json.asWord? ConstraintKind.ofName?)
    definition := ← r.get? "definition" Json.asText? }

end Constraint

namespace Table

def toJson (t : Table) : Json :=
  .ofFields [
    ("name", some (.ofString t.name)),
    ("columns", some (.array (t.columns.map (·.toJson)))),
    ("rows", some (.array (t.rows.map fun row => .array (row.map (·.toJson))))),
    ("indexes", some (.array (t.indexes.map .ofString))),
    ("constraints", some (.array (t.constraints.map (·.toJson)))),
    ("engine", some (.ofString t.engine)),
    ("charset", some (.ofString t.charset))]

def fieldNames : List String :=
  ["name", "columns", "rows", "indexes", "constraints", "engine", "charset"]

def ofJson? (j : Json) : Option Table := do
  let r ← j.record? fieldNames 3
  let blank : Table := { name := ← r.get? "name" Json.asText?, columns := [] }
  return {
    name := blank.name
    columns := ← r.get? "columns" (Json.asList? Column.ofJson?)
    rows := ← r.get? "rows" (Json.asList? (Json.asList? Value.ofJson?))
    indexes := ← r.getD? "indexes" blank.indexes (Json.asList? Json.asText?)
    constraints := ← r.getD? "constraints" blank.constraints (Json.asList? Constraint.ofJson?)
    engine := ← r.getD? "engine" blank.engine Json.asText?
    charset := ← r.getD? "charset" blank.charset Json.asText? }

end Table

/-! ## Databases and catalogs -/

namespace Database

def toJson (db : Database) : Json :=
  .ofFields [
    ("name", some (.ofString db.name)),
    ("tables", some (.array (db.tables.map (·.toJson)))),
    ("createdAt", some db.createdAt.toJson),
    ("lastModified", some db.lastModified.toJson),
    ("version", some (.ofNat db.version)),
    ("description", db.description.map .ofString)]

def fieldNames : List String :=
  ["name", "tables", "createdAt", "lastModified", "version", "description"]

def ofJson? (j : Json) : Option Database := do
  let r ← j.record? fieldNames 5
  return {
    name := ← r.get? "name" Json.asText?
    tables := ← r.get? "tables" (Json.asList? Table.ofJson?)
    createdAt := ← r.get? "createdAt" Instant.ofJson?
    lastModified := ← r.get? "lastModified" Instant.ofJson?
    version := ← r.get? "version" (Json.asNat? UInt64.size)
    description := ← r.getD? "description" none (Json.asOption? Json.asText?) }

end Database

/-- The contents of a text that has to be a document of some form. -/
def Json.decode {α : Type} (decode : Json → Option α) (s : String) : Except Fault α :=
  match (Json.ofText? s).bind decode with
  | some a => .ok a
  | none => .error .damagedDocument

namespace Catalog

/-- The document of all databases, in the order of their creation. -/
def databasesText (c : Catalog) : String :=
  (Json.array (c.databases.map (·.toJson))).render

/-- The document of the selected database's name. -/
def currentText (c : Catalog) : String :=
  (Json.ofOption (c.current.map .ofString)).render

/-- The catalog with a database that was read, under its key. -/
def keep (c : Catalog) (db : Database) : Except Fault Catalog := do
  db.validate
  return c.put (key db.name) db

/-- The catalog that two documents hold. A document that is not there counts as empty. -/
def ofTexts (databases current : Option String) : Except Fault Catalog := do
  let list ← match databases with
    | some s => Json.decode (Json.asList? Database.ofJson?) s
    | none => pure []
  let c ← list.foldlM keep {}
  match current with
  | some s =>
    let name ← Json.decode (Json.asOption? Json.asText?) s
    return { c with current := name.filter c.hasDatabase }
  | none => return c

end Catalog

end PocketSql
