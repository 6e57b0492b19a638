/-
  PocketSql.Engine.History — the log of executed statements.

  Entries stand newest first. Each gets the next number, and the oldest ones are dropped
  beyond the capacity.
-/

import PocketSql.Document.Schema

namespace PocketSql

/-- What the log keeps of one statement. -/
structure HistoryEntry where
  id : Nat
  /-- The start of the statement. -/
  query : String
  /-- The kind of a statement that succeeded, the fault's class of one that did not. -/
  label : String
  timestamp : Instant
  success : Bool
  /-- How long it took, in milliseconds. -/
  elapsed : Binary64
  rowCount : Option Nat := none
  affectedRows : Option Nat := none
  deriving DecidableEq

/-- The log and the number of its next entry. -/
structure History where
  entries : List HistoryEntry := []
  capacity : Nat
  nextId : Nat := 1
  deriving DecidableEq

namespace HistoryEntry

def toJson (e : HistoryEntry) : Json :=
  .ofFields [
    ("id", some (.ofNat e.id)),
    ("query", some (.ofString e.query)),
    ("resultLabel", some (.ofString e.label)),
    ("timestamp", some e.timestamp.toJson),
    ("success", some (.bool e.success)),
    ("executionTime", some e.elapsed.toJson),
    ("rowCount", e.rowCount.map .ofNat),
    ("affectedRows", e.affectedRows.map .ofNat)]

def fieldNames : List String :=
  ["id", "query", "resultLabel", "timestamp", "success", "executionTime", "rowCount",
    "affectedRows"]

def ofJson? (j : Json) : Option HistoryEntry := do
  let r ← j.record? fieldNames 6
  let count := Json.asOption? (Json.asNat? UInt64.size)
  return {
    id := ← r.get? "id" (Json.asNat? UInt64.size)
    query := ← r.get? "query" Json.asText?
    label := ← r.get? "resultLabel" Json.asText?
    timestamp := ← r.get? "timestamp" Instant.ofJson?
    success := ← r.get? "success" Json.asBool?
    elapsed := ← r.get? "executionTime" Json.asFloat?
    rowCount := ← r.getD? "rowCount" none count
    affectedRows := ← r.getD? "affectedRows" none count }

end HistoryEntry

namespace History

/-- The log of entries that were read back, newest first. -/
def ofEntries (entries : List HistoryEntry) (capacity : Nat) : History :=
  { entries := entries.take capacity
    capacity
    nextId := ((entries.map (·.id)).max?.map (· + 1)).getD 1 }

/-- The log with one more entry, which gets the next number. -/
def record (h : History) (e : HistoryEntry) : History :=
  { h with
    entries := ({ e with id := h.nextId } :: h.entries).take h.capacity
    nextId := h.nextId + 1 }

def clear (h : History) : History :=
  { h with entries := [] }

def text (h : History) : String :=
  (Json.array (h.entries.map (·.toJson))).render

/-- The log that a document holds; an empty one if it is not there. -/
def ofText (document : Option String) (capacity : Nat) : Except Fault History :=
  match document with
  | some s => (Json.decode (Json.asList? HistoryEntry.ofJson?) s).map (ofEntries · capacity)
  | none => .ok { capacity }

end History

/-- The first characters of a statement, at most `chars` of them. -/
def truncateQuery (query : String) (chars : Nat) : String :=
  String.ofList (query.toList.take chars)

end PocketSql
