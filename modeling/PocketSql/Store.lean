/-
  PocketSql.Store — key-value stores, which an engine keeps its state in.

  A store holds one text under each key. Reading and writing may be refused; a refused
  write leaves every value as it was.
-/

import PocketSql.Fault

namespace PocketSql

/-- Texts under keys, kept in some state `σ`. -/
class KeyValueStore (σ : Type) where
  /-- The value under a key, none if it was never written. -/
  read : σ → String → Except Fault (Option String)
  /-- The store after writing a value, and whether that went well. -/
  write : σ → String → String → σ × Except Fault Unit

/-- Values under keys, each key once, in the order of their first writing. -/
structure Memory where
  entries : List (String × String) := []
  deriving DecidableEq

namespace Memory

def get? (m : Memory) (key : String) : Option String :=
  m.entries.lookup key

def set (m : Memory) (key value : String) : Memory :=
  if m.entries.any (·.1 == key) then
    ⟨m.entries.map fun e => if e.1 == key then (key, value) else e⟩
  else ⟨m.entries ++ [(key, value)]⟩

def erase (m : Memory) (key : String) : Memory :=
  ⟨m.entries.filter (·.1 != key)⟩

def keys (m : Memory) : List String :=
  m.entries.map (·.1)

instance : KeyValueStore Memory where
  read m key := .ok (m.get? key)
  write m key value := (m.set key value, .ok ())

end Memory

end PocketSql
