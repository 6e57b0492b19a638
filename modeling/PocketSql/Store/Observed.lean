/-
  PocketSql.Store.Observed — a store in memory that may refuse, and that keeps a log.

  Which writes are accepted is given in advance, by their number.
-/

import PocketSql.Store

namespace PocketSql

/-- A store in memory with a log of writes and a plan of refusals. -/
structure Observed where
  memory : Memory := {}
  /-- Every write that was asked for, refused ones too, latest first. -/
  attempts : List (String × String) := []
  /-- Whether the write of some number is accepted, counted from 0. -/
  accepts : Nat → Bool := fun _ => true
  readable : Bool := true

namespace Observed

def read (s : Observed) (key : String) : Except Fault (Option String) :=
  if s.readable then .ok (s.memory.get? key) else .error (.storage "read refused")

def write (s : Observed) (key value : String) : Observed × Except Fault Unit :=
  let attempts := (key, value) :: s.attempts
  if s.accepts s.attempts.length then
    ({ s with memory := s.memory.set key value, attempts }, .ok ())
  else ({ s with attempts }, .error (.storage "write refused"))

instance : KeyValueStore Observed where
  read := read
  write := write

end Observed

end PocketSql
