/-
  PocketSql.Shell.Input — the lines of an input.

  A line ends at a line feed, which may have a carriage return before it. Within a line a
  backspace takes back what was typed last and is not taken back yet: a whole cluster.
  The size of each cluster is kept in one byte, so of a cluster that is longer only the
  rest modulo 256 is taken back.
-/

import PocketSql.Text.Cluster

namespace PocketSql.Shell

/-! ## Backspaces -/

/-- What is left of a line while it is typed. -/
structure Typed where
  /-- The characters, the last one first. -/
  backwards : List Char := []
  /-- The sizes in bytes of the clusters they were typed in, the last one first. -/
  sizes : List UInt8 := []

namespace Typed

def backspace : Char := '\x08'

/-- How many bytes a text takes in UTF-8. -/
def byteCount (cs : List Char) : Nat :=
  cs.foldl (fun n c => n + c.utf8Size) 0

/-- The text, read backwards, without its last `n` bytes. -/
def dropBytes (n : Nat) : List Char → List Char
  | [] => []
  | c :: cs => if n == 0 then c :: cs else dropBytes (n - c.utf8Size) cs

/-- Takes back the cluster typed last, if there is one. -/
def takeBack (t : Typed) : Typed :=
  match t.sizes with
  | [] => t
  | n :: sizes => { backwards := dropBytes n.toNat t.backwards, sizes }

/-- Types one cluster. A backspace is a cluster of its own. -/
def type (t : Typed) (cluster : List Char) : Typed :=
  if cluster == [backspace] then t.takeBack
  else {
    backwards := cluster.reverse ++ t.backwards
    sizes := UInt8.ofNat (byteCount cluster) :: t.sizes }

/-- The line as it stands. -/
def text (t : Typed) : String :=
  String.ofList t.backwards.reverse

end Typed

/-- A line with the backspaces in it carried out. -/
def withoutBackspaces (line : String) : String :=
  ((Text.clusters line.toList).foldl Typed.type {}).text

/-! ## Lines -/

/-- A line of input without the line break at its end. -/
def withoutBreak (line : String) : String :=
  if line.endsWith "\r\n" then (line.dropEnd 2).toString
  else if line.endsWith "\n" then (line.dropEnd 1).toString
  else line

/-- What a line of input, with its line break, says. -/
def readLine (line : String) : String :=
  withoutBackspaces (withoutBreak line)

/-- The lines of an input. What follows the last line break is a line if it is not
    empty. -/
def inputLines (s : String) : List String :=
  let lines := s.splitOn "\n"
  let whole := lines.dropLast.map fun line => readLine (line ++ "\n")
  match lines.getLast? with
  | some last => if last.isEmpty then whole else whole ++ [readLine last]
  | none => whole

end PocketSql.Shell
