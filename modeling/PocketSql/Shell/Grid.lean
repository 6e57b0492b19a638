/-
  PocketSql.Shell.Grid — results as tables of characters.

  Every column is as wide as its widest text, counted in characters. Headers stand in the
  middle and values at the left.
-/

import PocketSql.Query.Result

namespace PocketSql.Shell

def spaces (n : Nat) : String :=
  String.ofList (List.replicate n ' ')

/-- A text at the left of a field. -/
def atLeft (width : Nat) (s : String) : String :=
  s ++ spaces (width - s.length)

/-- A text at the right of a field. -/
def atRight (width : Nat) (s : String) : String :=
  spaces (width - s.length) ++ s

/-- A text in the middle of a field; an odd space goes to its right. -/
def inMiddle (width : Nat) (s : String) : String :=
  let free := width - s.length
  spaces (free / 2) ++ s ++ spaces (free - free / 2)

/-- A line of the grid with each text in a field of its column. -/
def gridLine (place : Nat → String → String) (widths : List Nat) (texts : List String) : String :=
  "|" ++ "|".intercalate ((widths.zip texts).map fun (w, s) => " " ++ place w s ++ " ") ++ "|\n"

/-- The line between header and rows. -/
def ruler (widths : List Nat) : String :=
  "+" ++ "+".intercalate (widths.map fun w => String.ofList (List.replicate (w + 2) '-')) ++ "+\n"

/-- The text of a row in a column. -/
def cellText (row : ResultRow) (column : String) : String :=
  ((row.lookup column).map Value.display).getD ""

/-- A header and one line for each row, framed. -/
def grid (columns : List String) (rows : List ResultRow) : String :=
  let cells := rows.map fun row => columns.map (cellText row)
  let widths := columns.zipIdx.map fun (c, i) =>
    cells.foldl (fun w texts => max w ((texts[i]?.map String.length).getD 0)) c.length
  let line := ruler widths
  line ++ gridLine inMiddle widths columns ++ line
    ++ String.join (cells.map (gridLine atLeft widths))
    ++ (if cells.isEmpty then "" else line)

end PocketSql.Shell
