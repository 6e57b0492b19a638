/-
  PocketSql.Shell.LineLog — the lines that were entered, kept over sessions.

  A line that repeats the one before it is not kept again. The file starts with a mark of
  its format; line breaks and backslashes in a line are escaped.
-/

namespace PocketSql.Shell

/-- The lines entered so far. -/
structure LineLog where
  /-- Oldest first. -/
  lines : List String := []
  /-- Whether a line was added since the log was read. -/
  changed : Bool := false

namespace LineLog

def fileName : String := ".tabula_history"

/-- How many lines are kept. -/
def capacity : Nat := 100

/-- The log with one more line, unless it is empty or repeats the last. -/
def add (log : LineLog) (line : String) : LineLog :=
  if line.isEmpty || log.lines.getLast? == some line then log
  else
    let lines := log.lines ++ [line]
    { lines := lines.drop (lines.length - capacity), changed := true }

def escape (c : Char) : List Char :=
  if c == '\\' then ['\\', '\\'] else if c == '\n' then ['\\', 'n'] else [c]

def unescape : List Char → List Char
  | '\\' :: 'n' :: rest => '\n' :: unescape rest
  | '\\' :: c :: rest => c :: unescape rest
  | c :: rest => c :: unescape rest
  | [] => []

def mark : String := "#V2"

def text (log : LineLog) : String :=
  String.join ((mark :: log.lines.map fun line =>
    String.ofList (line.toList.flatMap escape)).map (· ++ "\n"))

def ofText (s : String) : LineLog :=
  let lines := (s.splitOn "\n").filter fun line => !line.isEmpty && line != mark
  { lines := lines.map fun line => String.ofList (unescape line.toList) }

end LineLog

end PocketSql.Shell
