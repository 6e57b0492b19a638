/-
  PocketSql.Shell.Program — a call of the program as a function.

  Out of the arguments, the files and the whole input come the files afterwards, what is
  printed, and the exit code.
-/

import PocketSql.Shell
import PocketSql.Store.FileTree

namespace PocketSql.Shell

/-- What a call of the program ends with. -/
structure Ending where
  printed : List Printed
  code : UInt32 := 0

/-- The end of a call that cannot do what it is asked for. -/
def Ending.complaint (message : String) : Ending :=
  { printed := [.err ("Error: " ++ message ++ "\n")], code := 1 }

/-- What is said of a data directory that cannot be opened, and of the cause. -/
def cannotOpen (dataDir cause : String) : String :=
  "cannot open data directory " ++ dataDir ++ "\n\nCaused by:\n    0: "
    ++ (Fault.storage cause).message ++ "\n    1: " ++ cause

/-- A call of the program. -/
def call (tree : FileTree) (clock : Nat → Reading) (args : List String) (input : String) :
    FileTree × Ending :=
  match readArguments {} args with
  | .usage => (tree, { printed := [.out usageText] })
  | .invalid message => (tree, .complaint message)
  | .run options =>
    match tree.reach options.dataDir with
    | (tree, .error o) => (tree, .complaint (cannotOpen options.dataDir o.message))
    | (tree, .ok place) =>
      let (dir, printed) := session options (tree.directory place) clock input
      (tree.set place dir, { printed })

end PocketSql.Shell
