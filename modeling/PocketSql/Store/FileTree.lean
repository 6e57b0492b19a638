/-
  PocketSql.Store.FileTree — directories inside directories.

  A path leads from the working directory, or from the root, over names with slashes
  between them. Two dots lead back up. Empty names and single dots lead nowhere, so that
  different paths may lead to one place; but what stands before them has to be there.

  To open a path, the directory at its end is created. Only if the way to it is missing,
  the directories on the way are created first, in the same manner. A path that ends with
  a single dot names a directory that has to be there already, so only the ones before it
  are created.
-/

import PocketSql.Store.Directory

namespace PocketSql

/-- Where a directory stands: the names on the way to it. -/
abbrev Place := List String

namespace Place

def root : Place := ["/"]

/-- The directory above; nothing is above the root. -/
def above (p : Place) : Place :=
  if p == root then root else p.dropLast

end Place

/-- What a path says. -/
structure Path where
  /-- Where it starts. -/
  origin : Place
  /-- The names in it that lead somewhere. -/
  steps : List String
  /-- Whether a single dot comes last. -/
  dotted : Bool

/-- The path that a text names. -/
def Path.ofText (s : String) : Path :=
  let names := (s.splitOn "/").filter (· != "")
  { origin := if s.startsWith "/" then Place.root else []
    steps := names.filter (· != ".")
    dotted := names.getLast? == some "." }

/-- Directories by where they stand. -/
structure FileTree where
  directories : List (Place × Directory) := []
  /-- How long a name may be. -/
  nameLimit : Option Nat := none
  /-- How long a path may be. -/
  pathLimit : Option Nat := none

namespace FileTree

/-- The directory at a place; an empty one if nothing was put there. -/
def directory (t : FileTree) (p : Place) : Directory :=
  (t.directories.lookup p).getD { nameLimit := t.nameLimit }

def set (t : FileTree) (p : Place) (d : Directory) : FileTree :=
  { t with directories := (p, d) :: t.directories.filter (·.1 != p) }

/-- The place that one name leads to. -/
def enter (t : FileTree) (p : Place) (name : String) : Except Obstacle Place :=
  let d := t.directory p
  if name == ".." then .ok p.above
  else if d.folders.contains name then .ok (p ++ [name])
  else if d.refuses name then .error .nameTooLong
  else if (d.files.get? name).isSome then .error .notDirectory
  else .error .missing

/-- The place that names lead to, one after the other. -/
def find (t : FileTree) (p : Place) (steps : List String) : Except Obstacle Place :=
  steps.foldlM t.enter p

/-- The tree with a directory at the end of the way `before`. One that is there is left as
    it is. -/
def create (t : FileTree) (origin : Place) (before : List String) (name : String) :
    Except Obstacle FileTree := do
  let p ← t.find origin before
  match t.enter p name with
  | .ok _ => .ok t
  | .error .missing =>
    let d := t.directory p
    .ok (t.set p { d with folders := d.folders ++ [name] })
  | .error .notDirectory => .error .fileExists
  | .error o => .error o

/-- The tree with a directory at the end of a way, which is given backwards, and with
    those on the way if they are missing. What was created before an obstacle stays. -/
def createAll (t : FileTree) (origin : Place) : List String → FileTree × Except Obstacle Unit
  | [] => (t, .ok ())
  | name :: before =>
    match t.create origin before.reverse name with
    | .ok t => (t, .ok ())
    | .error .missing =>
      match t.createAll origin before with
      | (t, .ok ()) =>
        match t.create origin before.reverse name with
        | .ok t => (t, .ok ())
        | .error o => (t, .error o)
      | refused => refused
    | .error o => (t, .error o)

/-- The tree with what has to be created to open a path. -/
def prepare (t : FileTree) (path : Path) : FileTree × Except Obstacle Unit :=
  let backwards := path.steps.reverse
  if path.dotted then
    match t.find path.origin path.steps with
    | .error .missing => t.createAll path.origin backwards.tail
    | _ => (t, .ok ())
  else t.createAll path.origin backwards

/-- Opens a directory by its path: the tree afterwards, and where the directory stands. -/
def reach (t : FileTree) (s : String) : FileTree × Except Obstacle Place :=
  let path := Path.ofText s
  if t.pathLimit.any fun limit => limit < s.utf8ByteSize then (t, .error .nameTooLong)
  else
    match t.prepare path with
    | (t, .ok ()) => (t, t.find path.origin path.steps)
    | (t, .error o) => (t, .error o)

end FileTree

end PocketSql
