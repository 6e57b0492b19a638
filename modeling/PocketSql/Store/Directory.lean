/-
  PocketSql.Store.Directory — a store with one file for each key.

  The file of a key is named after it, with characters that do not belong in a file name
  replaced. A value is written to a temporary file first, which then takes the place of
  the old one. A directory inside the directory is no file: its name is taken, and there
  is nothing to read or to replace under it.
-/

import PocketSql.Store

namespace PocketSql

/-- What stands in the way of a file or a directory. -/
inductive Obstacle where
  | missing
  | notDirectory
  | isDirectory
  | fileExists
  | nameTooLong
  deriving DecidableEq

def Obstacle.message : Obstacle → String
  | missing => "No such file or directory (os error 2)"
  | notDirectory => "Not a directory (os error 20)"
  | isDirectory => "Is a directory (os error 21)"
  | fileExists => "File exists (os error 17)"
  | nameTooLong => "File name too long (os error 36)"

def Obstacle.fault (o : Obstacle) : Fault :=
  .storage o.message

/-- A directory: the contents of its files by their names, the names of the directories
    in it, and how long a name may be. -/
structure Directory where
  files : Memory := {}
  folders : List String := []
  nameLimit : Option Nat := none
  deriving DecidableEq

namespace Directory

/-- Whether a character may stand in a file name. -/
def isPlain (c : Char) : Bool :=
  c.isAlphanum || c == '.' || c == '_' || c == '-'

/-- The name of a key's file without its ending. -/
def stem (key : String) : String :=
  String.ofList (key.toList.map fun c => if isPlain c then c else '_')

def fileName (key : String) : String :=
  stem key ++ ".json"

/-- The name of the file that a value is first written to, which has another ending. A
    name that is an ending only counts as a stem. A stem of one dot gives no name: with
    the dot before the ending it names the directory above, as two dots do. -/
def temporaryName? (key : String) : Option String :=
  if stem key == "." then none
  else if (stem key).isEmpty then some (fileName key ++ ".json.tmp")
  else some (stem key ++ ".json.tmp")

/-- Whether a name is too long for the directory. -/
def refuses (d : Directory) (name : String) : Bool :=
  d.nameLimit.any fun limit => limit < name.utf8ByteSize

/-- What keeps a name from being that of a file. -/
def obstacle? (d : Directory) (name : String) : Option Obstacle :=
  if d.refuses name then some .nameTooLong
  else if d.folders.contains name then some .isDirectory
  else none

/-- A file under another name, in place of what was there. -/
def rename (d : Directory) (source target : String) : Directory :=
  match d.files.get? source with
  | some content => { d with files := (d.files.erase source).set target content }
  | none => d

/-- The contents of a key's file, none if it is not there. -/
def read (d : Directory) (key : String) : Except Fault (Option String) :=
  match d.obstacle? (fileName key) with
  | some o => .error o.fault
  | none => .ok (d.files.get? (fileName key))

/-- The directory after a value was put into its key's file. Where only the last step is
    refused, the temporary file stays. -/
def write (d : Directory) (key value : String) : Directory × Except Fault Unit :=
  match temporaryName? key with
  | none => (d, .error Obstacle.isDirectory.fault)
  | some temporary =>
    match d.obstacle? temporary with
    | some o => (d, .error o.fault)
    | none =>
      let d := { d with files := d.files.set temporary value }
      match d.obstacle? (fileName key) with
      | some o => (d, .error o.fault)
      | none => (d.rename temporary (fileName key), .ok ())

/-- The names of all files and directories in it, in ascending order. -/
def names (d : Directory) : List String :=
  (d.files.keys ++ d.folders).mergeSort fun a b => !(b < a)

instance : KeyValueStore Directory where
  read := read
  write := write

end Directory

end PocketSql
