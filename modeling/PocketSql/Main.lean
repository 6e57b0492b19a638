/-
  PocketSql.Main — the command line program.

  Reads lines, prints what the shell says, and keeps the files of the data directory as
  the shell's store has them.
-/

import PocketSql.Shell.Program
import Std.Time

open PocketSql

namespace PocketSql.Main

/-- The names of the files that a session reads. -/
def fileNames : List String :=
  let config : Config := {}
  Shell.LineLog.fileName ::
    [config.databasesKey, config.currentDatabaseKey, config.historyKey].map Directory.fileName

/-- The path of a file. The empty path is the working directory. -/
def path (dir name : String) : String :=
  if dir.isEmpty then name else dir ++ "/" ++ name

/-- What is there under a name but cannot be read counts as a directory. -/
def readDirectory (dir : String) : IO Directory := do
  let mut d : Directory := { nameLimit := some 255 }
  for name in fileNames do
    try
      let content ← IO.FS.readFile (path dir name)
      d := { d with files := d.files.set name content }
    catch
      | .noFileOrDirectory .. => pure ()
      | _ => d := { d with folders := name :: d.folders }
  return d

/-- Writes the files whose contents are not the old ones. -/
def writeDirectory (dir : String) (old new : Directory) : IO Unit := do
  for (name, content) in new.files.entries do
    if old.files.get? name != some content then
      let temporary := path dir (name ++ ".tmp")
      IO.FS.writeFile temporary content
      IO.FS.rename temporary (path dir name)

def print (printed : List Shell.Printed) : IO Unit := do
  for p in printed do
    match p with
    | .out s => IO.print s
    | .err s => IO.eprint s
  (← IO.getStdout).flush

def currentInstant : IO Instant := do
  let t ← Std.Time.Timestamp.now
  let nanos := t.toNanosecondsSinceUnixEpoch.toInt
  return { seconds := nanos / 1000000000, nanos := (nanos % 1000000000).toNat }

/-- Takes a line with the clock read now. A step is a pure function, so its time is
    measured on a trial run of it that is waited for. -/
def step (sh : Shell Directory) (line : String) :
    IO (Shell Directory × Option (List Shell.Printed)) := do
  let now ← currentInstant
  let started ← IO.monoNanosNow
  let _ ← IO.wait (Task.spawn fun _ => (sh.step (fun _ => { now, elapsed := .zero }) line).1)
  let spent := (← IO.monoNanosNow) - started
  return sh.step (fun _ => { now, elapsed := .ofRatio false spent 1000000 }) line

/-- Shows the prompt where somebody sits at the input. -/
def showPrompt (input : IO.FS.Stream) (sh : Shell Directory) : IO Unit := do
  if ← input.isTty then print [.out sh.prompt]

partial def loop (dir : String) (input : IO.FS.Stream) (sh : Shell Directory) :
    IO (Shell Directory) := do
  showPrompt input sh
  let line ← input.getLine
  if line.isEmpty then return sh
  let (next, printed) ← step sh (Shell.readLine line)
  match printed with
  | none => return next
  | some printed =>
    print printed
    writeDirectory dir sh.engine.store next.engine.store
    loop dir input next

def runSession (options : Shell.Options) : IO Unit := do
  let dir ← readDirectory options.dataDir
  IO.print (Shell.banner options.dataDir)
  let sh ← loop options.dataDir (← IO.getStdin) (Shell.start options dir)
  writeDirectory options.dataDir sh.engine.store sh.finish
  IO.print Shell.farewell

/-- What an error of the file system says. -/
def causeOf : IO.Error → String
  | .noFileOrDirectory .. => Obstacle.missing.message
  | .alreadyExists .. => Obstacle.fileExists.message
  | .inappropriateType .. => Obstacle.notDirectory.message
  | .invalidArgument .. => Obstacle.nameTooLong.message
  | e => toString e

/-- Whether there is a directory: only then something is there under its single dot. -/
def isDirectory (dir : String) : IO Bool := do
  try
    IO.FS.createDir (dir ++ "/.")
    return true
  catch
    | .alreadyExists .. => return true
    | _ => return false

/-- Creates a directory unless it is there. -/
def createDirectory (dir : String) : IO Unit := do
  try IO.FS.createDir dir
  catch e =>
    match e with
    | .alreadyExists .. => unless ← isDirectory dir do throw e
    | _ => throw e

/-- Creates the first of some directories, each on the way to the one before it. -/
def createAll : List String → IO Unit
  | [] => pure ()
  | dir :: onTheWay => do
    try createDirectory dir
    catch
      | .noFileOrDirectory .. => do
        createAll onTheWay
        createDirectory dir
      | e => throw e

/-- The directories on the way that a path goes, the longest way first. -/
def onTheWay (p : Path) : List String :=
  let lead := if p.origin == Place.root then "/" else ""
  let lengths := (List.range p.steps.length).reverse.filter (· != 0)
  lengths.map fun n => lead ++ "/".intercalate (p.steps.take n)

/-- Creates the data directory; the complaint if that cannot be done. -/
def openDirectory (dir : String) : IO (Option Shell.Ending) := do
  try
    unless dir.isEmpty do createAll (dir :: onTheWay (.ofText dir))
    return none
  catch e => return some (.complaint (Shell.cannotOpen dir (causeOf e)))

def finish (e : Shell.Ending) : IO UInt32 := do
  print e.printed
  return e.code

end PocketSql.Main

open PocketSql.Main in
def main (args : List String) : IO UInt32 := do
  match Shell.readArguments {} args with
  | .usage => finish { printed := [.out Shell.usageText] }
  | .invalid message => finish (.complaint message)
  | .run options =>
    match ← openDirectory options.dataDir with
    | some ending => finish ending
    | none =>
      runSession options
      return 0
