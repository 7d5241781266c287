import JobMatrix.CommandLine.Perform
import JobMatrix.Host.Machine.Step
import JobMatrix.History.Document

/-! The program. It takes the files of the project into a tree, carries out the command on it, and
puts what the command has changed back on the disk. Steps run on the machine of this library. -/

namespace JobMatrix.Disk

open JobMatrix.Path (Place)

/-- The entry that a file on the disk stands for. A file with an interpreter line can be run. -/
def entryOf (data : List UInt8) : Entry :=
  match History.Store.ofText? (String.ofList (Text.ofBytes data)) with
  | some store => .history store
  | none => .file data ((data.take 2) == [35, 33])

def contentOf? (e : Entry) : Option (List UInt8) :=
  match e.kind with
  | .file data => some data
  | .history store => store.text?.map Text.bytes
  | _ => none

def pathOf (place : Place) : String := (Path.ofPlace place).text

def isDirectory (path : String) : IO Bool := do
  try return (← (← IO.FS.realPath path).metadata).type == .dir catch _ => return false

def takeFile (t : FileTree) (place : Place) : IO FileTree := do
  try
    let data ← IO.FS.readBinFile (pathOf place)
    return t.put place (entryOf data.toList)
  catch _ => return t

/-- Takes a directory with all that it holds into a tree; of a repository only that it is there. -/
partial def takeDirectory (t : FileTree) (place : Place) : IO FileTree := do
  let t := t.put place .directory
  if place.getLast? == some Project.repositoryName then return t
  let mut t := t
  for e in ← (← IO.FS.realPath (pathOf place)).readDir do
    let inner := place ++ [e.fileName]
    if ← isDirectory (pathOf inner) then t ← takeDirectory t inner else t ← takeFile t inner
  return t

/-- The tree around a directory: the directories above it, what marks them as projects, and all
files of the project. -/
def treeAround (cwd : Place) (home : String) : IO FileTree := do
  let mut t : FileTree := {}
  for place in (Project.ancestors cwd).reverse do
    if !place.isEmpty then t := t.put place .directory
    for name in [Project.directoryName, Project.repositoryName] do
      if ← isDirectory (pathOf (place ++ [name])) then t := t.put (place ++ [name]) .directory
  t ← takeDirectory t ((Project.root? t cwd).getD cwd)
  let settings := Path.resolve cwd (Settings.homePath home)
  if (t.entry? settings).isNone then
    for place in (Project.ancestors settings.dropLast).reverse do
      if (t.entry? place).isNone then t := t.put place .directory
    t ← takeFile t settings
  return t

def putBack (old new : FileTree) : IO Unit := do
  for (place, e) in new.entries do
    if e.isDirectory then
      if (old.entry? place).isNone then IO.FS.createDirAll (pathOf place)
    else
      let before := (old.entry? place).bind contentOf?
      match contentOf? e with
      | some data =>
        if before != some data then
          IO.FS.writeBinFile (pathOf place) (ByteArray.mk data.toArray)
      | none => pure ()
  for (place, e) in old.entries do
    if (new.entry? place).isNone && (contentOf? e).isSome then IO.FS.removeFile (pathOf place)

def dateOf (day : Nat) : Nat × Nat × Nat :=
  let era := day / 146097
  let d := day % 146097
  let year := (d - d / 1460 + d / 36524 - d / 146096) / 365
  let rest := d - (365 * year + year / 4 - year / 100)
  let month := (5 * rest + 2) / 153
  let date := rest - (153 * month + 2) / 5 + 1
  let month' := if month < 10 then month + 3 else month - 9
  (era * 400 + year + (if month' ≤ 2 then 1 else 0), month', date)

def timeText (seconds : Nat) : String :=
  let two (n : Nat) : String := if n < 10 then s!"0{n}" else toString n
  let (year, month, date) := dateOf (seconds / 86400 + 719468)
  let s := seconds % 86400
  s!"{year}-" ++ two month ++ "-" ++ two date ++ " " ++ two (s / 3600) ++ ":" ++
    two (s / 60 % 60) ++ ":" ++ two (s % 60)

def now : IO String := do
  let (_, path) ← IO.FS.createTempFile
  let modified := (← path.metadata).modified
  IO.FS.removeFile path
  return timeText modified.sec.toNat

def environment : IO Env := do
  let mut env : Env := []
  for name in ["PATH", "HOME", "LANG", "COLUMNS", "TERM", CommandLine.levelVariable] do
    if let some value ← IO.getEnv name then env := Dict.put env name value
  return env

def runId : IO String := do
  return runIdOf ((← IO.getRandomBytes 15).toList.foldl (fun n b => 256 * n + b.toNat) 0)

def run (words : List String) : IO UInt32 := do
  let cwd := Path.resolve [] (.ofText (← IO.currentDir).toString)
  let env ← environment
  let tree ← treeAround cwd ((Dict.get? env "HOME").getD "/root")
  let machine := Machine.ofTree tree
  let o := CommandLine.perform { machine, cwd, env, runId := ← runId, now := ← now } words
  putBack machine.tree o.world.tree
  IO.print o.out
  IO.eprint o.err
  match o.code with
  | .ok code => return UInt32.ofNat code.toNat
  | .error f =>
    IO.eprintln f.text
    return 1

end JobMatrix.Disk

def main (args : List String) : IO UInt32 := JobMatrix.Disk.run args
