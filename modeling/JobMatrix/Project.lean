import JobMatrix.FileTree

/-! Projects: a project's directory holds its settings, its history and its declarations, and stands
at the root of a repository. -/

namespace JobMatrix.Project

open JobMatrix.Path (Place)

def directoryName : String := ".matrixci"

def repositoryName : String := ".git"

def settingsName : String := "config"

def historyName : String := "history.db"

def declarationName : String := "pipeline.yaml"

def isRoot (t : FileTree) (place : Place) : Bool :=
  t.isDirectory place { names := [directoryName] } &&
    t.isDirectory place { names := [repositoryName] }

def ancestors (place : Place) : List Place :=
  ((List.range (place.length + 1)).map place.take).reverse

/-- The first place, from one upwards, that holds both a project directory and a repository. -/
def root? (t : FileTree) (start : Place) : Option Place :=
  (ancestors start).find? (isRoot t)

def directory? (t : FileTree) (start : Place) : Option Place :=
  (root? t start).map (· ++ [directoryName])

def settings? (t : FileTree) (start : Place) : Option Place :=
  (directory? t start).map (· ++ [settingsName])

def history? (t : FileTree) (start : Place) : Option Place :=
  (directory? t start).map (· ++ [historyName])

def firstPresent (t : FileTree) (cwd : Place) :
    List Path → Except (SystemError × Path) (Option Path)
  | [] => .ok none
  | p :: rest =>
    match t.present cwd p with
    | .error e => .error (e, p)
    | .ok true => .ok (some p)
    | .ok false => firstPresent t cwd rest

/-- The place of a declaration: a path from `cwd`, else a name in the project's directory with or
without an ending, else a path from `base`. -/
def declaration (t : FileTree) (cwd : Place) (base : Path) (arg : Option String) :
    Except (SystemError × Path) Place := do
  let given := arg.filter (!·.isEmpty)
  let direct ← firstPresent t cwd (given.map Path.ofText).toList
  if let some p := direct then return p.resolve cwd
  let directory := match directory? t (base.resolve cwd) with
    | some place => Path.ofPlace place
    | none => base / directoryName
  let name := given.getD declarationName
  match ← firstPresent t cwd [directory / name, directory / (name ++ ".yaml"),
      directory / (name ++ ".yml")] with
  | some p => return p.resolve cwd
  | none => return (base / name).resolve cwd

end JobMatrix.Project
