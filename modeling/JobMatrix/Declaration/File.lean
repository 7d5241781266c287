import JobMatrix.Declaration.Build
import JobMatrix.FileTree
import JobMatrix.Users
import JobMatrix.Yaml.Load

/-! Declarations in files. -/

namespace JobMatrix

open JobMatrix.Path (Place)

/-- A path with a home directory in place of a leading tilde: one's own, or that of the user whose
name follows. -/
def Path.expandHome (home : String) (p : Path) : Except Fault Path :=
  match p.anchor, p.names with
  | .here, name :: rest =>
    match name.toList with
    | ['~'] => .ok (.join (.ofText home) { names := rest })
    | '~' :: user =>
      match Users.home? (String.ofList user) with
      | some home => .ok (.join (.ofText home) { names := rest })
      | none => .error .noHome
    | _ => .ok p
  | _, _ => .ok p

/-- Reads a YAML file; `refuse` says what becomes of a text that is no document. -/
def FileTree.readYaml (t : FileTree) (cwd : Place) (p : Path)
    (refuse : Yaml.Problem → Fault) : Except Fault Value := do
  let text ← (t.readText cwd p).mapError fun e => .system e p.text
  match Yaml.load text with
  | .ok v => return v
  | .error (.problem e) => throw (refuse e)
  | .error (.fault f) => throw f

namespace Declaration

/-- Reads a declaration. A text of it is one of characters. -/
def load (t : FileTree) (home : String) (cwd : Place) (path : String) :
    Except Fault Pipeline := do
  let p ← (Path.ofText path).expandHome home
  let there ← (t.present cwd p).mapError fun e => .system e p.text
  if !there then throw (.config (.fileNotFound p.text))
  let doc ← t.readYaml cwd p fun e => .config (.unreadable p.text e.message)
  build doc.mended

end Declaration

end JobMatrix
