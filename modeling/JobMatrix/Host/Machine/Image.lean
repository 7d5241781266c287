import JobMatrix.FileTree

/-! Which program runs when a file is executed. -/

namespace JobMatrix

open JobMatrix.Path (Place)

/-- A program and the words it is given, the name under which it was called first. -/
structure Image where
  program : String
  words : List String
deriving Repr, Inhabited

namespace Image

def interpreter? (content : List UInt8) : Option (String × List String) :=
  match content with
  | 35 :: 33 :: rest =>
    let blank (c : Char) : Bool := c == ' ' || c == '\t'
    let line := (Text.ofBytes (rest.takeWhile (· != 10))).dropWhile blank
    let name := line.takeWhile fun c => !blank c
    let argument := Text.strip (line.drop name.length)
    some (String.ofList name, if argument.isEmpty then [] else [String.ofList argument])
  | _ => none

def load (t : FileTree) (cwd : Place) (path : String) (words : List String) :
    Nat → Except SystemError Image
  | 0 => .error .noEntry
  | depth + 1 => do
    if path.isEmpty then throw .noEntry
    let (_, e) ← t.lookup cwd (.ofText path)
    if !(e.isRegular && e.isExecutable) then throw .permission
    match e.kind with
    | .program name => return { program := name, words }
    | .file content =>
      match interpreter? content with
      | some (name, argument) => load t cwd name (name :: argument ++ path :: words.drop 1) depth
      | none => throw .badFormat
    | _ => throw .badFormat

def depth : Nat := 5

/-- Where a command is looked for: as it stands if it has a slash, else in each directory. -/
def candidates (directories : List String) (name : String) : List String :=
  if name.toList.contains '/' then [name]
  else directories.map fun d =>
    if d.isEmpty then name else if d.endsWith "/" then d ++ name else d ++ "/" ++ name

def fallback : List String := ["/bin", "/usr/bin"]

def isMissing : SystemError → Bool
  | .noEntry => true
  | .notDirectory => true
  | _ => false

/-- Tries candidates in turn. The error is the first that does not say that a file is missing, else
the last. -/
def first (t : FileTree) (cwd : Place) (words : List String) (worst : Option SystemError) :
    List String → Except SystemError Image
  | [] => .error (worst.getD .noEntry)
  | c :: rest =>
    match load t cwd c words depth with
    | .ok i => .ok i
    | .error e =>
      match worst with
      | some w => first t cwd words (some (if isMissing w then e else w)) rest
      | none => first t cwd words (some e) rest

def find (t : FileTree) (cwd : Place) (env : Env) (words : List String) :
    Except SystemError Image :=
  let directories := match Dict.get? env "PATH" with
    | some path => path.splitOn ":"
    | none => fallback
  first t cwd words none (candidates directories (words.headD ""))

end Image

end JobMatrix
