/-! Paths: where they start and the names along them. Empty names and single dots are left out,
double dots are kept until a path is resolved. -/

namespace JobMatrix

/-- Where a path starts. Two leading slashes are kept apart from one. -/
inductive Anchor where
  | here
  | root
  | doubleRoot
deriving DecidableEq, Repr, Inhabited

def Anchor.text : Anchor → String
  | here => ""
  | root => "/"
  | doubleRoot => "//"

structure Path where
  anchor : Anchor := .here
  names : List String := []
deriving DecidableEq, Repr, Inhabited

namespace Path

def namesOf (s : String) : List String :=
  ((s.toList.splitOn '/').map String.ofList).filter fun n => !(n.isEmpty || n == ".")

def ofText (s : String) : Path :=
  let slashes := (s.toList.takeWhile (· == '/')).length
  { anchor := if slashes == 0 then .here else if slashes == 2 then .doubleRoot else .root
    names := namesOf s }

/-- The text of a path; the empty path is a dot. -/
def text (p : Path) : String :=
  if p.anchor == .here && p.names.isEmpty then "."
  else p.anchor.text ++ "/".intercalate p.names

def isAbsolute (p : Path) : Bool := p.anchor != .here

/-- A path taken from a directory; an absolute one stands for itself. -/
def join (base p : Path) : Path :=
  if p.isAbsolute then p else { base with names := base.names ++ p.names }

instance : HDiv Path Path Path := ⟨join⟩

instance : HDiv Path String Path := ⟨fun base s => join base (ofText s)⟩

/-- The directory that holds a path; the start of a path holds itself. -/
def parent (p : Path) : Path := { p with names := p.names.dropLast }

/-- A place in the file tree: the names from its root, without dots. -/
abbrev Place := List String

def ofPlace (place : Place) : Path := { anchor := .root, names := place }

/-- One name further from a place; double dots go back. -/
def step (place : Place) (name : String) : Place :=
  if name == ".." then place.dropLast else place ++ [name]

/-- The place that a path names, seen from `cwd`, whether there is anything there or not. -/
def resolve (cwd : Place) (p : Path) : Place :=
  p.names.foldl step (if p.isAbsolute then [] else cwd)

end Path

end JobMatrix
