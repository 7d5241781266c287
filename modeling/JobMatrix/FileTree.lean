import JobMatrix.History.Store
import JobMatrix.Path
import JobMatrix.SystemError
import JobMatrix.Text.Utf8

/-! The file tree: what stands at each place. Links are followed on the way to a place. -/

namespace JobMatrix

open JobMatrix.Path (Place)

/-- A file without content of its own. -/
inductive Device where
  /-- Forgets what is written to it. -/
  | null
  /-- Gives zeros without end. -/
  | zero
  /-- Gives bytes without end. -/
  | random
  /-- Takes nothing. -/
  | full
  | terminal
  /-- Stands for a descriptor of whoever opens it. -/
  | descriptor (n : Nat)
deriving DecidableEq, Repr, Inhabited

/-- What stands at a place. -/
inductive Entry.Kind where
  | directory
  | file (content : List UInt8)
  /-- A program that comes with the system. -/
  | program (name : String)
  | device (d : Device)
  | link (target : String)
  /-- A pipe with a name. -/
  | channel
  /-- A file that holds a history store. -/
  | history (store : History.Store)
deriving Inhabited

/-- What stands at a place, its permissions, when it was written, in nanoseconds since the start of
1970, and a number above zero that files share which are the same one under several names. -/
structure Entry where
  kind : Entry.Kind
  mode : Nat
  time : Int := 0
  shared : Nat := 0
deriving Inhabited

namespace Entry

def directory : Entry := { kind := .directory, mode := 0o755 }

def file (content : List UInt8) (executable : Bool := false) : Entry :=
  { kind := .file content, mode := if executable then 0o755 else 0o644 }

def program (name : String) : Entry := { kind := .program name, mode := 0o755 }

def device (d : Device) : Entry := { kind := .device d, mode := 0o666 }

def history (store : History.Store) : Entry := { kind := .history store, mode := 0o644 }

def isDirectory (e : Entry) : Bool :=
  match e.kind with
  | .directory => true
  | _ => false

def isLink (e : Entry) : Bool :=
  match e.kind with
  | .link _ => true
  | _ => false

def isDevice (e : Entry) : Bool :=
  match e.kind with
  | .device _ => true
  | _ => false

def isRegular (e : Entry) : Bool :=
  match e.kind with
  | .file _ => true
  | .program _ => true
  | .history _ => true
  | _ => false

def isExecutable (e : Entry) : Bool := e.isDirectory || e.mode &&& 0o111 != 0

def content (e : Entry) : Except SystemError (List UInt8) :=
  match e.kind with
  | .directory => .error .isDirectory
  | .file content => .ok content
  | .program name => .ok (Text.bytes name)
  | .device .terminal => .error .noDevice
  | .device _ => .ok []
  | .link target => .ok (Text.bytes target)
  | .channel => .ok []
  | .history _ => .ok (Text.bytes "SQLite format 3\x00")

def size (e : Entry) : Nat :=
  match e.kind with
  | .directory => 4096
  | _ => match e.content with
    | .ok data => data.length
    | .error _ => 0

end Entry

/-- Entries by place. Every place but the root stands in a directory. -/
structure FileTree where
  entries : Dict Place Entry := []
deriving Inhabited

namespace FileTree

def entry? (t : FileTree) (place : Place) : Option Entry :=
  if place.isEmpty then some .directory else Dict.get? t.entries place

def nameLimit : Nat := 255

def pathLimit : Nat := 4096

def linkLimit : Nat := 40

/-- Where names lead from a place: to another place, or to a link with names that are left. Each name
but the last must lead to a directory; a link at the end is followed only if `follows`. -/
def along (t : FileTree) (follows : Bool) (place : Place) :
    List String → Except SystemError (Place × Option (List String))
  | [] => .ok (place, none)
  | name :: rest =>
    match t.entry? place with
    | none => .error .noEntry
    | some e =>
      if !e.isDirectory then .error .notDirectory
      else if nameLimit < name.utf8ByteSize then .error .nameTooLong
      else
        let next := Path.step place name
        match (t.entry? next).map Entry.kind with
        | some (.link target) =>
          if rest.isEmpty && !follows then .ok (next, none)
          else
            let p := Path.ofText target
            .ok (if p.isAbsolute then [] else place, some (p.names ++ rest))
        | _ => along t follows next rest

/-- Goes along names from a place, through at most `links` links. -/
def walk (t : FileTree) (follows : Bool) (place : Place) (names : List String) :
    Nat → Except SystemError Place
  | 0 => .error .linkLoop
  | links + 1 => do
    match ← t.along follows place names with
    | (place, none) => return place
    | (place, some names) => walk t follows place names links

/-- The place of a path, seen from `cwd`. -/
def locate (t : FileTree) (cwd : Place) (p : Path) (follows : Bool := true) :
    Except SystemError Place :=
  if p.text.toList.contains '\x00' then .error .noEntry
  else if pathLimit ≤ p.text.utf8ByteSize then .error .nameTooLong
  else t.walk follows (if p.isAbsolute then [] else cwd) p.names (linkLimit + 1)

def lookup (t : FileTree) (cwd : Place) (p : Path) (follows : Bool := true) :
    Except SystemError (Place × Entry) := do
  let place ← t.locate cwd p follows
  match t.entry? place with
  | some e => return (place, e)
  | none => throw .noEntry

def present (t : FileTree) (cwd : Place) (p : Path) : Except SystemError Bool :=
  match t.lookup cwd p with
  | .ok _ => .ok true
  | .error .nameTooLong => .error .nameTooLong
  | .error _ => .ok false

def holdsDirectory (t : FileTree) (cwd : Place) (p : Path) : Except SystemError Bool :=
  match t.lookup cwd p with
  | .ok (_, e) => .ok e.isDirectory
  | .error .nameTooLong => .error .nameTooLong
  | .error _ => .ok false

def isDirectory (t : FileTree) (cwd : Place) (p : Path) : Bool :=
  match t.lookup cwd p with
  | .ok (_, e) => e.isDirectory
  | .error _ => false

def read (t : FileTree) (cwd : Place) (p : Path) : Except SystemError (List UInt8) := do
  (← t.lookup cwd p).2.content

def readText (t : FileTree) (cwd : Place) (p : Path) : Except SystemError String :=
  (t.read cwd p).map Text.readText

def put (t : FileTree) (place : Place) (e : Entry) : FileTree :=
  let entries := Dict.put t.entries place e
  { t with entries :=
      if e.shared == 0 then entries
      else entries.map fun d => if d.2.shared == e.shared then (d.1, e) else d }

/-- Puts an entry at the end of names below a directory, and directories where there is nothing on the
way. -/
def plantBelow (t : FileTree) (above : Place) (e : Entry) : List String → FileTree
  | [] => t
  | [name] => t.put (above ++ [name]) e
  | name :: rest =>
    let here := above ++ [name]
    plantBelow (if (t.entry? here).isSome then t else t.put here .directory) here e rest

def plant (t : FileTree) (place : Place) (e : Entry) : FileTree := t.plantBelow [] e place

def opening (t : FileTree) (place : Place) : Except SystemError Unit :=
  match t.entry? place with
  | some e => if e.isDirectory then .ok () else .error .notDirectory
  | none => .error .noEntry

def writable (t : FileTree) (cwd : Place) (p : Path) : Except SystemError Place := do
  let place ← t.locate cwd p
  match t.entry? place with
  | some e => if e.isDirectory then throw .isDirectory else return place
  | none =>
    t.opening place.dropLast
    return place

def refill (t : FileTree) (place : Place) (content : List UInt8) (time : Int := 0)
    (mode : Nat := 0o644) : FileTree :=
  match t.entry? place with
  | some e =>
    if e.isDevice then t else t.put place { e with kind := .file content, time }
  | none => t.put place { kind := .file content, mode, time }

/-- Writes a file; one that is there keeps its permissions. -/
def write (t : FileTree) (cwd : Place) (p : Path) (content : List UInt8) :
    Except SystemError FileTree := do
  return t.refill (← t.writable cwd p) content

def makeDirectory (t : FileTree) (cwd : Place) (p : Path) (time : Int := 0) (mode : Nat := 0o755) :
    Except SystemError FileTree := do
  let place ← t.locate cwd p false
  if (t.entry? place).isSome then throw .alreadyThere
  t.opening place.dropLast
  return t.put place { kind := .directory, mode, time }

/-- Makes a directory and, from the first missing one, those above it. A directory that is there is
no error. The error comes with the path that could not be made. -/
def makeDirectories (t : FileTree) (cwd : Place) (anchor : Anchor) :
    List String → Except (SystemError × Path) FileTree
  | [] => .ok t
  | names@(_ :: _) =>
    let p : Path := { anchor, names }
    match t.makeDirectory cwd p with
    | .ok t' => .ok t'
    | .error .noEntry =>
      match makeDirectories t cwd anchor names.dropLast with
      | .error e => .error e
      | .ok t' =>
        match t'.makeDirectory cwd p with
        | .ok t'' => .ok t''
        | .error e => if t'.isDirectory cwd p then .ok t' else .error (e, p)
    | .error e => if t.isDirectory cwd p then .ok t else .error (e, p)
termination_by names => names.length

def list (t : FileTree) (place : Place) : List String :=
  t.entries.filterMap fun e =>
    if e.1.dropLast == place then e.1.getLast? else none

def remove (t : FileTree) (place : Place) : FileTree :=
  { t with entries := t.entries.filter fun e => !place.isPrefixOf e.1 }

def move (t : FileTree) (source target : Place) : FileTree :=
  if source == target then t
  else
    let moved := t.entries.filter fun e => source.isPrefixOf e.1
    let t := (t.remove target).remove source
    { t with entries := t.entries ++ moved.map fun e =>
      (target ++ e.1.drop source.length, e.2) }

/-- How many names the file at a place has; a directory is named by those in it too. -/
def linkCount (t : FileTree) (place : Place) : Nat :=
  match t.entry? place with
  | none => 0
  | some e =>
    if e.isDirectory then
      2 + (t.entries.filter fun d => d.1.dropLast == place && d.2.isDirectory).length
    else if e.shared == 0 then 1
    else (t.entries.filter fun d => d.2.shared == e.shared).length

def isSame (t : FileTree) (a b : Place) : Bool :=
  a == b || match t.entry? a, t.entry? b with
    | some d, some e => d.shared != 0 && d.shared == e.shared
    | _, _ => false

end FileTree

end JobMatrix
