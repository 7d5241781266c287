import JobMatrix.Host.Program.Work

/-! What programs do often: look at files, read and write them, and speak of what went wrong. -/

namespace JobMatrix.Program

open JobMatrix.Path (Place)

def view : Work View := .look .done

def setTree (t : FileTree) : Work Unit := .change t .done

def say (data : List UInt8) : Work Unit := if data.isEmpty then .done () else .print data .done

def sayText (s : String) : Work Unit := say (Octets.ofText s)

def sayLine (s : String) : Work Unit := sayText (s ++ "\n")

/-- Writes at once; the error if that is refused. -/
def writeTo (descriptor : Nat) (data : List UInt8) : Work (Option SystemError) :=
  .write descriptor data .done

def complain (s : String) : Work Unit := do
  let _ ← writeTo 2 (Octets.ofText (s ++ "\n"))

def refuse (s : String) (code : Nat := 1) : Work Nat := do
  complain s
  return code

def hint (name : String) : String := "Try '" ++ name ++ " --help' for more information."

def misuse (name text : String) (code : Nat := 1) : Work Nat := do
  complain text
  refuse (hint name) code

def blockSize : Nat := 65536

def readBlock (descriptor : Nat) : Work (List UInt8) :=
  .await descriptor (fun data => if data.isEmpty then none else some blockSize) .done

def rounds : Nat := 10 ^ 12

/-- The blocks that are left of an input, after those that have been read, the latest first. -/
def readBlocks (descriptor : Nat) : Nat → List (List UInt8) → Work (List UInt8)
  | 0, blocks => .done blocks.reverse.flatten
  | fuel + 1, blocks => .bind (readBlock descriptor) fun data =>
    if data.isEmpty then .done blocks.reverse.flatten
    else readBlocks descriptor fuel (data :: blocks)

def readAll (descriptor : Nat) : Work (List UInt8) := readBlocks descriptor rounds []

def forEach {α : Type} (xs : List α) (f : α → Work Unit) : Work Unit :=
  match xs with
  | [] => .done ()
  | x :: rest => do
    f x
    forEach rest f

def allOf {α : Type} (xs : List α) (f : α → Work Bool) : Work Bool :=
  match xs with
  | [] => .done true
  | x :: rest => do
    let first ← f x
    let others ← allOf rest f
    return first && others

def codeOf (ok : Bool) (otherwise : Nat := 1) : Nat := if ok then 0 else otherwise

namespace View

def isUtf8 (v : View) : Bool :=
  let names := ["LC_ALL", "LC_CTYPE", "LANG"].filterMap fun n =>
    (Dict.get? v.env n).filter (!·.isEmpty)
  match names with
  | n :: _ => n == "C.UTF-8" || n == "C.utf8"
  | [] => false

def locate (v : View) (path : String) (follows : Bool := true) : Except SystemError Place := do
  if path.isEmpty then throw .noEntry
  let slashed := path.endsWith "/"
  let place ← v.tree.locate v.cwd (.ofText path) (follows || slashed)
  match v.tree.entry? place with
  | some e => if slashed && !e.isDirectory then throw .notDirectory else return place
  | none => return place

def lookup (v : View) (path : String) (follows : Bool := true) :
    Except SystemError (Place × Entry) := do
  let place ← v.locate path follows
  match v.tree.entry? place with
  | some e => return (place, e)
  | none => throw .noEntry

def isDirectory (v : View) (path : String) : Bool :=
  match v.lookup path with
  | .ok (_, e) => e.isDirectory
  | .error _ => false

def masked (v : View) (mode : Nat) : Nat := mode - (mode &&& v.umask)

end View

/-- The bytes of a file; of a file without end a number of them. -/
def readPath (path : String) (need : Nat := blockSize) :
    Work (Except SystemError (List UInt8)) := do
  let v ← view
  match v.lookup path with
  | .error e => return .error e
  | .ok (_, e) =>
    match e.kind with
    | .device (.descriptor n) => return .ok (← readAll n)
    | .device .zero => return .ok (List.replicate need 0)
    | .device .full => return .ok (List.replicate need 0)
    | .device .random => return .ok ((List.range need).map fun i => UInt8.ofNat (i * 167 + 13))
    | _ => return e.content

def readSource (path : String) : Work (Except SystemError (List UInt8)) := do
  if path == "-" then return .ok (← readAll 0) else readPath path

/-- Writes a file; the error if that is refused. -/
def writePath (path : String) (data : List UInt8) (appends : Bool := false) :
    Work (Option SystemError) := do
  let v ← view
  match v.locate path with
  | .error e => return some e
  | .ok place =>
    match v.tree.entry? place with
    | none =>
      match v.tree.opening place.dropLast with
      | .error e => return some e
      | .ok _ =>
        if path.endsWith "/" then return some .isDirectory
        setTree (v.tree.refill place data v.now (v.masked 0o666))
        return none
    | some e =>
      match e.kind with
      | .directory => return some .isDirectory
      | .device (.descriptor n) => writeTo n data
      | .device .full => return if data.isEmpty then none else some .noSpace
      | .device .terminal => return some .noDevice
      | .device _ => return none
      | _ =>
        let old := if appends then e.content.toOption.getD [] else []
        setTree (v.tree.refill place (old ++ data) v.now)
        return none

def linesOf (data : List UInt8) (ending : UInt8 := 10) : List (List UInt8) := go [] data
where
  go (line : List UInt8) : List UInt8 → List (List UInt8)
    | [] => if line.isEmpty then [] else [line.reverse]
    | b :: rest =>
      if b == ending then (b :: line).reverse :: go [] rest else go (b :: line) rest

def bare (line : List UInt8) (ending : UInt8 := 10) : List UInt8 :=
  if line.getLast? == some ending then line.dropLast else line

def ended (line : List UInt8) (ending : UInt8 := 10) : List UInt8 :=
  if line.getLast? == some ending then line else line ++ [ending]

def bareLines (data : List UInt8) (ending : UInt8 := 10) : List (List UInt8) :=
  (linesOf data ending).map (bare · ending)

def padLeft (width : Nat) (s : String) (filler : Char := ' ') : String :=
  String.ofList (List.replicate (width - s.length) filler) ++ s

def padRight (width : Nat) (s : String) : String :=
  s ++ String.ofList (List.replicate (width - s.length) ' ')

def lastName (path : String) : String :=
  let cs := Text.dropEndWhile (· == '/') path.toList
  if cs.isEmpty then (if path.isEmpty then "" else "/")
  else String.ofList (cs.reverse.takeWhile (· != '/')).reverse

def dirnameOf (path : String) : String :=
  let cs := Text.dropEndWhile (· == '/') path.toList
  if cs.isEmpty then (if path.isEmpty then "." else "/")
  else
    let above := Text.dropEndWhile (· != '/') cs
    let bare := Text.dropEndWhile (· == '/') above
    if above.isEmpty then "." else if bare.isEmpty then "/" else String.ofList bare

def under (directory name : String) : String :=
  if directory.endsWith "/" then directory ++ name else directory ++ "/" ++ name

end JobMatrix.Program
