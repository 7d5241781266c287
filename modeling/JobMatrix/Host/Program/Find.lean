import JobMatrix.Host.Program.Files
import JobMatrix.Host.Program.Find.Expression
import JobMatrix.Host.Program.Status
import JobMatrix.Text.Wildcard

/-! The search through directories for files that an expression chooses. -/

namespace JobMatrix.Program

open JobMatrix.Path (Place)

namespace Find

structure Visit where
  path : String
  /-- The path from which the search went out. -/
  start : String
  depth : Nat
  place : Place
  /-- What stands there, behind a link if links are followed. -/
  entry : Entry

def Visit.name (f : Visit) : String := lastName f.path

structure State where
  status : Nat := 0
  pruned : Bool := false
  stopped : Bool := false
  /-- The files for commands that take many, the latest first, by the number of the command. -/
  collected : List (Nat × List String) := []

abbrev Search := StateT State Work

def ask {α : Type} (w : Work α) : Search α := fun s => do return (← w, s)

def complains (text : String) : Search Unit := do
  ask (complain ("find: " ++ text))
  modify fun s => { s with status := 1 }

def kindLetter (e : Entry) : Char :=
  match e.kind with
  | .directory => 'd'
  | .link _ => 'l'
  | .channel => 'p'
  | .device _ => 'c'
  | _ => 'f'

def Visit.otherWay (f : Visit) (v : View) (follows : Bool) : Entry :=
  if follows then (v.tree.entry? f.place).getD f.entry
  else match v.lookup f.path with
    | .ok (_, e) => e
    | .error _ => f.entry

def Visit.realPlace (f : Visit) (v : View) (follows : Bool) : Place :=
  if follows then
    match v.lookup f.path with
    | .ok (place, _) => place
    | .error _ => f.place
  else f.place

def Test.holds (v : View) (follows : Bool) (f : Visit) : Test → Bool
  | .name p ignoresCase => fits p f.name ignoresCase
  | .path p ignoresCase => fits p f.path ignoresCase
  | .kind letters false => letters.contains (kindLetter f.entry)
  | .kind letters true => letters.contains (kindLetter (f.otherWay v follows))
  | .size sign count unit => sign.holds ((f.entry.size + unit - 1) / unit) count
  | .empty =>
    if f.entry.isDirectory then (v.tree.list (f.realPlace v follows)).isEmpty
    else f.entry.isRegular && f.entry.size == 0
  | .mode .exactly bits => f.entry.mode == bits
  | .mode .all bits => f.entry.mode &&& bits == bits
  | .mode .any bits => bits == 0 || f.entry.mode &&& bits != 0
  | .newer time => time < f.entry.time
  | .executable => f.entry.isExecutable
  | .fixed b => b
where
  fits (pattern text : String) (ignoresCase : Bool) : Bool :=
    if ignoresCase then Wildcard.fits (pattern.map Char.toLower) (text.map Char.toLower)
    else Wildcard.fits pattern text

/-- Runs a command; whether it went well. -/
def runCommand (place : Option Place) (words : List String) : Search Bool := do
  let v ← ask view
  match place with
  | some p => ask (.enter p .done)
  | none => pure ()
  let started ← ask (.start { words, env := v.env } .done)
  let back : Search Unit := if place.isSome then ask (.enter v.cwd .done) else pure ()
  match started with
  | .error e =>
    back
    ask (complain ("find: " ++ (← ask (marked (words.headD ""))) ++ ": " ++ e.reason))
    return false
  | .ok child =>
    let ending ← ask (.wait child none .done)
    back
    return match ending with
      | some (.code 0, _) => true
      | _ => false

def filled (path word : String) : String := path.intercalate (word.splitOn "\x7b\x7d")

def runCollected (id : Nat) (words : List String) (place : Option Place) : Search Unit := do
  let s ← get
  let files := ((s.collected.lookup id).getD []).reverse
  if !files.isEmpty then
    set { s with collected := s.collected.filter (·.1 != id) }
    if !(← runCommand place (words ++ files)) then modify fun s => { s with status := 1 }

/-- Removes a file or an empty directory; whether that went well. -/
def remove (f : Visit) : Search Bool := do
  if f.path == "." then return true
  let v ← ask view
  if f.entry.isDirectory && !(v.tree.list f.place).isEmpty then
    complains ("cannot delete " ++ (← ask (marked f.path)) ++ ": Directory not empty")
    return false
  ask (setTree (v.tree.remove f.place))
  return true

/-- Does something with a file; what comes of it. -/
def perform (f : Visit) (a : Action) : Search Bool := do
  let directory : Place := f.place.dropLast
  let local' : String := "./" ++ f.name
  match a with
  | .print ending =>
    ask (say (Octets.ofText f.path ++ [ending]))
    return true
  | .run words inDirectory =>
    if inDirectory then runCommand (some directory) (words.map (filled local'))
    else runCommand none (words.map (filled f.path))
  | .collect id words inDirectory =>
    let path := if inDirectory then local' else f.path
    modify fun s =>
      let old := (s.collected.lookup id).getD []
      { s with collected := (id, path :: old) :: s.collected.filter (·.1 != id) }
    if inDirectory then runCollected id words (some directory)
    return true
  | .delete => remove f
  | .prune =>
    modify fun s => { s with pruned := true }
    return true
  | .quit =>
    modify fun s => { s with stopped := true }
    return true

def evaluate (plan : Plan) (f : Visit) : Expr → Search Bool
  | .test t => do return t.holds (← ask view) (plan.follows == .always) f
  | .act a => do
    if (← get).stopped then return false
    perform f a
  | .not e => do return !(← evaluate plan f e)
  | .and l r => do
    if ← evaluate plan f l then evaluate plan f r else return false
  | .or l r => do
    if ← evaluate plan f l then return true else evaluate plan f r
  | .sequence l r => do
    let _ ← evaluate plan f l
    evaluate plan f r

/-- Looks at a file, and at what is below it. `above` are the directories on the way, with their
paths. -/
def visit (plan : Plan) (e : Expr) (start : String) :
    Nat → Nat → List (Place × String) → String → Search Unit
  | 0, _, _, _ => return ()
  | fuel + 1, depth, above, path => do
    let v ← ask view
    let follows := plan.follows == .always || (depth == 0 && plan.follows == .given)
    let found : Except SystemError (Place × Entry) := match v.lookup path false with
      | .error e => .error e
      | .ok (place, link) =>
        if link.isLink && follows then
          match v.lookup path with
          | .ok (_, e) => .ok (place, e)
          | .error _ => .ok (place, link)
        else .ok (place, link)
    match found with
    | .error err => complains ((← ask (marked path)) ++ ": " ++ err.reason)
    | .ok (place, entry) =>
      let f : Visit := { path, start, depth, place, entry }
      let real := f.realPlace v follows
      let inside : Search Unit := do
        if entry.isDirectory && plan.deepest.elim true (depth < ·) then
          let names := v.tree.list real
          let _ ← names.mapM fun name => do
            if !(← get).stopped then
              visit plan e start fuel (depth + 1) ((real, path) :: above) (under path name)
      let here : Search Unit := do
        if plan.least ≤ depth then
          let _ ← evaluate plan f e
      match if entry.isDirectory then above.lookup real else none with
      | some first =>
        complains ("File system loop detected; " ++ (← ask (marked path)) ++
          " is part of the same file system loop as " ++ (← ask (marked first)) ++ ".")
      | none =>
        if plan.depthFirst then
          inside
          if !(← get).stopped then here
        else
          modify fun s => { s with pruned := false }
          here
          let s ← get
          modify fun s => { s with pruned := false }
          if !s.pruned && !s.stopped then inside

def collecting : Expr → List (Nat × List String)
  | .act (.collect id words false) => [(id, words)]
  | .not e => collecting e
  | .and l r => collecting l ++ collecting r
  | .or l r => collecting l ++ collecting r
  | .sequence l r => collecting l ++ collecting r
  | _ => []

def searchAll (plan : Plan) (e : Expr) (paths : List String) : Search Unit := do
  let _ ← paths.mapM fun p => do
    if !(← get).stopped then visit plan e p FileTree.pathLimit 0 [] p
  let _ ← (collecting e).mapM fun c => runCollected c.1 c.2 none
  return ()

def leading (follows : Follows) : List String → Follows × List String
  | [] => (follows, [])
  | w :: rest =>
    if w == "-L" then leading .always rest
    else if w == "-H" then leading .given rest
    else if w == "-P" then leading .never rest
    else if w == "--" then (follows, rest)
    else if w.startsWith "-O" then leading follows rest
    else (follows, w :: rest)

end Find

def find (args : List String) : Work Nat := do
  let (follows, words) := Find.leading .never args
  let paths := words.takeWhile fun w => !Find.isPart true w
  let v ← view
  let mark := Quoting.marked v.isUtf8
  match Find.read v follows (words.drop paths.length) with
  | .error e => refuse ("find: " ++ e.text mark)
  | .ok (e, plan) =>
    let (_, s) ← (Find.searchAll plan e (if paths.isEmpty then ["."] else paths)).run {}
    return s.status

end JobMatrix.Program
