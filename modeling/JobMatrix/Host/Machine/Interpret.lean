import JobMatrix.Host.Machine.Builtin

/-! One step of a shell: what the topmost frame of its stack does. -/

namespace JobMatrix.Scene

open Shell (Interpreter Frame Script Word Redirect Variable Expansion)

/-- Puts a look at the status below what is pushed next, if failures can end the shell. -/
def watch (sc : Scene) : Scene := if sc.sh.has "errexit" then sc.push [.check] else sc

def atLine (sc : Scene) (line : Nat) : Scene := { sc with sh := { sc.sh with line } }

def saved (sc : Scene) (names : List String) : List (String × Option Variable) :=
  names.map fun n => (n, Dict.get? sc.sh.scope.vars n)

/-- Starts a child whose output something waits for, in a scope of its own. The end of the pipe from
which the output is taken is held under the number of the pipe, which is above all that scripts
use. -/
def substitute (sc : Scene) (scope : Shell.Scope) (s : Script) (waiting : Frame) : Scene :=
  let sc := sc.makeRoom
  let (pipe, m) := sc.machine.fresh
  let sc := { sc with machine := { m with pipes := Dict.put m.pipes pipe [] } }
  let inner := { sc with sh := { sc.sh with scope } }
  let (id, forked) := inner.fork [.run s] (Dict.put sc.self.descriptors 1 (.pipe pipe true))
  let sc := { sc with machine := forked.machine }
  (sc.setDescriptor pipe (.pipe pipe false)).push [.capture id pipe waiting]

/-- Expands something, and goes on with it; what is done again once an output has been taken is
`waiting`. -/
def expanding {α : Type} (sc : Scene) (outputs : List String) (waiting : Frame) (e : Expansion α)
    (go : α → Scene → Scene) : Scene :=
  match sc.expand outputs e with
  | .ok (a, sc) => go a sc
  | .error (.problem text) => sc.fail text
  | .error (.needs s scope) => sc.substitute scope s waiting

/-- A line of the trace, which goes where errors went before the redirections of the command. -/
def trace (sc : Scene) (words : List String) : Scene :=
  if !sc.sh.has "xtrace" || words.isEmpty then sc
  else
    let mark := match sc.expand [] (Shell.wordText (Shell.quotedWord
        ((sc.sh.scope.get? "PS4").getD ""))) with
      | .ok (s, _) => s
      | .error _ => ""
    let line := Octets.ofText (mark ++ " ".intercalate words ++ "\n")
    match sc.sh.stack with
    | .restore old :: _ =>
      let present := sc.self.descriptors
      let (sc, _) := { sc with self := { sc.self with descriptors := old } }.write 2 line
      { sc with self := { sc.self with descriptors := present } }
    | _ => (sc.write 2 line).1

def start (sc : Scene) (inPlace : Bool) (i : Image) (env : Env) : Scene :=
  let body := Body.program i.program i.words env
  if inPlace then { sc with next := some body, delay := startTime }
  else
    let sc := sc.makeRoom
    let (id, m) := sc.machine.fresh
    let child : Process :=
      { id, parent := sc.self.id, group := sc.self.group, due := m.clock + startTime
        descriptors := sc.self.descriptors, cwd := sc.self.cwd, ignores := sc.self.ignores
        umask := sc.self.umask, body }
    { sc with machine := m.add child }.push [.await [id]]

/-- Runs a command that is no part of the shell. Variables that were set for it alone get their old
values back. -/
def runProgram (sc : Scene) (inPlace : Bool) (search? : Option String) (words : List String)
    (old : List (String × Option Variable)) : Scene :=
  let name := words.headD ""
  let env := sc.sh.scope.environment
  let search := search?.getD (Builtin.searchPath sc)
  let located := Builtin.locate sc name search
  let sc := sc.revert old
  let refuse (why : String) (status : Nat) : Scene :=
    (sc.complain (name ++ ": " ++ why)).withStatus status
  match located with
  | .error .permission => refuse "Permission denied" 127
  | .error _ => refuse "not found" 127
  | .ok path =>
    let sc := if search? == none && !(old.any (·.1 == "PATH")) then Builtin.track sc name path else sc
    match Image.load sc.machine.tree sc.self.cwd path words Image.depth with
    | .ok i => start sc inPlace i env
    | .error .badFormat =>
      start sc inPlace { program := "sh", words := "sh" :: path :: words.drop 1 } env
    | .error .noEntry => refuse "not found" 127
    | .error _ => refuse "Permission denied" 126

def callLimit : Nat := 1000

def exporting (sc : Scene) (names : List String) : Scene :=
  let mark (v : String × Variable) : String × Variable :=
    if names.contains v.1 then (v.1, { v.2 with exported := true }) else v
  sc.mapScope fun s => { s with vars := s.vars.map mark }

def call (sc : Scene) (body : Script) (args : List String) (old : List (String × Option Variable)) :
    Scene :=
  if callLimit ≤ (sc.sh.stack.filter Frame.isCall).length then
    sc.fail s!"Maximum function recursion depth ({callLimit}) reached"
  else
    let frames := [.run body, .call sc.sh.scope.args [] sc.sh.nextOption] ++
      (if old.isEmpty then [] else [.revert old])
    let sc := (sc.push frames).mapScope fun s => { s with args }
    { sc with sh := { sc.sh with nextOption := (1, none) } }

/-- Runs a command with its words expanded, its redirections made and its assignments carried out;
`old` holds the values that variables had before those. -/
def dispatch (sc : Scene) (inPlace : Bool) (old : List (String × Option Variable)) :
    Nat → List String → (plain standard : Bool) → Scene
  | 0, _, _, _ => sc
  | fuel + 1, words, plain, standard =>
    let name := words.headD ""
    let args := words.drop 1
    let names := old.map (·.1)
    let function? := if plain then none else Dict.get? sc.sh.functions name
    match function? with
    | some body => call (sc.exporting names) body args old
    | none =>
      match if name == "command" then Builtin.commanded? standard args else none with
      | some (rest, standard) => dispatch sc inPlace old fuel rest true standard
      | none =>
        let sc := { sc with sh := { sc.sh with guarded := plain } }
        if Builtin.isSpecial name && !plain then Builtin.run sc name args
        else if Builtin.isKnown name then
          let sc := sc.exporting names
          Builtin.run (if old.isEmpty then sc else sc.push [.revert old]) name args
        else
          let search? := if standard then some Builtin.standardPath else none
          runProgram (sc.exporting names) inPlace search? words old

def assignments : List (String × Word) → Expansion (List (String × String))
  | [] => return []
  | a :: rest => do
    let value ← Shell.wordText a.2
    Expansion.assign a.1 value
    return (a.1, value) :: (← assignments rest)

def assigning (sc : Scene) (inPlace : Bool) (as : List (String × Word)) (fields outputs : List String) :
    Scene :=
  let old := sc.saved (as.map (·.1))
  sc.expanding outputs (.assigning inPlace as fields outputs) (assignments as) fun values sc =>
    let sc := sc.trace (values.map (fun v => v.1 ++ "=" ++ v.2) ++ fields)
    let sc := if as.any (·.1 == "OPTIND") then
        { sc with sh := { sc.sh with nextOption := (1, none) } } else sc
    if fields.isEmpty then sc.withStatus (sc.sh.captured.getD 0)
    else dispatch sc inPlace old (fields.length + 1) fields false false

def simple (sc : Scene) (outputs : List String) (s : Script) (as : List (String × Word))
    (words : List Word) (redirects : List Redirect) : Scene :=
  let inPlace := sc.sh.isLast
  let both : Expansion (List String × List Redirection) := do
    let fields ← Shell.commandFields sc.machine.tree sc.self.cwd words
    return (fields, ← redirections redirects)
  sc.expanding outputs (.run s outputs) both fun (fields, rs) sc =>
    let sc := watch sc
    let old := sc.self.descriptors
    match sc.redirectAll rs with
    | .error e =>
      if Builtin.isSpecial (fields.headD "") then sc.fail e else (sc.complain e).withStatus 2
    | .ok sc =>
      assigning (if rs.isEmpty then sc else sc.push [.restore old]) inPlace as fields []

def pipeline (sc : Scene) (input : Option Descriptor) (ids : List Nat) : List Script → Scene
  | [] => (watch sc).push [.await ids]
  | part :: rest =>
    let descriptors := match input with
      | some d => Dict.put sc.self.descriptors 0 d
      | none => sc.self.descriptors
    if rest.isEmpty then
      let (id, sc) := sc.fork [.run part] descriptors
      pipeline sc none (ids ++ [id]) rest
    else
      let (pipe, m) := sc.machine.fresh
      let sc := { sc with machine := { m with pipes := Dict.put m.pipes pipe [] } }
      let (id, sc) := sc.fork [.run part] (Dict.put descriptors 1 (.pipe pipe true))
      pipeline sc (some (.pipe pipe false)) (ids ++ [id]) rest

def background (sc : Scene) (s : Script) : Scene :=
  let sc := sc.makeRoom
  let inner := { sc with self := { sc.self with ignores := [2, 3] ++ sc.self.ignores } }
  let (id, forked) := inner.fork [.run s] (Dict.put sc.self.descriptors 0 .null)
  let used := sc.sh.jobs.map (·.number)
  let number := ((List.range (used.length + 1)).map (· + 1)).find? fun n => !used.contains n
  let job : Shell.Job := { number := number.getD 1, id }
  let sc := { sc with machine := forked.machine, sh := { sc.sh with jobs := job :: sc.sh.jobs } }
  (sc.mapScope fun s => { s with lastJob := some id }).withStatus 0

def fitsOne (subject : String) : List Word → Expansion Bool
  | [] => return false
  | p :: rest => do
    let pattern ← Shell.wordPattern p
    if Wildcard.accepts pattern subject then return true else fitsOne subject rest

def choice (subject : String) : List (List Word × Script) → Expansion (Option Script)
  | [] => return none
  | (patterns, body) :: rest => do
    if ← fitsOne subject patterns then return some body else choice subject rest

def run (sc : Scene) (s : Script) (outputs : List String) : Scene :=
  let sc := if outputs.isEmpty then { sc with sh := { sc.sh with captured := none } } else sc
  let again : Frame := .run s outputs
  match s with
  | .nothing => sc
  | .simple line as words redirects => simple (sc.atLine line) outputs s as words redirects
  | .pipeline parts => pipeline sc.makeRoom none [] parts
  | .negate s => sc.push [.run s, .negate]
  | .both a b => sc.push [.run a, .both b]
  | .either a b => sc.push [.run a, .either b]
  | .sequence a b => sc.push [.run a, .run b]
  | .background s => background sc s
  | .subshell s =>
    if sc.sh.isLast then { sc with sh := sc.sh.child [.run s] }
    else
      let (id, sc) := sc.makeRoom.fork [.run s] sc.self.descriptors
      (watch sc).push [.await [id]]
  | .redirected line s redirects =>
    let sc := sc.atLine line
    sc.expanding outputs again (redirections redirects) fun rs sc =>
      let old := sc.self.descriptors
      match sc.redirectAll rs with
      | .error e => (sc.complain e).withStatus 2
      | .ok sc => sc.push [.run s, .restore old]
  | .branch test yes no => sc.push [.run test, .branch yes no]
  | .loop untilTrue test body => sc.push [.run test, .tested untilTrue test body 0]
  | .each line name words body =>
    let sc := sc.atLine line
    match words with
    | none => (sc.withStatus 0).push [.each name sc.sh.scope.args body]
    | some words =>
      sc.expanding outputs again (Shell.fieldsOf sc.machine.tree sc.self.cwd words)
        fun values sc => (sc.withStatus 0).push [.each name values body]
  | .choose line subject arms =>
    let sc := sc.atLine line
    let chosen : Expansion (Option Script) := do choice (← Shell.wordText subject) arms
    sc.expanding outputs again chosen fun body? sc =>
      match body? with
      | some body => (sc.withStatus 0).push [.run body]
      | none => sc.withStatus 0
  | .define name body =>
    { sc with sh := { sc.sh with functions := Dict.put sc.sh.functions name body } }.withStatus 0

def mourn (sc : Scene) (e : Option Ending) : Scene :=
  match e with
  | some (.signal n) => (Signal.obituary? n).elim sc sc.mutter
  | _ => sc

def await (sc : Scene) (ids : List Nat) : Scene :=
  let endings := ids.map sc.machine.ending?
  let sc := (endings.foldl mourn sc).noticeJobs
  let last := match endings.getLast? with
    | some (some e) => e.status
    | _ => 127
  { sc with machine := ids.foldl Machine.forget sc.machine }.withStatus last

def waited (sc : Scene) (ids : List Nat) (all : Bool) : Scene :=
  let mark (sc : Scene) : Scene :=
    let jobs := sc.sh.jobs.map fun j =>
      if ids.contains j.id then { j with known := true, waited := true } else j
    { sc with sh := { sc.sh with jobs } }
  if all then (mark sc).withStatus 0
  else match sc.sh.jobs.find? fun j => ids.contains j.id with
    | none => sc
    | some j =>
      let ending := sc.machine.ending? j.id
      let sc := if j.known then sc else sc.mourn ending
      (mark sc).withStatus (ending.elim 127 Ending.status)

def distribute (ifs : List Char) : List String → List (Char × Bool) → List (String × String)
  | [], _ => []
  | [name], cs =>
    let blank (c : Char × Bool) : Bool :=
      !c.2 && ifs.contains c.1 && Shell.isBlankSeparator c.1
    [(name, textOf (Text.dropEndWhile blank cs))]
  | name :: rest, cs =>
    let separates (c : Char × Bool) : Bool := !c.2 && ifs.contains c.1
    let blank (c : Char × Bool) : Bool := separates c && Shell.isBlankSeparator c.1
    let field := cs.takeWhile fun c => !separates c
    let after := (cs.drop field.length).dropWhile blank
    let after := match after with
      | c :: more => if separates c then more.dropWhile blank else after
      | [] => []
    (name, textOf field) :: distribute ifs rest after
where
  textOf (cs : List (Char × Bool)) : String := String.ofList (cs.map (·.1))

def escaped (raw : Bool) : List Char → List (Char × Bool)
  | '\\' :: '\n' :: rest => if raw then ('\\', false) :: ('\n', false) :: escaped raw rest
    else escaped raw rest
  | '\\' :: c :: rest => if raw then ('\\', false) :: escaped raw (c :: rest)
    else (c, true) :: escaped raw rest
  | c :: rest => if c == '\\' && !raw then [] else (c, false) :: escaped raw rest
  | [] => []

def lineLength (raw : Bool) : List UInt8 → Nat
  | [] => 0
  | 92 :: 10 :: rest => if raw then 2 else 2 + lineLength raw rest
  | b :: rest => if b == 10 then 1 else 1 + lineLength raw rest

def readLine (sc : Scene) (names : List String) (raw : Bool) : Scene :=
  let d := (sc.descriptor? 0).getD .null
  let data := sc.machine.ahead d
  let line := data.take (lineLength raw data)
  let complete := line.getLast? == some 10
  let sc := { sc with machine := sc.machine.skip d line.length }
  let chars := escaped raw (Octets.chars (if complete then line.dropLast else line))
  let ifs := ((sc.sh.scope.get? "IFS").getD " \t\n").toList
  let start := chars.dropWhile fun c => !c.2 && ifs.contains c.1 && Shell.isBlankSeparator c.1
  let set := (distribute ifs names start).foldlM (fun (sc : Scene) v =>
    if Shell.isName v.1 then sc.setVariable v.1 v.2 else .error (v.1 ++ ": bad variable name")) sc
  match set with
  | .ok sc => sc.withStatus (if complete then 0 else 1)
  | .error e => Builtin.error sc "read" e

def takeOutput (sc : Scene) (child pipe : Nat) (waiting : Frame) : Scene :=
  let data := ((Dict.get? sc.machine.pipes pipe).getD []).filter (· != 0)
  let text := Octets.text (Text.dropEndWhile (· == 10) data)
  let done := sc.await [child]
  let machine := { done.machine with pipes := Dict.erase done.machine.pipes pipe }
  let self := { done.self with descriptors := Dict.erase done.self.descriptors pipe }
  let sh := { done.sh with captured := some done.status }
  ({ done with machine, self, sh }.withStatus sc.status).push [waiting.given text]

def frame (sc : Scene) : Frame → Scene
  | .source c =>
    match c.next sc.sh.aliases with
    | (.error e, c) => (sc.atLine c.line).fail ("Syntax error: " ++ e)
    | (.ok none, _) => sc
    | (.ok (some s), c) => sc.push [.run s, .source c]
  | .run s outputs => if sc.sh.has "noexec" then sc else sc.run s outputs
  | .assigning inPlace as fields outputs => sc.assigning inPlace as fields outputs
  | .negate => sc.withStatus (if sc.status == 0 then 1 else 0)
  | .both s => if sc.status == 0 then sc.push [.run s] else sc
  | .either s => if sc.status == 0 then sc else sc.push [.run s]
  | .branch yes no =>
    if sc.status == 0 then sc.push [.run yes] else (sc.withStatus 0).push [.run no]
  | .tested untilTrue test body status =>
    if (sc.status == 0) != untilTrue then sc.push [.run body, .looped untilTrue test body]
    else sc.withStatus status
  | .looped untilTrue test body => sc.push [.run test, .tested untilTrue test body sc.status]
  | .each _ [] _ => sc
  | .each name (v :: rest) body =>
    match sc.setVariable name v with
    | .ok sc => sc.push [.run body, .each name rest body]
    | .error e => sc.fail e
  | .await ids => sc.await ids
  | .wait ids all => sc.waited ids all
  | .capture child pipe waiting => sc.takeOutput child pipe waiting
  | .reading names raw => sc.readLine names raw
  | .resume status => sc.withStatus status
  | .check => if sc.status != 0 && sc.sh.failsOut then sc.leave sc.status else sc
  | .leave => sc.quit (.code (sc.status % 256))
  | f => sc.undo f

def step (sc : Scene) : Scene :=
  match sc.sh.signals with
  | n :: rest =>
    let sc := { sc with sh := { sc.sh with signals := rest } }
    let isWait (f : Frame) : Bool := match f with
      | .wait .. => true
      | _ => false
    let stack := sc.sh.stack.dropWhile isWait
    let status := if stack.length < sc.sh.stack.length then 128 + n else sc.status
    let action := (sc.trapFor? n).getD ""
    (sc.setStack stack).push [.source { rest := action.toList }, .resume status]
  | [] =>
    match sc.sh.stack with
    | [] => sc.leave sc.status
    | f :: rest => (sc.setStack rest).frame f

end JobMatrix.Scene
