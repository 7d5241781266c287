import JobMatrix.Host.Machine.Interpret
import JobMatrix.Host.Machine.Perform
import JobMatrix.Host.Program.Catalogue
import JobMatrix.Run.Host

/-! The steps of processes, the order in which they come, and the machine as a host of runs. -/

namespace JobMatrix

open JobMatrix.Path (Place)
open Shell (Interpreter Frame Scope Variable)

namespace Machine

def shellReady (m : Machine) (p : Process) (sh : Interpreter) : Bool :=
  match sh.stack with
  | .await ids :: _ => ids.all fun id => !m.isLive id
  | .wait ids _ :: _ => !sh.signals.isEmpty || ids.all fun id => !m.isLive id
  | .capture child pipe _ :: _ => !m.isLive child && !m.isWritten pipe
  | .reading _ raw :: _ =>
    let d := (Dict.get? p.descriptors 0).getD .null
    let data := m.ahead d
    m.isComplete d || (data.take (Scene.lineLength raw data)).getLast? == some 10
  | _ => true

def readsScript (words : List String) : Bool :=
  match ({} : Scope).switched true (words.drop 1) with
  | .ok s => !s.takesScript && (s.rest.isEmpty || s.scope.has "stdin")
  | .error _ => false

def isShell (program : String) : Bool := program == "sh" || program == "dash"

def workTime? (m : Machine) (p : Process) (w : Worker) : Option Nat :=
  match w.work with
  | .await descriptor enough _ =>
    match Dict.get? p.descriptors descriptor with
    | some d => if m.isComplete d || (enough (m.ahead d)).isSome then some p.due else none
    | none => some p.due
  | .wait child deadline _ =>
    if Scene.isFinished m child then some p.due
    else deadline.map fun t => max p.due (t - epoch)
  | _ => some p.due

def actsAt? (m : Machine) (p : Process) : Option Nat :=
  match p.body with
  | .ended _ => none
  | .program name words _ =>
    if isShell name && readsScript words then
      let input := (Dict.get? p.descriptors 0).getD .null
      if m.isComplete input then some p.due else none
    else some p.due
  | .working w => m.workTime? p w
  | .shell sh => if m.shellReady p sh then some p.due else none

def settle (sc : Scene) : Machine :=
  let due := sc.machine.clock + Scene.stepTime
  match sc.next with
  | some (.ended e) => (sc.machine.update { sc.self with body := .shell sc.sh }).finish sc.self.id e
  | some body => sc.machine.update { sc.self with body, due := sc.machine.clock + sc.delay }
  | none => sc.machine.update { sc.self with body := .shell sc.sh, due }

/-- The directory in which a shell starts, as the variable for it calls it if that is true. -/
def placeFor (env : Env) (cwd : Place) : String :=
  match Dict.get? env "PWD" with
  | some pwd =>
    if pwd.startsWith "/" && Path.resolve [] (.ofText pwd) == cwd then pwd
    else (Path.ofPlace cwd).text
  | none => (Path.ofPlace cwd).text

def variablesFor (env : Env) (here : String) (parent : Nat) : Dict String Variable :=
  let given := env.filter fun v => Shell.isName v.1 && v.1 != "IFS"
  let preset (name value : String) : String × Variable := (name, { value := some value })
  let presets : Dict String Variable :=
    [preset "IFS" " \t\n", preset "OPTIND" "1",
     preset "PATH" "/usr/local/sbin:/usr/local/bin:/usr/sbin:/usr/bin:/sbin:/bin",
     preset "PPID" (toString parent), preset "PS1" "# ", preset "PS2" "> ", preset "PS4" "+ "]
  let fixed (name value : String) : String := match name with
    | "PPID" => toString parent
    | "OPTIND" => "1"
    | _ => value
  let inherit (vars : Dict String Variable) (name value : String) : Dict String Variable :=
    Dict.put vars name { value := some (fixed name value), exported := true }
  inherit (given.foldl (fun vars v => inherit vars v.1 v.2) presets) "PWD" here

def becomeShell (m : Machine) (p : Process) (words : List String) (env : Env) : Machine :=
  let name := words.headD "sh"
  let place := placeFor env p.cwd
  let scope : Scope := { name, vars := variablesFor env place p.parent, id := p.id }
  let traps := p.ignores.filterMap fun n => (Signal.title? n).map fun s => (s, "")
  let scene (scope : Scope) (source : List Char) : Scene :=
    let sh : Interpreter := { scope, traps, place, stack := [.source { rest := source }] }
    { machine := m, self := p, sh }
  let refuse (text : String) : Machine :=
    let sc := scene scope []
    settle ({ sc with sh := { sc.sh with line := 0 } }.fail text)
  match scope.switched true (words.drop 1) with
  | .error e => refuse e
  | .ok s =>
    let controls := s.scope.has "monitor" || s.scope.has "interactive"
    let start (sc : Scene) : Machine :=
      let first := { sc with sh := { sc.sh with line := 0 } }
      let told := if controls then first.complain "can't access tty; job control turned off"
        else first
      settle { told with sh := sc.sh }
    let scope := s.scope.switch "monitor" false
    match s.takesScript, s.rest with
    | true, [] => refuse "-c requires an argument"
    | true, script :: args =>
      start (scene { scope with name := args.headD name, args := args.drop 1 } script.toList)
    | false, args =>
      if args.isEmpty || scope.has "stdin" then
        let input := (Dict.get? p.descriptors 0).getD .null
        let data := m.ahead input
        let sc := scene ({ scope with args }.switch "stdin" true) (Octets.chars data)
        start { sc with machine := m.skip input data.length }
      else
        let path := args.headD ""
        match m.tree.read p.cwd (.ofText path) with
        | .ok data => start (scene { scope with name := path, args := args.drop 1 } (Octets.chars data))
        | .error .isDirectory => start (scene { scope with name := path } [])
        | .error e => refuse (Scene.refusal false path e)

def carryOn (m : Machine) (p : Process) (w : Worker) : Machine :=
  let sc := ({ machine := m, self := p, sh := default } : Scene).carryOn w.name w.env w.out w.work
  match sc.next with
  | some (.ended e) => (sc.machine.update sc.self).finish p.id e
  | _ => settle sc

def act (m : Machine) (p : Process) : Machine :=
  match p.body with
  | .ended _ => m
  | .program name words env =>
    if isShell name then m.becomeShell p words env
    else m.carryOn p { name, env, work := Program.workOf name (words.drop 1) }
  | .working w => m.carryOn p w
  | .shell sh => settle ({ machine := m, self := p, sh } : Scene).step

def nextProcess? (m : Machine) : Option (Nat × Process) :=
  m.processes.foldl (fun best p =>
    match m.actsAt? p, best with
    | none, best => best
    | some t, some (u, b) => if t < u then some (t, p) else some (u, b)
    | some t, none => some (t, p)) none

def nextTime? (m : Machine) : Option Nat := m.nextProcess?.map fun p => max m.clock p.1

def advance (m : Machine) : Machine :=
  match m.nextProcess? with
  | none => m
  | some (t, p) => { m with clock := max m.clock t }.act p

structure Job where
  id : Nat
  out : Nat
  err : Nat
deriving Inhabited

def launch (m : Machine) (image : Image) (env : Env) (cwd : Place) (shows : Bool) :
    Job × Machine :=
  let (out, m) := m.fresh
  let (err, m) := m.fresh
  let (id, m) := m.fresh
  let streams := Dict.put (Dict.put m.streams out { shows }) err { shows }
  let p : Process :=
    { id, group := id, due := m.clock + Scene.startTime, cwd
      descriptors := [(0, .null), (1, .stream out), (2, .stream err)]
      body := .program image.program image.words env }
  ({ id, out, err }, { m with streams }.add p)

def isDrained (m : Machine) (j : Job) : Bool :=
  !m.isHeld fun d => d == .stream j.out || d == .stream j.err

def collect (m : Machine) (j : Job) : (List UInt8 × List UInt8) × Machine :=
  let (out, m) := m.closeStream j.out
  let (err, m) := m.closeStream j.err
  ((out, err), m.forget j.id)

def fixtures : List (Place × Entry) :=
  let programs := Dict.keys Program.catalogue ++ ["sh", "dash"]
  let under (d : Place) : List (Place × Entry) := programs.map fun n => (d ++ [n], .program n)
  let devices : List (String × Device) :=
    [("null", .null), ("zero", .zero), ("full", .full), ("random", .random), ("urandom", .random),
     ("tty", .terminal), ("stdin", .descriptor 0), ("stdout", .descriptor 1),
     ("stderr", .descriptor 2)]
  [(["bin"], .directory), (["usr"], .directory), (["usr", "bin"], .directory),
   (["dev"], .directory), (["dev", "fd"], .directory),
   (["tmp"], { Entry.directory with mode := 0o1777 })] ++
    devices.map (fun d => (["dev", d.1], .device d.2)) ++
    (List.range 10).map (fun n => (["dev", "fd", toString n], .device (.descriptor n))) ++
    under ["bin"] ++ under ["usr", "bin"]

def ofTree (t : FileTree) : Machine :=
  let fresh (e : Entry) : Entry := if e.time == 0 then { e with time := epoch } else e
  let t := { t with entries := t.entries.map fun e => (e.1, fresh e.2) }
  { tree := fixtures.foldl (fun t e => if (t.entry? e.1).isSome then t else t.put e.1 e.2) t }

end Machine

instance : Host Machine where
  Image := Image
  Job := Machine.Job
  tree := Machine.tree
  withTree m tree := { m with tree }
  tree_withTree _ _ := rfl
  withTree_tree _ := rfl
  withTree_withTree _ _ _ := rfl
  clock := Machine.clock
  withClock m clock := { m with clock }
  find m c words := Image.find m.tree (c.cwd.resolve []) c.env words
  launch m image c shows := m.launch image c.env (c.cwd.resolve []) shows
  isLive m j := m.isLive j.id
  kill m j := m.killGroup j.id
  code? m j := (m.ending? j.id).map Ending.returnCode
  isDrained := Machine.isDrained
  collect := Machine.collect
  nextTime? := Machine.nextTime?
  advance := Machine.advance
  takeShown m := (m.shown, { m with shown := [] })

end JobMatrix
