import JobMatrix.Host.Machine.Builtin.Basic

/-! The commands of a shell that deal with signals and with jobs in the background. -/

namespace JobMatrix.Builtin

open Shell (Job)

def trap (sc : Scene) (args : List String) : Scene :=
  withOptions sc "trap" "" args fun _ args =>
    match args with
    | [] =>
      let number (t : String × String) : Nat := (Signal.entitled? t.1).getD 0
      let lines := (sc.sh.traps.mergeSort fun a b => number a ≤ number b).map fun t =>
        "trap -- " ++ quoted t.2 ++ " " ++ t.1 ++ "\n"
      outputText sc "trap" (String.join lines)
    | first :: rest =>
      let isNumber := (number? first).elim false (· < 65)
      if rest.isEmpty || isNumber then go sc none args
      else go sc (if first == "-" then none else some first) rest
where
  go (sc : Scene) (action : Option String) : List String → Scene
    | [] => sc.withStatus 0
    | s :: rest =>
      match Signal.entitled? s with
      | none => (sc.mutter ("trap: " ++ s ++ ": bad trap")).withStatus 1
      | some n =>
        let name := (Signal.title? n).getD "EXIT"
        let traps := match action with
          | some a => Dict.put sc.sh.traps name a
          | none => Dict.erase sc.sh.traps name
        let others := sc.self.ignores.filter (· != n)
        let ignores := if action == some "" && n != 0 then n :: others else others
        go { sc with sh := { sc.sh with traps }, self := { sc.self with ignores } } action rest

def jobMark (sc : Scene) (j : Job) : Char :=
  match sc.sh.jobs with
  | a :: b :: _ => if a.number == j.number then '+' else if b.number == j.number then '-' else ' '
  | [a] => if a.number == j.number then '+' else ' '
  | [] => ' '

def job? (sc : Scene) (s : String) : Except String Job :=
  let found? : Option Job := match s.toList with
    | [] => sc.sh.jobs.head?
    | ['%'] => sc.sh.jobs.head?
    | ['%', '%'] => sc.sh.jobs.head?
    | ['%', '+'] => sc.sh.jobs.head?
    | ['%', '-'] => (sc.sh.jobs.drop 1).head?
    | '%' :: digits => (number? (String.ofList digits)).bind fun n =>
      sc.sh.jobs.find? (·.number == n)
    | _ => none
  match found? with
  | some j => .ok j
  | none =>
    .error (if s == "%-" then "No previous job"
      else if ["", "%", "%%", "%+"].contains s then "No current job"
      else "No such job: " ++ s)

def signalNames : String :=
  "0\n" ++ String.join ((List.range 64).map fun n => (Signal.title? (n + 1)).getD "" ++ "\n")

def kill (sc : Scene) (args : List String) : Scene :=
  let usage : Scene := error sc "kill"
    ("Usage: kill [-s sigspec | -signum | -sigspec] [pid | job]... or\n" ++
      "kill -l [exitstatus]")
  match args with
  | [] => usage
  | first :: rest =>
    let direct := if first.startsWith "-" then
        (Signal.entitled? (String.ofList (first.toList.drop 1))).filter fun n =>
          0 < n || first == "-0"
      else none
    match direct with
    | some n => if rest.isEmpty then usage else send n sc rest
    | none =>
      withOptions sc "kill" "ls:" args fun os rest =>
        let named := os.filter (·.1 == 's')
        match named.find? fun o => (Signal.entitled? o.2).isNone with
        | some o => error sc "kill" ("invalid signal number or name: " ++ o.2)
        | none =>
          if given os 'l' then
            match rest with
            | [] => if named.isEmpty then outputText sc "kill" signalNames else usage
            | a :: _ =>
              match number? a with
              | none => error sc "kill" (illegal a)
              | some n =>
                match Signal.title? (if 128 < n then n - 128 else n) with
                | some name => outputText sc "kill" (name ++ "\n")
                | none => error sc "kill" ("invalid signal number or exit status: " ++ a)
          else if rest.isEmpty then usage
          else send ((named.getLast?.bind fun o => Signal.entitled? o.2).getD 15) sc rest
where
  send (n : Nat) (sc : Scene) (targets : List String) : Scene :=
    targets.foldl (one n) (sc.withStatus 0)
  one (n : Nat) (sc : Scene) (target : String) : Scene :=
    let go (id : Int) : Scene :=
      let (sc, found) := sc.signal n id
      if found then sc else error sc "kill" "No such process\n" 1
    if sc.next.isSome then sc
    else if target.startsWith "%" then
      match job? sc target with
      | .ok j => go (-(j.id : Int))
      | .error e => error sc "kill" e
    else if target.startsWith "-" then
      match number? (String.ofList (target.toList.drop 1)) with
      | some id => go (-(id : Int))
      | none => error sc "kill" (illegal (String.ofList (target.toList.drop 1)))
    else match number? target with
      | some id => go id
      | none => error sc "kill" (illegal target)

def wait (sc : Scene) (args : List String) : Scene :=
  withOptions sc "wait" "" args fun _ args =>
    if args.isEmpty then sc.push [.wait (sc.sh.jobs.map (·.id)) true]
    else
      let ids := args.mapM fun a =>
        if a.startsWith "%" then (job? sc a).map (·.id)
        else match number? a with
          | some n => .ok n
          | none => .error (illegal a)
      match ids with
      | .error e => error sc "wait" e
      | .ok ids => (sc.withStatus 127).push (ids.map fun id => .wait [id] false)

def jobLine (sc : Scene) (withId : Bool) (j : Job) : String :=
  let start := s!"[{j.number}] " ++ String.singleton (jobMark sc j) ++ " " ++
    (if withId then s!"{j.id} " else "")
  let state := match sc.machine.ending? j.id with
    | some (.code 0) => "Done"
    | some (.code n) => s!"Done({n})"
    | some (.signal n) => (Signal.known.find? (·.number == n)).elim s!"Signal {n}" (·.text)
    | none => "Running"
  let line := start ++ state
  line ++ String.ofList (List.replicate (33 - line.length) ' ') ++ "\n"

def jobs (sc : Scene) (args : List String) : Scene :=
  withOptions sc "jobs" "lp" args fun os args =>
    let sc := sc.noticeJobs
    let chosen := if args.isEmpty then .ok sc.sh.jobs else args.mapM (job? sc)
    match chosen with
    | .error e => error sc "jobs" e
    | .ok js =>
      js.foldl (fun sc j =>
        let text := if given os 'p' then s!"{j.id}\n" else jobLine sc (given os 'l') j
        let sc := sc.print text
        if j.known && !given os 'p' then
          { sc with
            machine := sc.machine.forget j.id
            sh := { sc.sh with jobs := sc.sh.jobs.filter (·.number != j.number) } }
        else sc) (sc.withStatus 0)

def move (sc : Scene) (name : String) (args : List String) : Scene :=
  withOptions sc name "" args fun _ args =>
    match job? sc (args.headD "") with
    | .error e => error sc name e
    | .ok _ => error sc name
      ("job " ++ (args.head?).getD "(null)" ++ " not created under job control")

def times (sc : Scene) : Scene :=
  outputText sc "times" "0m0.000000s 0m0.000000s\n0m0.000000s 0m0.000000s\n"

end JobMatrix.Builtin
