import JobMatrix.Number.Leading
import JobMatrix.Host.Program.Options
import JobMatrix.Host.Shell.Condition

/-! Programs that have to do with the session: words and conditions, the environment, the time that
passes, and other programs. -/

namespace JobMatrix.Program

open JobMatrix.Path (Place)

def interval? (s : String) : Option Nat :=
  match Number.leading? s.toList with
  | none => none
  | some (x, rest) =>
    let unit? : Option Nat := match rest with
      | [] => some 1
      | ['s'] => some 1
      | ['m'] => some 60
      | ['h'] => some 3600
      | ['d'] => some 86400
      | _ => none
    match unit?, x with
    | none, _ => none
    | some _, .infinite false => some (10 ^ 20)
    | some u, x =>
      match x.toRat? with
      | some q => if q < 0 then none else some ((q * u * 1000000000).ceil.toNat)
      | none => none

def sleep (args : List String) : Work Nat :=
  let options : Options := { letters := "", long := [("help", "help"), ("version", "version")] }
  options.within "sleep" args fun _ words => do
    if words.isEmpty then misuse "sleep" "sleep: missing operand"
    else
      let bad := words.filter fun w => (interval? w).isNone
      if bad.isEmpty then
        Work.pause ((words.filterMap interval?).foldl (· + ·) 0) .done
        return 0
      else
        forEach bad fun w => do complain ("sleep: invalid time interval " ++ (← marked w))
        refuse (hint "sleep")

def test (name : String) (args : List String) : Work Nat := do
  let v ← view
  let (words, closed) := if name == "[" then
      (args.dropLast, args.getLast? == some "]") else (args, true)
  if !closed then refuse (name ++ ": missing " ++ (← marked "]")) 2
  else match Shell.Condition.evaluate { tree := v.tree, cwd := v.cwd } words with
    | .ok b => return codeOf b
    | .error e => refuse (name ++ ": " ++ e.formalText words.length) 2

def isAssignment (s : String) : Bool := s.toList.contains '='

def assignmentOf (s : String) : String × String :=
  let name := s.toList.takeWhile (· != '=')
  (String.ofList name, String.ofList (s.toList.drop (name.length + 1)))

def sayVariables (env : Env) (ending : String) : Work Unit :=
  forEach env fun v => sayText (v.1 ++ "=" ++ v.2 ++ ending)

def becomeOr (name : String) (lead : String) (words : List String) (env : Env) : Work Nat :=
  Work.become words env fun e => do
    complain (name ++ ": " ++ lead ++ (← quoted (words.headD "")) ++ ": " ++ e.reason)
    return if e == .noEntry then 127 else 126

def splitWords (word : List Char) (inWord : Bool) (quote : Option Char) :
    List Char → List String
  | [] => if inWord then [String.ofList word.reverse] else []
  | c :: rest =>
    match quote with
    | some q =>
      if c == q then splitWords word true none rest else splitWords (c :: word) true quote rest
    | none =>
      if c == '\'' || c == '"' then splitWords word true (some c) rest
      else if Number.isSpace c then
        if inWord then String.ofList word.reverse :: splitWords [] false none rest
        else splitWords [] false none rest
      else splitWords (c :: word) true none rest

def env (args : List String) : Work Nat := do
  let options : Options :=
    { letters := "+C:iS:u:v0"
      long := [("ignore-environment", "i"), ("null", "0"), ("unset", "u"), ("chdir", "C"),
        ("debug", "v"), ("split-string", "S"), ("help", "help"), ("version", "version")] }
  let args := match args with
    | "-S" :: text :: rest => splitWords [] false none text.toList ++ rest
    | a :: rest =>
      if a.startsWith "-S" then splitWords [] false none (a.toList.drop 2) ++ rest else args
    | [] => []
  options.within "env" args (fun cs words => do
    let v ← view
    let bare := has cs "i" || words.head? == some "-"
    let words := if words.head? == some "-" then words.drop 1 else words
    let start : Env := if bare then [] else v.env
    match (allOfKey cs "u").find? fun n => n.isEmpty || isAssignment n with
    | some n => refuse ("env: cannot unset " ++ (← marked n) ++ ": Invalid argument") 125
    | none =>
      let start := (allOfKey cs "u").foldl Dict.erase start
      let assigned := words.takeWhile isAssignment
      let env := assigned.foldl (fun e a => Dict.put e (assignmentOf a).1 (assignmentOf a).2) start
      let words := words.drop assigned.length
      let moved : Work (Option Nat) := match lastOf? cs "C" with
        | none => pure none
        | some d =>
          if words.isEmpty then do
            return some (← misuse "env" "env: must specify command with --chdir (-C)" 125)
          else match v.lookup d with
            | .ok (place, e) =>
              if e.isDirectory then Work.enter place fun _ => .done none
              else do
                return some (← refuse ("env: cannot change directory to " ++ (← quoted d) ++
                  ": Not a directory") 125)
            | .error e => do
              return some (← refuse ("env: cannot change directory to " ++ (← quoted d) ++ ": " ++
                e.reason) 125)
      match ← moved with
      | some code => return code
      | none =>
        if words.isEmpty then
          sayVariables env (if has cs "0" then "\x00" else "\n")
          return 0
        else if has cs "0" then misuse "env" "env: cannot specify --null (-0) with command" 125
        else becomeOr "env" "" words env) 125 false

def printenv (args : List String) : Work Nat :=
  let options : Options :=
    { letters := "+0", long := [("null", "0"), ("help", "help"), ("version", "version")] }
  options.within "printenv" args (fun cs names => do
    let v ← view
    let ending := if has cs "0" then "\x00" else "\n"
    if names.isEmpty then
      sayVariables v.env ending
      return 0
    else
      forEach (names.filterMap (Dict.get? v.env)) fun s => sayText (s ++ ending)
      return codeOf (names.all fun n => Dict.contains v.env n)) 2 false

def pwd (args : List String) : Work Nat :=
  let options : Options :=
    { letters := "LP", long := [("logical", "L"), ("physical", "P"), ("help", "help"),
        ("version", "version")] }
  options.within "pwd" args fun _ words => do
    if !words.isEmpty then complain "pwd: ignoring non-option arguments"
    sayLine (Path.ofPlace (← view).cwd).text
    return 0

def basenameOf (path ending : String) : String :=
  let last := lastName path
  if !ending.isEmpty && last.endsWith ending && last != ending then
    String.ofList (last.toList.take (last.length - ending.length))
  else last

def basename (args : List String) : Work Nat :=
  let options : Options :=
    { letters := "+as:z"
      long := [("multiple", "a"), ("suffix", "s"), ("zero", "z"), ("help", "help"),
        ("version", "version")] }
  options.within "basename" args (fun cs words => do
    let ending := if has cs "z" then "\x00" else "\n"
    let many := has cs "a" || has cs "s"
    match words with
    | [] => misuse "basename" "basename: missing operand"
    | p :: rest =>
      if many then
        let suffix := (lastOf? cs "s").getD ""
        forEach words fun p => sayText (basenameOf p suffix ++ ending)
        return 0
      else match rest with
        | _ :: extra :: _ => extraOperand "basename" extra
        | _ =>
          sayText (basenameOf p (rest.headD "") ++ ending)
          return 0) 1 false

def dirname (args : List String) : Work Nat :=
  let options : Options :=
    { letters := "+z", long := [("zero", "z"), ("help", "help"), ("version", "version")] }
  options.within "dirname" args (fun cs words => do
    if words.isEmpty then misuse "dirname" "dirname: missing operand"
    else
      forEach words fun p => sayText (dirnameOf p ++ (if has cs "z" then "\x00" else "\n"))
      return 0) 1 false

def kill (args : List String) : Work Nat :=
  let (n, targets) := match args with
    | "-s" :: s :: rest => (Signal.number? s, rest)
    | "--" :: rest => (some 15, rest)
    | a :: rest =>
      if a.startsWith "-" then (Signal.number? (String.ofList (a.toList.drop 1)), rest)
      else (some 15, args)
    | [] => (some 15, [])
  match n with
  | none => refuse "kill: invalid signal"
  | some n => do
    let ok ← allOf (targets.filterMap String.toInt?) fun t => do
      let found ← Work.signal n t .done
      if !found then complain s!"kill: ({t}): No such process"
      return found
    return codeOf ok

def nohup (args : List String) : Work Nat := do
  let args := if args.head? == some "--" then args.drop 1 else args
  let v ← view
  if args.isEmpty then misuse "nohup" "nohup: missing operand" 125
  else Work.ignore 1 fun _ => becomeOr "nohup" "failed to run command " args v.env

def nice (args : List String) : Work Nat := do
  let v ← view
  let (given, words) : Option String × List String := match args with
    | "-n" :: n :: rest => (some n, rest)
    | a :: rest =>
      if a.startsWith "-n" then (some (String.ofList (a.toList.drop 2)), rest)
      else if a.startsWith "--adjustment=" then (some (String.ofList (a.toList.drop 13)), rest)
      else match a.toList with
        | '-' :: c :: _ =>
          if c.isDigit || c == '-' || c == '+' then (some (String.ofList (a.toList.drop 1)), rest)
          else (none, args)
        | _ => (none, args)
    | [] => (none, [])
  match given.bind fun s => if s.toInt?.isSome || s.startsWith "+" then none else some s with
  | some s => refuse ("nice: invalid adjustment " ++ (← marked s)) 125
  | none =>
    if words.isEmpty then
      if given.isSome then misuse "nice" "nice: a command must be given with an adjustment" 125
      else
        sayLine "0"
        return 0
    else becomeOr "nice" "" words v.env

def setsid (args : List String) : Work Nat := do
  let words := args.dropWhile (·.startsWith "-")
  let v ← view
  if words.isEmpty then misuse "setsid" "setsid: no command specified"
  else Work.lead fun _ => becomeOr "setsid" "failed to execute " words v.env

namespace Timeout

/-- Waits for the end of a child; after some time it gets a signal, and perhaps a last one later. -/
def watch (child : Child) (given : Nat) (foreground preserve : Bool) (limit : Nat)
    (last : Option Nat) : Work Nat := do
  let v ← view
  let code (e : Ending) : Nat := e.status
  match ← Work.wait child (if limit == 0 then none else some (v.now + limit)) .done with
  | some (.code n, _) => return n
  | some (.signal n, _) =>
    let _ ← Work.signal n v.id .done
    return 128 + n
  | none =>
    strike v
    let first ← Work.wait child (last.map fun t => v.now + limit + t) .done
    match first with
    | some (e, _) => return if preserve then code e else 124
    | none =>
      let _ ← Work.signal Signal.kill child.id .done
      let _ ← Work.wait child none .done
      return 128 + Signal.kill
where
  strike (v : View) : Work Unit := do
    let _ ← Work.signal given child.id .done
    if !foreground then
      Work.ignore given fun _ => do
        let _ ← Work.signal given (-(v.id : Int)) .done

def options : Options :=
  { letters := "+k:s:v"
    long := [("foreground", "foreground"), ("kill-after", "k"), ("preserve-status", "preserve"),
      ("signal", "s"), ("verbose", "v"), ("help", "help"), ("version", "version")] }

end Timeout

def timeout (args : List String) : Work Nat :=
  Timeout.options.within "timeout" args (fun cs words => do
    let v ← view
    let last := (lastOf? cs "k").map fun s => (s, interval? s)
    let signal := (lastOf? cs "s").map fun s => (s, Signal.number? s)
    match last, signal, words with
    | some (s, none), _, _ => misuse "timeout" ("timeout: invalid time interval " ++ (← marked s)) 125
    | _, some (s, none), _ => misuse "timeout" ("timeout: " ++ (← marked s) ++ ": invalid signal") 125
    | _, _, limit :: command :: rest =>
      match interval? limit with
      | none => misuse "timeout" ("timeout: invalid time interval " ++ (← marked limit)) 125
      | some n =>
        let go : Work Nat := do
          match ← Work.start { words := command :: rest, env := v.env } .done with
          | .error e =>
            complain ("timeout: failed to run command " ++ (← quoted command) ++ ": " ++ e.reason)
            return if e == .noEntry then 127 else 126
          | .ok child =>
            Timeout.watch child ((signal.bind (·.2)).getD 15) (has cs "foreground")
              (has cs "preserve") n (last.bind (·.2))
        if has cs "foreground" then go else Work.lead fun _ => go
    | _, _, _ => misuse "timeout" "timeout: missing operand" 125) 125 false

def which (args : List String) : Work Nat := do
  let v ← view
  let every := args.contains "-a"
  let names := args.filter fun a => a != "-a" && a != "--"
  let directories := ((Dict.get? v.env "PATH").getD "").splitOn ":"
  let isProgram (p : String) : Bool := match v.lookup p with
    | .ok (_, e) => e.isRegular && e.isExecutable
    | .error _ => false
  let ok ← allOf names fun n => do
    let places := if n.toList.contains '/' then [n] else directories.map fun d => under d n
    let found := places.filter isProgram
    forEach (if every then found else found.take 1) sayLine
    return !found.isEmpty
  return codeOf (ok && !names.isEmpty)

def id (args : List String) : Work Nat :=
  let options : Options :=
    { letters := "agGnruzZ"
      long := [("group", "g"), ("groups", "G"), ("name", "n"), ("real", "r"), ("user", "u"),
        ("zero", "z"), ("help", "help"), ("version", "version")] }
  options.within "id" args fun cs words => do
    match words.find? (· != "root") with
    | some w => refuse ("id: " ++ (← marked w) ++ ": no such user")
    | none =>
      if has cs "u" || has cs "g" || has cs "G" then
        sayLine (if has cs "n" then "root" else "0")
        return 0
      else if has cs "n" || has cs "r" then
        refuse "id: cannot print only names or real IDs in default format"
      else
        sayLine "uid=0(root) gid=0(root) groups=0(root)"
        return 0

def uname (args : List String) : Work Nat :=
  let options : Options :=
    { letters := "asnrvpimo"
      long := [("all", "a"), ("kernel-name", "s"), ("nodename", "n"), ("kernel-release", "r"),
        ("kernel-version", "v"), ("processor", "p"), ("hardware-platform", "i"), ("machine", "m"),
        ("operating-system", "o"), ("help", "help"), ("version", "version")] }
  options.within "uname" args fun cs words => do
    match words with
    | w :: _ => extraOperand "uname" w
    | [] =>
      let all := has cs "a"
      let parts := [("s", "Linux"), ("n", "localhost"), ("r", "6.1.0"), ("v", "#1 SMP"),
        ("m", "x86_64"), ("p", "unknown"), ("i", "unknown"), ("o", "GNU/Linux")].filter fun p =>
          if all then p.2 != "unknown" else has cs p.1
      sayLine (if parts.isEmpty then "Linux" else " ".intercalate (parts.map (·.2)))
      return 0

end JobMatrix.Program
