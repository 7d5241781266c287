import JobMatrix.Host.Machine.Builtin.Basic

/-! The commands of a shell that look up, describe and run other commands. -/

namespace JobMatrix.Builtin

open Shell (Frame)

def standardPath : String := "/usr/local/sbin:/usr/local/bin:/usr/sbin:/usr/bin:/sbin:/bin"

def searchPath (sc : Scene) : String := (sc.sh.scope.get? "PATH").getD ""

def locate (sc : Scene) (name search : String) : Except SystemError String :=
  if name.toList.contains '/' then
    match sc.machine.tree.lookup sc.self.cwd (.ofText name) with
    | .ok _ => .ok name
    | .error e => .error e
  else
    let found := (Image.candidates (search.splitOn ":") name).filterMap fun c =>
      match sc.machine.tree.lookup sc.self.cwd (.ofText c) with
      | .ok (_, e) => some (c, e.isRegular && e.isExecutable)
      | .error _ => none
    match found.find? (·.2) with
    | some c => .ok c.1
    | none => .error (if found.isEmpty then .noEntry else .permission)

def track (sc : Scene) (name file : String) : Scene :=
  if name.toList.contains '/' then sc
  else
    let tracked := Dict.put sc.sh.tracked name { file, search := searchPath sc }
    { sc with sh := { sc.sh with tracked } }

def tracked? (sc : Scene) (name : String) : Option String :=
  ((Dict.get? sc.sh.tracked name).filter fun t => t.search == searchPath sc).map (·.file)

def describe (sc : Scene) (inWords : Bool) (search name : String) : Scene :=
  let say (words plain : String) : Scene :=
    (sc.print ((if inWords then name ++ words else plain) ++ "\n"))
  if Shell.reserved.contains name then say " is a shell keyword" name
  else match Dict.get? sc.sh.aliases name with
    | some value => say (" is an alias for " ++ value) ("alias " ++ name ++ "=" ++ quoted value)
    | none =>
      if Dict.contains sc.sh.functions name then say " is a shell function" name
      else if isSpecial name then say " is a special shell builtin" name
      else if isKnown name then say " is a shell builtin" name
      else match tracked? sc name with
        | some file => say (" is a tracked alias for " ++ file) file
        | none =>
          match locate sc name search with
          | .ok file => track (say (" is " ++ file) file) name file
          | .error _ =>
            (if inWords then sc.print (name ++ ": not found\n") else sc).withStatus 127

def type (sc : Scene) (args : List String) : Scene :=
  args.foldl (fun sc n => describe sc true (searchPath sc) n) (sc.withStatus 0)

def command (sc : Scene) (args : List String) : Scene :=
  withOptions sc "command" "pvV" args fun os args =>
    let search := if given os 'p' then standardPath else searchPath sc
    match args with
    | [] => sc.withStatus 0
    | name :: _ =>
      if given os 'v' || given os 'V' then describe (sc.withStatus 0) (given os 'V') search name
      else sc.withStatus 0

/-- What is left of words after `command` and its options, if that runs another command, and whether
the standard search path is used. -/
def commanded? (standard : Bool) : List String → Option (List String × Bool)
  | [] => none
  | "--" :: rest => if rest.isEmpty then none else some (rest, standard)
  | w :: rest =>
    match w.toList with
    | '-' :: c :: cs => if (c :: cs).all (· == 'p') then commanded? true rest else none
    | _ => some (w :: rest, standard)

def hash (sc : Scene) (args : List String) : Scene :=
  withOptions sc "hash" "r" args fun os args =>
    if given os 'r' then { sc with sh := { sc.sh with tracked := [] } }.withStatus 0
    else if args.isEmpty then
      let bucket (name : String) : Nat :=
        let codes := (name.toUTF8.toList).map UInt8.toNat
        (16 * codes.headD 0 + codes.foldl (· + ·) 0) % 31
      let all := (sc.sh.tracked.filter fun t => t.2.search == searchPath sc).mergeSort
        fun a b => bucket a.1 ≤ bucket b.1
      outputText sc "hash" (String.join (all.map fun t => t.2.file ++ "\n"))
    else args.foldl (fun sc n =>
      if isKnown n || Dict.contains sc.sh.functions n then sc
      else match locate sc n (searchPath sc) with
        | .ok file => track sc n file
        | .error _ => error sc "hash" (n ++ ": not found") 1) (sc.withStatus 0)

def addAliases (sc : Scene) (args : List String) : Scene :=
  let line (a : String × String) : String := a.1 ++ "=" ++ quoted a.2 ++ "\n"
  if args.isEmpty then
    let all := sc.sh.aliases.mergeSort fun a b => Shell.Scope.bucket a.1 ≤ Shell.Scope.bucket b.1
    outputText sc "alias" (String.join (all.map line))
  else args.foldl (fun sc a =>
    let name := String.ofList (a.toList.take 1 ++ (a.toList.drop 1).takeWhile (· != '='))
    if name == a then
      match Dict.get? sc.sh.aliases a with
      | some value => sc.print (line (a, value))
      | none => (sc.mutter ("alias: " ++ a ++ " not found")).withStatus 1
    else
      let value := String.ofList (a.toList.drop (name.length + 1))
      { sc with sh := { sc.sh with aliases := Dict.put sc.sh.aliases name value } })
    (sc.withStatus 0)

def dropAliases (sc : Scene) (args : List String) : Scene :=
  withOptions sc "unalias" "a" args fun os args =>
    if given os 'a' then { sc with sh := { sc.sh with aliases := [] } }.withStatus 0
    else args.foldl (fun sc a =>
      if Dict.contains sc.sh.aliases a then
        { sc with sh := { sc.sh with aliases := Dict.erase sc.sh.aliases a } }
      else (sc.mutter ("unalias: " ++ a ++ " not found")).withStatus 1) (sc.withStatus 0)

/-- Runs a text as commands, about which complaints name `command`. -/
def runText (sc : Scene) (command : String) (text : List Char) (more : List Frame) : Scene :=
  let old := sc.sh.command
  let sc := { sc with sh := { sc.sh with command := some command } }
  (sc.withStatus 0).push (.source { rest := text } :: more ++ [.named old])

def source (sc : Scene) (args : List String) : Scene :=
  withOptions sc "." "" args fun _ args =>
    match args with
    | [] => sc.withStatus 0
    | path :: _ =>
      let readable (c : String) : Bool :=
        match sc.machine.tree.lookup sc.self.cwd (.ofText c) with
        | .ok (_, e) => e.isRegular
        | .error _ => false
      let found? := if path.toList.contains '/' then some path
        else (Image.candidates ((searchPath sc).splitOn ":") path).find? readable
      match found? with
      | none => error sc "." (path ++ ": not found")
      | some file =>
        match sc.machine.tree.read sc.self.cwd (.ofText file) with
        | .ok data => runText sc file (Octets.chars data) [.sourced]
        | .error e => error sc "." (Scene.refusal false file e)

def eval (sc : Scene) (args : List String) : Scene :=
  runText sc "eval" (" ".intercalate args).toList []

def exec (sc : Scene) (args : List String) : Scene :=
  let refuse (name text : String) (status : Nat) : Scene :=
    (sc.complainAbout (some "exec") (name ++ ": " ++ text)).leave status
  match args with
  | [] =>
    let stack := match sc.sh.stack with
      | .restore _ :: rest => rest
      | stack => stack
    (sc.setStack stack).withStatus 0
  | name :: _ =>
    match locate sc name (searchPath sc) with
    | .error .permission => refuse name "Permission denied" 126
    | .error _ => refuse name "not found" 127
    | .ok path =>
      match Image.load sc.machine.tree sc.self.cwd path args Image.depth with
      | .ok i => { sc with
          next := some (.program i.program i.words sc.sh.scope.environment)
          delay := Scene.startTime }
      | .error .badFormat => { sc with
          next := some (.program "sh" ("sh" :: path :: args.drop 1) sc.sh.scope.environment)
          delay := Scene.startTime }
      | .error .noEntry => refuse name "not found" 127
      | .error _ => refuse name "Permission denied" 126

def exit (sc : Scene) (name : String) (args : List String) : Scene :=
  let go (n : Nat) : Scene := if name == "exit" then sc.leave n else sc.returnWith n
  match args with
  | [] => go sc.status
  | a :: _ =>
    match number? a with
    | some n => go n
    | none => error sc name (illegal a)

def loops (sc : Scene) (continues : Bool) (args : List String) : Scene :=
  match args with
  | [] => sc.leaveLoop 1 continues
  | a :: _ =>
    match number? a with
    | some (n + 1) => sc.leaveLoop (n + 1) continues
    | _ => error sc (if continues then "continue" else "break") (illegal a)

end JobMatrix.Builtin
