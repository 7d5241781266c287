import JobMatrix.Host.Machine.Builtin.Basic
import JobMatrix.Host.Program.Mode

/-! The commands of a shell that change what its children inherit: the directory, the permissions of
new files, and limits. -/

namespace JobMatrix.Builtin

open JobMatrix.Path (Place)

/-- The path that a name leads to from a path, without looking at links. Two slashes at the start, and
no more, stay. -/
def pathFrom (here target : String) : String :=
  let (start, names) : String × List String := match target.toList with
    | '/' :: '/' :: '/' :: _ => ("/", [])
    | ['/', '/'] => ("//", [])
    | '/' :: '/' :: _ => ("//", [])
    | '/' :: _ => ("/", [])
    | _ =>
      let lead := if here.startsWith "//" then "//" else "/"
      (lead, (here.splitOn "/").filter (!·.isEmpty))
  let steps := (target.splitOn "/").filter fun n => !n.isEmpty && n != "."
  let names := steps.foldl (fun (ns : List String) n => if n == ".." then ns.dropLast else ns ++ [n])
    names
  start ++ "/".intercalate names

def isAnchored (target : String) : Bool :=
  target.startsWith "/" || target == "." || target == ".." || target.startsWith "./" ||
    target.startsWith "../"

/-- Goes to a directory; none if that is not possible. -/
def enter? (sc : Scene) (physical : Bool) (target : String) : Option Scene :=
  let path := if physical then target else pathFrom sc.sh.place target
  match sc.machine.tree.lookup sc.self.cwd (.ofText path) with
  | .error _ => none
  | .ok (place, e) =>
    if !e.isDirectory then none
    else
      let shown := if physical then (Path.ofPlace place).text else path
      let exported (s : Shell.Scope) (name value : String) : Shell.Scope :=
        let old := (Dict.get? s.vars name).getD {}
        { s with vars := Dict.put s.vars name { old with value := some value, exported := true } }
      let sc := sc.mapScope fun s => exported (exported s "OLDPWD" sc.sh.place) "PWD" shown
      some { sc with
        sh := { sc.sh with place := shown }
        self := { sc.self with cwd := place } }

def cd (sc : Scene) (args : List String) : Scene :=
  withOptions sc "cd" "LP" args fun os args =>
    let scope := sc.sh.scope
    let physical := (os.getLast?.map (·.1)) == some 'P'
    let back := args.head? == some "-"
    let target := match args.head? with
      | none => (scope.get? "HOME").getD ""
      | some "-" => (scope.get? "OLDPWD").getD ""
      | some t => t
    let found? : Option (Scene × Bool) :=
      if isAnchored target then (enter? sc physical target).map fun sc => (sc, false)
      else
        let target := if target.isEmpty then "." else target
        let isThere (path : String) : Bool :=
          match sc.machine.tree.lookup sc.self.cwd (.ofText path) with
          | .ok (_, e) => e.isDirectory
          | .error _ => false
        let along := (((scope.get? "CDPATH").getD "").splitOn ":").map fun d =>
          (if d.isEmpty then target else d ++ "/" ++ target, !d.isEmpty)
        match along.find? fun p => isThere p.1 with
        | some (path, speaks) => (enter? sc physical path).map fun sc => (sc, speaks)
        | none => (enter? sc physical target).map fun sc => (sc, false)
    match found? with
    | some (sc, speaks) =>
      if back || speaks then outputText sc "cd" (sc.sh.place ++ "\n") else sc.withStatus 0
    | none => error sc "cd" ("can't cd to " ++ target)

def pwd (sc : Scene) (args : List String) : Scene :=
  withOptions sc "pwd" "LP" args fun os _ =>
    let physical := (os.getLast?.map (·.1)) == some 'P'
    outputText sc "pwd"
      ((if physical then (Path.ofPlace sc.self.cwd).text else sc.sh.place) ++ "\n")

namespace Umask

def letters (mask : Nat) : String :=
  let part (shift : Nat) : String :=
    let bits := ((0o777 - mask % 0o1000) >>> shift) % 8
    (if bits &&& 4 != 0 then "r" else "") ++ (if bits &&& 2 != 0 then "w" else "") ++
      (if bits &&& 1 != 0 then "x" else "")
  "u=" ++ part 6 ++ ",g=" ++ part 3 ++ ",o=" ++ part 0 ++ "\n"

def changed? (mask : Nat) (s : String) : Option Nat :=
  let whole (clause : String) : String :=
    if clause.isEmpty || clause.toList.all fun c => "ugoa".toList.contains c then clause ++ "+"
    else if (clause.toList.head?).elim false fun c => "+-=".toList.contains c then "a" ++ clause
    else clause
  (Program.Mode.read? (",".intercalate ((s.splitOn ",").map whole))).map fun changes =>
    0o777 - (Program.Mode.applyAll changes false 0 (0o777 - mask % 0o1000)) % 0o1000

end Umask

def umask (sc : Scene) (args : List String) : Scene :=
  withOptions sc "umask" "S" args fun os args =>
    let set (mask : Nat) : Scene :=
      { sc with self := { sc.self with umask := mask } }.withStatus 0
    match args with
    | [] =>
      outputText sc "umask" (if given os 'S' then Umask.letters sc.self.umask
        else Program.Mode.octalText 4 sc.self.umask ++ "\n")
    | a :: _ =>
      if (a.toList.head?).elim false Char.isDigit then
        if a.toList.all fun c => '0' ≤ c && c ≤ '7' then
          set ((a.toList.foldl (fun n c => 8 * n + (c.toNat - 48)) 0) % 0o1000)
        else error sc "umask" (illegal a)
      else match Umask.changed? sc.self.umask a with
        | some mask => set mask
        | none => error sc "umask" ("Illegal mode: " ++ a)

namespace Ulimit

def known : List (Char × String × String) :=
  [('t', "time(seconds)", "unlimited"), ('f', "file(blocks)", "unlimited"),
   ('d', "data(kbytes)", "unlimited"), ('s', "stack(kbytes)", "8192"),
   ('c', "coredump(blocks)", "unlimited"), ('m', "memory(kbytes)", "unlimited"),
   ('l', "locked memory(kbytes)", "8192"), ('p', "process", "unlimited"),
   ('n', "nofiles", "1048576"), ('v', "vmemory(kbytes)", "unlimited"),
   ('w', "locks", "unlimited"), ('r', "rtprio", "0")]

end Ulimit

def ulimit (sc : Scene) (args : List String) : Scene :=
  withOptions sc "ulimit" "HSatfdscmlpnvwr" args fun os args =>
    let limit (k : Char × String × String) : String := (Dict.get? sc.sh.limits k.1).getD k.2.2
    let letter := ((os.filter fun o => o.1 != 'H' && o.1 != 'S').getLast?.map (·.1)).getD 'f'
    if given os 'a' then
      outputText sc "ulimit" (String.join (Ulimit.known.map fun k =>
        k.2.1 ++ String.ofList (List.replicate (20 - k.2.1.length) ' ') ++ " " ++ limit k ++ "\n"))
    else match args, Ulimit.known.find? (·.1 == letter) with
      | _, none => sc.withStatus 0
      | [], some k => outputText sc "ulimit" (limit k ++ "\n")
      | [a], some _ =>
        if a == "unlimited" || a.toList.all Char.isDigit then
          { sc with sh := { sc.sh with limits := Dict.put sc.sh.limits letter a } }.withStatus 0
        else error sc "ulimit" "bad number"
      | _, some _ => error sc "ulimit" "too many arguments"

end JobMatrix.Builtin
