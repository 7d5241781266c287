import JobMatrix.Host.Machine.Builtin.Basic

/-! The commands of a shell that set and show variables, arguments and options. -/

namespace JobMatrix.Builtin

open Shell (Frame Variable)

def listing (sc : Scene) (lead : String) (fits : Variable → Bool) : String :=
  let chosen := sc.sh.scope.vars.filter fun v => fits v.2
  String.join ((chosen.mergeSort fun a b => a.1 ≤ b.1).map fun v =>
    lead ++ v.1 ++ (v.2.value.elim "" fun x => "=" ++ quoted x) ++ "\n")

def markOne (sc : Scene) (name arg : String) (f : Variable → Variable) : Scene :=
  let target := String.ofList (arg.toList.takeWhile (· != '='))
  if sc.next.isSome then sc
  else if !Shell.isName target then error sc name (target ++ ": bad variable name")
  else
    let assigned := if arg.toList.contains '=' then
        sc.setVariable target (String.ofList (arg.toList.drop (target.length + 1)))
      else .ok sc
    match assigned with
    | .error e => error sc name e
    | .ok sc => sc.mapScope fun s =>
      { s with vars := Dict.put s.vars target (f ((Dict.get? s.vars target).getD {})) }

def mark (sc : Scene) (name : String) (args : List String) : Scene :=
  let readonly := name == "readonly"
  withOptions sc name "p" args fun os rest =>
    if given os 'p' || rest.isEmpty then
      outputText sc name (listing sc (name ++ " ")
        fun v => if readonly then v.readonly else v.exported)
    else rest.foldl (fun sc a => markOne sc name a fun v =>
      if readonly then { v with readonly := true } else { v with exported := true })
      (sc.withStatus 0)

def unset (sc : Scene) (args : List String) : Scene :=
  withOptions sc "unset" "vf" args fun os names =>
    names.foldl (fun sc n =>
      if sc.next.isSome then sc
      else if given os 'f' then
        { sc with sh := { sc.sh with functions := Dict.erase sc.sh.functions n } }
      else if !Shell.isName n then error sc "unset" (n ++ ": bad variable name")
      else match Dict.get? sc.sh.scope.vars n with
        | some v =>
          if v.readonly then error sc "unset" (n ++ ": is read only")
          else sc.mapScope fun s => { s with vars := Dict.erase s.vars n }
        | none => sc) (sc.withStatus 0)

def setArguments (sc : Scene) (args : List String) : Scene :=
  let sc := sc.mapScope fun s => { s with args }
  { sc with sh := { sc.sh with nextOption := (1, none) } }

def set (sc : Scene) (args : List String) : Scene :=
  if args.isEmpty then outputText sc "set" (listing sc "" fun v => v.value.isSome)
  else match sc.sh.scope.switched false args with
    | .error e => error sc "set" e
    | .ok s =>
      let tables := String.join (s.tables.map (Shell.optionTable s.scope))
      let sc := if s.scope.has "monitor" then
          sc.complainAbout (some "set") "can't access tty; job control turned off"
        else sc
      let sc := (sc.mapScope fun _ => s.scope.switch "monitor" false).withStatus 0
      let sc := if tables.isEmpty then sc else outputText sc "set" tables
      if s.rest.isEmpty && !s.closed then sc else setArguments sc s.rest

def shift (sc : Scene) (args : List String) : Scene :=
  let n? := match args with
    | [] => some 1
    | a :: _ => number? a
  match n? with
  | none => error sc "shift" (illegal (args.headD ""))
  | some n =>
    if sc.sh.scope.args.length < n then error sc "shift" "can't shift that many"
    else (setArguments sc (sc.sh.scope.args.drop n)).withStatus 0

def keep (vars : List (String × Option Variable)) : List Frame → Option (List Frame)
  | [] => none
  | .call args old next :: rest => some (.call args (vars ++ old) next :: rest)
  | f :: rest => (keep vars rest).map (f :: ·)

def local' (sc : Scene) (args : List String) : Scene :=
  let nameOf (a : String) : String := String.ofList (a.toList.takeWhile (· != '='))
  let refuse (text : String) : Scene := (sc.complainAbout (some "local") text).leave 2
  match keep [] sc.sh.stack with
  | none => refuse "not in a function"
  | some _ =>
    match args.find? fun a => !Shell.isName (nameOf a) && a != "-" with
    | some a => refuse (nameOf a ++ ": bad variable name")
    | none =>
      let names := (args.filter (· != "-")).map nameOf
      let old := names.map fun n => (n, Dict.get? sc.sh.scope.vars n)
      let stack := (keep old sc.sh.stack).getD sc.sh.stack
      let values := args.filter fun a => a.toList.contains '='
      match values.foldlM (fun (sc : Scene) a =>
          sc.setVariable (nameOf a) (String.ofList (a.toList.drop ((nameOf a).length + 1))))
          ((sc.setStack stack).withStatus 0) with
      | .ok sc => sc
      | .error e => refuse e

def read (sc : Scene) (args : List String) : Scene :=
  withOptions sc "read" "p:r" args fun os names =>
    if names.isEmpty then error sc "read" "arg count"
    else sc.push [.reading names (given os 'r')]

namespace Getopts

/-- What was found: the letter, the argument of an option, where to go on, and what is said. -/
structure Found where
  letter : Char := '?'
  argument : Option String := none
  nextOption : Nat × Option Nat
  complaint : Option String := none
  done : Bool := false

def look (known : List Char) (words : List String) (next : Nat × Option Nat) : Found :=
  let (index, offset) := next
  let silent := known.head? == some ':'
  let present : List Char := match offset with
    | some n => if index ≤ 1 then [] else ((words[index - 2]?).getD "").toList.drop n
    | none => []
  let fresh := present.isEmpty
  let word := (words[index - 1]?).getD ""
  let (letters, index) := if fresh then (word.toList.drop 1, index + 1) else (present, index)
  if fresh && (!word.startsWith "-" || word == "-" || words.length < index - 1) then
    { nextOption := (index - 1, none), done := true }
  else if fresh && word == "--" then { nextOption := (index, none), done := true }
  else
    match letters with
    | [] => { nextOption := (index, none), done := true }
    | c :: rest =>
      let length := ((words[index - 2]?).getD "").length
      let onward := (index, if rest.isEmpty then none else some (length - rest.length))
      match if c == ':' then none else takes? known c with
      | none =>
        { argument := if silent then some (String.singleton c) else none, nextOption := onward
          complaint := if silent then none else some ("Illegal option -" ++ String.singleton c) }
      | some false => { letter := c, argument := some "", nextOption := onward }
      | some true =>
        if !rest.isEmpty then
          { letter := c, argument := some (String.ofList rest), nextOption := (index, none) }
        else match words[index - 1]? with
          | some a => { letter := c, argument := some a, nextOption := (index + 1, none) }
          | none =>
            if silent then
              { letter := ':', argument := some (String.singleton c), nextOption := (index, none) }
            else
              { nextOption := (index, none)
                complaint := some ("No arg for -" ++ String.singleton c ++ " option") }

end Getopts

def getopts (sc : Scene) (args : List String) : Scene :=
  match args with
  | known :: name :: more =>
    let words := if more.isEmpty then sc.sh.scope.args else more
    let next := if words.length + 1 < sc.sh.nextOption.1 then (1, none) else sc.sh.nextOption
    let f := Getopts.look known.toList words next
    let sc := match f.complaint with
      | some text => sc.mutter text
      | none => sc
    let sc := if f.done then sc
      else match f.argument with
        | some a => sc.mapScope fun s => s.set "OPTARG" a
        | none => sc.mapScope fun s => { s with vars := Dict.erase s.vars "OPTARG" }
    let sc := sc.mapScope fun s => s.set "OPTIND" (toString f.nextOption.1)
    let sc := { sc with sh := { sc.sh with nextOption := f.nextOption } }
    if !Shell.isName name then error sc "getopts" (name ++ ": bad variable name")
    else match sc.sh.scope.assign name (String.singleton f.letter) with
      | .ok scope => (sc.mapScope fun _ => scope).withStatus (if f.done then 1 else 0)
      | .error e => error sc "getopts" e
  | _ => error sc "getopts" "Usage: getopts optstring var [arg...]"

end JobMatrix.Builtin
