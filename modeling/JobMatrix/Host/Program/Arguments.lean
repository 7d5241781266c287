import JobMatrix.Host.Program.Files

/-! Commands whose arguments are read from an input, as many at a time as they may take. -/

namespace JobMatrix.Program

namespace Arguments

inductive Division where
  /-- At blanks and ends of lines, which quotes protect. -/
  | words
  /-- At ends of lines, which quotes protect; blanks before an argument do not count. -/
  | lines
  | bytes (b : UInt8)
deriving DecidableEq, Repr

inductive Share where
  | all
  | most (n : Nat)
  | lines (n : Nat)
  /-- One that stands where a text stands. -/
  | inPlace (text : String)
deriving DecidableEq, Repr

inductive Item where
  | word (data : List UInt8)
  | lineEnd
  /-- A quote that is not closed. -/
  | unclosed (quote : UInt8)
  | nul
deriving DecidableEq, Repr

inductive Mode where
  | between
  | within
  | quoted (quote : UInt8)
  | escaped
deriving DecidableEq, Repr

structure Scan where
  mode : Mode := .between
  word : List UInt8 := []
  blank : Bool := false
  warned : Bool := false

def isBlank (b : UInt8) : Bool := b == 32 || b == 9 || (10 < b && b ≤ 13)

def Scan.step (d : Division) (s : Scan) (b : UInt8) : Scan × List Item :=
  let word : Item := .word s.word.reverse
  let (s, nuls) := if b == 0 && !s.warned then ({ s with warned := true }, [Item.nul]) else (s, [])
  let add (s : Scan) : Scan := { s with word := b :: s.word, blank := false }
  let fresh : Scan := { s with mode := .between, word := [] }
  let plain : Scan × List Item :=
    if b == 34 || b == 39 then ({ s with mode := .quoted b, blank := false }, nuls)
    else if b == 92 then ({ s with mode := .escaped, blank := false }, nuls)
    else ({ add s with mode := .within }, nuls)
  match s.mode with
  | .escaped => ({ add s with mode := .within }, nuls)
  | .quoted q =>
    if b == q then ({ s with mode := .within }, nuls)
    else if b == 10 then (fresh, nuls ++ [.unclosed q])
    else (add s, nuls)
  | .between =>
    if b == 10 then ({ fresh with blank := false }, if s.blank then nuls else nuls ++ [.lineEnd])
    else if isBlank b then ({ s with blank := true }, nuls)
    else plain
  | .within =>
    if b == 10 then ({ fresh with blank := false }, nuls ++ [word, .lineEnd])
    else if isBlank b && d == .words then ({ fresh with blank := true }, nuls ++ [word])
    else plain

def Scan.piece (mark : UInt8) (s : Scan) (b : UInt8) : Scan × List Item :=
  if b == mark then ({ s with word := [] }, [.word s.word.reverse, .lineEnd])
  else ({ s with word := b :: s.word }, [])

def Scan.block (d : Division) (s : Scan) (data : List UInt8) : Scan × List Item :=
  let step (s : Scan) (b : UInt8) : Scan × List Item := match d with
    | .bytes mark => s.piece mark b
    | d => s.step d b
  let (s, items) := data.foldl (fun (acc : Scan × List Item) b =>
    let (s, found) := step acc.1 b
    (s, found.reverse ++ acc.2)) (s, [])
  (s, items.reverse)

def Scan.finish (s : Scan) : List Item :=
  match s.mode with
  | .quoted q => [.unclosed q]
  | _ => if s.word.isEmpty then [] else [.word s.word.reverse, .lineEnd]

structure Style where
  division : Division := .words
  share : Share := .all
  /-- The greatest length of a command. -/
  limit : Nat := 131072
  command : List String
  /-- The argument at which the input ends. -/
  ending : Option String := none
  traces : Bool := false
  runsEmpty : Bool := true
  exact : Bool := false

structure State where
  /-- The arguments for the next command, the latest first. -/
  held : List String := []
  lines : Nat := 0
  size : Nat := 0
  ran : Bool := false
  status : Nat := 0
  /-- The code with which all ends. -/
  stopped : Option Nat := none

abbrev Gathering := StateT State Work

def ask {α : Type} (w : Work α) : Gathering α := fun s => do return (← w, s)

def lengthOf (words : List String) : Nat :=
  words.foldl (fun n w => n + (Octets.ofText w).length + 1) 0

def halt (text : String) (code : Nat) : Gathering Unit := do
  ask (complain ("xargs: " ++ text))
  modify fun s => { s with stopped := some code }

def execute (st : Style) (words : List String) : Gathering Unit := do
  let v ← ask view
  if st.traces then
    ask (complain (" ".intercalate (words.map (Quoting.forShell v.isUtf8))))
  modify fun s => { s with ran := true }
  let name := words.headD ""
  match ← ask (.start { words, env := v.env, input := .nothing } .done) with
  | .error e => halt (name ++ ": " ++ e.reason) (if e == .noEntry then 127 else 126)
  | .ok child =>
    match ← ask (.wait child none .done) with
    | some (.code 0, _) => return ()
    | some (.code 255, _) => halt (name ++ ": exited with status 255; aborting") 124
    | some (.signal n, _) => halt (name ++ s!": terminated by signal {n}") 125
    | _ => modify fun s => { s with status := 123 }

def release (st : Style) : Gathering Unit := do
  let s ← get
  set { s with held := [], lines := 0, size := 0 }
  execute st (st.command ++ s.held.reverse)

def take (st : Style) (word : String) : Gathering Unit := do
  let cost := (Octets.ofText word).length + 1
  match st.share with
  | .inPlace text =>
    let words := st.command.map fun w => word.intercalate (w.splitOn text)
    if st.limit < lengthOf words then halt "argument list too long" 1
    else execute st words
  | share =>
    let base := lengthOf st.command
    if st.limit < base + (← get).size + cost then
      if (← get).held.isEmpty || st.exact || st.limit < base + cost then
        if !(← get).held.isEmpty && !st.exact then release st
        if (← get).stopped.isNone then halt "argument line too long" 1
      else release st
    if (← get).stopped.isNone then
      modify fun s => { s with held := word :: s.held, size := s.size + cost }
      match share with
      | .most n => if n ≤ (← get).held.length then release st
      | _ => pure ()

def takeAll (st : Style) (atEnd : Bool) : List Item → Gathering Unit
  | [] => return ()
  | i :: rest => do
    let s ← get
    if s.stopped.isSome then return ()
    match i with
    | .nul =>
      ask (complain ("xargs: WARNING: a NUL character occurred in the input.  It cannot be passed " ++
        "through in the argument list.  Did you mean to use the --null option?"))
    | .unclosed q =>
      if !s.held.isEmpty then release st
      halt ("unmatched " ++ (if q == 39 then "single" else "double") ++ " quote; by default " ++
        "quotes are special to xargs unless you use the -0 option") 1
    | .lineEnd =>
      match st.share with
      | .lines n =>
        if !s.held.isEmpty then
          set { s with lines := s.lines + 1 }
          if n ≤ s.lines + 1 then release st
      | _ => pure ()
    | .word data =>
      let word := Octets.text (data.filter (· != 0))
      if st.ending == some word && (!atEnd || s.held.isEmpty) then
        if !s.held.isEmpty then release st
        modify fun s => { s with stopped := some s.status, ran := true }
      else take st word
    takeAll st atEnd rest

def gather (st : Style) (next : Work (List UInt8)) : Nat → Scan → Gathering Unit
  | 0, _ => return ()
  | fuel + 1, scan => do
    let data ← ask next
    if data.isEmpty then takeAll st true scan.finish
    else
      let (scan, items) := scan.block st.division data
      takeAll st false items
      if (← get).stopped.isNone then gather st next fuel scan

def finish (st : Style) : Gathering Nat := do
  let s ← get
  let isPlain := match st.share with
    | .inPlace _ => false
    | _ => true
  if s.stopped.isNone && (!s.held.isEmpty || (!s.ran && st.runsEmpty && isPlain)) then release st
  let s ← get
  return s.stopped.getD s.status

def options : Options :=
  { letters := "0a:E:e::i::I:l::L:n:prs:txP:d:o",
    long := [("null", "0"), ("arg-file", "a"), ("delimiter", "d"), ("eof", "e"), ("replace", "i"),
      ("max-lines", "l"), ("max-args", "n"), ("open-tty", "o"), ("interactive", "p"),
      ("no-run-if-empty", "r"), ("max-chars", "s"), ("verbose", "t"),
      ("show-limits", "show-limits"), ("exit", "x"), ("max-procs", "P"),
      ("process-slot-var", "slot:"), ("version", "version"), ("help", "help")] }

structure Problem where
  text : String
  explains : Bool := false

def number (key text : String) (least : Nat) : Except Problem Nat :=
  match text.toInt? with
  | none => .error { text := "invalid number \"" ++ text ++ "\" for -" ++ key ++ " option"
                     explains := true }
  | some n =>
    if n < least then
      .error { text := s!"value {n} for -{key} option should be >= {least}", explains := true }
    else .ok n.toNat

def delimiter (text : String) : Except Problem UInt8 :=
  let wrong : Except Problem UInt8 := .error { text := "Invalid input delimiter specification " ++
    text ++ ": the delimiter must be either a single character or an escape sequence starting with \\." }
  match text.toList with
  | '\\' :: 'x' :: ds => .ok (Number.natOfHex ds).toUInt8
  | ['\\', c] =>
    match c with
    | 'a' => .ok 7
    | 'b' => .ok 8
    | 'f' => .ok 12
    | 'n' => .ok 10
    | 'r' => .ok 13
    | 't' => .ok 9
    | 'v' => .ok 11
    | '\\' => .ok 92
    | c =>
      if '0' ≤ c && c ≤ '7' then .ok (c.toNat - 48).toUInt8
      else .error { text := "Invalid escape sequence " ++ text ++ " in input delimiter specification." }
  | '\\' :: d :: ds =>
    let n : Nat := (d :: ds).foldl (fun n c => 8 * n + (c.toNat - 48)) 0
    .ok n.toUInt8
  | _ =>
    match Octets.ofText text with
    | [b] => .ok b
    | _ => wrong

def Share.name? : Share → Option String
  | .all => none
  | .most _ => some "--max-args"
  | .lines _ => some "--max-lines"
  | .inPlace _ => some "--replace"

def Style.withOption (st : Style) (c : Choice) : Except Problem (Style × List String) := do
  let a := c.argument.getD ""
  let sharing (share : Share) (name : String) : Style × List String :=
    let clash := match st.share, share with
      | .most _, .most _ => none
      | .lines _, .lines _ => none
      | .inPlace _, .inPlace _ => none
      | old, _ => old.name?
    ({ st with share }, (clash.map fun old => "warning: options " ++ old ++ " and " ++ name ++
      " are mutually exclusive, ignoring previous " ++ old ++ " value").toList)
  match c.key with
  | "0" => return ({ st with division := .bytes 0 }, [])
  | "d" => return ({ st with division := .bytes (← delimiter a) }, [])
  | "E" => return ({ st with ending := if a.isEmpty then none else some a }, [])
  | "e" => return ({ st with ending := if a.isEmpty then none else some a }, [])
  | "n" =>
    let n ← number "n" a 1
    match st.share with
    | .inPlace _ => if n == 1 then return (st, []) else return sharing (.most n) "--max-args/-n"
    | _ => return sharing (.most n) "--max-args/-n"
  | "L" => return sharing (.lines (← number "L" a 1)) "-L"
  | "l" =>
    let n ← if a.isEmpty then pure 1 else number "l" a 1
    return sharing (.lines n) "--max-lines/-l"
  | "I" => return sharing (.inPlace a) "--replace/-I/-i"
  | "i" =>
    return sharing (.inPlace (if a.isEmpty then "\x7b\x7d" else a)) "--replace/-I/-i"
  | "s" => return ({ st with limit := ← number "s" a 1 }, [])
  | "P" =>
    let _ ← number "P" a 0
    return (st, [])
  | "t" => return ({ st with traces := true }, [])
  | "r" => return ({ st with runsEmpty := false }, [])
  | "x" => return ({ st with exact := true }, [])
  | _ => return (st, [])

def Style.withAll (st : Style) : List Choice → Except Problem (Style × List String)
  | [] => .ok (st, [])
  | c :: rest => do
    let (st, said) ← st.withOption c
    let (st, more) ← st.withAll rest
    return (st, said ++ more)

end Arguments

def xargs (args : List String) : Work Nat :=
  Arguments.options.within "xargs" args (fun cs words => do
    let start : Arguments.Style := { command := if words.isEmpty then ["echo"] else words }
    match start.withAll cs with
    | .error e =>
      if e.explains then misuse "xargs" ("xargs: " ++ e.text) else refuse ("xargs: " ++ e.text)
    | .ok (style, warnings) =>
      forEach warnings fun w => complain ("xargs: " ++ w)
      let style := match style.share, style.division with
        | .inPlace _, .words => { style with division := .lines }
        | _, _ => style
      let run (next : Work (List UInt8)) : Work Nat := do
        let (code, _) ← (do
          Arguments.gather style next rounds {}
          Arguments.finish style : Arguments.Gathering Nat).run {}
        return code
      match lastOf? cs "a" with
      | none => run (readBlock 0)
      | some path =>
        match ← readSource path with
        | .error e =>
          refuse ("xargs: Cannot open input file " ++ (← marked path) ++ ": " ++ e.reason)
        | .ok data =>
          let whole : Arguments.Gathering Nat := do
            let (scan, items) := ({} : Arguments.Scan).block style.division data
            Arguments.takeAll style false items
            Arguments.takeAll style true scan.finish
            Arguments.finish style
          let (code, _) ← whole.run {}
          return code)
    1 false

end JobMatrix.Program
