import JobMatrix.Host.Program.Sed.Script
import JobMatrix.Host.Program.Source

/-! The editing of lines by a script: the space in which a line is edited, the one that holds text, and
what happens at the end of a cycle. -/

namespace JobMatrix.Program.Sed

structure Line where
  text : List Char := []
  ended : Bool := true
deriving Inhabited

inductive Range where
  | waiting
  /-- Open up to a line, or until its second address fits. -/
  | active (stop : Option Nat)
  | closed
deriving DecidableEq, Repr, Inhabited

inductive Addition where
  | text (cs : List Char)
  | file (path : String)
  | line (data : List UInt8)

/-- Where lines come from: the files that are left, the lines that have been read of the present one,
and the start of a line if more of the input may follow. -/
structure Feed where
  paths : List String
  name : String := "-"
  lines : List (List UInt8) := []
  carry : List UInt8 := []
  fromInput : Bool := false

structure Manner where
  silent : Bool := false
  separate : Bool := false
  /-- What is added to the names of files before they are edited in place. -/
  inPlace : Option String := none
  ending : UInt8 := 10
  width : Nat := 70
  wide : Bool := false

structure State where
  feed : Feed
  space : Line := {}
  hold : Line := {}
  number : Nat := 0
  replaced : Bool := false
  added : List Addition := []
  ranges : List (Nat × Range) := []
  lastPattern : Option Pattern := none
  /-- Files whose last line has no end yet. -/
  openLines : List String := []
  /-- What is left of the files that are read line by line. -/
  sources : List (String × List (List UInt8)) := []
  /-- The file that is edited in place, and what has been written of it. -/
  edited : Option String := none
  output : List (List UInt8) := []
  status : Nat := 0

inductive Step where
  | go (next : Nat)
  | cycle
  | discard
  | again
  | quit (code : Nat) (prints : Bool)
  | fail (text : String)

abbrev Editor := StateT State Work

def ask {α : Type} (w : Work α) : Editor α := fun s => do return (← w, s)

variable (m : Manner) (script : Array Command)

def emit (data : List UInt8) : Editor Unit := do
  let s ← get
  if s.edited.isSome then set { s with output := data :: s.output } else ask (say data)

def stdout : String := ""

def closeLine (path : String) : Editor (List UInt8) := do
  let s ← get
  if s.openLines.contains path then
    set { s with openLines := s.openLines.filter (· != path) }
    return [m.ending]
  else return []

def put (data : List UInt8) : Editor Unit := do
  if !data.isEmpty then emit ((← closeLine m stdout) ++ data)

def writeLine (path : String) (l : Line) : Editor Unit := do
  let path := if path == "/dev/stdout" && (← get).edited.isNone then stdout else path
  let data := (← closeLine m path) ++ Octets.ofChars l.text ++
    (if l.ended then [m.ending] else [])
  if !l.ended then modify fun s => { s with openLines := path :: s.openLines }
  if path == stdout then emit data
  else if path == "/dev/stdout" then ask (say data)
  else if path == "/dev/stderr" then
    let _ ← ask (writeTo 2 data)
  else
    let _ ← ask (writePath path data true)

def backupName (suffix path : String) : String :=
  let base := lastName path
  let folder := String.ofList (path.toList.take (path.length - base.length))
  if suffix.toList.contains '*' then
    let name := String.join ((suffix.toList.map fun c =>
      if c == '*' then base else String.singleton c))
    if name.toList.contains '/' then name else folder ++ name
  else path ++ suffix

def commit : Editor Unit := do
  let s ← get
  match s.edited with
  | none => return
  | some path =>
    set { s with edited := none, output := [], openLines := s.openLines.filter (· != stdout) }
    let v ← ask view
    match v.lookup path false, v.lookup path with
    | .ok (place, _), .ok (_, e) =>
      let suffix := m.inPlace.getD ""
      if !suffix.isEmpty then
        match v.locate (backupName suffix path) with
        | .ok backup => ask (setTree (v.tree.put backup e))
        | .error _ => pure ()
      let t := (← ask view).tree.put place { e with kind := .file [], time := v.now, shared := 0 }
      ask (setTree (t.refill place s.output.reverse.flatten v.now))
    | _, _ => return

/-- Goes on to the next file. If files are separate, numbers and ranges start anew. -/
def enter (path : String) (paths : List String) : Editor Unit := do
  if m.separate then
    commit m
    modify fun s => { s with number := 0, ranges := [], sources := [], hold := {} }
  let s ← get
  let f := s.feed
  let failed (text : String) (status : Nat) : Editor Unit := do
    ask (complain ("sed: " ++ text))
    modify fun s => { s with feed := { f with paths }, status := max s.status status }
  if path == "-" && m.inPlace.isNone then
    set { s with feed := { f with paths, name := "-", fromInput := true } }
  else
    let v ← ask view
    match ← ask (readPath path) with
    | .ok data =>
      let isFile := match v.lookup path with
        | .ok (_, e) => (match e.kind with | .file _ => true | _ => false)
        | .error _ => false
      if m.inPlace.isSome && !isFile then
        failed ("couldn't edit " ++ path ++ ": not a regular file") 4
      else
        set { s with
          feed := { f with paths, name := path, lines := linesOf data m.ending }
          edited := if m.inPlace.isSome then some path else none }
    | .error .isDirectory =>
      if m.inPlace.isSome then failed ("couldn't edit " ++ path ++ ": not a regular file") 4
      else
        failed ("read error on " ++ path ++ ": Is a directory") 4
        modify fun s => { s with feed := { s.feed with paths := [] } }
    | .error e => failed ("can't read " ++ path ++ ": " ++ e.reason) 2

/-- Gets more lines into the feed if it has none; false if there are no more. Whoever only looks ahead
does not leave a separate file, and passes over directories. -/
def fill (peeks : Bool) : Nat → Editor Bool
  | 0 => return false
  | fuel + 1 => do
    let s ← get
    let f := s.feed
    if !f.lines.isEmpty then return true
    else if f.fromInput then
      let data ← ask (readBlock 0)
      if data.isEmpty then
        let lines := if f.carry.isEmpty then [] else [f.carry]
        set { s with feed := { f with lines, carry := [], fromInput := false } }
      else
        let lines := linesOf (f.carry ++ data) m.ending
        let last := lines.getLast?.filter fun l => l.getLast? != some m.ending
        set { s with feed := { f with
          lines := if last.isSome then lines.dropLast else lines, carry := last.getD [] } }
      fill peeks fuel
    else if peeks && m.separate then return false
    else match f.paths with
      | [] => return false
      | path :: paths =>
        if peeks && (← ask view).isDirectory path then
          set { s with feed := { f with paths } }
        else enter m path paths
        fill peeks fuel

def isLast : Editor Bool := do return !(← fill m true rounds)

def flush : Editor Unit := do
  let added := (← get).added
  modify fun s => { s with added := [] }
  let _ ← added.mapM fun a => do
    match a with
    | .text cs => put m (Octets.ofChars cs)
    | .line data =>
      writeLine m stdout
        { text := Octets.units m.wide (bare data m.ending), ended := data.getLast? == some m.ending }
    | .file path =>
      let data ← if path == "/dev/stdin" then ask (readAll 0)
        else do
          match ← ask (readPath path) with
          | .ok data => pure data
          | .error _ => pure []
      put m data
  return ()

/-- Takes the next line; none if there are no more. -/
def take : Editor (Option Line) := do
  flush m
  modify fun s => { s with replaced := false }
  if !(← fill m false rounds) then return none
  let s ← get
  match s.feed.lines with
  | [] => return none
  | data :: lines =>
    set { s with feed := { s.feed with lines }, number := s.number + 1 }
    return some { text := Octets.units m.wide (bare data m.ending)
                  ended := data.getLast? == some m.ending }

def meant (p : Pattern) : Editor (Option Pattern) := do
  let s ← get
  match p.regex with
  | some _ =>
    set { s with lastPattern := some p }
    return some p
  | none => return s.lastPattern

def subject (p : Pattern) (text : List Char) : Regex.Subject :=
  { chars := text.toArray, ignoresCase := p.ignoresCase, inLines := p.inLines && m.ending == 10 }

/-- Whether one address fits the present line; none without a pattern that is meant. -/
def fits (a : Address) : Editor (Option Bool) := do
  let s ← get
  match a with
  | .line n => return some (s.number == n)
  | .step first step => return some (first ≤ s.number && (s.number - first) % step == 0)
  | .last => return some (← isLast m)
  | .plus _ => return some false
  | .multiple _ => return some false
  | .pattern p =>
    match ← meant p with
    | none => return none
    | some p => return some ((p.regex.map fun r => r.isIn (subject m p s.space.text)).getD false)

def selects (index : Nat) (c : Command) : Editor (Option Bool) := do
  let setRange (r : Range) : Editor Unit :=
    modify fun s => { s with ranges := (index, r) :: s.ranges.filter (·.1 != index) }
  let n := (← get).number
  match c.first, c.second with
  | none, _ => return some true
  | some a, none => fits m a
  | some a, some b =>
    let start : Range := match a with
      | .line 0 => .active none
      | _ => .waiting
    match ((← get).ranges.lookup index).getD start with
    | .active (some stop) =>
      if stop ≤ n then setRange .closed
      return some (n ≤ stop)
    | .active none =>
      match ← fits m b with
      | none => return none
      | some true =>
        setRange .closed
        return some true
      | some false => return some true
    | r =>
      let begins ← match a with
        | .line k => pure (some (k ≤ n && (r == .waiting || k == n)))
        | a => fits m a
      match begins with
      | none => return none
      | some false => return some false
      | some true =>
        let upTo (stop : Nat) : Editor (Option Bool) := do
          if stop ≤ n then
            setRange .closed
            return some true
          else
            setRange (.active (some stop))
            return some true
        match a, b with
        | .line k, .line stop =>
          if stop ≤ n then
            setRange .closed
            return some (n == k)
          else upTo stop
        | _, .line stop => upTo stop
        | _, .plus k => upTo (n + k)
        | _, .multiple k => upTo (if k == 0 then n else (n + k - 1) / k * k)
        | _, _ =>
          setRange (.active none)
          return some true

def cased (lasting once : Casing) : List Char → List Char × Casing
  | [] => ([], once)
  | c :: rest =>
    let change (k : Casing) (c : Char) : Char :=
      match k with
      | .upper => c.toUpper
      | .upperOnce => c.toUpper
      | .lower => c.toLower
      | .lowerOnce => c.toLower
      | .asIs => c
    let first := change (if once == .asIs then lasting else once) c
    (first :: rest.map (change lasting), .asIs)

def replacement (text : List Char) (f : Regex.Match) : Casing → Casing → List Piece → List Char
  | _, _, [] => []
  | lasting, once, p :: rest =>
    let part (cs : List Char) : List Char :=
      let (cs, once) := cased lasting once cs
      cs ++ replacement text f lasting once rest
    match p with
    | .text cs => part cs
    | .group n =>
      let span := if n == 0 then some (f.start, f.stop) else f.groups.get? n
      part ((span.map fun s => (text.take s.2).drop s.1).getD [])
    | .casing .upperOnce => replacement text f lasting .upperOnce rest
    | .casing .lowerOnce => replacement text f lasting .lowerOnce rest
    | .casing k => replacement text f k once rest

/-- Replaces matches from a position on, none of which may be empty right after the last: what comes
out, and whether anything was replaced. -/
def replaceFrom (s : Substitution) (r : Regex) (t : Regex.Subject) (text : List Char) :
    Nat → Nat → Nat → Option Nat → List Char × Bool
  | 0, start, _, _ => (text.drop start, false)
  | fuel + 1, start, count, last =>
    match if t.size < start then none else r.find? t start with
    | none => (text.drop start, false)
    | some f =>
      let lead := (text.take f.start).drop start
      let isEmpty := f.stop == f.start
      let one := (text.drop f.stop).take 1
      if isEmpty && last == some f.start then
        let (rest, done) := replaceFrom s r t text fuel (f.stop + 1) count none
        (lead ++ one ++ rest, done)
      else
        let count := count + 1
        let chosen := s.number ≤ count
        let new := if chosen then replacement text f .asIs .asIs s.pieces
          else (text.take f.stop).drop f.start
        let next := if isEmpty then f.stop + 1 else f.stop
        let after := if isEmpty then one else []
        if chosen && !s.global then (lead ++ new ++ text.drop f.stop, true)
        else
          let (rest, done) := replaceFrom s r t text fuel next count (some f.stop)
          (lead ++ new ++ after ++ rest, chosen || done)

def shellOutput (command : List Char) : Work (List UInt8) := do
  let order : Order :=
    { words := ["/bin/sh", "-c", String.ofList command], env := (← view).env, captured := true }
  match ← Work.start order .done with
  | .error _ => return []
  | .ok child =>
    match ← Work.wait child none .done with
    | some (_, data) => return data
    | none => return []

def spelled (width : Nat) (ending : UInt8) : Nat → List UInt8 → List UInt8
  | _, [] => [36, 10]
  | column, b :: rest =>
    let c := Char.ofNat b.toNat
    let piece : List UInt8 :=
      if c == '\\' then [92, 92]
      else match c with
        | '\x07' => [92, 97]
        | '\x08' => [92, 98]
        | '\x0c' => [92, 102]
        | '\n' => [92, 110]
        | '\r' => [92, 114]
        | '\t' => [92, 116]
        | '\x0b' => [92, 118]
        | _ =>
          if 32 ≤ b && b < 127 then [b]
          else 92 :: Text.bytes (padLeft 3 (String.ofList (Nat.toDigits 8 b.toNat)) '0')
    if width != 0 && width - 1 < column + piece.length then
      [92, 10] ++ piece ++ spelled width ending piece.length rest
    else piece ++ spelled width ending (column + piece.length) rest

def perform (index : Nat) (c : Command) : Editor Step := do
  let s ← get
  let next := Step.go (index + 1)
  let setSpace (text : List Char) : Editor Unit :=
    modify fun s => { s with space := { s.space with text } }
  let setHold (text : List Char) : Editor Unit :=
    modify fun s => { s with hold := { s.hold with text } }
  let print (l : Line) : Editor Unit := writeLine m stdout l
  let firstLine : List Char := s.space.text.takeWhile (· != '\n')
  match c.action with
  | .block _ => return next
  | .nothing => return next
  | .jump .always _ target => return .go target
  | .jump .replaced _ target =>
    if s.replaced then
      set { s with replaced := false }
      return .go target
    else return next
  | .jump .notReplaced _ target =>
    if s.replaced then
      set { s with replaced := false }
      return next
    else return .go target
  | .append text =>
    set { s with added := s.added ++ [Addition.text text] }
    return next
  | .insert text =>
    put m (Octets.ofChars text)
    return next
  | .change text =>
    let open? := match s.ranges.lookup index with
      | some (.active _) => c.second.isSome && !c.negated
      | _ => false
    if !open? then put m (Octets.ofChars text)
    return .discard
  | .delete => return .discard
  | .deleteFirst =>
    if s.space.text.contains '\n' then
      setSpace (s.space.text.drop (firstLine.length + 1))
      return .again
    else return .discard
  | .run command =>
    if command.isEmpty then
      let data ← ask (shellOutput s.space.text)
      setSpace (Octets.units m.wide (bare data))
    else put m (← ask (shellOutput command))
    return next
  | .name =>
    put m (Octets.ofText (s.feed.name ++ "\n"))
    return next
  | .get =>
    setSpace s.hold.text
    return next
  | .getAppended =>
    setSpace (s.space.text ++ '\n' :: s.hold.text)
    return next
  | .hold =>
    setHold s.space.text
    return next
  | .holdAppended =>
    setHold (s.hold.text ++ '\n' :: s.space.text)
    return next
  | .exchange =>
    set { s with space := s.hold, hold := s.space }
    return next
  | .empty =>
    setSpace []
    return next
  | .list width =>
    let width := (width.map fun n => if n == 0 then 0 else n).getD m.width
    put m (spelled width m.ending 0 (Octets.ofChars s.space.text))
    return next
  | .next =>
    if ← isLast m then return .cycle
    if !m.silent then print s.space
    match ← take m with
    | none => return .discard
    | some l =>
      modify fun s => { s with space := l }
      return next
  | .nextAppended =>
    if ← isLast m then return .cycle
    match ← take m with
    | none => return .cycle
    | some l =>
      modify fun s =>
        { s with space := { text := s.space.text ++ '\n' :: l.text, ended := l.ended } }
      return next
  | .print =>
    print s.space
    return next
  | .printFirst =>
    print { text := firstLine, ended := s.space.text.contains '\n' || s.space.ended }
    return next
  | .number =>
    put m (Octets.ofText s!"{s.number}\n")
    return next
  | .quit code silent => return .quit code !silent
  | .read path =>
    set { s with added := s.added ++ [Addition.file path] }
    return next
  | .readLine path =>
    let lines ← match s.sources.lookup path with
      | some lines => pure lines
      | none =>
        match ← ask (readPath path) with
        | .ok data => pure (linesOf data m.ending)
        | .error _ => pure []
    let added := (lines.head?.map fun l => Addition.line (ended l m.ending)).toList
    modify fun s => { s with
      added := s.added ++ added
      sources := (path, lines.drop 1) :: s.sources.filter (·.1 != path) }
    return next
  | .write path =>
    writeLine m path s.space
    return next
  | .writeFirst path =>
    writeLine m path { text := firstLine, ended := true }
    return next
  | .translate table =>
    setSpace (s.space.text.map fun c => (table.lookup c).getD c)
    return next
  | .substitute sub =>
    match ← meant sub.pattern with
    | none => return .fail "no previous regular expression"
    | some p =>
      let t := subject m p s.space.text
      let regex := p.regex.getD .empty
      if !regex.isIn t then return next
      let (text, done) := replaceFrom sub regex t s.space.text (t.size + 2) 0 0 none
      if !done then return next
      setSpace text
      modify fun s => { s with replaced := true }
      if sub.runs then
        let data ← ask (shellOutput text)
        setSpace (Octets.units m.wide (bare data))
      let l := (← get).space
      if sub.prints then print l
      match sub.target with
      | some path => writeLine m path l
      | none => pure ()
      return next

def execute : Nat → Nat → Editor Step
  | 0, _ => return .cycle
  | fuel + 1, index => do
    match script[index]? with
    | none => return .cycle
    | some c =>
      match ← selects m index c with
      | none => return .fail "no previous regular expression"
      | some chosen =>
        if chosen != c.negated then
          match ← perform m index c with
          | .go next => execute fuel next
          | step => return step
        else match c.action with
          | .block stop => execute fuel stop
          | _ => execute fuel (index + 1)

/-- Edits lines one after another; `fresh` says whether the next has to be taken. The code, or what is
wrong. -/
def cycles : Nat → Bool → Editor (Except String Nat)
  | 0, _ => return .ok 0
  | fuel + 1, fresh => do
    let taken ← if fresh then take m else pure (some (← get).space)
    match taken with
    | none =>
      commit m
      return .ok (← get).status
    | some l =>
      modify fun s => { s with space := l }
      let finish (prints : Bool) : Editor Unit := do
        if prints && !m.silent then writeLine m stdout (← get).space
        flush m
      match ← execute m script rounds 0 with
      | .fail text => return .error text
      | .quit code prints =>
        if prints then finish true
        commit m
        let s ← get
        return .ok (if code == 0 then s.status else code)
      | .again =>
        finish false
        cycles fuel false
      | .discard =>
        finish false
        cycles fuel true
      | _ =>
        finish true
        cycles fuel true

end JobMatrix.Program.Sed
