import JobMatrix.Host.Program.Files
import JobMatrix.Host.Program.Source
import JobMatrix.Host.Regex.Read
import JobMatrix.Text.Wildcard

/-! The search for lines that match patterns, and what is shown of them. -/

namespace JobMatrix.Program

namespace Grep

inductive Spelling where
  | basic
  | extended
  | fixed
deriving DecidableEq, Repr, Inhabited

/-- What is shown: lines, their matches, the number of lines, or the names of files. -/
inductive Shown where
  | lines
  | matches
  | count
  | names
  | namesWithout
  | nothing
deriving DecidableEq, Repr, Inhabited

structure Style where
  spelling : Spelling := .basic
  ignoresCase : Bool := false
  inverted : Bool := false
  words : Bool := false
  whole : Bool := false
  shown : Shown := .lines
  most : Option Nat := none
  before : Nat := 0
  after : Nat := 0
  separator : Option String := some "--"
  names : Bool := false
  numbers : Bool := false
  offsets : Bool := false
  tabbed : Bool := false
  /-- The width of numbers before a tab. -/
  digits : Nat := 1
  nullAfterName : Bool := false
  label : String := "(standard input)"
  silent : Bool := false
  asText : Bool := false
  skipsBinary : Bool := false
  ending : UInt8 := 10
  colored : Bool := false
  wide : Bool := false
deriving Inhabited

def literal : List Char → Regex
  | [] => .empty
  | [c] => .char c
  | c :: rest => .seq (.char c) (literal rest)

def anyOf : List Regex → Option Regex
  | [] => none
  | [r] => some r
  | r :: rest => (anyOf rest).map (.alt r)

/-- Reads patterns: the expression, none if there is no pattern, and the operators that were
skipped. -/
def Style.read (s : Style) (patterns : List (List Char)) :
    Except Regex.Problem (Option Regex × List String) := do
  let read (p : List Char) : Except Regex.Problem (Regex × List String) := do
    if s.spelling == .fixed then return (literal p, [])
    let (r, _, skipped) ← Regex.read { extended := s.spelling == .extended } p
    return (r, skipped)
  let all ← patterns.mapM read
  return (anyOf (all.map (·.1)), all.flatMap (·.2))

def wordAt? (r : Regex) (t : Regex.Subject) (start : Nat) : Option Regex.Match :=
  if start != 0 && t.isWordAt (start - 1) then none
  else
    let stops := if r.hasBack then (r.ways t start []).map (·.1) else r.ends t [start]
    let good := stops.filter fun stop => !t.isWordAt stop
    (good.foldl (fun m n => some (m.elim n (max n))) none).map fun stop => { start, stop }

def Style.find? (s : Style) (r : Regex) (t : Regex.Subject) (start : Nat) : Option Regex.Match :=
  if s.whole then
    if start != 0 then none
    else
      let stops := if r.hasBack then (r.ways t 0 []).map (·.1) else r.ends t [0]
      if stops.contains t.size then some { start := 0, stop := t.size } else none
  else if s.words then
    if r.isIn t start then (Regex.positions start t.size).findSome? (wordAt? r t) else none
  else r.find? t start

def Style.hits (s : Style) (r : Option Regex) (t : Regex.Subject) : Bool :=
  match r with
  | none => false
  | some r => if s.whole || s.words then (s.find? r t 0).isSome else r.isIn t

def Style.all (s : Style) (r : Regex) (t : Regex.Subject) : Nat → Nat → List Regex.Match
  | 0, _ => []
  | fuel + 1, start =>
    match s.find? r t start with
    | none => []
    | some m =>
      if m.stop == m.start then
        if m.start < t.size then Style.all s r t fuel (m.start + 1) else []
      else m :: Style.all s r t fuel m.stop

structure Progress where
  number : Nat := 0
  offset : Nat := 0
  count : Nat := 0
  /-- Lines before the present one that may be shown with it, the latest first. -/
  held : List (Nat × Nat × List UInt8) := []
  /-- How many lines after the last match are still to be shown. -/
  trailing : Nat := 0
  /-- The number of the last line that was shown. -/
  lastShown : Option Nat := none
  /-- Whether nothing more is looked for. -/
  full : Bool := false
  isBinary : Bool := false

def Style.paint (s : Style) (color text : String) : String :=
  if s.colored then "\x1b[" ++ color ++ "m\x1b[K" ++ text ++ "\x1b[m\x1b[K" else text

def Style.lead (s : Style) (label : String) (mark : Char) (number offset : Nat) : String :=
  let sign := s.paint "36" (String.singleton mark)
  let wide (n : Nat) : String := if s.tabbed then padLeft s.digits (toString n) else toString n
  let name := if s.names then
      s.paint "35" label ++ (if s.nullAfterName then "\x00" else sign) else ""
  let numbered := if s.numbers then s.paint "32" (wide number) ++ sign else ""
  let placed := if s.offsets then s.paint "32" (wide offset) ++ sign else ""
  let lead := name ++ numbered ++ placed
  if s.tabbed && !lead.isEmpty then lead ++ "\t" else lead

def Style.painted (s : Style) (r : Option Regex) (t : Regex.Subject) : List UInt8 :=
  match r with
  | none => Octets.ofChars t.chars.toList
  | some r =>
    let rec go (i : Nat) : List Regex.Match → List UInt8
      | [] => Octets.ofChars (t.chars.toList.drop i)
      | m :: rest =>
        let part (a b : Nat) : List Char := (t.chars.toList.take b).drop a
        Octets.ofChars (part i m.start) ++
          Octets.ofText (s.paint "01;31" (String.ofList (part m.start m.stop))) ++ go m.stop rest
    go 0 (s.all r t (t.size + 1) 0)

def Style.line (s : Style) (r : Option Regex) (label : String) (mark : Char) (number offset : Nat)
    (line : List UInt8) : List UInt8 :=
  let body := if s.colored && ((mark == ':') != s.inverted) then
      s.painted r { chars := (Octets.units s.wide line).toArray, ignoresCase := s.ignoresCase }
    else line
  Octets.ofText (s.lead label mark number offset) ++ body ++ [s.ending]

def Style.parts (s : Style) (r : Regex) (label : String) (number offset : Nat) (t : Regex.Subject) :
    List UInt8 :=
  (s.all r t (t.size + 1) 0).flatMap fun m =>
    let before := (Octets.ofChars (t.chars.toList.take m.start)).length
    let text := String.ofList ((t.chars.toList.take m.stop).drop m.start)
    Octets.ofText (s.lead label ':' number (offset + before)) ++
      Octets.ofText (s.paint "01;31" text) ++ [s.ending]

def Style.gap (s : Style) (p : Progress) (first : Nat) : List UInt8 :=
  if s.before == 0 && s.after == 0 then []
  else match p.lastShown, s.separator with
    | some n, some text =>
      if n + 1 < first then Octets.ofText (s.paint "36" text) ++ [10] else []
    | _, _ => []

def Style.isBinary (s : Style) (data : List UInt8) : Bool :=
  !s.asText && s.ending == 10 && data.contains 0

def Style.isBroken (s : Style) (t : Regex.Subject) : Bool :=
  s.wide && !s.asText && t.chars.any Octets.isStray

def Style.step (s : Style) (r : Option Regex) (label : String) (p : Progress) (raw : List UInt8) :
    Progress × List UInt8 :=
  let line := bare raw s.ending
  let number := p.number + 1
  let offset := p.offset
  let next := { p with number, offset := offset + raw.length }
  let t : Regex.Subject :=
    { chars := (Octets.units s.wide line).toArray, ignoresCase := s.ignoresCase }
  let silent := s.shown != .lines && s.shown != .matches || p.isBinary
  let selected := !p.full && s.hits r t != s.inverted
  if selected then
    let count := p.count + 1
    let full := s.most.elim false (· ≤ count)
    let next := { next with count, full, trailing := s.after, held := [] }
    let broken := !silent && s.isBroken t
    let next := if broken then { next with isBinary := true } else next
    let silent := silent || broken
    if silent then (next, [])
    else if s.shown == .matches then
      let out := if s.inverted then [] else (r.map (s.parts · label number offset t)).getD []
      (next, out)
    else
      let first := (p.held.getLast?.map (·.1)).getD number
      let held := p.held.reverse.flatMap fun h => s.line r label '-' h.1 h.2.1 h.2.2
      ({ next with lastShown := some number },
        s.gap p first ++ held ++ s.line r label ':' number offset line)
  else if silent || s.shown == .matches then ({ next with trailing := next.trailing - 1 }, [])
  else if 0 < p.trailing then
    ({ next with trailing := p.trailing - 1, lastShown := some number },
      s.line r label '-' number offset line)
  else ({ next with held := ((number, offset, line) :: p.held).take s.before }, [])

def Style.isOver (s : Style) (p : Progress) : Bool :=
  (p.full && p.trailing == 0) ||
    (0 < p.count && (s.shown == .names || s.shown == .namesWithout || s.shown == .nothing ||
      p.isBinary && s.shown == .lines))

def Style.finish (s : Style) (label : String) (p : Progress) : Work Unit := do
  let name := s.paint "35" label
  let ending := if s.nullAfterName then "\x00" else "\n"
  match s.shown with
  | .count =>
    let lead := if s.names then
        name ++ (if s.nullAfterName then "\x00" else s.paint "36" ":") else ""
    sayText (lead ++ toString p.count ++ "\n")
  | .names => if 0 < p.count then sayText (name ++ ending)
  | .namesWithout => if p.count == 0 then sayText (name ++ ending)
  | .nothing => return ()
  | _ => if p.isBinary && 0 < p.count then complain ("grep: " ++ label ++ ": binary file matches")

/-- What came of a search: whether a line was selected, and whether something went wrong. -/
structure Outcome where
  found : Bool := false
  failed : Bool := false

def Outcome.and (a b : Outcome) : Outcome := ⟨a.found || b.found, a.failed || b.failed⟩

def Style.search (s : Style) (r : Option Regex) (path : String) : Work Outcome := do
  let label := if path == "-" then s.label else path
  let size := match (← view).lookup path with
    | .ok (_, e) => e.size
    | .error _ => 0
  let s := { s with digits := (toString size).length }
  let f (p : Progress) (line : List UInt8) : Work (Progress × Bool) := do
    let p := if s.isBinary line then { p with isBinary := true } else p
    if p.isBinary && s.skipsBinary then return ({ p with count := 0, full := true }, false)
    let (p, out) := s.step r label p line
    say out
    return (p, !s.isOver p)
  let start : Progress := { full := s.most == some 0 }
  if s.most == some 0 then
    if s.shown != .lines && s.shown != .matches then s.finish label start
    return {}
  else match ← searched f start with
    | .ok p =>
      s.finish label p
      return { found := 0 < p.count }
    | .error e =>
      if !s.silent then complain ("grep: " ++ path ++ ": " ++ e.reason)
      return { failed := true }
where
  searched (f : Progress → List UInt8 → Work (Progress × Bool)) (start : Progress) :
      Work (Except SystemError Progress) := do
    if path == "-" then sourceLines path s.ending f start
    else match ← readPath path with
      | .error e => return .error e
      | .ok data =>
        let (p, _) ← handLines f { start with isBinary := s.isBinary data } (linesOf data s.ending)
        return .ok p

structure Choice where
  included : List String := []
  excluded : List String := []
  excludedDirectories : List String := []
  follows : Bool := false

def Choice.takes (c : Choice) (name : String) : Bool :=
  (c.included.isEmpty || c.included.any (Wildcard.fits · name)) &&
    !c.excluded.any (Wildcard.fits · name)

def Style.searchBelow (s : Style) (r : Option Regex) (c : Choice) : Nat → String → Work Outcome
  | 0, _ => return {}
  | fuel + 1, path => do
    let v ← view
    match v.lookup path with
    | .error e =>
      if !s.silent then complain ("grep: " ++ path ++ ": " ++ e.reason)
      return { failed := true }
    | .ok (place, e) =>
      if !e.isDirectory then s.search r path
      else inner fuel path place (v.tree.list place)
termination_by fuel => (fuel, 0)
where
  inner (fuel : Nat) (path : String) (place : Path.Place) : List String → Work Outcome
    | [] => return {}
    | name :: rest => do
      let v ← view
      let there := if path.isEmpty then name else under path name
      let here ← match v.tree.entry? (place ++ [name]) with
        | none => pure {}
        | some e =>
          if e.isLink && !c.follows then pure {}
          else if e.isDirectory || (e.isLink && v.isDirectory there) then
            if c.excludedDirectories.any (Wildcard.fits · name) then pure {}
            else searchBelow s r c fuel there
          else if e.isDevice || !c.takes name then pure {}
          else s.search r there
      return here.and (← inner fuel path place rest)
  termination_by names => (fuel, names.length)

def options : Options :=
  { letters := "0123456789A:B:C:EFGHILPTUVZabcd:D:e:f:hilm:noqrRsuvwxyz"
    long := [("after-context", "A"), ("basic-regexp", "G"), ("before-context", "B"),
      ("binary-files", "binary-files:"), ("byte-offset", "b"), ("context", "C"), ("color", "color::"),
      ("colour", "color::"), ("count", "c"), ("devices", "D"), ("directories", "d"),
      ("exclude", "exclude:"), ("exclude-from", "exclude-from:"), ("exclude-dir", "exclude-dir:"),
      ("extended-regexp", "E"), ("file", "f"), ("files-with-matches", "l"),
      ("files-without-match", "L"), ("fixed-regexp", "F"), ("fixed-strings", "F"),
      ("group-separator", "group-separator:"), ("help", "help"), ("include", "include:"),
      ("ignore-case", "i"), ("no-ignore-case", "no-ignore-case"), ("initial-tab", "T"),
      ("label", "label:"), ("line-buffered", "line-buffered"), ("line-number", "n"),
      ("line-regexp", "x"), ("max-count", "m"), ("no-filename", "h"),
      ("no-group-separator", "no-group-separator"), ("no-messages", "s"), ("null", "Z"),
      ("null-data", "z"), ("only-matching", "o"), ("quiet", "q"), ("recursive", "r"),
      ("dereference-recursive", "R"), ("regexp", "e"), ("invert-match", "v"), ("silent", "q"),
      ("text", "a"), ("binary", "U"), ("unix-byte-offsets", "u"), ("version", "V"),
      ("with-filename", "H"), ("word-regexp", "w")] }

def usage : Work Nat := do
  complain "Usage: grep [OPTION]... PATTERNS [FILE]..."
  refuse (hint "grep") 2

def Style.withOption (s : Style) (key argument : String) : Style :=
  match key with
  | "E" => { s with spelling := .extended }
  | "F" => { s with spelling := .fixed }
  | "G" => { s with spelling := .basic }
  | "P" => { s with spelling := .extended }
  | "i" => { s with ignoresCase := true }
  | "y" => { s with ignoresCase := true }
  | "no-ignore-case" => { s with ignoresCase := false }
  | "v" => { s with inverted := true }
  | "w" => { s with words := true }
  | "x" => { s with whole := true }
  | "n" => { s with numbers := true }
  | "b" => { s with offsets := true }
  | "T" => { s with tabbed := true }
  | "Z" => { s with nullAfterName := true }
  | "s" => { s with silent := true }
  | "a" => { s with asText := true }
  | "I" => { s with skipsBinary := true }
  | "binary-files" =>
    match argument with
    | "text" => { s with asText := true }
    | "without-match" => { s with skipsBinary := true }
    | _ => s
  | "z" => { s with ending := 0 }
  | "label" => { s with label := argument }
  | "color" => { s with colored := argument == "always" || argument == "yes" || argument == "force" }
  | "group-separator" => { s with separator := some argument }
  | "no-group-separator" => { s with separator := none }
  | _ => s

def shownOf (cs : List Program.Choice) : Shown :=
  if Program.has cs "q" then .nothing
  else match lastAmong? cs ["l", "L"] with
    | some "l" => .names
    | some _ => .namesWithout
    | none =>
      if Program.has cs "c" then .count else if Program.has cs "o" then .matches else .lines

/-- A number of lines from an option; one without a number is wrong. -/
def number? (cs : List Program.Choice) (key : String) : Except String (Option Nat) :=
  match lastOf? cs key with
  | none => .ok none
  | some a =>
    match plainNumber? a with
    | some n => .ok (some n)
    | none => .error a

def Style.counted (s : Style) (cs : List Program.Choice) : Except String Style := do
  let digits := (cs.filter fun c => c.key.toList.all Char.isDigit).map (·.key)
  let around := if digits.isEmpty then none else plainNumber? (String.join digits)
  let wrong := "invalid context length argument"
  let get (key : String) : Except String (Option Nat) :=
    (number? cs key).mapError fun a => a ++ ": " ++ wrong
  let around := (← get "C").or around
  let before := ((← get "B").or around).getD 0
  let after := ((← get "A").or around).getD 0
  let most ← match lastOf? cs "m" with
    | none => pure none
    | some a =>
      match a.toInt? with
      | some n => pure (if n < 0 then none else some n.toNat)
      | none => throw "invalid max count"
  return { s with before, after, most }

def patternsOf (wide : Bool) : List Program.Choice → Work (Except (String × SystemError) (List (List Char)))
  | [] => return .ok []
  | c :: rest => do
    let lines (data : List UInt8) : List (List Char) :=
      (bareLines data).map (Octets.units wide)
    let here : Except (String × SystemError) (List (List Char)) ← match c.key, c.argument with
      | "e", some a => pure (.ok (lines (Octets.ofText a ++ [10])))
      | "f", some path => do
        match ← readSource path with
        | .ok data => pure (.ok (lines data))
        | .error e => pure (.error (path, e))
      | _, _ => pure (.ok [])
    match here, ← patternsOf wide rest with
    | .ok ps, .ok others => return .ok (ps ++ others)
    | .error e, _ => return .error e
    | _, .error e => return .error e

/-- Searches files one after another, until one line has been found if that is enough. -/
def searchAll (search : String → Work Outcome) (stops : Bool) : List String → Work Outcome
  | [] => return {}
  | path :: rest => do
    let o ← search path
    if stops && o.found then return o
    return o.and (← searchAll search stops rest)

def go (start : Style) (cs : List Program.Choice) (words : List String) : Work Nat := do
  let wide := (← view).isUtf8
  let style := cs.foldl (fun s c => s.withOption c.key (c.argument.getD "")) { start with wide }
  let given := Program.has cs "e" || Program.has cs "f"
  match style.counted cs, given, words with
  | .error e, _, _ => refuse ("grep: " ++ e) 2
  | _, false, [] => usage
  | .ok style, given, words =>
    let paths := if given then words else words.drop 1
    let asked := if given then cs else ({ key := "e", argument := words.head? } : Program.Choice) :: cs
    match ← patternsOf wide asked with
    | .error (path, e) => refuse ("grep: " ++ path ++ ": " ++ e.reason) 2
    | .ok patterns =>
      match style.read patterns with
      | .error e => refuse ("grep: " ++ e.text) 2
      | .ok (r, skipped) =>
        forEach skipped fun op => complain ("grep: warning: " ++ op ++ " at start of expression")
        let recursive := ["r", "R"].any (Program.has cs) || lastOf? cs "d" == some "recurse"
        let v ← view
        let named := match lastAmong? cs ["H", "h"] with
          | some "H" => true
          | some _ => false
          | none => 1 < paths.length || (recursive && paths.all v.isDirectory)
        let style := { style with shown := shownOf cs, names := named }
        let below : Choice :=
          { included := allOfKey cs "include", excluded := allOfKey cs "exclude"
            excludedDirectories := allOfKey cs "exclude-dir", follows := Program.has cs "R" }
        let one (path : String) : Work Outcome := do
          if path != "-" && v.isDirectory path then
            if recursive then style.searchBelow r below 1000 path
            else if lastOf? cs "d" == some "skip" then return {}
            else
              if !style.silent then complain ("grep: " ++ path ++ ": Is a directory")
              style.finish path {}
              return { failed := true }
          else if path != "-" && !below.takes (lastName path) && (v.lookup path).toBool then return {}
          else style.search r path
        let stops := style.shown == .nothing
        let o ← if paths.isEmpty && recursive then
            Style.searchBelow.inner style r below 1000 "" v.cwd (v.tree.list v.cwd)
          else searchAll one stops (if paths.isEmpty then ["-"] else paths)
        return if o.failed && !(stops && o.found) then 2 else codeOf o.found

end Grep

/-- Searches for lines that match patterns, which are spelled as `start` says. -/
def search (start : Grep.Style) (args : List String) : Work Nat :=
  match Grep.options.read true (args.length + 1) args with
  | .ok (cs, words) => Grep.go start cs words
  | .error e => do
    complain ("grep: " ++ e.text)
    Grep.usage

def grep (args : List String) : Work Nat := search {} args

def egrep (args : List String) : Work Nat := search { spelling := .extended } args

def fgrep (args : List String) : Work Nat := search { spelling := .fixed } args

end JobMatrix.Program
