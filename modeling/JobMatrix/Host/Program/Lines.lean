import JobMatrix.Host.Program.Amount
import JobMatrix.Host.Program.Options

/-! Programs that pass lines on: all of them, the first, the last, in reverse, or to several files. -/

namespace JobMatrix.Program

def eachBlock {σ : Type} (descriptor : Nat) (f : σ → List UInt8 → Work σ) : Nat → σ → Work σ
  | 0, s => .done s
  | fuel + 1, s => do
    let data ← readBlock descriptor
    if data.isEmpty then return s
    let s ← f s data
    eachBlock descriptor f fuel s

namespace Cat

structure Style where
  numbers : Bool := false
  numbersFilled : Bool := false
  squeezes : Bool := false
  ends : Bool := false
  tabs : Bool := false
  controls : Bool := false

/-- The number of the last line, whether a line starts, how many empty ones came before, and a carriage
return that may belong to the end of a line. -/
structure State where
  number : Nat := 0
  starts : Bool := true
  blanks : Nat := 0
  held : Bool := false

def caret (b : UInt8) : List UInt8 :=
  if b < 32 then [94, b + 64] else if b == 127 then [94, 63] else [b]

def shown (s : Style) (b : UInt8) : List UInt8 :=
  if b == 9 then (if s.tabs then [94, 73] else [9])
  else if !s.controls then [b]
  else if b < 128 then caret b
  else [77, 45] ++ caret (b - 128)

def numberText (n : Nat) : List UInt8 := Text.bytes (padLeft 6 (toString n) ++ "\t")

def step (s : Style) (st : State) (b : UInt8) : State × List UInt8 :=
  let before : List UInt8 := if st.held then (if b == 10 then [94, 77] else [13]) else []
  let st := { st with held := false }
  if b == 10 then
    let blanks := if st.starts then st.blanks + 1 else 0
    let st' : State := { st with starts := true, blanks }
    if st.starts && s.squeezes && 2 ≤ blanks then (st', [])
    else
      let numbered := st.starts && s.numbers && !s.numbersFilled
      let number := if numbered then st.number + 1 else st.number
      ({ st' with number },
        before ++ (if numbered then numberText number else []) ++ (if s.ends then [36] else []) ++
          [10])
  else
    let numbered := st.starts && s.numbers
    let number := if numbered then st.number + 1 else st.number
    let lead := if numbered then numberText number else []
    let st' : State := { st with starts := false, blanks := 0, number }
    if b == 13 && s.ends && !s.controls then ({ st' with held := true }, before ++ lead)
    else (st', before ++ lead ++ shown s b)

def transform (s : Style) (st : State) (data : List UInt8) : State × List UInt8 :=
  let (st, out) := data.foldl (fun (acc : State × List (List UInt8)) b =>
    let (st, bs) := step s acc.1 b
    (st, bs :: acc.2)) (st, [])
  (st, out.reverse.flatten)

def options : Options :=
  { letters := "benstuvAET"
    long := [("number-nonblank", "b"), ("number", "n"), ("squeeze-blank", "s"),
      ("show-nonprinting", "v"), ("show-ends", "E"), ("show-tabs", "T"), ("show-all", "A"),
      ("help", "help"), ("version", "version")] }

def styleOf (cs : List Choice) : Style :=
  let any (keys : List String) : Bool := keys.any (has cs)
  { numbers := any ["n", "b"], numbersFilled := has cs "b", squeezes := has cs "s"
    ends := any ["A", "e", "E"], tabs := any ["A", "t", "T"], controls := any ["A", "e", "t", "v"] }

def one (s : Style) (plain : Bool) (st : State) (path : String) : Work (State × Bool) := do
  let pass (st : State) (data : List UInt8) : Work State := do
    if plain then
      let _ ← writeTo 1 data
      return st
    else
      let (st, out) := transform s st data
      let _ ← writeTo 1 out
      return st
  if path == "-" then return (← eachBlock 0 pass rounds st, true)
  let v ← view
  match v.lookup path with
  | .ok (place, e) =>
    match e.kind with
    | .device (.descriptor n) => return (← eachBlock n pass rounds st, true)
    | .device .zero => return (← forever pass rounds st, true)
    | .device .full => return (← forever pass rounds st, true)
    | _ =>
      if v.fileAt 1 == some place && e.size != 0 && e.isRegular then
        complain ("cat: " ++ (← named path) ++ ": input file is output file")
        return (st, false)
      match e.content with
      | .ok data => return (← pass st data, true)
      | .error e => failed e
  | .error e => failed e
where
  failed (e : SystemError) : Work (State × Bool) := do
    complain ("cat: " ++ (← named path) ++ ": " ++ e.reason)
    return (st, false)
  forever (pass : State → List UInt8 → Work State) : Nat → State → Work State
    | 0, st => .done st
    | fuel + 1, st => do
      say (List.replicate 4096 0)
      forever pass fuel st

def all (s : Style) (plain : Bool) (ok : Bool) (st : State) : List String → Work Nat
  | [] => do
    if st.held then say [13]
    return codeOf ok
  | path :: rest => do
    let (st, good) ← one s plain st path
    all s plain (ok && good) st rest

end Cat

def cat (args : List String) : Work Nat :=
  Cat.options.within "cat" args fun cs paths =>
    let s := Cat.styleOf cs
    let plain := cs.all (·.key == "u")
    Cat.all s plain true {} (if paths.isEmpty then ["-"] else paths)

def misnumbered (name what given : String) (e : Misnumber) : Work Nat := do
  let tail := if e == .tooGreat then ": Value too large for defined data type" else ""
  refuse (name ++ ": invalid number of " ++ what ++ ": " ++ (← marked given) ++ tail)

inductive Measure where
  | bytes
  | lines (ending : UInt8)
deriving DecidableEq, Repr

namespace Measure

def what : Measure → String
  | bytes => "bytes"
  | lines _ => "lines"

/-- The length of the first `n` units. -/
def lengthOf (u : Measure) (n : Nat) (data : List UInt8) : Nat :=
  match u with
  | bytes => min n data.length
  | lines ending => ((linesOf data ending).take n).foldl (fun total l => total + l.length) 0

def first (u : Measure) (n : Nat) (data : List UInt8) : List UInt8 := data.take (u.lengthOf n data)

def butLast (u : Measure) (n : Nat) (data : List UInt8) : List UInt8 :=
  match u with
  | bytes => data.take (data.length - n)
  | lines ending =>
    let ls := linesOf data ending
    (ls.take (ls.length - n)).flatten

def last (u : Measure) (n : Nat) (data : List UInt8) : List UInt8 :=
  data.drop (u.butLast n data).length

/-- All from the `n`th unit on, counted from one. -/
def since (u : Measure) (n : Nat) (data : List UInt8) : List UInt8 :=
  data.drop (u.lengthOf (n - 1) data)

end Measure

def heading (first : Bool) (label : String) : Work Unit :=
  sayText ((if first then "" else "\n") ++ "==> " ++ label ++ " <==\n")

namespace Head

/-- Passes on the first units of an input, as they come, and gives back what is too much. -/
def fromInput (u : Measure) (descriptor : Nat) : Nat → Nat → Work Unit
  | 0, _ => .done ()
  | _, 0 => .done ()
  | fuel + 1, n => do
    let most := match u with | .bytes => min n 8192 | .lines _ => 8192
    let data ← Work.await descriptor (fun data => if data.isEmpty then none else some most) .done
    let data' := data.take most
    if data'.isEmpty then return
    let shown := u.first n data'
    say shown
    let left := match u with
      | .bytes => n - shown.length
      | .lines ending => n - (shown.filter (· == ending)).length
    if left == 0 then Work.unread descriptor (data'.length - shown.length) .done
    else fromInput u descriptor fuel left

def show' (u : Measure) (drops : Bool) (n : Nat) (headers first : Bool) (path : String) :
    Work (Bool × Bool) := do
  let v ← view
  let label := if path == "-" then "standard input" else path
  let header : Work Unit := if headers then heading first label else pure ()
  let fromDescriptor (d : Nat) : Work (Bool × Bool) := do
    header
    if drops then say (u.butLast n (← readAll d)) else fromInput u d rounds n
    return (true, true)
  if path == "-" then fromDescriptor 0
  else match v.lookup path with
    | .error e =>
      complain ("head: cannot open " ++ (← quoted path) ++ " for reading: " ++ e.reason)
      return (false, false)
    | .ok (_, e) =>
      match e.kind with
      | .device (.descriptor d) => fromDescriptor d
      | .device .zero =>
        header
        say (List.replicate n 0)
        return (true, true)
      | _ =>
        header
        match ← readPath path (if u == .bytes then n else blockSize) with
        | .ok data =>
          say (if drops then u.butLast n data else u.first n data)
          return (true, true)
        | .error e =>
          complain ("head: error reading " ++ (← quoted path) ++ ": " ++ e.reason)
          return (false, true)

def showAll (u : Measure) (drops : Bool) (n : Nat) (headers first ok : Bool) : List String → Work Nat
  | [] => return codeOf ok
  | path :: rest => do
    let (good, spoke) ← show' u drops n headers first path
    showAll u drops n headers (first && !spoke) (ok && good) rest

def options : Options :=
  { letters := "c:n:qvz0123456789"
    long := [("bytes", "c"), ("lines", "n"), ("quiet", "q"), ("silent", "q"), ("verbose", "v"),
      ("zero-terminated", "z"), ("help", "help"), ("version", "version")] }

def old? (arg : String) : Option (Except Char (List Choice)) :=
  match arg.toList with
  | '-' :: c :: rest =>
    if !c.isDigit then none
    else
      let digits := (c :: rest).takeWhile Char.isDigit
      let letters := (c :: rest).drop digits.length
      let known := letters.takeWhile fun l => "bkmclqvz".toList.contains l
      match letters.drop known.length with
      | bad :: _ => some (.error bad)
      | [] =>
        let size := known.filter fun l => l == 'b' || l == 'k' || l == 'm'
        let inBytes := known.any fun l => l == 'c' || l == 'b' || l == 'k' || l == 'm'
        let number := String.ofList (digits ++ (size.getLast?).toList)
        some (.ok (⟨if inBytes then "c" else "n", some number⟩ ::
          (known.filter fun l => l == 'q' || l == 'v' || l == 'z').map fun l =>
            ⟨String.singleton l, none⟩))
  | _ => none

def headers (cs : List Choice) (paths : List String) : Bool :=
  match lastAmong? cs ["q", "v"] with
  | some "q" => false
  | some _ => true
  | none => 1 < paths.length

def unitOf (cs : List Choice) : Measure :=
  match lastAmong? cs ["c", "n"] with
  | some "c" => .bytes
  | _ => .lines (if has cs "z" then 0 else 10)

def go (cs : List Choice) (paths : List String) : Work Nat :=
  let u := unitOf cs
  let given := ((cs.reverse.find? fun c => c.key == "c" || c.key == "n").bind (·.argument)).getD "10"
  let (drops, digits) := match given.toList with
    | '-' :: rest => (true, rest)
    | '+' :: rest => (false, rest)
    | rest => (false, rest)
  match amount digits with
  | .error e => misnumbered "head" u.what (String.ofList digits) e
  | .ok n =>
    let paths := if paths.isEmpty then ["-"] else paths
    showAll u drops n (headers cs paths) true true paths

end Head

def head (args : List String) : Work Nat :=
  match args with
  | a :: rest =>
    match Head.old? a with
    | some (.error c) =>
      misuse "head" ("head: invalid trailing option -- " ++ String.singleton c)
    | some (.ok first) => Head.options.within "head" rest fun cs paths => Head.go (first ++ cs) paths
    | none => Head.options.within "head" args Head.go
  | [] => Head.go [] []

namespace Tail

structure Part where
  unit : Measure := .lines 10
  fromStart : Bool := false
  count : Nat := 10

def Part.of (p : Part) (data : List UInt8) : List UInt8 :=
  if p.fromStart then p.unit.since p.count data else p.unit.last p.count data

def options : Options :=
  { letters := "c:n:fFqvz0123456789s:"
    long := [("bytes", "c"), ("follow", "f"), ("lines", "n"), ("max-unchanged-stats", "max:"),
      ("pid", "pid:"), ("quiet", "q"), ("retry", "retry"), ("silent", "q"),
      ("sleep-interval", "s"), ("verbose", "v"), ("zero-terminated", "z"), ("help", "help"),
      ("version", "version")] }

def show' (p : Part) (headers first : Bool) (path : String) : Work (Bool × Bool) := do
  let label := if path == "-" then "standard input" else path
  let header : Work Unit := if headers then heading first label else pure ()
  match ← readSource path with
  | .ok data =>
    header
    say (p.of data)
    return (true, true)
  | .error .isDirectory =>
    header
    complain ("tail: error reading " ++ (← quoted path) ++ ": " ++ SystemError.isDirectory.reason)
    return (false, true)
  | .error e =>
    complain ("tail: cannot open " ++ (← quoted path) ++ " for reading: " ++ e.reason)
    return (false, false)

def follow (path : String) : Nat → Nat → Work Unit
  | 0, _ => .done ()
  | fuel + 1, seen => do
    let _ ← writeTo 1 []
    Work.pause (10 ^ 9) Work.done
    match ← readPath path with
    | .ok data =>
      let _ ← writeTo 1 (data.drop seen)
      follow path fuel data.length
    | .error _ => follow path fuel seen

def showAll (p : Part) (headers first ok : Bool) : List String → Work Bool
  | [] => return ok
  | path :: rest => do
    let (good, spoke) ← show' p headers first path
    showAll p headers (first && !spoke) (ok && good) rest

/-- An old form: a sign, a number, perhaps a letter for the unit, and perhaps one to follow. -/
def old? (arg : String) : Option (List Choice) :=
  match arg.toList with
  | sign :: rest =>
    if sign != '-' && sign != '+' then none
    else
      let digits := rest.takeWhile Char.isDigit
      let letters := rest.drop digits.length
      if digits.isEmpty && sign == '-' then none
      else
        let (unit, letters) := match letters with
          | 'l' :: more => ('l', more)
          | 'c' :: more => ('c', more)
          | 'b' :: more => ('b', more)
          | more => ('l', more)
        let number := if digits.isEmpty then ['1', '0'] else digits
        let number := if unit == 'b' then number ++ ['b'] else number
        let first : Choice := ⟨if unit == 'l' then "n" else "c", some (String.ofList
          (if sign == '+' then '+' :: number else number))⟩
        match letters with
        | [] => some [first]
        | ['f'] => some [first, ⟨"f", none⟩]
        | _ => none
  | [] => none

def oldAllowed : List String → Bool
  | [] => true
  | [w] => w == "-" || !w.startsWith "-" || w == "--"
  | [w, _] => w == "--"
  | _ => false

def go (cs : List Choice) (paths : List String) : Work Nat := do
  let unit := Head.unitOf cs
  let given := ((cs.reverse.find? fun c => c.key == "c" || c.key == "n").bind (·.argument)).getD "10"
  let (fromStart, digits) := match given.toList with
    | '-' :: rest => (false, rest)
    | '+' :: rest => (true, rest)
    | rest => (false, rest)
  match amount digits with
  | .error e => misnumbered "tail" unit.what given e
  | .ok count =>
    let paths := if paths.isEmpty then ["-"] else paths
    let ok ← showAll { unit, fromStart, count } (Head.headers cs paths) true true paths
    if has cs "f" || has cs "F" then
      match paths.getLast? with
      | some path =>
        if path != "-" then
          match ← readPath path with
          | .ok data => follow path rounds data.length
          | .error _ => pure ()
      | none => pure ()
    return codeOf ok

end Tail

def tail (args : List String) : Work Nat :=
  match args with
  | a :: rest =>
    match (Tail.old? a).filter fun _ => Tail.oldAllowed rest with
    | some first => Tail.options.within "tail" rest fun cs paths => Tail.go (first ++ cs) paths
    | none =>
      Tail.options.within "tail" args fun cs paths =>
        match cs.find? fun c => c.key.toList.all Char.isDigit with
        | some c => refuse ("tail: option used in invalid context -- " ++ c.key)
        | none => Tail.go cs paths
  | [] => Tail.go [] []

/-- The parts of some bytes that separators end, or start if `leads`. -/
def separated (separator : List UInt8) (leads : Bool) (data : List UInt8) : List (List UInt8) :=
  let texts := (Octets.text data).splitOn (Octets.text separator)
  let sep := Octets.text separator
  let pieces := if leads then
      texts.take 1 ++ (texts.drop 1).map (sep ++ ·)
    else texts.dropLast.map (· ++ sep) ++ texts.drop (texts.length - 1)
  (pieces.map Octets.ofText).filter (!·.isEmpty)

def tac (args : List String) : Work Nat :=
  let options : Options :=
    { letters := "brs:"
      long := [("before", "b"), ("regex", "r"), ("separator", "s"), ("help", "help"),
        ("version", "version")] }
  options.within "tac" args fun cs paths => do
    let separator := Octets.ofText ((lastOf? cs "s").getD "\n")
    let ok ← allOf (if paths.isEmpty then ["-"] else paths) fun path => do
      match ← readSource path with
      | .ok data =>
        say (separated separator (has cs "b") data).reverse.flatten
        return true
      | .error .isDirectory =>
        complain ("tac: " ++ (← named path) ++ ": read error: " ++ SystemError.isDirectory.reason)
        return false
      | .error e =>
        complain ("tac: failed to open " ++ (← quoted path) ++ " for reading: " ++ e.reason)
        return false
    return codeOf ok

def rev (args : List String) : Work Nat := do
  let v ← view
  let reversed (line : List UInt8) : List UInt8 :=
    let body := bare line
    let end' := line.drop body.length
    (if v.isUtf8 then Octets.ofChars (Octets.chars body).reverse else body.reverse) ++ end'
  let ok ← allOf (if args.isEmpty then ["-"] else args) fun path => do
    match ← readSource path with
    | .ok data =>
      say ((linesOf data).map reversed).flatten
      return true
    | .error e =>
      complain ("rev: cannot open " ++ path ++ ": " ++ e.reason)
      return false
  return codeOf ok

def tee (args : List String) : Work Nat :=
  let options : Options :=
    { letters := "aip"
      long := [("append", "a"), ("ignore-interrupts", "i"), ("output-error", "p"), ("help", "help"),
        ("version", "version")] }
  options.within "tee" args fun cs paths => do
    let ok ← allOf paths fun path => do
      match ← writePath path [] (has cs "a") with
      | none => return true
      | some e =>
        complain ("tee: " ++ (← named path) ++ ": " ++ e.reason)
        return false
    let v ← view
    let good := paths.filter fun p => (v.lookup p).toBool && !v.isDirectory p
    let _ ← eachBlock 0 (fun _ data => do
      let _ ← writeTo 1 data
      forEach good fun path => do let _ ← writePath path data true) rounds ()
    return codeOf ok

def yes (args : List String) : Work Nat :=
  let args := if args.head? == some "--" then args.drop 1 else args
  let line := Octets.ofText ((if args.isEmpty then "y" else " ".intercalate args) ++ "\n")
  let block := (List.replicate (4096 / line.length + 1) line).flatten
  go block rounds
where
  go (block : List UInt8) : Nat → Work Nat
    | 0 => .done 0
    | fuel + 1 => do
      say block
      go block fuel

end JobMatrix.Program
