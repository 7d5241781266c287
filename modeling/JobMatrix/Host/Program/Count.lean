import JobMatrix.Host.Program.Files
import JobMatrix.Text.Width

/-! The program that counts lines, words and bytes. -/

namespace JobMatrix.Program

namespace Wc

structure Counts where
  lines : Nat := 0
  words : Nat := 0
  chars : Nat := 0
  bytes : Nat := 0
  /-- The width of the widest line. -/
  width : Nat := 0
deriving Repr, Inhabited

def Counts.plus (a b : Counts) : Counts :=
  ⟨a.lines + b.lines, a.words + b.words, a.chars + b.chars, a.bytes + b.bytes, max a.width b.width⟩

/-- What is known on the way: the counts, whether a word goes on, and the position in the line. -/
structure State where
  counts : Counts := {}
  inWord : Bool := false
  position : Nat := 0

def State.endLine (s : State) : State :=
  { s with counts := { s.counts with width := max s.counts.width s.position }, position := 0 }

/-- Takes a character that is shown in `width` columns, if it is shown. -/
def step (s : State) (c : Char) (shown : Bool) (width : Nat) : State :=
  let gap (s : State) : State := { s with inWord := false }
  match c with
  | '\n' => gap { s.endLine with counts := { s.endLine.counts with lines := s.counts.lines + 1 } }
  | '\r' => gap s.endLine
  | '\x0c' => gap s.endLine
  | '\t' => gap { s with position := s.position + (8 - s.position % 8) }
  | '\x0b' => gap s
  | ' ' => gap { s with position := s.position + 1 }
  | _ =>
    if !shown then s
    else
      { s with
        counts := if s.inWord then s.counts else { s.counts with words := s.counts.words + 1 }
        inWord := true, position := s.position + width }

def countsOf (utf8 : Bool) (data : List UInt8) : Counts :=
  let s : State := if utf8 then
      (Octets.chars data).foldl (fun s c =>
        step s c (Quoting.isPrintable true c) (Text.columns c)) {}
    else
      data.foldl (fun s b => step s (Char.ofNat b.toNat) (32 < b && b < 127) 1) {}
  let s := s.endLine
  let chars := if utf8 then ((Octets.chars data).filter (!Octets.isStray ·)).length else data.length
  { s.counts with chars, bytes := data.length }

structure Shown where
  lines : Bool
  words : Bool
  chars : Bool
  bytes : Bool
  width : Bool

def Shown.of (s : Shown) (c : Counts) : List Nat :=
  (if s.lines then [c.lines] else []) ++ (if s.words then [c.words] else []) ++
    (if s.chars then [c.chars] else []) ++ (if s.bytes then [c.bytes] else []) ++
    (if s.width then [c.width] else [])

def sizeOf? (v : View) (path : String) : Option (Option Nat) :=
  if path == "-" then
    match v.fileAt 0 with
    | some place => (v.tree.entry? place).map fun e => if e.isRegular then some e.size else none
    | none => some none
  else match v.lookup path with
    | .ok (_, e) => some (if e.isRegular then some e.size else none)
    | .error _ => none

def columnWidth (v : View) (paths : List String) (single : Bool) : Nat :=
  if single && paths.length ≤ 1 then 1
  else
    let sizes := paths.filterMap (sizeOf? v)
    let total := (sizes.filterMap fun s => s).foldl (· + ·) 0
    let least := if sizes.any Option.isNone then 7 else 1
    max least (toString total).length

def options : Options :=
  { letters := "clLmw"
    long := [("bytes", "c"), ("chars", "m"), ("lines", "l"), ("words", "w"),
      ("files0-from", "files:"), ("max-line-length", "L"), ("total", "total:")] ++ about }

def line (s : Shown) (width : Nat) (c : Counts) (label : Option String) : String :=
  " ".intercalate ((s.of c).map fun n => padLeft width (toString n)) ++
    (label.elim "" (" " ++ ·)) ++ "\n"

end Wc

def wc (args : List String) : Work Nat :=
  Wc.options.within "wc" args fun cs words => do
    let v ← view
    let none' := !(["l", "w", "m", "c", "L"].any (has cs))
    let s : Wc.Shown :=
      { lines := none' || has cs "l", words := none' || has cs "w", chars := has cs "m"
        bytes := none' || has cs "c", width := has cs "L" }
    let paths := if words.isEmpty then ["-"] else words
    let width := Wc.columnWidth v paths ((s.of {}).length ≤ 1)
    go v s width (words.isEmpty) paths {} true
where
  go (v : View) (s : Wc.Shown) (width : Nat) (unnamed : Bool) :
      List String → Wc.Counts → Bool → (n : Nat := 0) → Work Nat
    | [], total, ok, n => do
      if 1 < n then sayText (Wc.line s width total (some "total"))
      return codeOf ok
    | path :: rest, total, ok, n => do
      let label := if unnamed then none else some path
      match ← readSource path with
      | .ok data =>
        let c := Wc.countsOf v.isUtf8 data
        sayText (Wc.line s width c label)
        go v s width unnamed rest (total.plus c) ok (n + 1)
      | .error e =>
        complain ("wc: " ++ (← named path) ++ ": " ++ e.reason)
        if e == .isDirectory then sayText (Wc.line s width {} label)
        go v s width unnamed rest total false (n + 1)

end JobMatrix.Program
