import JobMatrix.Host.Program.Lines

/-! A file cut into pieces: by lines, by bytes, or into a number of them. -/

namespace JobMatrix.Program

namespace Pieces

inductive Cut where
  | lines (n : Nat)
  | bytes (n : Nat)
  /-- Whole lines, as many as fit into some bytes. -/
  | linesWithin (n : Nat)
  | chunks (n : Nat)
  | lineChunks (n : Nat)
  /-- Lines dealt out in turn. -/
  | turns (n : Nat)

inductive Digits where
  | letters
  | decimal
  | hexadecimal
deriving DecidableEq, Repr

def Digits.symbols : Digits → Array Char
  | letters => "abcdefghijklmnopqrstuvwxyz".toList.toArray
  | decimal => "0123456789".toList.toArray
  | hexadecimal => "0123456789abcdef".toList.toArray

def Digits.base (d : Digits) : Nat := d.symbols.size

def Digits.text (d : Digits) (width n : Nat) : String :=
  String.ofList ((List.range width).map fun i =>
    (d.symbols[n / d.base ^ (width - 1 - i) % d.base]?).getD '?')

structure Style where
  digits : Digits := .letters
  /-- The number of digits; none if it grows with the number of pieces. -/
  width : Option Nat := none
  start : Nat := 0
  lead : String := "x"
  ending : String := ""

/-- The digits of a piece whose number of digits may grow: when only the last first digit is left, the
names get longer by two. -/
def grown (d : Digits) : Nat → Nat → Nat → String
  | 0, _, n => toString n
  | fuel + 1, width, n =>
    let room := (d.base - 1) * d.base ^ (width - 1)
    let last := (d.symbols[d.base - 1]?).getD '?'
    if n < room then d.text width n
    else String.singleton last ++ grown d fuel width.succ (n - room)

/-- The name of a piece; none if there are no more. -/
def Style.name? (s : Style) (i : Nat) : Option String :=
  let n := s.start + i
  match s.width with
  | some w =>
    if s.digits.base ^ w ≤ n then none else some (s.lead ++ s.digits.text w n ++ s.ending)
  | none => some (s.lead ++ grown s.digits 30 2 n ++ s.ending)

def inParts (size : Nat) : Nat → List UInt8 → List (List UInt8)
  | 0, _ => []
  | fuel + 1, data =>
    if data.isEmpty then [] else data.take size :: inParts size fuel (data.drop size)

def inGroups (n : Nat) : Nat → List (List UInt8) → List (List UInt8)
  | 0, _ => []
  | fuel + 1, ls =>
    if ls.isEmpty then [] else (ls.take n).flatten :: inGroups n fuel (ls.drop n)

/-- Lines in pieces of at most `size` bytes; a longer line is cut. `held` is the piece so far, the
latest line first. -/
def within (size : Nat) : List (List UInt8) → List (List UInt8) → Nat → List (List UInt8)
  | [], held, _ => if held.isEmpty then [] else [held.reverse.flatten]
  | l :: rest, held, count =>
    if count + l.length ≤ size then within size rest (l :: held) (count + l.length)
    else
      let before := if held.isEmpty then [] else [held.reverse.flatten]
      let parts := inParts size (l.length + 1) l
      let last := parts.getLastD []
      before ++ parts.dropLast ++ within size rest [last] last.length

def chunks (n : Nat) (data : List UInt8) : List (List UInt8) :=
  let size := max data.length n / n
  (List.range n).map fun i =>
    let part := data.drop (i * size)
    if i + 1 == n then part else part.take size

/-- Whole lines in parts of about equal size: a line belongs to the part in which it starts. -/
def lineChunks (n : Nat) (lines : List (List UInt8)) : List (List UInt8) :=
  let total := lines.foldl (fun k l => k + l.length) 0
  let size := max total n / n
  let (_, placed) := lines.foldl (fun (acc : Nat × List (Nat × List UInt8)) l =>
    (acc.1 + l.length, (min (acc.1 / size) (n - 1), l) :: acc.2)) (0, [])
  let placed := placed.reverse
  (List.range n).map fun i => ((placed.filter (·.1 == i)).map (·.2)).flatten

def turns (n : Nat) (lines : List (List UInt8)) : List (List UInt8) :=
  (List.range n).map fun i => ((lines.zipIdx.filter fun l => l.2 % n == i).map (·.1)).flatten

/-- The pieces of bytes; lines end with `ending`. -/
def Cut.pieces (c : Cut) (ending : UInt8) (data : List UInt8) : List (List UInt8) :=
  let lines := linesOf data ending
  let fuel := data.length + 1
  match c with
  | .lines n => inGroups n fuel lines
  | .bytes n => inParts n fuel data
  | .linesWithin n => within n lines [] 0
  | .chunks n => Pieces.chunks n data
  | .lineChunks n => Pieces.lineChunks n lines
  | .turns n => Pieces.turns n lines

def write (s : Style) (verbose : Bool) : Nat → List (List UInt8) → Work Nat
  | _, [] => return 0
  | i, p :: rest => do
    match s.name? i with
    | none => refuse "split: output file suffixes exhausted"
    | some name =>
      if verbose then sayLine ("creating file " ++ (← quoted name))
      match ← writePath name p with
      | some e => refuse ("split: " ++ (← Program.named name) ++ ": " ++ e.reason)
      | none => write s verbose (i + 1) rest

/-- Hands pieces to a command of the shell, which finds their names in its environment. -/
def filter (s : Style) (command : String) : Nat → List (List UInt8) → Work Nat
  | _, [] => return 0
  | i, p :: rest => do
    match s.name? i with
    | none => refuse "split: output file suffixes exhausted"
    | some name =>
      let env := Dict.put (← view).env "FILE" name
      let order : Order := { words := ["sh", "-c", command], env, input := .given p }
      match ← Work.start order .done with
      | .error _ => filter s command (i + 1) rest
      | .ok child =>
        let _ ← Work.wait child none .done
        filter s command (i + 1) rest

def options : Options :=
  { letters := "0123456789C:a:b:del:n:t:ux",
    long := [("bytes", "b"), ("lines", "l"), ("line-bytes", "C"), ("number", "n"),
      ("elide-empty-files", "e"), ("unbuffered", "u"), ("suffix-length", "a"),
      ("additional-suffix", "additional-suffix:"), ("numeric-suffixes", "numeric::"),
      ("hex-suffixes", "hex::"), ("filter", "filter:"), ("verbose", "verbose"),
      ("separator", "t"), ("help", "help"), ("version", "version")] }

structure Problem where
  text : String
  explains : Bool := false

def positive (what : String) (suffixed : Bool) (mark : String → String) (a : String) :
    Except Problem Nat :=
  let wrong (why : String) : Except Problem Nat :=
    .error { text := "invalid " ++ what ++ ": " ++ mark a ++ why }
  let read := if suffixed then amount a.toList
    else match plainNumber? a with
      | some n => if greatest < n then .error .tooGreat else .ok n
      | none => .error .malformed
  match read with
  | .ok 0 => wrong ": Numerical result out of range"
  | .ok n => .ok n
  | .error .tooGreat => wrong ": Value too large for defined data type"
  | .error .malformed => wrong ""

def chunked (mark : String → String) (a : String) : Except Problem (Cut × Option Nat) := do
  let (make, rest) : (Nat → Cut) × String :=
    if a.startsWith "l/" then (.lineChunks, (a.drop 2).toString)
    else if a.startsWith "r/" then (.turns, (a.drop 2).toString)
    else (.chunks, a)
  match rest.splitOn "/" with
  | [k, n] =>
    let n ← positive "number of chunks" false mark n
    let i ← positive "chunk number" false mark k
    if n < i then
      throw { text := "invalid chunk number: " ++ mark k ++ ": Numerical result out of range" }
    return (make n, some (i - 1))
  | _ => return (make (← positive "number of chunks" false mark rest), none)

structure Plan where
  cut : Option Cut := none
  only : Option Nat := none
  style : Style := {}
  ending : UInt8 := 10
  digits : List Char := []

def Plan.withOption (mark : String → String) (p : Plan) (c : Choice) : Except Problem Plan := do
  let a := c.argument.getD ""
  let cutting (cut : Cut) (only : Option Nat := none) : Except Problem Plan :=
    if p.cut.isSome then .error { text := "cannot split in more than one way", explains := true }
    else .ok { p with cut := some cut, only }
  let numbered (digits : Digits) : Except Problem Plan :=
    match c.argument with
    | none => .ok { p with style := { p.style with digits } }
    | some a =>
      let isDigit (d : Char) : Bool := digits.symbols.contains d
      if a.isEmpty || !(a.toList.all isDigit) then
        .error { text := mark a ++ ": invalid start value for " ++
          (if digits == .decimal then "numerical" else "hexadecimal") ++ " suffix" }
      else
        let n := a.toList.foldl (fun n d => digits.base * n + digits.symbols.toList.findIdx (· == d)) 0
        .ok { p with style := { p.style with digits, start := n, width := p.style.width.or (some 2) } }
  match c.key with
  | "l" => cutting (.lines (← positive "number of lines" false mark a))
  | "b" => cutting (.bytes (← positive "number of bytes" true mark a))
  | "C" => cutting (.linesWithin (← positive "number of bytes" true mark a))
  | "n" =>
    let (cut, only) ← chunked mark a
    cutting cut only
  | "a" =>
    match plainNumber? a with
    | some n => return { p with style := { p.style with width := if n == 0 then none else some n } }
    | none => throw { text := "invalid suffix length: " ++ mark a }
  | "d" => numbered .decimal
  | "numeric" => numbered .decimal
  | "x" => numbered .hexadecimal
  | "hex" => numbered .hexadecimal
  | "additional-suffix" =>
    if a.toList.contains '/' then
      throw { text := "invalid suffix " ++ mark a ++ ", contains directory separator"
              explains := true }
    return { p with style := { p.style with ending := a } }
  | "t" =>
    match Octets.ofText (if a == "\\0" then "\x00" else a) with
    | [b] => return { p with ending := b }
    | [] => throw { text := "empty record separator" }
    | _ => throw { text := "multi-character separator " ++ mark a }
  | key =>
    if key.toList.all Char.isDigit then
      let digits := p.digits ++ key.toList
      if p.cut.isSome && p.digits.isEmpty then
        throw { text := "cannot split in more than one way", explains := true }
      return { p with digits, cut := some (.lines (Number.natOfDigits digits)) }
    return p

def Style.fitted (s : Style) : Option Cut → Style
  | some (.chunks n) => fit n
  | some (.lineChunks n) => fit n
  | some (.turns n) => fit n
  | _ => s
where
  fit (n : Nat) : Style :=
    match s.width with
    | some _ => s
    | none =>
      let needed := ((List.range 40).find? fun w => n ≤ s.digits.base ^ w).getD 40
      { s with width := some (max 2 needed) }

end Pieces

def split (args : List String) : Work Nat :=
  Pieces.options.within "split" args fun cs words => do
    let mark := Quoting.marked (← view).isUtf8
    match cs.foldlM (Pieces.Plan.withOption mark) {}, words with
    | .error e, _ =>
      if e.explains then misuse "split" ("split: " ++ e.text) else refuse ("split: " ++ e.text)
    | _, _ :: _ :: w :: _ => extraOperand "split" w
    | .ok plan, words =>
      let path := words.head?.getD "-"
      let style := { plan.style with lead := ((words.drop 1).head?).getD "x" }
      let style := style.fitted plan.cut
      match ← readSource path with
      | .error .isDirectory => refuse ("split: " ++ path ++ ": Is a directory")
      | .error e =>
        refuse ("split: cannot open " ++ (← quoted path) ++ " for reading: " ++ e.reason)
      | .ok data =>
        let pieces := (plan.cut.getD (.lines 1000)).pieces plan.ending data
        match plan.only with
        | some i =>
          say ((pieces[i]?).getD [])
          return 0
        | none =>
          let pieces := if has cs "e" then pieces.filter (!·.isEmpty) else pieces
          match lastOf? cs "filter" with
          | some command => Pieces.filter style command 0 pieces
          | none => Pieces.write style (has cs "verbose") 0 pieces

end JobMatrix.Program
