import JobMatrix.Number.Bits
import JobMatrix.Number.Layout
import JobMatrix.Host.Program.Lines

/-! Bytes shown as numbers or characters, in blocks with addresses before them. -/

namespace JobMatrix.Program

namespace Dump

inductive Kind where
  | signed
  | unsigned
  | octal
  | hexadecimal
  | floating
  /-- The names of characters. -/
  | named
  | char
deriving DecidableEq, Repr

/-- What units of some bytes are shown as, and whether their characters follow. -/
structure Spec where
  kind : Kind
  size : Nat := 1
  trailer : Bool := false
deriving DecidableEq, Repr

inductive Radix where
  | octal
  | decimal
  | hexadecimal
  | none
deriving DecidableEq, Repr

def Radix.width : Radix → Nat
  | none => 0
  | hexadecimal => 6
  | _ => 7

def Radix.text (r : Radix) (n : Nat) : String :=
  let base : Nat := match r with
    | hexadecimal => 16
    | octal => 8
    | _ => 10
  if r == none then "" else padLeft r.width (String.ofList (Nat.toDigits base n)) '0'

def Spec.width (s : Spec) : Nat :=
  match s.kind with
  | .signed => if s.size == 1 then 4 else if s.size == 2 then 6 else if s.size == 4 then 11 else 20
  | .unsigned => if s.size == 1 then 3 else if s.size == 2 then 5 else if s.size == 4 then 10 else 20
  | .octal => if s.size == 1 then 3 else if s.size == 2 then 6 else if s.size == 4 then 11 else 22
  | .hexadecimal => 2 * s.size
  | .floating => if s.size == 4 then 15 else 24
  | .named => 3
  | .char => 3

def controlNames : List String :=
  ["nul", "soh", "stx", "etx", "eot", "enq", "ack", "bel", "bs", "ht", "nl", "vt", "ff", "cr", "so",
   "si", "dle", "dc1", "dc2", "dc3", "dc4", "nak", "syn", "etb", "can", "em", "sub", "esc", "fs", "gs",
   "rs", "us", "sp"]

def nameOf (b : UInt8) : String :=
  let n := b.toNat % 128
  if n == 127 then "del" else (controlNames[n]?).getD (String.singleton (Char.ofNat n))

def charOf (b : UInt8) : String :=
  match Char.ofNat b.toNat with
  | '\x00' => "\\0"
  | '\x07' => "\\a"
  | '\x08' => "\\b"
  | '\x0c' => "\\f"
  | '\n' => "\\n"
  | '\r' => "\\r"
  | '\t' => "\\t"
  | '\x0b' => "\\v"
  | c =>
    if 32 ≤ b && b < 127 then String.singleton c
    else padLeft 3 (String.ofList (Nat.toDigits 8 b.toNat)) '0'

/-- The number nearest to a ratio with `bits` bits of mantissa and no exponent below a bound. -/
def rounded (bits : Nat) (lowest : Int) (q : Rat) : Option Rat :=
  let num := q.num.natAbs
  if num == 0 then some 0
  else
    let e := max (Double.floorLog num q.den - (bits - 1 : Nat)) lowest
    let (n, d) := Double.scaled num q.den e
    (Double.finite (q < 0) (roundDiv n d) e).toRat?

def shortestText (x : Double) (bits : Nat) (lowest : Int) (least most : Nat) : String :=
  let text (p : Nat) : String :=
    Octets.text (({ precision := some p } : Layout).floating 'g' x)
  let readsBack (s : String) : Bool :=
    match (Number.whole? s).bind (·.toRat?), x.toRat? with
    | some q, some r => rounded bits lowest q == some r
    | _, _ => true
  let sizes := (List.range (most + 1)).filter (least ≤ ·)
  text ((sizes.find? fun p => readsBack (text p)).getD most)

def Spec.text (s : Spec) (big : Bool) (unit : List UInt8) : String :=
  let n := (if big then unit else unit.reverse).foldl (fun n b => 256 * n + b.toNat) 0
  let digits (base : Nat) : String := padLeft s.width (String.ofList (Nat.toDigits base n)) '0'
  match s.kind with
  | .unsigned => toString n
  | .signed =>
    let half := 2 ^ (8 * s.size - 1)
    if n < half then toString n else "-" ++ toString (2 * half - n)
  | .octal => digits 8
  | .hexadecimal => digits 16
  | .named => nameOf (unit.headD 0)
  | .char => charOf (unit.headD 0)
  | .floating =>
    if s.size == 4 then
      let x := Double.ofBits 23 8 n
      shortestText x 24 (-149) (if n % 2 ^ 31 < 2 ^ 23 then 1 else 6) 9
    else
      let x := Double.ofBits 52 11 n
      shortestText x 53 (-1074) (if n % 2 ^ 63 < 2 ^ 52 then 1 else 15) 17

structure Style where
  specs : List Spec
  radix : Radix := .octal
  block : Nat := 16
  big : Bool := false
  repeats : Bool := false

def Style.width (s : Style) : Nat :=
  s.specs.foldl (fun w p => max w ((p.width + 1) * (s.block / p.size))) 0

/-- The units of a block of so many bytes as they are shown; blanks fill the width of the line
evenly. -/
def Style.fields (s : Style) (p : Spec) (size : Nat) (data : List UInt8) : String :=
  let count := s.block / p.size
  let pad := s.width - p.width * count
  let used := (size + p.size - 1) / p.size
  String.join ((List.range used).map fun k =>
    let i := count - k
    let gap := pad * i / count - pad * (i - 1) / count
    padLeft (gap + p.width) (p.text s.big ((data.drop (k * p.size)).take p.size)))

def Style.trailer (s : Style) (p : Spec) (data : List UInt8) : String :=
  let count := s.block / p.size
  let blank := (s.block - data.length) / p.size
  let pad := s.width - p.width * count
  String.ofList (List.replicate (blank * p.width + pad * blank / count) ' ') ++ "  >" ++
    String.ofList (data.map fun b => if 32 ≤ b && b < 127 then Char.ofNat b.toNat else '.') ++ "<"

def Style.lines (s : Style) (address size : Nat) (data : List UInt8) : String :=
  String.join (s.specs.zipIdx.map fun (p, i) =>
    let lead := if i == 0 then s.radix.text address
      else String.ofList (List.replicate s.radix.width ' ')
    lead ++ s.fields p size data ++ (if p.trailer then s.trailer p (data.take size) else "") ++ "\n")

def unitOf (specs : List Spec) : Nat := specs.foldl (fun n p => Nat.lcm n p.size) 1

def Style.blocks (s : Style) : Nat → Nat → Option (List UInt8) → Bool → List UInt8 → List String
  | 0, _, _, _, _ => []
  | fuel + 1, address, before, starred, data =>
    if data.isEmpty then []
    else
      let block := data.take s.block
      let rest := data.drop s.block
      let unit := unitOf s.specs
      let missing := (unit - block.length % unit) % unit
      let full := block ++ List.replicate missing 0
      if block.length == s.block && before == some block && !s.repeats then
        let more := s.blocks fuel (address + s.block) before true rest
        if starred then more else "*\n" :: more
      else
        s.lines address block.length full :: s.blocks fuel (address + s.block) (some block) false rest

def Style.all (s : Style) (address : Nat) (data : List UInt8) : String :=
  let last := if s.radix == .none then "" else s.radix.text (address + data.length) ++ "\n"
  String.join (s.blocks (data.length + 1) address none false data) ++ last

inductive Problem where
  | character (c : Char)
  | integral (size : Nat)
  | floating (size : Nat)

def Problem.text (given : String) (mark : String → String) : Problem → String
  | character c => "invalid character " ++ mark (String.singleton c) ++ " in type string " ++ mark given
  | integral n => "invalid type string " ++ mark given ++
      s!";\nthis system doesn't provide a {n}-byte integral type"
  | floating n => "invalid type string " ++ mark given ++
      s!";\nthis system doesn't provide a {n}-byte floating point type"

def sizeOf (named : List (Char × Nat)) (otherwise : Nat) (cs : List Char) : Nat × List Char :=
  match cs with
  | c :: rest =>
    match named.lookup c with
    | some n => (n, rest)
    | none =>
      let ds := cs.takeWhile Char.isDigit
      if ds.isEmpty then (otherwise, cs) else (Number.natOfDigits ds, cs.drop ds.length)
  | [] => (otherwise, [])

def specs : Nat → List Char → Except Problem (List Spec)
  | 0, _ => .ok []
  | _, [] => .ok []
  | fuel + 1, c :: rest => do
    let whole (kind : Kind) : Except Problem (Spec × List Char) :=
      let (size, rest) := sizeOf [('C', 1), ('S', 2), ('I', 4), ('L', 8)] 4 rest
      if [1, 2, 4, 8].contains size then .ok ({ kind, size }, rest) else .error (.integral size)
    let (spec, rest) ← match c with
      | 'd' => whole .signed
      | 'u' => whole .unsigned
      | 'o' => whole .octal
      | 'x' => whole .hexadecimal
      | 'f' =>
        let (size, rest) := sizeOf [('F', 4), ('D', 8), ('L', 16)] 8 rest
        if [4, 8].contains size then pure (({ kind := .floating, size } : Spec), rest)
        else throw (.floating size)
      | 'a' => pure (({ kind := .named } : Spec), rest)
      | 'c' => pure (({ kind := .char } : Spec), rest)
      | c => throw (.character c)
    let (spec, rest) := match rest with
      | 'z' :: rest => ({ spec with trailer := true }, rest)
      | rest => (spec, rest)
    return spec :: (← specs fuel rest)

def letterType? (key : String) : Option String :=
  [("a", "a"), ("b", "o1"), ("c", "c"), ("D", "u4"), ("d", "u2"), ("e", "fD"), ("F", "fD"),
   ("f", "fF"), ("H", "x4"), ("h", "x2"), ("I", "dL"), ("i", "dI"), ("L", "dL"), ("l", "dL"),
   ("O", "o4"), ("o", "o2"), ("B", "o2"), ("s", "d2"), ("X", "x4"), ("x", "x2")].lookup key

def options : Options :=
  { letters := "A:aBbcDdeFfHhIij:LlN:OoS:st:vw::Xx",
    long := [("skip-bytes", "j"), ("address-radix", "A"), ("read-bytes", "N"), ("format", "t"),
      ("output-duplicates", "v"), ("strings", "S"), ("traditional", "traditional"),
      ("width", "w"), ("endian", "endian:"), ("help", "help"), ("version", "version")] }

def count? (s : String) : Option Nat :=
  match s.toList with
  | '0' :: 'x' :: cs => if cs.isEmpty then none else
      if cs.all fun c => (Number.hexDigit? c).isSome then some (Number.natOfHex cs) else none
  | cs => (amount cs).toOption

def contents : List String → Work (List (List UInt8) × Bool × Bool)
  | [] => return ([], false, true)
  | path :: rest => do
    match ← readSource path with
    | .ok data =>
      let (more, _, ok) ← contents rest
      return (data :: more, true, ok)
    | .error e =>
      complain ("od: " ++ (← named path) ++ ": " ++ e.reason)
      let (more, any, _) ← contents rest
      return (more, any || e == .isDirectory, false)

def typesOf : List Choice → Except (String × Problem) (List Spec)
  | [] => .ok []
  | c :: rest => do
    let text := (letterType? c.key).or (if c.key == "t" then c.argument else none)
    let here ← match text with
      | some t => (specs (t.length + 1) t.toList).mapError fun e => (t, e)
      | none => pure []
    return here ++ (← typesOf rest)

end Dump

def od (args : List String) : Work Nat :=
  Dump.options.within "od" args fun cs words => do
    let mark := Quoting.marked (← view).isUtf8
    let counted (key : String) : Except String (Option Nat) :=
      match lastOf? cs key with
      | none => .ok none
      | some a =>
        match Dump.count? a with
        | some n => .ok (some n)
        | none => .error ("od: invalid -" ++ key ++ " argument " ++ mark a)
    let radix := match (lastOf? cs "A").getD "o" with
      | "o" => some Dump.Radix.octal
      | "d" => some .decimal
      | "x" => some .hexadecimal
      | "n" => some .none
      | _ => none
    match radix, counted "j", counted "N", counted "w", Dump.typesOf cs with
    | none, _, _, _, _ =>
      refuse ("od: invalid output address radix " ++ mark ((lastOf? cs "A").getD "") ++
        "; it must be one character from [doxn]")
    | _, .error e, _, _, _ => refuse e
    | _, _, .error e, _, _ => refuse e
    | _, _, _, .error e, _ => refuse e
    | _, _, _, _, .error (given, e) => refuse ("od: " ++ e.text given mark)
    | some radix, .ok skipped, .ok limit, .ok width, .ok specs =>
      let go (big : Bool) : Work Nat := do
        let specs := if specs.isEmpty then [{ kind := .octal, size := 2 }] else specs
        let unit := Dump.unitOf specs
        let wanted := if has cs "w" then some (width.getD 32) else none
        let block := match wanted with
          | some w => if w != 0 && w % unit == 0 then w else unit
          | none => if unit < 16 then unit * (16 / unit) else unit
        match wanted with
        | some w =>
          if w != block then complain s!"od: warning: invalid width {w}; using {block} instead"
        | none => pure ()
        let (data, any, ok) ← Dump.contents (if words.isEmpty then ["-"] else words)
        if !any then return 1
        let data := data.flatten
        let start := skipped.getD 0
        if data.length < start then return ← refuse "od: cannot skip past end of combined input"
        let shown := data.drop start
        let shown := limit.elim shown shown.take
        let style : Dump.Style := { specs, radix, block, big, repeats := has cs "v" }
        sayText (style.all start shown)
        return codeOf ok
      match lastOf? cs "endian" with
      | some a => withGroup "od" "--endian" [["little"], ["big"]] a fun n => go (n == 1)
      | none => go false

end JobMatrix.Program
