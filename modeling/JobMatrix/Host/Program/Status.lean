import JobMatrix.Number.Layout
import JobMatrix.Host.Program.Listing
import JobMatrix.Host.Program.Print

/-! What is known of files: their kind, size, permissions and times, by a format. -/

namespace JobMatrix.Program

open JobMatrix.Path (Place)

namespace Status

def kindBits (e : Entry) : Nat :=
  match e.kind with
  | .directory => 0o040000
  | .link _ => 0o120000
  | .channel => 0o010000
  | .device _ => 0o020000
  | _ => 0o100000

structure Subject where
  name : String
  place : Place
  entry : Entry

def Subject.device (s : Subject) : Nat × Nat :=
  match s.entry.kind with
  | .device d => Listing.deviceNumbers d
  | _ => (0, 0)

def moment (t : Int) : String := (Stamp.ofNanoseconds t).format "%Y-%m-%d %H:%M:%S.%N %z"

def seconds (l : Layout) (t : Int) : List UInt8 :=
  let whole := t.fdiv (10 ^ 9)
  let places := l.precision.getD 0
  let fraction := padLeft 9 (toString (t - whole * 10 ^ 9)) '0'
  let digits := String.ofList ((fraction.toList ++ List.replicate (places - 9) '0').take places)
  { l with precision := none }.fill l.zeros [] (Octets.ofText
    (toString whole ++ (if places == 0 then "" else "." ++ digits)))

def field (v : View) (quoting : Bool) (l : Layout) (s : Subject) (letter : Char) : List UInt8 :=
  let text (t : String) : List UInt8 := l.text (Octets.ofText t)
  let number (n : Nat) : List UInt8 := l.natural 'u' n
  let spell (t : String) : String :=
    if quoting then Quoting.always v.isUtf8 t else Quoting.forShell v.isUtf8 t
  match letter with
  | 'a' => l.natural 'o' s.entry.mode
  | 'A' => text (String.singleton (Mode.letterOf s.entry) ++ Mode.text s.entry.mode)
  | 'b' => number (2 * Listing.kilobytes s.entry)
  | 'B' => number 512
  | 'd' => number 2049
  | 'D' => l.natural 'x' 2049
  | 'f' => l.natural 'x' (kindBits s.entry + s.entry.mode)
  | 'F' => text (kindText s.entry)
  | 'g' => number 0
  | 'G' => text "root"
  | 'h' => number (v.tree.linkCount s.place)
  | 'i' => number (Listing.numberOf v.tree s.place)
  | 'm' => text "/"
  | 'n' => text s.name
  | 'N' =>
    match s.entry.kind with
    | .link target => text (spell s.name ++ " -> " ++ spell target)
    | _ => text (spell s.name)
  | 'o' => number 4096
  | 'r' => number (256 * s.device.1 + s.device.2)
  | 'R' => l.natural 'x' (256 * s.device.1 + s.device.2)
  | 's' => number s.entry.size
  | 't' => l.natural 'x' s.device.1
  | 'T' => l.natural 'x' s.device.2
  | 'u' => number 0
  | 'U' => text "root"
  | 'w' => text (moment s.entry.time)
  | 'W' => seconds l s.entry.time
  | 'x' => text (moment s.entry.time)
  | 'X' => seconds l s.entry.time
  | 'y' => text (moment s.entry.time)
  | 'Y' => seconds l s.entry.time
  | 'z' => text (moment s.entry.time)
  | 'Z' => seconds l s.entry.time
  | _ => [63]

def devicePart (l : Layout) (s : Subject) (major : Bool) (letter : Char) : List UInt8 :=
  let (high, low) := if letter == 'r' then s.device else (8, 1)
  l.natural 'u' (if major then high else low)

/-- Writes a format; `fuel` bounds its length. The directive that is none ends it. -/
def print (v : View) (escapes quoting : Bool) (s : Subject) :
    Nat → List Char → List UInt8 × List String × Option String
  | 0, _ => ([], [], none)
  | _, [] => ([], [], none)
  | fuel + 1, '%' :: rest =>
    let flags := rest.takeWhile fun c => Shell.Format.isFlag c || c == '\'' || c == 'I'
    let after := rest.drop flags.length
    let width := after.takeWhile Char.isDigit
    let after := after.drop width.length
    let (precision, after) := match after with
      | '.' :: r =>
        let ds := r.takeWhile Char.isDigit
        (some (Number.natOfDigits ds), r.drop ds.length)
      | r => (none, r)
    let l := { Layout.ofFlags flags with width := Number.natOfDigits width, precision }
    let shown := "%" ++ String.ofList (rest.take (rest.length - after.length + 1))
    match after with
    | [] => ([37], [], none)
    | '%' :: r =>
      if shown == "%%" then more [37] (print v escapes quoting s fuel r) else ([], [], some shown)
    | 'H' :: c :: r =>
      if c == 'd' || c == 'r' then more (devicePart l s true c) (print v escapes quoting s fuel r)
      else more [63] (print v escapes quoting s fuel (c :: r))
    | 'L' :: c :: r =>
      if c == 'd' || c == 'r' then more (devicePart l s false c) (print v escapes quoting s fuel r)
      else more [63] (print v escapes quoting s fuel (c :: r))
    | c :: r => more (field v quoting l s c) (print v escapes quoting s fuel r)
  | fuel + 1, '\\' :: rest =>
    if !escapes then more [92] (print v escapes quoting s fuel rest)
    else match rest with
      | 'x' :: r =>
        let ds := Print.hexDigits 2 r
        if ds.isEmpty then
          warn "unrecognized escape '\\x'" (more [120] (print v escapes quoting s fuel r))
        else more [UInt8.ofNat (Number.natOfHex ds)] (print v escapes quoting s fuel (r.drop ds.length))
      | [] => warn "backslash at end of format" ([92], [], none)
      | '"' :: r => more [34] (print v escapes quoting s fuel r)
      | c :: r =>
        match Shell.Format.escape? false rest with
        | some (b, n) => more [b] (print v escapes quoting s fuel (rest.drop n))
        | none =>
          warn ("unrecognized escape '\\" ++ String.singleton c ++ "'")
            (more (Octets.charBytes c) (print v escapes quoting s fuel r))
  | fuel + 1, c :: rest => more (Octets.charBytes c) (print v escapes quoting s fuel rest)
where
  more (data : List UInt8) (r : List UInt8 × List String × Option String) :
      List UInt8 × List String × Option String := (data ++ r.1, r.2)
  warn (text : String) (r : List UInt8 × List String × Option String) :
      List UInt8 × List String × Option String := (r.1, text :: r.2.1, r.2.2)

def report (e : Entry) : String :=
  "  File: %N\n  Size: %-10s\tBlocks: %-10b IO Block: %-6o %F\nDevice: %Hd,%Ld\tInode: %-11i" ++
    (if e.isDevice then " Links: %-5h Device type: %Hr,%Lr\n" else " Links: %h\n") ++
    "Access: (%04a/%10.10A)  Uid: (%5u/%8U)   Gid: (%5g/%8G)\n" ++
    "Access: %x\nModify: %y\nChange: %z\n Birth: %w\n"

def terse : String := "%n %s %b %f %u %g %D %i %h %t %T %X %Y %Z %W %o\n"

def options : Options :=
  { letters := "c:fLt"
    long := [("dereference", "L"), ("file-system", "f"), ("format", "c"), ("printf", "printf:"),
      ("terse", "t"), ("cached", "cached:"), ("help", "help"), ("version", "version")] }

/-- The file that a word names; a dash stands for the input. -/
def subject (v : View) (follows : Bool) (word : String) : Except SystemError Subject := do
  if word == "-" then
    match v.fileAt 0 with
    | some place => return ⟨word, place, (v.tree.entry? place).getD .directory⟩
    | none => return ⟨word, ["dev", "null"], .device .null⟩
  else
    let (place, entry) ← v.lookup word follows
    return ⟨word, place, entry⟩

end Status

def stat (args : List String) : Work Nat :=
  Status.options.within "stat" args fun cs words => do
    if words.isEmpty then misuse "stat" "stat: missing operand"
    else
      let chosen := cs.reverse.find? fun c => c.key == "c" || c.key == "printf"
      let ok ← allOf words fun w => do
        let v ← view
        match Status.subject v (has cs "L") w with
        | .error e =>
          complain ("stat: cannot statx " ++ (← quoted w) ++ ": " ++ e.reason)
          return false
        | .ok s =>
          let (format, escapes, ending) : String × Bool × String := match chosen with
            | some ⟨"c", some f⟩ => (f, false, "\n")
            | some ⟨_, some f⟩ => (f, true, "")
            | _ => (if has cs "t" then Status.terse else Status.report s.entry, false, "")
          let (data, warnings, bad) :=
            Status.print v escapes chosen.isSome s (format.length + 1) format.toList
          say data
          forEach warnings fun t => complain ("stat: warning: " ++ t)
          match bad with
          | none =>
            sayText ending
            return true
          | some d =>
            complain ("stat: " ++ (← marked d) ++ ": invalid directive")
            return false
      return codeOf ok

end JobMatrix.Program
