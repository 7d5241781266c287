import JobMatrix.Host.Program.Files
import JobMatrix.Host.Program.Order

/-! The program that sorts lines, by their keys. -/

namespace JobMatrix.Program

namespace Sorting

structure Manner where
  blanks : Bool := false
  dictionary : Bool := false
  folds : Bool := false
  general : Bool := false
  human : Bool := false
  printable : Bool := false
  months : Bool := false
  numeric : Bool := false
  reversed : Bool := false
  version : Bool := false
  shuffled : Bool := false
deriving DecidableEq, Repr

/-- A position in a line: a field and a character in it; zero characters stand for the end. -/
structure Position where
  field : Nat
  char : Nat
  blanks : Bool := false
deriving Repr

structure Key where
  start : Position
  stop : Option Position := none
  manner : Option Manner := none
deriving Repr

def dropFields (separator : Option UInt8) : Nat → List UInt8 → List UInt8
  | 0, s => s
  | n + 1, s =>
    match separator with
    | some t =>
      let rest := s.dropWhile (· != t)
      dropFields separator n (rest.drop 1)
    | none =>
      dropFields separator n ((s.dropWhile Order.isBlank).dropWhile (!Order.isBlank ·))

def from' (separator : Option UInt8) (p : Position) (line : List UInt8) : List UInt8 :=
  let s := dropFields separator (p.field - 1) line
  let s := if p.blanks then s.dropWhile Order.isBlank else s
  s.drop (p.char - 1)

def after (separator : Option UInt8) (p : Position) (line : List UInt8) : List UInt8 :=
  if p.char == 0 then
    match separator with
    | some t => (dropFields separator (p.field - 1) line).dropWhile (· != t)
    | none => dropFields none p.field line
  else
    let s := dropFields separator (p.field - 1) line
    let s := if p.blanks then s.dropWhile Order.isBlank else s
    s.drop p.char

def keyOf (separator : Option UInt8) (k : Key) (line : List UInt8) : List UInt8 :=
  let start := from' separator k.start line
  match k.stop with
  | none => start
  | some p =>
    let rest := after separator p line
    start.take (start.length - rest.length)

def plain (m : Manner) (s : List UInt8) : List UInt8 :=
  let s := if m.dictionary then
      s.filter fun b => Order.isBlank b || Order.isLetter b || Order.isDigit b
    else if m.printable then s.filter fun b => 32 ≤ b && b < 127 else s
  if m.folds then s.map Order.upper else s

def compareKeys (m : Manner) (a b : List UInt8) : Ordering :=
  let o :=
    if m.numeric then
      let x := (Order.decimal a).1
      let y := (Order.decimal b).1
      if x < y then .lt else if y < x then .gt else .eq
    else if m.general then Order.generals a b
    else if m.human then Order.human a b
    else if m.months then compare (Order.month a) (Order.month b)
    else if m.version then Order.version a b
    else Order.bytes (plain m a) (plain m b)
  if m.reversed then o.swap else o

structure Plan where
  keys : List (Key × Manner)
  separator : Option UInt8
  reversed : Bool
  stable : Bool
  unique : Bool

def Plan.byKeys (p : Plan) (a b : List UInt8) : Ordering :=
  p.keys.foldl (fun o k => o.then
    (compareKeys k.2 (keyOf p.separator k.1 a) (keyOf p.separator k.1 b))) .eq

/-- The order of lines; those with equal keys by all their bytes. -/
def Plan.order (p : Plan) (a b : List UInt8) : Ordering :=
  if p.keys.isEmpty then
    let o := Order.bytes a b
    if p.reversed then o.swap else o
  else
    let o := p.byKeys a b
    if o != .eq || p.stable || p.unique then o
    else
      let last := Order.bytes a b
      if p.reversed then last.swap else last

def Plan.same (p : Plan) (a b : List UInt8) : Bool :=
  if p.keys.isEmpty then a == b else p.byKeys a b == .eq

def firsts (same : List UInt8 → List UInt8 → Bool) : List (List UInt8) → List (List UInt8)
  | [] => []
  | [l] => [l]
  | a :: b :: rest =>
    if same a b then firsts same (a :: rest) else a :: firsts same (b :: rest)
termination_by ls => ls.length

def sorted (p : Plan) (lines : List (List UInt8)) : List (List UInt8) :=
  let ls := lines.mergeSort fun a b => p.order a b != .gt
  if p.unique then firsts p.same ls else ls

def disorder? (p : Plan) : Nat → List (List UInt8) → Option (Nat × List UInt8)
  | n, a :: b :: rest =>
    let bad := if p.unique then p.order a b != .lt else p.order a b == .gt
    if bad then some (n + 1, b) else disorder? p (n + 1) (b :: rest)
  | _, _ => none

inductive Problem where
  | count (what text : String)
  | spec (what : String)

def countAt (what : String) (cs : List Char) : Except Problem (Nat × List Char) :=
  let digits := cs.takeWhile Char.isDigit
  if digits.isEmpty then .error (.count what (String.ofList cs))
  else .ok (Number.natOfDigits digits, cs.drop digits.length)

def manner (cs : List Char) (m : Manner) : Manner :=
  cs.foldl (fun m c => match c with
    | 'b' => { m with blanks := true }
    | 'd' => { m with dictionary := true }
    | 'f' => { m with folds := true }
    | 'g' => { m with general := true }
    | 'h' => { m with human := true }
    | 'i' => { m with printable := true }
    | 'M' => { m with months := true }
    | 'n' => { m with numeric := true }
    | 'r' => { m with reversed := true }
    | 'V' => { m with version := true }
    | 'R' => { m with shuffled := true }
    | _ => m) m

def isMannerLetter (c : Char) : Bool := "bdfghiMnrRV".toList.contains c

def Manner.clash? (m : Manner) : Option String :=
  let kinds := [m.numeric, m.general, m.human, m.months, m.version || m.shuffled || m.dictionary].filter (·)
  if kinds.length ≤ 1 && !((m.numeric || m.general || m.human || m.months) && m.printable) then none
  else some (String.ofList ((if m.dictionary then ['d'] else []) ++
    (if m.general then ['g'] else []) ++ (if m.human then ['h'] else []) ++
    (if m.printable && !m.dictionary then ['i'] else []) ++
    (if m.months then ['M'] else []) ++ (if m.numeric then ['n'] else []) ++
    (if m.shuffled then ['R'] else []) ++ (if m.version then ['V'] else [])))

def position (what : String) (zeroAllowed : Bool) (cs : List Char) :
    Except Problem (Nat × Option Nat × List Char × List Char) := do
  let (field, rest) ← countAt what cs
  if field == 0 then throw (.spec "field number is zero")
  let (char, rest) ← match rest with
    | '.' :: r => do
      let (n, rest) ← countAt "invalid number after '.'" r
      if n == 0 && !zeroAllowed then throw (.spec "character offset is zero")
      pure (some n, rest)
    | r => pure (none, r)
  let letters := rest.takeWhile isMannerLetter
  return (field, char, letters, rest.drop letters.length)

def readKey (s : String) : Except Problem Key := do
  let (field, char, first, rest) ← position "invalid number at field start" false s.toList
  let blanksFirst := first.contains 'b'
  match rest with
  | [] =>
    return { start := ⟨field, char.getD 1, blanksFirst⟩
             manner := if first.isEmpty then none else some (manner first {}) }
  | ',' :: rest =>
    let (stopField, stopChar, second, rest) ← position "invalid number after ','" true rest
    if !rest.isEmpty then throw (.spec "stray character in field spec")
    let letters := first ++ second
    return { start := ⟨field, char.getD 1, blanksFirst⟩
             stop := some ⟨stopField, stopChar.getD 0, second.contains 'b'⟩
             manner := if letters.isEmpty then none else some (manner letters {}) }
  | _ => throw (.spec "stray character in field spec")

def options : Options :=
  { letters := "bcCdfghik:mMno:rRsS:t:T:uVy::z"
    long := [("ignore-leading-blanks", "b"), ("check", "check::"), ("compress-program", "compress:"),
      ("debug", "debug"), ("dictionary-order", "d"), ("ignore-case", "f"), ("files0-from", "files:"),
      ("general-numeric-sort", "g"), ("ignore-nonprinting", "i"), ("key", "k"), ("merge", "m"),
      ("month-sort", "M"), ("numeric-sort", "n"), ("human-numeric-sort", "h"), ("version-sort", "V"),
      ("random-sort", "R"), ("random-source", "source:"), ("sort", "sort:"), ("output", "o"),
      ("reverse", "r"), ("stable", "s"), ("batch-size", "batch:"), ("buffer-size", "S"),
      ("field-separator", "t"), ("temporary-directory", "T"), ("unique", "u"),
      ("zero-terminated", "z"), ("parallel", "parallel:")] ++ about }

def wordLetter? (s : String) : Option Char :=
  ([("general-numeric", 'g'), ("human-numeric", 'h'), ("month", 'M'), ("numeric", 'n'),
    ("random", 'R'), ("version", 'V')].find? fun w => w.1.startsWith s && !s.isEmpty).map (·.2)

def separator (s : String) : Except String UInt8 :=
  if s == "\\0" then .ok 0
  else match Octets.ofText s with
    | [] => .error "empty tab"
    | [b] => .ok b
    | _ => .error "multi"

def merge (p : Plan) : Nat → List (List UInt8) → List (List UInt8) → List (List UInt8)
  | 0, a, b => a ++ b
  | _, [], b => b
  | _, a, [] => a
  | fuel + 1, x :: a, y :: b =>
    if p.order x y != .gt then x :: merge p fuel a (y :: b) else y :: merge p fuel (x :: a) b

end Sorting

def readSources : List String → Work (Except (String × SystemError) (List (List UInt8)))
  | [] => return .ok []
  | path :: rest => do
    match ← readSource path with
    | .error e => return .error (path, e)
    | .ok data =>
      match ← readSources rest with
      | .ok others => return .ok (data :: others)
      | .error e => return .error e

def sort (args : List String) : Work Nat :=
  Sorting.options.within "sort" args (fun cs words => do
    let fail (text : String) : Work Nat := refuse ("sort: " ++ text) 2
    let letters := cs.filterMap fun c =>
      if c.key == "sort" then c.argument.bind Sorting.wordLetter?
      else match c.key.toList with
        | [l] => if Sorting.isMannerLetter l then some l else none
        | _ => none
    let whole := Sorting.manner letters {}
    let keys := (allOfKey cs "k").map fun s => (s, Sorting.readKey s)
    let problem? : Option (String × Sorting.Problem) := keys.findSome? fun k => match k.2 with
      | .error e => some (k.1, e)
      | .ok _ => none
    let separator : Option (String × Except String UInt8) := (lastOf? cs "t").map fun s => (s, Sorting.separator s)
    match problem?, separator with
    | some (_, .count what text), _ =>
      fail (what ++ ": invalid count at start of " ++ (← marked text))
    | some (s, .spec what), _ => fail (what ++ ": invalid field specification " ++ (← marked s))
    | none, some (s, .error e) =>
      if e == "multi" then fail ("multi-character tab " ++ (← marked s)) else fail e
    | none, separator =>
      let given := keys.filterMap fun k => k.2.toOption
      let inherited (k : Sorting.Key) : Sorting.Key × Sorting.Manner :=
        match k.manner with
        | some m => (k, m)
        | none =>
          let k := if whole.blanks then
              { k with start := { k.start with blanks := true }
                       stop := k.stop.map fun p => { p with blanks := true } }
            else k
          (k, whole)
      let plainly : Sorting.Manner := { reversed := whole.reversed }
      let all : List (Sorting.Key × Sorting.Manner) :=
        if !given.isEmpty then given.map inherited
        else if whole == plainly then []
        else [({ start := ⟨1, 1, whole.blanks⟩ }, whole)]
      let plan : Sorting.Plan :=
        { keys := all, separator := separator.bind fun s => s.2.toOption
          reversed := whole.reversed, stable := has cs "s", unique := has cs "u" }
      match (all.map (·.2) ++ [whole]).findSome? Sorting.Manner.clash? with
      | some letters => fail ("options '-" ++ letters ++ "' are incompatible")
      | none =>
        let paths := if words.isEmpty then ["-"] else words
        let quiet := has cs "C" || ["quiet", "silent"].contains ((lastOf? cs "check").getD "")
        let checks := has cs "c" || quiet || has cs "check"
        let ending : UInt8 := if has cs "z" then 0 else 10
        match checks, paths with
        | true, _ :: extra :: _ => fail ("extra operand " ++ (← quoted extra) ++ " not allowed with -" ++
            (if quiet then "C" else "c"))
        | _, _ =>
          match ← readSources paths with
          | .error (path, .isDirectory) =>
            fail ("read failed: " ++ (← named path) ++ ": " ++ SystemError.isDirectory.reason)
          | .error (path, e) => fail ("cannot read: " ++ (← named path) ++ ": " ++ e.reason)
          | .ok contents =>
            let lists := contents.map fun data => bareLines data ending
            if checks then
              match Sorting.disorder? plan 1 lists.flatten with
              | none => return 0
              | some (n, line) =>
                if !quiet then
                  complain ("sort: " ++ paths.headD "" ++ s!":{n}: disorder: " ++ Octets.text line)
                return 1
            else
              let lines := if has cs "m" then
                  let merged := lists.foldl (fun a b => Sorting.merge plan (a.length + b.length) a b) []
                  if plan.unique then Sorting.firsts plan.same merged else merged
                else Sorting.sorted plan lists.flatten
              let out := (lines.map (· ++ [ending])).flatten
              match lastOf? cs "o" with
              | none =>
                say out
                return 0
              | some path =>
                match ← writePath path out with
                | none => return 0
                | some e => fail ("open failed: " ++ (← named path) ++ ": " ++ e.reason)) 2

end JobMatrix.Program
