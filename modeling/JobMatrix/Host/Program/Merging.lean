import JobMatrix.Host.Program.Sorting

/-! Programs that compare lines with their neighbours and with those of another file. -/

namespace JobMatrix.Program

namespace Uniq

structure Manner where
  fields : Nat := 0
  chars : Nat := 0
  width : Option Nat := none
  folds : Bool := false

def Manner.keyOf (m : Manner) (line : List UInt8) : List UInt8 :=
  let s := (Sorting.dropFields none m.fields line).drop m.chars
  let s := match m.width with
    | some w => s.take w
    | none => s
  if m.folds then s.map Order.upper else s

def runs (m : Manner) : List (List UInt8) → List (List (List UInt8))
  | [] => []
  | l :: rest =>
    match runs m rest with
    | (k :: run) :: others =>
      if m.keyOf l == m.keyOf k then (l :: k :: run) :: others else [l] :: (k :: run) :: others
    | others => [l] :: others

def options : Options :=
  { letters := "cdDf:is:uw:z0123456789"
    long := [("count", "c"), ("repeated", "d"), ("all-repeated", "all::"), ("group", "group::"),
      ("ignore-case", "i"), ("unique", "u"), ("skip-fields", "f"), ("skip-chars", "s"),
      ("check-chars", "w"), ("zero-terminated", "z")] ++ about }

/-- What is shown of runs, the first of which starts if `first`. -/
def output (cs : List Choice) (ending : UInt8) (rs : List (List (List UInt8))) : List UInt8 :=
  let line (l : List UInt8) : List UInt8 := l ++ [ending]
  let groups (separate : String) (rs : List (List (List UInt8))) : List UInt8 :=
    let parts := rs.map fun r => (r.map line).flatten
    let gap : List UInt8 := [ending]
    match separate with
    | "prepend" => (parts.map (gap ++ ·)).flatten
    | "append" => (parts.map (· ++ gap)).flatten
    | "both" => if parts.isEmpty then [] else gap ++ (parts.map (· ++ gap)).flatten
    | "separate" => (parts.intersperse gap).flatten
    | _ => parts.flatten
  let repeated (r : List (List UInt8)) : Bool := 1 < r.length
  if has cs "group" then groups ((lastOf? cs "group").getD "separate") rs
  else if has cs "D" || has cs "all" then
    groups ((lastOf? cs "all").getD "none") (rs.filter repeated)
  else
    let chosen := rs.filter fun r =>
      (!has cs "d" || repeated r) && (!has cs "u" || !repeated r)
    (chosen.map fun r =>
      (if has cs "c" then Text.bytes (padLeft 7 (toString r.length) ++ " ") else []) ++
        line (r.headD [])).flatten

end Uniq

def uniq (args : List String) : Work Nat :=
  Uniq.options.within "uniq" args fun cs words => do
    let number (key what : String) : Except (String × String) (Option Nat) :=
      match lastOf? cs key with
      | none => .ok none
      | some s => match plainNumber? s with
        | some n => .ok (some n)
        | none => .error (s, what)
    let numbers : Except (String × String) (Option Nat × Option Nat × Option Nat) := do
      return (← number "f" "fields to skip", ← number "s" "bytes to skip",
        ← number "w" "bytes to compare")
    match numbers with
    | .error (s, what) => refuse ("uniq: " ++ (← named s) ++ ": invalid number of " ++ what)
    | .ok (fields, chars, width) =>
      let all := has cs "D" || has cs "all"
      if has cs "group" && (all || ["c", "d", "u"].any (has cs)) then
        misuse "uniq" "uniq: --group is mutually exclusive with -c/-d/-D/-u"
      else if all && has cs "c" then
        misuse "uniq" "uniq: printing all duplicated lines and repeat counts is meaningless"
      else match words with
        | _ :: _ :: extra :: _ => extraOperand "uniq" extra
        | _ =>
          let path := words.headD "-"
          match ← readSource path with
          | .error .isDirectory =>
            refuse ("uniq: error reading " ++ (← quoted path) ++ ": " ++
              SystemError.isDirectory.reason)
          | .error e => refuse ("uniq: " ++ (← named path) ++ ": " ++ e.reason)
          | .ok data =>
            let ending : UInt8 := if has cs "z" then 0 else 10
            let m : Uniq.Manner :=
              { fields := fields.getD 0, chars := chars.getD 0, width, folds := has cs "i" }
            let out := Uniq.output cs ending (Uniq.runs m (bareLines data ending))
            match words with
            | [_, target] =>
              if target == "-" then
                say out
                return 0
              else match ← writePath target out with
                | none => return 0
                | some e => refuse ("uniq: " ++ (← named target) ++ ": " ++ e.reason)
            | _ =>
              say out
              return 0

def twoFiles (name : String) (words : List String) (go : String → String → Work Nat)
    (code : Nat := 1) : Work Nat :=
  match words with
  | [] => misuse name (name ++ ": missing operand") code
  | [w] => do misuse name (name ++ ": missing operand after " ++ (← marked w)) code
  | [a, b] => go a b
  | _ :: _ :: extra :: _ => extraOperand name extra code

namespace Comm

structure Side where
  rest : List (List UInt8)
  last : Option (List UInt8) := none
  beforeLast : Option (List UInt8) := none
  warned : Bool := false

structure State where
  left : Side
  right : Side
  unpaired : Bool := false
  counts : Nat × Nat × Nat := (0, 0, 0)

inductive Check where
  | never
  | perhaps
  | always
deriving DecidableEq

def ordered (check : Check) (unpaired : Bool) (n : Nat) (s : Side) (a b : List UInt8) :
    Work (Side × Bool) := do
  if s.warned || check == .never || !(check == .always || unpaired) then return (s, true)
  else if Order.bytes a b == .gt then
    complain s!"comm: file {n} is not in sorted order"
    return ({ s with warned := true }, check != .always)
  else return (s, true)

def next (check : Check) (unpaired : Bool) (n : Nat) (s : Side) : Work (Side × Bool) := do
  let s := { s with last := s.rest.head?, beforeLast := s.last, rest := s.rest.drop 1 }
  match s.last, s.rest with
  | some a, b :: _ => ordered check unpaired n s a b
  | some b, [] =>
    match s.beforeLast with
    | some a => ordered check unpaired n s a b
    | none => return (s, true)
  | _, _ => return (s, true)

/-- Compares the lines of two files; false after an error that ends it. -/
def compare (check : Check) (line : Nat → List UInt8 → Work Unit) : Nat → State → Work (State × Bool)
  | 0, st => return (st, true)
  | fuel + 1, st => do
    let (l, r, b) := st.counts
    let left (st : State) : Work (State × Bool) := do
      let (side, ok) ← next check st.unpaired 1 st.left
      return ({ st with left := side }, ok)
    let right (st : State) : Work (State × Bool) := do
      let (side, ok) ← next check st.unpaired 2 st.right
      return ({ st with right := side }, ok)
    let go (r : State × Bool) : Work (State × Bool) :=
      if r.2 then compare check line fuel r.1 else return r
    let order := match st.left.rest, st.right.rest with
      | [], [] => none
      | _ :: _, [] => some Ordering.lt
      | [], _ :: _ => some .gt
      | x :: _, y :: _ => some (Order.bytes x y)
    match order with
    | none => return (st, true)
    | some .eq =>
      line 3 (st.left.rest.headD [])
      let (st, ok) ← left { st with counts := (l, r, b + 1) }
      if !ok then return (st, false)
      go (← right st)
    | some .lt =>
      line 1 (st.left.rest.headD [])
      go (← left { st with counts := (l + 1, r, b), unpaired := true })
    | some .gt =>
      line 2 (st.right.rest.headD [])
      go (← right { st with counts := (l, r + 1, b), unpaired := true })

end Comm

def comm (args : List String) : Work Nat :=
  let options : Options :=
    { letters := "123z"
      long := [("check-order", "check"), ("nocheck-order", "nocheck"),
        ("output-delimiter", "delimiter:"), ("total", "total"), ("zero-terminated", "z")] ++ about }
  options.within "comm" args fun cs words => twoFiles "comm" words fun a b => do
    match ← readSources [a, b] with
    | .error (path, e) => refuse ("comm: " ++ (← named path) ++ ": " ++ e.reason)
    | .ok contents =>
      let ending : UInt8 := if has cs "z" then 0 else 10
      let lists := contents.map fun d => bareLines d ending
      let check : Comm.Check := match lastAmong? cs ["check", "nocheck"] with
        | some "check" => .always
        | some _ => .never
        | none => .perhaps
      let delimiter := Octets.ofText ((lastOf? cs "delimiter").getD "\t")
      let delimiter := if lastOf? cs "delimiter" == some "" then [0] else delimiter
      let indent (n : Nat) : List UInt8 :=
        (if 1 < n && !has cs "1" then delimiter else []) ++
          (if 2 < n && !has cs "2" then delimiter else [])
      let line (n : Nat) (l : List UInt8) : Work Unit :=
        if has cs (toString n) then pure () else say (indent n ++ l ++ [ending])
      let left : Comm.Side := { rest := lists.headD [] }
      let right : Comm.Side := { rest := (lists.drop 1).headD [] }
      let fuel := left.rest.length + right.rest.length + 1
      let (st, ok) ← Comm.compare check line fuel { left, right }
      if !ok then return 1
      else
        if has cs "total" then
          let d := Octets.text delimiter
          let (l, r, b) := st.counts
          sayText (s!"{l}" ++ d ++ s!"{r}" ++ d ++ s!"{b}" ++ d ++ "total" ++
            Octets.text [ending])
        if st.left.warned || st.right.warned then refuse "comm: input is not in sorted order"
        else return 0

namespace Join

structure Line where
  text : List UInt8
  fields : List (List UInt8)
deriving Inhabited

def fieldsOf (separator : Option UInt8) (line : List UInt8) : List (List UInt8) :=
  match separator with
  | some t => splitAt t [] line
  | none => words [] (line.dropWhile isSpace)
where
  isSpace (b : UInt8) : Bool := Order.isBlank b || b == 10
  splitAt (t : UInt8) (field : List UInt8) : List UInt8 → List (List UInt8)
    | [] => [field.reverse]
    | b :: rest => if b == t then field.reverse :: splitAt t [] rest else splitAt t (b :: field) rest
  words (field : List UInt8) : List UInt8 → List (List UInt8)
    | [] => if field.isEmpty then [] else [field.reverse]
    | b :: rest =>
      if isSpace b then
        if field.isEmpty then words [] rest else field.reverse :: words [] rest
      else words (b :: field) rest

inductive Column where
  | key
  | field (file n : Nat)
deriving DecidableEq, Repr

structure Manner where
  keys : Nat × Nat
  separator : Option UInt8
  folds : Bool
  filler : Option (List UInt8)
  columns : Option (List Column)
  ending : UInt8
  unpairedLeft : Bool
  unpairedRight : Bool
  paired : Bool
  check : Comm.Check
  names : String × String

def Manner.keyOf (m : Manner) (n : Nat) (l : Line) : List UInt8 :=
  (l.fields[(if n == 1 then m.keys.1 else m.keys.2)]?).getD []

def Manner.compare (m : Manner) (a b : List UInt8) : Ordering :=
  if m.folds then Order.bytes (a.map Order.upper) (b.map Order.upper) else Order.bytes a b

def Manner.output (m : Manner) (a b : Option Line) : List UInt8 :=
  let separator := m.separator.getD 32
  let filled (f : Option (List UInt8)) : List UInt8 :=
    match f with
    | some [] => m.filler.getD []
    | some x => x
    | none => m.filler.getD []
  let key := match a, b with
    | some l, _ => m.keyOf 1 l
    | none, some l => m.keyOf 2 l
    | none, none => []
  let others (n : Nat) (l : Option Line) : List (List UInt8) :=
    match l with
    | none => []
    | some l =>
      let k := if n == 1 then m.keys.1 else m.keys.2
      (l.fields.take k ++ l.fields.drop (k + 1)).map fun f => filled (some f)
  let fields := match m.columns with
    | none => filled (some key) :: (others 1 a ++ others 2 b)
    | some columns => columns.map fun (c : Column) => match c with
      | .key => filled (some key)
      | .field n k =>
        let l := if n == 1 then a else b
        filled (l.bind fun l => l.fields[k]?)
  (fields.intersperse [separator]).flatten ++ [m.ending]

/-- What is left of a file: the present lines, the number of the last, and whether it was warned. -/
structure Side where
  present : List Line := []
  rest : List Line
  number : Nat := 0
  previous : Option Line := none
  warned : Bool := false

def next (m : Manner) (unpaired : Bool) (n : Nat) (s : Side) : Work (Option Line × Side × Bool) := do
  match s.rest with
  | [] => return (none, s, true)
  | l :: rest =>
    let s' := { s with rest, number := s.number + 1, previous := some l }
    match s.previous with
    | none => return (some l, s', true)
    | some p =>
      if !s.warned && m.check != .never && (m.check == .always || unpaired) &&
          m.compare (m.keyOf n p) (m.keyOf n l) == .gt then
        let name := if n == 1 then m.names.1 else m.names.2
        complain ("join: " ++ (← named name) ++ ":" ++ toString s'.number ++ ": is not sorted: " ++
          Octets.text l.text)
        return (some l, { s' with warned := true }, m.check != .always)
      else return (some l, s', true)

def run (m : Manner) (unpaired : Bool) (n other : Nat) (key : Line) :
    Nat → Side → Work (Side × Bool)
  | 0, s => return (s, true)
  | fuel + 1, s => do
    let (l, s, ok) ← next m unpaired n s
    match l with
    | none => return (s, ok)
    | some l =>
      let s := { s with present := s.present ++ [l] }
      if !ok then return (s, false)
      else if m.compare (m.keyOf n l) (m.keyOf other key) == .eq then
        run m unpaired n other key fuel s
      else return (s, true)

def remainder (m : Manner) (n : Nat) (shows unpaired : Bool) : Nat → Side → Work (Side × Bool)
  | 0, s => return (s, true)
  | fuel + 1, s => do
    let (l, s, ok) ← next m unpaired n s
    match l with
    | none => return (s, ok)
    | some l =>
      if shows then say (if n == 1 then m.output (some l) none else m.output none (some l))
      if !ok then return (s, false)
      else remainder m n shows unpaired fuel s

/-- Joins two files: both sides at the end, whether a line had no partner, and whether all went well. -/
def merge (m : Manner) : Nat → Bool → Side → Side → Work (Side × Side × Bool × Bool)
  | 0, unpaired, a, b => return (a, b, unpaired, true)
  | fuel + 1, unpaired, a, b => do
    match a.present, b.present with
    | x :: _, y :: _ =>
      match m.compare (m.keyOf 1 x) (m.keyOf 2 y) with
      | .lt =>
        if m.unpairedLeft then say (m.output (some x) none)
        let (l, a, ok) ← next m unpaired 1 { a with present := [] }
        let a := { a with present := l.toList }
        if ok then merge m fuel true a b else return (a, b, true, false)
      | .gt =>
        if m.unpairedRight then say (m.output none (some y))
        let (l, b, ok) ← next m unpaired 2 { b with present := [] }
        let b := { b with present := l.toList }
        if ok then merge m fuel true a b else return (a, b, true, false)
      | .eq =>
        let (a, okA) ← run m unpaired 1 2 y (a.rest.length + 1) a
        let (b, okB) ← run m unpaired 2 1 x (b.rest.length + 1) b
        let same (n : Nat) (l : Line) : Bool := m.compare (m.keyOf n l) (m.keyOf 2 y) == .eq
        let left := a.present.takeWhile (same 1)
        let right := b.present.takeWhile (same 2)
        if m.paired then
          forEach left fun p => forEach right fun q => say (m.output (some p) (some q))
        let a := { a with present := a.present.drop left.length }
        let b := { b with present := b.present.drop right.length }
        if okA && okB then merge m fuel unpaired a b else return (a, b, unpaired, false)
    | _, _ => return (a, b, unpaired, true)

/-- Columns from texts such as `0`, `1.2` and `2.1`. -/
def columns (texts : List String) : Except String (List Column) :=
  texts.foldlM (fun cs t =>
    if t == "0" then .ok (cs ++ [.key])
    else match t.splitOn "." with
      | [file, n] =>
        match file, plainNumber? n with
        | "1", some (n + 1) => .ok (cs ++ [.field 1 n])
        | "2", some (n + 1) => .ok (cs ++ [.field 2 n])
        | _, _ => .error (if file == "1" || file == "2" then
            "invalid field number: '" ++ n ++ "'" else "invalid file number in field spec: '" ++ t ++ "'")
      | _ => .error (if t == "1" || t == "2" then "invalid field specifier: '" ++ t ++ "'"
          else "invalid file number in field spec: '" ++ t ++ "'")) []

def options : Options :=
  { letters := "a:e:i1:2:j:o:t:v:z"
    long := [("ignore-case", "i"), ("check-order", "check"), ("nocheck-order", "nocheck"),
      ("zero-terminated", "z"), ("header", "header")] ++ about }

end Join

def join (args : List String) : Work Nat :=
  Join.options.within "join" args fun cs words => do
    let fail (text : String) : Work Nat := refuse ("join: " ++ text)
    let keyText (n : String) : String := ((lastOf? cs n) <|> (lastOf? cs "j")).getD "1"
    let key (n : String) : Except String Nat := match plainNumber? (keyText n) with
      | some (k + 1) => .ok k
      | _ => .error ("invalid field number: '" ++ keyText n ++ "'")
    let automatic := lastOf? cs "o" == some "auto"
    let texts := (allOfKey cs "o").flatMap fun s =>
      (s.splitOn ",").flatMap fun t => (t.splitOn " ").filter (!·.isEmpty)
    let checked : Except String (Nat × Nat × List Join.Column) := do
      return (← key "1", ← key "2", ← if automatic then pure [] else Join.columns texts)
    match checked with
    | .error e => fail e
    | .ok (k1, k2, columns) => twoFiles "join" words fun pa pb => do
      match ← readSources [pa, pb] with
      | .error (path, e) => fail ((← named path) ++ ": " ++ e.reason)
      | .ok contents =>
        let ending : UInt8 := if has cs "z" then 0 else 10
        let separator : Option UInt8 := (lastOf? cs "t").map fun s =>
          if s == "\\0" then 0 else (Octets.ofText s).headD 10
        let lines (d : List UInt8) : List Join.Line :=
          (bareLines d ending).map fun l => ⟨l, Join.fieldsOf separator l⟩
        let la := lines (contents.headD [])
        let lb := lines ((contents.drop 1).headD [])
        let auto : List Join.Column :=
          let own (n k : Nat) (ls : List Join.Line) : List Join.Column :=
            ((List.range ((ls.head?.map fun l => l.fields.length).getD 0)).filter (· != k)).map
              (Join.Column.field n ·)
          .key :: (own 1 k1 la ++ own 2 k2 lb)
        let only := allOfKey cs "v"
        let also := allOfKey cs "a"
        let m : Join.Manner :=
          { keys := (k1, k2), separator, folds := has cs "i"
            filler := (lastOf? cs "e").map Octets.ofText
            columns := if automatic then some auto else if columns.isEmpty then none else some columns
            ending, unpairedLeft := (only ++ also).contains "1"
            unpairedRight := (only ++ also).contains "2", paired := only.isEmpty
            check := match lastAmong? cs ["check", "nocheck"] with
              | some "check" => .always
              | some _ => .never
              | none => .perhaps
            names := (pa, pb) }
        let (la, lb) ← if has cs "header" then do
            if !(la.isEmpty && lb.isEmpty) then say (m.output la.head? lb.head?)
            pure (la.drop 1, lb.drop 1)
          else pure (la, lb)
        let (x, a, _) ← Join.next m false 1 { rest := la }
        let (y, b, _) ← Join.next m false 2 { rest := lb }
        let (a, b, unpaired, ok) ← Join.merge m (la.length + lb.length + 2) false
          { a with present := x.toList } { b with present := y.toList }
        if !ok then return 1
        else
          let tail (n : Nat) (s other : Join.Side) (shows unpaired : Bool) :
              Work (Join.Side × Bool × Bool) := do
            match s.present with
            | [] => return (s, unpaired, true)
            | l :: _ =>
              if shows then
                say (if n == 1 then m.output (some l) none else m.output none (some l))
              let unpaired := unpaired || !other.present.isEmpty
              let (s, ok) ← Join.remainder m n shows unpaired (s.rest.length + 1) s
              return (s, unpaired, ok)
          let (a, unpaired, ok1) ← tail 1 a b m.unpairedLeft unpaired
          let (b, _, ok2) ← tail 2 b a m.unpairedRight unpaired
          if !(ok1 && ok2) then return 1
          else if a.warned || b.warned then fail "input is not in sorted order"
          else return 0

end JobMatrix.Program
