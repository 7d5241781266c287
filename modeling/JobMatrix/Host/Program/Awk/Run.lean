import JobMatrix.Host.Program.Awk.Read
import JobMatrix.Host.Program.Awk.Table
import JobMatrix.Host.Program.Basic

/-! The running of programs: records and their fields, variables and arrays, and what is read from and
written to files. -/

namespace JobMatrix.Program.Awk

def inner (s : String) : String := String.ofList (Octets.units false (Octets.ofText s))

def outer (s : String) : String := Octets.text (Octets.ofChars s.toList)

/-- Characters that are still to be read, and the descriptor from which more of them come. -/
structure Source where
  pending : List Char := []
  more : Option Nat := none
deriving Inhabited

/-- A record: its text, and its fields once they are needed. The text is stale after a field has
changed. -/
structure Record where
  text : String := ""
  fields : Option (Array Value) := some #[]
  stale : Bool := false
deriving Inhabited

structure State where
  globals : Std.HashMap String Value := {}
  /-- The tables of arrays, and which array has which table. -/
  arrays : Std.HashMap String Nat := {}
  tables : Std.HashMap Nat Table := {}
  fresh : Nat := 0
  record : Record := {}
  /-- The records, the next word of the command line, and whether a word named a file. -/
  source : Option Source := none
  word : Nat := 1
  opened : Bool := false
  ended : Bool := false
  /-- The files that are written. -/
  sinks : List String := []
  output : List (List UInt8) := []
  outputSize : Nat := 0
  /-- Expressions for texts that were made while running. -/
  patterns : Std.HashMap String Regex := {}
  /-- The ranges that have begun. -/
  ranges : List Nat := []
  code : Nat := 0
deriving Inhabited

inductive Halt where
  | next
  | nextFile
  | exit
  | stop
  | again
  | failure (text : String)

abbrev Run := ExceptT Halt (StateT State Work)

def ask {α : Type} (w : Work α) : Run α := fun s => do return (.ok (← w), s)

section Variables

def variableOf (n : String) : Run Value := do return (← get).globals.getD n .unset

def setVariable (n : String) (v : Value) : Run Unit :=
  modify fun s => { s with globals := s.globals.insert n v }

def conversion : Run String := do
  match (← get).globals.getD "CONVFMT" .unset with
  | .text s => return s
  | v => return v.toText "%.6g"

def textOf (v : Value) : Run String := do
  match v with
  | .text s => return s
  | .input s => return s
  | .unset => return ""
  | .number x => return plainText (← conversion) x

def variableText (n : String) : Run String := do textOf (← variableOf n)

def fail {α : Type} (text : String) : Run α := do
  let file ← variableText "FILENAME"
  let fnr ← variableText "FNR"
  let nr ← variableText "NR"
  throw (.failure ("run time error: " ++ outer text ++ "\n\tFILENAME=\"" ++ outer file ++ "\" FNR=" ++
    fnr ++ " NR=" ++ nr))

end Variables

def compiled (s : String) : Run Regex := do
  match (← get).patterns[s]? with
  | some r => return r
  | none =>
    match Regex.read dialect s.toList with
    | .ok (r, _) =>
      modify fun st => { st with patterns := st.patterns.insert s r }
      return r
    | .error p => fail ("regular expression compile failed (" ++ flawText p ++ ")\n" ++ s)

inductive Separator where
  | blanks
  | char (c : Char)
  | nothing
  | regex (r : Regex)

def separatorOf (s : String) : Run Separator := do
  match s.toList with
  | [] => return .nothing
  | [' '] => return .blanks
  | [c] => return .char c
  | _ => return .regex (← compiled s)

def blankPieces : Nat → List Char → List String
  | 0, _ => []
  | fuel + 1, cs =>
    let cs := cs.dropWhile Number.isSpace
    if cs.isEmpty then []
    else
      let piece := cs.takeWhile fun c => !Number.isSpace c
      String.ofList piece :: blankPieces fuel (cs.drop piece.length)

def charPieces (c : Char) : Nat → List Char → List String
  | 0, _ => []
  | fuel + 1, cs =>
    let piece := cs.takeWhile (· != c)
    match cs.drop piece.length with
    | [] => [String.ofList piece]
    | _ :: rest => String.ofList piece :: charPieces c fuel rest

def solid? (r : Regex) (t : Regex.Subject) : Nat → Nat → Option Regex.Match
  | 0, _ => none
  | fuel + 1, start =>
    match r.find? t start with
    | some m => if m.start < m.stop then some m else solid? r t fuel (m.stop + 1)
    | none => none

def regexPieces (r : Regex) (t : Regex.Subject) : Nat → Nat → List String
  | 0, _ => []
  | fuel + 1, start =>
    match solid? r t (t.size + 1) start with
    | some m =>
      String.ofList (t.chars.extract start m.start).toList :: regexPieces r t fuel m.stop
    | none => [String.ofList (t.chars.extract start t.size).toList]

/-- The pieces of a text; an empty one has none. -/
def Separator.pieces (sep : Separator) (text : String) : List String :=
  let cs := text.toList
  if cs.isEmpty then []
  else match sep with
    | .blanks => blankPieces (cs.length + 1) cs
    | .char c => charPieces c (cs.length + 1) cs
    | .nothing => cs.map String.singleton
    | .regex r =>
      let t : Regex.Subject := { chars := cs.toArray }
      regexPieces r t (cs.length + 1) 0

section Records

def fields : Run (Array Value) := do
  let r := (← get).record
  match r.fields with
  | some fs => return fs
  | none =>
    let sep ← separatorOf (← variableText "FS")
    let fs := ((sep.pieces r.text).map Value.input).toArray
    modify fun s => { s with record := { s.record with fields := some fs } }
    return fs

def recordText : Run String := do
  let r := (← get).record
  if !r.stale then return r.text
  let fs ← fields
  let texts ← fs.toList.mapM textOf
  let text := (← variableText "OFS").intercalate texts
  modify fun s => { s with record := { s.record with text, stale := false } }
  return text

def setRecord (text : String) : Run Unit :=
  modify fun s => { s with record := { text, fields := none } }

def fieldOf (i : Nat) : Run Value := do
  if i == 0 then return .input (← recordText)
  else return ((← fields)[i - 1]?).getD (.input "")

def resize (fs : Array Value) (n : Nat) : Array Value :=
  if n ≤ fs.size then fs.extract 0 n else fs ++ Array.replicate (n - fs.size) (.text "")

def setField (i : Nat) (v : Value) : Run Unit := do
  if i == 0 then setRecord (← textOf v)
  else
    let fs ← fields
    let fs := if fs.size < i then resize fs i else fs
    modify fun s =>
      { s with record := { s.record with fields := some (fs.set! (i - 1) v), stale := true } }

def setCount (v : Value) : Run Unit := do
  let n := toLong v.toNumber
  if n < 0 then fail "negative value assigned to NF"
  let fs ← fields
  modify fun s =>
    { s with record := { s.record with fields := some (resize fs n.toNat), stale := true } }

def fieldNumber (v : Value) : Run Nat := do
  let n := toLong v.toNumber
  if n < 0 then fail ("negative field index $" ++ toString n)
  if 2 ^ 24 < n then fail ("maximum number of fields exceeded " ++ toString n)
  return n.toNat

end Records

inductive Place where
  | name (n : String)
  | item (table : Nat) (key : Table.Key)
  | field (i : Nat)

section Places

def load : Place → Run Value
  | .name n => do if n == "NF" then return .ofNat (← fields).size else variableOf n
  | .item id k => do
    return (((← get).tables[id]?).getD {}).get k
  | .field i => fieldOf i

def store (p : Place) (v : Value) : Run Unit := do
  match p with
  | .name n =>
    if n == "NF" then setCount v
    else if n == "FS" then
      let _ ← fields
      setVariable n v
    else if n == "OFS" then
      let _ ← recordText
      setVariable n v
    else setVariable n v
  | .item id k =>
    modify fun s => { s with tables := s.tables.alter id fun t => some ((t.getD {}).set k v) }
  | .field i => setField i v

def tableOf (n : String) : Run Nat := do
  let s ← get
  match s.arrays[n]? with
  | some id => return id
  | none =>
    set { s with arrays := s.arrays.insert n s.fresh, fresh := s.fresh + 1 }
    return s.fresh

def tableAt (id : Nat) : Run Table := do return ((← get).tables[id]?).getD {}

def setTable (id : Nat) (t : Table) : Run Unit :=
  modify fun s => { s with tables := s.tables.insert id t }

def onTable (id : Nat) (f : Table → Table) : Run Unit :=
  modify fun s => { s with tables := s.tables.alter id fun t => some (f (t.getD {})) }

end Places

section Output

def flush : Run Unit := do
  let s ← get
  if !s.output.isEmpty then
    set { s with output := [], outputSize := 0 }
    let _ ← ask (writeTo 1 s.output.reverse.flatten)

def outputLimit : Nat := 4096

def emit (data : List UInt8) : Run Unit := do
  modify fun s =>
    { s with output := data :: s.output, outputSize := s.outputSize + data.length }
  if outputLimit < (← get).outputSize then flush

def isStdout (name : String) : Bool := name == "/dev/stdout" || name == "-"

def send (target : Option (Bool × String)) (data : List UInt8) : Run Unit := do
  match target with
  | none => emit data
  | some (append, name) =>
    if isStdout name then emit data
    else if name == "/dev/stderr" then
      let _ ← ask (writeTo 2 data)
    else
      let known := (← get).sinks.contains name
      match ← ask (writePath (outer name) data (append || known)) with
      | some e => throw (.failure ("cannot open \"" ++ outer name ++ "\" for output (" ++ e.reason ++ ")"))
      | none => if !known then modify fun s => { s with sinks := name :: s.sinks }

end Output

section Input

/-- Reads more of a source; none if there is no more. -/
def Source.more? (src : Source) : Run (Option Source) := do
  match src.more with
  | none => return none
  | some d =>
    let data ← ask (readBlock d)
    if data.isEmpty then return none
    return some { src with pending := src.pending ++ Octets.units false data }

def Source.all (src : Source) : Run Source := do
  match src.more with
  | none => return src
  | some d =>
    let data ← ask (readAll d)
    return { pending := src.pending ++ Octets.units false data }

def recordUpTo (c : Char) : Nat → Source → Run (Option (String × Source))
  | 0, _ => return none
  | fuel + 1, src => do
    let line := src.pending.takeWhile (· != c)
    match src.pending.drop line.length with
    | _ :: rest => return some (String.ofList line, { src with pending := rest })
    | [] =>
      match ← src.more? with
      | some src => recordUpTo c fuel src
      | none =>
        if src.pending.isEmpty then return none
        else return some (String.ofList line, {})

def recordUpToMatch (r : Regex) (src : Source) : Run (Option (String × Source)) := do
  let src ← src.all
  if src.pending.isEmpty then return none
  let t : Regex.Subject := { chars := src.pending.toArray }
  match solid? r t (t.size + 1) 0 with
  | some m =>
    return some (String.ofList (src.pending.take m.start), { pending := src.pending.drop m.stop })
  | none => return some (String.ofList src.pending, {})

def paragraph : List Char → List Char × List Char
  | [] => ([], [])
  | '\n' :: '\n' :: rest => ([], rest.dropWhile (· == '\n'))
  | ['\n'] => ([], [])
  | c :: rest =>
    let (p, r) := paragraph rest
    (c :: p, r)

def nextRecord (src : Source) : Run (Option (String × Source)) := do
  match (← variableText "RS").toList with
  | [c] => recordUpTo c rounds src
  | [] =>
    let src ← src.all
    let cs := src.pending.dropWhile (· == '\n')
    if cs.isEmpty then return none
    let (p, rest) := paragraph cs
    return some (String.ofList p, { pending := rest })
  | cs => recordUpToMatch (← compiled (String.ofList cs)) src

def openSource (name : String) : Run (Except SystemError Source) := do
  if name == "-" || name == "/dev/stdin" then return .ok { more := some 0 }
  else
    match ← ask (readPath (outer name)) with
    | .ok data => return .ok { pending := Octets.units false data }
    | .error e => return .error e

/-- A variable and a value from a word such as `x=1`. -/
def assignmentOf? (word : String) : Option (String × Value) :=
  let cs := word.toList
  let name := cs.takeWhile isNameChar
  match cs.drop name.length with
  | '=' :: rest =>
    if name.head?.elim false isNameStart then
      some (String.ofList name, .input (String.ofList (unescaped 0 rest)))
    else none
  | _ => none

def nextWord : Run (Option String) := do
  let s ← get
  let count := toLong (s.globals.getD "ARGC" .unset).toNumber
  if count ≤ s.word then return none
  set { s with word := s.word + 1 }
  let t ← tableAt (← tableOf "ARGV")
  return some (← textOf (t.get (.integer s.word)))

/-- Opens the next file among the words of the command line; false if there is none. Words with an
equals sign set variables. -/
def openNext : Nat → Run Bool
  | 0 => return false
  | fuel + 1 => do
    match ← nextWord with
    | none =>
      if (← get).opened then return false
      modify fun s => { s with opened := true, source := some { more := some 0 } }
      setVariable "FILENAME" (.text "-")
      setVariable "FNR" (.ofNat 0)
      return true
    | some "" => openNext fuel
    | some word =>
      match assignmentOf? word with
      | some (n, v) =>
        store (.name n) v
        openNext fuel
      | none =>
        modify fun s => { s with opened := true }
        match ← openSource word with
        | .error .isDirectory => throw (.failure "read error (Is a directory)")
        | .error e => throw (.failure ("cannot open \"" ++ outer word ++ "\" (" ++ e.reason ++ ")"))
        | .ok src =>
          modify fun s => { s with source := some src }
          setVariable "FILENAME" (.text word)
          setVariable "FNR" (.ofNat 0)
          return true

def increase (n : String) : Run Unit := do
  setVariable n (.number ((← variableOf n).toNumber.add ((Double.ofInt? 1).getD Double.zero)))

/-- The next record of all files; none after the last. -/
def nextMain : Nat → Run (Option String)
  | 0 => return none
  | fuel + 1 => do
    if (← get).ended then return none
    match (← get).source with
    | none =>
      if ← openNext rounds then nextMain fuel
      else
        modify fun s => { s with ended := true }
        return none
    | some src =>
      match ← nextRecord src with
      | some (text, src) =>
        modify fun s => { s with source := some src }
        increase "NR"
        increase "FNR"
        return some text
      | none =>
        modify fun s => { s with source := none }
        nextMain fuel

end Input

/-- What a match is replaced by: an ampersand stands for it, unless a backslash stands before. -/
def replaced (found : List Char) : List Char → List Char
  | [] => []
  | '\\' :: '\\' :: '&' :: rest => '\\' :: (found ++ replaced found rest)
  | '\\' :: '&' :: rest => '&' :: replaced found rest
  | '&' :: rest => found ++ replaced found rest
  | c :: rest => c :: replaced found rest

/-- Replaces matches from a position on, all of them or the first: the pieces of the result, the latest
first, and how many were replaced. `last` is where the match before ended. -/
def substitute (r : Regex) (by_ : List Char) (all : Bool) (t : Regex.Subject) :
    Nat → Nat → Option Nat → List (List Char) → Nat → List (List Char) × Nat
  | 0, _, _, done, n => (done, n)
  | fuel + 1, start, last, done, n =>
    let rest := (t.chars.extract start t.size).toList
    if t.size < start then (done, n)
    else match r.find? t start with
      | none => (rest :: done, n)
      | some m =>
        let before := (t.chars.extract start m.start).toList
        if m.start == m.stop && last == some m.start then
          match t.chars[m.start]? with
          | some c => substitute r by_ all t fuel (m.stop + 1) none ([c] :: before :: done) n
          | none => (rest :: done, n)
        else
          let text := replaced (t.chars.extract m.start m.stop).toList by_
          let done := text :: before :: done
          if !all then ((t.chars.extract m.stop t.size).toList :: done, n + 1)
          else if m.start == m.stop then
            match t.chars[m.stop]? with
            | some c => substitute r by_ all t fuel (m.stop + 1) none ([c] :: done) (n + 1)
            | none => (done, n + 1)
          else substitute r by_ all t fuel m.stop (some m.stop) done (n + 1)

/-- Where a text is found in another one, from one on; zero if it is not. -/
def indexOf (part : List Char) (i : Nat) : List Char → Nat
  | [] => if part.isEmpty then i else 0
  | cs@(_ :: rest) => if part.isPrefixOf cs then i else indexOf part (i + 1) rest

def substring (cs : List Char) (start : Double) (length : Option Double) : List Char :=
  let first := toLong start
  let stop : Int := match length with
    | some n => toLong (start.add n)
    | none => cs.length + 1
  let low := max 1 first
  let high := min stop (cs.length + 1)
  if high ≤ low then [] else (cs.drop (low - 1).toNat).take (high - low).toNat

def compute : Arithmetic → Double → Double → Double
  | .add => Double.add
  | .sub => fun x y => x.add y.neg
  | .mul => Double.mul
  | .div => Double.div
  | .rem => Double.rem
  | .pow => Double.through₂ Float.pow

def Relation.holds : Relation → Ordering → Bool
  | .lt, o => o == .lt
  | .le, o => o != .gt
  | .eq, o => o == .eq
  | .ne, o => o != .eq
  | .gt, o => o == .gt
  | .ge, o => o != .lt

def keyOf (vs : List Value) : Run Table.Key := do
  match vs with
  | [v] => return Table.keyOf (← conversion) v
  | vs => return .text ((← variableText "SUBSEP").intercalate (← vs.mapM textOf))

def layOutText (name : String) (vs : List Value) : Run (List UInt8) := do
  match vs with
  | [] => return []
  | f :: args =>
    let format ← textOf f
    let cs := format.toList
    match layOut (← conversion) (cs.length + 1) 1 cs args [] with
    | (data, none) => return data
    | (data, some e) =>
      if name == "printf" then emit data
      fail (e.text name format)

def valueOf (b : Builtin) (vs : List Value) : Run Value := do
  let x := ((vs.head?).getD .unset).toNumber
  match b, vs with
  | .length, v :: _ => return .ofNat (← textOf v).length
  | .substr, [s, start] => return .text (String.ofList (substring (← textOf s).toList start.toNumber none))
  | .substr, s :: start :: n :: _ =>
    return .text (String.ofList (substring (← textOf s).toList start.toNumber (some n.toNumber)))
  | .index, s :: t :: _ => return .ofNat (indexOf (← textOf t).toList 1 (← textOf s).toList)
  | .sprintf, vs => return .text (String.ofList (Octets.units false (← layOutText "sprintf" vs)))
  | .int, _ =>
    match x.truncate? with
    | some n => return .ofInt n
    | none => return .number x
  | .toUpper, v :: _ => return .text ((← textOf v).map Char.toUpper)
  | .toLower, v :: _ => return .text ((← textOf v).map Char.toLower)
  | _, _ => return .unset

def looped (body : Run Unit) : Run Bool :=
  tryCatch (do
      body
      pure true)
    fun h => match h with
      | .stop => pure false
      | .again => pure true
      | h => throw h

variable (script : Script)

mutual

def eval : Nat → Expr → Run Value
  | 0, _ => fail "too deep"
  | fuel + 1, e => do
    match e with
    | .number x => return .number x
    | .text s => return .text s
    | .pattern p => return .ofBool (p.regex.isIn { chars := (← recordText).toList.toArray })
    | .name n => load (.name n)
    | .item a index =>
      let p ← placeOf fuel (.item a index)
      load p
    | .field i =>
      let v ← eval fuel i
      fieldOf (← fieldNumber v)
    | .group e => eval fuel e
    | .not e =>
      let v ← eval fuel e
      return .ofBool !v.isTrue
    | .negate e => return .number ((← eval fuel e).toNumber.neg)
    | .plus e => return .number ((← eval fuel e).toNumber)
    | .arithmetic op a b =>
      let x ← eval fuel a
      let y ← eval fuel b
      return .number (compute op x.toNumber y.toNumber)
    | .relation op a b =>
      let x ← eval fuel a
      let y ← eval fuel b
      return .ofBool (op.holds (Value.compare (← conversion) x y))
    | .concat a b =>
      let x ← eval fuel a
      let y ← eval fuel b
      return .text ((← textOf x) ++ (← textOf y))
    | .fits negated a r =>
      let s ← textOf (← eval fuel a)
      let r ← regexOf fuel r
      return .ofBool (r.isIn { chars := s.toList.toArray } != negated)
    | .member index a =>
      let vs ← evalAll fuel index
      let k ← keyOf vs
      let id ← tableOf a
      onTable id fun t => t.used k false
      return .ofBool ((← tableAt id).contains k)
    | .and a b =>
      let x ← eval fuel a
      if !x.isTrue then return .ofNat 0
      let y ← eval fuel b
      return .ofBool y.isTrue
    | .or a b =>
      let x ← eval fuel a
      if x.isTrue then return .ofNat 1
      let y ← eval fuel b
      return .ofBool y.isTrue
    | .choose c a b =>
      let x ← eval fuel c
      if x.isTrue then eval fuel a else eval fuel b
    | .assign none target value =>
      let p ← placeOf fuel target
      let v ← eval fuel value
      store p v
      return v
    | .assign (some op) target value =>
      let p ← placeOf fuel target
      let y ← eval fuel value
      let x ← load p
      let v := Value.number (compute op x.toNumber y.toNumber)
      store p v
      return v
    | .step up after target =>
      let p ← placeOf fuel target
      let x := (← load p).toNumber
      let one := (Double.ofInt? (if up then 1 else -1)).getD Double.zero
      let y := x.add one
      store p (.number y)
      return .number (if after then y else x)
    | .builtin b args => known fuel b args

def evalAll : Nat → List Expr → Run (List Value)
  | 0, _ => fail "too deep"
  | _ + 1, [] => return []
  | fuel + 1, e :: rest => do
    let v ← eval fuel e
    let vs ← evalAll fuel rest
    return v :: vs

/-- The place that an expression stands for; an item that is named comes to be. -/
def placeOf : Nat → Expr → Run Place
  | 0, _ => fail "too deep"
  | fuel + 1, e => do
    match e with
    | .name n => return .name n
    | .item a index =>
      let vs ← evalAll fuel index
      let k ← keyOf vs
      let id ← tableOf a
      onTable id fun t => t.used k true
      return .item id k
    | .field i =>
      let v ← eval fuel i
      return .field (← fieldNumber v)
    | .group e => placeOf fuel e
    | _ => fail "no variable"

def regexOf : Nat → Expr → Run Regex
  | 0, _ => fail "too deep"
  | fuel + 1, e => do
    match e with
    | .pattern p => return p.regex
    | e => compiled (← textOf (← eval fuel e))

def known : Nat → Builtin → List Expr → Run Value
  | 0, _, _ => fail "too deep"
  | fuel + 1, b, args => do
    match b, args with
    | .length, [] => return .ofNat (← recordText).length
    | .length, .name n :: _ =>
      if script.arrays.contains n then return .ofNat (← tableAt (← tableOf n)).size
      else return .ofNat (← textOf (← load (.name n))).length
    | .split, text :: .name n :: more =>
      let s ← textOf (← eval fuel text)
      let sep ← match more with
        | .pattern p :: _ => pure (Separator.regex p.regex)
        | e :: _ => do separatorOf (← textOf (← eval fuel e))
        | [] => do separatorOf (← variableText "FS")
      let pieces := sep.pieces s
      setTable (← tableOf n) (.ofPieces (pieces.map Value.input))
      return .ofNat pieces.length
    | .find, text :: pattern :: _ =>
      let s ← textOf (← eval fuel text)
      let r ← regexOf fuel pattern
      let (start, length) : Nat × Int := match r.find? { chars := s.toList.toArray } with
        | some m => (m.start + 1, (m.stop - m.start : Nat))
        | none => (0, -1)
      setVariable "RSTART" (.ofNat start)
      setVariable "RLENGTH" (.ofInt length)
      return .ofNat start
    | .sub, pattern :: text :: more => replace fuel false pattern text (more.head?.getD (.field (.number Double.zero)))
    | .gsub, pattern :: text :: more => replace fuel true pattern text (more.head?.getD (.field (.number Double.zero)))
    | _, _ =>
      let vs ← evalAll fuel args
      valueOf b vs

def replace : Nat → Bool → Expr → Expr → Expr → Run Value
  | 0, _, _, _, _ => fail "too deep"
  | fuel + 1, all, pattern, text, target => do
    let r ← regexOf fuel pattern
    let by_ := (← textOf (← eval fuel text)).toList
    if !target.isPlace then
      let _ ← eval fuel target
      return .ofNat 0
    let p ← placeOf fuel target
    let s ← textOf (← load p)
    let t : Regex.Subject := { chars := s.toList.toArray }
    let (pieces, n) := substitute r by_ all t (2 * t.size + 2) 0 none [] 0
    if 0 < n then store p (.text (String.ofList pieces.reverse.flatten))
    return .ofNat n

def exec : Nat → Statement → Run Unit
  | 0, _ => fail "too deep"
  | fuel + 1, s => do
    match s with
    | .eval e =>
      let _ ← eval fuel e
    | .print args target =>
      let texts ← if args.isEmpty then do pure [← recordText]
        else do
          let vs ← evalAll fuel args
          let format ← variableText "OFMT"
          pure (vs.map (·.toText format))
      let target ← targetOf fuel target
      let line := (← variableText "OFS").intercalate texts ++ (← variableText "ORS")
      send target (Octets.ofChars line.toList)
    | .printf args target =>
      let vs ← evalAll fuel args
      let data ← layOutText "printf" vs
      let target ← targetOf fuel target
      send target data
    | .branch c yes no =>
      let v ← eval fuel c
      if v.isTrue then exec fuel yes
      else match no with
        | some no => exec fuel no
        | none => return
    | .loop c body => whileLoop fuel (some c) none body
    | .loopAfter body c =>
      if ← looped (exec fuel body) then whileLoop fuel (some c) none body
    | .count first c next body =>
      match first with
      | some e =>
        let _ ← eval fuel e
      | none => pure ()
      whileLoop fuel c next body
    | .forKeys n a body =>
      let id ← tableOf a
      let (keys, t) := (← tableAt id).visited
      setTable id t
      eachKey fuel n keys body
    | .block body => execAll fuel body
    | .next => throw .next
    | .nextFile => throw .nextFile
    | .exit code =>
      match code with
      | some e =>
        let v ← eval fuel e
        modify fun s => { s with code := ((toLong v.toNumber) % 256).toNat }
      | none => pure ()
      throw .exit
    | .stop => throw .stop
    | .again => throw .again
    | .delete a index =>
      let id ← tableOf a
      match index with
      | none => setTable id {}
      | some es =>
        let vs ← evalAll fuel es
        let k ← keyOf vs
        onTable id fun t => t.erase k

def targetOf : Nat → Option (Bool × Expr) → Run (Option (Bool × String))
  | 0, _ => fail "too deep"
  | _ + 1, none => return none
  | fuel + 1, some (append, e) => do
    let v ← eval fuel e
    return some (append, ← textOf v)

def execAll : Nat → List Statement → Run Unit
  | 0, _ => fail "too deep"
  | _ + 1, [] => return
  | fuel + 1, s :: rest => do
    exec fuel s
    execAll fuel rest

def whileLoop : Nat → Option Expr → Option Expr → Statement → Run Unit
  | 0, _, _, _ => fail "too long"
  | fuel + 1, c, next, body => do
    let go ← match c with
      | some c => do pure (← eval fuel c).isTrue
      | none => pure true
    if go then
      if ← looped (exec fuel body) then
        match next with
        | some e =>
          let _ ← eval fuel e
        | none => pure ()
        whileLoop fuel c next body

def eachKey : Nat → String → List String → Statement → Run Unit
  | 0, _, _, _ => fail "too long"
  | _ + 1, _, [], _ => return
  | fuel + 1, n, k :: rest, body => do
    store (.name n) (.text k)
    if ← looped (exec fuel body) then eachKey fuel n rest body

end

/-- Whether a rule applies to the record; `i` is its number. -/
def applies (i : Nat) (t : Trigger) : Run Bool := do
  match t with
  | .always => return true
  | .when e => return (← eval script rounds e).isTrue
  | .range first last =>
    let begun := (← get).ranges.contains i
    let begins ← if begun then pure true else do pure (← eval script rounds first).isTrue
    if !begins then return false
    let ends ← do pure (← eval script rounds last).isTrue
    modify fun s =>
      { s with ranges := if ends then s.ranges.filter (· != i) else if begun then s.ranges else i :: s.ranges }
    return true
  | _ => return false

def perform (r : Rule) : Run Unit := do
  match r.action with
  | some a => exec script rounds a
  | none => emit (Octets.ofChars ((← recordText) ++ (← variableText "ORS")).toList)

def ruleAll : List (Rule × Nat) → Run Unit
  | [] => return
  | (r, i) :: rest => do
    if ← applies script i r.trigger then perform script r
    ruleAll rest

def recordAll (rules : List (Rule × Nat)) : Nat → Run Unit
  | 0 => return
  | fuel + 1 => do
    match ← nextMain rounds with
    | none => return
    | some text =>
      setRecord text
      tryCatch (ruleAll script rules) fun h => match h with
        | .next => pure ()
        | .nextFile => modify fun s => { s with source := none }
        | h => throw h
      recordAll rules fuel

def edgeAll : List Rule → Run Unit
  | [] => return
  | r :: rest => do
    perform script r
    edgeAll rest

def starts : List Rule := script.rules.filter fun r => match r.trigger with
  | .start => true
  | _ => false

def finishes : List Rule := script.rules.filter fun r => match r.trigger with
  | .finish => true
  | _ => false

def mains : List Rule := script.rules.filter fun r => match r.trigger with
  | .start => false
  | .finish => false
  | _ => true

def whole : Run Unit := do
  tryCatch (do
      edgeAll script (starts script)
      if !(mains script).isEmpty || !(finishes script).isEmpty then
        recordAll script (mains script).zipIdx rounds)
    fun h => match h with
      | .exit => pure ()
      | h => throw h
  edgeAll script (finishes script)

def finished (program : Run Unit) : StateT State Work Nat := do
  let result ← program.run
  match result with
  | .error (.failure text) =>
    let _ ← (ask (complain ("awk: " ++ text))).run
    modify fun s => { s with code := 2 }
  | _ => pure ()
  let _ ← flush.run
  return (← get).code

end JobMatrix.Program.Awk
