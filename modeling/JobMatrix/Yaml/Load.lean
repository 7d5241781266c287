import JobMatrix.Yaml.Node

/-! The value of a YAML document. -/

namespace JobMatrix.Yaml

abbrev Built := Except LoadError

namespace Built

private def refuse {α : Type} (p : Problem) : Built α := .error (.problem p)

private def fail {α : Type} (f : Fault) : Built α := .error (.fault f)

end Built

open Built

def readBase (base : Nat) (s : String) : Option Int :=
  let (negative, digits) := Number.signed (Number.trimmed s)
  let digits := match base, digits with
    | 2, '0' :: c :: r => if c = 'b' ∨ c = 'B' then r else '0' :: c :: r
    | 8, '0' :: c :: r => if c = 'o' ∨ c = 'O' then r else '0' :: c :: r
    | 16, '0' :: c :: r => if c = 'x' ∨ c = 'X' then r else '0' :: c :: r
    | _, r => r
  let value (c : Char) : Option Nat := (Json.hexValue? c).filter (· < base)
  if digits.isEmpty || !digits.all fun c => (value c).isSome then none
  else
    let n : Int := (digits.foldl (fun n c => base * n + (value c).getD 0) 0 : Nat)
    some (if negative then -n else n)

/-- An integer to a base; only decimal digits are limited in number. -/
def intOf (base : Nat) (s : String) : Built Int :=
  let count := (s.toList.filter Char.isDigit).length
  if base = 10 && Scalar.digitLimit < count then fail (.tooManyDigits count)
  else
    match readBase base s with
    | some n => .ok n
    | none => fail (.notInteger base s)

def sexagesimal (parts : List (List Char)) : Built Int := do
  let ns ← parts.mapM fun p => intOf 10 (String.ofList p)
  return ns.foldl (fun acc n => 60 * acc + n) 0

def magnitude (body : List Char) : Built Int :=
  match body with
  | [] => fail .emptyText
  | ['0'] => .ok 0
  | '0' :: 'b' :: r => intOf 2 (String.ofList r)
  | '0' :: 'x' :: r => intOf 16 (String.ofList r)
  | '0' :: _ => intOf 8 (String.ofList body)
  | _ =>
    if body.contains ':' then sexagesimal (colonParts body)
    else intOf 10 (String.ofList body)

def intValue (text : String) : Built Scalar :=
  let cs := text.toList.filter (· != '_')
  (magnitude (unsigned cs)).map fun n => .int (if cs.head? = some '-' then -n else n)

def floatOf (s : List Char) : Built Double :=
  match Number.readDouble? (String.ofList s) with
  | some x => .ok x
  | none => fail (.notNumber (String.ofList s))

/-- The sum of digits to the base sixty, added from the last to the first, each product and each sum
rounded. -/
def sexagesimalSum : Double → Nat → List Double → Built Double
  | acc, _, [] => .ok acc
  | acc, base, d :: rest =>
    match Double.ofInt? base with
    | none => fail .numberTooLarge
    | some b => sexagesimalSum (acc.add (d.mul b)) (base * 60) rest

def floatMagnitude (body : List Char) : Built Double :=
  if body = ".inf".toList then .ok (.infinite false)
  else if body = ".nan".toList then .ok .undefined
  else if body.contains ':' then
    ((colonParts body).mapM floatOf).bind fun ds => sexagesimalSum .zero 1 ds.reverse
  else floatOf body

def floatValue (text : String) : Built Scalar :=
  let cs := (text.toList.filter (· != '_')).map Char.toLower
  if cs.isEmpty then fail .emptyText
  else
    (floatMagnitude (unsigned cs)).map fun x =>
      .float (if cs.head? = some '-' then x.neg else x)

def boolValue (text : String) : Built Scalar :=
  let word := String.ofList (text.toList.map Char.toLower)
  match Dict.get? truthWords word with
  | some b => .ok (.bool b)
  | none => fail (.unknownKey word)

def checkDate (s : Stamp) : Built Date :=
  if s.year = 0 then fail (.badDate (.year s.year))
  else if s.month = 0 ∨ 12 < s.month then fail (.badDate .month)
  else if s.day = 0 ∨ Date.daysIn s.year s.month < s.day then fail (.badDate .day)
  else .ok ⟨s.year, s.month, s.day⟩

def microseconds (fraction : List Char) : Nat :=
  let ds := fraction.take 6
  Number.natOfDigits (ds ++ List.replicate (6 - ds.length) '0')

def zoneOffset (zone : Option (Bool × Nat × Nat)) : Built Int :=
  match zone with
  | none => .ok 0
  | some (negative, hours, minutes) =>
    let n : Int := hours * 60 + minutes
    let offset := if negative then -n else n
    if offset.natAbs < 1440 then .ok offset else fail (.badDate (.offset offset))

def checkTime (hour minute second : Nat) : Built Unit :=
  if 23 < hour then fail (.badDate .hour)
  else if 59 < minute then fail (.badDate .minute)
  else if 59 < second then fail (.badDate .second)
  else .ok ()

def stampValue (text : String) : Built Scalar := do
  match stamp? (withoutBreak text).toList with
  | none => fail .noAttribute
  | some s =>
    match s.time with
    | none => return .date (← checkDate s)
    | some (hour, minute, second) =>
      let offset ← s.zone.mapM (zoneOffset)
      let date ← checkDate s
      checkTime hour minute second
      return .moment ⟨date, hour, minute, second, microseconds s.fraction, offset⟩

def base64Value? (c : Char) : Option Nat :=
  if 'A' ≤ c ∧ c ≤ 'Z' then some (c.toNat - 65)
  else if 'a' ≤ c ∧ c ≤ 'z' then some (c.toNat - 71)
  else if c.isDigit then some (c.toNat + 4)
  else if c = '+' then some 62
  else if c = '/' then some 63
  else none

/-- The bytes of a text in base 64. Other characters are passed over; the last group must be full or
be filled up with equals signs. `group` holds the values of the open group and `pads` the equals
signs in it. -/
def base64 : List Nat → Nat → List Char → Option (List UInt8)
  | group, _, [] => if group.isEmpty then some [] else none
  | group, pads, c :: rest =>
    if c = '=' then
      if 2 ≤ group.length ∧ 4 ≤ group.length + pads + 1 then
        match group with
        | [a, b] => some [UInt8.ofNat (a * 4 + b / 16)]
        | [a, b, d] => some [UInt8.ofNat (a * 4 + b / 16), UInt8.ofNat (b % 16 * 16 + d / 4)]
        | _ => none
      else base64 group (if 2 ≤ group.length then pads + 1 else pads) rest
    else
      match base64Value? c, group with
      | none, _ => base64 group pads rest
      | some e, [a, b, d] =>
        (base64 [] 0 rest).map
          ([UInt8.ofNat (a * 4 + b / 16), UInt8.ofNat (b % 16 * 16 + d / 4),
            UInt8.ofNat (d % 4 * 64 + e)] ++ ·)
      | some e, group => base64 (group ++ [e]) 0 rest

def binaryValue (text : String) : Built Scalar :=
  if text.toList.all fun c => c.toNat < 0x80 then
    match base64 [] 0 text.toList with
    | some data => .ok (.bytes data)
    | none => Built.refuse .badBinary
  else Built.refuse .badBinary

def scalarValue (tag : Tag) (points : List Nat) : Built Scalar :=
  let text := String.ofList (Text.mended points)
  match tag with
  | .null => .ok .null
  | .bool => boolValue text
  | .int => intValue text
  | .float => floatValue text
  | .binary => binaryValue text
  | .timestamp => stampValue text
  | .other name => Built.refuse (.unknownTag name)
  | .merge => Built.refuse (.unknownTag (standardLead ++ "merge"))
  | .value => Built.refuse (.unknownTag (standardLead ++ "value"))
  | _ => .ok (.ofPoints points)

/-- What a node has become. Parts are given by the numbers of their nodes. -/
inductive Object where
  | scalar (s : Scalar)
  | list (items : List Nat)
  | pairs (items : List (Nat × Nat))
  | map (entries : List (Scalar × Nat))
  | set (items : List Scalar)
deriving Inhabited

namespace Object

def parts : Object → List Nat
  | scalar _ => []
  | list items => items
  | pairs items => items.flatMap fun p => [p.1, p.2]
  | map entries => entries.map (·.2)
  | set _ => []

/-- Whether it matters if an object stands in several places or equal ones do. -/
def hasIdentity : Object → Bool
  | scalar (.date _) => true
  | scalar (.moment _) => true
  | scalar _ => false
  | _ => true

end Object

/-- The nodes, what they have become so far, and the collections that are yet to be filled. -/
structure Loader where
  nodes : Nodes
  objects : Array (Option Object)
  waiting : List Nat := []

abbrev Load := StateT Loader Built

namespace Load

def refuse {α : Type} (p : Problem) : Load α := throw (.problem p)

def nodeAt (n : Nat) : Load Node := do return (← get).nodes.getD n default

def setNode (n : Nat) (node : Node) : Load Unit :=
  modify fun s => { s with nodes := s.nodes.set! n node }

def setObject (n : Nat) (o : Object) : Load Unit :=
  modify fun s => { s with objects := s.objects.set! n (some o) }

/-- The text of a node that stands for a scalar. A mapping does so through the key of a lone equals
sign; `fuel` bounds how often. -/
def scalarText : Nat → Nat → Load (List Nat)
  | 0, _ => throw (.fault .tooDeep)
  | fuel + 1, n => do
    match (← nodeAt n).content with
    | .scalar text => return text
    | .sequence _ => refuse .unexpectedKind
    | .mapping entries =>
      let nodes := (← get).nodes
      match entries.find? fun e => (nodes.getD e.1 default).tag = .value with
      | some e => scalarText fuel e.2
      | none => refuse .unexpectedKind

def make (n : Nat) : Load Unit := do
  if ((← get).objects.getD n none).isSome then return
  let later (o : Object) : Load Unit := do
    setObject n o
    modify fun s => { s with waiting := s.waiting ++ [n] }
  match (← nodeAt n).tag with
  | .mapping => later (.map [])
  | .set => later (.set [])
  | .sequence => later (.list [])
  | .omap => later (.pairs [])
  | .pairs => later (.pairs [])
  | .other name => refuse (.unknownTag name)
  | tag =>
    let text ← scalarText ((← get).nodes.size + 1) n
    setObject n (.scalar (← scalarValue tag text))

def keyOf (n : Nat) : Load Scalar := do
  make n
  match (← get).objects.getD n none with
  | some (.scalar s) => return s
  | _ => refuse .unhashableKey

/-- Divides entries into those before the first merge key, the value of this key, and the rest. -/
def splitMerge (nodes : Nodes) :
    List (Nat × Nat) → List (Nat × Nat) × Option (Nat × List (Nat × Nat))
  | [] => ([], none)
  | e :: rest =>
    if (nodes.getD e.1 default).tag = .merge then ([], some (e.2, rest))
    else
      let (before, found) := splitMerge nodes rest
      (e :: before, found)

mutual

/-- Puts the entries that merge keys bring in before the other entries of a mapping, and makes the
key of a lone equals sign a text. `fuel` bounds the merge keys. -/
def flatten : Nat → Nat → Load (List (Nat × Nat))
  | 0, _ => throw (.fault .tooDeep)
  | fuel + 1, n => do
    let merged ← mergesOf fuel n (← get).nodes.size []
    let node ← nodeAt n
    match node.content with
    | .mapping entries =>
      for e in entries do
        let key ← nodeAt e.1
        if key.tag = .value then setNode e.1 { key with tag := .text }
      setNode n { node with content := .mapping (merged ++ entries) }
      return merged ++ entries
    | _ => return merged

/-- Takes the merge keys out of a mapping one after another, and gives the entries that they bring
in; `bound` bounds their number. -/
def mergesOf : Nat → Nat → Nat → List (Nat × Nat) → Load (List (Nat × Nat))
  | 0, _, _, merged => return merged
  | _, _, 0, merged => return merged
  | fuel + 1, n, bound + 1, merged => do
    let node ← nodeAt n
    match node.content with
    | .mapping entries =>
      match splitMerge (← get).nodes entries with
      | (_, none) => return merged
      | (before, some (source, rest)) =>
        setNode n { node with content := .mapping (before ++ rest) }
        let found ← match (← nodeAt source).content with
          | .mapping _ => flatten fuel source
          | .sequence items => flattenAll fuel items
          | .scalar _ => refuse .badMerge
        mergesOf fuel n bound (merged ++ found)
    | _ => return merged

def flattenAll : Nat → List Nat → Load (List (Nat × Nat))
  | 0, _ => throw (.fault .tooDeep)
  | _, [] => return []
  | fuel + 1, n :: rest => do
    match (← nodeAt n).content with
    | .mapping _ =>
      let first ← flatten fuel n
      return (← flattenAll fuel rest) ++ first
    | _ => refuse .badMerge

end

/-- The entries of a mapping. A later entry replaces the value of an earlier one with its key. -/
def entriesOf (n : Nat) : Load (List (Scalar × Nat)) := do
  match (← nodeAt n).content with
  | .mapping _ =>
    let nodes := (← get).nodes
    let weight := nodes.foldl (fun k node => match node.content with
      | .mapping es => k + es.length + 1
      | .sequence items => k + items.length + 1
      | .scalar _ => k + 1) 2
    let entries ← flatten weight n
    entries.foldlM (fun found e => do
      let key ← keyOf e.1
      make e.2
      return Dict.put found key e.2) []
  | _ => refuse .unexpectedKind

def fill (n : Nat) : Load Unit := do
  let node ← nodeAt n
  match node.tag, node.content with
  | .mapping, _ => setObject n (.map (← entriesOf n))
  | .set, _ => setObject n (.set (Dict.keys (← entriesOf n)))
  | .sequence, .sequence items =>
    items.forM make
    setObject n (.list items)
  | .omap, .sequence items => pairsOf items
  | .pairs, .sequence items => pairsOf items
  | _, _ => refuse .unexpectedKind
where
  pairsOf (items : List Nat) : Load Unit := do
    let pairs ← items.mapM fun item => do
      match (← nodeAt item).content with
      | .mapping [(k, v)] =>
        make k
        make v
        return (k, v)
      | _ => refuse .unexpectedKind
    setObject n (.pairs pairs)

/-- Fills the collections that wait, those that they bring up last; `fuel` bounds their number. -/
def fillAll : Nat → Load Unit
  | 0 => return ()
  | fuel + 1 => do
    match (← get).waiting with
    | [] => return ()
    | n :: rest =>
      modify fun s => { s with waiting := rest }
      fill n
      fillAll fuel

end Load

/-- The value of an object inside the objects `around`. Objects that stand in several places, of
which `uses` gives the number, are labelled. -/
def unfold (objects : Array (Option Object)) (uses : Array Nat) :
    Nat → List Nat → Nat → Value
  | 0, _, n => .again n
  | fuel + 1, around, n =>
    if around.contains n then .again n
    else
      let o := (objects.getD n none).getD default
      let isShared := o.hasIdentity && 1 < uses.getD n 0
      let part := unfold objects uses fuel (if isShared then n :: around else around)
      let body : Value := match o with
        | .scalar s => .scalar s
        | .list items => .list (items.map part)
        | .pairs items => .list (items.map fun p => .tuple [part p.1, part p.2])
        | .map entries => .map (entries.map fun e => (e.1, part e.2))
        | .set items => .set items
      if isShared then .shared n body else body

def load (text : String) : Except LoadError Value := do
  match ← Nodes.read text with
  | none => return .null
  | some (nodes, root) =>
    let start : Loader := { nodes, objects := Array.replicate nodes.size none }
    let work : Load Unit := do
      Load.make root
      Load.fillAll (nodes.size + 1)
    let (_, done) ← work.run start
    let uses := done.objects.foldl (fun uses o =>
      ((o.map Object.parts).getD []).foldl (fun uses n => uses.modify n (· + 1)) uses)
      ((Array.replicate nodes.size 0).modify root (· + 1))
    return unfold done.objects uses (nodes.size + 1) [] root

end JobMatrix.Yaml
