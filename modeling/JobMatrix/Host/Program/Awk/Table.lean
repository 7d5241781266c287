import JobMatrix.Host.Program.Awk.Value
import Std.Data.HashMap

/-! Arrays, whose keys are texts. The order in which keys are visited is that of a table with lists of
texts and lists of integers, each list headed by the key that was used last. -/

namespace JobMatrix.Program.Awk

def hashOf (s : String) : Nat :=
  (Octets.ofChars s.toList).foldl (fun h b => (h * 16777619 % 2 ^ 32) ^^^ b.toNat) 2166136261

structure Table where
  values : Std.HashMap String Value := {}
  /-- Keys that were used as integers. -/
  integers : Array (List Int) := #[]
  /-- Keys by their texts; without them no key has been used as a text. -/
  texts : Option (Array (List String)) := none
  /-- The number of values that came from a text that was split, as long as they stand in a row. -/
  row : Bool := false
deriving Inhabited

namespace Table

def size (t : Table) : Nat := t.values.size

def startLists : Nat := 64

def mostForList : Nat := 12

def listsOf (t : Table) : Nat :=
  match t.texts with
  | some lists => if t.integers.isEmpty then lists.size else t.integers.size
  | none => if t.integers.isEmpty then startLists else t.integers.size

def slot (n : Nat) (k : Int) : Nat := (k % n).toNat

def atFront {α : Type} [BEq α] (k : α) (l : List α) : List α := k :: l.filter (· != k)

def moved {α : Type} [BEq α] (lists : Array (List α)) (i : Nat) (k : α) : Array (List α) :=
  lists.modify i (atFront k)

def dropped {α : Type} [BEq α] (lists : Array (List α)) (i : Nat) (k : α) : Array (List α) :=
  lists.modify i (·.filter (· != k))

def doubled {α : Type} (slotOf : Nat → α → Nat) (lists : Array (List α)) : Array (List α) :=
  let n := lists.size
  let low := lists.mapIdx fun i l => l.filter fun k => slotOf (2 * n) k == i
  let high := lists.mapIdx fun i l => l.filter fun k => slotOf (2 * n) k == i + n
  low ++ high

def emptyLists {α : Type} (n : Nat) : Array (List α) := Array.replicate n []

def grown (t : Table) : Table :=
  let n := t.listsOf
  if t.size + 1 ≤ n * mostForList then t
  else
    { t with
      integers := if t.integers.isEmpty then #[] else doubled slot t.integers
      texts := t.texts.map (doubled (fun n s => hashOf s % n)) }

def rowLists : Nat → Nat → Nat → Nat
  | 0, _, lists => lists
  | fuel + 1, n, lists => if n ≤ lists * mostForList then lists else rowLists fuel n (2 * lists)

def ranked (t : Table) : Table :=
  if !t.row then t
  else
    let n := t.size
    let lists := rowLists 64 n startLists
    let keys := (List.range n).map fun i => ((i + 1 : Nat) : Int)
    { t with
      row := false
      integers := keys.foldl (fun ls k => ls.modify (slot lists k) (k :: ·)) (emptyLists lists) }

def withTexts (t : Table) : Table :=
  let t := t.ranked
  match t.texts with
  | some _ => t
  | none =>
    let n := t.listsOf
    let keys := t.integers.toList.flatten.map toString
    { t with
      texts := some (keys.foldl (fun ls k => ls.modify (hashOf k % n) (k :: ·)) (emptyLists n)) }

/-- Puts the list of a text in order after the text was used; a new key gets a place. -/
def useText (t : Table) (s : String) (creates : Bool) : Table :=
  let t := t.withTexts
  if t.values.contains s then
    let n := t.listsOf
    { t with texts := t.texts.map (moved · (hashOf s % n) s) }
  else if creates then
    let t := t.grown
    let n := t.listsOf
    { t with
      texts := t.texts.map fun ls => ls.modify (hashOf s % n) (s :: ·)
      values := t.values.insert s .unset }
  else t

/-- Puts the lists in order after an integer was used; a new key gets a place. -/
def useInteger (t : Table) (k : Int) (creates : Bool) : Table :=
  let s := toString k
  if t.row && t.values.contains s then t
  else if t.row && !creates then t
  else
    let t := t.ranked
    let n := t.listsOf
    let t := if t.integers.isEmpty then { t with integers := emptyLists n } else t
    if ((t.integers[slot n k]?).getD []).contains k then
      { t with integers := moved t.integers (slot n k) k }
    else if t.texts.isSome then
      let known := t.values.contains s
      let t := t.useText s creates
      if known || creates then
        { t with integers := t.integers.modify (slot t.listsOf k) (k :: ·) }
      else t
    else if creates then
      let t := t.grown
      { t with
        integers := t.integers.modify (slot t.listsOf k) (k :: ·)
        values := t.values.insert s .unset }
    else t

inductive Key where
  | integer (k : Int)
  | text (s : String)

def keyOf (format : String) (v : Value) : Key :=
  match v with
  | .number x =>
    match x.toInt? with
    | some k => if k.natAbs < 2 ^ 31 then .integer k else .text (v.toText format)
    | none => .text (v.toText format)
  | v => .text (v.toText format)

def Key.name : Key → String
  | integer k => toString k
  | text s => s

def used (t : Table) (k : Key) (creates : Bool) : Table :=
  match k with
  | .integer k => t.useInteger k creates
  | .text s => t.useText s creates

def contains (t : Table) (k : Key) : Bool := t.values.contains k.name

def get (t : Table) (k : Key) : Value := t.values.getD k.name .unset

def set (t : Table) (k : Key) (v : Value) : Table :=
  { t with values := t.values.insert k.name v }

def erase (t : Table) (k : Key) : Table :=
  if !t.contains k then t.used k false
  else
    let t := (t.ranked).used k false
    let n := t.listsOf
    let s := k.name
    let values := t.values.erase s
    if values.isEmpty then {}
    else
      { t with
        values
        texts := t.texts.map fun ls => dropped ls (hashOf s % n) s
        integers := match s.toInt? with
          | some k => if t.integers.isEmpty then #[] else dropped t.integers (slot n k) k
          | none => t.integers }

def ofPieces (pieces : List Value) : Table :=
  if pieces.isEmpty then {}
  else
    { row := true
      values := (pieces.zipIdx).foldl (fun m (v, i) => m.insert (toString (i + 1)) v) {} }

def visited (t : Table) : List String × Table :=
  if t.values.isEmpty then ([], t)
  else
    let t := t.withTexts
    ((t.texts.getD #[]).toList.flatten, t)

end Table

end JobMatrix.Program.Awk
