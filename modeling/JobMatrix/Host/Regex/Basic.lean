import JobMatrix.Text.CharClass

/-! Regular expressions over characters, and where they match. An expression leads from positions of a
text to positions; a match starts as far left as one can, and ends as far right as one can from
there. Groups are set along the first way through the expression that ends so: repetitions go on as
long as they can, and alternatives are tried in their order. -/

namespace JobMatrix

namespace Regex

inductive Edge where
  | lineStart
  | lineEnd
  | textStart
  | textEnd
  | wordStart
  | wordEnd
  | wordEdge
  | noWordEdge
deriving DecidableEq, Repr, Inhabited

structure Members where
  negated : Bool := false
  ranges : List (Char × Char)
deriving DecidableEq, Repr, Inhabited

structure Subject where
  chars : Array Char
  ignoresCase : Bool := false
  /-- Whether lines within the text have edges. -/
  inLines : Bool := false

namespace Subject

def size (t : Subject) : Nat := t.chars.size

def isMember (t : Subject) (s : Members) (c : Char) : Bool :=
  let within (c : Char) : Bool := s.ranges.any fun r => r.1 ≤ c && c ≤ r.2
  (within c || (t.ignoresCase && (within c.toLower || within c.toUpper))) != s.negated

def fits (t : Subject) (s : Members) (i : Nat) : Bool :=
  match t.chars[i]? with
  | some c => t.isMember s c
  | none => false

def isWordAt (t : Subject) (i : Nat) : Bool :=
  match t.chars[i]? with
  | some c => c.isAlphanum || c == '_'
  | none => false

def isEdge (t : Subject) (e : Edge) (i : Nat) : Bool :=
  let before := i != 0 && t.isWordAt (i - 1)
  let after := t.isWordAt i
  match e with
  | .lineStart => i == 0 || (t.inLines && t.chars[i - 1]? == some '\n')
  | .lineEnd => i == t.size || (t.inLines && t.chars[i]? == some '\n')
  | .textStart => i == 0
  | .textEnd => i == t.size
  | .wordStart => !before && after
  | .wordEnd => before && !after
  | .wordEdge => before != after
  | .noWordEdge => before == after

end Subject

def union : List Nat → List Nat → List Nat
  | [], ys => ys
  | xs, [] => xs
  | x :: xs, y :: ys =>
    if x < y then x :: union xs (y :: ys)
    else if y < x then y :: union (x :: xs) ys
    else x :: union xs ys
termination_by xs ys => xs.length + ys.length

def without : List Nat → List Nat → List Nat
  | [], _ => []
  | xs, [] => xs
  | x :: xs, y :: ys =>
    if x < y then x :: without xs (y :: ys)
    else if y < x then without (x :: xs) ys
    else without xs ys
termination_by xs ys => xs.length + ys.length

def times (step : List Nat → List Nat) : Nat → List Nat → List Nat
  | 0, ps => ps
  | n + 1, ps => if ps.isEmpty then [] else times step n (step ps)

/-- What at most so many steps lead to; `latest` are the positions that were reached last. -/
def upTo (step : List Nat → List Nat) : Nat → List Nat → List Nat → List Nat
  | 0, seen, _ => seen
  | n + 1, seen, latest =>
    let new := without (step latest) seen
    if new.isEmpty then seen else upTo step n (union seen new) new

/-- The positions to which characters of a set lead, from `i` on; `on` says whether one has led
there, and `starts` are those of the starts that lie ahead. -/
def run (t : Subject) (s : Members) : Nat → Nat → Bool → List Nat → List Nat
  | 0, _, _, starts => starts
  | fuel + 1, i, on, starts =>
    let here := on || starts.head? == some i
    let starts := if starts.head? == some i then starts.drop 1 else starts
    if !here then
      match starts with
      | [] => []
      | j :: _ => run t s fuel j false starts
    else i :: run t s fuel (i + 1) (t.fits s i) starts

end Regex

open Regex

inductive Regex where
  | empty
  | one (s : Members)
  | seq (a b : Regex)
  | alt (a b : Regex)
  | loop (r : Regex) (least : Nat) (most : Option Nat)
  | group (n : Nat) (r : Regex)
  /-- The text of a group once more. -/
  | back (n : Nat)
  | edge (e : Edge)
deriving Repr, Inhabited

namespace Regex

def char (c : Char) : Regex := .one { ranges := [(c, c)] }

def ends (t : Subject) : Regex → List Nat → List Nat
  | .empty, ps => ps
  | .one s, ps => (ps.filter (t.fits s)).map (· + 1)
  | .seq a b, ps => if ps.isEmpty then [] else ends t b (ends t a ps)
  | .alt a b, ps => union (ends t a ps) (ends t b ps)
  | .loop r least most, ps =>
    let start := times (ends t r) least ps
    match most with
    | some n => upTo (ends t r) (n - least) start start
    | none =>
      match r with
      | .one s =>
        match start with
        | [] => []
        | i :: _ => run t s (2 * t.size + 2) i false start
      | r => upTo (ends t r) (t.size + 1) start start
  | .group _ r, ps => ends t r ps
  | .back _, ps => ps
  | .edge e, ps => ps.filter (t.isEdge e)

abbrev Groups := List (Nat × Nat × Nat)

def Groups.put (gs : Groups) (n start stop : Nat) : Groups :=
  (n, start, stop) :: gs.filter (·.1 != n)

def Groups.get? (gs : Groups) (n : Nat) : Option (Nat × Nat) := gs.lookup n

/-- The first way through an expression without references from a position to one that is good, and
the groups along it; there is one. -/
def way (t : Subject) : Regex → Nat → Groups → (Nat → Bool) → Nat × Groups
  | .empty, i, gs, _ => (i, gs)
  | .one _, i, gs, _ => (i + 1, gs)
  | .edge _, i, gs, _ => (i, gs)
  | .back _, i, gs, _ => (i, gs)
  | .group n r, i, gs, good =>
    let (j, gs) := way t r i gs good
    (j, gs.put n i j)
  | .seq a b, i, gs, good =>
    let (m, gs) := way t a i gs fun m => (ends t b [m]).any good
    way t b m gs good
  | .alt a b, i, gs, good =>
    if (ends t a [i]).any good then way t a i gs good else way t b i gs good
  | .loop r least most, i, gs, good =>
    let rec rounds : Nat → Nat → Nat → Option Nat → Groups → Nat × Groups
      | 0, i, _, _, gs => (i, gs)
      | fuel + 1, i, least, most, gs =>
        let rest : Regex := .loop r (least - 1) (most.map (· - 1))
        let goesOn (m : Nat) : Bool := (m != i || 0 < least) && (ends t rest [m]).any good
        if most != some 0 && (ends t r [i]).any goesOn then
          let (m, gs) := way t r i gs goesOn
          rounds fuel m (least - 1) (most.map (· - 1)) gs
        else (i, gs)
    termination_by fuel => (sizeOf r, fuel)
    rounds (t.size + least + 1) i least most gs
termination_by r => (sizeOf r, 0)

def hasBack : Regex → Bool
  | .back _ => true
  | .seq a b => hasBack a || hasBack b
  | .alt a b => hasBack a || hasBack b
  | .loop r _ _ => hasBack r
  | .group _ r => hasBack r
  | _ => false

def hasGroup : Regex → Bool
  | .group _ _ => true
  | .seq a b => hasGroup a || hasGroup b
  | .alt a b => hasGroup a || hasGroup b
  | .loop r _ _ => hasGroup r
  | _ => false

def sameText (t : Subject) (i j n : Nat) : Bool :=
  (List.range n).all fun k =>
    match t.chars[i + k]?, t.chars[j + k]? with
    | some c, some d => c == d || (t.ignoresCase && c.toLower == d.toLower)
    | _, _ => false

def ways (t : Subject) : Regex → Nat → Groups → List (Nat × Groups)
  | .empty, i, gs => [(i, gs)]
  | .one s, i, gs => if t.fits s i then [(i + 1, gs)] else []
  | .edge e, i, gs => if t.isEdge e i then [(i, gs)] else []
  | .back n, i, gs =>
    match gs.get? n with
    | none => []
    | some (start, stop) =>
      if sameText t start i (stop - start) then [(i + (stop - start), gs)] else []
  | .group n r, i, gs => (ways t r i gs).map fun w => (w.1, w.2.put n i w.1)
  | .seq a b, i, gs => (ways t a i gs).flatMap fun w => ways t b w.1 w.2
  | .alt a b, i, gs => ways t a i gs ++ ways t b i gs
  | .loop r least most, i, gs =>
    let rec rounds : Nat → Nat → Nat → Option Nat → Groups → List (Nat × Groups)
      | 0, i, _, _, gs => [(i, gs)]
      | fuel + 1, i, least, most, gs =>
        let more := if most == some 0 then []
          else (ways t r i gs).flatMap fun w =>
            if w.1 == i && least == 0 then []
            else rounds fuel w.1 (least - 1) (most.map (· - 1)) w.2
        if least == 0 then more ++ [(i, gs)] else more
    termination_by fuel => (sizeOf r, fuel)
    rounds (t.size + least + 1) i least most gs
termination_by r => (sizeOf r, 0)

structure Match where
  start : Nat
  stop : Nat
  groups : Groups := []
deriving Repr, Inhabited

/-- The least number in a range at which something holds that holds from there on; `high` if nowhere
before. -/
def leastFrom (holds : Nat → Bool) : Nat → Nat → Nat → Nat
  | 0, _, high => high
  | fuel + 1, low, high =>
    if high ≤ low then high
    else
      let middle := (low + high) / 2
      if holds middle then leastFrom holds fuel low middle else leastFrom holds fuel (middle + 1) high

def positions (low high : Nat) : List Nat := (List.range (high + 1 - low)).map (· + low)

def longest? : List (Nat × Groups) → Option (Nat × Groups)
  | [] => none
  | w :: rest =>
    match longest? rest with
    | some v => some (if w.1 < v.1 then v else w)
    | none => some w

/-- The match of an expression with references that starts first, from `start` on. -/
def findWay? (r : Regex) (t : Subject) : Nat → Nat → Option Match
  | 0, _ => none
  | fuel + 1, start =>
    if t.size < start then none
    else match longest? (ways t r start []) with
      | some (stop, groups) => some { start, stop, groups }
      | none => findWay? r t fuel (start + 1)

def isIn (r : Regex) (t : Subject) (start : Nat := 0) : Bool :=
  if r.hasBack then (r.findWay? t (t.size + 1) start).isSome
  else start ≤ t.size && !(r.ends t (positions start t.size)).isEmpty

/-- The match that starts first, from `start` on, and ends last. -/
def find? (r : Regex) (t : Subject) (start : Nat := 0) : Option Match :=
  if r.hasBack then r.findWay? t (t.size + 1) start
  else if !r.isIn t start then none
  else
    let holds (high : Nat) : Bool := !(r.ends t (positions start high)).isEmpty
    let first := leastFrom holds (t.size + 1) start t.size
    let stop := ((r.ends t [first]).getLast?).getD first
    let groups := if r.hasGroup then (r.way t first [] (· == stop)).2 else []
    some { start := first, stop, groups }

def at? (r : Regex) (t : Subject) (start : Nat) : Option Match :=
  if r.hasBack then (longest? (ways t r start [])).map fun w => { start, stop := w.1, groups := w.2 }
  else match (r.ends t [start]).getLast? with
    | none => none
    | some stop =>
      some { start, stop, groups := if r.hasGroup then (r.way t start [] (· == stop)).2 else [] }

end Regex

end JobMatrix
