import JobMatrix.Host.Program.Files
import JobMatrix.Text.CharClass

/-! The program that translates, squeezes and deletes bytes. -/

namespace JobMatrix.Program

namespace Tr

inductive Part where
  | bytes (bs : List UInt8)
  | cls (name : String)
  /-- A byte so many times; as often as needed if the number is zero. -/
  | fill (b : UInt8) (n : Nat)
deriving DecidableEq, Repr

inductive Problem where
  | reversed (text : String)
  | unknownClass (name : String)
  | equivalence (text : String)
  | fillFirst
  | fillTwice
  | classSecond
  | misaligned
  | emptySecond
  | manyToOne

def Problem.text (mark : String → String) : Problem → String
  | reversed s => "range-endpoints of " ++ mark s ++ " are in reverse collating sequence order"
  | unknownClass s => "invalid character class " ++ mark s
  | equivalence s => s ++ ": equivalence class operand must be a single character"
  | fillFirst => "the [c*] repeat construct may not appear in string1"
  | fillTwice => "only one [c*] repeat construct may appear in string2"
  | classSecond =>
    "when translating, the only character classes that may appear in\nstring2 are 'upper' and 'lower'"
  | misaligned => "misaligned [:upper:] and/or [:lower:] construct"
  | emptySecond => "when not truncating set1, string2 must be non-empty"
  | manyToOne => "when translating with complemented character classes,\n" ++
      "string2 must map all characters in the domain to one"

def isOctal (b : UInt8) : Bool := 48 ≤ b && b ≤ 55

def escape (bs : List UInt8) : UInt8 × Nat :=
  match bs with
  | [] => (92, 0)
  | b :: _ =>
    if isOctal b then
      let ds := (bs.take 3).takeWhile isOctal
      let value (ds : List UInt8) : Nat := ds.foldl (fun n d => 8 * n + (d.toNat - 48)) 0
      if 255 < value ds then (UInt8.ofNat (value (ds.take 2)), 2) else (UInt8.ofNat (value ds), ds.length)
    else
      let c : UInt8 := match Char.ofNat b.toNat with
        | 'a' => 7
        | 'b' => 8
        | 'f' => 12
        | 'n' => 10
        | 'r' => 13
        | 't' => 9
        | 'v' => 11
        | _ => b
      (c, 1)

def unescaped : Nat → List UInt8 → List (UInt8 × Bool)
  | 0, _ => []
  | _, [] => []
  | fuel + 1, b :: rest =>
    if b == 92 then
      if rest.isEmpty then [(92, false)]
      else
        let (c, n) := escape rest
        (c, true) :: unescaped fuel (rest.drop n)
    else (b, false) :: unescaped fuel rest

def plainly (b : UInt8) (x : UInt8 × Bool) : Bool := x.1 == b && !x.2

def textOf (xs : List (UInt8 × Bool)) : String := Octets.text (xs.map (·.1))

/-- What stands between an opening with `mark` and the mark with a closing bracket. -/
def delimited? (mark : UInt8) (inner : List (UInt8 × Bool)) :
    List (UInt8 × Bool) → Option (List (UInt8 × Bool) × List (UInt8 × Bool))
  | x :: y :: rest =>
    if plainly mark x && plainly 93 y then some (inner.reverse, rest)
    else delimited? mark (x :: inner) (y :: rest)
  | _ => none

def fillCount? (ds : List (UInt8 × Bool)) : Option Nat :=
  let digits := ds.map fun d => d.1
  if digits.isEmpty then some 0
  else if !digits.all fun b => 48 ≤ b && b ≤ 57 then none
  else
    let base := if digits.head? == some 48 then 8 else 10
    some (digits.foldl (fun n d => base * n + (d.toNat - 48)) 0)

def parts : Nat → List (UInt8 × Bool) → Except Problem (List Part)
  | 0, _ => .ok []
  | _, [] => .ok []
  | fuel + 1, x :: rest => do
    let one : Except Problem (List Part) := do
      match rest with
      | d :: y :: after =>
        if plainly 45 d then
          if y.1 < x.1 then throw (.reversed (textOf [x, d, y]))
          let bs := (List.range (y.1.toNat - x.1.toNat + 1)).map fun i => x.1 + UInt8.ofNat i
          return .bytes bs :: (← parts fuel after)
        else return .bytes [x.1] :: (← parts fuel rest)
      | _ => return .bytes [x.1] :: (← parts fuel rest)
    if plainly 91 x then
      match rest with
      | m :: more =>
        if plainly 58 m then
          match delimited? 58 [] more with
          | some (name, after) =>
            let name := textOf name
            if (Text.charClass? name).isNone then throw (.unknownClass name)
            return .cls name :: (← parts fuel after)
          | none => one
        else if plainly 61 m then
          match delimited? 61 [] more with
          | some ([c], after) => return .bytes [c.1] :: (← parts fuel after)
          | some (s, _) => throw (.equivalence (textOf s))
          | none => one
        else match more with
          | s :: digits =>
            if plainly 42 s then
              let ds := digits.takeWhile fun d => !plainly 93 d
              match fillCount? ds, digits.drop ds.length with
              | some n, _ :: after => return .fill m.1 n :: (← parts fuel after)
              | _, _ => one
            else one
          | [] => one
      | [] => one
    else one

def classBytes (name : String) : List UInt8 :=
  match Text.charClass? name with
  | some p => ((List.range 128).map UInt8.ofNat).filter fun b => p (Char.ofNat b.toNat)
  | none => []

/-- The bytes of parts; a fill without a number has `gap` bytes. -/
def bytesOf (gap : Nat) (ps : List Part) : List UInt8 :=
  ps.flatMap fun p => match p with
    | .bytes bs => bs
    | .cls name => classBytes name
    | .fill b 0 => List.replicate gap b
    | .fill b n => List.replicate n b

def casePlaces (n : Nat) : List Part → List Nat
  | [] => []
  | p :: rest =>
    let here := match p with
      | .cls "upper" => [n]
      | .cls "lower" => [n]
      | _ => []
    here ++ casePlaces (n + (bytesOf 0 [p]).length) rest

def isFill : Part → Bool
  | .fill _ _ => true
  | _ => false

def isEndless : Part → Bool
  | .fill _ 0 => true
  | _ => false

def complement (bs : List UInt8) : List UInt8 :=
  ((List.range 256).map UInt8.ofNat).filter fun b => !bs.contains b

def squeeze (set : List UInt8) (last : Option UInt8) : List UInt8 → List UInt8
  | [] => []
  | b :: rest =>
    if last == some b && set.contains b then squeeze set last rest
    else b :: squeeze set (some b) rest

def pairs (complemented truncates : Bool) (first second : List Part) :
    Except Problem (List (UInt8 × UInt8) × List UInt8) := do
  let set1 := bytesOf 0 first
  let from' := if complemented then complement set1 else set1
  if 1 < (second.filter isEndless).length then throw .fillTwice
  let fixed := (bytesOf 0 second).length
  let images := bytesOf (from'.length - fixed) second
  let cases := second.any fun p => p == .cls "upper" || p == .cls "lower"
  if second.any fun p => match p with
      | .cls n => n != "upper" && n != "lower"
      | _ => false then throw .classSecond
  if cases && !((casePlaces 0 second).all fun n => (casePlaces 0 first).contains n) then
    throw .misaligned
  if !truncates && images.isEmpty && !from'.isEmpty then throw .emptySecond
  let isClass (p : Part) : Bool := match p with | .cls _ => true | _ => false
  if complemented && first.any isClass && !(images.eraseDups.length ≤ 1) then throw .manyToOne
  let padded := if truncates then images
    else images ++ List.replicate (from'.length - images.length) (images.getLast?.getD 0)
  return (from'.zip padded, images)

def options : Options :=
  { letters := "+AcCdst"
    long := [("complement", "c"), ("delete", "d"), ("squeeze-repeats", "s"),
      ("truncate-set1", "t")] ++ about }

end Tr

def tr (args : List String) : Work Nat :=
  Tr.options.within "tr" args (fun cs words => do
    let v ← view
    let deletes := has cs "d"
    let squeezes := has cs "s"
    let complements := has cs "c" || has cs "C"
    let least := if deletes == squeezes then 2 else 1
    let most := if deletes && !squeezes then 1 else 2
    if words.length < least then
      match words.getLast? with
      | none => misuse "tr" "tr: missing operand"
      | some w =>
        misuse "tr" ("tr: missing operand after " ++ (← marked w) ++ "\n" ++
          (if squeezes then "Two strings must be given when both deleting and squeezing repeats."
            else "Two strings must be given when translating."))
    else match words.drop most with
      | extra :: _ =>
        let tail := if words.length == 2 && most == 1 then
            "\nOnly one string may be given when deleting without squeezing repeats." else ""
        misuse "tr" ("tr: extra operand " ++ (← marked extra) ++ tail)
      | [] =>
        let read (s : String) : Except Tr.Problem (List Tr.Part) :=
          let bs := Octets.ofText s
          Tr.parts (bs.length + 1) (Tr.unescaped (bs.length + 1) bs)
        let mark := Quoting.marked v.isUtf8
        let work : Except Tr.Problem (List UInt8 → List UInt8) := do
          let first ← read (words.headD "")
          if first.any Tr.isFill then
            if first.any Tr.isEndless then throw .fillFirst
          let set1 := Tr.bytesOf 0 first
          let set1 := if complements then Tr.complement set1 else set1
          match words.drop 1 with
          | [] =>
            if deletes then return fun data => data.filter fun b => !set1.contains b
            else return Tr.squeeze set1 none
          | text :: _ =>
            let second ← read text
            if deletes then
              let set2 := Tr.bytesOf 0 second
              return fun data => Tr.squeeze set2 none (data.filter fun b => !set1.contains b)
            else
              let (ps, images) ← Tr.pairs complements (has cs "t") first second
              let table := ps.foldl (fun (t : Array UInt8) p => t.set! p.1.toNat p.2)
                ((List.range 256).map UInt8.ofNat).toArray
              let translate (data : List UInt8) : List UInt8 :=
                data.map fun b => table.getD b.toNat b
              if squeezes then return fun data => Tr.squeeze images none (translate data)
              else return translate
        match work with
        | .error e => refuse ("tr: " ++ e.text mark)
        | .ok f =>
          if ((words.headD "").toList.reverse.takeWhile (· == '\\')).length % 2 == 1 then
            complain "tr: warning: an unescaped backslash at end of string is not portable"
          say (f (← readAll 0))
          return 0) 1 false

end JobMatrix.Program
