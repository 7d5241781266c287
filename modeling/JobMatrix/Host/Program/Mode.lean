import JobMatrix.Host.Program.Basic

/-! Permissions: their texts, and the changes that a text asks for. -/

namespace JobMatrix.Program.Mode

def all : Nat := 0o7777

inductive Value where
  | bits (n : Nat)
  /-- The bits that some have now. -/
  | copy (mask : Nat)
  /-- Some bits, and the right to run what someone may run. -/
  | runnable (n : Nat)
deriving DecidableEq, Repr

inductive Action where
  | set
  | add
  | drop
deriving DecidableEq, Repr

structure Change where
  who : Nat
  action : Action
  value : Value
  mentioned : Nat
deriving Repr

def without (a b : Nat) : Nat := a - (a &&& b)

def spread (n : Nat) : Nat :=
  (if n &&& 0o444 != 0 then 0o444 else 0) ||| (if n &&& 0o222 != 0 then 0o222 else 0) |||
    (if n &&& 0o111 != 0 then 0o111 else 0)

def Change.apply (directory : Bool) (umask : Nat) (mode : Nat) (c : Change) : Nat :=
  let kept := without (if directory then 0o6000 else 0) c.mentioned
  let value := match c.value with
    | .bits n => n
    | .copy mask => spread (mask &&& mode)
    | .runnable n => if mode &&& 0o111 != 0 || directory then n ||| 0o111 else n
  let value := without (value &&& (if c.who == 0 then without all umask else c.who)) kept
  match c.action with
  | .add => mode ||| value
  | .drop => without mode value
  | .set =>
    let preserved := (if c.who == 0 then 0 else without all c.who) ||| kept
    (mode &&& preserved) ||| value

def applyAll (cs : List Change) (directory : Bool) (umask mode : Nat) : Nat :=
  cs.foldl (Change.apply directory umask) (mode &&& all)

def octal? (cs : List Char) : Option (List Change) :=
  let n := cs.foldl (fun n c => 8 * n + (c.toNat - 48)) 0
  if cs.isEmpty || !cs.all (fun c => '0' ≤ c && c ≤ '7') || all < n then none
  else
    let mentioned := if cs.length < 5 then (n &&& 0o7000) ||| 0o777 else all
    some [⟨all, .set, .bits n, mentioned⟩]

def whoOf (cs : List Char) : Nat :=
  cs.foldl (fun n c => n ||| match c with
    | 'u' => 0o4700
    | 'g' => 0o2070
    | 'o' => 0o1007
    | _ => all) 0

def bitsOf (cs : List Char) : Nat × Bool :=
  cs.foldl (fun (n, x) c => match c with
    | 'r' => (n ||| 0o444, x)
    | 'w' => (n ||| 0o222, x)
    | 'x' => (n ||| 0o111, x)
    | 'X' => (n, true)
    | 's' => (n ||| 0o6000, x)
    | _ => (n ||| 0o1000, x)) (0, false)

def action? (c : Char) : Option Action :=
  match c with
  | '=' => some .set
  | '+' => some .add
  | '-' => some .drop
  | _ => none

def actions? (who : Nat) : Nat → List Char → Option (List Change)
  | 0, _ => none
  | fuel + 1, cs =>
    match cs with
    | [] => none
    | sign :: rest =>
      match action? sign with
      | none => none
      | some action =>
        let (value, mentionedBits, rest) : Value × Nat × List Char := match rest with
          | 'u' :: r => (.copy 0o700, 0o700, r)
          | 'g' :: r => (.copy 0o070, 0o070, r)
          | 'o' :: r => (.copy 0o007, 0o007, r)
          | r =>
            let letters := r.takeWhile fun c => "rwxXst".toList.contains c
            let (n, x) := bitsOf letters
            (if x then .runnable n else .bits n, n, r.drop letters.length)
        let mentioned := if who == 0 then mentionedBits else who &&& mentionedBits
        let c : Change := ⟨who, action, value, mentioned⟩
        if rest.isEmpty then some [c] else (actions? who fuel rest).map (c :: ·)

def read? (s : String) : Option (List Change) :=
  if s.toList.head?.elim false Char.isDigit then octal? s.toList
  else (s.splitOn ",").foldlM (fun cs part => do
    let who := part.toList.takeWhile fun c => "ugoa".toList.contains c
    let more ← actions? (whoOf who) (part.length + 1) (part.toList.drop who.length)
    some (cs ++ more)) []

def triple (bits : Nat) (special : Bool) (on off : Char) : List Char :=
  [if bits &&& 4 != 0 then 'r' else '-', if bits &&& 2 != 0 then 'w' else '-',
   if special then (if bits &&& 1 != 0 then on else off) else if bits &&& 1 != 0 then 'x' else '-']

def text (mode : Nat) : String :=
  String.ofList (triple (mode / 64) (mode &&& 0o4000 != 0) 's' 'S' ++
    triple (mode / 8) (mode &&& 0o2000 != 0) 's' 'S' ++
    triple mode (mode &&& 0o1000 != 0) 't' 'T')

def octalText (width mode : Nat) : String :=
  padLeft width (String.ofList (Nat.toDigits 8 mode)) '0'

def letterOf (e : Entry) : Char :=
  match e.kind with
  | .directory => 'd'
  | .device _ => 'c'
  | .link _ => 'l'
  | .channel => 'p'
  | _ => '-'

end JobMatrix.Program.Mode
