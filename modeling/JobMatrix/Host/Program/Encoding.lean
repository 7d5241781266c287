import JobMatrix.Host.Program.Lines

/-! Bytes written with the letters of an alphabet, and read back. -/

namespace JobMatrix.Program

namespace Encoding

/-- An alphabet whose letters stand for `bits` bits each. Groups of `group` letters stand for whole
bytes. -/
structure Alphabet where
  letters : Array Char
  bits : Nat
  group : Nat

def letters64 : String := "ABCDEFGHIJKLMNOPQRSTUVWXYZabcdefghijklmnopqrstuvwxyz0123456789"

def base64 : Alphabet := ⟨(letters64 ++ "+/").toList.toArray, 6, 4⟩

namespace Alphabet

def letter (a : Alphabet) (n : Nat) : Char := (a.letters[n]?).getD '='

def value? (a : Alphabet) (c : Char) : Option Nat :=
  let i := a.letters.toList.findIdx (· == c)
  if i < a.letters.size then some i else none

def bytes (a : Alphabet) : Nat := a.group * a.bits / 8

def groupText (a : Alphabet) (data : List UInt8) : List Char :=
  let n := (data ++ List.replicate (a.bytes - data.length) 0).foldl
    (fun (n : Nat) (b : UInt8) => 256 * n + b.toNat) 0
  let used := (8 * data.length + a.bits - 1) / a.bits
  (List.range a.group).map fun i =>
    if i < used then a.letter (n / 2 ^ (a.bits * (a.group - 1 - i)) % 2 ^ a.bits) else '='

def encode (a : Alphabet) : Nat → List UInt8 → List Char
  | 0, _ => []
  | fuel + 1, data =>
    if data.isEmpty then []
    else a.groupText (data.take a.bytes) ++ encode a fuel (data.drop a.bytes)

def values (a : Alphabet) : List Char → List Nat
  | [] => []
  | c :: rest =>
    match a.value? c with
    | some n => n :: values a rest
    | none => []

def bytesOf (a : Alphabet) (values : List Nat) : List UInt8 :=
  let count := values.length * a.bits / 8
  let n := values.foldl (fun n v => 2 ^ a.bits * n + v) 0
  let n := n / 2 ^ (values.length * a.bits - 8 * count)
  (List.range count).map fun i => UInt8.ofNat (n / 256 ^ (count - 1 - i))

/-- Reads one group: its bytes, and whether it is right. The fill may only be as long as some bytes
ask for. -/
def readGroup (a : Alphabet) (cs : List Char) : List UInt8 × Bool :=
  let vs := a.values cs
  let fill := cs.drop vs.length
  let count := vs.length * a.bits / 8
  let isRight := cs.length == a.group && count != 0 && fill.all (· == '=') &&
    vs.length == (8 * count + a.bits - 1) / a.bits
  if cs.length < a.group && a.group == 8 then ([], false)
  else (a.bytesOf vs, isRight)

/-- Reads letters: the bytes up to the first mistake, and whether there was none. -/
def decode (a : Alphabet) : Nat → List Char → List (List UInt8) → List UInt8 × Bool
  | 0, _, out => (out.reverse.flatten, true)
  | fuel + 1, cs, out =>
    if cs.isEmpty then (out.reverse.flatten, true)
    else
      let (data, isRight) := a.readGroup (cs.take a.group)
      if isRight then decode a fuel (cs.drop a.group) (data :: out)
      else ((data :: out).reverse.flatten, false)

end Alphabet

def wrapped (width : Nat) : Nat → List Char → List (List Char)
  | 0, _ => []
  | fuel + 1, cs =>
    if cs.isEmpty then []
    else if width == 0 then [cs]
    else (cs.take width ++ ['\n']) :: wrapped width fuel (cs.drop width)

def run (name : String) (a : Alphabet) (cs : List Choice) (words : List String) : Work Nat := do
  let width := match lastOf? cs "w" with
    | none => some 76
    | some s => plainNumber? s
  match width, words with
  | none, _ => refuse (name ++ ": invalid wrap size: " ++ (← marked ((lastOf? cs "w").getD "")))
  | _, _ :: w :: _ => extraOperand name w
  | some width, words =>
    let path := words.head?.getD "-"
    match ← readSource path with
    | .error .isDirectory => refuse (name ++ ": read error: Is a directory")
    | .error e => refuse (name ++ ": " ++ (← named path) ++ ": " ++ e.reason)
    | .ok data =>
      if has cs "d" then
        let letters := (data.filter (· != 10)).map fun b => Char.ofNat b.toNat
        let letters := if has cs "i" then
            letters.filter fun c => (a.value? c).isSome || c == '=' else letters
        let (out, isRight) := a.decode (letters.length + 1) letters []
        say out
        if isRight then return 0 else refuse (name ++ ": invalid input")
      else
        let letters := a.encode (data.length + 1) data
        forEach (wrapped width (letters.length + 1) letters) fun l => say (Octets.ofChars l)
        return 0

def options : Options :=
  { letters := "diw:",
    long := [("decode", "d"), ("wrap", "w"), ("ignore-garbage", "i"), ("help", "help"),
      ("version", "version")] }

end Encoding

def base64 (args : List String) : Work Nat :=
  Encoding.options.within "base64" args (Encoding.run "base64" Encoding.base64)

end JobMatrix.Program
