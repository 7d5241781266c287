import JobMatrix.Text.Utf8

/-! Texts that keep every byte: a byte that is no part of a character is read as a character of its
own from the last private plane, and written back as it was. -/

namespace JobMatrix.Octets

def stray (b : UInt8) : Char := Char.ofNat (0x10FF00 + b.toNat)

def isStray (c : Char) : Bool := 0x10FF80 ≤ c.toNat && c.toNat ≤ 0x10FFFF

/-- The character at the start of some bytes, and its length; none if there is none. -/
def first? (data : List UInt8) : Option (Char × Nat) :=
  match data with
  | [] => none
  | b :: rest =>
    match Text.announce b with
    | .error c => if b.toNat < 0x80 then some (c, 1) else none
    | .ok p =>
      let tail := rest.take p.missing
      match Text.ofBytes (b :: tail) with
      | [c] => if c != '�' || (b == 0xEF && tail == [0xBF, 0xBD]) then some (c, p.missing + 1) else none
      | _ => none

/-- The characters of bytes; `skip` of them belong to one that has been read. -/
def charsFrom (skip : Nat) : List UInt8 → List Char
  | [] => []
  | b :: rest =>
    match skip with
    | n + 1 => charsFrom n rest
    | 0 =>
      match first? (b :: rest) with
      | some (c, n) => c :: charsFrom (n - 1) rest
      | none => stray b :: charsFrom 0 rest

def chars (data : List UInt8) : List Char := charsFrom 0 data

/-- The characters of bytes, each of which is one by itself unless characters can be longer. -/
def units (wide : Bool) (data : List UInt8) : List Char :=
  if wide then chars data
  else data.map fun b => if b.toNat < 0x80 then Char.ofNat b.toNat else stray b

def text (data : List UInt8) : String := String.ofList (chars data)

def charBytes (c : Char) : List UInt8 :=
  if isStray c then [UInt8.ofNat (c.toNat - 0x10FF00)] else Text.bytes (String.singleton c)

def ofChars (cs : List Char) : List UInt8 := cs.flatMap charBytes

def ofText (s : String) : List UInt8 :=
  if s.any isStray then ofChars s.toList else Text.bytes s

end JobMatrix.Octets
