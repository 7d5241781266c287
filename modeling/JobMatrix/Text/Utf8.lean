/-! Texts as bytes and back. Reading never fails: bytes that are no part of a character are read as
U+FFFD, one for each longest run of bytes that could have started a character. -/

namespace JobMatrix.Text

def bytes (s : String) : List UInt8 := s.toUTF8.toList

/-- A character of which some bytes have been read: how many are missing, the bounds of the next
one, and the bits so far. -/
structure Partial where
  missing : Nat
  low : UInt8
  high : UInt8
  bits : Nat

def announce (b : UInt8) : Except Char Partial :=
  let n := b.toNat
  if n < 0x80 then .error (Char.ofNat n)
  else if n < 0xC2 then .error '�'
  else if n < 0xE0 then .ok ⟨1, 0x80, 0xBF, n - 0xC0⟩
  else if n == 0xE0 then .ok ⟨2, 0xA0, 0xBF, 0⟩
  else if n == 0xED then .ok ⟨2, 0x80, 0x9F, 0xD⟩
  else if n < 0xF0 then .ok ⟨2, 0x80, 0xBF, n - 0xE0⟩
  else if n == 0xF0 then .ok ⟨3, 0x90, 0xBF, 0⟩
  else if n < 0xF4 then .ok ⟨3, 0x80, 0xBF, n - 0xF0⟩
  else if n == 0xF4 then .ok ⟨3, 0x80, 0x8F, 4⟩
  else .error '�'

/-- Reads bytes after those of `open?`, the character that has been begun. -/
def readFrom (open? : Option Partial) : List UInt8 → List Char
  | [] => if open?.isSome then ['�'] else []
  | b :: rest =>
    match open? with
    | none =>
      match announce b with
      | .error c => c :: readFrom none rest
      | .ok p => readFrom (some p) rest
    | some p =>
      if p.low ≤ b && b ≤ p.high then
        let bits := p.bits * 64 + (b.toNat - 0x80)
        if p.missing ≤ 1 then Char.ofNat bits :: readFrom none rest
        else readFrom (some ⟨p.missing - 1, 0x80, 0xBF, bits⟩) rest
      else
        match announce b with
        | .error c => '�' :: c :: readFrom none rest
        | .ok q => '�' :: readFrom (some q) rest

def ofBytes (data : List UInt8) : List Char := readFrom none data

/-- A text in which every line ends in one line feed, also where it ended in a carriage return. -/
def unifyBreaks : List Char → List Char
  | '\r' :: '\n' :: rest => '\n' :: unifyBreaks rest
  | '\r' :: rest => '\n' :: unifyBreaks rest
  | c :: rest => c :: unifyBreaks rest
  | [] => []

def readText (data : List UInt8) : String := String.ofList (unifyBreaks (ofBytes data))

end JobMatrix.Text
