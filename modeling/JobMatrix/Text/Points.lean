/-! Code points. Those of a text in a document may be halves of characters, which stand for one
character where two belong together; a text of characters has no halves. -/

namespace JobMatrix.Text

def isFirstHalf (n : Nat) : Bool := 0xd800 ≤ n && n < 0xdc00

def isSecondHalf (n : Nat) : Bool := 0xdc00 ≤ n && n < 0xe000

def isHalf (n : Nat) : Bool := isFirstHalf n || isSecondHalf n

/-- The code point of the character with these halves. -/
def joined (first second : Nat) : Nat := 0x10000 + (first - 0xd800) * 0x400 + (second - 0xdc00)

def replacement : Char := '�'

/-- The characters of code points. Halves that belong together are one character, and other halves
are replaced. -/
def mended : List Nat → List Char
  | [] => []
  | [n] => [if isHalf n then replacement else Char.ofNat n]
  | m :: n :: rest =>
    if isFirstHalf m && isSecondHalf n then Char.ofNat (joined m n) :: mended rest
    else (if isHalf m then replacement else Char.ofNat m) :: mended (n :: rest)

end JobMatrix.Text
