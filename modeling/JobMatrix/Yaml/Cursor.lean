/-! A place in a YAML text: what is left of the text, and the line and column reached. -/

namespace JobMatrix.Yaml

/-- What `peek` gives at the end of a text. -/
def endMark : Char := Char.ofNat 0

def byteOrderMark : Char := Char.ofNat 0xfeff

def isBreak (c : Char) : Bool :=
  c = '\n' || c = '\r' || c.toNat = 0x85 || c.toNat = 0x2028 || c.toNat = 0x2029

def isLineEnd (c : Char) : Bool := c = endMark || isBreak c

def isGap (c : Char) : Bool := c = ' ' || c = '\t' || isLineEnd c

def isSpaceOrEnd (c : Char) : Bool := c = ' ' || isLineEnd c

structure Cursor where
  rest : List Char
  index : Nat := 0
  line : Nat := 0
  column : Nat := 0

namespace Cursor

/-- The character `k` places ahead. -/
def peek (c : Cursor) (k : Nat := 0) : Char := c.rest.getD k endMark

def next (c : Cursor) : Cursor :=
  match c.rest with
  | [] => c
  | ch :: rest =>
    if isBreak ch then ⟨rest, c.index + 1, c.line + 1, 0⟩
    else if ch = byteOrderMark then ⟨rest, c.index + 1, c.line, c.column⟩
    else ⟨rest, c.index + 1, c.line, c.column + 1⟩

/-- The cursor after `n` characters. -/
def advance : Nat → Cursor → Cursor
  | 0, c => c
  | n + 1, c => advance n c.next

/-- The characters ahead that satisfy `p`, and the cursor after them. -/
def takeWhile (p : Char → Bool) (c : Cursor) : List Char × Cursor :=
  let chars := c.rest.takeWhile p
  (chars, c.advance chars.length)

/-- The cursor after the characters that satisfy `p`. -/
def skipWhile (p : Char → Bool) (c : Cursor) : Cursor := (c.takeWhile p).2

def skipSpaces (c : Cursor) : Cursor := c.skipWhile (· = ' ')

def skipComment (c : Cursor) : Cursor :=
  if c.peek = '#' then c.skipWhile (!isLineEnd ·) else c

def lineBreak? (c : Cursor) : Option (Char × Cursor) :=
  let ch := c.peek
  if ch = '\n' ∨ ch = '\r' ∨ ch.toNat = 0x85 then some ('\n', c.next)
  else if isBreak ch then some (ch, c.next)
  else none

/-- Whether a line of three dashes or dots, which sets documents apart, starts here. -/
def atSeparator (c : Cursor) : Bool :=
  (c.rest.take 3 == ['-', '-', '-'] || c.rest.take 3 == ['.', '.', '.']) && isGap (c.peek 3)

end Cursor

end JobMatrix.Yaml
