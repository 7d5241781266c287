/-! Classes of characters by name. Only characters of ASCII belong to one. -/

namespace JobMatrix.Text

def isPunctuation (c : Char) : Bool := '!' ≤ c && c ≤ '~' && !c.isAlphanum

def isControl (c : Char) : Bool := c < ' ' || c == '\x7f'

def isWhite (c : Char) : Bool := c == ' ' || ('\t' ≤ c && c ≤ '\r')

def charClass? (name : String) : Option (Char → Bool) :=
  match name with
  | "alnum" => some Char.isAlphanum
  | "alpha" => some Char.isAlpha
  | "blank" => some fun c => c == ' ' || c == '\t'
  | "cntrl" => some isControl
  | "digit" => some Char.isDigit
  | "graph" => some fun c => '!' ≤ c && c ≤ '~'
  | "lower" => some Char.isLower
  | "print" => some fun c => ' ' ≤ c && c ≤ '~'
  | "punct" => some isPunctuation
  | "space" => some isWhite
  | "upper" => some Char.isUpper
  | "xdigit" => some fun c => c.isDigit || ('a' ≤ c && c ≤ 'f') || ('A' ≤ c && c ≤ 'F')
  | _ => none

end JobMatrix.Text
