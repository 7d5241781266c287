import JobMatrix.Host.Program.Basic

/-! Names in quotes, as programs give them in complaints: in such a way that a shell reads them back,
or between the quotation marks of the locale. -/

namespace JobMatrix.Program

namespace Quoting

def letter? (c : Char) : Option Char :=
  match c with
  | '\x07' => some 'a'
  | '\x08' => some 'b'
  | '\x0c' => some 'f'
  | '\n' => some 'n'
  | '\r' => some 'r'
  | '\t' => some 't'
  | '\x0b' => some 'v'
  | _ => none

def octalText (b : UInt8) : String :=
  padLeft 3 (String.ofList (Nat.toDigits 8 b.toNat)) '0'

def isPrintable (utf8 : Bool) (c : Char) : Bool :=
  if c.toNat < 0x80 then 0x20 ≤ c.toNat && c.toNat != 0x7F
  else utf8 && !Octets.isStray c && 0xA0 ≤ c.toNat

def escape (c : Char) : String :=
  match letter? c with
  | some l => "\\" ++ String.singleton l
  | none => String.join ((Octets.charBytes c).map fun b => "\\" ++ octalText b)

def special : List Char :=
  [' ', '!', '"', '$', '&', '(', ')', '*', ';', '<', '=', '>', '?', '[', '\\', '^', '\x60', '|', '\'']

def needsQuotes (utf8 : Bool) (s : String) : Bool :=
  s.isEmpty || s == "\x7b" || s == "\x7d" || s.startsWith "#" || s.startsWith "~" ||
    s.any fun c => special.contains c || !isPrintable utf8 c

def isPlain (c : Char) : Bool :=
  c.isAlphanum || " '%+,-./:]_#~".toList.contains c || c == '\x7b' || c == '\x7d'

/-- A name between single quotes; what is not shown stands between them as escapes. -/
def pieces (utf8 : Bool) (escaping : Bool) : List Char → String
  | [] => if escaping then "'" else ""
  | c :: rest =>
    if !isPrintable utf8 c then
      (if escaping then "" else "'$'") ++ escape c ++ pieces utf8 true rest
    else
      (if escaping then "''" else "") ++
        (if c == '\'' then "'\\''" else String.singleton c) ++ pieces utf8 false rest

def always (utf8 : Bool) (s : String) : String :=
  if s.toList.contains '\'' && s.all isPlain then "\"" ++ s ++ "\""
  else
    let inner := pieces utf8 false s.toList
    if inner.endsWith "'" && (s.toList.getLast?.elim false fun c => !isPrintable utf8 c) then
      "'" ++ inner
    else "'" ++ inner ++ "'"

def forShell (utf8 : Bool) (s : String) : String := if needsQuotes utf8 s then always utf8 s else s

def needed (utf8 : Bool) (s : String) : String :=
  if needsQuotes utf8 s || s.toList.contains ':' then always utf8 s else s

def marked (utf8 : Bool) (s : String) : String :=
  let shown := String.join (s.toList.map fun c =>
    if c == '\\' then "\\\\"
    else if c == '\'' && !utf8 then "\\'"
    else if isPrintable utf8 c then String.singleton c
    else escape c)
  if utf8 then "‘" ++ shown ++ "’" else "'" ++ shown ++ "'"

end Quoting

def quoted (s : String) : Work String := do return Quoting.always (← view).isUtf8 s

def named (s : String) : Work String := do return Quoting.needed (← view).isUtf8 s

def marked (s : String) : Work String := do return Quoting.marked (← view).isUtf8 s

end JobMatrix.Program
