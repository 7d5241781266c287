import JobMatrix.Markup.Style

/-! Texts with marks for style. A tag in brackets opens a style and one with a slash closes it; a
backslash before a tag makes it plain text. Styles themselves are not shown, so that a text with marks
is shown as the text without them. -/

namespace JobMatrix.Markup

/-- Why marks make no sense: a tag closes what is not open, or there is nothing to close. -/
inductive Misplaced where
  | unmatched (tag : String) (position : Nat)
  | nothingOpen (position : Nat)
deriving DecidableEq, Repr

def Misplaced.text : Misplaced → String
  | unmatched tag position =>
    "closing tag '[" ++ tag ++ s!"]' at position {position} doesn't match any open tag"
  | nothingOpen position => s!"closing tag '[/]' at position {position} has nothing to close"

def opens (c : Char) : Bool := c.isLower || c == '#' || c == '/' || c == '@'

/-- The body of a tag, from the character after its bracket up to the next bracket. -/
def body? (s : List Char) : Option (List Char) :=
  let body := s.takeWhile fun c => c != '[' && c != ']'
  match body, s.drop body.length with
  | c :: _, ']' :: _ => if opens c then some body else none
  | _, _ => none

def slashes (n : Nat) : List Char := List.replicate n '\\'

/-- A text with a backslash before each tag, and the backslashes there doubled. `held` counts the
backslashes that have just been passed. -/
def escapeFrom (held : Nat) : List Char → List Char
  | [] => slashes held
  | c :: rest =>
    if c == '\\' then escapeFrom (held + 1) rest
    else if c == '[' && (body? rest).isSome then slashes (2 * held + 1) ++ c :: escapeFrom 0 rest
    else slashes held ++ c :: escapeFrom 0 rest

/-- A text as marks that show it. A single backslash at the end is doubled, lest it bind what
follows. -/
def escape (s : String) : String :=
  let escaped := escapeFrom 0 s.toList
  match escaped.reverse with
  | '\\' :: '\\' :: _ => String.ofList escaped
  | '\\' :: _ => String.ofList (escaped ++ ['\\'])
  | _ => String.ofList escaped

inductive Piece where
  | plain (s : List Char)
  | tag (position : Nat) (body : List Char)

/-- What a tag stands for after a number of backslashes, the first of them at `start`. -/
def tagPieces (start held : Nat) (body : List Char) : List Piece :=
  let literal : List Piece := if held < 2 then [] else [.plain (slashes (held / 2))]
  literal ++
    [if held % 2 = 1 then .plain ('[' :: body ++ [']']) else .tag (start + held / 2 * 2) body]

def gathered (acc : List Char) : List Piece := if acc.isEmpty then [] else [.plain acc.reverse]

/-- The parts of a text from a position on. `skip` characters of it belong to a tag, `acc` is the plain
text before it, last character first, and `held` counts the backslashes just passed. -/
def piecesFrom (position skip : Nat) (acc : List Char) (held : Nat) : List Char → List Piece
  | [] => gathered (slashes held ++ acc)
  | c :: rest =>
    match skip with
    | skip + 1 => piecesFrom (position + 1) skip acc held rest
    | 0 =>
      if c == '\\' then piecesFrom (position + 1) 0 acc (held + 1) rest
      else match if c == '[' then body? rest else none with
        | some body =>
          gathered acc ++ tagPieces (position - held) held body ++
            piecesFrom (position + 1) (body.length + 1) [] 0 rest
        | none => piecesFrom (position + 1) 0 (c :: slashes held ++ acc) 0 rest

def pieces (s : String) : List Piece := piecesFrom 0 0 [] 0 s.toList

def unslashed : List Char → List Char
  | [] => []
  | '\\' :: '[' :: rest => '[' :: unslashed rest
  | c :: rest => c :: unslashed rest

def tagName (body : List Char) : List Char := body.takeWhile (· != '=')

def closed (name : String) : List String → Option (List String)
  | [] => none
  | style :: rest => if style == name then some rest else (closed name rest).map (style :: ·)

def shownFrom : List String → List Piece → Except Misplaced (List Char)
  | _, [] => .ok []
  | stack, .plain s :: rest => (shownFrom stack rest).map (Emoji.replace (unslashed s) ++ ·)
  | stack, .tag position body :: rest =>
    match tagName body with
    | '/' :: name =>
      let style := Text.strip name
      if style.isEmpty then
        match stack with
        | _ :: stack => shownFrom stack rest
        | [] => .error (.nothingOpen position)
      else match closed (Style.normal style) stack with
        | some stack => shownFrom stack rest
        | none => .error (.unmatched (String.ofList body) position)
    | name => shownFrom (Style.normal name :: stack) rest

def visible (s : List Char) : List Char :=
  s.filter fun c => !([7, 8, 11, 12, 13].contains c.toNat)

def shown (s : String) : Except Misplaced String :=
  (shownFrom [] (pieces s)).map fun cs => String.ofList (visible cs)

end JobMatrix.Markup
