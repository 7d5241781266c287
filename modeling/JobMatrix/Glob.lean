/-! File name patterns: a star for any text, a question mark for any character, and brackets for a
set of characters. Every character of a text counts alike, slashes and line ends included. -/

namespace JobMatrix

namespace Glob

/-- One part of a pattern. A set is a list of closed ranges. -/
inductive Part where
  | char (c : Char)
  | any
  | star
  | set (negated : Bool) (ranges : List (Char × Char))
deriving DecidableEq, Repr

/-- The inside of brackets and what follows them, none when they are never closed. A bracket right
after the opening, or after the mark of negation, belongs to the inside. -/
def bracket? (s : List Char) : Option (List Char × List Char) :=
  let start := match s with
    | '!' :: ']' :: _ => 2
    | '!' :: _ => 1
    | ']' :: _ => 1
    | _ => 0
  let tail := s.drop start
  match tail.dropWhile (· != ']') with
  | _ :: rest => some (s.take start ++ tail.takeWhile (· != ']'), rest)
  | [] => none

/-- The ranges that stand between brackets: a hyphen between two characters makes one, and any other
character is a range of its own. -/
def ranges : List Char → List (Char × Char)
  | a :: '-' :: b :: r => (a, b) :: ranges r
  | a :: r => (a, a) :: ranges r
  | [] => []

/-- What stands between brackets without the empty ranges at its start. -/
def skipEmpty : List Char → List Char
  | a :: '-' :: b :: r => if b < a then skipEmpty r else a :: '-' :: b :: r
  | s => s

/-- The set of a class without a mark of negation at its start. One before which only empty ranges
come counts as well; a hyphen after it stands for itself, and so does the character after the
hyphen. -/
def listing (inside : List Char) : Part :=
  match skipEmpty inside with
  | '!' :: '-' :: b :: r => .set true (('-', '-') :: (b, b) :: ranges r)
  | '!' :: r => .set true (ranges r)
  | r => .set false (ranges r)

/-- The set that the inside of brackets denotes. -/
def set : List Char → Part
  | '!' :: inside => .set true (ranges inside)
  | inside => listing inside

/-- The parts of a pattern; `fuel` bounds its length. -/
def partsOf : Nat → List Char → List Part
  | 0, _ => []
  | _, [] => []
  | fuel + 1, '*' :: r => .star :: partsOf fuel r
  | fuel + 1, '?' :: r => .any :: partsOf fuel r
  | fuel + 1, '[' :: r =>
    match bracket? r with
    | some (inside, rest) => set inside :: partsOf fuel rest
    | none => .char '[' :: partsOf fuel r
  | fuel + 1, c :: r => .char c :: partsOf fuel r

def parts (pattern : String) : List Part :=
  partsOf pattern.length pattern.toList

def Part.fits (p : Part) (c : Char) : Bool :=
  match p with
  | char d => c == d
  | any => true
  | star => false
  | set negated ranges => (ranges.any fun r => r.1 ≤ c && c ≤ r.2) != negated

def laterOn : List Bool → List Bool
  | [] => []
  | b :: rest =>
    let later := laterOn rest
    (b || later.headD false) :: later

/-- Whether one character fits and the rest does, at each place of a text; `rest` says where the rest
fits. Nothing fits at the end. -/
def oneThen (p : Part) : List Char → List Bool → List Bool
  | c :: s, _ :: rest => (p.fits c && rest.headD false) :: oneThen p s rest
  | _, _ => [false]

def fitsFrom : List Part → List Char → List Bool
  | [], s => s.map (fun _ => false) ++ [true]
  | .star :: rest, s => laterOn (fitsFrom rest s)
  | p :: rest, s => oneThen p s (fitsFrom rest s)

def accepts (parts : List Part) (s : List Char) : Bool := (fitsFrom parts s).headD false

end Glob

def globMatches (pattern text : String) : Bool :=
  Glob.accepts (Glob.parts pattern) text.toList

end JobMatrix
