import JobMatrix.Glob
import JobMatrix.Text.CharClass
import JobMatrix.Text.Octets

/-! Patterns of a shell: those of file names in which a backslash, or quotes, make a character stand
for itself, and in which brackets may hold classes by name. A text is matched byte by byte. -/

namespace JobMatrix.Wildcard

/-- A character of a pattern, and whether it may mean more than itself. -/
abbrev Mark := Char × Bool

def marks (special : Bool) (s : String) : List Mark :=
  (Octets.ofText s).map fun b => (Char.ofNat b.toNat, special)

/-- Takes away backslashes that make the next character stand for itself. -/
def unescaped : List Mark → List Mark
  | [] => []
  | ('\\', true) :: c :: rest => (c.1, false) :: unescaped rest
  | ('\\', true) :: rest => ('\\', false) :: unescaped rest
  | c :: rest => c :: unescaped rest

def classRanges? (name : List Mark) : Option (List (Char × Char)) := do
  let isMember ← Text.charClass? (String.ofList (name.map (·.1)))
  return (((List.range 128).map Char.ofNat).filter isMember).map fun c => (c, c)

/-- The class at the start, after its opening bracket, and what follows it. -/
def class? (marks : List Mark) : Option (List (Char × Char) × List Mark) :=
  match marks with
  | (':', true) :: rest =>
    let name := rest.takeWhile fun m => m.1 != ':'
    match rest.drop name.length with
    | (':', true) :: (']', true) :: after => (classRanges? name).map fun rs => (rs, after)
    | _ => none
  | _ => none

/-- The ranges between brackets and what follows them, none if they are never closed. A closing
bracket at the very start is a member. -/
def members (first : Bool) (ranges : List (Char × Char)) :
    Nat → List Mark → Option (List (Char × Char) × List Mark)
  | 0, _ => none
  | _, [] => none
  | fuel + 1, m :: rest =>
    if m == (']', true) && !first then some (ranges, rest)
    else match (if m == ('[', true) then class? rest else none) with
      | some (rs, after) => members false (ranges ++ rs) fuel after
      | none =>
        match rest with
        | ('-', true) :: d :: after =>
          if d == (']', true) then members false (ranges ++ [(m.1, m.1)]) fuel rest
          else members false (ranges ++ [(m.1, d.1)]) fuel after
        | _ => members false (ranges ++ [(m.1, m.1)]) fuel rest

/-- The parts of a pattern. A caret negates as an exclamation mark does only if `caret`. -/
def partsOf (caret : Bool) : Nat → List Mark → List Glob.Part
  | 0, _ => []
  | _, [] => []
  | fuel + 1, m :: rest =>
    match m with
    | ('*', true) => .star :: partsOf caret fuel rest
    | ('?', true) => .any :: partsOf caret fuel rest
    | ('[', true) =>
      let negated := match rest with
        | (c, true) :: _ => c == '!' || (caret && c == '^')
        | _ => false
      let inside := if negated then rest.drop 1 else rest
      match members true [] (inside.length + 1) inside with
      | some (ranges, after) => .set negated ranges :: partsOf caret fuel after
      | none => .char '[' :: partsOf caret fuel rest
    | (c, _) => .char c :: partsOf caret fuel rest

def parts (caret : Bool) (pattern : List Mark) : List Glob.Part :=
  let pattern := unescaped pattern
  partsOf caret pattern.length pattern

def accepts (parts : List Glob.Part) (text : String) : Bool :=
  Glob.accepts parts ((marks false text).map (·.1))

def fits (pattern text : String) : Bool := accepts (parts true (marks true pattern)) text

end JobMatrix.Wildcard
