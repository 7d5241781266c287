import JobMatrix.Host.Shell.Expand

/-! The options at the start of words, those of a shell that starts as well as those that a script
switches later. -/

namespace JobMatrix.Shell

structure Switched where
  scope : Scope
  rest : List String
  /-- The tables of options that were asked for: in words, or as commands. -/
  tables : List Bool := []
  /-- Whether the first word after the options is a script. -/
  takesScript : Bool := false
  /-- Whether the options were closed by a mark, so that the words after them count even if there are
  none. -/
  closed : Bool := false
deriving Inhabited

def optionTable (scope : Scope) (inWords : Bool) : String :=
  if inWords then
    "Current option settings\n" ++ String.join (options.map fun o =>
      o.1 ++ String.ofList (List.replicate (16 - o.1.length) ' ') ++
        (if scope.has o.1 then "on\n" else "off\n"))
  else String.join (options.map fun o =>
    "set " ++ (if scope.has o.1 then "-o " else "+o ") ++ o.1 ++ "\n")

namespace Switched

def put (s : Switched) (option : String) (on : Bool) : Switched :=
  { s with scope := s.scope.switch option on }

/-- Switches options by their letters; the name of an option may be the next word. -/
def letters (starting on : Bool) : List Char → Switched → Except String Switched
  | [], s => .ok s
  | 'o' :: cs, s =>
    match s.rest with
    | [] => letters starting on cs { s with tables := s.tables ++ [on] }
    | name :: rest =>
      if options.any (·.1 == name) then letters starting on cs ({ s with rest }.put name on)
      else .error ("Illegal option -o " ++ name)
  | c :: cs, s =>
    if starting && c == 'c' then letters starting on cs { s with takesScript := true }
    else if starting && c == 'l' then letters starting on cs s
    else match options.find? fun o => o.2 == some c with
      | some o => letters starting on cs (s.put o.1 on)
      | none => .error ("Illegal option -" ++ String.singleton c)

/-- Reads the options at the start of the rest; `fuel` bounds the number of words. -/
def run (starting : Bool) : Nat → Switched → Except String Switched
  | 0, s => .ok s
  | fuel + 1, s =>
    match s.rest with
    | [] => .ok s
    | w :: rest =>
      match w.toList with
      | ['-'] =>
        if starting then .ok { s with rest }
        else .ok (({ s with rest }.put "xtrace" false).put "verbose" false)
      | ['-', '-'] => .ok { s with rest, closed := true }
      | sign :: cs =>
        if sign != '-' && sign != '+' then .ok s
        else do run starting fuel (← letters starting (sign == '-') cs { s with rest })
      | [] => .ok s

end Switched

def Scope.switched (scope : Scope) (starting : Bool) (words : List String) :
    Except String Switched :=
  Switched.run starting (words.length + 1) { scope, rest := words }

end JobMatrix.Shell
