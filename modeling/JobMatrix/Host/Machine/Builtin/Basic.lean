import JobMatrix.Host.Machine.Scene

/-! What the commands that a shell carries out itself have in common: their names, their options, and
how they fail. -/

namespace JobMatrix.Builtin

def regular : List String :=
  ["[", "alias", "bg", "cd", "chdir", "command", "echo", "false", "fg", "getopts", "hash", "jobs",
   "kill", "local", "printf", "pwd", "read", "test", "true", "type", "ulimit", "umask", "unalias",
   "wait"]

def isSpecial (name : String) : Bool := Shell.specialCommands.contains name

def isKnown (name : String) : Bool := isSpecial name || regular.contains name

def error (sc : Scene) (name text : String) (status : Nat := 2) : Scene :=
  let sc := sc.complainAbout (some name) text
  if isSpecial name && !sc.sh.guarded then sc.leave status else sc.withStatus status

/-- A text in quotes that a shell reads back: quotes in it stand between quotes of the other kind. -/
def quoted (s : String) : String := go (s.length + 1) s.toList
where
  go : Nat → List Char → String
    | 0, _ => ""
    | fuel + 1, cs =>
      let plain := cs.takeWhile (· != '\'')
      let rest := cs.drop plain.length
      let quotes := rest.takeWhile (· == '\'')
      let after := rest.drop quotes.length
      "'" ++ String.ofList plain ++ "'" ++
        (if quotes.isEmpty then ""
          else "\"" ++ String.ofList quotes ++ "\"" ++ (if after.isEmpty then "" else go fuel after))

def output (sc : Scene) (name : String) (data : List UInt8) (status : Nat := 0) : Scene :=
  match sc.write 1 data with
  | (sc, none) => sc.withStatus status
  | (sc, some _) => error sc name (name ++ ": I/O error") 1

def outputText (sc : Scene) (name text : String) (status : Nat := 0) : Scene :=
  output sc name (Octets.ofText text) status

def takes? (letters : List Char) (c : Char) : Option Bool :=
  match letters with
  | [] => none
  | ':' :: rest => takes? rest c
  | d :: rest => if d == c then some (rest.head? == some ':') else takes? rest c

/-- The options in one word, and the words that are left; what is wrong with them otherwise. -/
def lettersOf (known : List Char) : List Char → List String →
    Except String (List (Char × String) × List String)
  | [], rest => .ok ([], rest)
  | c :: cs, rest =>
    match takes? known c with
    | none => .error ("Illegal option -" ++ String.singleton c)
    | some false => (lettersOf known cs rest).map fun (os, rest) => ((c, "") :: os, rest)
    | some true =>
      if !cs.isEmpty then .ok ([(c, String.ofList cs)], rest)
      else match rest with
        | a :: rest => .ok ([(c, a)], rest)
        | [] => .error ("No arg for -" ++ String.singleton c ++ " option")

def optionsOf (known : String) : Nat → List String →
    Except String (List (Char × String) × List String)
  | 0, args => .ok ([], args)
  | _, [] => .ok ([], [])
  | fuel + 1, a :: rest =>
    match a.toList with
    | '-' :: c :: cs =>
      if a == "--" then .ok ([], rest)
      else do
        let (first, rest) ← lettersOf known.toList (c :: cs) rest
        let (others, rest) ← optionsOf known fuel rest
        return (first ++ others, rest)
    | _ => .ok ([], a :: rest)

def withOptions (sc : Scene) (name known : String) (args : List String)
    (go : List (Char × String) → List String → Scene) : Scene :=
  match optionsOf known (args.length + 1) args with
  | .ok (os, rest) => go os rest
  | .error e => error sc name e

def given (os : List (Char × String)) (c : Char) : Bool := os.any (·.1 == c)

def number? (s : String) : Option Nat :=
  if s.isEmpty || !s.toList.all Char.isDigit then none
  else s.toNat?.filter (· < 2 ^ 31)

def illegal (s : String) : String := "Illegal number: " ++ s

end JobMatrix.Builtin
