import JobMatrix.Host.Program.Quoting

/-! The options of programs: letters after a dash, words after two, and what belongs to them. -/

namespace JobMatrix.Program

inductive Takes where
  | nothing
  | argument
  /-- Something may follow in the same word. -/
  | perhaps
deriving DecidableEq, Repr

structure Choice where
  key : String
  argument : Option String := none
deriving Repr, Inhabited

/-- The options that a program knows. Letters are followed by one colon if an argument belongs to
them, and by two if one may follow in the same word. A long option has the key of a letter, or one of
its own with colons. -/
structure Options where
  letters : String
  long : List (String × String) := []

namespace Options

def takesOf (cs : List Char) : Takes :=
  match cs with
  | ':' :: ':' :: _ => .perhaps
  | ':' :: _ => .argument
  | _ => .nothing

def letterIn (c : Char) : List Char → Option Takes
  | [] => none
  | d :: rest => if d == c && c != ':' then some (takesOf rest) else letterIn c rest

def letter? (o : Options) (c : Char) : Option Takes := letterIn c o.letters.toList

def keyOf (o : Options) (key : String) : String × Takes :=
  match key.toList with
  | [c] => (key, (o.letter? c).getD .nothing)
  | cs => (String.ofList (cs.takeWhile (· != ':')), takesOf (cs.dropWhile (· != ':')))

inductive Problem where
  | invalid (c : Char)
  | missing (c : Char)
  | unknown (s : String)
  | ambiguous (s : String) (choices : List String)
  | unwanted (s : String)
  | lacking (s : String)

def Problem.text : Problem → String
  | invalid c => "invalid option -- '" ++ String.singleton c ++ "'"
  | missing c => "option requires an argument -- '" ++ String.singleton c ++ "'"
  | unknown s => "unrecognized option '" ++ s ++ "'"
  | ambiguous s choices => "option '" ++ s ++ "' is ambiguous; possibilities:" ++
      String.join (choices.map fun c => " '--" ++ c ++ "'")
  | unwanted s => "option '--" ++ s ++ "' doesn't allow an argument"
  | lacking s => "option '--" ++ s ++ "' requires an argument"

def longOption (o : Options) (word : String) (rest : List String) :
    Except Problem (Choice × List String) :=
  let name := word.toList.takeWhile (· != '=')
  let given := if word.toList.contains '=' then
      some (String.ofList (word.toList.drop (name.length + 1))) else none
  let name := String.ofList name
  let same := o.long.filter fun l => l.1 == name
  let near := if same.isEmpty then o.long.filter (fun l => l.1.startsWith name) else same
  match near with
  | [] => .error (.unknown ("--" ++ name))
  | (full, key) :: others =>
    if others.any fun l => l.2 != key then
      .error (.ambiguous ("--" ++ name) (near.map (·.1)))
    else
      let (key, takes) := o.keyOf key
      match takes, given, rest with
      | .nothing, some _, _ => .error (.unwanted full)
      | .argument, none, [] => .error (.lacking full)
      | .argument, none, a :: rest => .ok (⟨key, some a⟩, rest)
      | _, given, rest => .ok (⟨key, given⟩, rest)

def letterOptions (o : Options) : List Char → List String →
    Except Problem (List Choice × List String)
  | [], rest => .ok ([], rest)
  | c :: cs, rest =>
    let key := String.singleton c
    match o.letter? c with
    | none => .error (.invalid c)
    | some .nothing => do
      let (choices, rest) ← letterOptions o cs rest
      return (⟨key, none⟩ :: choices, rest)
    | some .perhaps =>
      .ok ([⟨key, if cs.isEmpty then none else some (String.ofList cs)⟩], rest)
    | some .argument =>
      if !cs.isEmpty then .ok ([⟨key, some (String.ofList cs)⟩], rest)
      else match rest with
        | a :: rest => .ok ([⟨key, some a⟩], rest)
        | [] => .error (.missing c)

/-- The options among words, and the other words. If not `mixed`, options end at the first word that
is none. -/
def read (o : Options) (mixed : Bool) : Nat → List String →
    Except Problem (List Choice × List String)
  | 0, words => .ok ([], words)
  | _, [] => .ok ([], [])
  | fuel + 1, w :: rest =>
    if w == "--" then .ok ([], rest)
    else if w.startsWith "--" then do
      let (choice, rest) ← o.longOption (String.ofList (w.toList.drop 2)) rest
      let (choices, others) ← read o mixed fuel rest
      return (choice :: choices, others)
    else if w.startsWith "-" && w != "-" then do
      let (first, rest) ← o.letterOptions (w.toList.drop 1) rest
      let (choices, others) ← read o mixed fuel rest
      return (first ++ choices, others)
    else if mixed then do
      let (choices, others) ← read o mixed fuel rest
      return (choices, w :: others)
    else .ok ([], w :: rest)

/-- Reads the options of a program and goes on with them; a mistake ends it with `code`. -/
def within (o : Options) (name : String) (args : List String)
    (go : List Choice → List String → Work Nat) (code : Nat := 1) (mixed : Bool := true) : Work Nat :=
  match o.read mixed (args.length + 1) args with
  | .ok (choices, words) => go choices words
  | .error e => misuse name (name ++ ": " ++ e.text) code

end Options

def has (choices : List Choice) (key : String) : Bool := choices.any (·.key == key)

def lastOf? (choices : List Choice) (key : String) : Option String :=
  (choices.reverse.find? (·.key == key)).bind (·.argument)

def allOfKey (choices : List Choice) (key : String) : List String :=
  choices.filterMap fun c => if c.key == key then c.argument else none

def lastAmong? (choices : List Choice) (keys : List String) : Option String :=
  (choices.reverse.find? fun c => keys.contains c.key).map (·.key)

/-- The group to which a word belongs, whole or abbreviated; otherwise whether it belongs to
several. -/
def groupOf (groups : List (List String)) (word : String) : Except Bool Nat :=
  let indexed := groups.zipIdx
  match indexed.find? fun g => g.1.contains word with
  | some g => .ok g.2
  | none =>
    match indexed.filter fun g => g.1.any (·.startsWith word) with
    | [g] => .ok g.2
    | [] => .error false
    | _ => .error true

/-- Finds the group to which the argument of an option belongs and goes on with it, or says which
arguments there are. -/
def withGroup (name option : String) (groups : List (List String)) (word : String)
    (go : Nat → Work Nat) : Work Nat := do
  match groupOf groups word with
  | .ok n => go n
  | .error ambiguous =>
    complain (name ++ (if ambiguous then ": ambiguous argument " else ": invalid argument ") ++
      (← marked word) ++ " for " ++ (← marked option))
    complain "Valid arguments are:"
    let utf8 := (← view).isUtf8
    forEach groups fun g => complain ("  - " ++ ", ".intercalate (g.map (Quoting.marked utf8)))
    refuse (hint name)

def extraOperand (name word : String) (code : Nat := 1) : Work Nat := do
  misuse name (name ++ ": extra operand " ++ (← marked word)) code

end JobMatrix.Program
