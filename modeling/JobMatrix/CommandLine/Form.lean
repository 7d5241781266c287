/-! The forms of commands: the options and arguments each takes, and how words are taken apart into
them. -/

namespace JobMatrix.CommandLine

inductive Parameter where
  | event
  | ref
  | workers
  | stepTimeout
  | jobTimeout
  | failFast
  | showOutput
  | env
  | workspace
  | json
  | db
  | noHistory
  | hooks
  | verbose
  | limit
  | force
  | help
deriving DecidableEq, Repr

/-- One spelling of an option. Without a `constant` it takes the next word. -/
structure Spelling where
  text : String
  parameter : Parameter
  constant : Option Bool := none
deriving Repr

namespace Spelling

def isLong (s : Spelling) : Bool := s.text.startsWith "--"

end Spelling

/-- The form of a command: how it is called, its options, and the names of its arguments. -/
structure Form where
  name : String
  spellings : List Spelling
  arguments : List String

namespace Form

def helpSpelling : Spelling := ⟨"--help", .help, some true⟩

def run : Form where
  name := "run"
  spellings := [
    ⟨"--event", .event, none⟩, ⟨"--ref", .ref, none⟩, ⟨"--workers", .workers, none⟩,
    ⟨"-j", .workers, none⟩, ⟨"--step-timeout", .stepTimeout, none⟩,
    ⟨"--job-timeout", .jobTimeout, none⟩, ⟨"--fail-fast", .failFast, some true⟩,
    ⟨"--no-fail-fast", .failFast, some false⟩, ⟨"--show", .showOutput, some true⟩,
    ⟨"--env", .env, none⟩, ⟨"-e", .env, none⟩, ⟨"--workspace", .workspace, none⟩,
    ⟨"--json", .json, some true⟩, ⟨"--db", .db, none⟩, ⟨"--no-history", .noHistory, some true⟩,
    ⟨"--hooks", .hooks, some true⟩, ⟨"--verbose", .verbose, some true⟩,
    ⟨"-v", .verbose, some true⟩, helpSpelling]
  arguments := ["DECLARATION"]

def validate : Form where
  name := "validate"
  spellings := [helpSpelling]
  arguments := ["DECLARATION"]

def expand : Form where
  name := "expand"
  spellings := [⟨"--json", .json, some true⟩, helpSpelling]
  arguments := ["DECLARATION"]

def history : Form where
  name := "history"
  spellings := [⟨"--db", .db, none⟩, ⟨"--limit", .limit, none⟩, helpSpelling]
  arguments := ["RUN_ID"]

def init : Form where
  name := "init"
  spellings := [⟨"--force", .force, some true⟩, helpSpelling]
  arguments := ["PATH"]

def config : Form where
  name := "config"
  spellings := [helpSpelling]
  arguments := ["KEY", "VALUE"]

def all : List Form := [run, validate, expand, history, init, config]

def hint (f : Form) (p : Parameter) : String :=
  " / ".intercalate ((f.spellings.filter (·.parameter == p)).map fun s => "'" ++ s.text ++ "'")

end Form

def programName : String := "matrixci"

inductive Misuse where
  | noOption (name : String)
  | needsValue (name : String)
  | takesNoValue (name : String)
  | noCommand (name : String)
  | missingCommand
  | tooMany (words : List String)
  | badValue (hint detail : String)
deriving Repr

namespace Misuse

def text : Misuse → String
  | noOption name => "No such option: " ++ name
  | needsValue name => "Option '" ++ name ++ "' requires an argument."
  | takesNoValue name => "Option '" ++ name ++ "' does not take a value."
  | noCommand name => "No such command '" ++ name ++ "'."
  | missingCommand => "Missing command."
  | tooMany words =>
    (if words.length == 1 then "Got unexpected extra argument (" else
      "Got unexpected extra arguments (") ++ " ".intercalate words ++ ")"
  | badValue hint detail => "Invalid value for " ++ hint ++ ": " ++ detail

def showsUsage : Misuse → Bool
  | needsValue _ => false
  | takesNoValue _ => false
  | _ => true

def usage : Option Form → String
  | none => "Usage: " ++ programName ++ " [OPTIONS] COMMAND [ARGS]..."
  | some f => "Usage: " ++ programName ++ " " ++ f.name ++ " [OPTIONS]" ++
      String.join (f.arguments.map fun a => " [" ++ a ++ "]")

def lines (f : Option Form) (m : Misuse) : List String :=
  let path := match f with
    | none => programName
    | some f => programName ++ " " ++ f.name
  (if m.showsUsage then [usage f, "Try '" ++ path ++ " --help' for help.", ""] else []) ++
    ["Error: " ++ m.text]

end Misuse

inductive Given where
  | switch (on : Bool)
  | text (s : String)
deriving Repr

/-- The words of a command taken apart: options in the order in which they were given, and the other
words. -/
structure Parts where
  options : List (Parameter × Given) := []
  words : List String := []
deriving Repr

namespace Form

def find? (f : Form) (text : String) : Option Spelling := f.spellings.find? (·.text == text)

/-- A cluster of short options. What follows an option that takes a value is its value, and where
nothing follows it is the next word. -/
def cluster (f : Form) (p : Parts) (words : List String) :
    List Char → Except Misuse (Parts × List String)
  | [] => .ok (p, words)
  | c :: rest =>
    let name := "-" ++ String.singleton c
    match f.find? name with
    | none => .error (.noOption name)
    | some s =>
      match s.constant with
      | some on =>
        cluster f { p with options := p.options ++ [(s.parameter, .switch on)] } words rest
      | none =>
        let given (v : String) (words : List String) : Except Misuse (Parts × List String) :=
          .ok ({ p with options := p.options ++ [(s.parameter, .text v)] }, words)
        if rest.isEmpty then
          match words with
          | [] => .error (.needsValue name)
          | v :: words => given v words
        else given (String.ofList rest) words

/-- A word that starts with a dash: a long option, with a value after an equals sign or as the next
word, or a cluster of short ones. -/
def option (f : Form) (p : Parts) (word : String) (words : List String) :
    Except Misuse (Parts × List String) :=
  let name := String.ofList (word.toList.takeWhile (· != '='))
  let value? := if word.toList.contains '=' then
      some (String.ofList (word.toList.drop (name.length + 1))) else none
  match (f.find? name).filter Spelling.isLong with
  | some s =>
    let given (g : Given) (words : List String) : Except Misuse (Parts × List String) :=
      .ok ({ p with options := p.options ++ [(s.parameter, g)] }, words)
    match s.constant, value?, words with
    | some on, none, _ => given (.switch on) words
    | some _, some _, _ => .error (.takesNoValue name)
    | none, some v, _ => given (.text v) words
    | none, none, v :: rest => given (.text v) rest
    | none, none, [] => .error (.needsValue name)
  | none =>
    if word.startsWith "--" then .error (.noOption name)
    else f.cluster p words (word.toList.drop 1)

def isOption (word : String) : Bool := word.startsWith "-" && 1 < word.length

/-- Takes words apart. All words after two dashes are no options. Where options and other words may
not mix, the first other word ends the options. -/
def split (f : Form) (mixed : Bool) (p : Parts) : Nat → List String → Except Misuse Parts
  | 0, _ => .ok p
  | _, [] => .ok p
  | fuel + 1, word :: rest =>
    if word == "--" then .ok { p with words := p.words ++ rest }
    else if isOption word then do
      let (p, rest) ← f.option p word rest
      split f mixed p fuel rest
    else if mixed then split f mixed { p with words := p.words ++ [word] } fuel rest
    else .ok { p with words := p.words ++ word :: rest }

def parts (f : Form) (mixed : Bool) (words : List String) : Except Misuse Parts :=
  f.split mixed {} (words.length + 1) words

end Form

end JobMatrix.CommandLine
