import JobMatrix.Host.Program.Sed.Edit

/-! The editor of lines as a program: its options, where its script comes from, and how mistakes in it
are reported. -/

namespace JobMatrix.Program

namespace Sed

def options : Options :=
  { letters := "bsnrzuEe:f:l:i::V:hs",
    long := [("binary", "b"), ("regexp-extended", "r"), ("debug", "debug"), ("in-place", "i"),
      ("expression", "e"), ("file", "f"), ("line-length", "l"), ("null-data", "z"),
      ("zero-terminated", "z"), ("quiet", "n"), ("posix", "p"), ("silent", "n"),
      ("sandbox", "sandbox"), ("separate", "s"), ("unbuffered", "u"), ("version", "version"),
      ("help", "h"), ("follow-symlinks", "F")] }

def usage : Work Nat :=
  refuse "Usage: sed [OPTION]... \x7bscript-only-if-no-other-script\x7d [input-file]..."

structure Part where
  file : Option String := none
  text : List Char

def partsOf (wide : Bool) : List Choice → Work (Except (String × SystemError) (List Part))
  | [] => return .ok []
  | c :: rest => do
    let here : Except (String × SystemError) (List Part) ← match c.key, c.argument with
      | "e", some a => pure (.ok [{ text := Octets.units wide (Octets.ofText a) }])
      | "f", some path => do
        match ← readSource path with
        | .ok data => pure (.ok [{ file := some path, text := Octets.units wide (bare data) }])
        | .error .isDirectory => pure (.ok [{ file := some path, text := [] }])
        | .error e => pure (.error (path, e))
      | _, _ => pure (.ok [])
    match here, ← partsOf wide rest with
    | .ok ps, .ok others => return .ok (ps ++ others)
    | .error e, _ => return .error e
    | _, .error e => return .error e

/-- Where in the parts of a script a position is; `words` counts those given as words. -/
def locate : List Part → Nat → Nat → String
  | [], words, place => s!"-e expression #{max words 1}, char {place}"
  | p :: rest, words, place =>
    if place ≤ p.text.length || rest.isEmpty then
      match p.file with
      | none => s!"-e expression #{words + 1}, char {place}"
      | some path =>
        let line := (p.text.take place).count '\n' + 1
        s!"file {path} line {line}"
    else
      locate rest (if p.file.isNone then words + 1 else words) (place - p.text.length - 1)

def Mistake.message (parts : List Part) (e : Mistake) : String :=
  match e.place with
  | none => "sed: " ++ e.text
  | some place => "sed: " ++ locate parts 0 place ++ ": " ++ e.text

def targetsOf (c : Command) : List String :=
  match c.action with
  | .write path => [path]
  | .writeFirst path => [path]
  | .substitute s => s.target.toList
  | _ => []

def prepare : List String → Work (Option (String × SystemError))
  | [] => return none
  | path :: rest => do
    if path == "/dev/stdout" || path == "/dev/stderr" then prepare rest
    else match ← writePath path [] with
      | some e => return some (path, e)
      | none => prepare rest

def go (cs : List Choice) (words : List String) : Work Nat := do
  let wide := (← view).isUtf8
  let given := Program.has cs "e" || Program.has cs "f"
  if !given && words.isEmpty then return ← usage
  let paths := if given then words else words.drop 1
  let asked := if given then cs else [({ key := "e", argument := words.head? } : Choice)]
  match ← partsOf wide asked with
  | .error (path, e) => refuse ("sed: couldn't open file " ++ path ++ ": " ++ e.reason) 4
  | .ok parts =>
    let text := ['\n'].intercalate (parts.map (·.text))
    match read (["r", "E"].any (Program.has cs)) text with
    | .error e => refuse (e.message parts) (if e.place.isSome then 1 else 4)
    | .ok script =>
      match ← prepare (script.commands.toList.flatMap targetsOf) with
      | some (path, e) => refuse ("sed: couldn't open file " ++ path ++ ": " ++ e.reason) 4
      | none =>
        let inPlace := if Program.has cs "i" then some ((lastOf? cs "i").getD "") else none
        if inPlace.isSome && paths.isEmpty then return ← refuse "sed: no input files" 4
        let manner : Manner :=
          { silent := Program.has cs "n" || script.silent
            separate := Program.has cs "s" || inPlace.isSome
            inPlace
            ending := if Program.has cs "z" then 0 else 10
            width := match lastOf? cs "l" with
              | some a => ((String.ofList (a.toList.takeWhile Char.isDigit)).toNat?).getD 0
              | none => 70
            wide }
        let start : State := { feed := { paths := if paths.isEmpty then ["-"] else paths } }
        let (result, _) ← cycles manner script.commands rounds true start
        match result with
        | .ok code => return code
        | .error e => refuse ("sed: -e expression #1, char 0: " ++ e)

end Sed

def sed (args : List String) : Work Nat :=
  match Sed.options.read true (args.length + 1) args with
  | .ok (cs, words) =>
    if has cs "h" then do
      let _ ← Sed.usage
      return 0
    else Sed.go cs words
  | .error e => do
    complain ("sed: " ++ e.text)
    Sed.usage

end JobMatrix.Program
