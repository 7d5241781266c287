import JobMatrix.Host.Program.Awk.Run

/-! The program that runs patterns and actions over the records of files. -/

namespace JobMatrix.Program

namespace Awk

/-- What the command line asks for: the files or texts of the program, variables, and words. -/
structure Request where
  files : List String := []
  assigned : List (String × Value) := []
  words : List String := []

def lacks (option : String) : String := "awk: option -" ++ option ++ " lacks argument"

def requestOf (r : Request) : List String → Except String Request
  | [] => .ok { r with words := [] }
  | "--" :: rest => .ok { r with words := rest }
  | "-" :: rest => .ok { r with words := "-" :: rest }
  | "-f" :: [] => .error (lacks "f")
  | "-f" :: path :: rest => requestOf { r with files := r.files ++ [path] } rest
  | "-F" :: [] => .error (lacks "F")
  | "-F" :: s :: rest => requestOf (withSeparator r s) rest
  | "-v" :: [] => .error (lacks "v")
  | "-v" :: s :: rest =>
    match assignmentOf? (inner s) with
    | some x => requestOf { r with assigned := r.assigned ++ [x] } rest
    | none => .error ("awk: improper assignment: -v " ++ s)
  | word :: rest =>
    match word.toList with
    | '-' :: 'f' :: path => requestOf { r with files := r.files ++ [String.ofList path] } rest
    | '-' :: 'F' :: s => requestOf (withSeparator r (String.ofList s)) rest
    | '-' :: 'v' :: s =>
      match assignmentOf? (inner (String.ofList s)) with
      | some x => requestOf { r with assigned := r.assigned ++ [x] } rest
      | none => .error ("awk: improper assignment: -v " ++ String.ofList s)
    | '-' :: _ => .error ("awk: not an option: " ++ word)
    | _ => .ok { r with words := word :: rest }
where
  withSeparator (r : Request) (s : String) : Request :=
    { r with assigned := r.assigned ++
        [("FS", .text (String.ofList (unescaped 0 (inner s).toList)))] }

def startVariables : List (String × Value) :=
  [("FS", .text " "), ("OFS", .text " "), ("ORS", .text "\n"), ("RS", .text "\n"),
   ("SUBSEP", .text "\x1c"), ("CONVFMT", .text "%.6g"), ("OFMT", .text "%.6g"),
   ("NR", .ofNat 0), ("FNR", .ofNat 0), ("RSTART", .ofNat 0), ("RLENGTH", .ofInt (-1)),
   ("FILENAME", .text "")]

def startState (env : Env) (words : List String) : State :=
  let argv := ("awk" :: words).zipIdx.foldl (fun t (w, i) =>
    (t.used (.integer i) true).set (.integer i) (.input (inner w))) ({} : Table)
  let environ := env.foldl (fun t (n, v) =>
    (t.used (.text (inner n)) true).set (.text (inner n)) (.input (inner v))) ({} : Table)
  { globals := (startVariables ++ [("ARGC", Value.ofNat (words.length + 1))]).foldl
      (fun m (n, v) => m.insert n v) {}
    arrays := ({} : Std.HashMap String Nat).insert "ARGV" 0 |>.insert "ENVIRON" 1
    tables := ({} : Std.HashMap Nat Table).insert 0 argv |>.insert 1 environ
    fresh := 2 }

def programText : List String → Work (Except (String × SystemError) (List Char))
  | [] => return .ok []
  | path :: rest => do
    match ← readSource path with
    | .error e => return .error (path, e)
    | .ok data =>
      let text := Octets.units false data
      match ← programText rest with
      | .error e => return .error e
      | .ok more => return .ok (if rest.isEmpty then text else text ++ '\n' :: more)

def usage : Work Nat := do
  complain ("\n".intercalate lines)
  return 0
where
  lines : List String := [
    "Usage: mawk [Options] [Program] [file ...]",
    "",
    "Program:",
    "    The -f option value is the name of a file containing program text.",
    "    If no -f option is given, a \"--\" ends option processing; the following",
    "    parameters are the program text.",
    "",
    "Options:",
    "    -f program-file  Program  text is read from file instead of from the",
    "                     command-line.  Multiple -f options are accepted.",
    "    -F value         sets the field separator, FS, to value.",
    "    -v var=value     assigns value to program variable var.",
    "    --               unambiguous end of options.",
    "",
    "    Implementation-specific options are prefixed with \"-W\".  They can be",
    "    abbreviated:",
    "",
    "    -W version       show version information and exit.",
    "    -W dump          show assembler-like listing of program and exit.",
    "    -W help          show this message and exit.",
    "    -W interactive   set unbuffered output, line-buffered input.",
    "    -W exec file     use file as program as well as last option.",
    "    -W random=number set initial random seed.",
    "    -W sprintf=number adjust size of sprintf buffer.",
    "    -W posix_space   do not consider \"\\n\" a space.",
    "    -W usage         show this message and exit."]

end Awk

def awk (args : List String) : Work Nat := do
  match Awk.requestOf {} args with
  | .error text => refuse text 2
  | .ok r =>
    if r.files.isEmpty && r.words.isEmpty then return ← Awk.usage
    let words := if r.files.isEmpty then r.words.drop 1 else r.words
    let text ← if r.files.isEmpty then
        pure (.ok (Octets.units false (Octets.ofText (r.words.head?.getD ""))))
      else Awk.programText r.files
    match text with
    | .error (path, e) => refuse ("awk: cannot open \"" ++ path ++ "\" (" ++ e.reason ++ ")") 2
    | .ok text =>
      match Awk.read text with
      | .error flaws => do
        forEach flaws fun f => complain (Awk.outer f.message)
        return 2
      | .ok script =>
        let v ← view
        let start := Awk.startState v.env words
        let (code, _) ← (Awk.finished (do
            for (n, x) in r.assigned do Awk.store (.name n) x
            Awk.whole script)).run start
        return code

end JobMatrix.Program
