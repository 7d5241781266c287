import JobMatrix.Host.Program.Arguments
import JobMatrix.Host.Program.Awk
import JobMatrix.Host.Program.Columns
import JobMatrix.Host.Program.Count
import JobMatrix.Host.Program.Dump
import JobMatrix.Host.Program.Encoding
import JobMatrix.Host.Program.Expression
import JobMatrix.Host.Program.Find
import JobMatrix.Host.Program.Grep
import JobMatrix.Host.Program.Lines
import JobMatrix.Host.Program.Listing
import JobMatrix.Host.Program.Merging
import JobMatrix.Host.Program.Numbering
import JobMatrix.Host.Program.Pieces
import JobMatrix.Host.Program.Print
import JobMatrix.Host.Program.Sed
import JobMatrix.Host.Program.Sequence
import JobMatrix.Host.Program.Session
import JobMatrix.Host.Program.Status
import JobMatrix.Host.Program.Transfer
import JobMatrix.Host.Program.Translate

/-! The programs of the machine, by name. -/

namespace JobMatrix.Program

def fixed (code : Nat) (_ : List String) : Work Nat := .done code

def catalogue : List (String × (List String → Work Nat)) :=
  [("true", fixed 0), ("false", fixed 1), ("sync", fixed 0),
   ("echo", echo),
   ("printf", printf), ("sleep", sleep), ("test", test "test"), ("[", test "["), ("env", env),
   ("printenv", printenv), ("pwd", pwd), ("basename", basename), ("dirname", dirname),
   ("kill", kill), ("nohup", nohup), ("nice", nice), ("setsid", setsid), ("timeout", timeout),
   ("which", which), ("id", id), ("uname", uname), ("date", date),
   ("whoami", fun _ => do sayLine "root"; return 0),
   ("arch", fun _ => do sayLine "x86_64"; return 0),
   ("nproc", fun _ => do sayLine "2"; return 0),
   ("hostname", fun _ => do sayLine "localhost"; return 0),
   ("tty", fun args => do
      if !args.contains "-s" then sayLine "not a tty"
      return 1),
   ("logname", fun _ => refuse "logname: no login name"),
   ("cat", cat), ("head", head), ("tail", tail), ("tac", tac), ("rev", rev), ("tee", tee),
   ("yes", yes), ("mkdir", mkdir), ("rmdir", rmdir), ("rm", rm), ("chmod", chmod), ("touch", touch),
   ("ln", ln), ("readlink", readlink), ("realpath", realpath), ("mktemp", mktemp),
   ("cp", cp), ("mv", mv), ("wc", wc),
   ("sort", sort), ("uniq", uniq), ("comm", comm), ("join", join), ("cut", cut), ("paste", paste),
   ("fold", fold), ("tr", tr),
   ("ls", ls), ("stat", stat), ("grep", grep), ("egrep", egrep),
   ("fgrep", fgrep), ("sed", sed), ("seq", seq), ("expr", expr), ("nl", nl), ("od", od),
   ("base64", base64), ("split", split),
   ("find", find), ("xargs", xargs),
   ("awk", awk), ("mawk", awk)]

def workOf (name : String) (args : List String) : Work Nat :=
  match catalogue.lookup name with
  | some work => work args
  | none => .done 127

end JobMatrix.Program
