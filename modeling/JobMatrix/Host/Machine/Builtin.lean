import JobMatrix.Host.Machine.Builtin.Commands
import JobMatrix.Host.Machine.Builtin.Jobs
import JobMatrix.Host.Machine.Builtin.Places
import JobMatrix.Host.Machine.Builtin.Variables
import JobMatrix.Host.Shell.Condition
import JobMatrix.Host.Shell.Format

/-! The commands that a shell carries out itself. -/

namespace JobMatrix.Builtin

def printf (sc : Scene) (args : List String) : Scene :=
  withOptions sc "printf" "" args fun _ args =>
    match args with
    | [] => error sc "printf" "usage: printf format [arg ...]"
    | format :: rest =>
      let (data, problems, status) := Shell.Format.print format rest
      let sc := problems.foldl (fun sc p => sc.complainAbout (some "printf") p.text) sc
      output sc "printf" data status

def test (sc : Scene) (name : String) (args : List String) : Scene :=
  let (words, closed) := if name == "[" then (args.dropLast, args.getLast? == some "]")
    else (args, true)
  if !closed then error sc name "missing ]"
  else match Shell.Condition.evaluate { tree := sc.machine.tree, cwd := sc.self.cwd } words with
    | .ok b => sc.withStatus (if b then 0 else 1)
    | .error e => error sc name e.text

def run (sc : Scene) (name : String) (args : List String) : Scene :=
  match name with
  | ":" => sc.withStatus 0
  | "true" => sc.withStatus 0
  | "false" => sc.withStatus 1
  | "echo" => output sc "echo" (Shell.Format.echo args)
  | "printf" => printf sc args
  | "test" => test sc "test" args
  | "[" => test sc "[" args
  | "cd" => cd sc args
  | "chdir" => cd sc args
  | "pwd" => pwd sc args
  | "export" => mark sc "export" args
  | "readonly" => mark sc "readonly" args
  | "unset" => unset sc args
  | "set" => set sc args
  | "shift" => shift sc args
  | "local" => local' sc args
  | "getopts" => getopts sc args
  | "read" => read sc args
  | "trap" => trap sc args
  | "kill" => kill sc args
  | "wait" => wait sc args
  | "jobs" => jobs sc args
  | "fg" => move sc "fg" args
  | "bg" => move sc "bg" args
  | "times" => times sc
  | "type" => type sc args
  | "command" => command sc args
  | "hash" => hash sc args
  | "alias" => addAliases sc args
  | "unalias" => dropAliases sc args
  | "." => source sc args
  | "eval" => eval sc args
  | "exec" => exec sc args
  | "exit" => exit sc "exit" args
  | "return" => exit sc "return" args
  | "break" => loops sc false args
  | "continue" => loops sc true args
  | "umask" => umask sc args
  | "ulimit" => ulimit sc args
  | _ => sc.withStatus 0

end JobMatrix.Builtin
