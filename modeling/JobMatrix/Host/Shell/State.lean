import JobMatrix.Host.Machine.Descriptor
import JobMatrix.Host.Shell.Switch
import JobMatrix.Host.Shell.Parse

/-! The state of a shell: its variables and functions, and a stack of what is left to do. -/

namespace JobMatrix.Shell

inductive Frame where
  /-- The commands of a text. -/
  | source (c : Cursor)
  /-- A script, with the outputs of scripts in its words that have been taken so far. -/
  | run (s : Script) (outputs : List String := [])
  /-- The assignments of a command whose words are expanded, and then the command, which may take the
  place of the shell. -/
  | assigning (inPlace : Bool) (assignments : List (String × Word)) (fields : List String)
      (outputs : List String := [])
  | negate
  | both (s : Script)
  | either (s : Script)
  | branch (yes no : Script)
  /-- The test of a loop has run. -/
  | tested (untilTrue : Bool) (test body : Script) (status : Nat)
  /-- The body of a loop has run. -/
  | looped (untilTrue : Bool) (test body : Script)
  | each (name : String) (values : List String) (body : Script)
  /-- The descriptors that come back. -/
  | restore (descriptors : Descriptors)
  /-- The variables that come back. -/
  | revert (vars : List (String × Option Variable))
  /-- The end of a function, with the arguments and variables that come back, and where the reading of
  options stood. -/
  | call (args : List String) (vars : List (String × Option Variable))
      (nextOption : Nat × Option Nat)
  /-- The end of a sourced file. -/
  | sourced
  /-- The command that complaints name, as it comes back. -/
  | named (command : Option String)
  /-- Children in the foreground to wait for. -/
  | await (ids : List Nat)
  /-- Children to wait for because of a command, which signals interrupt: one of them, or all. -/
  | wait (ids : List Nat) (all : Bool)
  /-- A child whose output something waits for. -/
  | capture (child pipe : Nat) (waiting : Frame)
  /-- A line to be read into variables. -/
  | reading (names : List String) (raw : Bool)
  /-- The status that comes back after a trap. -/
  | resume (status : Nat)
  /-- The status of a command is looked at, where a failure ends the shell. -/
  | check
  | leave
deriving Inhabited

namespace Frame

def isTest : Frame → Bool
  | negate => true
  | both _ => true
  | either _ => true
  | branch .. => true
  | tested .. => true
  | _ => false

def isLoop : Frame → Bool
  | tested .. => true
  | looped .. => true
  | each .. => true
  | _ => false

def isCall : Frame → Bool
  | call .. => true
  | sourced => true
  | _ => false

def isIdle : Frame → Bool
  | source c => c.isDone
  | check => true
  | _ => false

def given (f : Frame) (out : String) : Frame :=
  match f with
  | run s outputs => .run s (outputs ++ [out])
  | assigning inPlace assignments fields outputs =>
    .assigning inPlace assignments fields (outputs ++ [out])
  | f => f

end Frame

/-- A job in the background: its number and its process, whether it is known how it ended, and whether
someone has waited for it. -/
structure Job where
  number : Nat
  id : Nat
  known : Bool := false
  waited : Bool := false
deriving Repr, Inhabited

structure Tracked where
  file : String
  search : String
deriving Repr, Inhabited

structure Interpreter where
  scope : Scope := {}
  functions : Dict String Script := []
  aliases : Dict String String := []
  stack : List Frame := []
  /-- Actions by name of signal; an empty one ignores the signal. -/
  traps : Dict String String := []
  /-- Signals that have come and have an action. -/
  signals : List Nat := []
  /-- The jobs in the background, the latest first. -/
  jobs : List Job := []
  /-- Whether it is a part of another shell. -/
  forked : Bool := false
  /-- Whether the starter looks at the status, so that failures do not end the shell. -/
  watched : Bool := false
  line : Nat := 1
  /-- The command that complaints name. -/
  command : Option String := none
  /-- Whether errors of special commands do not end the shell. -/
  guarded : Bool := false
  /-- The status of the last output taken into the present command. -/
  captured : Option Nat := none
  /-- The path of the present directory, as it was entered. -/
  place : String := "/"
  /-- The argument that is next to be looked at for options, and how far its letters have been
  read. -/
  nextOption : Nat × Option Nat := (1, none)
  /-- The paths of commands that have been looked up. -/
  tracked : Dict String Tracked := []
  /-- The limits that have been set. -/
  limits : Dict Char String := []
deriving Inhabited

namespace Interpreter

def push (sh : Interpreter) (frames : List Frame) : Interpreter :=
  { sh with stack := frames ++ sh.stack }

def withStatus (sh : Interpreter) (status : Nat) : Interpreter :=
  { sh with scope := { sh.scope with status } }

def status (sh : Interpreter) : Nat := sh.scope.status

def has (sh : Interpreter) (option : String) : Bool := sh.scope.has option

def isLast (sh : Interpreter) : Bool :=
  sh.forked && sh.stack.all Frame.isIdle && sh.traps.all fun t => t.2.isEmpty

def failsOut (sh : Interpreter) : Bool :=
  sh.scope.has "errexit" && !sh.watched && !sh.stack.any Frame.isTest

/-- The state of a child: the same, but with its own work and without the actions of the parent. -/
def child (sh : Interpreter) (frames : List Frame) : Interpreter :=
  { sh with
    stack := frames
    traps := sh.traps.filter fun t => t.2.isEmpty
    signals := []
    jobs := []
    forked := true
    watched := sh.watched || sh.stack.any Frame.isTest }

end Interpreter

end JobMatrix.Shell
