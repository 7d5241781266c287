import JobMatrix.FileTree
import JobMatrix.Host.Machine.Descriptor
import JobMatrix.Text.Octets

/-! The work of a program: what it asks of the machine, one request after another, and how it goes on
with the answers. -/

namespace JobMatrix.Program

open JobMatrix.Path (Place)

structure View where
  tree : FileTree
  cwd : Place
  env : Env
  /-- The time in nanoseconds since the start of 1970. -/
  now : Nat
  id : Nat
  parent : Nat
  group : Nat
  umask : Nat
  descriptors : Descriptors
  /-- Where the file stands to which a descriptor leads. -/
  fileAt : Nat → Option Place

inductive Input where
  | same
  | nothing
  | given (data : List UInt8)

structure Order where
  words : List String
  env : Env
  input : Input := .same
  /-- Whether its output is kept for whoever waits for it. -/
  captured : Bool := false

structure Child where
  id : Nat
  pipe : Option Nat := none
deriving Inhabited

inductive Work (α : Type) where
  | done (a : α)
  | look (k : View → Work α)
  | change (t : FileTree) (k : Unit → Work α)
  /-- Adds to the output that is written when there is enough of it, or at the end. -/
  | print (data : List UInt8) (k : Unit → Work α)
  | write (descriptor : Nat) (data : List UInt8) (k : Option SystemError → Work α)
  /-- Waits until there is enough to read, or all; `enough` says how much of it is taken. -/
  | await (descriptor : Nat) (enough : List UInt8 → Option Nat) (k : List UInt8 → Work α)
  /-- Gives bytes back, which only files take. -/
  | unread (descriptor n : Nat) (k : Unit → Work α)
  | pause (time : Nat) (k : Unit → Work α)
  | start (o : Order) (k : Except SystemError Child → Work α)
  /-- Waits for a child up to a time: how it ended, and what it wrote if that was kept. -/
  | wait (child : Child) (deadline : Option Nat) (k : Option (Ending × List UInt8) → Work α)
  /-- Goes on as another command, unless that cannot be started. -/
  | become (words : List String) (env : Env) (k : SystemError → Work α)
  | signal (n : Nat) (target : Int) (k : Bool → Work α)
  | ignore (n : Nat) (k : Unit → Work α)
  | enter (place : Place) (k : Unit → Work α)
  /-- Makes a group of its own. -/
  | lead (k : Unit → Work α)

namespace Work

variable {α β : Type}

def bind (w : Work α) (f : α → Work β) : Work β :=
  match w with
  | done a => f a
  | look k => .look fun v => bind (k v) f
  | change t k => .change t fun u => bind (k u) f
  | print data k => .print data fun u => bind (k u) f
  | write d data k => .write d data fun e => bind (k e) f
  | await d enough k => .await d enough fun data => bind (k data) f
  | unread d n k => .unread d n fun u => bind (k u) f
  | pause time k => .pause time fun u => bind (k u) f
  | start o k => .start o fun r => bind (k r) f
  | wait child deadline k => .wait child deadline fun r => bind (k r) f
  | become words env k => .become words env fun e => bind (k e) f
  | signal n target k => .signal n target fun b => bind (k b) f
  | ignore n k => .ignore n fun u => bind (k u) f
  | enter place k => .enter place fun u => bind (k u) f
  | lead k => .lead fun u => bind (k u) f

instance : Monad Work where
  pure := .done
  bind := bind


end Work

end JobMatrix.Program
