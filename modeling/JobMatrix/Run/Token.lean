import JobMatrix.Fault

/-! The token by which a run is cancelled. Processes are registered with it while they run; whoever
cancels terminates those that are registered, and whoever registers a process under a cancelled
token terminates it. Calls are made of atomic actions that may interleave. -/

namespace JobMatrix

/-- A call of some thread, and how far it has come. -/
inductive Token.Call where
  /-- A cancellation that has set the flag; the registered processes are still to be listed. -/
  | cancelling
  /-- A cancellation with the processes that it has still to terminate. -/
  | terminating (processes : List Nat)
  /-- A registration whose process is registered; the flag is still to be read. -/
  | registering (process : Nat)
  /-- A registration that has read the flag; a doomed process is still to be terminated. -/
  | registered (process : Nat) (doomed : Bool)
deriving DecidableEq, Repr

/-- The flag, the registered processes, those that were terminated, the latest first, and the calls
that were made, in the order in which they were made. -/
structure Token where
  cancelled : Bool := false
  registered : List Nat := []
  terminated : List Nat := []
  calls : List Token.Call := []
deriving DecidableEq, Repr, Inhabited

namespace Token

/-- The atomic actions. Those that go on with a call name its position among the calls. -/
inductive Action where
  /-- A cancellation begins: it sets the flag. -/
  | set
  /-- A cancellation lists the registered processes. -/
  | list (call : Nat)
  /-- A call terminates a process. -/
  | terminate (call process : Nat)
  /-- A registration begins: it registers the process. -/
  | register (process : Nat)
  /-- A registration reads the flag. -/
  | check (call : Nat)
  | unregister (process : Nat)
deriving DecidableEq, Repr

/-- The token when a call has terminated a process and has come to `c`. -/
def terminate (t : Token) (k p : Nat) (c : Call) : Token :=
  { t with terminated := p :: t.terminated, calls := t.calls.set k c }

/-- The token after an action; none where the action cannot happen. The processes that a
cancellation has listed are terminated in whatever order. -/
def step (t : Token) : Action → Option Token
  | .set => some { t with cancelled := true, calls := t.calls ++ [.cancelling] }
  | .list k =>
    match t.calls[k]? with
    | some .cancelling => some { t with calls := t.calls.set k (.terminating t.registered) }
    | _ => none
  | .terminate k p =>
    match t.calls[k]? with
    | some (.terminating ps) =>
      if p ∈ ps then some (t.terminate k p (.terminating (ps.erase p))) else none
    | some (.registered q true) =>
      if p = q then some (t.terminate k p (.registered q false)) else none
    | _ => none
  | .register p =>
    some { t with registered := p :: t.registered.erase p, calls := t.calls ++ [.registering p] }
  | .check k =>
    match t.calls[k]? with
    | some (.registering p) => some { t with calls := t.calls.set k (.registered p t.cancelled) }
    | _ => none
  | .unregister p => some { t with registered := t.registered.erase p }

def cancel (t : Token) : Token :=
  { t with cancelled := true, terminated := t.registered.reverse ++ t.terminated }

def check (t : Token) : Except Fault Unit :=
  if t.cancelled then .error (.cancelled "run") else .ok ()

end Token

end JobMatrix
