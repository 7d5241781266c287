import JobMatrix.Dict

/-! What the descriptors of a process lead to, how processes end, and the signals that end them. -/

namespace JobMatrix

inductive Descriptor where
  | null
  /-- Zeros without end. -/
  | zero
  /-- Takes nothing. -/
  | full
  /-- A stream that is kept for whoever started the process. -/
  | stream (id : Nat)
  | pipe (id : Nat) (writes : Bool)
  /-- A file opened under a handle, which holds the position in it. -/
  | file (handle : Nat)
deriving DecidableEq, Repr, Inhabited

abbrev Descriptors := Dict Nat Descriptor

inductive Ending where
  | code (n : Nat)
  | signal (n : Nat)
deriving DecidableEq, Repr, Inhabited

namespace Ending

def returnCode : Ending → Int
  | code n => n
  | signal n => -n

def status : Ending → Nat
  | code n => n
  | signal n => 128 + n

end Ending

/-- A signal: its number, its name, and what is said of a process that dies from it. -/
structure Signal where
  number : Nat
  name : String
  text : String
deriving Repr

namespace Signal

def known : List Signal := [
  ⟨1, "HUP", "Hangup"⟩, ⟨2, "INT", "Interrupt"⟩, ⟨3, "QUIT", "Quit"⟩,
  ⟨4, "ILL", "Illegal instruction"⟩, ⟨5, "TRAP", "Trace/breakpoint trap"⟩, ⟨6, "ABRT", "Aborted"⟩,
  ⟨7, "BUS", "Bus error"⟩, ⟨8, "FPE", "Floating point exception"⟩, ⟨9, "KILL", "Killed"⟩,
  ⟨10, "USR1", "User defined signal 1"⟩, ⟨11, "SEGV", "Segmentation fault"⟩,
  ⟨12, "USR2", "User defined signal 2"⟩, ⟨13, "PIPE", "Broken pipe"⟩, ⟨14, "ALRM", "Alarm clock"⟩,
  ⟨15, "TERM", "Terminated"⟩, ⟨16, "STKFLT", "Stack fault"⟩, ⟨17, "CHLD", "Child exited"⟩,
  ⟨18, "CONT", "Continued"⟩, ⟨19, "STOP", "Stopped (signal)"⟩, ⟨20, "TSTP", "Stopped"⟩,
  ⟨21, "TTIN", "Stopped (tty input)"⟩, ⟨22, "TTOU", "Stopped (tty output)"⟩,
  ⟨23, "URG", "Urgent I/O condition"⟩, ⟨24, "XCPU", "CPU time limit exceeded"⟩,
  ⟨25, "XFSZ", "File size limit exceeded"⟩, ⟨26, "VTALRM", "Virtual timer expired"⟩,
  ⟨27, "PROF", "Profiling timer expired"⟩, ⟨28, "WINCH", "Window changed"⟩,
  ⟨29, "IO", "I/O possible"⟩, ⟨30, "PWR", "Power failure"⟩, ⟨31, "SYS", "Bad system call"⟩]

def kill : Nat := 9

def brokenPipe : Nat := 13

def harmless : List Nat := [17, 18, 19, 20, 21, 22, 23, 28]

def number? (s : String) : Option Nat :=
  match s.toNat? with
  | some n => if n ≤ 64 then some n else none
  | none =>
    let upper := s.map Char.toUpper
    let bare := if upper.startsWith "SIG" then String.ofList (upper.toList.drop 3) else upper
    (known.find? fun g => g.name == bare).map (·.number)

def name? (n : Nat) : Option String := (known.find? fun g => g.number == n).map (·.name)

def title? (n : Nat) : Option String :=
  if n == 0 || 64 < n then none
  else if n == 16 || n == 32 || n == 33 then some (toString n)
  else if n == 34 then some "RTMIN"
  else if n == 64 then some "RTMAX"
  else if 34 < n && n < 50 then some s!"RTMIN+{n - 34}"
  else if 50 ≤ n then some s!"RTMAX-{64 - n}"
  else name? n

/-- The number of what a shell calls a signal, or of a number; the end of the shell is the signal
zero. -/
def entitled? (s : String) : Option Nat :=
  if !s.isEmpty && s.toList.all Char.isDigit then s.toNat?.filter (· < 65)
  else
    let upper := s.map Char.toUpper
    if upper == "EXIT" then some 0
    else (List.range 65).find? fun n => title? n == some upper

/-- What a shell says of a child that died from a signal; some go without a word. -/
def obituary? (n : Nat) : Option String :=
  if n == 2 || n == brokenPipe then none
  else some (((known.find? fun g => g.number == n).map (·.text)).getD s!"Signal {n}")

end Signal

end JobMatrix
