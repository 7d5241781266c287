/-! Log entries: a level, the part of the program that speaks, and a message. -/

namespace JobMatrix

inductive Level where
  | debug
  | info
  | warning
  | error
deriving DecidableEq, Repr

namespace Level

def name : Level → String
  | debug => "DEBUG"
  | info => "INFO"
  | warning => "WARNING"
  | error => "ERROR"

def rank : Level → Nat
  | debug => 10
  | info => 20
  | warning => 30
  | error => 40

end Level

/-- The parts of the program that write log entries. -/
inductive Source where
  | matrix
  | trigger
  | step
  | runner
  | pipeline
  | declaration
  | hook
  | data
  | config
  | cli
deriving DecidableEq, Repr

def Source.name : Source → String
  | matrix => "matrixci.matrix"
  | trigger => "matrixci.trigger"
  | step => "matrixci.step"
  | runner => "matrixci.runner"
  | pipeline => "matrixci.pipeline"
  | declaration => "matrixci.declaration"
  | hook => "matrixci.hook"
  | data => "matrixci.data"
  | config => "matrixci.config"
  | cli => "matrixci.cli"

structure LogEntry where
  level : Level
  source : Source
  message : String
deriving DecidableEq, Repr

def LogEntry.line (e : LogEntry) : String := e.source.name ++ ": " ++ e.message

end JobMatrix
