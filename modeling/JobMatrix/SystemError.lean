import JobMatrix.Value.Literal

/-! The ways in which the operating system refuses an operation on files and processes. -/

namespace JobMatrix

inductive SystemError where
  | notPermitted
  | noEntry
  | noProcess
  | noDevice
  | badFormat
  | badDescriptor
  | permission
  | alreadyThere
  | notDirectory
  | isDirectory
  | invalid
  | noSpace
  | brokenPipe
  | nameTooLong
  | notEmpty
  | linkLoop
deriving DecidableEq, Repr

namespace SystemError

def number : SystemError → Nat
  | notPermitted => 1
  | noEntry => 2
  | noProcess => 3
  | noDevice => 6
  | badFormat => 8
  | badDescriptor => 9
  | permission => 13
  | alreadyThere => 17
  | notDirectory => 20
  | isDirectory => 21
  | invalid => 22
  | noSpace => 28
  | brokenPipe => 32
  | nameTooLong => 36
  | notEmpty => 39
  | linkLoop => 40

def reason : SystemError → String
  | notPermitted => "Operation not permitted"
  | noEntry => "No such file or directory"
  | noProcess => "No such process"
  | noDevice => "No such device or address"
  | badFormat => "Exec format error"
  | badDescriptor => "Bad file descriptor"
  | permission => "Permission denied"
  | alreadyThere => "File exists"
  | notDirectory => "Not a directory"
  | isDirectory => "Is a directory"
  | invalid => "Invalid argument"
  | noSpace => "No space left on device"
  | brokenPipe => "Broken pipe"
  | nameTooLong => "File name too long"
  | notEmpty => "Directory not empty"
  | linkLoop => "Too many levels of symbolic links"

/-- The refusal of an operation on `path`. -/
def text (e : SystemError) (path : String) : String :=
  s!"[Errno {e.number}] {e.reason}: " ++ Text.literal path

end SystemError

end JobMatrix
