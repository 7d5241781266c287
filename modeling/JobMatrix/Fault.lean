import JobMatrix.ConfigError
import JobMatrix.History.Refusal
import JobMatrix.Markup.Basic
import JobMatrix.SystemError
import JobMatrix.Value.Json

/-! Everything that can stop an operation, each by its cause, and the text of each. -/

namespace JobMatrix

/-- What is wrong with a date or a time. -/
inductive DateFault where
  | year (n : Nat)
  | month
  | day
  | hour
  | minute
  | second
  | offset (minutes : Int)

inductive Fault where
  | config (e : ConfigError)
  | cancelled (subject : String)
  /-- Values of kinds that do not go together. -/
  | mismatch
  /-- A part that a value of this kind does not have. -/
  | noAttribute
  /-- Nesting beyond what is followed. -/
  | tooDeep
  | numberTooLarge
  | codeOutOfRange
  | codeTooLarge
  | notInteger (base : Nat) (text : String)
  | notNumber (text : String)
  | bytesNotInteger (data : List UInt8)
  | bytesNotNumber (data : List UInt8)
  | tooManyDigits (count : Nat)
  /-- An integer with too many digits to be written. -/
  | tooLongToShow
  /-- A value without JSON text. -/
  | unwritable (o : Json.Obstacle)
  | misplaced (m : Markup.Misplaced)
  | unknownLevel (name : String)
  | emptyText
  | unknownKey (key : String)
  | badDate (d : DateFault)
  /-- A position beyond the end of a list of steps. -/
  | noSuchItem
  | history (r : History.Refusal)
  | system (e : SystemError) (path : String)
  | noHome
  | settingsUnreadable (path detail : String)
  | settingsNotMapping (path : String)
  | settingsUnwritable (path detail : String)
  | nanToInt
  | infinityToInt
  /-- A command without words. -/
  | emptyCommand
  | nullByte
  | illegalVariable
  /-- What a part from outside raises, by its kind. -/
  | foreign (kind text : String)

namespace Fault

def dateText : DateFault → String
  | .year n => s!"year {n} is out of range"
  | .month => "month must be in 1..12"
  | .day => "day is out of range for month"
  | .hour => "hour must be in 0..23"
  | .minute => "minute must be in 0..59"
  | .second => "second must be in 0..59"
  | .offset minutes =>
    "offset must be a timedelta strictly between -timedelta(hours=24) and timedelta(hours=24), " ++
      "not " ++ Moment.spanLiteral minutes ++ "."

def text : Fault → String
  | config e => e.text
  | cancelled subject => subject ++ " cancelled"
  | mismatch => ""
  | noAttribute => ""
  | tooDeep => "maximum recursion depth exceeded"
  | numberTooLarge => "int too large to convert to float"
  | codeOutOfRange => "chr() arg not in range(0x110000)"
  | codeTooLarge => "Python int too large to convert to C int"
  | notInteger base text =>
    s!"invalid literal for int() with base {base}: " ++ Text.literal text
  | notNumber text => "could not convert string to float: " ++ Text.literal text
  | bytesNotInteger data =>
    "invalid literal for int() with base 10: " ++ Scalar.bytesLiteral data
  | bytesNotNumber data => "could not convert string to float: " ++ Scalar.bytesLiteral data
  | tooManyDigits count =>
    "Exceeds the limit (4300 digits) for integer string conversion: value has " ++
      s!"{count} digits; use sys.set_int_max_str_digits() to increase the limit"
  | tooLongToShow =>
    "Exceeds the limit (4300 digits) for integer string conversion; " ++
      "use sys.set_int_max_str_digits() to increase the limit"
  | unwritable o => o.text
  | misplaced m => m.text
  | unknownLevel name => "Unknown level: " ++ Text.literal name
  | emptyText => "string index out of range"
  | unknownKey key => Text.literal key
  | badDate d => dateText d
  | noSuchItem => "tuple index out of range"
  | history r => r.text
  | system e path => e.text path
  | noHome => "Could not determine home directory."
  | settingsUnreadable path detail => "Failed to load config from " ++ path ++ ": " ++ detail
  | settingsNotMapping path => "Config file " ++ path ++ " must contain a mapping"
  | settingsUnwritable path detail => "Failed to save config to " ++ path ++ ": " ++ detail
  | nanToInt => "cannot convert float NaN to integer"
  | infinityToInt => "cannot convert float infinity to integer"
  | emptyCommand => "list index out of range"
  | nullByte => "embedded null byte"
  | illegalVariable => "illegal environment variable name"
  | foreign _ text => text

end Fault

end JobMatrix
