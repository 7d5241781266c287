import JobMatrix.Number.Layout
import JobMatrix.Host.Program.Columns
import JobMatrix.Host.Regex.Read

/-! Lines with numbers before them, in pages of a header, a body and a footer. -/

namespace JobMatrix.Program

namespace Numbering

inductive Chosen where
  | all
  | filled
  | none
  | pattern (r : Regex)

inductive Section where
  | header
  | body
  | footer
deriving DecidableEq, Repr

def Section.name : Section → String
  | header => "header"
  | body => "body"
  | footer => "footer"

inductive Side where
  | left
  | right
  | zeros
deriving DecidableEq, Repr

structure Style where
  chosen : Section → Chosen
  mark : List UInt8 := [92, 58]
  step : Int := 1
  /-- Of so many empty lines in a row one counts. -/
  join : Int := 1
  side : Side := .right
  restarts : Bool := true
  separator : String := "\t"
  start : Int := 1
  width : Nat := 6
  wide : Bool := false

structure State where
  part : Section := .body
  number : Int
  blanks : Int := 1

def Style.field (s : Style) (n : Int) : List UInt8 :=
  let layout : Layout :=
    { width := s.width, left := s.side == .left, zeros := s.side == .zeros }
  layout.integer n ++ Octets.ofText s.separator

def Style.gap (s : Style) : List UInt8 :=
  List.replicate (s.width + (Octets.ofText s.separator).length) 32

def Style.section? (s : Style) (line : List UInt8) : Option Section :=
  if s.mark.isEmpty then none
  else if line == s.mark ++ s.mark ++ s.mark then some .header
  else if line == s.mark ++ s.mark then some .body
  else if line == s.mark then some .footer
  else none

def Style.line (s : Style) (st : State) (line : List UInt8) : State × List UInt8 :=
  match s.section? line with
  | some part => ({ st with part, number := if s.restarts then s.start else st.number }, [10])
  | none =>
    let counted (st : State) : State × List UInt8 :=
      ({ st with number := st.number + s.step }, s.field st.number ++ line ++ [10])
    let bare (st : State) : State × List UInt8 := (st, s.gap ++ line ++ [10])
    match s.chosen st.part with
    | .none => bare st
    | .filled => if line.isEmpty then bare st else counted st
    | .pattern r =>
      if r.isIn { chars := (Octets.units s.wide line).toArray } then counted st else bare st
    | .all =>
      if s.join ≤ 1 then counted st
      else if !line.isEmpty || st.blanks == s.join then counted { st with blanks := 1 }
      else bare { st with blanks := st.blanks + 1 }

def Style.lines (s : Style) (st : State) (ls : List (List UInt8)) : State × List UInt8 :=
  let (st, out) := ls.foldl (fun (acc : State × List (List UInt8)) l =>
    let (st, data) := s.line acc.1 l
    (st, data :: acc.2)) (st, [])
  (st, out.reverse.flatten)

def options : Options :=
  { letters := "h:b:f:v:i:pl:s:w:n:d:",
    long := [("header-numbering", "h"), ("body-numbering", "b"), ("footer-numbering", "f"),
      ("starting-line-number", "v"), ("line-increment", "i"), ("no-renumber", "p"),
      ("join-blank-lines", "l"), ("number-separator", "s"), ("number-width", "w"),
      ("number-format", "n"), ("section-delimiter", "d")] ++ [("help", "help"), ("version", "version")] }

structure Problem where
  text : String
  atOnce : Bool := true

def Style.withOption (s : Style) (mark : String → String) (c : Choice) : Except Problem Style := do
  let a := c.argument.getD ""
  let number (what : String) (low high : Int) : Except Problem Int :=
    (bounded low high a).mapError fun why => { text := "invalid " ++ what ++ ": " ++ mark a ++ why }
  let chosen (part : Section) : Except Problem Style := do
    let k ← match a.toList with
      | 'a' :: _ => pure Chosen.all
      | 't' :: _ => pure Chosen.filled
      | 'n' :: _ => pure Chosen.none
      | 'p' :: cs =>
        let (r, _) ← (Regex.read {} (Octets.units s.wide (Octets.ofChars cs))).mapError
          fun e => ({ text := e.text } : Problem)
        pure (Chosen.pattern r)
      | _ =>
        let text := "invalid " ++ part.name ++ " numbering style: " ++ mark a
        throw { text, atOnce := false }
    return { s with chosen := fun q => if q == part then k else s.chosen q }
  let huge : Int := 2 ^ 63 - 1
  match c.key with
  | "h" => chosen .header
  | "b" => chosen .body
  | "f" => chosen .footer
  | "v" => return { s with start := ← number "starting line number" (-huge - 1) huge }
  | "i" => return { s with step := ← number "line number increment" (-huge - 1) huge }
  | "l" => return { s with join := ← number "line number of blank lines" 1 huge }
  | "w" => return { s with width := (← number "line number field width" 1 (2 ^ 31 - 1)).toNat }
  | "p" => return { s with restarts := false }
  | "s" => return { s with separator := a }
  | "d" =>
    let data := Octets.ofText a
    return { s with mark := if data.length == 1 then data ++ s.mark.drop 1 else data }
  | "n" =>
    match a with
    | "ln" => return { s with side := .left }
    | "rn" => return { s with side := .right }
    | "rz" => return { s with side := .zeros }
    | _ => throw { text := "invalid line numbering format: " ++ mark a, atOnce := false }
  | _ => return s

def Style.withAll (mark : String → String) : Style → List Choice → Style × List Problem
  | s, [] => (s, [])
  | s, c :: rest =>
    match s.withOption mark c with
    | .ok s => s.withAll mark rest
    | .error e =>
      if e.atOnce then (s, [e])
      else
        let (s, es) := s.withAll mark rest
        (s, e :: es)

def files (s : Style) : State → List String → Work Bool
  | _, [] => return true
  | st, path :: rest => do
    match ← readSource path with
    | .ok data =>
      let (st, out) := s.lines st (bareLines data)
      say out
      files s st rest
    | .error e =>
      complain ("nl: " ++ (← named path) ++ ": " ++ e.reason)
      let _ ← files s st rest
      return false

end Numbering

def nl (args : List String) : Work Nat :=
  Numbering.options.within "nl" args fun cs words => do
    let wide := (← view).isUtf8
    let start : Numbering.Style :=
      { chosen := fun part => if part == .body then .filled else .none, wide }
    let (style, problems) := start.withAll (Quoting.marked wide) cs
    forEach problems fun e => complain ("nl: " ++ e.text)
    match problems.getLast? with
    | some e => if e.atOnce then return 1 else refuse (hint "nl")
    | none =>
      let ok ← Numbering.files style { number := style.start } (if words.isEmpty then ["-"] else words)
      return codeOf ok

end JobMatrix.Program
