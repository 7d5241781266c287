import JobMatrix.Host.Program.Amount
import JobMatrix.Host.Program.Files
import JobMatrix.Host.Program.Order

/-! Programs that work on the columns of lines: they cut parts out of them, paste them together, and
break them at a width. -/

namespace JobMatrix.Program

namespace Cut

/-- Numbers from one to another, counted from one; without an upper bound if there is none. -/
structure Span where
  low : Nat
  high : Option Nat
deriving Repr

def Span.holds (s : Span) (n : Nat) : Bool := s.low ≤ n && s.high.elim true (n ≤ ·)

inductive Problem where
  | zero
  | decreasing
  | endless
  | value (text : String)

def Problem.text (fields : Bool) : Problem → String
  | zero => if fields then "fields are numbered from 1"
      else "byte/character positions are numbered from 1"
  | decreasing => "invalid decreasing range"
  | endless => "invalid range with no endpoint: -"
  | value s => (if fields then "invalid field value " else "invalid byte/character position ") ++ s

def span (part rest : List Char) : Except Problem Span :=
  let low := part.takeWhile Char.isDigit
  let after := part.drop low.length
  let n := Number.natOfDigits low
  match after with
  | [] => if n == 0 then .error .zero else .ok ⟨n, some n⟩
  | '-' :: high =>
    let digits := high.takeWhile Char.isDigit
    if digits.length != high.length then
      .error (.value (String.ofList (high.drop digits.length ++ rest)))
    else if low.isEmpty && high.isEmpty then .error .endless
    else if !low.isEmpty && n == 0 then .error .zero
    else
      let from' := if low.isEmpty then 1 else n
      if high.isEmpty then .ok ⟨from', none⟩
      else
        let last := Number.natOfDigits high
        if last < from' then .error .decreasing else .ok ⟨from', some last⟩
  | _ => .error (.value (String.ofList (after ++ rest)))

def spans : Nat → List Char → Except Problem (List Span)
  | 0, _ => .ok []
  | fuel + 1, cs =>
    let divides (c : Char) : Bool := c == ',' || c == ' ' || c == '\t'
    let part := cs.takeWhile (!divides ·)
    match cs.drop part.length with
    | [] => do return [← span part []]
    | c :: rest => do return (← span part (c :: rest)) :: (← spans fuel rest)

def chosenRuns {α : Type} (chosen : Nat → Bool) (n : Nat) (run : List α) : List α → List (List α)
  | [] => if run.isEmpty then [] else [run.reverse]
  | x :: rest =>
    if chosen n then chosenRuns chosen (n + 1) (x :: run) rest
    else if run.isEmpty then chosenRuns chosen (n + 1) [] rest
    else run.reverse :: chosenRuns chosen (n + 1) [] rest

def byteRuns (ss : List Span) (complement : Bool) (line : List UInt8) : List (List UInt8) :=
  chosenRuns (fun n => ss.any (·.holds n) != complement) 1 [] line

def fieldsOf (delimiter : UInt8) (field : List UInt8) : List UInt8 → List (List UInt8)
  | [] => [field.reverse]
  | b :: rest =>
    if b == delimiter then field.reverse :: fieldsOf delimiter [] rest
    else fieldsOf delimiter (b :: field) rest

def options : Options :=
  { letters := "b:c:d:f:nsz"
    long := [("bytes", "b"), ("characters", "c"), ("fields", "f"), ("delimiter", "d"),
      ("only-delimited", "s"), ("output-delimiter", "output:"), ("complement", "complement"),
      ("zero-terminated", "z")] ++ about }

end Cut

def eachSource (name : String) (paths : List String) (f : List UInt8 → Work Unit) : Work Nat := do
  let ok ← allOf (if paths.isEmpty then ["-"] else paths) fun path => do
    match ← readSource path with
    | .ok data =>
      f data
      return true
    | .error e =>
      complain (name ++ ": " ++ (← named path) ++ ": " ++ e.reason)
      return false
  return codeOf ok

def cut (args : List String) : Work Nat :=
  Cut.options.within "cut" args fun cs words => do
    let fail (text : String) : Work Nat := misuse "cut" ("cut: " ++ text)
    let lists := cs.filter fun c => ["b", "c", "f"].contains c.key
    match lists with
    | [] => fail "you must specify a list of bytes, characters, or fields"
    | _ :: _ :: _ => fail "only one list may be specified"
    | [c] =>
      let fields := c.key == "f"
      let text := c.argument.getD ""
      let delimiter := (lastOf? cs "d").map Octets.ofText
      if delimiter.elim false (1 < ·.length) then fail "the delimiter must be a single character"
      else if !fields && delimiter.isSome then
        fail "an input delimiter may be specified only when operating on fields"
      else if !fields && has cs "s" then
        fail "suppressing non-delimited lines makes sense\n\tonly when operating on fields"
      else match Cut.spans (text.length + 1) text.toList with
        | .error (.value s) => fail (Cut.Problem.text fields (.value (← marked s)))
        | .error e => fail (e.text fields)
        | .ok ss =>
          let ending : UInt8 := if has cs "z" then 0 else 10
          let complement := has cs "complement"
          let between := (lastOf? cs "output").map Octets.ofText
          let mark : UInt8 := match delimiter with
            | some (b :: _) => b
            | some [] => 0
            | none => 9
          let chosen (n : Nat) : Bool := ss.any (·.holds n) != complement
          let pick (fs : List (List UInt8)) : List UInt8 :=
            ((Cut.chosenRuns chosen 1 [] fs).flatten.intersperse (between.getD [mark])).flatten
          let line (l : List UInt8) : List UInt8 :=
            if fields then
              if !l.contains mark then (if has cs "s" then [] else l ++ [ending])
              else pick (Cut.fieldsOf mark [] l) ++ [ending]
            else match between with
              | none => (Cut.byteRuns ss complement l).flatten ++ [ending]
              | some d => ((Cut.byteRuns ss complement l).intersperse d).flatten ++ [ending]
          eachSource "cut" words fun data =>
            if fields && mark == ending then
              say (pick (bareLines data ending) ++ [ending])
            else say ((bareLines data ending).map line).flatten

namespace Paste

/-- The delimiters of a list; an empty one stands for none. -/
def delimiters : List Char → Option (List (List UInt8))
  | [] => some []
  | ['\\'] => none
  | '\\' :: c :: rest =>
    let one : List UInt8 := match c with
      | 'n' => [10]
      | 't' => [9]
      | '0' => []
      | 'b' => [8]
      | 'f' => [12]
      | 'r' => [13]
      | 'v' => [11]
      | c => Octets.charBytes c
    (delimiters rest).map (one :: ·)
  | c :: rest => (delimiters rest).map ((Octets.charBytes c).map id :: ·)

def joined (ds : Array (List UInt8)) (n : Nat) : List (List UInt8) → List UInt8
  | [] => []
  | [x] => x
  | x :: rest => x ++ (if ds.isEmpty then [] else ds.getD (n % ds.size) []) ++ joined ds (n + 1) rest

def rows : Nat → List (List (List UInt8)) → List (List (List UInt8))
  | 0, _ => []
  | n + 1, columns => columns.map (·.headD []) :: rows n (columns.map (·.drop 1))

/-- The lines at every `k`th place from the `n`th on. -/
def every (k n : Nat) (ls : List (List UInt8)) : List (List UInt8) :=
  (ls.zipIdx.filter fun l => l.2 % k == n).map (·.1)

/-- The lines of files; those of the input are dealt out in turn. -/
def columns (ending : UInt8) (dashes : Nat) (input : List (List UInt8)) :
    Nat → List (String × List UInt8) → List (List (List UInt8))
  | _, [] => []
  | n, (path, data) :: rest =>
    if path == "-" then every dashes n input :: columns ending dashes input (n + 1) rest
    else bareLines data ending :: columns ending dashes input n rest

end Paste

def paste (args : List String) : Work Nat :=
  let options : Options :=
    { letters := "d:sz"
      long := [("serial", "s"), ("delimiters", "d"), ("zero-terminated", "z")] ++ about }
  options.within "paste" args fun cs words => do
    let text := (lastOf? cs "d").getD "\t"
    match Paste.delimiters text.toList with
    | none =>
      refuse ("paste: delimiter list ends with an unescaped backslash: " ++ text)
    | some ds =>
      let ds := ds.toArray
      let ending : UInt8 := if has cs "z" then 0 else 10
      let paths := if words.isEmpty then ["-"] else words
      if has cs "s" then
        eachSource "paste" paths fun data =>
          say (Paste.joined ds 0 (bareLines data ending) ++ [ending])
      else
        let input ← if paths.contains "-" then readAll 0 else pure []
        match ← readSources' (paths.filter (· != "-")) with
        | .error (path, e) => refuse ("paste: " ++ (← named path) ++ ": " ++ e.reason)
        | .ok contents =>
          let files := assign paths contents
          let dashes := (paths.filter (· == "-")).length
          let columns := Paste.columns ending dashes (bareLines input ending) 0 files
          let count := columns.foldl (fun n c => max n c.length) 0
          say ((Paste.rows count columns).map fun r => Paste.joined ds 0 r ++ [ending]).flatten
          return 0
where
  readSources' : List String → Work (Except (String × SystemError) (List (List UInt8)))
    | [] => return .ok []
    | path :: rest => do
      match ← readPath path with
      | .error e => return .error (path, e)
      | .ok data =>
        match ← readSources' rest with
        | .ok others => return .ok (data :: others)
        | .error e => return .error e
  assign : List String → List (List UInt8) → List (String × List UInt8)
    | [], _ => []
    | "-" :: rest, ds => ("-", []) :: assign rest ds
    | p :: rest, ds => (p, ds.headD []) :: assign rest (ds.drop 1)

namespace Fold

def column (bytes : Bool) (n : Nat) (b : UInt8) : Nat :=
  if bytes then n + 1
  else if b == 8 then n - 1
  else if b == 13 then 0
  else if b == 9 then n + 8 - n % 8
  else n + 1

def columns (bytes : Bool) (line : List UInt8) : Nat := line.foldl (column bytes) 0

/-- A line in parts of a width; `line` holds the present part, its last byte first. -/
def parts (bytes atBlanks : Bool) (width : Nat) (line : List UInt8) (n : Nat) :
    Nat → List UInt8 → List (List UInt8)
  | 0, _ => [line.reverse]
  | _, [] => [line.reverse]
  | fuel + 1, b :: rest =>
    let next := column bytes n b
    if next ≤ width || line.isEmpty then parts bytes atBlanks width (b :: line) next fuel rest
    else if atBlanks && line.any Order.isBlank then
      let tail := line.takeWhile (!Order.isBlank ·)
      let first := (line.drop tail.length).reverse
      first :: parts bytes atBlanks width tail (columns bytes tail.reverse) fuel (b :: rest)
    else line.reverse :: parts bytes atBlanks width [] 0 fuel (b :: rest)

end Fold

def fold (args : List String) : Work Nat :=
  let options : Options :=
    { letters := "bsw:0123456789", long := [("bytes", "b"), ("spaces", "s"), ("width", "w")] ++ about }
  let args := args.map fun a => match a.toList with
    | '-' :: c :: rest => if c.isDigit then "-w" ++ String.ofList (c :: rest) else a
    | _ => a
  options.within "fold" args fun cs words => do
    let text := (lastOf? cs "w").getD "80"
    match plainNumber? text with
    | none => refuse ("fold: invalid number of columns: " ++ (← marked text))
    | some 0 =>
      refuse ("fold: invalid number of columns: " ++ (← marked text) ++
        ": Numerical result out of range")
    | some width =>
      eachSource "fold" words fun data =>
        say ((linesOf data).map fun l =>
          let body := bare l
          let ps := Fold.parts (has cs "b") (has cs "s") width [] 0 (2 * body.length + 2) body
          (ps.intersperse [10]).flatten ++ l.drop body.length).flatten

end JobMatrix.Program
