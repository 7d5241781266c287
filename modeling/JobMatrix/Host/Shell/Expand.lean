import JobMatrix.FileTree
import JobMatrix.Host.Shell.Arithmetic
import JobMatrix.Host.Shell.Parse
import JobMatrix.Text.Wildcard
import JobMatrix.Users

/-! The expansion of words: parameters, arithmetic, the outputs of scripts, splitting into fields, and
matching of file names. -/

namespace JobMatrix.Shell

open JobMatrix.Path (Place)

structure Variable where
  value : Option String := none
  exported : Bool := false
  readonly : Bool := false
deriving Repr, Inhabited

def options : List (String × Option Char) :=
  [("errexit", some 'e'), ("noglob", some 'f'), ("ignoreeof", some 'I'), ("interactive", some 'i'),
   ("monitor", some 'm'), ("noexec", some 'n'), ("stdin", some 's'), ("xtrace", some 'x'),
   ("verbose", some 'v'), ("vi", some 'V'), ("emacs", some 'E'), ("noclobber", some 'C'),
   ("allexport", some 'a'), ("notify", some 'b'), ("nounset", some 'u'), ("privileged", some 'p'),
   ("nolog", none), ("debug", none)]

structure Scope where
  name : String := "sh"
  args : List String := []
  vars : Dict String Variable := []
  status : Nat := 0
  id : Nat := 0
  lastJob : Option Nat := none
  /-- The options that are on. -/
  options : List String := []
deriving Inhabited

namespace Scope

def has (s : Scope) (option : String) : Bool := s.options.contains option

def switch (s : Scope) (option : String) (on : Bool) : Scope :=
  let others := s.options.filter (· != option)
  { s with options := if on then option :: others else others }

def flags (s : Scope) : String :=
  String.ofList (Shell.options.reverse.filterMap fun o => if s.has o.1 then o.2 else none)

def get? (s : Scope) (name : String) : Option String := (Dict.get? s.vars name).bind (·.value)

def set (s : Scope) (name value : String) : Scope :=
  let old := (Dict.get? s.vars name).getD {}
  let new := { old with value := some value, exported := old.exported || s.has "allexport" }
  { s with vars := Dict.put s.vars name new }

def assign (s : Scope) (name value : String) : Except String Scope :=
  if (Dict.get? s.vars name).elim false (·.readonly) then .error (name ++ ": is read only")
  else .ok (s.set name value)

def values (s : Scope) : Env := s.vars.filterMap fun v => v.2.value.map fun x => (v.1, x)

def exported (s : Scope) : Env :=
  s.vars.filterMap fun v => if v.2.exported then v.2.value.map fun x => (v.1, x) else none

def bucket (name : String) : Nat :=
  let codes := (name.toUTF8.toList).map UInt8.toNat
  (16 * codes.headD 0 + codes.foldl (· + ·) 0) % 39

/-- The variables that programs inherit, in the order in which they are handed on: by group. -/
def environment (s : Scope) : Env :=
  s.exported.mergeSort fun a b => bucket a.1 ≤ bucket b.1

def parameter? (s : Scope) (name : String) : Option String :=
  match name with
  | "?" => some (toString s.status)
  | "$" => some (toString s.id)
  | "!" => s.lastJob.map toString
  | "#" => some (toString s.args.length)
  | "-" => some s.flags
  | "0" => some s.name
  | "@" => if s.args.isEmpty then none else some (" ".intercalate s.args)
  | "*" => if s.args.isEmpty then none else some (" ".intercalate s.args)
  | _ =>
    match name.toNat? with
    | some 0 => some s.name
    | some n => s.args[n - 1]?
    | none => s.get? name

end Scope

/-- Why an expansion stops: for an error, or until a script has run in a scope. -/
inductive Halt where
  | problem (text : String)
  | needs (s : Script) (scope : Scope)

/-- The scope of an expansion, and the outputs of its scripts that have not been used yet. -/
structure Stage where
  scope : Scope
  outputs : List String := []

/-- Expands something. An expansion that stops for a script is done again with one output more. -/
abbrev Expansion := StateT Stage (Except Halt)

namespace Expansion

def scope : Expansion Scope := do return (← get).scope

def setScope (scope : Scope) : Expansion Unit := modify fun s => { s with scope }

def refuse {α : Type} (text : String) : Expansion α := throw (.problem text)

def assign (name value : String) : Expansion Unit := do
  match (← scope).assign name value with
  | .ok s => setScope s
  | .error e => refuse e

def output (s : Script) : Expansion String := do
  let stage ← get
  match s, stage.outputs with
  | .nothing, _ => return ""
  | _, o :: outputs =>
    set { stage with outputs }
    return o
  | s, [] => throw (.needs s stage.scope)

end Expansion

/-- A character with whether it can divide fields and whether it can match file names, or a mark:
the end of a field, an empty quoted text, or a list of arguments that is empty. -/
inductive Bit where
  | char (c : Char) (splits matches' : Bool)
  | stop
  | edge
  | vanish
deriving Repr

def bitsOf (s : String) (splits matches' : Bool) : List Bit :=
  s.toList.map fun c => .char c splits matches'

def textOf (bits : List Bit) : String :=
  String.ofList (bits.filterMap fun b => match b with
    | .char c _ _ => some c
    | .stop => some ' '
    | _ => none)

def patternOf (bits : List Bit) : List Glob.Part :=
  Wildcard.parts false (bits.flatMap fun b => match b with
    | .char c _ special => (Octets.charBytes c).map fun b => (Char.ofNat b.toNat, special)
    | .stop => [(' ', false)]
    | _ => [])

def cutEnd (longest : Bool) (pattern : List Glob.Part) (text : String) : String :=
  let data := Octets.ofText text
  let fits := Glob.fitsFrom pattern (data.map fun b => Char.ofNat b.toNat)
  let cuts := (fits.zipIdx.filter (·.1)).map (·.2)
  match if longest then cuts.head? else cuts.getLast? with
  | some n => Octets.text (data.take n)
  | none => text

def cutStart (longest : Bool) (pattern : List Glob.Part) (text : String) : String :=
  let data := Octets.ofText text
  let cs := data.map fun b => Char.ofNat b.toNat
  let cuts := List.range (data.length + 1)
  let cuts := if longest then cuts.reverse else cuts
  match cuts.find? fun n => Glob.accepts pattern (cs.take n) with
  | some n => Octets.text (data.drop n)
  | none => text

def argumentBits (quoted : Bool) (args : List String) : List Bit :=
  match args with
  | [] => [.vanish]
  | a :: rest =>
    rest.foldl (fun bits arg => bits ++ .stop :: mark arg) (mark a)
where
  mark (arg : String) : List Bit :=
    if quoted then .edge :: bitsOf arg false false else bitsOf arg true true

def valueBits (name value : String) (quoted : Bool) : Expansion (List Bit) := do
  let s ← Expansion.scope
  if name == "@" || (name == "*" && !quoted) then return argumentBits quoted s.args
  else if name == "*" then
    let joint := match s.get? "IFS" with
      | some ifs => String.ofList (ifs.toList.take 1)
      | none => " "
    return bitsOf (joint.intercalate s.args) false false
  else return bitsOf value (!quoted) (!quoted)

mutual

def pieceBits : Piece → Expansion (List Bit)
  | .text s quoted =>
    return if quoted then .edge :: bitsOf s false false else bitsOf s false true
  | .output s quoted => do return bitsOf (← Expansion.output s) (!quoted) (!quoted)
  | .home user => do
    let s ← Expansion.scope
    let home? := if user.isEmpty then s.get? "HOME" else Users.home? user
    return bitsOf (home?.getD ("~" ++ user)) false false
  | .arithmetic expression quoted => do
    let text := textOf (← piecesBits expression)
    let s ← Expansion.scope
    match Arithmetic.evaluate s.values text with
    | .error e => Expansion.refuse e
    | .ok (n, vars) =>
      for v in vars do
        if s.get? v.1 != some v.2 then Expansion.assign v.1 v.2
      return bitsOf (toString n) (!quoted) (!quoted)
  | .parameter name operation word quoted => do
    if operation == .malformed then Expansion.refuse "Bad substitution"
    let s ← Expansion.scope
    let found := s.parameter? name
    let lacking (strict : Bool) : Bool := found.isNone || (strict && found == some "")
    let wordText : Expansion String := do return textOf (← piecesBits word)
    let nothing : List Bit := if name == "@" then [.vanish] else []
    match operation with
    | .orElse strict =>
      if lacking strict then piecesBits word else valueBits name (found.getD "") quoted
    | .orAssign strict =>
      if lacking strict then
        let text ← wordText
        if !isName name then Expansion.refuse (name ++ ": bad variable name")
        Expansion.assign name text
        return bitsOf text (!quoted) (!quoted)
      else valueBits name (found.getD "") quoted
    | .orFail strict =>
      if lacking strict then
        let text ← wordText
        Expansion.refuse (name ++ ": " ++ (if text.isEmpty then
          (if strict then "parameter not set or null" else "parameter not set") else text))
      else valueBits name (found.getD "") quoted
    | .ifSet strict => if lacking strict then return [] else piecesBits word
    | operation =>
      if found.isNone && s.has "nounset" && name != "@" && name != "*" then
        Expansion.refuse (name ++ ": parameter not set")
      match operation with
      | .length =>
        return bitsOf (toString (Octets.ofText (found.getD "")).length) (!quoted) (!quoted)
      | .cutEnd longest =>
        let pattern := patternOf (← piecesBits word)
        return bitsOf (cutEnd longest pattern (found.getD "")) (!quoted) (!quoted)
      | .cutStart longest =>
        let pattern := patternOf (← piecesBits word)
        return bitsOf (cutStart longest pattern (found.getD "")) (!quoted) (!quoted)
      | _ =>
        if found.isNone && !(name == "*") then return nothing
        else valueBits name (found.getD "") quoted

def piecesBits : List Piece → Expansion (List Bit)
  | [] => return []
  | p :: rest => do
    let first ← pieceBits p
    return first ++ (← piecesBits rest)

end

/-- A field in the making: its characters in reverse, and whether it counts though it is empty. -/
structure Field where
  chars : List (Char × Bool) := []
  counts : Bool := false
  vanishes : Bool := false

namespace Field

def isNew (f : Field) : Bool := f.chars.isEmpty && !f.counts

def finish (f : Field) : List (List (Char × Bool)) :=
  if !f.chars.isEmpty then [f.chars.reverse]
  else if f.counts && !f.vanishes then [[]]
  else []

end Field

def isBlankSeparator (c : Char) : Bool := c == ' ' || c == '\t' || c == '\n'

/-- Divides bits into fields at the separators `ifs`. Blank separators only divide; any other ends a
field, even an empty one, unless blanks have ended a field right before it, as `divided` says. -/
def split (ifs : List Char) (f : Field) (divided : Bool) : List Bit → List (List (Char × Bool))
  | [] => f.finish
  | .stop :: rest => f.finish ++ split ifs {} false rest
  | .edge :: rest => split ifs { f with counts := true } divided rest
  | .vanish :: rest => split ifs { f with vanishes := true } divided rest
  | .char c splits special :: rest =>
    if splits && ifs.contains c then
      if isBlankSeparator c then
        if f.isNew then split ifs f divided rest
        else f.finish ++ split ifs {} true rest
      else if divided && f.isNew then split ifs {} false rest
      else { f with counts := true, vanishes := false }.finish ++ split ifs {} false rest
    else split ifs { f with chars := (c, special) :: f.chars } false rest

def isWild (c : Char × Bool) : Bool := c.2 && (c.1 == '*' || c.1 == '?' || c.1 == '[')

/-- The names in a directory that fit a pattern; those with a leading dot only if the pattern has
one. -/
def namesFitting (t : FileTree) (place : Place) (part : List (Char × Bool)) : List String :=
  let hidden := (part.head?.map (·.1)) == some '.'
  let pattern := patternOf (part.map fun c => .char c.1 false c.2)
  let names := if hidden then [".", ".."] ++ t.list place else t.list place
  names.filter fun n => (hidden || !n.startsWith ".") && Wildcard.accepts pattern n

def pathsFitting (t : FileTree) (lead : String) (place : Place) :
    List (List (Char × Bool)) → List String
  | [] => []
  | part :: rest =>
    let plain := String.ofList (part.map (·.1))
    let names := if part.any isWild then namesFitting t place part
      else if plain.isEmpty || plain == "." then [plain]
      else if (t.entry? (Path.step place plain)).isSome then [plain]
      else []
    if rest.isEmpty then names.map (lead ++ ·)
    else names.flatMap fun n =>
      let next := if n.isEmpty || n == "." then place else Path.step place n
      let next := (t.locate [] (Path.ofPlace next)).toOption.getD next
      if (t.entry? next).elim false Entry.isDirectory then
        pathsFitting t (lead ++ n ++ "/") next rest
      else []

def atSlashes (part : List (Char × Bool)) : List (Char × Bool) → List (List (Char × Bool))
  | [] => [part.reverse]
  | c :: rest =>
    if c.1 == '/' then part.reverse :: atSlashes [] rest else atSlashes (c :: part) rest

def filesOf (t : FileTree) (cwd : Place) (noglob : Bool) (field : List (Char × Bool)) :
    List String :=
  let plain := String.ofList (field.map (·.1))
  if noglob || !field.any isWild then [plain]
  else
    let absolute := plain.startsWith "/"
    let found := match atSlashes [] field with
      | [] => []
      | first :: rest =>
        if absolute then pathsFitting t "/" [] rest else pathsFitting t "" cwd (first :: rest)
    if found.isEmpty then [plain] else found.mergeSort fun a b => a ≤ b

def wordFields (t : FileTree) (cwd : Place) (w : Word) : Expansion (List String) := do
  let bits ← piecesBits w
  let s ← Expansion.scope
  let ifs := ((s.get? "IFS").getD " \t\n").toList
  return (split ifs {} false bits).flatMap (filesOf t cwd (s.has "noglob"))

def wordText (w : Word) : Expansion String := do return textOf (← piecesBits w)

def wordPattern (w : Word) : Expansion (List Glob.Part) := do return patternOf (← piecesBits w)

def fieldsOf (t : FileTree) (cwd : Place) : List Word → Expansion (List String)
  | [] => return []
  | w :: rest => do
    let first ← wordFields t cwd w
    return first ++ (← fieldsOf t cwd rest)

def assigning : List String := ["export", "readonly", "local"]

/-- The fields of the words of a command. The values of assignments that are arguments of a command
that takes such are not divided. -/
def commandFields (t : FileTree) (cwd : Place) : List Word → Expansion (List String)
  | [] => return []
  | w :: rest => do
    let first ← wordFields t cwd w
    match first with
    | [] => commandFields t cwd rest
    | ["command"] => return "command" :: (← commandFields t cwd rest)
    | name :: _ =>
      if assigning.contains name then
        return first ++ (← arguments rest)
      else return first ++ (← fieldsOf t cwd rest)
where
  arguments : List Word → Expansion (List String)
    | [] => return []
    | w :: rest => do
      let fields ← match Reader.assignment? w with
        | some (name, value) => do pure [name ++ "=" ++ (← wordText value)]
        | none => wordFields t cwd w
      return fields ++ (← arguments rest)

end JobMatrix.Shell
