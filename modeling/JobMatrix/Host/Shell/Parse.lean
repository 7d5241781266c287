import JobMatrix.Host.Shell.Token

/-! Reading shell scripts. A script is read line by line, each line as far as its commands reach. -/

namespace JobMatrix.Shell

namespace Reader

def specialParameters : List Char := ['@', '*', '#', '?', '-', '$', '!']

def isSpecial (c : Char) : Bool := specialParameters.contains c

inductive Ending where
  /-- Before a blank or an operator. -/
  | word
  /-- After a closing double quote. -/
  | quote
  /-- After a closing brace. -/
  | brace
  /-- After two closing brackets, with so many others open. -/
  | brackets (depth : Nat)
  /-- At the end of the text. -/
  | never
deriving DecidableEq

structure Manner where
  quoted : Bool := false
  /-- In the text after a command. -/
  here : Bool := false
  /-- As a mark in which nothing is expanded. -/
  mark : Bool := false

def merged : List Piece → List Piece
  | .text s false :: rest =>
    match merged rest with
    | .text t false :: others => .text (s ++ t) false :: others
    | others => .text s false :: others
  | p :: rest => p :: merged rest
  | [] => []

/-- The home directory at the start of a text, if a tilde and a name stand there, before a slash, a
colon or the end. -/
def homeAt? (colons last : Bool) (cs : List Char) : Option (String × List Char) :=
  match cs with
  | '~' :: rest =>
    let name := rest.takeWhile fun c => c != '/' && !(colons && c == ':')
    let after := rest.drop name.length
    if after.isEmpty && !last then none else some (String.ofList name, after)
  | _ => none

def homesIn (last : Bool) : Nat → List Char → List Piece
  | 0, _ => []
  | _, [] => []
  | fuel + 1, cs =>
    match homeAt? true last cs with
    | some (user, after) =>
      .home user :: (match after with
        | ':' :: more => .text ":" false :: homesIn last fuel more
        | _ => plain fuel after)
    | none => plain fuel cs
termination_by fuel => (fuel, 0)
where
  /-- Text up to the next colon. -/
  plain (fuel : Nat) (cs : List Char) : List Piece :=
    let part := cs.takeWhile (· != ':')
    match cs.drop part.length with
    | ':' :: more => .text (String.ofList (part ++ [':'])) false :: homesIn last fuel more
    | _ => if part.isEmpty then [] else [.text (String.ofList part) false]
  termination_by (fuel, 1)

def withHome : List Piece → List Piece
  | .text s false :: rest =>
    match homeAt? false rest.isEmpty s.toList with
    | some (user, after) =>
      .home user :: (if after.isEmpty then rest else .text (String.ofList after) false :: rest)
    | none => .text s false :: rest
  | ps => ps

def withHomes : List Piece → List Piece
  | [] => []
  | .text s false :: rest => homesIn rest.isEmpty (s.length + 1) s.toList ++ afterColons rest
  | p :: rest => p :: afterColons rest
where
  /-- The rest of a value, where only tildes after colons count. -/
  afterColons : List Piece → List Piece
    | [] => []
    | .text s false :: rest =>
      homesIn.plain rest.isEmpty (s.length + 1) s.toList ++ afterColons rest
    | p :: rest => p :: afterColons rest

def assignment? : Word → Option (String × Word)
  | .text s false :: rest =>
    (assigned? s).map fun (name, value) =>
      (name, withHomes (if value.isEmpty then rest else .text value false :: rest))
  | _ => none

def unquoted (w : Word) : String :=
  String.join (w.map fun p => match p with | .text s _ => s | _ => "")

def isBare (w : Word) : Bool :=
  w.all fun p => match p with | .text _ q => !q | _ => true

def redirection (digit : Option Char) : Reader Token := do
  let number (d : Nat) : Nat := match digit with
    | some c => c.toNat - 48
    | none => d
  if ← accept '>' then
    let kind : RedirectKind ←
      if ← accept '>' then pure .append
      else if ← accept '|' then pure .overwrite
      else if ← accept '&' then pure .copy
      else pure .write
    return .redirect (number 1) kind false
  else
    skip 1
    if ← accept '<' then
      let tabs ← accept '-'
      return .redirect (number 0) .here tabs
    else
      let kind : RedirectKind ←
        if ← accept '&' then pure .copy
        else if ← accept '>' then pure .readWrite
        else pure .read
      return .redirect (number 0) kind false

inductive Level where
  /-- One line of a script. -/
  | line
  /-- The inside of a command. -/
  | body
  /-- The inside of brackets or of an arm, where there may be no command. -/
  | open'
deriving DecidableEq

def joined : Option Script → Script → Script
  | none, s => s
  | some first, s => .sequence first s

mutual

def pieces (e : Ending) (m : Manner) : Nat → Reader (List Piece)
  | 0 => throw "word too deep"
  | fuel + 1 => do
    match ← peek? with
    | none =>
      match e with
      | .word => return []
      | .never => return []
      | .quote => throw "Unterminated quoted string"
      | .brace =>
        throw (if m.quoted && !m.here then "Unterminated quoted string" else "Missing '\x7d'")
      | .brackets _ => throw "Missing '))'"
    | some c =>
      if e == .word && isMeta c then return []
      else if e == .quote && c == '"' then
        skip 1
        return []
      else if e == .brace && c == '\x7d' then
        skip 1
        return []
      else if c == '\\' then
        skip 1
        match (← get).rest with
        | [] => return [.text "\\" true]
        | d :: _ =>
          skip 1
          let plain := d == '\\' || d == '\x60' || d == '$' ||
            (d == '"' && !(m.here && e != .brace)) || (d == '\x7d' && e == .brace)
          let s := if m.quoted && !plain then "\\" ++ String.singleton d else String.singleton d
          return .text s true :: (← pieces e m fuel)
      else if c == '\'' && !m.quoted then
        skip 1
        let s ← untilQuote '\''
        return .text s true :: (← pieces e m fuel)
      else if c == '"' && !(m.here && e != .brace) && !(m.quoted && e != .brace) then
        skip 1
        let inner ← pieces .quote { m with quoted := true } fuel
        return .text "" true :: inner ++ (← pieces e m fuel)
      else if c == '\x60' && !m.mark then
        skip 1
        let s ← backquoted m.quoted fuel
        return .output s m.quoted :: (← pieces e m fuel)
      else if c == '$' && !m.mark then
        skip 1
        let p ← dollar m fuel
        return p :: (← pieces e m fuel)
      else
        let special (c : Char) : Bool := isQuote c || c == '$' || (e == .word && isMeta c) ||
          (e == .brace && c == '\x7d') ||
          (match e with | .brackets _ => c == '(' || c == ')' | _ => false)
        let s ← takeWhile fun c => !special c
        if !s.isEmpty then return .text s m.quoted :: (← pieces e m fuel)
        else
          skip 1
          let here : Piece := .text (String.singleton c) m.quoted
          match e, c with
          | .brackets n, '(' => return here :: (← pieces (.brackets (n + 1)) m fuel)
          | .brackets (n + 1), ')' => return here :: (← pieces (.brackets n) m fuel)
          | .brackets 0, ')' =>
            if ← accept ')' then return []
            else return here :: (← pieces e m fuel)
          | _, _ => return here :: (← pieces e m fuel)
termination_by structural n => n

/-- The script between backquotes, after the first of them. Its lines are counted from one. -/
def backquoted (quoted : Bool) : Nat → Reader Script
  | 0 => throw "word too deep"
  | fuel + 1 => do
    let s ← untilBackquote quoted
    let outer ← get
    set ({ rest := s.toList, layers := outer.layers } : Cursor)
    let inner ← commands .open' none fuel
    set outer
    return inner.getD .nothing
termination_by structural n => n

def dollar (m : Manner) : Nat → Reader Piece
  | 0 => throw "word too deep"
  | fuel + 1 => do
    match ← peek? with
    | none => return .text "$" m.quoted
    | some c =>
      if c == '(' then
        skip 1
        if ← accept '(' then
          return .arithmetic (← pieces (.brackets 0) { m with quoted := true } fuel) m.quoted
        else
          let inner ← commands .open' none fuel
          match ← token fuel with
          | .right => return .output (inner.getD .nothing) m.quoted
          | _ => unexpected "\")\""
      else if c == '\x7b' then
        skip 1
        braced m fuel
      else if isNameStart c then return .parameter (← parameterName fuel) .value [] m.quoted
      else if c.isDigit || isSpecial c then
        skip 1
        return .parameter (String.singleton c) .value [] m.quoted
      else return .text "$" m.quoted
termination_by structural n => n

def parameterName : Nat → Reader String
  | 0 => return ""
  | fuel + 1 => do
    let s ← takeWhile isNameChar
    if s.isEmpty then return ""
    let _ ← peek?
    return s ++ (← parameterName fuel)
termination_by structural n => n

def braced (m : Manner) : Nat → Reader Piece
  | 0 => throw "word too deep"
  | fuel + 1 => do
    let inside (m : Manner) : Reader (List Piece) := pieces .brace m fuel
    let malformed : Reader Piece := do
      let _ ← inside m
      return .parameter "" .malformed [] m.quoted
    /- What is done with the parameter of this name. -/
    let operated (name : String) : Reader Piece := do
      if ← accept '\x7d' then return .parameter name .value [] m.quoted
      else
        let c := (← peek?).getD ' '
        if c == '%' || c == '#' then
          skip 1
          let longest ← accept c
          let word ← inside { m with quoted := false }
          return .parameter name (if c == '%' then .cutEnd longest else .cutStart longest)
            (withHome (merged word)) m.quoted
        else
          let strict ← accept ':'
          let op : Option Operation := match ← peek? with
            | some '-' => some (.orElse strict)
            | some '=' => some (.orAssign strict)
            | some '?' => some (.orFail strict)
            | some '+' => some (.ifSet strict)
            | some '\x7d' => some .value
            | _ => none
          skip 1
          let word ← inside m
          return .parameter name (op.getD .malformed) (withHome (merged word)) m.quoted
    match ← peek? with
    | none => malformed
    | some c =>
      if isNameStart c then operated (← parameterName fuel)
      else if c.isDigit then operated (← takeWhile Char.isDigit)
      else if c == '\x7d' then malformed
      else
        skip 1
        if c == '#' then
          match ← peek? with
          | none => malformed
          | some d =>
            if isNameChar d then
              let name ← if isNameStart d then parameterName fuel else takeWhile Char.isDigit
              if (← peek?) == some '\x7d' then
                skip 1
                return .parameter name .length [] m.quoted
              else malformed
            else
              let after := ((← get).rest.drop 1).head?
              if d == '\x7d' || after != some '\x7d' then operated "#"
              else if isSpecial d then
                skip 2
                return .parameter (String.singleton d) .length [] m.quoted
              else malformed
        else if isSpecial c then operated (String.singleton c)
        else malformed
termination_by structural n => n

def rawToken : Nat → Reader Token
  | 0 => throw "script too deep"
  | fuel + 1 => do
    match (← get).pushed with
    | some t =>
      modify fun c => { c with pushed := none }
      return t
    | none =>
      skipBlanks
      let t ← match (← get).rest with
        | [] => pure .endOfFile
        | c :: more =>
          match c with
          | '\n' => skip 1; pure .newline
          | '&' => skip 1; pure (if ← accept '&' then .both else .background)
          | '|' => skip 1; pure (if ← accept '|' then .either else .pipe)
          | ';' => skip 1; pure (if ← accept ';' then .caseEnd else .semicolon)
          | '(' => skip 1; pure .left
          | ')' => skip 1; pure .right
          | '<' => redirection none
          | '>' => redirection none
          | c =>
            if c.isDigit && (more.head? == some '<' || more.head? == some '>') then
              skip 1
              redirection (some c)
            else pure (.word (merged (← pieces .word { mark := (← get).checks.mark } fuel)))
      modify fun c => { c with last := t }
      settle
      return t
termination_by structural n => n

def token : Nat → Reader Token
  | 0 => throw "script too deep"
  | fuel + 1 => do checkedToken (← get).checks fuel
termination_by structural n => n

def checkedToken (checks : Checks) : Nat → Reader Token
  | 0 => throw "script too deep"
  | fuel + 1 => do
    let t ← rawToken fuel
    if checks.lines && t.isNewline then
      setChecks {}
      checkedToken checks fuel
    else
      let checks := { checks with aliases := checks.aliases || (← get).checks.aliases }
      setChecks {}
      match t with
      | .word [.text s false] =>
        if checks.keywords && reserved.contains s then
          modify fun c => { c with last := .keyword s }
          return .keyword s
        else if checks.aliases then
          match Dict.get? (← read) s with
          | some text =>
            if (← get).layers.any (·.name == s) then return t
            else
              replace s text
              checkedToken checks fuel
          | none => return t
        else return t
      | t => return t
termination_by structural n => n

/-- A list of commands; none if there is none. -/
def commands (level : Level) (first : Option Script) : Nat → Reader (Option Script)
  | 0 => throw "script too deep"
  | fuel + 1 => do
    setChecks { lines := level != .line, keywords := true, aliases := true }
    let t ← token fuel
    match t with
    | .newline => return first
    | .endOfFile =>
      pushBack
      return first
    | _ =>
      pushBack
      if level != .line && (level == .open' || first.isSome) && t.endsList then return first
      let next ← andOr fuel
      let t ← token fuel
      let next := match t with
        | .background => .background next
        | _ => next
      let all := joined first next
      match t with
      | .endOfFile =>
        pushBack
        return some all
      | .newline =>
        pushBack
        commands level (some all) fuel
      | .background => commands level (some all) fuel
      | .semicolon => commands level (some all) fuel
      | _ =>
        if level == .line then unexpected
        pushBack
        return some all
termination_by structural n => n

def body : Nat → Reader Script
  | 0 => throw "script too deep"
  | fuel + 1 => do return (← commands .body none fuel).getD .nothing
termination_by structural n => n

/-- Pipelines joined by `&&` and `||`, from left to right. -/
def andOr : Nat → Reader Script
  | 0 => throw "script too deep"
  | fuel + 1 => do
    let first ← pipeline fuel
    andOrRest first fuel
termination_by structural n => n

def andOrRest (first : Script) : Nat → Reader Script
  | 0 => throw "script too deep"
  | fuel + 1 => do
    match ← token fuel with
    | .both =>
      setChecks { lines := true, keywords := true, aliases := true }
      let second ← pipeline fuel
      andOrRest (.both first second) fuel
    | .either =>
      setChecks { lines := true, keywords := true, aliases := true }
      let second ← pipeline fuel
      andOrRest (.either first second) fuel
    | _ =>
      pushBack
      return first
termination_by structural n => n

def pipeline : Nat → Reader Script
  | 0 => throw "script too deep"
  | fuel + 1 => do
    let negated := (← token fuel).isKeyword "!"
    if negated then setChecks { keywords := true, aliases := true } else pushBack
    let first ← command fuel
    let parts ← pipelineRest fuel
    let s := if parts.isEmpty then first else .pipeline (first :: parts)
    return if negated then .negate s else s
termination_by structural n => n

def pipelineRest : Nat → Reader (List Script)
  | 0 => throw "script too deep"
  | fuel + 1 => do
    match ← token fuel with
    | .pipe =>
      setChecks { lines := true, keywords := true, aliases := true }
      let c ← command fuel
      return c :: (← pipelineRest fuel)
    | _ =>
      pushBack
      return []
termination_by structural n => n

def expect (w : String) : Nat → Reader Unit
  | 0 => throw "script too deep"
  | fuel + 1 => do if !(← token fuel).isKeyword w then unexpected ("\"" ++ w ++ "\"")
termination_by structural n => n

def command : Nat → Reader Script
  | 0 => throw "script too deep"
  | fuel + 1 => do
    let line := (← get).line
    let finish (s : Script) : Reader Script := do
      setChecks { keywords := true, aliases := true }
      let rs ← redirects fuel
      return if rs.isEmpty then s else .redirected line s rs
    match ← token fuel with
    | .keyword "if" =>
      let s ← branch fuel
      finish s
    | .keyword "while" =>
      let s ← loop false fuel
      finish s
    | .keyword "until" =>
      let s ← loop true fuel
      finish s
    | .keyword "for" =>
      let s ← each line fuel
      finish s
    | .keyword "case" =>
      let s ← choose line fuel
      finish s
    | .keyword "\x7b" =>
      let s ← body fuel
      expect "\x7d" fuel
      finish s
    | .left =>
      let s ← body fuel
      match ← token fuel with
      | .right => finish (.subshell s)
      | _ => unexpected "\")\""
    | .word _ =>
      pushBack
      simple (← get).line fuel
    | .redirect .. =>
      pushBack
      simple (← get).line fuel
    | _ => unexpected
termination_by structural n => n

def branch : Nat → Reader Script
  | 0 => throw "script too deep"
  | fuel + 1 => do
    let test ← body fuel
    expect "then" fuel
    let yes ← body fuel
    match ← token fuel with
    | .keyword "elif" => return .branch test yes (← branch fuel)
    | .keyword "else" =>
      let no ← body fuel
      expect "fi" fuel
      return .branch test yes no
    | _ =>
      pushBack
      expect "fi" fuel
      return .branch test yes .nothing
termination_by structural n => n

def loop (untilTrue : Bool) : Nat → Reader Script
  | 0 => throw "script too deep"
  | fuel + 1 => do
    let test ← body fuel
    expect "do" fuel
    let inner ← body fuel
    expect "done" fuel
    return .loop untilTrue test inner
termination_by structural n => n

def each (line : Nat) : Nat → Reader Script
  | 0 => throw "script too deep"
  | fuel + 1 => do
    let name := match ← token fuel with
      | .word w => (plainText? w).getD ""
      | _ => ""
    if !isName name then throw "Bad for loop variable"
    setChecks { lines := true, keywords := true, aliases := true }
    let words ← if (← token fuel).isKeyword "in" then do
        let ws ← wordList fuel
        match (← get).last with
        | .newline => pure ()
        | .semicolon => pure ()
        | _ => unexpected
        pure (some ws)
      else do
        match (← get).last with
        | .semicolon => pure ()
        | _ => pushBack
        pure none
    setChecks { lines := true, keywords := true, aliases := true }
    expect "do" fuel
    let inner ← body fuel
    expect "done" fuel
    return .each line name words inner
termination_by structural n => n

def wordList : Nat → Reader (List Word)
  | 0 => return []
  | fuel + 1 => do
    match ← token fuel with
    | .word w => return withHome w :: (← wordList fuel)
    | _ => return []
termination_by structural n => n

def choose (line : Nat) : Nat → Reader Script
  | 0 => throw "script too deep"
  | fuel + 1 => do
    match ← token fuel with
    | .word w =>
      setChecks { lines := true, keywords := true, aliases := true }
      expect "in" fuel
      setChecks { lines := true, keywords := true }
      let t ← token fuel
      let as ← arms t fuel
      return .choose line (withHome w) as
    | _ => unexpected "word"
termination_by structural n => n

def arms (t : Token) : Nat → Reader (List (List Word × Script))
  | 0 => throw "script too deep"
  | fuel + 1 => do
    if t.isKeyword "esac" then return []
    let t ← match t with
      | .left => token fuel
      | t => pure t
    let ps ← patterns t fuel
    let inner := (← commands .open' none fuel).getD .nothing
    setChecks { lines := true, keywords := true }
    match ← token fuel with
    | .keyword "esac" => return [(ps, inner)]
    | .caseEnd =>
      setChecks { lines := true, keywords := true }
      let next ← token fuel
      return (ps, inner) :: (← arms next fuel)
    | _ => unexpected "\";;\""
termination_by structural n => n

def patterns (t : Token) : Nat → Reader (List Word)
  | 0 => return []
  | fuel + 1 => do
    let w : Word := match t with
      | .word w => withHome w
      | .keyword s => [.text s false]
      | _ => []
    match ← token fuel with
    | .pipe =>
      let next ← token fuel
      return w :: (← patterns next fuel)
    | .right => return [w]
    | _ => unexpected "\")\""
termination_by structural n => n

def redirects : Nat → Reader (List Redirect)
  | 0 => return []
  | fuel + 1 => do
    match ← token fuel with
    | .redirect d kind tabs =>
      let r ← redirect d kind tabs fuel
      return r :: (← redirects fuel)
    | _ =>
      pushBack
      return []
termination_by structural n => n

def redirect (d : Nat) (kind : RedirectKind) (tabs : Bool) : Nat → Reader Redirect
  | 0 => throw "script too deep"
  | fuel + 1 => do
    if kind == .here then setChecks { mark := true }
    match ← token fuel with
    | .word w =>
      if kind == .here then
        let text ← hereText tabs (unquoted w)
        if isBare w then
          let outer ← get
          set ({ rest := text.toList, line := outer.line } : Cursor)
          let target ← pieces .never { quoted := true, here := true } fuel
          set outer
          return .mk d kind target
        else return .mk d kind [.text text true]
      else return .mk d kind (withHome w)
    | _ => unexpected
termination_by structural n => n

def simple (line : Nat) : Nat → Reader Script
  | 0 => throw "script too deep"
  | fuel + 1 => simpleParts line [] [] [] fuel
termination_by structural n => n

def simpleParts (line : Nat) (as : List (String × Word)) (ws : List Word) (rs : List Redirect) :
    Nat → Reader Script
  | 0 => throw "script too deep"
  | fuel + 1 => do
    if ws.isEmpty then setChecks { aliases := true }
    match ← token fuel with
    | .word w =>
      match if ws.isEmpty then assignment? w else none with
      | some a => simpleParts line (as ++ [a]) ws rs fuel
      | none => simpleParts line as (ws ++ [w]) rs fuel
    | .redirect d kind tabs =>
      let r ← redirect d kind tabs fuel
      simpleParts line as ws (rs ++ [r]) fuel
    | .left =>
      match ws with
      | [w] =>
        if as.isEmpty && rs.isEmpty then
          match ← token fuel with
          | .right =>
            let name := (plainText? w).getD ""
            if !isName name || specialCommands.contains name then throw "Bad function name"
            setChecks { lines := true, keywords := true, aliases := true }
            return .define name (← command fuel)
          | _ => unexpected "\")\""
        else
          pushBack
          return .simple line as (ws.map withHome) rs
      | _ =>
        pushBack
        return .simple line as (ws.map withHome) rs
    | _ =>
      pushBack
      return .simple line as (ws.map withHome) rs
termination_by structural n => n

end

end Reader

/-- Reads the next line of a script: its commands, or what is wrong with them, and the rest of the
script; no commands at its end. -/
def Cursor.next (c : Cursor) (aliases : Dict String String) :
    Except String (Option Script) × Cursor :=
  let longest := aliases.foldl (fun n a => max n a.2.length) 0
  let fuel := 20 * c.rest.length * (longest + 1) + 1000
  match ((Reader.commands .line none fuel).run aliases).run { c with pushed := none, checks := {} } with
  | (.error e, c) => (.error e, c)
  | (.ok (some s), c) => (.ok (some s), c)
  | (.ok none, c) => (.ok (if c.pushed.isSome then none else some .nothing), c)

/-- The word of a text in which everything is quoted; the text itself if it is none. -/
def quotedWord (s : String) : Word :=
  match ((Reader.pieces .never { quoted := true, here := true } (20 * s.length + 100)).run []).run
      { rest := s.toList } with
  | (.ok w, _) => w
  | (.error _, _) => [.text s true]

def Cursor.isDone (c : Cursor) : Bool := c.pushed.isSome

end JobMatrix.Shell
