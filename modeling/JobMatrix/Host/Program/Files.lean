import JobMatrix.Host.Program.Date
import JobMatrix.Host.Program.Mode

/-! Programs that make, remove and mark files: directories, links, permissions, times and sizes. -/

namespace JobMatrix.Program

open JobMatrix.Path (Place)

def about : List (String × String) := [("help", "help"), ("version", "version")]

def putEntry (place : Place) (e : Entry) : Work Unit := do setTree ((← view).tree.put place e)

def vacant (v : View) (path : String) : Except SystemError Place := do
  let bare := String.ofList (Text.dropEndWhile (· == '/') path.toList)
  let place ← v.locate (if bare.isEmpty then path else bare) false
  match v.tree.entry? place with
  | some _ => throw .alreadyThere
  | none =>
    v.tree.opening place.dropLast
    return place

def freshShare (t : FileTree) : Nat := t.entries.foldl (fun n e => max n e.2.shared) 0 + 1

namespace Mkdir

def make (path : String) (mode : Nat) (verbose : Bool) : Work Bool := do
  let v ← view
  match vacant v path with
  | .ok place =>
    setTree (v.tree.put place { kind := .directory, mode, time := v.now })
    if verbose then sayLine ("mkdir: created directory " ++ (← quoted path))
    return true
  | .error e =>
    complain ("mkdir: cannot create directory " ++ (← quoted path) ++ ": " ++ e.reason)
    return false

def leads (path : String) : List String :=
  let names := (path.splitOn "/")
  ((List.range names.length).map fun n => "/".intercalate (names.take (n + 1))).filter fun p =>
    !p.isEmpty && !p.endsWith "/"

def makeAll (mode last : Nat) (verbose : Bool) : List String → Work Bool
  | [] => return true
  | path :: rest => do
    let v ← view
    match v.lookup path with
    | .ok (_, e) =>
      if e.isDirectory then makeAll mode last verbose rest
      else
        let why := if rest.isEmpty then SystemError.alreadyThere else .notDirectory
        complain ("mkdir: cannot create directory " ++ (← quoted path) ++ ": " ++ why.reason)
        return false
    | .error _ =>
      if ← make path (if rest.isEmpty then last else mode) verbose then
        makeAll mode last verbose rest
      else return false

end Mkdir

def mkdir (args : List String) : Work Nat :=
  let options : Options :=
    { letters := "pm:vZ", long := [("context", "Z"), ("mode", "m"), ("parents", "p"),
        ("verbose", "v")] ++ about }
  options.within "mkdir" args fun cs paths => do
    let v ← view
    let given := (lastOf? cs "m").map fun m => (m, Mode.read? m)
    match given, paths with
    | some (m, none), _ :: _ => refuse ("mkdir: invalid mode " ++ (← marked m))
    | _, [] => misuse "mkdir" "mkdir: missing operand"
    | given, paths =>
      let fallback := v.masked 0o777
      let mode := match given.bind (·.2) with
        | some changes => Mode.applyAll changes true v.umask 0o777
        | none => fallback
      let ok ← allOf paths fun p =>
        if has cs "p" then Mkdir.makeAll (fallback ||| 0o300) mode (has cs "v") (Mkdir.leads p)
        else Mkdir.make p mode (has cs "v")
      return codeOf ok

namespace Rmdir

def one (path : String) : Work (Except SystemError Unit) := do
  let v ← view
  match v.lookup path false with
  | .error e => return .error e
  | .ok (place, e) =>
    if !e.isDirectory then return .error .notDirectory
    else if !(v.tree.list place).isEmpty then return .error .notEmpty
    else if path == "." || path.endsWith "/." then return .error .invalid
    else
      setTree (v.tree.remove place)
      return .ok ()

def chain (path : String) : Nat → List String
  | 0 => []
  | fuel + 1 =>
    let above := String.ofList (Text.dropEndWhile (· == '/')
      (Text.dropEndWhile (· != '/') (Text.dropEndWhile (· == '/') path.toList)))
    if above.isEmpty then [path] else path :: chain above fuel

def remove (ignores verbose : Bool) : List String → Work Bool
  | [] => return true
  | path :: rest => do
    if verbose then sayLine ("rmdir: removing directory, " ++ (← quoted path))
    match ← one path with
    | .ok _ => remove ignores verbose rest
    | .error e =>
      if e == .notEmpty && ignores then return true
      else
        complain ("rmdir: failed to remove " ++ (← quoted path) ++ ": " ++ e.reason)
        return false

end Rmdir

def rmdir (args : List String) : Work Nat :=
  let options : Options :=
    { letters := "pv", long := [("ignore-fail-on-non-empty", "ignore"), ("parents", "p"),
        ("verbose", "v")] ++ about }
  options.within "rmdir" args fun cs paths => do
    if paths.isEmpty then misuse "rmdir" "rmdir: missing operand"
    else
      let ok ← allOf paths fun p =>
        Rmdir.remove (has cs "ignore") (has cs "v")
          (if has cs "p" then Rmdir.chain p p.length else [p])
      return codeOf ok

def agrees (question : String) : Work Bool := do
  let _ ← writeTo 2 (Octets.ofText question)
  let line ← Work.await 0 (fun data =>
    if data.contains 10 then some ((data.takeWhile (· != 10)).length + 1) else none) .done
  return line.head? == some 121 || line.head? == some 89

def kindText (e : Entry) : String :=
  match e.kind with
  | .directory => "directory"
  | .device _ => "character special file"
  | .link _ => "symbolic link"
  | .channel => "fifo"
  | _ => if e.size == 0 then "regular empty file" else "regular file"

namespace Rm

structure Manner where
  recursive : Bool
  forced : Bool
  asks : Bool
  verbose : Bool
  directories : Bool

def remove (m : Manner) (path : String) : Nat → Work Bool
  | 0 => return false
  | fuel + 1 => do
    let v ← view
    match v.lookup path false with
    | .error e =>
      if m.forced && (e == .noEntry || e == .notDirectory) then return true
      else failed e
    | .ok (place, e) =>
      if e.isDirectory then
        if !m.recursive && !m.directories then failed .isDirectory
        else
          let inner := (v.tree.list place)
          if !m.recursive && !inner.isEmpty then failed .notEmpty
          else if !(← entered inner) then return true
          else
            let ok ← allOf inner fun n => remove m (under path n) fuel
            if !ok then return false
            else if ← wanted "directory" then
              setTree ((← view).tree.remove place)
              if m.verbose then sayLine ("removed directory " ++ (← quoted path))
              return true
            else return true
      else if path.endsWith "/" then failed .notDirectory
      else if ← wanted (kindText e) then
        setTree (v.tree.remove place)
        if m.verbose then sayLine ("removed " ++ (← quoted path))
        return true
      else return true
where
  failed (e : SystemError) : Work Bool := do
    complain ("rm: cannot remove " ++ (← quoted path) ++ ": " ++ e.reason)
    return false
  /-- Whether what is below is to be removed. -/
  entered (inner : List String) : Work Bool := do
    if m.asks && !inner.isEmpty then agrees ("rm: descend into directory " ++ (← quoted path) ++ "? ") else return true
  /-- Whether something is to be removed; whoever is not asked agrees. -/
  wanted (what : String) : Work Bool := do
    if m.asks then agrees ("rm: remove " ++ what ++ " " ++ (← quoted path) ++ "? ") else return true

end Rm

def rm (args : List String) : Work Nat :=
  let options : Options :=
    { letters := "dfirvIR"
      long := [("force", "f"), ("interactive", "interactive"), ("one-file-system", "one"),
        ("no-preserve-root", "no"), ("preserve-root", "preserve"), ("recursive", "r"), ("dir", "d"),
        ("verbose", "v")] ++ about }
  options.within "rm" args fun cs paths => do
    let last := lastAmong? cs ["f", "i", "I"]
    let m : Rm.Manner :=
      { recursive := has cs "r" || has cs "R", forced := last == some "f", asks := last == some "i"
        verbose := has cs "v", directories := has cs "d" }
    if paths.isEmpty then
      if m.forced then return 0 else misuse "rm" "rm: missing operand"
    else
      let ok ← allOf paths fun p => do
        let name := lastName p
        if m.recursive && (name == "." || name == "..") then
          complain ("rm: refusing to remove '.' or '..' directory: skipping " ++ (← quoted p))
          return false
        else Rm.remove m p 1000
      return codeOf ok

namespace Chmod

def options : Options :=
  { letters := "Rcfvrwxstugoa,+=X01234567"
    long := [("changes", "c"), ("recursive", "R"), ("no-preserve-root", "no"),
      ("preserve-root", "preserve"), ("quiet", "f"), ("reference", "reference:"), ("silent", "f"),
      ("verbose", "v")] ++ about }

def isMode (w : String) : Bool :=
  match w.toList with
  | '-' :: c :: _ => "rwxXstugoa0123456789".toList.contains c
  | _ => false

def change (cs : List Choice) (new : Nat → Bool → Nat) (strict : Nat → Bool → Nat) (path : String) :
    Nat → Work Bool
  | 0 => return false
  | fuel + 1 => do
    let v ← view
    match v.lookup path with
    | .error e =>
      if !has cs "f" then
        let shown ← quoted path
        complain ("chmod: " ++ (if (v.lookup path false).toBool then
            "cannot operate on dangling symlink " ++ shown
          else "cannot access " ++ shown ++ ": " ++ e.reason))
      return false
    | .ok (place, e) =>
      let mode := new e.mode e.isDirectory
      setTree (v.tree.put place { e with mode })
      let shown (n : Nat) : String := Mode.octalText 4 n ++ " (" ++ Mode.text n ++ ")"
      if mode != e.mode && (has cs "v" || has cs "c") then
        sayLine ("mode of " ++ (← quoted path) ++ " changed from " ++ shown e.mode ++ " to " ++
          shown mode)
      else if mode == e.mode && has cs "v" then
        sayLine ("mode of " ++ (← quoted path) ++ " retained as " ++ shown mode)
      let naive := strict e.mode e.isDirectory
      let fine := Mode.without mode naive == 0
      if !fine then
        complain ("chmod: " ++ (← named path) ++ ": new permissions are " ++ Mode.text mode ++
          ", not " ++ Mode.text naive)
      if has cs "R" && e.isDirectory then
        let ok ← allOf (v.tree.list place) fun n => change cs new strict (under path n) fuel
        return ok && fine
      else return fine

end Chmod

def chmod (args : List String) : Work Nat := do
  let dashed := args.find? Chmod.isMode
  let others := match dashed with
    | some w => args.erase w
    | none => args
  Chmod.options.within "chmod" others fun cs words => do
    let v ← view
    match lastOf? cs "reference" with
    | some path =>
      match v.lookup path with
      | .error e =>
        refuse ("chmod: failed to get attributes of " ++ (← quoted path) ++ ": " ++ e.reason)
      | .ok (_, e) =>
        if words.isEmpty then misuse "chmod" "chmod: missing operand"
        else
          let set (_ : Nat) (_ : Bool) : Nat := e.mode
          let ok ← allOf words fun p => Chmod.change cs set set p 1000
          return codeOf ok
    | none =>
      let (mode?, paths) := match dashed with
        | some w => (some w, words)
        | none => (words.head?, words.drop 1)
      match mode?, paths with
      | none, _ => misuse "chmod" "chmod: missing operand"
      | some mode, [] => misuse "chmod" ("chmod: missing operand after " ++ (← marked mode))
      | some mode, paths =>
        match Mode.read? mode with
        | none => misuse "chmod" ("chmod: invalid mode: " ++ (← marked mode))
        | some changes =>
          let new (mode : Nat) (d : Bool) : Nat := Mode.applyAll changes d v.umask mode
          let strict (m : Nat) (d : Bool) : Nat :=
            if dashed.isSome then Mode.applyAll changes d 0 m else new m d
          let ok ← allOf paths fun p => Chmod.change cs new strict p 1000
          return codeOf ok

namespace Touch

def options : Options :=
  { letters := "acd:fhmr:t:"
    long := [("time", "time:"), ("no-create", "c"), ("date", "d"), ("no-dereference", "h"),
      ("reference", "r")] ++ about }

/-- The time that is to be set; none after a complaint. -/
def timeOf (cs : List Choice) : Work (Option Int) := do
  let v ← view
  match lastOf? cs "t", lastOf? cs "d", lastOf? cs "r" with
  | some text, _, _ => checked text (DateText.stamp? v.now text)
  | none, some text, _ => checked text (DateText.read? v.now text)
  | none, none, some path =>
    match v.lookup path with
    | .ok (_, e) => return some e.time
    | .error e =>
      complain ("touch: failed to get attributes of " ++ (← quoted path) ++ ": " ++ e.reason)
      return none
  | none, none, none => return some v.now
where
  checked (text : String) (t : Option Int) : Work (Option Int) := do
    if t.isNone then complain ("touch: invalid date format " ++ (← marked text))
    return t

end Touch

def touch (args : List String) : Work Nat :=
  Touch.options.within "touch" args fun cs paths => do
    if paths.isEmpty then misuse "touch" "touch: missing file operand"
    else match ← Touch.timeOf cs with
      | none => return 1
      | some time =>
        let ok ← allOf paths fun p => do
          let v ← view
          let failed (e : SystemError) : Work Bool := do
            complain ("touch: cannot touch " ++ (← quoted p) ++ ": " ++ e.reason)
            return false
          match v.lookup p (!has cs "h") with
          | .ok (place, e) =>
            if !(has cs "a" && !has cs "m") then putEntry place { e with time }
            return true
          | .error .noEntry =>
            if has cs "c" && !p.isEmpty then return true
            else match ← writePath p [] with
              | some .isDirectory => failed .noEntry
              | some e => failed e
              | none =>
                match (← view).lookup p with
                | .ok (place, e) => putEntry place { e with time }
                | .error _ => pure ()
                return true
          | .error e => failed e
        return codeOf ok

namespace Ln

def way (source target : Place) : String :=
  let shared := ((source.zip target).takeWhile fun p => p.1 == p.2).length
  let up := List.replicate (source.length - shared) ".."
  let names := up ++ target.drop shared
  if names.isEmpty then "." else "/".intercalate names

structure Manner where
  symbolic : Bool
  forced : Bool
  verbose : Bool
  relative : Bool
  physical : Bool

def make (m : Manner) (target path : String) : Work Bool := do
  let v ← view
  let quotedPath ← quoted path
  let kind := if m.symbolic then "symbolic" else "hard"
  let failed (why : String) : Work Bool := do
    complain ("ln: " ++ why)
    return false
  let source := v.lookup target (!m.physical)
  let hard : Except String Entry := match source with
    | .ok (_, e) => .ok e
    | .error e => .error e.reason
  let put (place : Place) : Work Bool := do
    let t := (← view).tree
    if m.symbolic then
      let shown := if m.relative then
          match v.tree.locate v.cwd (.ofText target) with
          | .ok goal => way place.dropLast goal
          | .error _ => target
        else target
      setTree (t.put place { kind := .link shown, mode := 0o777, time := v.now })
    else match source with
      | .ok (at', e) =>
        let shared := if e.shared == 0 then freshShare t else e.shared
        setTree ((t.put at' { e with shared }).put place { e with shared })
      | .error _ => pure ()
    if m.verbose then
      sayLine (quotedPath ++ (if m.symbolic then " -> " else " => ") ++ (← quoted target))
    return true
  match m.symbolic, hard with
  | false, .error why => failed ("failed to access " ++ (← quoted target) ++ ": " ++ why)
  | _, _ =>
    if !m.symbolic && (hard.toOption.elim false Entry.isDirectory) then
      failed ((← named target) ++ ": hard link not allowed for directory")
    else match v.locate path false with
      | .error e => failed (link kind quotedPath (← quoted target) e)
      | .ok place =>
        match v.tree.entry? place with
        | some old =>
          let same := match source with
            | .ok (at', _) => v.tree.isSame at' place
            | .error _ => false
          if !m.forced then failed (link kind quotedPath "" .alreadyThere)
          else if same then
            if m.symbolic && old.isLink then put place
            else failed ((← quoted target) ++ " and " ++ quotedPath ++ " are the same file")
          else if old.isDirectory then
            failed (quotedPath ++ ": cannot overwrite directory")
          else
            setTree (v.tree.remove place)
            put place
        | none =>
          match v.tree.opening place.dropLast with
          | .error e => failed (link kind quotedPath (← quoted target) e)
          | .ok _ => put place
where
  link (kind quotedPath quotedTarget : String) (e : SystemError) : String :=
    "failed to create " ++ kind ++ " link " ++ quotedPath ++
      (if kind == "hard" && e != .alreadyThere then " => " ++ quotedTarget else "") ++ ": " ++ e.reason

def options : Options :=
  { letters := "bdfinrst:vFLPS:T"
    long := [("backup", "b"), ("directory", "F"), ("no-dereference", "n"),
      ("no-target-directory", "T"), ("force", "f"), ("interactive", "i"), ("suffix", "S"),
      ("target-directory", "t"), ("logical", "L"), ("physical", "P"), ("relative", "r"),
      ("symbolic", "s"), ("verbose", "v")] ++ about }

end Ln

def ln (args : List String) : Work Nat :=
  Ln.options.within "ln" args fun cs words => do
    let v ← view
    let m : Ln.Manner :=
      { symbolic := has cs "s", forced := has cs "f", verbose := has cs "v", relative := has cs "r"
        physical := !has cs "L" }
    let into (directory : String) (targets : List String) : Work Nat := do
      let ok ← allOf targets fun t => Ln.make m t (under directory (lastName t))
      return codeOf ok
    match lastOf? cs "t" with
    | some d =>
      if v.isDirectory d then into d words
      else
        let why := match v.lookup d with
          | .ok _ => SystemError.notDirectory.reason
          | .error e => e.reason
        refuse ("ln: target directory " ++ (← quoted d) ++ ": " ++ why)
    | none =>
      match words with
      | [] => misuse "ln" "ln: missing file operand"
      | [t] =>
        if has cs "T" then
          misuse "ln" ("ln: missing destination file operand after " ++ (← quoted t))
        else into "." [t]
      | [t, path] =>
        let isLink := match v.lookup path false with | .ok (_, e) => e.isLink | .error _ => false
        if !has cs "T" && v.isDirectory path && !(has cs "n" && isLink) then into path [t]
        else return codeOf (← Ln.make m t path)
      | t :: u :: extra :: rest =>
        if has cs "T" then misuse "ln" ("ln: extra operand " ++ (← quoted extra))
        else
          let all := t :: u :: extra :: rest
          let last := all.getLast?.getD ""
          if v.isDirectory last then into last all.dropLast
          else
            let why := match v.lookup last with
              | .ok _ => SystemError.notDirectory.reason
              | .error e => e.reason
            refuse ("ln: target " ++ (← quoted last) ++ ": " ++ why)

inductive Presence where
  | all
  | allButLast
  | nothing
deriving DecidableEq, Repr

def canonical (v : View) (presence : Presence) (path : String) : Except SystemError Place := do
  match presence with
  | .all => return (← v.lookup path).1
  | .allButLast =>
    let bare := String.ofList (Text.dropEndWhile (· == '/') path.toList)
    v.locate (if bare.isEmpty then path else bare)
  | .nothing =>
    if path.isEmpty then throw .noEntry
    match v.tree.locate v.cwd (.ofText path) with
    | .ok place => return place
    | .error _ => return Path.resolve v.cwd (.ofText path)

def readlink (args : List String) : Work Nat :=
  let options : Options :=
    { letters := "efmnqsvz"
      long := [("canonicalize", "f"), ("canonicalize-existing", "e"), ("canonicalize-missing", "m"),
        ("no-newline", "n"), ("quiet", "q"), ("silent", "q"), ("verbose", "v"), ("zero", "z")] ++
        about }
  options.within "readlink" args fun cs paths => do
    let v ← view
    if paths.isEmpty then misuse "readlink" "readlink: missing operand"
    else
      let presence : Option Presence := match lastAmong? cs ["e", "f", "m"] with
        | some "e" => some .all
        | some "f" => some .allButLast
        | some _ => some .nothing
        | none => none
      let ending := if has cs "n" && paths.length == 1 then "" else if has cs "z" then "\x00" else "\n"
      let ok ← allOf paths fun p => do
        let found : Except SystemError String := match presence with
          | some presence => (canonical v presence p).map fun place => (Path.ofPlace place).text
          | none => do
            match (← v.lookup p false).2.kind with
            | .link target => return target
            | _ => throw .invalid
        match found with
        | .ok text =>
          sayText (text ++ ending)
          return true
        | .error e =>
          if has cs "v" then complain ("readlink: " ++ (← named p) ++ ": " ++ e.reason)
          return false
      return codeOf ok

def realpath (args : List String) : Work Nat :=
  let options : Options :=
    { letters := "eLmPqsz"
      long := [("canonicalize-existing", "e"), ("canonicalize-missing", "m"), ("logical", "L"),
        ("physical", "P"), ("quiet", "q"), ("relative-base", "base:"), ("relative-to", "to:"),
        ("strip", "s"), ("no-symlinks", "s"), ("zero", "z")] ++ about }
  options.within "realpath" args fun cs paths => do
    let v ← view
    if paths.isEmpty then misuse "realpath" "realpath: missing operand"
    else
      let presence : Presence := if has cs "e" then .all else if has cs "m" then .nothing
        else .allButLast
      let place (p : String) : Except SystemError Place :=
        if has cs "s" then .ok (Path.resolve v.cwd (.ofText p)) else canonical v presence p
      let base := (lastOf? cs "base").bind fun p => (place p).toOption
      let target := ((lastOf? cs "to").bind fun p => (place p).toOption) <|> base
      let ok ← allOf paths fun p => do
        match place p with
        | .ok goal =>
          let inside := base.elim true fun b => b.isPrefixOf goal
          let text := match target with
            | some start => if inside then Ln.way start goal else (Path.ofPlace goal).text
            | none => (Path.ofPlace goal).text
          sayText (text ++ (if has cs "z" then "\x00" else "\n"))
          return true
        | .error e =>
          if !has cs "q" then complain ("realpath: " ++ (← named p) ++ ": " ++ e.reason)
          return false
      return codeOf ok

namespace Mktemp

def letters : List Char :=
  "abcdefghijklmnopqrstuvwxyzABCDEFGHIJKLMNOPQRSTUVWXYZ0123456789".toList

def name (seed : Nat) : Nat → List Char
  | 0 => []
  | n + 1 =>
    let seed := (seed * 6364136223846793005 + 1442695040888963407) % 2 ^ 64
    (letters[seed / 2 ^ 33 % letters.length]?).getD 'x' :: name seed n

end Mktemp

def mktemp (args : List String) : Work Nat :=
  let options : Options :=
    { letters := "dp:qtuV"
      long := [("directory", "d"), ("quiet", "q"), ("dry-run", "u"), ("suffix", "suffix:"),
        ("tmpdir", "p")] ++ about }
  options.within "mktemp" args fun cs words => do
    let v ← view
    match words with
    | _ :: _ :: _ => misuse "mktemp" "mktemp: too many templates"
    | _ =>
      let template := words.headD "tmp.XXXXXXXXXX" ++ (lastOf? cs "suffix").getD ""
      let tmp := (lastOf? cs "p").getD (((Dict.get? v.env "TMPDIR").filter (!·.isEmpty)).getD "/tmp")
      let placed := if words.isEmpty || has cs "p" || has cs "t" then under tmp template else template
      let cs' := placed.toList.reverse
      let tail := cs'.takeWhile (· != 'X')
      let marks := ((cs'.drop tail.length).takeWhile (· == 'X')).length
      if marks < 3 then
        refuse ("mktemp: too few X's in template " ++ (← marked (words.headD "")))
      else
        let lead := placed.toList.take (placed.length - tail.length - marks)
        let seed := v.now / 1000 + v.id * 7919 + v.tree.entries.length
        let path := String.ofList (lead ++ Mktemp.name seed marks ++ tail.reverse)
        match vacant v path with
        | .error e =>
          refuse ("mktemp: failed to create " ++ (if has cs "d" then "directory" else "file") ++
            " via template " ++ (← marked placed) ++ ": " ++ e.reason)
        | .ok place =>
          if !has cs "u" then
            putEntry place (if has cs "d" then { kind := .directory, mode := 0o700, time := v.now }
              else { kind := .file [], mode := 0o600, time := v.now })
          sayLine path
          return 0

end JobMatrix.Program
