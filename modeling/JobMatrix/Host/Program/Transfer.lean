import JobMatrix.Host.Program.Files

/-! Programs that copy and move files. -/

namespace JobMatrix.Program

open JobMatrix.Path (Place)

inductive Destination where
  | into (directory : String)
  | onto (path : String)

namespace Transfer

structure Manner where
  name : String
  recursive : Bool := false
  /-- Whether links are followed where the command names them, and below. -/
  followsNamed : Bool := true
  follows : Bool := true
  keepsMode : Bool := false
  keepsTime : Bool := false
  asks : Bool := false
  skips : Bool := false
  updates : Bool := false
  verbose : Bool := false
  backs : Bool := false
  links : Bool := false
  symbolic : Bool := false
  replaces : Bool := false

def failed (m : Manner) (text : String) : Work Bool := do
  complain (m.name ++ ": " ++ text)
  return false

def mayReplace (m : Manner) (source old : Entry) (target : String) : Work Bool := do
  if m.skips then return false
  else if m.updates && source.time ≤ old.time then return false
  else if m.asks then agrees (m.name ++ ": overwrite " ++ (← quoted target) ++ "? ")
  else return true

def setAside (m : Manner) (target : String) : Work Unit := do
  if m.backs then
    let v ← view
    match v.locate target false, v.locate (target ++ "~") false with
    | .ok place, .ok other => setTree (v.tree.move place other)
    | _, _ => pure ()

def spoken (m : Manner) (source target : String) : Work Unit := do
  if m.verbose then sayLine ((← quoted source) ++ " -> " ++ (← quoted target))

def copyOf (m : Manner) (v : View) (source : Entry) (kind : Entry.Kind) : Entry :=
  { kind, mode := if m.keepsMode then source.mode else v.masked (source.mode &&& 0o777)
    time := if m.keepsTime then source.time else v.now }

def copyFile (m : Manner) (source : String) (from' : Place) (e : Entry) (target : String) :
    Work Bool := do
  let v ← view
  let shown ← quoted target
  let create (kind : String) (e : SystemError) : Work Bool :=
    failed m ("cannot create " ++ kind ++ " " ++ shown ++ ": " ++ e.reason)
  let kindName := if m.symbolic then "symbolic link" else if m.links then "hard link"
    else if e.isLink then "symbolic link" else "regular file"
  let missing := !(v.lookup target).toBool
  if target.endsWith "/" && missing && !target.isEmpty then
    create kindName .notDirectory
  else match v.locate target (!(e.isLink || m.links || m.symbolic || m.replaces)) with
    | .error error => create kindName error
    | .ok place =>
      let dangling := missing && (match v.lookup target false with
        | .ok (_, d) => d.isLink
        | .error _ => false)
      if dangling && !e.isLink && !m.replaces then
        failed m ("not writing through dangling symlink " ++ shown)
      else
        let old := v.tree.entry? place
        let same := old.isSome && (v.tree.isSame from' place ||
          (match v.lookup target with | .ok (p, _) => v.tree.isSame from' p | .error _ => false))
        if same && !(m.links && !m.symbolic) then
          failed m ((← quoted source) ++ " and " ++ shown ++ " are the same file")
        else if old.elim false Entry.isDirectory then
          failed m ("cannot overwrite directory " ++ shown ++ " with non-directory")
        else
          let allowed ← match old with
            | some o => mayReplace m e o target
            | none => pure true
          if !allowed then return true
          else match v.tree.opening place.dropLast with
            | .error error => create kindName error
            | .ok _ =>
              if old.isSome then setAside m target
              let t := (← view).tree
              let done (t : FileTree) : Work Bool := do
                setTree t
                spoken m source target
                return true
              if m.symbolic then
                done (t.put place { kind := .link source, mode := 0o777, time := v.now })
              else if m.links then
                let shared := if e.shared == 0 then freshShare t else e.shared
                done (((t.put from' { e with shared }).remove place).put place { e with shared })
              else match e.kind with
                | .link target' =>
                  done ((t.remove place).put place { kind := .link target', mode := 0o777
                                                     time := v.now })
                | .channel => done (t.put place (copyOf m v e .channel))
                | .history store =>
                  done (t.put place (copyOf m v e (.history store)))
                | .program name => done (t.put place (copyOf m v e (.program name)))
                | _ =>
                  match ← readPath source with
                  | .error error =>
                    failed m ("cannot open " ++ (← quoted source) ++ " for reading: " ++ error.reason)
                  | .ok data =>
                    let t := (← view).tree
                    let new := copyOf m v e (.file data)
                    match t.entry? place with
                    | some o =>
                      if o.isDevice then
                        let _ ← writePath target data
                        done (← view).tree
                      else if m.replaces then done ((t.remove place).put place new)
                      else
                        done (t.put place { o with
                          kind := .file data
                          mode := if m.keepsMode then e.mode else o.mode
                          time := new.time })
                    | none => done (t.put place new)

def copy (m : Manner) (named' : Bool) (source target : String) : Nat → Work Bool
  | 0 => return false
  | fuel + 1 => do
    let v ← view
    match v.lookup source (if named' then m.followsNamed else m.follows) with
    | .error e => failed m ("cannot stat " ++ (← quoted source) ++ ": " ++ e.reason)
    | .ok (place, e) =>
      if !e.isDirectory then copyFile m source place e target
      else if !m.recursive then
        failed m ("-r not specified; omitting directory " ++ (← quoted source))
      else match v.locate target with
        | .error error =>
          failed m ("cannot create directory " ++ (← quoted target) ++ ": " ++ error.reason)
        | .ok goal =>
          let names := v.tree.list place
          let inside := place.isPrefixOf goal && place != goal
          let below : Work Bool := do
            let ok ← allOf names fun n => copy m false (under source n) (under target n) fuel
            if inside then
              failed m ("cannot copy a directory, " ++ (← quoted source) ++ ", into itself, " ++
                (← quoted target))
            else return ok
          match v.tree.entry? goal with
          | some old =>
            if !old.isDirectory then
              failed m ("cannot overwrite non-directory " ++ (← quoted target) ++
                " with directory " ++ (← quoted source))
            else if place == goal then
              failed m ((← quoted source) ++ " and " ++ (← quoted target) ++ " are the same file")
            else below
          | none =>
            match v.tree.opening goal.dropLast with
            | .error error =>
              failed m ("cannot create directory " ++ (← quoted target) ++ ": " ++ error.reason)
            | .ok _ =>
              setTree (v.tree.put goal (copyOf m v e .directory))
              spoken m source target
              below

def move (m : Manner) (source target : String) : Work Bool := do
  let v ← view
  let shown ← quoted target
  match v.lookup source false with
  | .error e => failed m ("cannot stat " ++ (← quoted source) ++ ": " ++ e.reason)
  | .ok (place, e) =>
    let cannot (error : SystemError) : Work Bool := do
      failed m ("cannot move " ++ (← quoted source) ++ " to " ++ shown ++ ": " ++ error.reason)
    let bare := String.ofList (Text.dropEndWhile (· == '/') target.toList)
    match v.locate (if bare.isEmpty then target else bare) false with
    | .error error => cannot error
    | .ok goal =>
      let old := v.tree.entry? goal
      let go : Work Bool := do
        if old.isSome then setAside m target
        let t := (← view).tree
        setTree (t.move place goal)
        if m.verbose then sayLine ("renamed " ++ (← quoted source) ++ " -> " ++ shown)
        return true
      if target.endsWith "/" && !e.isDirectory && !old.isSome then cannot .notDirectory
      else if v.tree.isSame place goal && old.isSome && !e.isDirectory then
        failed m ((← quoted source) ++ " and " ++ shown ++ " are the same file")
      else if e.isDirectory && place.isPrefixOf goal then
        failed m ("cannot move " ++ (← quoted source) ++ " to a subdirectory of itself, " ++ shown)
      else match old with
        | none =>
          match v.tree.opening goal.dropLast with
          | .error error => cannot error
          | .ok _ => go
        | some o =>
          if e.isDirectory && !o.isDirectory then
            failed m ("cannot overwrite non-directory " ++ shown ++ " with directory " ++
              (← quoted source))
          else if !e.isDirectory && o.isDirectory then
            failed m ("cannot overwrite directory " ++ shown ++ " with non-directory")
          else if !(← mayReplace m e o target) then return true
          else if o.isDirectory && !(v.tree.list goal).isEmpty && !m.backs then cannot .notEmpty
          else go

def destination (name : String) (cs : List Choice) (words : List String) :
    Work (Except Nat (List String × Destination)) := do
  let v ← view
  let why (path : String) : String := match v.lookup path with
    | .ok _ => SystemError.notDirectory.reason
    | .error e => e.reason
  match lastOf? cs "t" with
  | some d =>
    if words.isEmpty then return .error (← misuse name (name ++ ": missing file operand"))
    else if v.isDirectory d then return .ok (words, .into d)
    else return .error (← refuse (name ++ ": target directory " ++ (← quoted d) ++ ": " ++ why d))
  | none =>
    match words with
    | [] => return .error (← misuse name (name ++ ": missing file operand"))
    | [w] =>
      return .error (← misuse name
        (name ++ ": missing destination file operand after " ++ (← quoted w)))
    | [a, b] =>
      return .ok ([a], if !has cs "T" && v.isDirectory b then .into b else .onto b)
    | _ :: _ :: extra :: _ =>
      let last := words.getLast?.getD ""
      if has cs "T" then return .error (← misuse name (name ++ ": extra operand " ++ (← quoted extra)))
      else if v.isDirectory last then return .ok (words.dropLast, .into last)
      else return .error (← refuse (name ++ ": target " ++ (← quoted last) ++ ": " ++ why last))

def targetOf (d : Destination) (source : String) : String :=
  match d with
  | .into directory => under directory (lastName source)
  | .onto path => path

def longOptions : List (String × String) :=
  [("archive", "a"), ("attributes-only", "attributes"), ("backup", "b"),
   ("copy-contents", "contents"), ("dereference", "L"), ("force", "f"), ("interactive", "i"),
   ("link", "l"), ("no-clobber", "n"), ("no-dereference", "P"), ("no-preserve", "no:"),
   ("no-target-directory", "T"), ("one-file-system", "x"), ("parents", "parents"),
   ("preserve", "p"), ("recursive", "R"), ("remove-destination", "remove"),
   ("sparse", "sparse:"), ("strip-trailing-slashes", "strip"), ("suffix", "S"),
   ("symbolic-link", "s"), ("target-directory", "t"), ("update", "u"), ("verbose", "v")]

end Transfer

def cp (args : List String) : Work Nat :=
  let options : Options := { letters := "abdfHilLnprst:uvxPRS:TZ", long := Transfer.longOptions ++ about }
  options.within "cp" args fun cs words => do
    match ← Transfer.destination "cp" cs words with
    | .error code => return code
    | .ok (sources, d) =>
      let any (keys : List String) : Bool := keys.any (has cs)
      let recursive := any ["a", "r", "R"]
      let (named', below) := match lastAmong? cs ["a", "d", "P", "L", "H"] with
        | some "L" => (true, true)
        | some "H" => (true, false)
        | some _ => (false, false)
        | none => (!recursive, !recursive)
      let m : Transfer.Manner :=
        { name := "cp", recursive, followsNamed := named', follows := below
          keepsMode := any ["a", "p"], keepsTime := any ["a", "p"]
          asks := lastAmong? cs ["i", "n", "f"] == some "i"
          skips := lastAmong? cs ["i", "n"] == some "n", updates := has cs "u"
          verbose := has cs "v", backs := has cs "b", links := has cs "l", symbolic := has cs "s"
          replaces := has cs "remove" }
      let ok ← allOf sources fun s => do
        match has cs "parents", d with
        | true, .into directory =>
          let lead := dirnameOf s
          let made ← Mkdir.makeAll (0o755) (0o755) false (Mkdir.leads (under directory lead))
          if made then Transfer.copy m true s (under directory s) 1000 else return false
        | _, d => Transfer.copy m true s (Transfer.targetOf d s) 1000
      return codeOf ok

def mv (args : List String) : Work Nat :=
  let options : Options :=
    { letters := "bfint:uvS:TZ"
      long := [("backup", "b"), ("force", "f"), ("interactive", "i"), ("no-clobber", "n"),
        ("no-target-directory", "T"), ("strip-trailing-slashes", "strip"), ("suffix", "S"),
        ("target-directory", "t"), ("update", "u"), ("verbose", "v")] ++ about }
  options.within "mv" args fun cs words => do
    match ← Transfer.destination "mv" cs words with
    | .error code => return code
    | .ok (sources, d) =>
      let m : Transfer.Manner :=
        { name := "mv", asks := lastAmong? cs ["i", "n", "f"] == some "i"
          skips := lastAmong? cs ["i", "n", "f"] == some "n", updates := has cs "u"
          verbose := has cs "v", backs := has cs "b" }
      let ok ← allOf sources fun s => Transfer.move m s (Transfer.targetOf d s)
      return codeOf ok

end JobMatrix.Program
