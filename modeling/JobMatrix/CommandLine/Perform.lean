import JobMatrix.CommandLine.Command
import JobMatrix.Declaration.File
import JobMatrix.Run.Execute

/-! What the commands do. Each works on a world of files and processes and leaves a code and two
streams of text. -/

namespace JobMatrix.CommandLine

open JobMatrix.Path (Place)

variable {M : Type} [Host M]

/-- Where a command is called, and under which name and time a run is recorded. -/
structure World (M : Type) where
  machine : M
  cwd : Place
  env : Env
  runId : String
  now : String

namespace World

def home (w : World M) : String := (Dict.get? w.env "HOME").getD "/root"

def tree (w : World M) : FileTree := Host.tree w.machine

def withTree (w : World M) (tree : FileTree) : World M := { w with machine := Host.withTree w.machine tree }

def settings (w : World M) : Except Fault Settings := Settings.around w.tree w.home w.cwd w.cwd

def pipeline (w : World M) (declaration : Option String) : Except Fault Pipeline := do
  let place ← (Project.declaration w.tree w.cwd (.ofPlace w.cwd) declaration).mapError
    fun e => .system e.1 e.2.text
  Declaration.load w.tree w.home w.cwd (Path.ofPlace place).text

end World

/-- What a command leaves: its code, or what stopped it, and what it wrote. -/
structure Outcome (M : Type) where
  code : Except Fault Int
  out : String := ""
  err : String := ""
  world : World M

namespace Outcome

def ofCode (w : World M) (code : Int) : Outcome M := { code := .ok code, world := w }

def stopped (w : World M) (f : Fault) : Outcome M := { code := .error f, world := w }

def say (o : Outcome M) (line : String) : Outcome M := { o with out := o.out ++ line ++ "\n" }

def complain (o : Outcome M) (line : String) : Outcome M := { o with err := o.err ++ line ++ "\n" }

def sayAll (o : Outcome M) (lines : List String) : Outcome M := lines.foldl say o

end Outcome

def isSettingsFault : Fault → Bool
  | .noHome => true
  | .tooDeep => true
  | .settingsUnreadable .. => true
  | .settingsNotMapping _ => true
  | .settingsUnwritable .. => true
  | _ => false

def settingsOutcome (w : World M) (f : Fault) : Outcome M :=
  if isSettingsFault f then (Outcome.ofCode w 2).complain ("Error: " ++ f.text) else .stopped w f

def sayJson (o : Outcome M) (v : Value) : Outcome M :=
  match Json.write (.indented 2) v with
  | .ok text => o.say text
  | .error e => { o with code := .error (.unwritable e) }

def levelNames : List (String × Nat) :=
  [("NOTSET", 0), ("DEBUG", 10), ("INFO", 20), ("WARNING", 30), ("WARN", 30), ("ERROR", 40),
   ("CRITICAL", 50), ("FATAL", 50)]

def levelVariable : String := "MATRIXCI_LOG_LEVEL"

/-- The capital form of a letter. The names of levels have ASCII letters only, and these are all the
characters whose capital form is one of them. -/
def capital (c : Char) : Char :=
  if c.toNat == 0x131 then 'I' else if c.toNat == 0x17f then 'S' else c.toUpper

/-- The level of a name. An unknown name counts as a warning, but two names that mean something else
are refused. -/
def levelOf (name : String) : Except Fault Nat :=
  let name := name.map capital
  if name == "BASIC_FORMAT" then .error (.unknownLevel "%(levelname)s:%(name)s:%(message)s")
  else if name == "_STYLES" then .error .mismatch
  else .ok ((Dict.get? levelNames name).getD 30)

/-- The least level that is logged: that of the environment, else the one for a talkative run, else
that of the settings. -/
def threshold (w : World M) (verbose : Bool) (s : Option Settings) : Except Fault Nat := do
  let fallback ←
    if verbose then pure "INFO"
    else match s with
      | some s => s.logLevel
      | none => pure "WARNING"
  levelOf ((Dict.get? w.env levelVariable).getD fallback)

/-- Where a history is kept: at a place, or only as long as the command runs. -/
structure Ledger where
  place : Option Place
  store : History.Store

def openLedger (t : FileTree) (cwd : Place) (path : Path) : Except Fault (Ledger × FileTree) :=
  if path.text == ":memory:" then .ok (⟨none, {}⟩, t)
  else match t.locate cwd path with
    | .error _ => .error (.history .cannotOpen)
    | .ok place =>
      let fresh : Except Fault (Ledger × FileTree) :=
        .ok (⟨some place, {}⟩, t.put place (.history {}))
      match (t.entry? place).map Entry.kind with
      | some (.history s) => .ok (⟨some place, s⟩, t)
      | some (.file []) => fresh
      | some (.file _) => .error (.history .notStore)
      | some (.program _) => .error (.history .notStore)
      | some _ => .error (.history .cannotOpen)
      | none =>
        match t.writable cwd path with
        | .ok _ => fresh
        | .error _ => .error (.history .cannotOpen)

/-- The path of the history: as given, else as set, else in the project. -/
def ledgerPath (w : World M) (s : Settings) (db : Option String) : Except Fault (Option Path) :=
  match db with
  | some text => .ok (some (.ofText text))
  | none =>
    if s.dbPath.truthy then
      match s.dbPath with
      | .scalar (.text p) => .ok (some (.ofText p))
      | _ => .error .mismatch
    else .ok ((Project.history? w.tree w.cwd).map Path.ofPlace)

def openHistory (w : World M) (s : Settings) (db : Option String) :
    Except Fault (Option Ledger × World M) := do
  match ← ledgerPath w s db with
  | none => return (none, w)
  | some path =>
    let tree ← (w.tree.makeDirectories w.cwd path.anchor path.parent.names).mapError
      fun e => .system e.1 e.2.text
    let (ledger, tree) ← openLedger tree w.cwd path
    return (some ledger, w.withTree tree)

def executorFor (w : World M) (s : Settings) (o : RunOptions) : Except Fault Executor := do
  let maxWorkers ← match o.workers with
    | some n => pure (some n)
    | none => s.maxWorkers
  let stepTimeout ← match o.stepTimeout with
    | some x => pure (some x)
    | none => s.stepTimeout
  let jobTimeout ← match o.jobTimeout with
    | some x => pure (some x)
    | none => s.jobTimeout
  let baseEnv ← (CommandLine.variables o.env).mapError .config
  let workspace := match o.workspace with
    | some p => (Path.ofText p).resolve w.cwd
    | none => (Project.root? w.tree w.cwd).getD w.cwd
  return {
    maxWorkers, stepTimeout := stepTimeout.map Number.float
    jobTimeout := jobTimeout.map Number.float, failFast := o.failFast.getD s.failFast, baseEnv
    workspace, showOutput := o.showOutput || s.showOutput, ambient := w.env }

def Outcome.show (o : Outcome M) (least : Nat) (s : Sight) : Outcome M :=
  match s with
  | .log e => if least ≤ e.level.rank then o.complain e.line else o
  | .notice n => o.say n.bulletin.line
  | .shown text => { o with out := o.out ++ text }

def keepLedger (t : FileTree) (ledger : Option Ledger) (a : Archive) : FileTree :=
  match ledger.bind Ledger.place, a with
  | some place, .kept c => if (t.entry? place).isSome then t.put place (.history c.store) else t
  | _, _ => t

def Outcome.conclude (o : Outcome M) (options : RunOptions) (report : Option Report) : Outcome M :=
  match report with
  | none =>
    if options.json then
      sayJson o (.object [("status", .text "skipped"), ("event", .text options.event)])
    else match TextTable.paragraph ("Skipped: event '" ++ Markup.escape options.event ++
        "' does not trigger this pipeline") with
      | .ok lines => o.sayAll lines
      | .error e => { o with code := .error (.misplaced e) }
  | some r =>
    let o := { o with code := .ok r.exitCode }
    if options.json then sayJson o r.record
    else match r.lines with
      | .ok lines => o.sayAll lines
      | .error f => { o with code := .error f }

def runUnder (w : World M) (o : RunOptions) (s : Settings) (least : Nat) : Outcome M :=
  let parsedLog (p : Pipeline) : List Sight := (Declaration.log p).map Sight.log
  let refuse (w : World M) (f : Fault) (sights : List Sight) : Outcome M :=
    let seen (o : Outcome M) : Outcome M := sights.foldl (Outcome.show · least) o
    match f with
    | .config e => (seen (.ofCode w 2)).complain ("Configuration error: " ++ e.text)
    | f => seen (.stopped w f)
  let place := (Project.declaration w.tree w.cwd (.ofPlace w.cwd) o.declaration).mapError
    fun e => Fault.system e.1 e.2.text
  match place with
  | .error f => refuse w f []
  | .ok place =>
    match if o.noHistory then .ok (none, w) else openHistory w s o.db with
    | .error f => refuse w f []
    | .ok (ledger, w) =>
      match Declaration.load w.tree w.home w.cwd (Path.ofPlace place).text with
      | .error f => refuse w f []
      | .ok p =>
        match executorFor w s o with
        | .error f => refuse w f (parsedLog p)
        | .ok x =>
          let archive := match ledger with
            | some l => Archive.kept { store := l.store }
            | none => .absent
          let setting : Setting :=
            { executor := x, observer := if o.hooks then some { name := "PrintHook" } else none
              runId := w.runId, now := w.now }
          let e := p.execute { kind := o.event, ref := o.ref } setting w.machine archive false
          let w := { w with machine := e.machine }
          let w := w.withTree (keepLedger w.tree ledger e.archive)
          let sights := parsedLog p ++ e.sights
          match e.answer with
          | .error f => refuse w f sights
          | .ok report =>
            (sights.foldl (Outcome.show · least) (.ofCode w 0)).conclude o report

def run (w : World M) (o : RunOptions) : Outcome M :=
  match w.settings with
  | .error f =>
    match isSettingsFault f, threshold w o.verbose none with
    | true, .error f => .stopped w f
    | _, _ => settingsOutcome w f
  | .ok s =>
    match threshold w o.verbose (some s) with
    | .error f => .stopped w f
    | .ok least => runUnder w o s least

def expansion (w : World M) (declaration : Option String) :
    Except Fault (Pipeline × List Instance) := do
  let p ← w.pipeline declaration
  let instances ← (Template.expandAll p.templates).mapError .config
  return (p, instances)

def validate (w : World M) (declaration : Option String) : Outcome M :=
  match expansion w declaration with
  | .error (.config e) => (Outcome.ofCode w 2).say ("Invalid: " ++ e.text)
  | .error f => .stopped w f
  | .ok (p, instances) => (Outcome.ofCode w 0).say
    s!"Valid: {p.templates.length} job(s), {instances.length} instance(s)."

def instanceCells (i : Instance) : Except Fault (List String) := do
  return [toString i.index, ← Report.nameMarks i.displayName,
    Markup.escape (", ".intercalate (i.bindings.map fun b => b.1.display ++ "=" ++ b.2)),
    Markup.escape (", ".intercalate (i.steps.map Step.label))]

def instanceTable (instances : List Instance) : Except Fault TextTable := do
  return {
    title := "Job instances"
    columns := [⟨"#", true⟩, ⟨"Instance", false⟩, ⟨"Bindings", false⟩, ⟨"Steps", false⟩]
    rows := ← instances.mapM instanceCells }

def Outcome.sayTable (o : Outcome M) (table : Except Fault TextTable) : Outcome M :=
  match table.bind fun t => t.lines.mapError .misplaced with
  | .ok lines => o.sayAll lines
  | .error f => { o with code := .error f }

def expand (w : World M) (declaration : Option String) (json : Bool) : Outcome M :=
  match expansion w declaration with
  | .error (.config e) => (Outcome.ofCode w 2).complain ("Invalid: " ++ e.text)
  | .error f => .stopped w f
  | .ok (_, instances) =>
    let o := Outcome.ofCode w 0
    if json then sayJson o (.list (instances.map Instance.record))
    else o.sayTable (instanceTable instances)

def column (row : List (String × Value)) (name : String) : Value :=
  (Dict.get? row name).getD .null

def textOf (v : Value) : Except Fault String :=
  match v with
  | .scalar (.text s) => .ok s
  | _ => .error .mismatch

def jobCells (row : List (String × Value)) : Except Fault (List String) := do
  let failed := column row "failed_at"
  return [(column row "execution_order").display,
    Markup.escape (← textOf (column row "instance_id")), ← textOf (column row "status"),
    match failed with | .scalar .null => "" | v => v.display]

def runCells (row : List (String × Value)) : Except Fault (List String) := do
  let kind ← textOf (column row "event_kind")
  let ref := column row "event_ref"
  let status := column row "status"
  return [← textOf (column row "run_id"),
    Markup.escape (kind ++ if ref.truthy then " (" ++ ref.display ++ ")" else ""),
    (column row "start_timestamp").display, ← if status.truthy then textOf status else pure ""]

def jobTable (s : History.Store) (run : String) : Except Fault TextTable := do
  return {
    title := "Run " ++ run
    columns := [⟨"#", true⟩, ⟨"Instance", false⟩, ⟨"Status", false⟩, ⟨"Failed at", true⟩]
    rows := ← (← (s.jobsOf run).mapM History.values).mapM jobCells }

def runTable (s : History.Store) (limit : Int) : Except Fault TextTable := do
  let runs ← (s.recentRuns limit).mapError .history
  return {
    title := "Run history"
    columns := [⟨"Run", false⟩, ⟨"Event", false⟩, ⟨"Started", false⟩, ⟨"Status", false⟩]
    rows := ← (← runs.mapM History.values).mapM runCells }

def history (w : World M) (run db : Option String) (limit : Int) : Outcome M :=
  let found : Except Fault (Option Path × Bool) := do
    let s ← w.settings
    let path ← ledgerPath w s db
    let there ← match path with
      | none => pure false
      | some p => (w.tree.present w.cwd p).mapError fun e => .system e p.text
    return (path, there)
  match found with
  | .error f => .stopped w f
  | .ok (some path, true) =>
    match openLedger w.tree w.cwd path with
    | .error f => .stopped w f
    | .ok (ledger, tree) =>
      (Outcome.ofCode (w.withTree tree) 0).sayTable (match run.filter (!·.isEmpty) with
        | some id => jobTable ledger.store id
        | none => runTable ledger.store limit)
  | .ok (path, _) => (Outcome.ofCode w 2).complain
    ("Error: history database not found: " ++ (path.map Path.text).getD "None")

def starter : String :=
  let step (name command : String) : String :=
    "      - name: " ++ name ++ "\n        run: " ++ command ++
      "\n        env:\n          RUSTFLAGS: \"-Dwarnings\"\n"
  let axis := "$\x7b\x7b matrix.toolchain \x7d\x7d"
  "on: [push, pull_request]\n\nenv:\n  CARGO_TERM_COLOR: always\n\njobs:\n  build_and_test:\n" ++
    "    name: Rust project - latest\n    matrix:\n      toolchain: [stable, beta, nightly]\n" ++
    "    steps:\n      - name: toolchain\n        run: rustup update " ++ axis ++
    " && rustup default " ++ axis ++ " && rustup component add rustfmt clippy\n" ++
    step "build" "cargo build --all --verbose" ++ step "test" "cargo test --all --verbose" ++
    step "fmt-check" "cargo fmt --all --check --verbose" ++
    step "lint" "cargo clippy --all --verbose"

def init (w : World M) (path : Option String) (force : Bool) : Outcome M :=
  let target := (Path.ofText (path.getD ".")).resolve w.cwd
  let directory := Path.ofPlace (target ++ [Project.directoryName])
  let settings := directory / Project.settingsName
  let declaration := directory / Project.declarationName
  let system {α : Type} (p : Path) (x : Except SystemError α) : Except Fault α :=
    x.mapError fun e => .system e p.text
  let made : Except Fault (FileTree × Bool) := do
    let t ← (w.tree.makeDirectories w.cwd directory.anchor directory.names).mapError
      fun e => .system e.1 e.2.text
    let t ← if ← system settings (t.present w.cwd settings) then pure t
      else system settings (t.write w.cwd settings [])
    let kept := (← system declaration (t.present w.cwd declaration)) && !force
    let t ← if kept then pure t
      else system declaration (t.write w.cwd declaration (Text.bytes starter))
    return (t, kept)
  match made with
  | .error f => .stopped w f
  | .ok (t, kept) =>
    let o := Outcome.ofCode (w.withTree t) 0
    let o := if kept then
        o.say ("Keeping existing " ++ declaration.text ++ ". Use --force to overwrite.")
      else o
    o.say ("Initialized matrixci project at " ++ directory.text)

def setSetting (w : World M) (key value : String) : Outcome M :=
  if !(Key.all.map Key.name).contains key then
    (Outcome.ofCode w 2).complain ("Error: Unknown key '" ++ key ++ "'. Known keys: " ++
      ", ".intercalate (Key.all.map Key.name))
  else
    match w.settings with
    | .error f => settingsOutcome w f
    | .ok s =>
      match (s.set key (.text value)).save w.tree w.cwd with
      | (t, some f) => settingsOutcome (w.withTree t) f
      | (t, none) => (Outcome.ofCode (w.withTree t) 0).say ("✓ Set " ++ key ++ " = " ++ value)

def Outcome.sayValues (o : Outcome M) : List (String × Value) → Outcome M
  | [] => o
  | (label, v) :: rest =>
    if v.isShowable then (o.say (label ++ v.display)).sayValues rest
    else { o with code := .error .tooLongToShow }

def getSetting (w : World M) (key : Option String) : Outcome M :=
  match w.settings with
  | .error f => settingsOutcome w f
  | .ok s =>
    let o := Outcome.ofCode w 0
    match key.filter (!·.isEmpty) with
    | some key =>
      match s.get key with
      | .scalar .null => o.say (key ++ " = (not set)")
      | v => o.sayValues [(key ++ " = ", v)]
    | none =>
      let o := o.say "Configuration:"
      match Scalar.sortOn? (·.1) s.merged with
      | none => { o with code := .error .mismatch }
      | some entries => o.sayValues (entries.map fun e => ("  " ++ e.1.display ++ ": ", e.2))

def Command.perform (w : World M) : Command → Outcome M
  | .run o => CommandLine.run w o
  | .validate declaration => CommandLine.validate w declaration
  | .expand declaration json => CommandLine.expand w declaration json
  | .history id db limit => CommandLine.history w id db limit
  | .init path force => CommandLine.init w path force
  | .config key value =>
    match key.filter (!·.isEmpty), value with
    | some key, some value => setSetting w key value
    | key, _ => getSetting w key
  | .help form => (Outcome.ofCode w 0).say (Misuse.usage form)

def perform (w : World M) (words : List String) : Outcome M :=
  match Command.parse words with
  | .ok c => c.perform w
  | .error (form, m) => (m.lines form).foldl Outcome.complain (.ofCode w 2)

end JobMatrix.CommandLine
