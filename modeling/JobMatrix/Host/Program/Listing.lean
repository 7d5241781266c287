import JobMatrix.Host.Program.Amount
import JobMatrix.Host.Program.Files
import JobMatrix.Host.Program.Lines
import JobMatrix.Host.Program.Order
import JobMatrix.Text.Wildcard

/-! Listings of directories: which entries are listed, in which order, and how they are laid out. -/

namespace JobMatrix.Program

open JobMatrix.Path (Place)

namespace Listing

inductive Form where
  | lines
  | long
  | across
  | down
  | commas
deriving DecidableEq, Repr, Inhabited

inductive Key where
  | name
  | time
  | size
  | extension
  | version
  | width
  | asFound
deriving DecidableEq, Repr, Inhabited

inductive Indicator where
  | none
  | slash
  | kind
  | all
deriving DecidableEq, Repr, Inhabited

inductive Spelling where
  | plain
  | forShell
  | quotedForShell
  | quoted
  | escaped
  | locale
deriving DecidableEq, Repr, Inhabited

inductive Follows where
  | never
  | operandDirectories
  | operands
  | all
deriving DecidableEq, Repr, Inhabited

structure Style where
  program : String := "ls"
  form : Form := .lines
  key : Key := .name
  reversed : Bool := false
  /-- Names that start with a dot, and those of the directory itself and the one above. -/
  dotted : Bool := false
  selves : Bool := false
  backups : Bool := true
  directoriesFirst : Bool := false
  recursive : Bool := false
  /-- Directories stand for themselves. -/
  immediate : Bool := false
  owner : Bool := true
  group : Bool := true
  author : Bool := false
  numeric : Bool := false
  inode : Bool := false
  blocks : Bool := false
  human : Option Nat := none
  unit : Option Nat := none
  /-- The name of the unit, if it is written after numbers. -/
  unitName : String := ""
  indicator : Indicator := .none
  spelling : Spelling := .plain
  hides : Bool := false
  follows : Follows := .operandDirectories
  /-- The formats of times, recent and others. -/
  recent : String := "%b %e %H:%M"
  older : String := "%b %e  %Y"
  ignored : List String := []
  width : Nat := 80
  tab : Nat := 8
  ending : String := "\n"
deriving Inhabited

structure Item where
  name : String
  place : Place
  entry : Entry
  target : Option Entry := none
deriving Inhabited

def Style.spell (s : Style) (utf8 : Bool) (name : String) : String :=
  let escaped (blank quote : Bool) : String := String.join (name.toList.map fun c =>
    if c == '\\' then "\\\\"
    else if c == '"' && quote then "\\\""
    else if c == ' ' && blank then "\\ "
    else if Quoting.isPrintable utf8 c then String.singleton c
    else Quoting.escape c)
  match s.spelling with
  | .plain =>
    if s.hides then name.map fun c => if Quoting.isPrintable utf8 c then c else '?' else name
  | .forShell => Quoting.forShell utf8 name
  | .quotedForShell => Quoting.always utf8 name
  | .quoted => "\"" ++ escaped false true ++ "\""
  | .escaped => escaped true false
  | .locale => Quoting.marked utf8 name

def Style.markOf (s : Style) (e : Entry) : String :=
  match s.indicator, e.kind with
  | .none, _ => ""
  | _, .directory => "/"
  | .slash, _ => ""
  | _, .link _ => "@"
  | _, .channel => "|"
  | .all, _ => if e.isRegular && e.mode &&& 0o111 != 0 then "*" else ""
  | .kind, _ => ""

/-- The mark after an entry; in the long form that of a link stands after its target. -/
def Style.mark (s : Style) (i : Item) : String :=
  if s.form == .long && i.entry.isLink then "" else s.markOf i.entry

def kilobytes (e : Entry) : Nat :=
  match e.kind with
  | .directory => 4
  | .device _ => 0
  | .link _ => 0
  | .channel => 0
  | _ => (e.size + 4095) / 4096 * 4

def Style.amountOf (s : Style) (fallback bytes : Nat) : String :=
  match s.human with
  | some base => humanText base bytes
  | none =>
    let unit := s.unit.getD fallback
    toString ((bytes + unit - 1) / unit) ++ s.unitName

def Style.blocksOf (s : Style) (e : Entry) : String := s.amountOf 1024 (1024 * kilobytes e)

def deviceNumbers : Device → Nat × Nat
  | .null => (1, 3)
  | .zero => (1, 5)
  | .full => (1, 7)
  | .random => (1, 9)
  | .terminal => (5, 0)
  | .descriptor n => (136, n)

def Style.sizeOf (s : Style) (e : Entry) : String :=
  match e.kind with
  | .device d =>
    let (major, minor) := deviceNumbers d
    s!"{major}, {minor}"
  | _ => s.amountOf 1 e.size

def numberOf (t : FileTree) (place : Place) : Nat :=
  match t.entry? place with
  | some e =>
    if e.shared != 0 then 900000 + e.shared
    else 100000 + (t.entries.findIdx fun d => d.1 == place)
  | none => 0

def Style.timeOf (s : Style) (now : Int) (e : Entry) : String :=
  let half : Int := 15778476 * 10 ^ 9
  let isRecent := now - half < e.time && e.time ≤ now
  (Stamp.ofNanoseconds e.time).format (if isRecent then s.recent else s.older)

def Style.order (s : Style) (utf8 : Bool) (a b : Item) : Ordering :=
  let names (a b : String) : Ordering := Order.bytes (Octets.ofText a) (Octets.ofText b)
  let extension (name : String) : String :=
    let cs := name.toList.reverse
    if cs.contains '.' then String.ofList ('.' :: (cs.takeWhile (· != '.')).reverse) else ""
  let byKey := match s.key with
    | .time => compare b.entry.time a.entry.time
    | .size => compare b.entry.size a.entry.size
    | .extension => names (extension a.name) (extension b.name)
    | .version => Order.version (Octets.ofText a.name) (Octets.ofText b.name)
    | .width => compare (s.spell utf8 a.name).length (s.spell utf8 b.name).length
    | _ => .eq
  byKey.then (names a.name b.name)

def Style.sorted (s : Style) (utf8 : Bool) (items : List Item) : List Item :=
  if s.key == .asFound then items
  else
    let below (a b : Item) : Bool :=
      let o := s.order utf8 a b
      if s.reversed then o != .lt else o != .gt
    let sorted := items.mergeSort below
    let isDirectory (i : Item) : Bool := i.entry.isDirectory || i.target.elim false (·.isDirectory)
    if s.directoriesFirst then sorted.filter isDirectory ++ sorted.filter (!isDirectory ·) else sorted

def Style.lists (s : Style) (name : String) : Bool :=
  (s.dotted || !name.startsWith ".") && (s.backups || !name.endsWith "~") &&
    !s.ignored.any fun p => Wildcard.fits p name && (!name.startsWith "." || p.startsWith ".")

def Style.columns (s : Style) (t : FileTree) (i : Item) : List String :=
  let who := if s.numeric then "0" else "root"
  (if s.inode then [toString (numberOf t i.place)] else []) ++
  (if s.blocks then [s.blocksOf i.entry] else []) ++
  [String.singleton (Mode.letterOf i.entry) ++ Mode.text i.entry.mode,
   toString (t.linkCount i.place)] ++
  (if s.owner then [who] else []) ++ (if s.group then [who] else []) ++
  (if s.author then [who] else []) ++ [s.sizeOf i.entry]

def widths : List (List String) → List Nat
  | [] => []
  | row :: rest =>
    let others := widths rest
    row.zipIdx.map fun c => max c.1.length (others.getD c.2 0)

def Style.longLines (s : Style) (v : View) (widths : List Nat) (items : List Item) : List String :=
  items.map fun i =>
    let columns := (s.columns v.tree i).zipIdx.map fun c =>
      let width := widths.getD c.2 0
      if c.1 == "root" then padRight width c.1 else padLeft width c.1
    let target := match i.entry.kind with
      | .link target => " -> " ++ s.spell v.isUtf8 target ++ (i.target.elim "" s.markOf)
      | _ => ""
    " ".intercalate columns ++ " " ++ s.timeOf v.now i.entry ++ " " ++ s.spell v.isUtf8 i.name ++
      s.mark i ++ target

def Style.cell (s : Style) (v : View) (widths : List Nat) (i : Item) : String :=
  let leads := (if s.inode then [toString (numberOf v.tree i.place)] else []) ++
    (if s.blocks then [s.blocksOf i.entry] else [])
  String.join (leads.zipIdx.map fun c =>
    (if s.form == .commas then c.1 else padLeft (widths.getD c.2 0) c.1) ++ " ") ++
    s.spell v.isUtf8 i.name ++ s.mark i

def columnWidths? (lengths : List Nat) (byColumn : Bool) (lineWidth count : Nat) :
    Option (List Nat) :=
  let rows := (lengths.length + count - 1) / count
  let column (n : Nat) : Nat := if byColumn then n / rows else n % count
  let each (c : Nat) : Nat := (lengths.zipIdx.filter fun l => column l.2 == c).foldl
    (fun w l => max w (l.1 + (if c + 1 == count then 0 else 2))) 3
  let all := (List.range count).map each
  if all.foldl (· + ·) 0 < lineWidth then some all else none

def gap (tab : Nat) : Nat → Nat → Nat → String
  | 0, _, _ => ""
  | fuel + 1, start, stop =>
    if stop ≤ start then ""
    else if tab != 0 && (start + 1) / tab < stop / tab then
      "\t" ++ gap tab fuel (start + tab - start % tab) stop
    else " " ++ gap tab fuel (start + 1) stop

def inColumns (byColumn : Bool) (tab lineWidth : Nat) (cells : List String) : List String :=
  let lengths := cells.map String.length
  let most := min cells.length (max 1 (lineWidth / 3))
  let found := ((List.range most).reverse.map (· + 1)).findSome? fun count =>
    (columnWidths? lengths byColumn lineWidth count).map fun ws => (count, ws)
  let (count, ws) := found.getD (1, [])
  let rows := (cells.length + count - 1) / count
  (List.range rows).map fun r =>
    let here := (List.range count).filterMap fun c =>
      cells[if byColumn then c * rows + r else r * count + c]?
    let rec line (position : Nat) : List String → List Nat → String
      | [], _ => ""
      | [cell], _ => cell
      | cell :: rest, ws =>
        let next := position + ws.headD 0
        cell ++ gap tab (next + 1) (position + cell.length) next ++ line next rest (ws.drop 1)
    line 0 here ws

def withCommas (lineWidth : Nat) (line : String) : List String → List String
  | [] => if line.isEmpty then [] else [line]
  | cell :: rest =>
    if line.isEmpty then withCommas lineWidth cell rest
    else if lineWidth == 0 || line.length + 2 + cell.length + 1 < lineWidth then
      withCommas lineWidth (line ++ ", " ++ cell) rest
    else (line ++ ",") :: withCommas lineWidth cell rest

/-- The lines of a listing; `all` are the items that the widths are made for. -/
def Style.lines (s : Style) (v : View) (all items : List Item) : List String :=
  if s.form == .long then s.longLines v (widths (all.map (s.columns v.tree))) items
  else
    let leads (i : Item) : List String :=
      (if s.inode then [toString (numberOf v.tree i.place)] else []) ++
        (if s.blocks then [s.blocksOf i.entry] else [])
    let cells := items.map (s.cell v (widths (all.map leads)))
    match s.form with
    | .commas => withCommas s.width "" cells
    | .across => columns false cells
    | .down => columns true cells
    | _ => cells
where
  columns (byColumn : Bool) (cells : List String) : List String :=
    if s.width == 0 then (if cells.isEmpty then [] else ["  ".intercalate cells])
    else inColumns byColumn s.tab s.width cells

def Style.write (s : Style) (all items : List Item) : Work Unit := do
  forEach (s.lines (← view) all items) fun l => sayText (l ++ s.ending)

def itemAt (t : FileTree) (follows : Bool) (place : Place) (name : String) : Option Item :=
  match t.entry? place with
  | none => none
  | some e =>
    let target := if e.isLink then (t.lookup place.dropLast (.ofText (place.getLast?.getD ""))).toOption
      else none
    match follows, target with
    | true, some (there, entry) => some { name, place := there, entry }
    | _, _ => some { name, place, entry := e, target := target.map (·.2) }

def Style.itemsOf (s : Style) (v : View) (place : Place) : List Item :=
  let selves := if s.selves then [(".", place), ("..", place.dropLast)] else []
  let names := (v.tree.list place).filter s.lists
  s.sorted v.isUtf8 ((selves ++ names.map fun n => (n, place ++ [n])).filterMap fun n =>
    itemAt v.tree (s.follows == .all) n.2 n.1)

/-- Lists directories one after another, and those in them if that is wanted; each is a path and a
place. -/
def Style.listAll (s : Style) (titled first : Bool) : Nat → List (String × Place) → Work Unit
  | 0, _ => return ()
  | _, [] => return ()
  | fuel + 1, (path, place) :: rest => do
    let v ← view
    let items := s.itemsOf v place
    if titled then
      sayText ((if first then "" else "\n") ++ s.spell v.isUtf8 path ++ ":\n")
    if s.form == .long || s.blocks then
      let total := items.foldl (fun n i => n + 1024 * kilobytes i.entry) 0
      sayText ("total " ++ s.amountOf 1024 total ++ s.ending)
    s.write items items
    let inner := if s.recursive then
        (items.filter fun i => i.entry.isDirectory && i.name != "." && i.name != "..").map
          fun i => (under path i.name, i.place)
      else []
    listAll s true (first && !titled) fuel (inner ++ rest)

def Style.operand (s : Style) (v : View) (path : String) : Except SystemError Item := do
  let following : Bool := match s.follows with
    | .never => false
    | .operandDirectories => v.isDirectory path
    | _ => true
  let (place, e) ← v.lookup path following
  let target := if e.isLink then (v.lookup path).toOption.map (·.2) else none
  return { name := path, place, entry := e, target }

def options : Options :=
  { letters := "abcdfghiklmnopqrstuvw:xABCDFGHI:LNQRST:UXZ1"
    long := [("all", "a"), ("almost-all", "A"), ("author", "author"), ("escape", "b"),
      ("block-size", "block-size:"), ("ignore-backups", "B"), ("color", "color::"),
      ("directory", "d"), ("dired", "D"), ("classify", "classify::"), ("file-type", "file-type"),
      ("format", "format:"), ("full-time", "full-time"),
      ("group-directories-first", "group-directories-first"), ("no-group", "G"),
      ("human-readable", "h"), ("si", "si"), ("dereference-command-line", "H"),
      ("dereference-command-line-symlink-to-dir", "dereference-directories"), ("hide", "hide:"),
      ("hyperlink", "hyperlink::"), ("indicator-style", "indicator-style:"), ("inode", "i"),
      ("ignore", "I"), ("kibibytes", "k"), ("dereference", "L"), ("numeric-uid-gid", "n"),
      ("literal", "N"), ("hide-control-chars", "q"), ("show-control-chars", "show-control-chars"),
      ("quote-name", "Q"), ("quoting-style", "quoting-style:"), ("reverse", "r"), ("recursive", "R"),
      ("size", "s"), ("sort", "sort:"), ("time", "time:"), ("time-style", "time-style:"),
      ("tabsize", "T"), ("width", "w"), ("context", "Z"), ("zero", "zero"), ("help", "help"),
      ("version", "version")] }

def groups : List (String × List (List String)) :=
  let whens := [["always", "yes", "force"], ["never", "no", "none"], ["auto", "tty", "if-tty"]]
  [("sort", [["none"], ["time"], ["size"], ["extension"], ["version"], ["width"]]),
   ("time", [["atime", "access", "use"], ["ctime", "status"], ["mtime", "modification"],
      ["birth", "creation"]]),
   ("format", [["verbose", "long"], ["commas"], ["horizontal", "across"], ["vertical"],
      ["single-column"]]),
   ("indicator-style", [["none"], ["slash"], ["file-type"], ["classify"]]),
   ("quoting-style", [["literal"], ["shell"], ["shell-always"], ["shell-escape"],
      ["shell-escape-always"], ["c"], ["c-maybe"], ["escape"], ["locale"], ["clocale"]]),
   ("color", whens), ("classify", whens), ("hyperlink", whens)]

def Style.after (s : Style) (key : String) (n : Nat) (argument : String) : Style :=
  match key with
  | "a" => { s with dotted := true, selves := true }
  | "A" => { s with dotted := true, selves := false }
  | "b" => { s with spelling := .escaped }
  | "B" => { s with backups := false }
  | "C" => { s with form := .down }
  | "d" => { s with immediate := true }
  | "f" =>
    { s with dotted := true, selves := true, key := .asFound, blocks := false
             form := if s.form == .long then .lines else s.form }
  | "F" => { s with indicator := .all }
  | "classify" => if n == 0 then { s with indicator := .all } else s
  | "file-type" => { s with indicator := .kind }
  | "p" => { s with indicator := .slash }
  | "indicator-style" => { s with indicator := [.none, .slash, .kind, .all].getD n .none }
  | "g" => { s with form := .long, owner := false }
  | "G" => { s with group := false }
  | "h" => { s with human := some 1024 }
  | "si" => { s with human := some 1000 }
  | "H" => { s with follows := .operands }
  | "L" => { s with follows := .all }
  | "dereference-directories" => { s with follows := .operandDirectories }
  | "i" => { s with inode := true }
  | "I" => { s with ignored := argument :: s.ignored }
  | "k" => { s with human := none, unit := none }
  | "l" => { s with form := .long }
  | "m" => { s with form := .commas }
  | "n" => { s with form := .long, numeric := true }
  | "N" => { s with spelling := .plain }
  | "o" => { s with form := .long, group := false }
  | "q" => { s with hides := true }
  | "show-control-chars" => { s with hides := false }
  | "Q" => { s with spelling := .quoted }
  | "quoting-style" =>
    { s with spelling := [.plain, .forShell, .quotedForShell, .forShell, .quotedForShell, .quoted,
        .quoted, .escaped, .locale, .locale].getD n .plain }
  | "r" => { s with reversed := true }
  | "R" => { s with recursive := true }
  | "s" => { s with blocks := true }
  | "S" => { s with key := .size }
  | "t" => { s with key := .time }
  | "U" => { s with key := .asFound }
  | "v" => { s with key := .version }
  | "X" => { s with key := .extension }
  | "sort" => { s with key := [.asFound, .time, .size, .extension, .version, .width].getD n .name }
  | "x" => { s with form := .across }
  | "1" => if s.form == .long then s else { s with form := .lines }
  | "zero" =>
    { s with ending := "\x00", spelling := .plain, hides := false
             form := if s.form == .long then .long else .lines }
  | "format" => { s with form := [.long, .commas, .across, .down, .lines].getD n .lines }
  | "full-time" =>
    { s with form := .long, recent := "%Y-%m-%d %H:%M:%S.%N %z", older := "%Y-%m-%d %H:%M:%S.%N %z" }
  | "author" => { s with author := true }
  | "group-directories-first" => { s with directoriesFirst := true }
  | _ => s

def Style.withTimes (s : Style) (name : String) : Style :=
  match name with
  | "full-iso" =>
    { s with recent := "%Y-%m-%d %H:%M:%S.%N %z", older := "%Y-%m-%d %H:%M:%S.%N %z" }
  | "long-iso" => { s with recent := "%Y-%m-%d %H:%M", older := "%Y-%m-%d %H:%M" }
  | "iso" => { s with recent := "%m-%d %H:%M", older := "%Y-%m-%d " }
  | _ =>
    if name.startsWith "+" then
      let formats := (String.ofList (name.toList.drop 1)).splitOn "\n"
      { s with older := formats.headD "", recent := (formats[1]?).getD (formats.headD "") }
    else s

def withStyle (s : Style) (go : Style → Work Nat) : List Choice → Work Nat
  | [] => go s
  | c :: rest =>
    let argument := c.argument.getD ""
    match c.key, c.argument with
    | "w", some a =>
      match plainNumber? a with
      | some n => withStyle { s with width := n } go rest
      | none => do refuse (s.program ++ ": invalid line width: " ++ (← marked a)) 2
    | "T", some a =>
      match plainNumber? a with
      | some n => withStyle { s with tab := n } go rest
      | none => do refuse (s.program ++ ": invalid tab size: " ++ (← marked a)) 2
    | "block-size", some a =>
      match a with
      | "human-readable" => withStyle { s with human := some 1024 } go rest
      | "si" => withStyle { s with human := some 1000 } go rest
      | a =>
        let counted := (a.toList.headD ' ').isDigit
        let digits := if counted then a else "1" ++ a
        match amount digits.toList with
        | .ok 0 => do refuse (s.program ++ ": invalid --block-size argument " ++ (← marked a)) 2
        | .ok n =>
          let unitName := if counted then "" else a
          withStyle { s with unit := some n, unitName, human := none } go rest
        | .error _ => do refuse (s.program ++ ": invalid --block-size argument " ++ (← marked a)) 2
    | "time-style", some a => withStyle (s.withTimes a) go rest
    | "hide", some a =>
      withStyle (if s.dotted then s else { s with ignored := a :: s.ignored }) go rest
    | key, a? =>
      match Dict.get? groups key, a? with
      | some words, some a =>
        withGroup s.program ("--" ++ key) words a fun n => withStyle (s.after key n a) go rest
      | _, _ => withStyle (s.after key 0 argument) go rest

def Style.present (s : Style) (words : List String) : Work Nat := do
  let v ← view
  let operands := if words.isEmpty then ["."] else words
  let found := operands.map fun w => (w, s.operand v w)
  forEach found fun (w, r) => do
    match r with
    | .ok _ => return ()
    | .error e => complain (s.program ++ ": cannot access " ++ (← quoted w) ++ ": " ++ e.reason)
  let items := s.sorted v.isUtf8 (found.filterMap fun f => f.2.toOption)
  let isOpened (i : Item) : Bool := i.entry.isDirectory && !s.immediate
  let files := items.filter (!isOpened ·)
  let directories := items.filter isOpened
  s.write items files
  if !files.isEmpty && !directories.isEmpty then sayText "\n"
  let titled := s.recursive || !files.isEmpty || 1 < operands.length
  s.listAll titled true rounds (directories.map fun i => (i.name, i.place))
  return codeOf (found.all fun f => f.2.toBool) 2

end Listing

def listing (start : Listing.Style) (args : List String) : Work Nat :=
  Listing.options.within start.program args (fun cs words => do
    let v ← view
    let width := ((Dict.get? v.env "COLUMNS").bind plainNumber?).getD 80
    let has (key : String) : Bool := cs.any (·.key == key)
    Listing.withStyle { start with width } (fun s =>
      let asked := ["H", "L", "dereference-directories"].any has
      let s := if asked then s
        else if s.immediate || s.indicator == .all || s.form == .long then { s with follows := .never }
        else s
      let sortAsked := ["t", "S", "v", "X", "U", "f", "sort"].any has
      let timeAsked := ["c", "u", "time"].any has
      let s := if timeAsked && !sortAsked && s.form != .long then { s with key := .time } else s
      s.present words) cs) 2

def ls (args : List String) : Work Nat := listing {} args

end JobMatrix.Program
