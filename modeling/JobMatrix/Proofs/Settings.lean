import JobMatrix.CommandLine.Perform
import JobMatrix.Proofs.FileTree
import JobMatrix.Proofs.Scalar
import Mathlib.Data.List.Induction
import Mathlib.Data.List.Infix

/-! Settings over a sequence of edits. Reads look through two layers, writes go to the upper one; the
settings that are read after any number of edits are those before them under the values set last,
and the lower file is as it was. -/

namespace JobMatrix

open JobMatrix.Path (Place)
open FileTree (SameWay Alike Rewritten)

namespace Settings

variable {m : Dict String Scalar} {t : FileTree}

/-- The entries of a mapping from texts to scalars. -/
def plain (m : Dict String Scalar) : Entries := m.map fun e => (.text e.1, .scalar e.2)

theorem get?_plain (m : Dict String Scalar) (key : String) :
    Dict.get? (plain m) (.text key) = (Dict.get? m key).map .scalar := by
  induction m with
  | nil => rfl
  | cons e rest ih =>
    by_cases hit : e.1 = key <;> simp_all [plain, Dict.get?, Scalar.text_beq]

theorem put_plain (m : Dict String Scalar) (key : String) (v : Scalar) :
    Dict.put (plain m) (.text key) (.scalar v) = plain (Dict.put m key v) := by
  induction m with
  | nil => rfl
  | cons e rest ih =>
    by_cases hit : e.1 = key <;> simp_all [plain, Dict.put, Scalar.text_beq]

theorem merge_plain (m upper : Dict String Scalar) :
    Dict.merge (plain m) (plain upper) = plain (Dict.merge m upper) := by
  induction upper generalizing m with
  | nil => rfl
  | cons e rest ih =>
    change Dict.merge (Dict.put (plain m) (.text e.1) (.scalar e.2)) (plain rest) = _
    rw [put_plain, ih]
    rfl

theorem height_plain (m : Dict String Scalar) : (Value.map (plain m)).height = 1 := by
  have flat : Value.heightEntries (plain m) = 0 := by
    induction m with
    | nil => rfl
    | cons e rest ih => simp_all [plain, Value.heightEntries, Value.height]
  simp [Value.height, flat]

/-- An entry of a mapping from texts to scalars. -/
def plainEntry? : Scalar × Value → Option (String × Scalar)
  | (.text key, .scalar v) => some (key, v)
  | _ => none

/-- The mapping from texts to scalars that a text spells. -/
def mappingOf? (text : String) : Option (Dict String Scalar) :=
  match Yaml.load text with
  | .ok (.map entries) => entries.mapM plainEntry?
  | _ => none

theorem eq_plain_of_mapM {entries : Entries} (h : entries.mapM plainEntry? = some m) :
    entries = plain m := by
  rw [mapM_eq_some_iff] at h
  induction entries generalizing m with
  | nil =>
    cases m with
    | nil => rfl
    | cons => simp at h
  | cons e rest ih =>
    cases m with
    | nil => simp at h
    | cons e' rest' =>
      obtain ⟨first, others⟩ := List.cons.inj h
      obtain ⟨key, v⟩ := e
      have same : (key, v) = (.text e'.1, .scalar e'.2) := by
        unfold plainEntry? at first
        split at first
        · next same =>
          cases first
          exact same
        · cases first
      rw [ih others, same]
      rfl

theorem load_of_mappingOf? {text : String} (h : mappingOf? text = some m) :
    Yaml.load text = .ok (.map (plain m)) := by
  unfold mappingOf? at h
  split at h
  · next entries loaded => rw [loaded, eq_plain_of_mapM h]
  · cases h

/-- A settings file holds a mapping, the empty one if it is missing or empty. -/
def Holds (t : FileTree) (cwd : Place) (p : Path) (m : Dict String Scalar) : Prop :=
  entriesAt t cwd p = .ok (plain m, none)

theorem holds_of_text {cwd : Place} {p : Path} (text : String)
    (there : t.present cwd p = .ok true) (read : t.readText cwd p = .ok text)
    (spells : mappingOf? text = some m) : Holds t cwd p m := by
  unfold Holds entriesAt
  rw [there, read]
  simp only [Except.mapError, bind, Except.bind, Bool.not_true, Bool.false_eq_true, if_false,
    load_of_mappingOf? spells]
  cases m with
  | nil => rfl
  | cons e rest => rfl

theorem entriesAt_congr {u : FileTree} {cwd : Place} {p : Path}
    (same : SameWay (t.lookup cwd p) (u.lookup cwd p)) : entriesAt u cwd p = entriesAt t cwd p := by
  unfold entriesAt FileTree.present FileTree.readText FileTree.read
  generalize t.lookup cwd p = x at same
  generalize u.lookup cwd p = y at same
  cases same with
  | same => rfl
  | astray here there =>
    rcases (FileTree.isAstray_iff _).mp here with rfl | rfl <;>
      rcases (FileTree.isAstray_iff _).mp there with rfl | rfl <;> rfl

/-- A mapping can be written, and reading what is written gives it back. -/
def ReadsBack (m : Dict String Scalar) : Prop :=
  (Value.map (plain m)).isShowable = true ∧
    ∃ m', mappingOf? (Text.readText (Text.bytes (Yaml.write (.map (plain m))))) = some m' ∧
      List.Perm m' m

/-- Settings whose layers hold mappings. -/
def ofLayers (path : Path) (layered : Bool) (own below : Dict String Scalar) : Settings :=
  { path, layered, own := plain own, below := plain below }

section ofLayers

variable (path : Path) (layered : Bool) (own below : Dict String Scalar)

theorem get?_ofLayers (key : String) : (ofLayers path layered own below).get? (.text key) =
    ((Dict.get? own key).or (Dict.get? below key)).map .scalar := by
  simp only [get?, ofLayers, get?_plain]
  cases Dict.get? own key <;> rfl

theorem merged_ofLayers :
    (ofLayers path layered own below).merged = plain (Dict.merge below own) := by
  rw [← merge_plain]
  simp [merged, ofLayers, closed]

theorem load_ofLayers {t : FileTree} {home : String} {cwd : Place}
    (upper : Holds t cwd path own)
    (lower : if layered && path != homePath home then Holds t cwd (homePath home) below
      else below = []) :
    load t home cwd path layered = .ok (ofLayers path layered own below) := by
  unfold Holds at upper lower
  unfold load reload ofLayers
  simp only [upper]
  split at lower
  · next both =>
    simp [both, lower, closed]
  · next alone =>
    subst lower
    simp [alone, plain]

theorem save_ofLayers {t : FileTree} {cwd place : Place}
    (writable : t.writable cwd path = .ok place)
    (showable : (Value.map (plain own)).isShowable = true) :
    (ofLayers path layered own below).save t cwd =
      (t.refill place (Text.bytes (Yaml.write (.map (plain own)))), none) := by
  unfold save
  have made := FileTree.makeDirectories_parent (FileTree.locate_of_writable writable)
  have written (content : List UInt8) : t.write cwd path content = .ok (t.refill place content) := by
    simp [FileTree.write, writable, bind, Except.bind, pure, Except.pure]
  simp only [ofLayers, made, document, height_plain, showable, written]
  rfl

end ofLayers

theorem ofPlace_ne_homePath {start place : Place} (h : Project.settings? t start = some place)
    (home : String) : Path.ofPlace place ≠ homePath home := by
  obtain ⟨directory, -, rfl⟩ := Option.map_eq_some_iff.mp h
  intro same
  have names := congrArg (fun p => p.names.getLast?) same
  have last : (homePath home).names.getLast? = some ".matrixci.yaml" := by
    have file : Path.ofText ".matrixci.yaml" = { names := [".matrixci.yaml"] } := by
      decide +kernel
    change (Path.join _ (Path.ofText ".matrixci.yaml")).names.getLast? = _
    simp [Path.join, file, Path.isAbsolute]
  simp [Path.ofPlace, last, Project.settingsName] at names

end Settings

/-- Whether a key is one of those that the program itself reads. -/
def Key.isKnown (key : String) : Bool := (Key.all.map Key.name).contains key

namespace Settings

variable {m : Dict String Scalar}

/-- A mapping after an edit; a key that is not known is refused. -/
def edit (m : Dict String Scalar) (e : String × String) : Dict String Scalar :=
  if Key.isKnown e.1 then Dict.put m e.1 (.text e.2) else m

def editAll (m : Dict String Scalar) (edits : List (String × String)) : Dict String Scalar :=
  edits.foldl edit m

/-- The value that a key was given last. -/
def lastSet (edits : List (String × String)) (key : String) : Option String :=
  if Key.isKnown key then Dict.get? edits.reverse key else none

theorem distinct_edit (h : m.Distinct) (e : String × String) : (edit m e).Distinct := by
  unfold edit
  split
  · exact h.put _ _
  · exact h

theorem distinct_editAll (h : m.Distinct) (edits : List (String × String)) :
    (editAll m edits).Distinct := by
  induction edits generalizing m with
  | nil => exact h
  | cons e rest ih => exact ih (distinct_edit h e)

theorem editAll_perm {m' : Dict String Scalar} (h : m.Distinct) (p : List.Perm m' m)
    (edits : List (String × String)) : List.Perm (editAll m' edits) (editAll m edits) := by
  induction edits generalizing m m' with
  | nil => exact p
  | cons e rest ih =>
    refine ih (distinct_edit h e) ?_
    unfold edit
    split
    · exact h.put_perm p _ _
    · exact p

theorem get?_editAll (m : Dict String Scalar) (edits : List (String × String)) (key : String) :
    Dict.get? (editAll m edits) key =
      ((lastSet edits key).map Scalar.text).or (Dict.get? m key) := by
  induction edits using List.reverseRecOn with
  | nil => simp [editAll, lastSet, Dict.get?]
  | append_singleton rest e ih =>
    have last : lastSet (rest ++ [e]) key =
        if Key.isKnown e.1 && e.1 == key then some e.2 else lastSet rest key := by
      by_cases hit : e.1 = key
      · cases known : Key.isKnown key <;> simp [lastSet, Dict.get?, hit, known]
      · simp [lastSet, Dict.get?, hit]
    rw [editAll, List.foldl_append, List.foldl_cons, List.foldl_nil, ← editAll, last, edit]
    cases known : Key.isKnown e.1 with
    | false => simpa using ih
    | true =>
      by_cases hit : e.1 = key
      · simp [Dict.get?_put, hit]
      · simpa [Dict.get?_put, hit] using ih

end Settings

namespace CommandLine

theorem sayValues_world {M : Type} (o : Outcome M) (lines : List (String × Value)) :
    (o.sayValues lines).world = o.world := by
  induction lines generalizing o with
  | nil => rfl
  | cons line rest ih =>
    unfold Outcome.sayValues
    split
    · exact ih _
    · rfl

theorem settingsOutcome_world {M : Type} (w : World M) (f : Fault) :
    (settingsOutcome w f).world = w := by
  unfold settingsOutcome
  split <;> rfl

variable {M : Type} [Host M]

theorem getSetting_world (w : World M) (key : Option String) : (getSetting w key).world = w := by
  unfold getSetting
  split
  · exact settingsOutcome_world w _
  · split
    · split
      · rfl
      · exact sayValues_world _ _
    · dsimp only
      split
      · rfl
      · exact sayValues_world _ _

namespace World

variable {w : World M} {u : FileTree} {place : Place} {below own : Dict String Scalar}

/-- The settings file that is edited in the present directory. -/
def upper (w : World M) : Path :=
  match Project.settings? w.tree w.cwd with
  | some place => .ofPlace place
  | none => Settings.homePath w.home

/-- The settings file below it, where there is one. -/
def lower? (w : World M) : Option Path :=
  (Project.settings? w.tree w.cwd).map fun _ => Settings.homePath w.home

@[simp]
theorem withTree_tree (w : World M) (t : FileTree) : (w.withTree t).tree = t :=
  Host.tree_withTree w.machine t

@[simp]
theorem withTree_cwd (w : World M) (t : FileTree) : (w.withTree t).cwd = w.cwd := rfl

@[simp]
theorem withTree_home (w : World M) (t : FileTree) : (w.withTree t).home = w.home := rfl

@[simp]
theorem withTree_self (w : World M) : w.withTree w.tree = w :=
  congrArg ({ w with machine := · }) (Host.withTree_tree w.machine)

@[simp]
theorem withTree_withTree (w : World M) (t u : FileTree) : (w.withTree t).withTree u = w.withTree u :=
  congrArg ({ w with machine := · }) (Host.withTree_withTree w.machine t u)

theorem upper_withTree (h : Alike w.tree u) : (w.withTree u).upper = w.upper := by
  simp only [upper, withTree_tree, withTree_cwd, withTree_home, h.settings?]

theorem lower?_withTree (h : Alike w.tree u) : (w.withTree u).lower? = w.lower? := by
  simp only [lower?, withTree_tree, withTree_cwd, withTree_home, h.settings?]

/-- The world after a setting is given a value. -/
def edit (w : World M) (key value : String) : World M :=
  (Command.perform w (.config (some key) (some value))).world

def editAll (w : World M) (edits : List (String × String)) : World M :=
  edits.foldl (fun w e => w.edit e.1 e.2) w

theorem edit_eq (w : World M) (key value : String) :
    w.edit key value = if Key.isKnown key then (setSetting w key value).world else w := by
  unfold edit Command.perform
  cases empty : key.isEmpty with
  | true =>
    obtain rfl := String.isEmpty_iff.mp empty
    exact getSetting_world w none
  | false =>
    simp only [Option.filter_some, empty, Bool.not_false, if_true]
    split
    · rfl
    · next unknown =>
      have refused : (!(Key.all.map Key.name).contains key) = true := by
        simpa [Key.isKnown] using unknown
      unfold setSetting
      rw [if_pos refused]
      rfl

theorem edit_unknown (w : World M) {key : String} (h : Key.isKnown key = false) (value : String) :
    w.edit key value = w := by
  simp [edit_eq, h]

/-- The files of the settings hold mappings. The upper one can be written, at a place, and is another
than the lower one. -/
structure Layers (w : World M) (place : Place) (own below : Dict String Scalar) : Prop where
  upper : Settings.Holds w.tree w.cwd w.upper own
  lower : ∀ p, w.lower? = some p → Settings.Holds w.tree w.cwd p below
  alone : w.lower? = none → below = []
  own_distinct : own.Distinct
  below_distinct : below.Distinct
  writable : w.tree.writable w.cwd w.upper = .ok place
  isFile : w.tree.IsFile place
  apart : ∀ p other, w.lower? = some p → w.tree.locate w.cwd p = .ok other →
    w.tree.isSame place other = false

/-- The settings that are read from mappings. -/
def read (w : World M) (own below : Dict String Scalar) : Settings :=
  .ofLayers w.upper w.lower?.isSome own below

theorem Layers.settings (h : Layers w place own below) : w.settings = .ok (w.read own below) := by
  obtain ⟨upper, lower, alone, -, -, -, -, -⟩ := h
  unfold World.settings Settings.around World.read
  unfold World.upper at *
  unfold World.lower? at *
  split
  · next place found =>
    simp only [found, Option.map_some, Option.some.injEq, forall_eq'] at upper lower ⊢
    refine Settings.load_ofLayers _ _ _ _ upper ?_
    rw [if_pos (by simpa using Settings.ofPlace_ne_homePath found w.home)]
    exact lower
  · next found =>
    simp only [found, Option.map_none, forall_const] at upper alone ⊢
    exact Settings.load_ofLayers _ _ _ _ upper alone

theorem Layers.edit_known (h : Layers w place own below) {key value : String}
    (known : Key.isKnown key = true) (reads : Settings.ReadsBack (Dict.put own key (.text value))) :
    w.edit key value = w.withTree (w.tree.refill place
      (Text.bytes (Yaml.write (.map (Settings.plain (Dict.put own key (.text value))))))) := by
  have set : (w.read own below).set key (.text value) =
      w.read (Dict.put own key (.text value)) below := by
    simp only [World.read, Settings.set, Settings.ofLayers, ← Settings.put_plain]
    rfl
  have saved : (w.read (Dict.put own key (.text value)) below).save w.tree w.cwd = _ :=
    Settings.save_ofLayers w.upper w.lower?.isSome _ below h.writable reads.1
  have accepted : ¬(!(Key.all.map Key.name).contains key) = true := by
    simpa [Key.isKnown] using known
  rw [edit_eq, if_pos known, setSetting, if_neg accepted, h.settings]
  dsimp only
  rw [set, saved]
  rfl

theorem Layers.rewritten {own' : Dict String Scalar} (h : Layers w place own below)
    {content : List UInt8} (changed : Rewritten w.tree u place content)
    (spells : Settings.mappingOf? (Text.readText content) = some own') (distinct : own'.Distinct) :
    Layers (w.withTree u) place own' below := by
  have located := FileTree.locate_of_writable h.writable
  have lower := lower?_withTree changed.alike
  constructor
  case upper =>
    rw [upper_withTree changed.alike, withTree_tree]
    exact Settings.holds_of_text _ (changed.readText located).1 (changed.readText located).2 spells
  case lower =>
    intro p below'
    rw [lower] at below'
    rw [withTree_tree]
    refine Eq.trans (Settings.entriesAt_congr ?_) (h.lower p below')
    exact changed.alike.lookup fun other found => changed.others other (h.apart p other below' found)
  case alone => exact fun none => h.alone (lower.symm.trans none)
  case own_distinct => exact distinct
  case below_distinct => exact h.below_distinct
  case writable =>
    rw [upper_withTree changed.alike, withTree_tree]
    exact changed.writable located
  case isFile => exact (withTree_tree w u).symm ▸ changed.isFile
  case apart =>
    intro p other below' found
    rw [lower] at below'
    rw [withTree_tree] at found ⊢
    rw [changed.same]
    exact h.apart p other below' (((changed.alike.locate w.cwd p true).ok_iff other).mp found)

/-- The worlds are the same but for the file at a place. -/
structure SameBut (w w' : World M) (place : Place) : Prop where
  world : w' = w.withTree w'.tree
  alike : Alike w.tree w'.tree
  same : ∀ b, w'.tree.isSame place b = w.tree.isSame place b
  others : ∀ b, w.tree.isSame place b = false → w'.tree.entry? b = w.tree.entry? b

theorem SameBut.refl (w : World M) (place : Place) : SameBut w w place :=
  ⟨w.withTree_self.symm, ⟨fun _ => rfl, fun _ => rfl⟩, fun _ => rfl, fun _ _ => rfl⟩

theorem SameBut.trans {w' w'' : World M} (h : SameBut w w' place) (h' : SameBut w' w'' place) :
    SameBut w w'' place where
  world := by
    rw [h'.world, h.world]
    simp
  alike := {
    directory := fun b => (h'.alike.directory b).trans (h.alike.directory b)
    target := fun b => (h'.alike.target b).trans (h.alike.target b) }
  same b := (h'.same b).trans (h.same b)
  others b other := (h'.others b ((h.same b).trans other)).trans (h.others b other)

/-- One edit changes the upper file, if anything, and that as the mapping that it holds. -/
theorem Layers.edit (h : Layers w place own below) (e : String × String)
    (reads : Settings.ReadsBack (Settings.edit own e)) :
    ∃ own', Layers (w.edit e.1 e.2) place own' below ∧ List.Perm own' (Settings.edit own e) ∧
      SameBut w (w.edit e.1 e.2) place := by
  cases known : Key.isKnown e.1 with
  | false =>
    rw [edit_unknown w known, Settings.edit, known]
    exact ⟨own, h, .refl _, .refl w place⟩
  | true =>
    have distinct := Settings.distinct_edit h.own_distinct e
    rw [Settings.edit, if_pos known] at reads distinct ⊢
    obtain ⟨own', spells, perm⟩ := reads.2
    have changed := h.isFile.refill_rewrites
      (Text.bytes (Yaml.write (.map (Settings.plain (Dict.put own e.1 (.text e.2))))))
    rw [h.edit_known known reads]
    refine ⟨own', h.rewritten changed spells (distinct.perm perm), perm, ?_⟩
    constructor <;> rw [withTree_tree]
    · exact changed.alike
    · exact changed.same
    · exact changed.others

theorem Layers.editAll (h : Layers w place own below) (edits : List (String × String))
    (reads : ∀ es m, es <+: edits → List.Perm m (Settings.editAll own es) → Settings.ReadsBack m) :
    ∃ own', Layers (w.editAll edits) place own' below ∧
      List.Perm own' (Settings.editAll own edits) ∧ SameBut w (w.editAll edits) place := by
  induction edits generalizing w own with
  | nil => exact ⟨own, h, .refl _, .refl w place⟩
  | cons e rest ih =>
    obtain ⟨own₁, layers, perm, same⟩ := h.edit e (reads [e] _ (by simp) (.refl _))
    have distinct := Settings.distinct_edit h.own_distinct e
    obtain ⟨own₂, layers', perm', same'⟩ := ih layers fun es m sub p =>
      reads (e :: es) m (by simpa using sub) (p.trans (Settings.editAll_perm distinct perm es))
    exact ⟨own₂, layers', perm'.trans (Settings.editAll_perm distinct perm rest),
      same.trans same'⟩

/-- After any edits a key has the value that it was given last, and any other key the one that it had
before, from the upper file, else the lower, else by default. The upper file has no key that it did
not have or was not given, nothing else is changed, and all settings together are those of the two
files. A key that is not known changes nothing at all. -/
theorem settings_survive_edits {w : World M} {place : Place} {own below : Dict String Scalar}
    (layers : Layers w place own below) (edits : List (String × String))
    (reads : ∀ es m, es <+: edits → List.Perm m (Settings.editAll own es) →
      Settings.ReadsBack m) :
    ∃ s s' own' all,
      w.settings = .ok s ∧ (w.editAll edits).settings = .ok s' ∧
      (∀ key default, s.get (.text key) default =
        (((Dict.get? own key).or (Dict.get? below key)).map Value.scalar).getD default) ∧
      (∀ key default, s'.get (.text key) default =
        match Settings.lastSet edits key with
        | some value => .text value
        | none => s.get (.text key) default) ∧
      Layers (w.editAll edits) place own' below ∧
      (∀ key, Dict.get? own' key =
        ((Settings.lastSet edits key).map Scalar.text).or (Dict.get? own key)) ∧
      (w.editAll edits).upper = w.upper ∧ SameBut w (w.editAll edits) place ∧
      (∀ p other, w.lower? = some p → w.tree.locate w.cwd p = .ok other →
        (w.editAll edits).tree.locate w.cwd p = .ok other ∧
        FileTree.entry? (w.editAll edits).tree other = w.tree.entry? other) ∧
      s'.merged = Settings.plain all ∧ all.Distinct ∧
      (∀ key, key ∈ Dict.keys all ↔ key ∈ Dict.keys own' ∨ key ∈ Dict.keys below) ∧
      (∀ key, (Dict.get? all key).map Value.scalar = s'.get? (.text key)) ∧
      ∀ (v : World M) key value, Key.isKnown key = false → v.edit key value = v := by
  obtain ⟨own', layers', perm, same⟩ := layers.editAll edits reads
  have own_after (key : String) : Dict.get? own' key =
      ((Settings.lastSet edits key).map Scalar.text).or (Dict.get? own key) := by
    rw [(Settings.distinct_editAll layers.own_distinct edits).get?_perm perm,
      Settings.get?_editAll]
  have all_get (key : String) : Dict.get? (Dict.merge below own') key =
      (Dict.get? own' key).or (Dict.get? below key) :=
    Dict.get?_merge below layers'.own_distinct key
  refine ⟨_, _, own', Dict.merge below own', layers.settings, layers'.settings, ?_, ?_, layers',
    own_after, ?_, same, ?_, Settings.merged_ofLayers _ _ _ _, layers.below_distinct.merge own', ?_,
    ?_, fun v key value unknown => v.edit_unknown unknown value⟩
  · intro key default
    rw [Settings.get, World.read, Settings.get?_ofLayers]
  · intro key default
    simp only [Settings.get, World.read, Settings.get?_ofLayers, own_after]
    cases Settings.lastSet edits key <;> rfl
  · rw [same.world, upper_withTree same.alike]
  · intro p other lower located
    exact ⟨((same.alike.locate w.cwd p true).ok_iff other).mpr located,
      same.others other (layers.apart p other lower located)⟩
  · intro key
    rw [← not_iff_not, not_or, ← Dict.get?_eq_none_iff, ← Dict.get?_eq_none_iff,
      ← Dict.get?_eq_none_iff, all_get, Option.or_eq_none_iff]
  · intro key
    rw [World.read, Settings.get?_ofLayers, all_get]

/-- A project with settings over those in the home directory. -/
def twoLayered : World Prompt where
  machine := { tree := ⟨[(["p"], .directory), (["p", ".git"], .directory),
    (["p", ".matrixci"], .directory),
    (["p", ".matrixci", "config"], .file (Text.bytes "fail_fast: true\n")), (["h"], .directory),
    (["h", ".matrixci.yaml"], .file (Text.bytes "log_level: INFO\n"))]⟩ }
  cwd := ["p"]
  env := [("HOME", "/h")]
  runId := "r"
  now := ""

theorem settings_survive_repeated_and_refused_edits :
    ∃ s', (twoLayered.editAll [("fail_fast", "yes"), ("nope", "1"), ("fail_fast", "no")]).settings =
        .ok s' ∧
      s'.get "fail_fast" = .text "no" ∧ s'.get "log_level" = .text "INFO" ∧
      s'.get "nope" = .null := by
  have upper : twoLayered.upper = .ofPlace ["p", ".matrixci", "config"] := by decide +kernel
  have lower : twoLayered.lower? = some (.ofPlace ["h", ".matrixci.yaml"]) := by decide +kernel
  have layers : Layers twoLayered ["p", ".matrixci", "config"] [("fail_fast", .bool true)]
      [("log_level", .text "INFO")] := by
    constructor
    case upper =>
      rw [upper]
      exact Settings.holds_of_text "fail_fast: true\n" (by decide +kernel)
        (by decide +kernel) (by decide +kernel)
    case lower =>
      intro p below
      obtain rfl := Option.some.inj (lower.symm.trans below)
      exact Settings.holds_of_text "log_level: INFO\n" (by decide +kernel)
        (by decide +kernel) (by decide +kernel)
    case alone => exact fun none => absurd (lower.symm.trans none) (by simp)
    case own_distinct => decide
    case below_distinct => decide
    case writable => decide +kernel
    case isFile =>
      intro b e same found
      rcases (FileTree.isSame_iff _ _ _).mp same with rfl | ⟨shares, -⟩
      · exact ⟨found, Text.bytes "fail_fast: true\n", by cases found; rfl⟩
      · exact absurd (by decide +kernel) shares
    case apart =>
      intro p other below found
      obtain rfl := Option.some.inj (lower.symm.trans below)
      have located : twoLayered.tree.locate twoLayered.cwd (.ofPlace ["h", ".matrixci.yaml"]) =
        .ok ["h", ".matrixci.yaml"] := by decide +kernel
      obtain rfl := Except.ok.inj (located.symm.trans found)
      decide +kernel
  have reads (es : List (String × String)) (m : Dict String Scalar)
      (sub : es <+: [("fail_fast", "yes"), ("nope", "1"), ("fail_fast", "no")])
      (perm : List.Perm m (Settings.editAll [("fail_fast", .bool true)] es)) :
      Settings.ReadsBack m := by
    have one : ∀ es ∈ [("fail_fast", "yes"), ("nope", "1"), ("fail_fast", "no")].inits,
        ∃ v ∈ [Scalar.bool true, .text "yes", .text "no"],
          Settings.editAll [("fail_fast", .bool true)] es = [("fail_fast", v)] := by
      decide +kernel
    obtain ⟨v, among, only⟩ := one es ((List.mem_inits _ _).mpr sub)
    rw [only, List.perm_singleton] at perm
    subst perm
    have spelled : ∀ v ∈ [Scalar.bool true, .text "yes", .text "no"],
        (Value.map (Settings.plain [("fail_fast", v)])).isShowable = true ∧
        Settings.mappingOf? (Text.readText (Text.bytes (Yaml.write (.map
          (Settings.plain [("fail_fast", v)]))))) = some [("fail_fast", v)] := by decide +kernel
    exact ⟨(spelled v among).1, _, (spelled v among).2, .refl _⟩
  obtain ⟨s, s', own', all, -, loaded, before, after, -⟩ :=
    settings_survive_edits layers [("fail_fast", "yes"), ("nope", "1"), ("fail_fast", "no")] reads
  refine ⟨s', loaded, after "fail_fast" .null, ?_, ?_⟩
  · exact (after "log_level" .null).trans (before "log_level" .null)
  · exact (after "nope" .null).trans (before "nope" .null)

end World

end CommandLine

end JobMatrix
