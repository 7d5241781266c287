import JobMatrix.Project
import JobMatrix.Proofs.Dict

/-! Writing a file. A file with new content, in place of one that is there or of nothing, leaves all
directories and links as they are: every path leads where it led before, and only the file itself,
under all of its names, is another. -/

namespace JobMatrix

open JobMatrix.Path (Place)

/-- What a link leads to. -/
def Entry.target? (e : Entry) : Option String :=
  match e.kind with
  | .link target => some target
  | _ => none

namespace FileTree

variable {t u : FileTree}

def isDirectoryAt (t : FileTree) (place : Place) : Bool := (t.entry? place).any Entry.isDirectory

def targetAt? (t : FileTree) (place : Place) : Option String := (t.entry? place).bind Entry.target?

/-- Two trees with the same directories and links. -/
structure Alike (t u : FileTree) : Prop where
  directory : ∀ place, u.isDirectoryAt place = t.isDirectoryAt place
  target : ∀ place, u.targetAt? place = t.targetAt? place

/-- Whether an error says that something on a way is missing or no directory. -/
def isAstray : SystemError → Bool
  | .noEntry => true
  | .notDirectory => true
  | _ => false

theorem isAstray_iff (e : SystemError) : isAstray e = true ↔ e = .noEntry ∨ e = .notDirectory := by
  cases e <;> simp [isAstray]

/-- Two ways that come to the same, or are both lost. -/
inductive SameWay {α : Type} : Except SystemError α → Except SystemError α → Prop
  | same (x : Except SystemError α) : SameWay x x
  | astray {e e' : SystemError} (here : isAstray e = true) (there : isAstray e' = true) :
      SameWay (.error e) (.error e')

theorem SameWay.bind {α β : Type} {x y : Except SystemError α} {f g : α → Except SystemError β}
    (h : SameWay x y) (each : ∀ a, x = .ok a → SameWay (f a) (g a)) :
    SameWay (x >>= f) (y >>= g) := by
  cases h with
  | same x =>
    cases x with
    | ok a => exact each a rfl
    | error e => exact .same _
  | astray here there => exact .astray here there

theorem SameWay.ok_iff {α : Type} {x y : Except SystemError α} (h : SameWay x y) (a : α) :
    y = .ok a ↔ x = .ok a := by
  cases h with
  | same => exact Iff.rfl
  | astray => simp

theorem along_cons (t : FileTree) (follows : Bool) (place : Place) (name : String)
    (rest : List String) :
    t.along follows place (name :: rest) =
      if t.isDirectoryAt place then
        if nameLimit < name.utf8ByteSize then .error .nameTooLong
        else match t.targetAt? (Path.step place name) with
          | some target =>
            if rest.isEmpty && !follows then .ok (Path.step place name, none)
            else .ok (if (Path.ofText target).isAbsolute then [] else place,
              some ((Path.ofText target).names ++ rest))
          | none => t.along follows (Path.step place name) rest
      else .error (if (t.entry? place).isSome then .notDirectory else .noEntry) := by
  unfold isDirectoryAt targetAt?
  rw [along]
  cases here : t.entry? place with
  | none => rfl
  | some e =>
    cases directory : e.isDirectory with
    | false => simp [directory]
    | true =>
      simp only [directory, Option.any_some, Bool.not_true, Bool.false_eq_true, if_false, if_true]
      split
      · rfl
      · cases next : t.entry? (Path.step place name) with
        | none => rfl
        | some e' =>
          obtain ⟨kind, mode, time, shared⟩ := e'
          cases kind <;> rfl

theorem Alike.along (h : Alike t u) (follows : Bool) (place : Place) (names : List String) :
    SameWay (t.along follows place names) (u.along follows place names) := by
  induction names generalizing place with
  | nil => exact .same _
  | cons name rest ih =>
    rw [along_cons, along_cons, h.directory, h.target]
    split
    · split
      · exact .same _
      · split
        · exact .same _
        · exact ih _
    · have lost (found : Bool) :
          isAstray (if found then .notDirectory else .noEntry) = true := by cases found <;> rfl
      exact .astray (lost _) (lost _)

theorem Alike.walk (h : Alike t u) (follows : Bool) (place : Place) (names : List String)
    (links : Nat) :
    SameWay (t.walk follows place names links) (u.walk follows place names links) := by
  induction links generalizing place names with
  | zero => exact .same _
  | succ links ih =>
    refine (h.along follows place names).bind fun r _ => ?_
    obtain ⟨next, left⟩ := r
    cases left with
    | none => exact .same _
    | some names => exact ih next names

theorem Alike.locate (h : Alike t u) (cwd : Place) (p : Path) (follows : Bool) :
    SameWay (t.locate cwd p follows) (u.locate cwd p follows) := by
  unfold FileTree.locate
  split
  · exact .same _
  · split
    · exact .same _
    · exact h.walk follows _ _ _

/-- A path that leads to an entry of both trees leads to the same one, or to none in either. -/
theorem Alike.lookup (h : Alike t u) {cwd : Place} {p : Path}
    (same : ∀ place, t.locate cwd p = .ok place → u.entry? place = t.entry? place) :
    SameWay (t.lookup cwd p) (u.lookup cwd p) := by
  refine (h.locate cwd p true).bind fun place located => ?_
  rw [same place located]
  exact .same _

theorem isDirectory_eq (t : FileTree) (cwd : Place) (p : Path) :
    t.isDirectory cwd p = match t.locate cwd p with
      | .ok place => t.isDirectoryAt place
      | .error _ => false := by
  unfold isDirectory lookup isDirectoryAt
  cases t.locate cwd p with
  | error e => rfl
  | ok place =>
    cases found : t.entry? place with
    | none => simp [found, bind, Except.bind, throw, throwThe, MonadExceptOf.throw]
    | some e => simp [found, bind, Except.bind, pure, Except.pure]

theorem Alike.isDirectory (h : Alike t u) (cwd : Place) (p : Path) :
    u.isDirectory cwd p = t.isDirectory cwd p := by
  rw [isDirectory_eq, isDirectory_eq]
  have way := h.locate cwd p true
  generalize t.locate cwd p true = x at way
  generalize u.locate cwd p true = y at way
  cases way with
  | same x =>
    cases x with
    | ok place => exact h.directory place
    | error e => rfl
  | astray => rfl

theorem Alike.settings? (h : Alike t u) (start : Place) :
    Project.settings? u start = Project.settings? t start := by
  have same : Project.isRoot u = Project.isRoot t := by
    funext place
    simp only [Project.isRoot, h.isDirectory]
  simp only [Project.settings?, Project.directory?, Project.root?, same]

/-- A way that ends at a link ends there if the link is not followed. -/
theorem along_unfollowed {place : Place} {names : List String} {r : Place × Option (List String)}
    (h : t.along true place names = .ok r) :
    t.along false place names = .ok r ∨
      ∃ next, t.along false place names = .ok (next, none) ∧ (t.entry? next).isSome = true := by
  induction names generalizing place with
  | nil => exact .inl h
  | cons name rest ih =>
    rw [along_cons] at h ⊢
    split at h
    · next directory =>
      rw [if_pos directory]
      split at h
      · cases h
      · next short =>
        rw [if_neg short]
        split at h
        · next target link =>
          cases rest with
          | nil =>
            refine .inr ⟨_, rfl, ?_⟩
            cases found : t.entry? (Path.step place name) with
            | none => simp [targetAt?, found] at link
            | some e => rfl
          | cons => exact .inl h
        · exact ih h
    · cases h

theorem walk_unfollowed {place q : Place} {names : List String} {links : Nat}
    (h : t.walk true place names links = .ok q) (found : (t.entry? q).isSome = true) :
    ∃ q', t.walk false place names links = .ok q' ∧ (t.entry? q').isSome = true := by
  induction links generalizing place names with
  | zero => cases h
  | succ links ih =>
    obtain ⟨⟨next, left⟩, first, h⟩ := bind_eq_ok_iff.mp h
    rw [FileTree.walk]
    rcases along_unfollowed first with same | ⟨end_, stops, there⟩
    · rw [same]
      cases left with
      | none =>
        cases h
        exact ⟨q, rfl, found⟩
      | some names => exact ih h
    · rw [stops]
      exact ⟨end_, rfl, there⟩

theorem makeDirectories_of_directory {cwd : Place} {anchor : Anchor} {names : List String}
    (h : t.isDirectory cwd { anchor, names } = true) :
    t.makeDirectories cwd anchor names = .ok t := by
  cases names with
  | nil => rw [makeDirectories]
  | cons name rest =>
    have made : t.makeDirectory cwd { anchor, names := name :: rest } = .error .alreadyThere := by
      have directory := h
      rw [isDirectory_eq] at directory
      split at directory
      · next place located =>
        have found : (t.entry? place).isSome = true := by
          cases there : t.entry? place with
          | none => simp [isDirectoryAt, there] at directory
          | some e => rfl
        unfold FileTree.locate at located
        split at located
        · cases located
        · next clean =>
          split at located
          · cases located
          · next short =>
            obtain ⟨place', way, there⟩ := walk_unfollowed located found
            unfold makeDirectory FileTree.locate
            rw [if_neg clean, if_neg short, way]
            simp [bind, Except.bind, there]
            rfl
      · cases directory
    rw [makeDirectories, made]
    simp [h]

theorem along_append (t : FileTree) (place : Place) (names : List String) (name : String) :
    t.along true place (names ++ [name]) = match t.along true place names with
      | .ok (d, none) => t.along true d [name]
      | .ok (base, some left) => .ok (base, some (left ++ [name]))
      | .error e => .error e := by
  induction names generalizing place with
  | nil => rfl
  | cons first rest ih =>
    rw [List.cons_append, along_cons, along_cons]
    split
    · split
      · rfl
      · split
        · simp
        · exact ih _
    · rfl

theorem walk_parent {place q : Place} {names : List String} {name : String} {links : Nat}
    (h : t.walk true place (names ++ [name]) links = .ok q) :
    ∃ d, t.walk true place names links = .ok d ∧ t.isDirectoryAt d = true := by
  induction links generalizing place names with
  | zero => cases h
  | succ links ih =>
    rw [FileTree.walk] at h ⊢
    rw [along_append] at h
    cases way : t.along true place names with
    | error e =>
      rw [way] at h
      cases h
    | ok r =>
      obtain ⟨d, left⟩ := r
      rw [way] at h
      cases left with
      | some left => exact ih h
      | none =>
        obtain ⟨r, further, -⟩ := bind_eq_ok_iff.mp h
        dsimp only at further
        refine ⟨d, rfl, ?_⟩
        rw [along_cons] at further
        by_contra other
        rw [if_neg other] at further
        cases further

end FileTree

theorem intercalate_concat (separator : String) {names : List String} (h : names ≠ [])
    (name : String) : separator.intercalate (names ++ [name]) =
      separator.intercalate names ++ (separator ++ name) := by
  apply String.toList_injective
  simp only [String.toList_append, String.toList_intercalate, List.map_append, List.map_cons,
    List.map_nil]
  induction names with
  | nil => exact absurd rfl h
  | cons first rest ih =>
    cases rest with
    | nil => simp
    | cons second rest =>
      have further := ih (List.cons_ne_nil second rest)
      simp only [List.map_cons, List.cons_append, List.intercalate_cons_cons] at further ⊢
      simp only [further, List.append_assoc]

theorem Path.text_parent {anchor : Anchor} {names : List String} (h : names ≠ []) (name : String) :
    Path.text { anchor, names := names ++ [name] } =
      Path.text { anchor, names } ++ ("/" ++ name) := by
  have nonempty : names.isEmpty = false := List.isEmpty_eq_false_iff.mpr h
  simp [Path.text, nonempty, intercalate_concat "/" h, String.append_assoc]

namespace FileTree

variable {t : FileTree} {place : Place} {e : Entry}

theorem isDirectory_parent {cwd q : Place} {anchor : Anchor} {names : List String} {name : String}
    (h : t.locate cwd { anchor, names := names ++ [name] } = .ok q) (below : names ≠ []) :
    t.isDirectory cwd { anchor, names } = true := by
  unfold FileTree.locate at h
  rw [Path.text_parent below] at h
  split at h
  · cases h
  · next clean =>
    split at h
    · cases h
    · next short =>
      obtain ⟨d, way, directory⟩ := walk_parent h
      have located : t.locate cwd { anchor, names } = .ok d := by
        unfold FileTree.locate
        rw [if_neg (by simp_all), if_neg (by rw [String.utf8ByteSize_append] at short; omega)]
        exact way
      rw [isDirectory_eq, located]
      exact directory

/-- The directories above a path that leads somewhere need not be made. -/
theorem makeDirectories_parent {cwd q : Place} {p : Path} (h : t.locate cwd p = .ok q) :
    t.makeDirectories cwd p.anchor p.parent.names = .ok t := by
  obtain ⟨anchor, names⟩ := p
  rcases List.eq_nil_or_concat names with rfl | ⟨init, name, rfl⟩
  · rw [Path.parent, List.dropLast_nil, makeDirectories]
  · simp only [Path.parent, List.concat_eq_append, List.dropLast_concat] at h ⊢
    by_cases below : init = []
    · rw [below, makeDirectories]
    · exact makeDirectories_of_directory (isDirectory_parent h below)

/-- What stands in the place of an entry when another is put somewhere. -/
def displaced (e d : Entry) : Entry := if e.shared ≠ 0 ∧ d.shared = e.shared then e else d

theorem entry?_put (t : FileTree) (h : place ≠ []) (e : Entry) (b : Place) :
    entry? (t.put place e) b =
      if b = place then some e else (t.entry? b).map (displaced e) := by
  have entries : (t.put place e).entries =
      (Dict.put t.entries place e).map fun d => (d.1, displaced e d.2) := by
    unfold put displaced
    by_cases alone : e.shared = 0
    · simp [alone]
    · simp only [beq_iff_eq, ne_eq, alone, not_false_eq_true, true_and]
      refine List.map_congr_left fun d _ => ?_
      split <;> rfl
  have self : displaced e e = e := ite_self e
  cases b with
  | nil =>
    have root : displaced e .directory = .directory := by
      unfold displaced
      split
      · next hit => exact absurd hit.2.symm hit.1
      · rfl
    simp [ entry?, h.symm, root]
  | cons name rest =>
    simp only [ entry?, List.isEmpty_cons, Bool.false_eq_true, if_false, entries, Dict.get?_map,
      Dict.get?_put, beq_iff_eq]
    by_cases hit : place = name :: rest
    · simp [hit, self]
    · simp [hit, Ne.symm hit]

/-- A place holds nothing, or a file that is the same under all of its names. -/
def IsFile (t : FileTree) (place : Place) : Prop :=
  ∀ b e, t.isSame place b = true → t.entry? b = some e →
    t.entry? place = some e ∧ ∃ content, e.kind = .file content

/-- Two trees that differ in the content of a file. -/
structure Rewritten (t u : FileTree) (place : Place) (content : List UInt8) : Prop where
  alike : Alike t u
  holds : ∃ e, u.entry? place = some e ∧ e.kind = .file content
  isFile : u.IsFile place
  others : ∀ b, t.isSame place b = false → u.entry? b = t.entry? b
  same : ∀ b, u.isSame place b = t.isSame place b

/-- The number that what stands at a place shares with its other names. -/
def sharedAt (t : FileTree) (place : Place) : Nat := ((t.entry? place).map Entry.shared).getD 0

theorem isSame_iff (t : FileTree) (place b : Place) :
    t.isSame place b = true ↔ place = b ∨
      t.sharedAt place ≠ 0 ∧ ∃ d, t.entry? b = some d ∧ t.sharedAt place = d.shared := by
  unfold isSame sharedAt
  cases t.entry? place <;> cases t.entry? b <;> simp

theorem isSame_self (t : FileTree) (place : Place) : t.isSame place place = true :=
  (isSame_iff t place place).mpr (.inl rfl)

theorem entry?_put_of_same (h : place ≠ []) (number : e.shared = t.sharedAt place) {b : Place}
    (same : t.isSame place b = true) : entry? (t.put place e) b = some e := by
  rw [entry?_put t h]
  split
  · rfl
  · next other =>
    obtain ⟨shares, d, found, same⟩ :=
      ((isSame_iff t place b).mp same).resolve_left (Ne.symm other)
    rw [found, Option.map_some, displaced, if_pos ⟨number ▸ shares, (number.trans same).symm⟩]

theorem entry?_put_of_other (h : place ≠ []) (number : e.shared = t.sharedAt place) {b : Place}
    (other : t.isSame place b = false) : entry? (t.put place e) b = t.entry? b := by
  have apart := mt (isSame_iff t place b).mpr (by simp [other])
  rw [not_or] at apart
  rw [entry?_put t h, if_neg (Ne.symm apart.1)]
  cases found : t.entry? b with
  | none => rfl
  | some d =>
    have kept : ¬(e.shared ≠ 0 ∧ d.shared = e.shared) := fun hit =>
      apart.2 ⟨number ▸ hit.1, d, found, number ▸ hit.2.symm⟩
    rw [Option.map_some, displaced, if_neg kept]

theorem isSame_put (h : place ≠ []) (number : e.shared = t.sharedAt place) (b : Place) :
    (t.put place e).isSame place b = t.isSame place b := by
  have here := entry?_put_of_same h number (isSame_self t place)
  have number' : (t.put place e).sharedAt place = t.sharedAt place := by
    simp [sharedAt, here, number]
  rw [Bool.eq_iff_iff, isSame_iff, isSame_iff, number']
  cases same : t.isSame place b with
  | false => rw [entry?_put_of_other h number same]
  | true =>
    rw [entry?_put_of_same h number same]
    rcases (isSame_iff t place b).mp same with rfl | both
    · simp
    · exact iff_of_true (.inr ⟨both.1, e, rfl, number.symm⟩) (.inr both)

namespace IsFile

theorem ne_root (h : t.IsFile place) : place ≠ [] := by
  rintro rfl
  obtain ⟨-, content, kind⟩ := h [] .directory (isSame_self t []) rfl
  cases kind

theorem plain_of_same (h : t.IsFile place) {b : Place} (same : t.isSame place b = true) :
    t.isDirectoryAt b = false ∧ t.targetAt? b = none := by
  unfold isDirectoryAt targetAt?
  cases found : t.entry? b with
  | none => exact ⟨rfl, rfl⟩
  | some e =>
    obtain ⟨-, content, kind⟩ := h b e same found
    simp [Entry.isDirectory, Entry.target?, kind]

theorem put_rewrites (h : t.IsFile place) {e : Entry} {content : List UInt8}
    (kind : e.kind = .file content) (number : e.shared = t.sharedAt place) :
    Rewritten t (t.put place e) place content := by
  have here {b : Place} := entry?_put_of_same (b := b) h.ne_root number
  have there {b : Place} := entry?_put_of_other (b := b) h.ne_root number
  have isFile : (t.put place e).IsFile place := by
    intro b d same found
    rw [isSame_put h.ne_root number] at same
    obtain rfl : e = d := Option.some.inj ((here same).symm.trans found)
    exact ⟨here (isSame_self t place), content, kind⟩
  have plain (b : Place) : (t.put place e).isDirectoryAt b = t.isDirectoryAt b ∧
      (t.put place e).targetAt? b = t.targetAt? b := by
    cases same : t.isSame place b with
    | false => simp only [isDirectoryAt, targetAt?, there same, and_self]
    | true =>
      have before := h.plain_of_same same
      have after := isFile.plain_of_same ((isSame_put h.ne_root number b).trans same)
      exact ⟨after.1.trans before.1.symm, after.2.trans before.2.symm⟩
  exact {
    alike := ⟨fun b => (plain b).1, fun b => (plain b).2⟩
    holds := ⟨e, here (isSame_self t place), kind⟩
    isFile
    others := fun b => there
    same := isSame_put h.ne_root number }

theorem refill_rewrites (h : t.IsFile place) (content : List UInt8) :
    Rewritten t (t.refill place content) place content := by
  unfold refill
  cases found : t.entry? place with
  | none => exact h.put_rewrites rfl (by simp [sharedAt, found])
  | some e =>
    obtain ⟨-, old, kind⟩ := h place e (isSame_self t place) found
    have noDevice : e.isDevice = false := by simp [Entry.isDevice, kind]
    simp only [noDevice, Bool.false_eq_true, if_false]
    exact h.put_rewrites rfl (by simp [sharedAt, found])

end IsFile

theorem locate_of_writable {cwd : Place} {p : Path} (h : t.writable cwd p = .ok place) :
    t.locate cwd p = .ok place := by
  obtain ⟨place', located, h⟩ := bind_eq_ok_iff.mp h
  rw [located]
  cases found : t.entry? place' with
  | some e =>
    simp only [found] at h
    split at h
    · cases h
    · exact h
  | none =>
    simp only [found] at h
    obtain ⟨-, -, h⟩ := bind_eq_ok_iff.mp h
    exact h

namespace Rewritten

variable {p : Path} {u : FileTree} {content : List UInt8}

theorem lookup (h : Rewritten t u place content) {cwd : Place}
    (located : t.locate cwd p = .ok place) :
    ∃ e, u.lookup cwd p = .ok (place, e) ∧ e.kind = .file content := by
  obtain ⟨e, found, kind⟩ := h.holds
  refine ⟨e, ?_, kind⟩
  unfold FileTree.lookup
  rw [((h.alike.locate cwd p true).ok_iff place).mpr located]
  simp [bind, Except.bind, found, pure, Except.pure]

theorem readText (h : Rewritten t u place content) {cwd : Place}
    (located : t.locate cwd p = .ok place) :
    u.present cwd p = .ok true ∧ u.readText cwd p = .ok (Text.readText content) := by
  obtain ⟨e, found, kind⟩ := h.lookup located
  simp [present, FileTree.readText, FileTree.read, found, Entry.content, kind, bind, Except.bind,
    Except.map]

theorem writable (h : Rewritten t u place content) {cwd : Place}
    (located : t.locate cwd p = .ok place) : u.writable cwd p = .ok place := by
  obtain ⟨e, found, kind⟩ := h.holds
  unfold FileTree.writable
  rw [((h.alike.locate cwd p true).ok_iff place).mpr located]
  simp [bind, Except.bind, found, Entry.isDirectory, kind, pure, Except.pure]

end Rewritten

end FileTree

end JobMatrix
