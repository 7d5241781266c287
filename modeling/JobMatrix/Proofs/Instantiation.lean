import JobMatrix.Proofs.Additions
import JobMatrix.Proofs.Expansion
import JobMatrix.Proofs.Acceptance

/-! When a template can be expanded. The computations that make an instance fill exactly the texts
that are checked before, and fail only because a placeholder in one of them names an axis that the
combination does not bind. Main statement: an accepted template cannot be expanded exactly if it has
a matrix without combinations, or with a combination that does not bind a name in one of its
texts. -/

namespace JobMatrix

namespace Placeholder

theorem mem_references {text axis : String} :
    axis ∈ references text ↔ .reference axis ∈ pieces text.toList := by
  rw [references, List.mem_filterMap]
  constructor
  · rintro ⟨p, mem, same⟩
    cases p with
    | char c => cases same
    | reference name =>
      cases same
      exact mem
  · intro mem
    exact ⟨_, mem, rfl⟩

theorem mem_referenced {text axis : String} : axis ∈ referenced text ↔ axis ∈ references text := by
  simp [referenced]

theorem fill_ok {lookup : String → Option String} {ps : List Piece} {s : List Char}
    (h : fill lookup ps = .ok s) {axis : String} (mem : .reference axis ∈ ps) :
    ∃ v, lookup axis = some v := by
  induction ps generalizing s with
  | nil => cases mem
  | cons p rest ih =>
    cases p with
    | char c =>
      obtain ⟨s', later⟩ : ∃ s', fill lookup rest = .ok s' := by
        cases later : fill lookup rest <;> simp [fill, later, Except.map] at h ⊢
      exact ih later (by simpa using mem)
    | reference name =>
      cases found : lookup name with
      | none => simp [fill, found] at h
      | some v =>
        obtain ⟨s', later⟩ : ∃ s', fill lookup rest = .ok s' := by
          cases later : fill lookup rest <;> simp [fill, found, later, Except.map] at h ⊢
        rcases List.mem_cons.mp mem with here | there
        · cases here
          exact ⟨v, found⟩
        · exact ih later there

theorem fill_error {lookup : String → Option String} {ps : List Piece} {axis : String}
    (h : fill lookup ps = .error axis) : .reference axis ∈ ps ∧ lookup axis = none := by
  induction ps with
  | nil => cases h
  | cons p rest ih =>
    cases p with
    | char c =>
      have later : fill lookup rest = .error axis := by
        cases later : fill lookup rest <;> simp_all [fill, Except.map]
      exact ⟨List.mem_cons_of_mem _ (ih later).1, (ih later).2⟩
    | reference name =>
      cases found : lookup name with
      | none =>
        simp only [fill, found, Except.error.injEq] at h
        cases h
        exact ⟨List.mem_cons_self, found⟩
      | some v =>
        have later : fill lookup rest = .error axis := by
          cases later : fill lookup rest <;> simp_all [fill, Except.map]
        exact ⟨List.mem_cons_of_mem _ (ih later).1, (ih later).2⟩

end Placeholder

/-- A computation fills the texts with a property when it succeeds only if all of them can be filled
from the bindings, and fails only as one of them does. -/
structure Fills {α : Type} (b : Bindings) (P : String → Prop) (x : Except ConfigError α) :
    Prop where
  ok : ∀ {a}, x = .ok a → ∀ text, P text → ∃ s, substitute text b = .ok s
  error : ∀ {e}, x = .error e → ∃ text, P text ∧ substitute text b = .error e

namespace Fills

variable {α β : Type} {b : Bindings} {P Q : String → Prop}

theorem congr {x : Except ConfigError α} (h : Fills b P x) (same : ∀ text, Q text ↔ P text) :
    Fills b Q x where
  ok given text mem := h.ok given text ((same text).mp mem)
  error failed := by
    obtain ⟨text, mem, failed⟩ := h.error failed
    exact ⟨text, (same text).mpr mem, failed⟩

theorem pure (a : α) : Fills b (fun _ => False) (.ok a) := ⟨fun _ _ => nofun, nofun⟩

theorem bind {x : Except ConfigError α} {f : α → Except ConfigError β} (h : Fills b P x)
    (h' : ∀ a, Fills b Q (f a)) : Fills b (fun text => P text ∨ Q text) (x >>= f) where
  ok given := by
    obtain ⟨a, first, second⟩ := bind_eq_ok_iff.mp given
    rintro text (mem | mem)
    · exact h.ok first text mem
    · exact (h' a).ok second text mem
  error failed := by
    rcases bind_eq_error_iff.mp failed with first | ⟨a, -, second⟩
    · obtain ⟨text, mem, failed⟩ := h.error first
      exact ⟨text, .inl mem, failed⟩
    · obtain ⟨text, mem, failed⟩ := (h' a).error second
      exact ⟨text, .inr mem, failed⟩

theorem map {x : Except ConfigError α} (h : Fills b P x) (f : α → β) : Fills b P (f <$> x) := by
  cases x with
  | ok a => exact ⟨fun _ => h.ok rfl, nofun⟩
  | error e => exact ⟨nofun, fun failed => h.error (by cases failed; rfl)⟩

theorem mapM {xs : List α} {f : α → Except ConfigError β} {P : α → String → Prop}
    (h : ∀ a ∈ xs, Fills b (P a) (f a)) :
    Fills b (fun text => ∃ a ∈ xs, P a text) (xs.mapM f) where
  ok given := by
    rintro text ⟨a, mem, own⟩
    have there := List.mem_map_of_mem (f := f) mem
    rw [mapM_eq_ok_iff.mp given] at there
    obtain ⟨y, -, done⟩ := List.mem_map.mp there
    exact (h a mem).ok done.symm text own
  error failed := by
    obtain ⟨a, mem, failed⟩ := mapM_error_mem failed
    obtain ⟨text, own, failed⟩ := (h a mem).error failed
    exact ⟨text, ⟨a, mem, own⟩, failed⟩

theorem optionMapM {o : Option α} {f : α → Except ConfigError β} {P : α → String → Prop}
    (h : ∀ a, Fills b (P a) (f a)) : Fills b (fun text => ∃ a ∈ o, P a text) (o.mapM f) := by
  cases o with
  | none => exact (Fills.pure none).congr (by simp)
  | some a => exact ((h a).map some).congr (by simp)

theorem substitute (text : String) : Fills b (· = text) (substitute text b) where
  ok given := by
    rintro _ rfl
    exact ⟨_, given⟩
  error failed := ⟨text, rfl, failed⟩

end Fills

/-- Whether a text has a placeholder for a name that bindings do not bind. -/
def Unbound (b : Bindings) (text : String) : Prop :=
  ∃ axis ∈ Placeholder.references text, Dict.get? b (.text axis) = none

theorem substitute_of_plain {text : String} (plain : Placeholder.references text = [])
    (b : Bindings) : ∃ s, substitute text b = .ok s :=
  ⟨text, substitute_plain (by simp [Placeholder.referenced, plain]) b⟩

theorem substitute_ok {text s : String} {b : Bindings} (h : substitute text b = .ok s) :
    ¬ Unbound b text := by
  rintro ⟨axis, mem, lacking⟩
  unfold substitute at h
  split at h
  · next filled =>
    obtain ⟨v, found⟩ := Placeholder.fill_ok filled (Placeholder.mem_references.mp mem)
    rw [lacking] at found
    cases found
  · cases h

theorem substitute_error {text : String} {b : Bindings} {e : ConfigError}
    (h : substitute text b = .error e) :
    Unbound b text ∧ ∃ axis, e = .unboundReference axis text := by
  unfold substitute at h
  split at h
  · cases h
  · next axis failed =>
    cases h
    obtain ⟨mem, lacking⟩ := Placeholder.fill_error failed
    exact ⟨⟨axis, Placeholder.mem_references.mpr mem, lacking⟩, axis, rfl⟩

/-- The texts of a step in which placeholders are filled. -/
inductive Step.HasText (s : Step) : String → Prop
  | line {text : String} : s.command = .line text → s.HasText text
  | word {words : List String} {word : String} :
      s.command = .argv words → word ∈ words → s.HasText word
  | name : s.HasText s.name
  | directory {path : String} : s.directory = some path → path ≠ "" → s.HasText path
  | value {e : String × String} : e ∈ s.env → s.HasText e.2

/-- The texts of a template in which placeholders are filled. -/
inductive Template.HasText (t : Template) : String → Prop
  | step {s : Step} {text : String} : s ∈ t.steps → s.HasText text → t.HasText text
  | name : t.HasText t.name
  | value {e : String × String} : e ∈ t.env → t.HasText e.2

theorem Step.mem_texts {s : Step} {text : String} : text ∈ s.texts ↔ s.HasText text := by
  simp only [Step.texts, List.mem_append, List.mem_singleton, Option.mem_toList, Dict.values,
    List.mem_map, Option.filter_eq_some_iff]
  constructor
  · rintro (((mem | rfl) | ⟨given, full⟩) | ⟨e, mem, rfl⟩)
    · cases command : s.command with
      | line line =>
        rw [command] at mem
        cases List.mem_singleton.mp mem
        exact .line command
      | argv words =>
        rw [command] at mem
        exact .word command mem
    · exact .name
    · exact .directory given (by simpa using full)
    · exact .value mem
  · intro h
    cases h with
    | line command => exact .inl (.inl (.inl (by rw [command]; exact List.mem_singleton_self _)))
    | word command mem => exact .inl (.inl (.inl (by rw [command]; exact mem)))
    | name => exact .inl (.inl (.inr rfl))
    | directory given full => exact .inl (.inr ⟨given, by simpa using full⟩)
    | value mem => exact .inr ⟨_, mem, rfl⟩

theorem Template.mem_texts {t : Template} {text : String} : text ∈ t.texts ↔ t.HasText text := by
  simp only [Template.texts, List.mem_append, List.mem_flatMap, List.mem_singleton, Dict.values,
    List.mem_map, Step.mem_texts]
  constructor
  · rintro ((⟨s, mem, own⟩ | rfl) | ⟨e, mem, rfl⟩)
    · exact .step mem own
    · exact .name
    · exact .value mem
  · intro h
    cases h with
    | step mem own => exact .inl (.inl ⟨_, mem, own⟩)
    | name => exact .inl (.inr rfl)
    | value mem => exact .inr ⟨_, mem, rfl⟩

theorem bindEnv_fills (b : Bindings) (env : Env) :
    Fills b (fun text => ∃ e ∈ env, text = e.2) (bindEnv b env) := by
  unfold bindEnv
  refine .mapM fun e _ => ?_
  exact (Fills.substitute e.2).map fun s => (e.1, s)

theorem Step.bind_fills (b : Bindings) (s : Step) : Fills b s.HasText (s.bind b) := by
  have directory :=
    Fills.optionMapM (b := b) (o := s.directory.filter (!·.isEmpty)) Fills.substitute
  have rest (command : Command) :=
    (Fills.substitute s.name).bind fun name =>
      directory.bind fun directory =>
        (bindEnv_fills b s.env).bind fun env =>
          Fills.pure ({ command, name, directory, env, timeout := s.timeout } : Step)
  unfold Step.bind
  dsimp only
  split
  · next line command =>
    refine (((Fills.substitute line).map Command.line).bind rest).congr fun text => ?_
    simp [← Step.mem_texts, Step.texts, command, Command.texts, Dict.values, eq_comm]
  · next words command =>
    refine (((Fills.mapM fun word _ => Fills.substitute word).map Command.argv).bind rest).congr
      fun text => ?_
    simp [← Step.mem_texts, Step.texts, command, Command.texts, Dict.values, eq_comm]

namespace Template

variable (t : Template) (b : Bindings)

theorem instanceEnv_fills : Fills b (fun text => ∃ e ∈ t.env, text = e.2) (t.instanceEnv b) := by
  unfold instanceEnv
  exact ((bindEnv_fills b t.env).bind fun env => Fills.pure _).congr (by simp)

theorem instanceName_fills : Fills b (· = t.name) (t.instanceName b) := by
  unfold instanceName
  split
  · next empty =>
    have none_ : Placeholder.references "" = [] := by
      simp [Placeholder.references, Placeholder.pieces, Placeholder.leading?]
    refine ⟨fun _ text same => ?_, nofun⟩
    rw [same, String.isEmpty_iff.mp empty]
    exact substitute_of_plain none_ b
  · split
    · exact .substitute t.name
    · next plain =>
      simp only [Bool.or_eq_true, Bool.not_eq_true', not_or, Bool.not_eq_false,
        List.isEmpty_iff] at plain
      refine ⟨fun _ text same => ?_, nofun⟩
      rw [same]
      exact substitute_of_plain plain.1 b

theorem bind_fills (index : Int) : Fills b t.HasText (t.bind index b) := by
  unfold bind
  refine ((t.instanceEnv_fills b).bind fun env =>
    (Fills.mapM fun s _ => Step.bind_fills b s).bind fun steps =>
      (t.instanceName_fills b).bind fun name => Fills.pure _).congr fun text => ?_
  simp [← mem_texts, texts, Step.mem_texts, Dict.values, eq_comm, or_assoc, or_comm, or_left_comm]

variable {t b}

theorem bindAll_fills {start : Int} {bs : List Bindings} :
    (∀ is, t.bindAll start bs = .ok is →
      ∀ b ∈ bs, ∀ text, t.HasText text → ∃ s, substitute text b = .ok s) ∧
    ∀ e, t.bindAll start bs = .error e →
      ∃ b ∈ bs, ∃ text, t.HasText text ∧ substitute text b = .error e := by
  induction bs generalizing start with
  | nil =>
    refine ⟨nofun, fun e failed => ?_⟩
    cases failed
  | cons b bs ih =>
    refine ⟨fun is done => ?_, fun e failed => ?_⟩
    · obtain ⟨i, first, done⟩ := bind_eq_ok_iff.mp done
      obtain ⟨rest, later, -⟩ := bind_eq_ok_iff.mp done
      exact List.forall_mem_cons.mpr ⟨(t.bind_fills b start).ok first, ih.1 rest later⟩
    · rcases bind_eq_error_iff.mp failed with first | ⟨_, -, failed⟩
      · exact ⟨b, List.mem_cons_self, (t.bind_fills b start).error first⟩
      · rcases bind_eq_error_iff.mp failed with later | ⟨_, -, failed⟩
        · obtain ⟨b', mem, text, own, failed⟩ := ih.2 e later
          exact ⟨b', List.mem_cons_of_mem _ mem, text, own, failed⟩
        · cases failed

theorem expand_error {start : Int} {e : ConfigError} (valid : t.validate = .ok ())
    (failed : t.expand start = .error e) : (t.axes ≠ [] ∨ t.additions ≠ []) ∧
      (t.bindings = [] ∧ e = .noCombinations t.id ∨
        ∃ b ∈ t.bindings, ∃ text, t.HasText text ∧ substitute text b = .error e) := by
  rcases bind_eq_error_iff.mp failed with refused | ⟨_, -, failed⟩
  · rw [valid] at refused
    cases refused
  · split at failed
    · next matrix =>
      refine ⟨by simpa [hasMatrix, ← not_and_or] using matrix, ?_⟩
      rcases bind_eq_error_iff.mp failed with none_ | ⟨bs, made, failed⟩
      · unfold combinations at none_
        split at none_
        · next empty =>
          cases none_
          exact .inl ⟨by simpa using empty, rfl⟩
        · cases none_
      · obtain ⟨rfl, -⟩ := combinations_eq_ok_iff.mp made
        exact .inr (bindAll_fills.2 e failed)
    · cases failed

theorem expand_ok_filled {start : Int} {is : List Instance}
    (matrix : t.axes ≠ [] ∨ t.additions ≠ []) (done : t.expand start = .ok is) : t.bindings ≠ [] ∧
      ∀ b ∈ t.bindings, ∀ text, t.HasText text → ¬ Unbound b text := by
  obtain ⟨_, -, done⟩ := bind_eq_ok_iff.mp done
  have has : t.hasMatrix = true := by simpa [hasMatrix, ← not_and_or] using matrix
  rw [if_pos has] at done
  obtain ⟨bs, made, done⟩ := bind_eq_ok_iff.mp done
  obtain ⟨rfl, some_⟩ := combinations_eq_ok_iff.mp made
  refine ⟨some_, fun b mem text own => ?_⟩
  obtain ⟨s, filled⟩ := bindAll_fills.1 is done b mem text own
  exact substitute_ok filled

/-! Templates without additions. -/

theorem kept_eq_nil_iff (matrix : t.axes ≠ []) : t.kept = [] ↔
    ∀ c ∈ product t.axes, ∃ x ∈ t.exclusions, ∀ e ∈ x, Dict.get? c e.1 = some e.2 := by
  rw [kept, if_neg (by simpa using matrix), List.filter_eq_nil_iff]
  simp only [Bool.not_eq_true', Bool.not_eq_false, List.any_eq_true, agrees_iff]

theorem declares_of_referenced (valid : t.validate = .ok ()) (plain : t.additions = [])
    {text axis : String} (own : t.HasText text) (mem : axis ∈ Placeholder.references text) :
    Declares t.axisNames (.text axis) := by
  obtain ⟨-, -, -, -, present⟩ := validate_eq_ok_iff.mp valid
  have allowed := List.find?_eq_none.mp (present text (mem_texts.mpr own)) axis
    (Placeholder.mem_referenced.mpr mem)
  simpa [known, plain, Declares] using allowed

/-- The combinations of the axes bind all that the texts of an accepted template refer to. -/
theorem not_unbound_of_mem_kept (valid : t.validate = .ok ()) (plain : t.additions = [])
    (mem : b ∈ t.kept) {text : String} (own : t.HasText text) : ¬ Unbound b text := by
  rintro ⟨axis, referenced, lacking⟩
  have declared := declares_of_referenced valid plain own referenced
  obtain ⟨v, found⟩ := (exists_get?_iff_declares (keys_of_mem_kept mem)).mpr declared
  rw [lacking] at found
  cases found

theorem bindings_of_plain (valid : t.validate = .ok ()) (plain : t.additions = []) :
    t.bindings = t.kept := by
  obtain ⟨-, once, -⟩ := validate_eq_ok_iff.mp valid
  rw [bindings_eq (repeats_eq_false_iff.mp once), plain, List.foldl_nil]

theorem expand_fails_iff_unbound (valid : t.validate = .ok ()) (start : Int) :
    (∃ e, t.expand start = .error e) ↔ (t.axes ≠ [] ∨ t.additions ≠ []) ∧
      (t.bindings = [] ∨ ∃ b ∈ t.bindings, ∃ text, t.HasText text ∧ Unbound b text) := by
  constructor
  · rintro ⟨e, failed⟩
    obtain ⟨matrix, ⟨empty, -⟩ | ⟨b, mem, text, own, failed⟩⟩ := expand_error valid failed
    · exact ⟨matrix, .inl empty⟩
    · exact ⟨matrix, .inr ⟨b, mem, text, own, (substitute_error failed).1⟩⟩
  · rintro ⟨matrix, why⟩
    cases result : t.expand start with
    | error e => exact ⟨e, rfl⟩
    | ok is =>
      obtain ⟨some_, filled⟩ := expand_ok_filled matrix result
      rcases why with empty | ⟨b, mem, text, own, unbound⟩
      · exact absurd empty some_
      · exact absurd unbound (filled b mem text own)

/-- An accepted template cannot be expanded exactly if it has a matrix, and this has no combinations
or one that does not bind a name to which a text of the template refers. Without additions every
text can be filled for every combination, and expansion fails exactly if there are axes and all
their combinations are excluded. -/
theorem expand_fails_iff (valid : t.validate = .ok ()) (start : Int) :
    ((∃ e, t.expand start = .error e) ↔ (t.axes ≠ [] ∨ t.additions ≠ []) ∧
      (t.bindings = [] ∨ ∃ b ∈ t.bindings, ∃ text, t.HasText text ∧ Unbound b text)) ∧
    (∀ e, t.expand start = .error e →
      e = .noCombinations t.id ∨ ∃ axis text, e = .unboundReference axis text) ∧
    (t.additions = [] →
      (∀ b ∈ t.bindings, ∀ text, t.HasText text → ∃ s, substitute text b = .ok s) ∧
      ((∃ e, t.expand start = .error e) ↔ t.axes ≠ [] ∧
        ∀ c ∈ product t.axes, ∃ x ∈ t.exclusions, ∀ e ∈ x, Dict.get? c e.1 = some e.2)) := by
  have exactly := expand_fails_iff_unbound valid start
  refine ⟨exactly, fun e failed => ?_, fun plain => ?_⟩
  · obtain ⟨-, ⟨-, none_⟩ | ⟨_, -, text, -, failed⟩⟩ := expand_error valid failed
    · exact .inl none_
    · obtain ⟨-, axis, unbound⟩ := substitute_error failed
      exact .inr ⟨axis, text, unbound⟩
  · have bound : ∀ b ∈ t.bindings, ∀ text, t.HasText text → ¬ Unbound b text := by
      rw [bindings_of_plain valid plain]
      exact fun b mem text own => not_unbound_of_mem_kept valid plain mem own
    refine ⟨fun b mem text own => ?_, ?_⟩
    · cases filled : substitute text b with
      | ok s => exact ⟨s, rfl⟩
      | error e => exact absurd (substitute_error filled).1 (bound b mem text own)
    · have nowhere : ¬ ∃ b ∈ t.bindings, ∃ text, t.HasText text ∧ Unbound b text := by
        rintro ⟨b, mem, text, own, unbound⟩
        exact bound b mem text own unbound
      rw [exactly, or_iff_left nowhere, plain, or_iff_left (not_not.mpr rfl),
        bindings_of_plain valid plain]
      exact and_congr_right kept_eq_nil_iff

/-- A template is accepted that refers to a name which only an addition binds, and fails for the
combination that the addition does not concern. Without the addition and the reference it fails once
both values are excluded. -/
theorem expand_fails_without_flags_or_combinations :
    let t : Template :=
      { id := .text "build"
        steps := [{ command := .line "make $\x7b\x7b matrix.flags \x7d\x7d" }]
        axes := [{ name := .text "os", values := ["linux", "mac"] }]
        additions := [[(.text "os", "mac"), (.text "flags", "-j2")]] }
    let u : Template :=
      { id := .text "test"
        steps := [{ command := .line "run $\x7b\x7b matrix.os \x7d\x7d" }]
        axes := [{ name := .text "os", values := ["linux", "mac"] }]
        exclusions := [[(.text "os", "mac")], [(.text "os", "linux")]] }
    t.validate = .ok () ∧ (∃ e, t.expand 0 = .error e) ∧
      u.validate = .ok () ∧ u.additions = [] ∧ (∃ e, u.expand 0 = .error e) := by
  intro t u
  have accepted : t.validate.toOption = some () ∧ u.validate.toOption = some () := by decide +kernel
  have ⟨valid, valid'⟩ := accepted.imp toOption_eq_some_iff.mp toOption_eq_some_iff.mp
  have combos : t.bindings =
      [[(.text "os", "linux")], [(.text "os", "mac"), (.text "flags", "-j2")]] := by decide +kernel
  have referenced : "flags" ∈ Placeholder.references "make $\x7b\x7b matrix.flags \x7d\x7d" := by
    decide +kernel
  have own : t.HasText "make $\x7b\x7b matrix.flags \x7d\x7d" := .step (.head _) (.line rfl)
  refine ⟨valid, ?_, valid', rfl, ?_⟩
  · exact (expand_fails_iff valid 0).1.mpr
      ⟨.inl nofun, .inr ⟨_, combos ▸ List.mem_cons_self, _, own, "flags", referenced, by decide⟩⟩
  · exact ((expand_fails_iff valid' 0).2.2 rfl).2.mpr ⟨nofun, by decide +kernel⟩

end Template

end JobMatrix
