import JobMatrix.Declaration.Build
import JobMatrix.Proofs.Dict

/-! Documents that the shape of a declaration accepts, and what the parts of a pipeline were read
from. Such a document declares at least one job, and so does the pipeline that is built from it. -/

namespace JobMatrix

namespace Violation

theorem report_eq_clean_iff {vs : List Violation} : report vs = .clean ↔ vs = [] := by
  cases vs with
  | nil => simp [report]
  | cons v rest =>
    simp only [report, reduceCtorEq, iff_false]
    split
    · simp
    · split
      · simp
      · split
        · simp
        · split <;> simp

end Violation

namespace Schema

theorem check_eq_nil_iff (whole rules : Schema) (labelled v : Value) :
    check whole rules labelled v = [] ↔
      ∀ r ∈ rules, checkRule (kindsOf whole) r labelled v = [] := by
  induction rules with
  | nil => simp [check]
  | cons r rest ih => simp [check, ih]

/-- A value obeys a schema: there are no violations. -/
def Accepts (s : Schema) (v : Value) : Prop := violations s v = []

namespace Accepts

variable {s : Schema} {v : Value}

theorem rule (h : Accepts s v) {r : Rule} (mem : r ∈ s) :
    checkRule (kindsOf s) r v v.opened = [] :=
  (check_eq_nil_iff s s v v.opened).mp h r mem

theorem kind (h : Accepts s v) {allowed : List Kind} (mem : .kinds allowed ∈ s) :
    ∃ k ∈ allowed, k.holds v.opened = true := by
  have kept : (if allowed.any (·.holds v.opened) then [] else fail _ _ _) = [] := h.rule mem
  split at kept
  · next some_ => simpa using some_
  · cases kept

theorem map (h : Accepts s v) (mem : .kinds [.object] ∈ s) :
    ∃ entries, v.opened = .map entries := by
  obtain ⟨k, only, holds⟩ := h.kind mem
  obtain rfl := List.mem_singleton.mp only
  cases opened : v.opened with
  | map entries => exact ⟨entries, rfl⟩
  | scalar | list | tuple | set | shared | again => simp [opened, Kind.holds] at holds

theorem list (h : Accepts s v) (mem : .kinds [.array] ∈ s) : ∃ items, v.opened = .list items := by
  obtain ⟨k, only, holds⟩ := h.kind mem
  obtain rfl := List.mem_singleton.mp only
  cases opened : v.opened with
  | list items => exact ⟨items, rfl⟩
  | scalar | map | tuple | set | shared | again => simp [opened, Kind.holds] at holds

theorem text (h : Accepts s v) (mem : .kinds [.string] ∈ s) :
    ∃ t, v.opened = .scalar (.text t) := by
  obtain ⟨k, only, holds⟩ := h.kind mem
  obtain rfl := List.mem_singleton.mp only
  cases opened : v.opened with
  | scalar t =>
    cases t with
    | text t => exact ⟨t, rfl⟩
    | null | bool | int | float | halves | date | moment | bytes => simp [opened, Kind.holds] at holds
  | list | map | tuple | set | shared | again => simp [opened, Kind.holds] at holds

theorem scalar (h : Accepts s v) (mem : .kinds [.string, .number, .boolean] ∈ s) :
    ∃ t, v.opened = .scalar t := by
  obtain ⟨k, allowed, holds⟩ := h.kind mem
  cases opened : v.opened with
  | scalar t => exact ⟨t, rfl⟩
  | list | map | tuple | set | shared | again =>
    simp only [List.mem_cons, List.not_mem_nil, or_false] at allowed
    rcases allowed with rfl | rfl | rfl <;> simp [opened, Kind.holds] at holds

theorem number (h : Accepts s v) (mem : .kinds [.number] ∈ s) :
    (∃ n, v.opened = .int n) ∨ ∃ x, v.opened = .scalar (.float x) := by
  obtain ⟨k, only, holds⟩ := h.kind mem
  obtain rfl := List.mem_singleton.mp only
  cases opened : v.opened with
  | scalar t =>
    cases t with
    | int n => exact .inl ⟨n, rfl⟩
    | float x => exact .inr ⟨x, rfl⟩
    | null | bool | text | halves | date | moment | bytes => simp [opened, Kind.holds] at holds
  | list | map | tuple | set | shared | again => simp [opened, Kind.holds] at holds

theorem required (h : Accepts s v) {names : List String} (mem : .required names ∈ s)
    {entries : List (Scalar × Value)} (opened : v.opened = .map entries) {name : String}
    (named : name ∈ names) : ∃ field, Dict.get? entries (.text name) = some field := by
  have kept := h.rule mem
  rw [opened] at kept
  replace kept := List.flatMap_eq_nil_iff.mp kept
  simp only [fail, List.mem_filter] at kept
  cases there : Dict.get? entries (.text name) with
  | some field => exact ⟨field, rfl⟩
  | none => simpa using kept name ⟨named, by simp [Dict.contains, there]⟩

theorem field (h : Accepts s v) {fs : List (String × Schema)} (mem : .fields fs ∈ s)
    {entries : List (Scalar × Value)} (opened : v.opened = .map entries) {name : String}
    {s' : Schema} (named : (name, s') ∈ fs) {w : Value}
    (there : Dict.get? entries (.text name) = some w) : Accepts s' w := by
  have kept : checkFields fs v.opened = [] := h.rule mem
  clear mem
  induction fs with
  | nil => cases named
  | cons f fs ih =>
    obtain ⟨name', s''⟩ := f
    simp only [checkFields, List.append_eq_nil_iff] at kept
    rcases List.mem_cons.mp named with same | named
    · cases same
      simpa [Accepts, opened, Value.get?, there, violations] using kept.1
    · exact ih named kept.2

theorem other (h : Accepts s v) {names : List String} {s' : Schema} (mem : .others names s' ∈ s)
    {entries : List (Scalar × Value)} (opened : v.opened = .map entries) {e : Scalar × Value}
    (there : e ∈ entries) (unnamed : ∀ n ∈ names, (e.1 == .text n) = false) : Accepts s' e.2 := by
  have kept := h.rule mem
  rw [opened] at kept
  replace kept := List.flatMap_eq_nil_iff.mp kept
  simp only [extras, List.mem_filter] at kept
  simpa [Accepts, violations] using kept e ⟨there, by simpa using unnamed⟩

theorem item (h : Accepts s v) {s' : Schema} (mem : .items s' ∈ s) {items : List Value}
    (opened : v.opened = .list items) {w : Value} (there : w ∈ items) : Accepts s' w := by
  have kept := h.rule mem
  rw [opened] at kept
  replace kept := List.flatMap_eq_nil_iff.mp kept
  obtain ⟨n, at_⟩ := List.mem_iff_getElem?.mp there
  simpa [Accepts, violations] using kept (w, n) (List.mem_zipIdx_iff_getElem?.mpr at_)

theorem full (h : Accepts s v) {k : Kind} (mem : .nonEmpty k ∈ s) :
    isEmptyOf k v.opened = false := by
  have kept : (if isEmptyOf k v.opened then fail _ _ _ else []) = [] := h.rule mem
  split at kept
  · cases kept
  · next some_ => simpa using some_

theorem branch (h : Accepts s v) {branches : List Schema} (mem : .oneOf branches ∈ s) :
    ∃ b ∈ branches, Accepts b v := by
  have kept : (if (checkBranches branches v v.opened).any List.isEmpty then [] else [_]) = [] :=
    h.rule mem
  split at kept
  · next some_ =>
    clear kept mem
    induction branches with
    | nil => simp [checkBranches] at some_
    | cons b rest ih =>
      rw [checkBranches, List.any_cons, Bool.or_eq_true] at some_
      rcases some_ with here | later
      · exact ⟨b, List.mem_cons_self, List.isEmpty_iff.mp here⟩
      · obtain ⟨b', mem, accepts⟩ := ih later
        exact ⟨b', List.mem_cons_of_mem _ mem, accepts⟩
  · cases kept

end Accepts

end Schema

namespace Declaration

theorem checkShape_eq_ok_iff {doc : Value} :
    checkShape doc = .ok () ↔ Schema.Accepts shape doc := by
  rw [Schema.Accepts, ← Violation.report_eq_clean_iff, checkShape]
  split <;> simp_all

theorem entriesOf_eq_ok_iff {v : Value} {entries : List (Scalar × Value)} :
    entriesOf v = .ok entries ↔ v.opened = .map entries := by
  unfold entriesOf
  split <;> simp_all

theorem itemsOf_eq_ok_iff {v : Value} {items : List Value} :
    itemsOf v = .ok items ↔ v.opened = .list items := by
  unfold itemsOf
  split <;> simp_all

theorem required_eq_ok_iff {fields : List (Scalar × Value)} {name : String} {v : Value} :
    required fields name = .ok v ↔ Dict.get? fields (.text name) = some v := by
  unfold required
  split <;> simp_all

theorem optional_ok {α : Type} {absent a : α} {read : Value → Except Fault α} {o : Option Value}
    (h : optional absent read o = .ok a) : a = absent ∨ ∃ v, o = some v ∧ read v = .ok a := by
  cases o with
  | none =>
    cases h
    exact .inl rfl
  | some v => exact .inr ⟨v, rfl, h⟩

theorem listOf_mem {α : Type} {read : Value → Except Fault α} {v : Value} {as : List α}
    (h : listOf read v = .ok as) {a : α} (mem : a ∈ as) :
    ∃ items w, v.opened = .list items ∧ w ∈ items ∧ read w = .ok a := by
  obtain ⟨items, opened, h⟩ := bind_eq_ok_iff.mp h
  obtain ⟨w, mem', given⟩ := mapM_ok_mem h mem
  exact ⟨items, w, itemsOf_eq_ok_iff.mp opened, mem', given⟩

/-- What an accepted document declares under `jobs`: at least one job, each of the right shape. -/
theorem jobs_of_shape {fields : List (Scalar × Value)} (h : Schema.Accepts shape (.map fields)) :
    ∃ jobs entries, required fields "jobs" = .ok jobs ∧ entriesOf jobs = .ok entries ∧
      entries ≠ [] ∧ ∀ e ∈ entries, Schema.Accepts jobShape e.2 := by
  obtain ⟨jobs, there⟩ := h.required (.tail _ (.head _)) rfl (List.mem_singleton_self "jobs")
  have sound := h.field (.tail _ (.tail _ (.tail _ (.head _)))) rfl
    (.tail _ (.tail _ (.tail _ (.head _)))) there
  obtain ⟨entries, opened⟩ := sound.map (.head _)
  have full := sound.full (.tail _ (.head _))
  refine ⟨jobs, entries, required_eq_ok_iff.mpr there, entriesOf_eq_ok_iff.mpr opened, ?_, ?_⟩
  · simpa [opened, Schema.isEmptyOf] using full
  · exact fun e mem => sound.other (.tail _ (.tail _ (.head _))) opened mem (by simp)

/-! What a part that has been read was read from. -/

theorem stepOf_ok {v : Value} {s : Step} (h : stepOf v = .ok s) :
    ∃ fields run, v.opened = .map fields ∧ Dict.get? fields (.text "run") = some run ∧
      commandOf run = .ok s.command ∧
      optional [] envOf (Dict.get? fields (.text "env")) = .ok s.env := by
  obtain ⟨fields, opened, h⟩ := bind_eq_ok_iff.mp h
  obtain ⟨run, there, h⟩ := bind_eq_ok_iff.mp h
  obtain ⟨command, runs, h⟩ := bind_eq_ok_iff.mp h
  obtain ⟨name, -, h⟩ := bind_eq_ok_iff.mp h
  obtain ⟨directory, -, h⟩ := bind_eq_ok_iff.mp h
  obtain ⟨env, given, h⟩ := bind_eq_ok_iff.mp h
  obtain ⟨timeout, -, h⟩ := bind_eq_ok_iff.mp h
  cases h
  exact ⟨fields, run, entriesOf_eq_ok_iff.mp opened, required_eq_ok_iff.mp there, runs, given⟩

theorem axisOf_ok {job name : Scalar} {v : Value} {a : Axis} (h : axisOf job name v = .ok a) :
    a.overlays = [] ∨
      (∃ w, overlaysOf w = .ok a.overlays) ∧ strayOverlays a = [] := by
  unfold axisOf at h
  split at h
  · obtain ⟨values, -, h⟩ := bind_eq_ok_iff.mp h
    obtain ⟨overlays, given, h⟩ := bind_eq_ok_iff.mp h
    dsimp only at h
    split at h
    · next none_ =>
      cases h
      rcases optional_ok given with rfl | ⟨w, -, given⟩
      · exact .inl rfl
      · exact .inr ⟨⟨w, given⟩, List.isEmpty_iff.mp none_⟩
    · cases h
  · obtain ⟨values, -, h⟩ := bind_eq_ok_iff.mp h
    cases h
    exact .inl rfl

theorem matrixOf_axis {job : Scalar} {v : Value} {m : Matrix} (h : matrixOf job v = .ok m)
    {a : Axis} (mem : a ∈ m.axes) : ∃ name w, axisOf job name w = .ok a := by
  obtain ⟨entries, -, h⟩ := bind_eq_ok_iff.mp h
  split at h
  · cases h
  · obtain ⟨axes, each, h⟩ := bind_eq_ok_iff.mp h
    obtain ⟨additions, -, h⟩ := bind_eq_ok_iff.mp h
    obtain ⟨exclusions, -, h⟩ := bind_eq_ok_iff.mp h
    cases h
    obtain ⟨source, -, read⟩ := mapM_ok_mem each mem
    exact ⟨_, _, read⟩

theorem jobOf_ok {id : Scalar} {v : Value} {t : Template} (h : jobOf id v = .ok t) :
    ∃ fields, v.opened = .map fields ∧ t.validate = .ok () ∧
      (∀ a ∈ t.axes, ∃ name w, axisOf id name w = .ok a) ∧
      optional [] (listOf stepOf) (Dict.get? fields (.text "steps")) = .ok t.steps ∧
      optional [] envOf (Dict.get? fields (.text "env")) = .ok t.env := by
  obtain ⟨fields, opened, h⟩ := bind_eq_ok_iff.mp h
  obtain ⟨m, matrix, h⟩ := bind_eq_ok_iff.mp h
  obtain ⟨name, -, h⟩ := bind_eq_ok_iff.mp h
  obtain ⟨steps, listed, h⟩ := bind_eq_ok_iff.mp h
  obtain ⟨env, given, h⟩ := bind_eq_ok_iff.mp h
  obtain ⟨_, checked, h⟩ := bind_eq_ok_iff.mp h
  cases h
  refine ⟨fields, entriesOf_eq_ok_iff.mp opened, ?_, ?_, listed, given⟩
  · cases valid : Template.validate _ with
    | ok => rfl
    | error e =>
      rw [valid] at checked
      cases checked
  · rcases optional_ok matrix with rfl | ⟨w, -, matrix⟩
    · simp
    · exact fun a mem => matrixOf_axis matrix mem

theorem build_ok {doc : Value} {p : Pipeline} (h : build doc = .ok p) :
    ∃ (entries jobs : List (Scalar × Value)), doc.opened = .map entries ∧
      Schema.Accepts shape (.map (withTriggerKey entries)) ∧ jobs ≠ [] ∧
      (∀ job ∈ jobs, Schema.Accepts jobShape job.2) ∧
      jobs.mapM (fun job => jobOf job.1 job.2) = .ok p.templates ∧
      optional [] envOf (Dict.get? (withTriggerKey entries) (.text "env")) = .ok p.env := by
  unfold build at h
  split at h
  · next entries opened =>
    obtain ⟨_, shaped, h⟩ := bind_eq_ok_iff.mp h
    have accepts := checkShape_eq_ok_iff.mp shaped
    obtain ⟨jobs, declared, there, listed, some_, each⟩ := jobs_of_shape accepts
    rw [there] at h
    obtain ⟨_, ⟨⟩, h⟩ := bind_eq_ok_iff.mp h
    rw [listed] at h
    obtain ⟨_, ⟨⟩, h⟩ := bind_eq_ok_iff.mp h
    obtain ⟨templates, built, h⟩ := bind_eq_ok_iff.mp h
    obtain ⟨trigger, -, h⟩ := bind_eq_ok_iff.mp h
    obtain ⟨env, given, h⟩ := bind_eq_ok_iff.mp h
    cases h
    exact ⟨entries, declared, opened, accepts, some_, each, built, given⟩
  · cases h

theorem build_templates {doc : Value} {p : Pipeline} (h : build doc = .ok p) :
    p.templates ≠ [] := by
  obtain ⟨entries, jobs, -, -, some_, -, built, -⟩ := build_ok h
  intro none_
  have length := congrArg List.length (mapM_eq_ok_iff.mp built)
  simp only [none_, List.map_nil, List.length_nil, List.length_map] at length
  exact some_ (List.length_eq_zero_iff.mp length)

end Declaration

end JobMatrix
