import JobMatrix.Proofs.Declaration
import JobMatrix.Proofs.Expansion

/-! Documents that the shape of a declaration accepts are read to their end: nothing that is looked
for is missing, and nothing is of a kind that it cannot be read as. Main statement: reading such a
document gives a pipeline or says what is inconsistent about the declaration, unless a number of
minutes is out of the range of binary numbers; and a pipeline that is read is well declared. -/

namespace JobMatrix

namespace Value

mutual

theorem isShowable_close (label : Nat) {w : Value} (whole : w.isShowable = true) :
    ∀ {v : Value}, v.isShowable = true → (close label w v).isShowable = true
  | scalar _, h => by simpa [close] using h
  | list items, h => by
    simp only [close, isShowable] at h ⊢
    exact areShowable_close label whole h
  | tuple items, h => by
    simp only [close, isShowable] at h ⊢
    exact areShowable_close label whole h
  | map entries, h => by
    simp only [close, isShowable] at h ⊢
    exact entriesShowable_close label whole h
  | set _, h => by simpa [close] using h
  | shared l v, h => by
    simp only [close]
    split
    · exact h
    · simp only [isShowable] at h ⊢
      exact isShowable_close label whole h
  | again l, h => by
    simp only [close]
    split
    · exact whole
    · exact h

theorem areShowable_close (label : Nat) {w : Value} (whole : w.isShowable = true) :
    ∀ {items : List Value}, areShowable items = true → areShowable (closeItems label w items) = true
  | [], _ => rfl
  | v :: rest, h => by
    simp only [closeItems, areShowable, Bool.and_eq_true] at h ⊢
    exact ⟨isShowable_close label whole h.1, areShowable_close label whole h.2⟩

theorem entriesShowable_close (label : Nat) {w : Value} (whole : w.isShowable = true) :
    ∀ {entries : List (Scalar × Value)}, entriesShowable entries = true →
      entriesShowable (closeEntries label w entries) = true
  | [], _ => rfl
  | (k, v) :: rest, h => by
    simp only [closeEntries, entriesShowable, Bool.and_eq_true] at h ⊢
    exact ⟨⟨h.1.1, isShowable_close label whole h.1.2⟩, entriesShowable_close label whole h.2⟩

end

theorem isShowable_opened {v : Value} (h : v.isShowable = true) : v.opened.isShowable = true := by
  cases v with
  | shared label v => exact isShowable_close label h (by simpa [isShowable] using h)
  | scalar | list | tuple | map | set | again => exact h

theorem areShowable_iff {items : List Value} :
    areShowable items = true ↔ ∀ v ∈ items, v.isShowable = true := by
  induction items with
  | nil => simp [areShowable]
  | cons v rest ih => simp [areShowable, ih]

theorem entriesShowable_iff {entries : List (Scalar × Value)} :
    entriesShowable entries = true ↔
      ∀ e ∈ entries, e.1.isShowable = true ∧ e.2.isShowable = true := by
  induction entries with
  | nil => simp [entriesShowable]
  | cons e rest ih =>
    obtain ⟨k, v⟩ := e
    simp [entriesShowable, ih]

end Value

namespace Declaration

/-- A value that obeys a schema and in which every integer can be written. -/
structure Readable (s : Schema) (v : Value) : Prop where
  accepts : s.Accepts v
  showable : v.isShowable = true

namespace Readable

variable {s s' : Schema} {v w : Value} {entries : List (Scalar × Value)}

theorem entry (h : Readable s v) (opened : v.opened = .map entries) {e : Scalar × Value}
    (mem : e ∈ entries) : e.1.isShowable = true ∧ e.2.isShowable = true := by
  have showable := Value.isShowable_opened h.showable
  rw [opened, Value.isShowable] at showable
  exact Value.entriesShowable_iff.mp showable e mem

theorem field (h : Readable s v) {fs : List (String × Schema)} (mem : .fields fs ∈ s)
    (opened : v.opened = .map entries) {name : String} (named : (name, s') ∈ fs)
    (there : Dict.get? entries (.text name) = some w) : Readable s' w := by
  obtain ⟨k, mem'⟩ := Dict.exists_mem_of_get? there
  exact ⟨h.accepts.field mem opened named there, (h.entry opened mem').2⟩

theorem other (h : Readable s v) {names : List String} (mem : .others names s' ∈ s)
    (opened : v.opened = .map entries) {e : Scalar × Value} (there : e ∈ entries)
    (unnamed : ∀ n ∈ names, (e.1 == .text n) = false) : Readable s' e.2 :=
  ⟨h.accepts.other mem opened there unnamed, (h.entry opened there).2⟩

theorem item (h : Readable s v) (mem : .items s' ∈ s) {items : List Value}
    (opened : v.opened = .list items) (there : w ∈ items) : Readable s' w := by
  have showable := Value.isShowable_opened h.showable
  rw [opened, Value.isShowable] at showable
  exact ⟨h.accepts.item mem opened there, Value.areShowable_iff.mp showable w there⟩

theorem branch (h : Readable s v) {branches : List Schema} (mem : .oneOf branches ∈ s) :
    ∃ b ∈ branches, Readable b v := by
  obtain ⟨b, mem', accepts⟩ := h.accepts.branch mem
  exact ⟨b, mem', accepts, h.showable⟩

end Readable

/-- A computation that fails for no other reason than that a declaration is inconsistent or, where
`large` holds, that a number is out of range. -/
def Benign {α : Type} (large : Prop) (x : Except Fault α) : Prop :=
  ∀ f, x = .error f → (∃ e, f = .config e) ∨ f = .numberTooLarge ∧ large

namespace Benign

variable {α β : Type} {large large' : Prop} {x : Except Fault α}

theorem ok (a : α) : Benign large (.ok a : Except Fault α) := by
  rintro f ⟨⟩

theorem config (e : ConfigError) : Benign large (.error (.config e) : Except Fault α) := by
  rintro f ⟨⟩
  exact .inl ⟨e, rfl⟩

theorem mono (h : Benign large x) (weaker : large → large') : Benign large' x := by
  intro f failed
  rcases h f failed with bad | ⟨rfl, far⟩
  · exact .inl bad
  · exact .inr ⟨rfl, weaker far⟩

theorem bind (h : Benign large x) {f : α → Except Fault β}
    (next : ∀ a, x = .ok a → Benign large (f a)) : Benign large (x >>= f) := by
  cases x with
  | error e =>
    rintro _ ⟨⟩
    exact h e rfl
  | ok a => exact next a rfl

theorem mapM {xs : List α} {f : α → Except Fault β} (each : ∀ a ∈ xs, Benign large (f a)) :
    Benign large (xs.mapM f) := by
  induction xs with
  | nil => exact ok []
  | cons a rest ih =>
    rw [List.mapM_cons]
    refine (each a List.mem_cons_self).bind fun b _ => ?_
    exact (ih fun c mem => each c (List.mem_cons_of_mem _ mem)).bind fun bs _ => ok (b :: bs)

theorem optional {absent : α} {read : Value → Except Fault α} {o : Option Value}
    (there : ∀ v, o = some v → Benign large (read v)) :
    Benign large (Declaration.optional absent read o) := by
  cases o with
  | none => exact ok absent
  | some v => exact there v rfl

theorem optionMapM {read : Value → Except Fault α} {o : Option Value}
    (there : ∀ v, o = some v → Benign large (read v)) : Benign large (o.mapM read) := by
  cases o with
  | none => exact ok none
  | some v => exact (there v rfl).bind fun a _ => ok (some a)

end Benign

section Reading

variable {large : Prop} {v : Value}

theorem entriesOf_benign {s : Schema} (h : Readable s v) (object : .kinds [.object] ∈ s) :
    Benign large (entriesOf v) := by
  obtain ⟨entries, opened⟩ := h.accepts.map object
  rw [entriesOf_eq_ok_iff.mpr opened]
  exact .ok entries

theorem wordOf_benign (h : Readable [.kinds [.string]] v) : Benign large (wordOf v) := by
  obtain ⟨t, opened⟩ := h.accepts.text (.head _)
  rw [wordOf, opened]
  exact .ok t

theorem textOf_benign (h : Readable scalarShape v) : Benign large (textOf v) := by
  obtain ⟨t, opened⟩ := h.accepts.scalar (.head _)
  have showable := Value.isShowable_opened h.showable
  rw [opened, Value.isShowable] at showable
  simp only [textOf, opened, showable, if_true]
  exact .ok _

theorem listOf_benign {α : Type} {read : Value → Except Fault α} {s s' : Schema} (h : Readable s v)
    (array : .kinds [.array] ∈ s) (items : .items s' ∈ s)
    (each : ∀ w ∈ v.opened.items, Readable s' w → Benign large (read w)) :
    Benign large (listOf read v) := by
  obtain ⟨ws, opened⟩ := h.accepts.list array
  rw [listOf, itemsOf_eq_ok_iff.mpr opened]
  refine .mapM fun w mem => each w ?_ (h.item items opened mem)
  rwa [opened]

theorem envOf_benign (h : Readable envShape v) : Benign large (envOf v) := by
  refine (entriesOf_benign h (.head _)).bind fun entries read => ?_
  have opened := entriesOf_eq_ok_iff.mp read
  refine (Benign.mapM fun e mem => ?_).bind fun _ _ => .ok _
  rw [(h.entry opened mem).1]
  exact (textOf_benign (h.other (.tail _ (.head _)) opened mem (by simp))).bind fun _ _ => .ok _

theorem bindingsOf_benign (h : Readable envShape v) : Benign large (bindingsOf v) :=
  (envOf_benign h).bind fun _ _ => .ok _

theorem patternsOf_benign (h : Readable filterShape v) : Benign large (patternsOf v) := by
  unfold patternsOf
  split
  · exact .ok []
  · next filter =>
    obtain ⟨k, mem, holds⟩ := h.accepts.kind (.head _)
    cases opened : v.opened with
    | map entries =>
      rw [entriesOf_eq_ok_iff.mpr opened]
      refine .optional fun w there => ?_
      have listed := h.field (.tail _ (.head _)) opened (.head _) there
      exact listOf_benign listed (.head _) (.tail _ (.head _)) fun _ _ => wordOf_benign
    | scalar t =>
      simp only [List.mem_cons, List.not_mem_nil, or_false] at mem
      rcases mem with rfl | rfl
      · simp [opened, Kind.holds] at holds
      · cases t <;> simp_all [Kind.holds]
    | list | tuple | set | shared | again =>
      simp only [List.mem_cons, List.not_mem_nil, or_false] at mem
      rcases mem with rfl | rfl <;> simp [opened, Kind.holds] at holds

theorem triggerOf_benign (h : Readable triggerShape v) : Benign large (triggerOf v) := by
  obtain ⟨b, mem, h⟩ := h.branch (.head _)
  simp only [List.mem_cons, List.not_mem_nil, or_false] at mem
  rcases mem with rfl | rfl | rfl
  · obtain ⟨t, opened⟩ := h.accepts.text (.head _)
    rw [triggerOf, opened]
    exact .ok _
  · obtain ⟨kinds, opened⟩ := h.accepts.list (.head _)
    rw [triggerOf, opened]
    exact (Benign.mapM fun w mem => wordOf_benign (h.item (.tail _ (.head _)) opened mem)).bind
      fun _ _ => .ok _
  · obtain ⟨entries, opened⟩ := h.accepts.map (.head _)
    have read := entriesOf_eq_ok_iff.mpr opened
    rw [triggerOf, opened, read]
    refine (Benign.mapM fun e mem => ?_).bind fun _ _ => .ok _
    have filter := h.other (.tail _ (.head _)) opened mem (by simp)
    exact (patternsOf_benign filter).bind fun _ _ => .ok _

theorem overlaysOf_benign (h : Readable [.kinds [.object], .others [] envShape] v) :
    Benign large (overlaysOf v) := by
  refine (entriesOf_benign h (.head _)).bind fun entries read => ?_
  have opened := entriesOf_eq_ok_iff.mp read
  refine (Benign.mapM fun e mem => ?_).bind fun _ _ => .ok _
  have text : textOf (.scalar e.1) = .ok (scalarText (.scalar e.1)) := by
    simp [textOf, Value.opened, (h.entry opened mem).1]
  rw [text]
  exact (envOf_benign (h.other (.tail _ (.head _)) opened mem (by simp))).bind fun _ _ => .ok _

theorem axisOf_benign (job name : Scalar) (h : Readable axisShape v) :
    Benign large (axisOf job name v) := by
  obtain ⟨b, mem, h⟩ := h.branch (.head _)
  simp only [List.mem_cons, List.not_mem_nil, or_false] at mem
  rcases mem with rfl | rfl
  · obtain ⟨items, opened⟩ := h.accepts.list (.head _)
    rw [axisOf, opened]
    exact (listOf_benign h (.head _) (.tail _ (.head _)) fun _ _ => textOf_benign).bind
      fun _ _ => .ok _
  · obtain ⟨fields, opened⟩ := h.accepts.map (.head _)
    rw [axisOf, opened]
    refine (Benign.optional fun w there => ?_).bind fun values _ =>
      (Benign.optional fun w there => ?_).bind fun overlays _ => ?_
    · have listed := h.field (.tail _ (.tail _ (.tail _ (.head _)))) opened (.head _) there
      exact listOf_benign listed (.head _) (.tail _ (.head _)) fun _ _ => textOf_benign
    · exact overlaysOf_benign
        (h.field (.tail _ (.tail _ (.tail _ (.head _)))) opened (.tail _ (.head _)) there)
    · dsimp only
      split
      · exact .ok _
      · exact .config _

theorem matrixOf_benign (job : Scalar) (h : Readable matrixShape v) :
    Benign large (matrixOf job v) := by
  refine (entriesOf_benign h (.head _)).bind fun entries read => ?_
  have opened := entriesOf_eq_ok_iff.mp read
  split
  · exact .config _
  have bindings (w : Value) (read : Readable bindingsShape w) :
      Benign large (listOf bindingsOf w) :=
    listOf_benign read (.head _) (.tail _ (.head _)) fun _ _ => bindingsOf_benign
  refine (Benign.mapM fun e mem => ?_).bind fun axes _ =>
    (Benign.optional fun w there => ?_).bind fun additions _ =>
      (Benign.optional fun w there => ?_).bind fun exclusions _ => .ok _
  · obtain ⟨mem, axis⟩ := List.mem_filter.mp mem
    refine axisOf_benign job e.1 (h.other (.tail _ (.tail _ (.head _))) opened mem ?_)
    simpa [isReserved] using axis
  · exact bindings w (h.field (.tail _ (.head _)) opened (.head _) there)
  · exact bindings w (h.field (.tail _ (.head _)) opened (.tail _ (.head _)) there)

theorem commandOf_benign (h : Readable commandShape v) : Benign large (commandOf v) := by
  obtain ⟨b, mem, h⟩ := h.branch (.head _)
  simp only [List.mem_cons, List.not_mem_nil, or_false] at mem
  rcases mem with rfl | rfl
  · obtain ⟨t, opened⟩ := h.accepts.text (.head _)
    rw [commandOf, opened]
    exact .ok _
  · obtain ⟨items, opened⟩ := h.accepts.list (.head _)
    rw [commandOf, opened]
    exact (listOf_benign h (.head _) (.tail _ (.head _)) fun _ _ => wordOf_benign).bind
      fun _ _ => .ok _

end Reading

/-- The value under a name, null where there is none. -/
def part (v : Value) (name : String) : Value := (v.opened.get? (.text name)).getD .null

/-- The steps that a document declares, job after job. -/
def declaredSteps (doc : Value) : List Value :=
  (part doc "jobs").opened.entries.flatMap fun job => (part job.2 "steps").opened.items

/-- The minutes of a step are an integer without a binary number near it. -/
def LongTimeout (step : Value) : Prop :=
  ∃ n, (part step "timeout-minutes").opened = .int n ∧ Double.ofInt? n = none

theorem part_eq {v w : Value} {fields : List (Scalar × Value)} {name : String}
    (opened : v.opened = .map fields) (there : Dict.get? fields (.text name) = some w) :
    part v name = w := by
  rw [part, opened, Value.get?, there]
  rfl

section Reading

variable {v : Value}

theorem secondsOf_benign (h : Readable [.kinds [.number], .positive] v) :
    Benign (∃ n, v.opened = .int n ∧ Double.ofInt? n = none) (secondsOf v) := by
  rcases h.accepts.number (.head _) with ⟨n, opened⟩ | ⟨x, opened⟩
  · rw [secondsOf, opened]
    dsimp only [Value.number?, Value.int, Number.toDouble?]
    split
    · next far =>
      rintro _ ⟨⟩
      exact .inr ⟨rfl, n, rfl, far⟩
    · exact .ok _
  · rw [secondsOf, opened]
    exact .ok _

theorem stepOf_benign (h : Readable stepShape v) : Benign (LongTimeout v) (stepOf v) := by
  refine (entriesOf_benign h (.head _)).bind fun fields read => ?_
  have opened := entriesOf_eq_ok_iff.mp read
  have fields' : .fields _ ∈ stepShape := .tail _ (.tail _ (.tail _ (.head _)))
  obtain ⟨run, there⟩ := h.accepts.required (.tail _ (.head _)) opened (.head _)
  rw [required_eq_ok_iff.mpr there]
  refine (commandOf_benign ?_).bind fun command _ =>
    (Benign.optional fun w there => wordOf_benign ?_).bind fun name _ =>
    (Benign.optionMapM fun w there => wordOf_benign ?_).bind fun directory _ =>
    (Benign.optional fun w there => envOf_benign ?_).bind fun env _ =>
    (Benign.optionMapM fun w there => ?_).bind fun timeout _ => .ok _
  · exact h.field fields' opened (.tail _ (.head _)) there
  · exact h.field fields' opened (.head _) there
  · exact h.field fields' opened (.tail _ (.tail _ (.head _))) there
  · exact h.field fields' opened (.tail _ (.tail _ (.tail _ (.head _)))) there
  · rw [LongTimeout, part_eq opened there]
    refine secondsOf_benign (h.field fields' opened ?_ there)
    exact .tail _ (.tail _ (.tail _ (.tail _ (.head _))))

theorem jobOf_benign (id : Scalar) (h : Readable jobShape v) :
    Benign (∃ step ∈ (part v "steps").opened.items, LongTimeout step) (jobOf id v) := by
  refine (entriesOf_benign h (.head _)).bind fun fields read => ?_
  have opened := entriesOf_eq_ok_iff.mp read
  have fields' : .fields _ ∈ jobShape := .tail _ (.tail _ (.tail _ (.head _)))
  refine (Benign.optional fun w there => matrixOf_benign id ?_).bind fun m _ =>
    (Benign.optional fun w there => wordOf_benign ?_).bind fun name _ =>
    (Benign.optional fun w there => ?_).bind fun steps _ =>
    (Benign.optional fun w there => envOf_benign ?_).bind fun env _ =>
    Benign.bind ?_ fun _ _ => .ok _
  · exact h.field fields' opened (.tail _ (.tail _ (.head _))) there
  · exact h.field fields' opened (.head _) there
  · rw [part_eq opened there]
    have listed := h.field fields' opened (.tail _ (.tail _ (.tail _ (.head _)))) there
    refine listOf_benign listed (.head _) (.tail _ (.head _)) fun step mem shaped => ?_
    exact (stepOf_benign shaped).mono fun long => ⟨step, mem, long⟩
  · exact h.field fields' opened (.tail _ (.head _)) there
  · cases Template.validate _ with
    | ok => exact .ok ()
    | error e => exact .config e

end Reading

theorem build_benign {doc : Value} {entries : List (Scalar × Value)}
    (mapping : doc.opened = .map entries) (h : Readable shape (.map (withTriggerKey entries))) :
    Benign (∃ step ∈ declaredSteps (.map (withTriggerKey entries)), LongTimeout step)
      (build doc) := by
  have fields' : .fields _ ∈ shape := .tail _ (.tail _ (.tail _ (.head _)))
  obtain ⟨jobs, there⟩ := h.accepts.required (.tail _ (.head _)) rfl (.head _)
  have declared := h.field fields' rfl (.tail _ (.tail _ (.tail _ (.head _)))) there
  rw [build, mapping]
  dsimp only
  rw [checkShape_eq_ok_iff.mpr h.accepts, required_eq_ok_iff.mpr there]
  refine (entriesOf_benign declared (.head _)).bind fun list read =>
    (Benign.mapM fun job mem => ?_).bind fun templates _ =>
    (Benign.optional fun w there => triggerOf_benign ?_).bind fun trigger _ =>
    (Benign.optional fun w there => envOf_benign ?_).bind fun env _ => .ok _
  · have opened := entriesOf_eq_ok_iff.mp read
    have shaped := declared.other (.tail _ (.tail _ (.head _))) opened mem (by simp)
    refine (jobOf_benign job.1 shaped).mono fun ⟨step, mem', long⟩ => ⟨step, ?_, long⟩
    rw [declaredSteps, part_eq rfl there, opened]
    exact List.mem_flatMap.mpr ⟨job, mem, mem'⟩
  · exact h.field fields' rfl (.tail _ (.head _)) there
  · exact h.field fields' rfl (.tail _ (.tail _ (.head _))) there

theorem withTriggerKey_showable {entries : List (Scalar × Value)}
    (h : Value.isShowable (.map entries) = true) :
    Value.isShowable (.map (withTriggerKey entries)) = true := by
  simp only [Value.isShowable, Value.entriesShowable_iff] at h ⊢
  unfold withTriggerKey
  split
  · next v there =>
    obtain ⟨k, mem⟩ := Dict.exists_mem_of_get? there
    have kept (e : Scalar × Value) (mem : e ∈ Dict.erase entries (.bool true)) :=
      h e (List.mem_filter.mp mem).1
    intro e mem'
    rcases Dict.mem_put mem' with old | ⟨same, new | known⟩
    · exact kept e old
    · exact ⟨new ▸ rfl, same ▸ (h _ mem).2⟩
    · obtain ⟨old, mem'', key⟩ := List.mem_map.mp known
      exact ⟨key ▸ (kept old mem'').1, same ▸ (h _ mem).2⟩
  · exact h

end Declaration

/-- What holds of every template that is read from a declaration. -/
structure Template.WellDeclared (t : Template) : Prop where
  steps : t.steps ≠ []
  commands : ∀ s ∈ t.steps, s.command ≠ .line "" ∧ s.command ≠ .argv []
  values : ∀ a ∈ t.axes, a.values ≠ []
  names : t.axisNames.Pairwise fun a b => (b == a) = false
  overlays : ∀ a ∈ t.axes, ∀ o ∈ a.overlays, o.1 ∈ a.values

theorem Template.repeats_eq_false_iff {names : List Scalar} :
    repeats names = false ↔ names.Pairwise fun a b => (b == a) = false := by
  induction names with
  | nil => simp [repeats]
  | cons a rest ih => simp [repeats, ih]

namespace Declaration

theorem commandOf_full {v : Value} {c : Command} (h : Schema.Accepts commandShape v)
    (read : commandOf v = .ok c) : c ≠ .line "" ∧ c ≠ .argv [] := by
  obtain ⟨b, mem, h⟩ := h.branch (.head _)
  simp only [List.mem_cons, List.not_mem_nil, or_false] at mem
  rcases mem with rfl | rfl
  · obtain ⟨t, opened⟩ := h.text (.head _)
    have full := h.full (.tail _ (.head _))
    rw [commandOf, opened] at read
    cases read
    simpa [opened, Schema.isEmptyOf] using full
  · obtain ⟨items, opened⟩ := h.list (.head _)
    have full := h.full (.tail _ (.tail _ (.head _)))
    rw [commandOf, opened] at read
    obtain ⟨words, listed, read⟩ := bind_eq_ok_iff.mp read
    cases read
    obtain ⟨items', opened', listed⟩ := bind_eq_ok_iff.mp listed
    cases opened.symm.trans (itemsOf_eq_ok_iff.mp opened')
    have length := congrArg List.length (mapM_eq_ok_iff.mp listed)
    refine ⟨Command.noConfusion, ?_⟩
    rintro ⟨⟩
    simp_all [Schema.isEmptyOf]

theorem axisOf_overlays {job name : Scalar} {v : Value} {a : Axis}
    (h : axisOf job name v = .ok a) : ∀ o ∈ a.overlays, o.1 ∈ a.values := by
  rcases axisOf_ok h with none_ | ⟨-, none_⟩
  · simp [none_]
  · intro o mem
    by_contra stray
    have key : o.1 ∈ Dict.keys a.overlays := List.mem_map_of_mem mem
    have mem' : o.1 ∈ strayOverlays a := by simpa [strayOverlays, stray] using key
    simp [none_] at mem'

theorem jobOf_wellDeclared {id : Scalar} {v : Value} {t : Template}
    (h : Schema.Accepts jobShape v) (read : jobOf id v = .ok t) : t.WellDeclared := by
  obtain ⟨fields, opened, valid, axes, listed, -⟩ := jobOf_ok read
  obtain ⟨steps, names, values, -⟩ := Template.validate_eq_ok_iff.mp valid
  refine ⟨steps, fun s mem => ?_, values, Template.repeats_eq_false_iff.mp names, fun a mem => ?_⟩
  · rcases optional_ok listed with none_ | ⟨w, there, listed⟩
    · exact absurd none_ steps
    · have shaped := h.field (.tail _ (.tail _ (.tail _ (.head _)))) opened
        (.tail _ (.tail _ (.tail _ (.head _)))) there
      obtain ⟨items, step, opened, mem', read⟩ := listOf_mem listed mem
      have shaped := shaped.item (.tail _ (.head _)) opened mem'
      obtain ⟨fields, run, opened, there, read, -⟩ := stepOf_ok read
      exact commandOf_full (shaped.field (.tail _ (.tail _ (.tail _ (.head _)))) opened
        (.tail _ (.head _)) there) read
  · obtain ⟨name, w, read⟩ := axes a mem
    exact axisOf_overlays read

/-- A document that the shape accepts, and in which every integer can be written, is read to the
end. It gives a pipeline of well declared templates, or the declaration is inconsistent, or it has
a step whose minutes are an integer out of range. -/
theorem build_of_accepted {doc : Value} {entries : List (Scalar × Value)}
    (mapping : doc.opened = .map entries)
    (accepted : checkShape (.map (withTriggerKey entries)) = .ok ())
    (showable : doc.isShowable = true) :
    (∃ p, build doc = .ok p ∧ ∀ t ∈ p.templates, t.WellDeclared) ∨
    (∃ e, build doc = .error (.config e)) ∨
    build doc = .error .numberTooLarge ∧
      ∃ step ∈ declaredSteps (.map (withTriggerKey entries)), LongTimeout step := by
  have accepts := checkShape_eq_ok_iff.mp accepted
  have read : Readable shape (.map (withTriggerKey entries)) :=
    ⟨accepts, withTriggerKey_showable (mapping ▸ Value.isShowable_opened showable)⟩
  have benign := build_benign mapping read
  cases given : build doc with
  | ok p =>
    obtain ⟨_, jobs, -, -, -, shaped, built, -⟩ := build_ok given
    refine .inl ⟨p, rfl, fun t mem => ?_⟩
    obtain ⟨job, mem', read⟩ := mapM_ok_mem built mem
    exact jobOf_wellDeclared (shaped job mem') read
  | error f =>
    rcases benign f given with ⟨e, rfl⟩ | ⟨rfl, long⟩
    · exact .inr (.inl ⟨e, rfl⟩)
    · exact .inr (.inr ⟨rfl, long⟩)

/-- Whether a number is too large for what is read. -/
def isTooLarge {α : Type} : Except Fault α → Bool
  | .error .numberTooLarge => true
  | _ => false

/-- A declaration with a trigger under the key that reads as a truth value and an axis with an
overlay gives well declared templates; with minutes out of range in its step, it is not read. -/
theorem build_of_declared_axis :
    let axis : Value := .object [("values", .list [.int 3, .int 4]),
      ("env", .map [(.int 4, .object [("P", .bool true)])])]
    let doc (minutes : Int) : Value := .map [(.bool true, .text "push"),
      (.text "jobs", .object [("job", .object [("matrix", .object [("py", axis)]),
        ("steps", .list [.object [("run", .list [.text "make"]),
          ("timeout-minutes", .int minutes)]])])])]
    let far : Int := 10 ^ 200 * 10 ^ 200
    (∃ p, build (doc 5) = .ok p ∧ p.templates ≠ [] ∧ ∀ t ∈ p.templates, t.WellDeclared) ∧
    build (doc far) = .error .numberTooLarge ∧
      ∃ step ∈ declaredSteps (.map (withTriggerKey (doc far).entries)), LongTimeout step := by
  intro axis doc far
  have kept (minutes : Int)
      (h : (Schema.violations shape (.map (withTriggerKey (doc minutes).entries))).isEmpty = true) :
      checkShape (.map (withTriggerKey (doc minutes).entries)) = .ok () :=
    checkShape_eq_ok_iff.mpr (List.isEmpty_iff.mp h)
  constructor
  · have built : (build (doc 5)).toOption.isSome = true := by decide +kernel
    obtain ⟨p, read⟩ := Option.isSome_iff_exists.mp built
    have read := toOption_eq_some_iff.mp read
    rcases @build_of_accepted (doc 5) _ rfl (kept 5 (by decide +kernel)) (by decide +kernel) with
      ⟨p', read', sound⟩ | ⟨e, failed⟩ | ⟨failed, -⟩
    · exact ⟨p', read', build_templates read', sound⟩
    · cases read.symm.trans failed
    · cases read.symm.trans failed
  · have failed : isTooLarge (build (doc far)) = true := by decide +kernel
    have accepted := kept far (by decide +kernel)
    rcases @build_of_accepted (doc far) _ rfl accepted (by decide +kernel) with
      ⟨p', read, -⟩ | ⟨e, read⟩ | sound
    · simp [read, isTooLarge] at failed
    · simp [read, isTooLarge] at failed
    · exact sound

end Declaration

end JobMatrix
