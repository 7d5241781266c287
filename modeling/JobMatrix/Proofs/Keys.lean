import JobMatrix.Proofs.Numbering
import JobMatrix.Proofs.Recording

/-! Keys in the history. The key of a job is made of its run and its index, so that runs with names
of their own and jobs with indices of their own never meet. Main statement: the instances of
templates are numbered through, and recording runs of them is never refused because a key is taken
or a row that is referred to is missing. -/

namespace JobMatrix.History

/-- The jobs have indices of their own. -/
def OwnIndices (_ : String) (result : RunResult) (_ : Report) : Prop :=
  (result.jobs.map fun j => j.subject.index).Nodup

theorem ownIndices_of_expandAll {ts : List Template} {instances : List Instance}
    {result : RunResult} (expanded : Template.expandAll ts = .ok instances)
    (taken : (result.jobs.map JobResult.subject).Subperm instances) (run : String)
    (report : Report) : OwnIndices run result report := by
  obtain ⟨subjects, perm, sub⟩ := taken
  have numbered := (Template.expandFrom_ok expanded).2.1.nodup
  have distinct := (sub.map Instance.index).nodup numbered
  rw [(perm.map Instance.index).nodup_iff, List.map_map] at distinct
  exact distinct

namespace Book

variable {ends : String → RunResult → Report → Prop} {b : Book} {run now : String} {f : Fault}

theorem Consistent.start_error (h : Consistent ends b) {event : Event}
    (new : b.stage run = .absent) (failed : b.store.start now run event = .error f) :
    ¬ Store.Violates f := by
  intro violates
  obtain ⟨r, kept, -, unsound, -⟩ := Store.insertValues_violates (t := .runs)
    ⟨by simp, by simp, by simp [Table.columns], by simp [Table.rowName]⟩ failed violates
  have id : r.get "run_id" = .text run := kept.get (v := .text run) (.head _)
  have none_ : b.store.listed .runs "run_id" run = [] := (h.runs run).none (by rw [new]; rfl)
  refine unsound ((h.sound .runs).grown (fun q mem => ?_) fun _ _ parent => by cases parent)
  refine Bool.eq_false_iff.mpr fun clash => ?_
  have same : q.get "run_id" = .text run := Cell.equal_text_iff.mp (id ▸ clash)
  exact List.not_mem_nil (none_ ▸ Store.mem_listed.mpr ⟨mem, same⟩)

theorem Consistent.key (h : Consistent ends b) {q : Row} (mem : q ∈ b.store.jobs) :
    ∃ run, ∃ j ∈ Item.jobs (b.stage run).done,
      q.get "job_id" = .text (keyOf run j.subject.index) := by
  obtain ⟨run, own⟩ := h.owned q mem
  obtain ⟨j, done, key⟩ := (h.rows run).key_of_mem (Store.mem_listed.mpr ⟨mem, own⟩)
  exact ⟨run, j, done, key⟩

/-- A job or a step has a key of its own; and if its run was entered, its run or its job is there. -/
theorem Consistent.add_error (h : Consistent ends b) {e : Bool} {result : RunResult}
    {report : Report} {i : Item} {done rest : List Item}
    (distinct : (result.jobs.map fun j => j.subject.index).Nodup)
    (adding : b.stage run = .adding e result report done (i :: rest))
    (failed : b.store.insertValues (i.row run).1 now (i.row run).2 = .error f)
    (violates : Store.Violates f) : f = .history .missingParent ∧ e = false := by
  obtain ⟨-, split_, rows⟩ := h.plan adding
  have follows := Item.follows_of_ofResult distinct split_
  obtain ⟨r, kept, next, unsound, missing⟩ :=
    Store.insertValues_violates (i.names run) failed violates
  have new (q : Row) (mem : q ∈ b.store.rows (i.row run).1) :
      (q.get (i.row run).1.key).equal (r.get (i.row run).1.key) = false := by
    refine Bool.eq_false_iff.mpr fun clash => ?_
    cases i with
    | job j =>
      have same : q.get "job_id" = .text (keyOf run j.subject.index) :=
        Cell.equal_text_iff.mp (Holds.get_job kept ▸ clash)
      obtain ⟨run', j', there, key⟩ := h.key mem
      obtain ⟨rfl, index⟩ := keyOf_inj (Cell.text.inj (key.symm.trans same))
      rw [adding] at there
      exact follows _ (Item.mem_jobs.mp there) index
    | step j result =>
      have before := Store.nextNumber_steps next q mem
      have number : q.get "output_id" = .int q.number := h.numbers q mem
      have number' : r.get "output_id" = .int r.number := kept.number rfl
      have same : q.number = r.number := by
        change (q.get "output_id").equal (r.get "output_id") = true at clash
        rw [number, number'] at clash
        exact Cell.equal_int_iff.mp clash
      omega
  have apart : Store.keysClash (i.row run).1 ((b.store.grown (i.row run).1 r).rows (i.row run).1) =
      false := by
    rw [Store.rows_grown, Store.keysClash_place]
    exact ⟨new, (h.sound _).keys⟩
  refine ⟨missing apart, Bool.eq_false_iff.mpr fun entered => ?_⟩
  refine unsound ((h.sound _).grown new ?_)
  rintro column parent named
  cases i with
  | job j =>
    cases named
    have there := h.runs run
    rw [adding] at there
    obtain ⟨p, listed, -⟩ := there.one entered
    have mem : p ∈ b.store.listed .runs "run_id" run := listed ▸ .head _
    obtain ⟨there, id⟩ := Store.mem_listed.mp mem
    refine ⟨p, there, ?_⟩
    rw [Holds.get_run kept]
    exact Cell.equal_text_iff.mpr id
  | step j result =>
    cases named
    obtain ⟨p, there, key⟩ := rows.mem_of_key (Item.mem_jobs.mpr follows)
    refine ⟨p, there, ?_⟩
    rw [Holds.get_parent kept]
    exact Cell.equal_text_iff.mpr key

end Book

/-- A run to be recorded: what is told of its start and of its end, and when. -/
structure Recording where
  run : String
  event : Event
  result : RunResult
  report : Report
  started : String
  ended : String

namespace Connection

variable {c : Connection} {b : Book} {r : Recording} {x : Raised}

/-- What a connection raises of its own is not the refusal of a key or a reference. -/
def Neutral (raises : Nat → Option Raised) : Prop :=
  ∀ n x, raises n = some x → ¬ Store.Violates x.fault

theorem Refuses.missing {ends : String → RunResult → Report → Prop} {raises : Nat → Option Raised}
    {run : String} {e : Bool} {result : RunResult} {report : Report}
    (h : Refuses ends raises run e result report x) (neutral : Neutral raises)
    (distinct : (result.jobs.map fun j => j.subject.index).Nodup)
    (violates : Store.Violates x.fault) : x.fault = .history .missingParent ∧ e = false := by
  rcases h with ⟨n, own⟩ | ⟨b, now, i, done, rest, kept, adding, failed⟩ | ⟨b, now, kept, failed⟩
  · exact absurd violates (neutral n x own)
  · exact kept.add_error distinct adding failed violates
  · exact absurd violates (Store.close_error (kept.sound .runs) failed)

/-- Records a run: its start and then, whatever was raised, its end; with what was raised at
each. -/
def record (c : Connection) (r : Recording) : Connection × Option Raised × Option Raised :=
  let (c₁, first) := c.start r.started r.run r.event
  let (c₂, last) := c₁.finish r.ended r.run r.result r.report
  (c₂, first, last)

/-- Records runs one after another: each with what was raised at its start and at its end. -/
def recordAll (c : Connection) : List Recording → List (Recording × Option Raised × Option Raised)
  | [] => []
  | r :: rest => (r, (c.record r).2) :: (c.record r).1.recordAll rest

theorem Follows.start_error (h : Follows OwnIndices c b) (new : b.stage r.run = .absent)
    (neutral : Neutral c.raises) (raised : (c.start r.started r.run r.event).2 = some x) :
    ¬ Store.Violates x.fault := by
  unfold Connection.start at raised
  rcases c.ask_cases (·.start r.started r.run r.event) with ⟨s, -, asked⟩ | ⟨past, x', -, asked, why⟩
  · rw [asked] at raised
    cases raised
  · rw [asked] at raised
    cases raised
    rcases why with refused | own
    · exact h.now.start_error new (h.store ▸ refused)
    · exact neutral _ _ own

/-- A run that is new is recorded: nothing of it is refused for a key, nor for a reference unless it
was not entered. -/
theorem Follows.record (h : Follows OwnIndices c b) (new : b.stage r.run = .absent)
    (neutral : Neutral c.raises) (own : OwnIndices r.run r.result r.report) :
    (∃ g, Follows OwnIndices (c.record r).1 (b.turn (c.record r).1.store r.run g)) ∧
      (∀ x, (c.record r).2.1 = some x → ¬ Store.Violates x.fault) ∧
      ∀ x, (c.record r).2.2 = some x → Store.Violates x.fault →
        x.fault = .history .missingParent ∧ (c.record r).2.1.isNone = false := by
  have first := h.start new r.started r.event
  obtain ⟨g, last, what⟩ := first.finish r.ended own Book.stage_turn own
  rw [Book.turn_turn] at last
  refine ⟨⟨g, last⟩, fun x raised => h.start_error new neutral raised, fun x raised => ?_⟩
  have raised : ((c.start r.started r.run r.event).1.finish r.ended r.run r.result r.report).2 =
      some x := raised
  rw [raised] at what
  exact what.2.missing (by rwa [Connection.start, (c.ask_yields _).raises]) own

theorem Follows.recordAll {rs : List Recording} (h : Follows OwnIndices c b)
    (neutral : Neutral c.raises) (names : (rs.map Recording.run).Nodup)
    (new : ∀ r ∈ rs, b.stage r.run = .absent)
    (own : ∀ r ∈ rs, OwnIndices r.run r.result r.report) :
    ∀ t ∈ c.recordAll rs, (∀ x, t.2.1 = some x → ¬ Store.Violates x.fault) ∧
      ∀ x, t.2.2 = some x → Store.Violates x.fault →
        x.fault = .history .missingParent ∧ t.2.1.isNone = false := by
  induction rs generalizing c b with
  | nil => simp [Connection.recordAll]
  | cons r rest ih =>
    obtain ⟨newHere, newLater⟩ := List.forall_mem_cons.mp new
    obtain ⟨ownHere, ownLater⟩ := List.forall_mem_cons.mp own
    obtain ⟨other, names⟩ := List.nodup_cons.mp names
    obtain ⟨⟨g, recorded⟩, unviolated⟩ := h.record newHere neutral ownHere
    refine List.forall_mem_cons.mpr ⟨unviolated, ?_⟩
    refine ih recorded ?_ names (fun q mem => ?_) ownLater
    · have raises : (c.record r).1.raises = c.raises := by
        rw [Connection.record, (finish_yields _ _ _ _ _).raises, Connection.start,
          (c.ask_yields _).raises]
      rwa [raises]
    · have apart : q.run ≠ r.run := fun same => other (same ▸ List.mem_map_of_mem mem)
      rw [Book.stage_turn_of_ne apart]
      exact newLater q mem

end Connection

/-- Templates are numbered through and their runs never meet. The instances of a list of templates
are those of each, one after another, with the indices of their places; there are none if a template
has none. And when runs with names of their own are recorded one after another, each with jobs of
instances from one list of templates, through a connection that may raise whatever it likes: no
start of a run is refused because a key is taken; nothing of the end of a run is, either; and it is
refused because a row that is referred to is missing only where the start of the run itself has
raised something. -/
theorem expanded_runs_never_collide :
    (∀ ts, Template.expandAll ts =
      (ts.mapM fun t : Template => t.expand).map fun parts => Template.placed parts.flatten) ∧
    (∀ ts instances, Template.expandAll ts = .ok instances →
      ∀ (k : Nat) i, instances[k]? = some i → i.index = k) ∧
    (∀ ts us, Template.expandAll (ts ++ us) = (do
      let is ← Template.expandAll ts
      let js ← Template.expandAll us
      return is ++ js.map (.shift is.length))) ∧
    (∀ ts, (∃ e, Template.expandAll ts = .error e) ↔ ∃ t ∈ ts, ∃ e, t.expand = .error e) ∧
    ∀ raises : Nat → Option Raised, Connection.Neutral raises →
      ∀ rs : List Recording, (rs.map Recording.run).Nodup →
      (∀ r ∈ rs, ∃ ts instances, Template.expandAll ts = .ok instances ∧
        (r.result.jobs.map JobResult.subject).Subperm instances) →
      ∀ r first last, (r, first, last) ∈ ({ raises } : Connection).recordAll rs →
        (∀ x, first = some x → ¬ Store.Violates x.fault) ∧
        (∀ x, last = some x → ¬ Store.Clashes x.fault) ∧
        (first = none → ∀ x, last = some x → ¬ Store.Violates x.fault) := by
  refine ⟨Template.expandAll_eq, fun ts instances expanded k i at_ => ?_, Template.expandAll_append,
    fun ts => Template.expandAll_error_iff, fun raises neutral rs names from_ r first last mem => ?_⟩
  · have index := (Template.expandFrom_ok expanded).2.1 k i at_
    omega
  · have own (r : Recording) (mem : r ∈ rs) : OwnIndices r.run r.result r.report := by
      obtain ⟨ts, instances, expanded, taken⟩ := from_ r mem
      exact ownIndices_of_expandAll expanded taken r.run r.report
    obtain ⟨atStart, atEnd⟩ := (Connection.Follows.empty raises).recordAll neutral names
      (fun _ _ => rfl) own _ mem
    refine ⟨atStart, fun x raised clashes => ?_, fun entered x raised violates => ?_⟩
    · obtain ⟨t, same⟩ := clashes
      cases (atEnd x raised (.inl ⟨t, same⟩)).1.symm.trans same
    · cases (congrArg Option.isNone entered).symm.trans (atEnd x raised violates).2

/-- A template with two instances. -/
def twofold : Template :=
  { id := .text "build", steps := [{ command := .line "make" }]
    axes := [{ name := .text "os", values := ["linux", "mac"] }] }

/-- A run of instances whose steps end with a code. -/
def runOf (run : String) (code : Int) (instances : List Instance) : Recording :=
  { run, event := { kind := "push" }, report := { overall := .success }, started := "s", ended := "e"
    result :=
      { jobs := instances.map fun i =>
          { subject := i, steps := [{ step := { command := .line "make" }, index := 0, code }] } } }

/-- The first request finds the connection closed. -/
def closedAtFirst (n : Nat) : Option Raised := if n = 0 then some (.of (.history .closed)) else none

theorem neutral_closedAtFirst : Connection.Neutral closedAtFirst := by
  intro n x raised
  unfold closedAtFirst at raised
  split at raised
  · cases raised
    rintro (⟨_, ⟨⟩⟩ | ⟨⟨⟩⟩)
  · cases raised

theorem subjects_runOf (run : String) (code : Int) (instances : List Instance) :
    (runOf run code instances).result.jobs.map JobResult.subject = instances := by
  simp [runOf, Function.comp_def]

/-- The start of the first run raises something, and a step of the second has a code that cannot be
kept. The third is recorded all the same. -/
theorem expanded_runs_beside_unkept :
    ∃ instances, Template.expandAll [twofold] = .ok instances ∧
      instances.map Instance.index = [0, 1] ∧
      let all := ({ raises := closedAtFirst } : Connection).recordAll
        [runOf "a" 0 instances, runOf "b" (2 ^ 63) instances, runOf "c" 0 instances]
      all.map (fun t => (t.2.1.isSome, t.2.2.isSome)) =
        [(true, true), (false, true), (false, false)] ∧
      ∀ r first last, (r, first, last) ∈ all →
        (∀ x, first = some x → ¬ Store.Violates x.fault) ∧
        (∀ x, last = some x → ¬ Store.Clashes x.fault) ∧
        (first = none → ∀ x, last = some x → ¬ Store.Violates x.fault) := by
  have known : (Template.expandAll [twofold]).toOption.map (fun is => (is.map Instance.index,
      (({ raises := closedAtFirst } : Connection).recordAll
        [runOf "a" 0 is, runOf "b" (2 ^ 63) is, runOf "c" 0 is]).map
          fun t => (t.2.1.isSome, t.2.2.isSome))) =
      some ([0, 1], [(true, true), (false, true), (false, false)]) := by
    decide +kernel
  obtain ⟨instances, expanded, known⟩ := Option.map_eq_some_iff.mp known
  obtain ⟨indices, outcomes⟩ := Prod.mk.inj known
  have expanded := toOption_eq_some_iff.mp expanded
  refine ⟨instances, expanded, indices, outcomes, ?_⟩
  refine expanded_runs_never_collide.2.2.2.2 closedAtFirst neutral_closedAtFirst _
    (by simp [runOf]) fun r mem => ⟨[twofold], instances, expanded, ?_⟩
  have subjects : r.result.jobs.map JobResult.subject = instances := by
    simp only [List.mem_cons, List.not_mem_nil, or_false] at mem
    rcases mem with rfl | rfl | rfl <;> exact subjects_runOf ..
  rw [subjects]

/-- A run whose start has raised something is not there when its jobs are added, so the first of them
is refused. -/
theorem unentered_run_is_refused :
    ∃ instances x, Template.expandAll [twofold] = .ok instances ∧
      (runOf "a" 0 instances).result.jobs.map JobResult.subject = instances ∧
      (({ raises := closedAtFirst } : Connection).record (runOf "a" 0 instances)).2.2 = some x ∧
      x.fault = .history .missingParent := by
  have known : (Template.expandAll [twofold]).toOption.map (fun is =>
      (({ raises := closedAtFirst } : Connection).record (runOf "a" 0 is)).2.2.any fun x =>
        match x.fault with
        | .history .missingParent => true
        | _ => false) = some true := by
    decide +kernel
  obtain ⟨instances, expanded, known⟩ := Option.map_eq_some_iff.mp known
  have expanded := toOption_eq_some_iff.mp expanded
  generalize raised : (Connection.record _ _).2.2 = last at known
  cases last with
  | none => cases known
  | some x =>
    refine ⟨instances, x, expanded, subjects_runOf .., raised, ?_⟩
    simp only [Option.any_some] at known
    split at known
    · assumption
    · cases known

end JobMatrix.History
