import JobMatrix.Proofs.Numbering
import JobMatrix.Proofs.Recording
import JobMatrix.Proofs.Verdict
import Mathlib.Data.List.Nodup

/-! Finished runs in the history. Main statement: whichever requests raise something, in every state
of the tables a run that is not marked as running has all rows of what its execution has come to, and
a run whose recording has failed is still marked as running or has no row of its own. -/

namespace JobMatrix.History

/-- The rows of a run are those of its result: one for each job, and one for each step of a job in
the order of the steps, with the status of each. -/
structure FullyRecorded (s : Store) (run : String) (result : RunResult) : Prop where
  keys : (result.jobs.map (Store.jobKey run)).Nodup
  jobs : ((s.listed .jobs "run_id" run).map fun r => (r.get "job_id", r.get "status")).Perm
    (result.jobs.map fun j => (.text (Store.jobKey run j), .text j.status.text))
  steps : ∀ j ∈ result.jobs, ((s.listed .steps "job_id" (Store.jobKey run j)).map fun r =>
      (r.get "step_index", r.get "status")) =
    j.steps.map fun r => (.int r.index, .text r.status.text)

theorem Holds.fullyRecorded {s : Store} {run : String} {result : RunResult}
    (h : Holds s run (Item.ofResult result))
    (distinct : (result.jobs.map fun j => j.subject.index).Nodup) : FullyRecorded s run result := by
  have jobs := h.jobs
  have steps := h.steps
  rw [Item.jobs_ofResult] at jobs steps
  refine ⟨?_, ?_, fun j mem => ?_⟩
  · have key : Store.jobKey run = keyOf run ∘ fun j => j.subject.index := rfl
    rw [key, ← List.map_map]
    exact List.Nodup.map (fun i i' same => (keyOf_inj same).2) distinct
  · have told := jobs.map fun d =>
      ((Dict.get? d "job_id").getD .null, (Dict.get? d "status").getD .null)
    rw [List.map_map, List.map_map] at told
    exact told
  · have told := congrArg (List.map fun d =>
      ((Dict.get? d "step_index").getD .null, (Dict.get? d "status").getD .null)) (steps j mem)
    rw [Item.steps_ofResult distinct mem, List.map_map, List.map_map] at told
    refine told.trans (List.map_congr_left fun r mem' => ?_)
    have whole := h.whole (.step j r) (List.mem_flatMap.mpr ⟨j, mem, by simp [Item.ofJob, mem']⟩)
      ("step_index", .int r.index) (.tail _ (.head _))
    have index := Cell.of_int (Cell.fits_of_int whole)
    exact Prod.ext (congrArg Affinity.integer.apply index) rfl

/-- A call of a pipeline for an event. -/
structure Call (M : Type) where
  pipeline : Pipeline
  event : Event
  setting : Setting
  machine : M
  token : Bool := false

namespace Call

variable {M : Type} [Host M]

/-- The name under which the run of a call is recorded. -/
def run (k : Call M) : String := k.setting.runId

def execute (k : Call M) (a : Archive) : Execution M :=
  k.pipeline.execute k.event k.setting k.machine a k.token

/-- Executes calls one after another with one history: what comes of each. -/
def executeAll (a : Archive) : List (Call M) → List (Call M × Execution M)
  | [] => []
  | k :: rest => (k, k.execute a) :: executeAll (k.execute a).archive rest

/-- The history after calls. -/
def archiveAfter (a : Archive) (calls : List (Call M)) : Archive :=
  calls.foldl (fun a k => (k.execute a).archive) a

/-- What the course of a call comes to: its result, and the report on it. -/
def Concludes (k : Call M) (result : RunResult) (report : Report) : Prop :=
  ∃ instances, k.pipeline.planFor k.event = .ok (some instances) ∧
    Pipeline.conclusion (k.pipeline.courseOf k.setting instances k.machine k.token) =
      .ok (result, report)

variable {k : Call M} {result : RunResult} {report : Report}

theorem Concludes.overall (h : k.Concludes result report) : report.overall.text ≠ "running" := by
  obtain ⟨instances, -, concluded⟩ := h
  obtain ⟨-, summed⟩ := Pipeline.conclusion_eq_ok_iff.mp concluded
  obtain ⟨jobs, -, given⟩ := bind_eq_ok_iff.mp summed
  cases given
  dsimp only [RunResult.outcome]
  split <;> decide

/-- The jobs of a run are those of its instances, which have indices of their own. -/
theorem Concludes.distinct (h : k.Concludes result report) :
    (result.jobs.map fun j => j.subject.index).Nodup := by
  obtain ⟨instances, plan, concluded⟩ := h
  obtain ⟨ran, -⟩ := Pipeline.conclusion_eq_ok_iff.mp concluded
  obtain ⟨acts, q, jobs, run, results, rfl⟩ := Executor.course_result ran
  have numbered := (Template.expandFrom_ok (Pipeline.planFor_eq_some_iff.mp plan).2).2.1
  have indices := numbered.nodup
  rw [← run.subjects results, List.map_map] at indices
  exact indices

end Call

namespace Book

variable {ends : String → RunResult → Report → Prop} {b : Book} {run : String}

theorem Consistent.recorded (h : b.Consistent ends)
    (distinct : ∀ run result report, ends run result report →
      (result.jobs.map fun j => j.subject.index).Nodup)
    {r : Row} (mem : r ∈ b.store.runs) (status : r.get "status" ≠ .text "running") :
    ∃ run result report, ends run result report ∧
      r.get "run_id" = .text run ∧ r.get "status" = .text report.overall.text ∧
      r.get "end_timestamp" ≠ .null ∧ r.get "report_json" ≠ .null ∧
      FullyRecorded b.store run result := by
  obtain ⟨run, id⟩ := h.named r mem
  have mem' : r ∈ b.store.listed .runs "run_id" run := Store.mem_listed.mpr ⟨mem, id⟩
  have runs := h.runs run
  have rows := h.rows run
  have ended := h.planned run
  cases entered : (b.stage run).entered with
  | false =>
    rw [runs.none entered] at mem'
    cases mem'
  | true =>
    obtain ⟨r', listed, told⟩ := runs.one entered
    rw [listed] at mem'
    obtain rfl := List.mem_singleton.mp mem'
    cases stage : b.stage run with
    | finished e result report =>
      rw [stage] at told rows ended
      obtain ⟨overall, time, text⟩ := told
      exact ⟨run, result, report, ended, id, overall, time, text,
        rows.fullyRecorded (distinct run result report ended)⟩
    | absent | begun | adding | failed =>
      rw [stage] at told
      exact absurd told.1 status

/-- The entry of a run that was recorded to its end. -/
theorem Consistent.closed (h : b.Consistent ends) {result : RunResult} {report : Report}
    (stage : b.stage run = .finished true result report) :
    ∃ r, b.store.listed .runs "run_id" run = [r] ∧ r.get "status" = .text report.overall.text ∧
      Holds b.store run (Item.ofResult result) := by
  have runs := h.runs run
  have rows := h.rows run
  rw [stage] at runs rows
  obtain ⟨r, listed, overall, -⟩ := runs.one rfl
  exact ⟨r, listed, overall, rows⟩

/-- A run that was not recorded to its end has no row, or one that is marked as running. -/
theorem Consistent.running (h : b.Consistent ends)
    (unfinished : ∀ result report, b.stage run ≠ .finished true result report) :
    b.store.listed .runs "run_id" run = [] ∨
      ∃ r, b.store.listed .runs "run_id" run = [r] ∧ r.get "status" = .text "running" ∧
        r.get "end_timestamp" = .null := by
  have runs := h.runs run
  cases entered : (b.stage run).entered with
  | false => exact .inl (runs.none entered)
  | true =>
    obtain ⟨r, listed, told⟩ := runs.one entered
    refine .inr ⟨r, listed, ?_⟩
    cases stage : b.stage run with
    | finished e result report =>
      rw [stage] at entered
      obtain rfl : e = true := entered
      exact absurd stage (unfinished result report)
    | absent | begun | adding | failed =>
      rw [stage] at told
      exact ⟨told.1, told.2.1⟩

end Book

/-- What an execution leaves in the history: at most the start of its run, or what its course has come
to as well. -/
theorem begin_records {M : Type} [Host M] (p : Pipeline) (event : Event) (s : Setting)
    (instances : List Instance) (machine : M) (archive : Archive) (token : Bool) :
    let e := p.begin event s instances machine archive token
    let started := archive.start s.now s.runId event
    (e.archive = started.1 ∧ e.unrecorded = started.2.toList ∧ ∀ answer, e.answer ≠ .ok answer) ∨
    ∃ result report,
      Pipeline.conclusion (p.courseOf s instances machine token) = .ok (result, report) ∧
      e.archive = (started.1.finish s.now s.runId result report).1 ∧
      e.unrecorded = started.2.toList ++ (started.1.finish s.now s.runId result report).2.toList ∧
      ∀ answer, e.answer = .ok answer → answer = some report := by
  unfold Pipeline.begin Pipeline.carryOut
  dsimp only
  split
  · exact .inl ⟨rfl, rfl, nofun⟩
  · split
    · exact .inl ⟨rfl, rfl, nofun⟩
    · split
      · exact .inl ⟨rfl, rfl, nofun⟩
      · next result report concluded =>
        refine .inr ⟨result, report, concluded, ?_⟩
        split
        · exact ⟨rfl, rfl, nofun⟩
        · split
          · exact ⟨rfl, rfl, nofun⟩
          · exact ⟨rfl, rfl, fun answer given => (Except.ok.inj given).symm⟩

namespace Connection

variable {M : Type} [Host M] {ends : String → RunResult → Report → Prop} {c : Connection} {b : Book}

/-- A call, when its run is at a stage of the book: one of which something could not be recorded is
not finished, and one that has given a report without that is. -/
def Tallies (k : Call M) (e : Execution M) (g : Stage) : Prop :=
  (e.unrecorded ≠ [] → ∀ result report, g ≠ .finished true result report) ∧
    ∀ report, e.answer = .ok (some report) → e.unrecorded = [] →
      ∃ result, k.Concludes result report ∧ g = .finished true result report

/-- One call: its run comes to another stage. -/
theorem Follows.execute (h : Follows ends c b) (k : Call M) (new : b.stage k.run = .absent)
    (ended : ∀ result report, k.Concludes result report → ends k.run result report) :
    ∃ c' g, (k.execute (.kept c)).archive = .kept c' ∧
      Follows ends c' (b.turn c'.store k.run g) ∧ Tallies k (k.execute (.kept c)) g := by
  have still : b.turn c.store k.run .absent = b := by
    rw [← new, ← h.store]
    simp [Book.turn]
  unfold Call.execute
  cases plan : k.pipeline.planFor k.event with
  | error e =>
    simp only [Pipeline.execute, plan]
    exact ⟨c, .absent, rfl, still.symm ▸ h, by simp [Tallies]⟩
  | ok instances =>
    cases instances with
    | none =>
      simp only [Pipeline.execute, plan]
      exact ⟨c, .absent, rfl, still.symm ▸ h, by simp [Tallies]⟩
    | some instances =>
      rw [Pipeline.execute_of_plan plan]
      have started := h.start new k.setting.now k.event
      rcases begin_records k.pipeline k.event k.setting instances k.machine (.kept c) k.token with
        ⟨archive, -, unanswered⟩ | ⟨result, report, concluded, archive, unrecorded, answers⟩
      · exact ⟨_, _, archive, started, fun _ _ _ => Stage.noConfusion,
          fun report given => absurd given (unanswered _)⟩
      · have concludes : k.Concludes result report := ⟨instances, plan, concluded⟩
        obtain ⟨g, finished, what⟩ := started.finish k.setting.now concludes.distinct Book.stage_turn
          (ended result report concludes)
        rw [Book.turn_turn] at finished
        refine ⟨_, g, archive, finished, ?_⟩
        have unrecorded : (k.pipeline.begin k.event k.setting instances k.machine (.kept c)
            k.token).unrecorded = (c.start k.setting.now k.run k.event).2.toList ++
              ((c.start k.setting.now k.run k.event).1.finish k.setting.now k.run result
                report).2.toList := unrecorded
        cases last : ((c.start k.setting.now k.run k.event).1.finish k.setting.now k.run result
          report).2 with
        | some r =>
          rw [last] at what unrecorded
          obtain ⟨⟨done, rfl⟩, -⟩ := what
          refine ⟨fun _ _ _ => Stage.noConfusion, fun report' _ recorded => ?_⟩
          simp [unrecorded] at recorded
        | none =>
          rw [last] at what unrecorded
          obtain rfl : g = _ := what
          cases first : (c.start k.setting.now k.run k.event).2 with
          | some r =>
            rw [first] at unrecorded
            refine ⟨fun _ _ _ => by simp, fun report' _ recorded => ?_⟩
            simp [unrecorded] at recorded
          | none =>
            rw [first] at unrecorded
            refine ⟨fun failed => absurd unrecorded failed, fun report' given _ => ?_⟩
            obtain rfl := Option.some.inj (answers _ given)
            exact ⟨result, concludes, rfl⟩

/-- Calls with names of their own: each run comes to another stage, at which it stays. -/
theorem Follows.executeAll {calls : List (Call M)} (h : Follows ends c b)
    (names : (calls.map Call.run).Nodup) (new : ∀ k ∈ calls, b.stage k.run = .absent)
    (ended : ∀ k ∈ calls, ∀ result report, k.Concludes result report → ends k.run result report) :
    ∃ c' b', Call.archiveAfter (.kept c) calls = .kept c' ∧ Follows ends c' b' ∧
      (∀ run ∉ calls.map Call.run, b'.stage run = b.stage run) ∧
      ∀ x ∈ Call.executeAll (.kept c) calls, Tallies x.1 x.2 (b'.stage x.1.run) := by
  induction calls generalizing c b with
  | nil => exact ⟨c, b, rfl, h, fun _ _ => rfl, by simp [Call.executeAll]⟩
  | cons k rest ih =>
    obtain ⟨newHere, newLater⟩ := List.forall_mem_cons.mp new
    obtain ⟨endedHere, endedLater⟩ := List.forall_mem_cons.mp ended
    obtain ⟨other, names⟩ := List.nodup_cons.mp names
    obtain ⟨c₁, g, archive, first, tallies⟩ := h.execute k newHere endedHere
    have absent (q : Call M) (mem : q ∈ rest) : (b.turn c₁.store k.run g).stage q.run = .absent := by
      have apart : q.run ≠ k.run := fun same => other (same ▸ List.mem_map_of_mem mem)
      rw [Book.stage_turn_of_ne apart]
      exact newLater q mem
    obtain ⟨c', b', after, last, same, all⟩ := ih first names absent endedLater
    refine ⟨c', b', ?_, last, fun run apart => ?_, ?_⟩
    · rw [← after, ← archive]
      rfl
    · rw [List.map_cons, List.mem_cons, not_or] at apart
      rw [same run apart.2, Book.stage_turn_of_ne apart.1]
    · rw [Call.executeAll, archive]
      refine List.forall_mem_cons.mpr ⟨?_, all⟩
      rw [same k.run other, Book.stage_turn]
      exact tallies

end Connection

/-- Finished means fully recorded. Calls with names of their own are executed one after another with
one history, in which any request may raise something. In every state of its tables, a run that is
not marked as running is that of a call, and has its time, the status of the report and all rows of
the result that the course of this call has come to; and a run of which something could not be
recorded is marked as running, without a time, or has no row. In the end the mark is gone from each
run that was recorded without that. -/
theorem finished_runs_are_recorded {M : Type} [Host M] (raises : Nat → Option Raised)
    (calls : List (Call M)) (names : (calls.map Call.run).Nodup) :
    ∃ c, Call.archiveAfter (.kept { raises }) calls = .kept c ∧
      (∀ s ∈ c.states,
        (∀ r ∈ s.runs, r.get "status" ≠ .text "running" → ∃ k ∈ calls, ∃ result report,
          k.Concludes result report ∧ r.get "run_id" = .text k.run ∧
          r.get "status" = .text report.overall.text ∧ r.get "end_timestamp" ≠ .null ∧
          r.get "report_json" ≠ .null ∧ FullyRecorded s k.run result) ∧
        ∀ x ∈ Call.executeAll (.kept { raises }) calls, x.2.unrecorded ≠ [] →
          s.listed .runs "run_id" x.1.run = [] ∨
          ∃ r, s.listed .runs "run_id" x.1.run = [r] ∧ r.get "status" = .text "running" ∧
            r.get "end_timestamp" = .null) ∧
      ∀ x ∈ Call.executeAll (.kept { raises }) calls, ∀ report,
        x.2.answer = .ok (some report) → x.2.unrecorded = [] → ∃ r result,
          c.store.listed .runs "run_id" x.1.run = [r] ∧ r.get "status" ≠ .text "running" ∧
          x.1.Concludes result report ∧ FullyRecorded c.store x.1.run result := by
  let ends (run : String) (result : RunResult) (report : Report) : Prop :=
    ∃ k ∈ calls, k.run = run ∧ k.Concludes result report
  have distinct (run : String) (result : RunResult) (report : Report)
      (ended : ends run result report) : (result.jobs.map fun j => j.subject.index).Nodup := by
    obtain ⟨k, -, -, concludes⟩ := ended
    exact concludes.distinct
  have empty : Connection.Follows ends { raises } {} := .empty raises
  obtain ⟨c, b, after, follows, -, tallies⟩ := empty.executeAll names (fun _ _ => rfl)
    fun k mem result report concludes => ⟨k, mem, rfl, concludes⟩
  refine ⟨c, after, fun s mem => ?_, fun x mem report answer recorded => ?_⟩
  · obtain ⟨b', rfl, consistent, lasts⟩ := follows.left s mem
    refine ⟨fun r mem status => ?_, fun x mem failed => ?_⟩
    · obtain ⟨run, result, report, ⟨k, called, rfl, concludes⟩, row⟩ :=
        consistent.recorded distinct mem status
      exact ⟨k, called, result, report, concludes, row⟩
    · refine consistent.running fun result report finished => ?_
      exact (tallies x mem).1 failed result report
        ((lasts x.1.run result report finished).trans finished)
  · obtain ⟨result, concludes, stage⟩ := (tallies x mem).2 report answer recorded
    obtain ⟨r, listed, status, rows⟩ := follows.now.closed stage
    rw [follows.store] at listed rows
    refine ⟨r, result, listed, ?_, concludes, rows.fullyRecorded concludes.distinct⟩
    rw [status]
    exact fun same => concludes.overall (Cell.text.inj same)

/-- Two calls of a pipeline. The first run is recorded to its end; of the second, the request that
records its job raises something. -/
theorem finished_run_beside_unrecorded :
    let p : Pipeline := { templates := [{ id := .text "build", steps := [{ command := .line "make" }] }] }
    let call (run : String) : Call Prompt :=
      { pipeline := p, event := { kind := "push" }
        setting := { executor := {}, runId := run, now := "t" }, machine := {} }
    let raises (n : Nat) : Option Raised := if n = 6 then some (.of (.history .closed)) else none
    ∃ c report r result r', Call.archiveAfter (.kept { raises }) [call "a", call "b"] = .kept c ∧
      c.store.listed .runs "run_id" "a" = [r] ∧ r.get "status" ≠ .text "running" ∧
      (call "a").Concludes result report ∧ FullyRecorded c.store "a" result ∧
      c.store.listed .runs "run_id" "b" = [r'] ∧ r'.get "status" = .text "running" := by
  intro p call raises
  let first := (call "a").execute (.kept { raises })
  let second := (call "b").execute first.archive
  have known : ((first.answer.toOption.bind id).isSome, first.unrecorded.length,
      second.unrecorded.length, match second.archive with
        | .kept c => (c.store.listed .runs "run_id" "b").length
        | .absent => 0) = (true, 0, 1, 1) := by
    decide +kernel
  simp only [Prod.mk.injEq] at known
  obtain ⟨reported, recorded, failed, entered⟩ := known
  obtain ⟨c, after, states, closed⟩ :=
    finished_runs_are_recorded raises [call "a", call "b"] (by decide)
  obtain ⟨report, given⟩ := Option.isSome_iff_exists.mp reported
  obtain ⟨answer, given, same⟩ := Option.bind_eq_some_iff.mp given
  obtain rfl : answer = some report := same
  obtain ⟨r, result, listed, status, concludes, rows⟩ := closed (call "a", first) (.head _) report
    (toOption_eq_some_iff.mp given) (List.length_eq_zero_iff.mp recorded)
  have unrecorded : second.unrecorded ≠ [] := fun none_ => by simp [none_] at failed
  rw [show second.archive = .kept c from after] at entered
  rcases (states c.store (.head _)).2 (call "b", second) (.tail _ (.head _)) unrecorded with
    none_ | ⟨r', listed', running, -⟩
  · simp [show c.store.listed .runs "run_id" "b" = [] from none_] at entered
  · exact ⟨c, report, r, result, r', after, listed, status, concludes, rows, listed', running⟩

end JobMatrix.History
