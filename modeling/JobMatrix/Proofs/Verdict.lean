import JobMatrix.Run.Execute
import JobMatrix.Proofs.Course
import JobMatrix.Proofs.Declaration
import JobMatrix.Proofs.Expansion
import JobMatrix.Proofs.Report
import JobMatrix.Proofs.Store

/-! The verdict of an execution. Main statement: the report of an accepted declaration is good
exactly when each instance is listed once and all of its steps were started one after another and
ended with code zero in time, whatever comes of the processes, in whichever order the workers act
and whenever the run is cancelled. -/

namespace JobMatrix

namespace Lane

theorem flawless_length (n : Nat) : (flawless n).length = 2 * n := by
  induction n with
  | zero => rfl
  | succ n ih => simp [flawless_succ, ih]; omega

theorem Spoilt.not_flawless {k n : Nat} {ds : List Deed} (spoilt : Spoilt k ds) (more : k < n) :
    flawless k ++ ds ≠ flawless n := by
  intro same
  have length := congrArg List.length same
  simp only [List.length_append, flawless_length] at length
  rcases spoilt with rfl | ⟨expired, code, rfl, bad⟩
  · simp at length
    omega
  · cases expired with
    | true =>
      simp [lateness] at length
      omega
    | false =>
      obtain rfl : n = k + 1 := by
        simp [lateness] at length
        omega
      simp [flawless_succ, lateness] at same
      simp [same] at bad

theorem FromQueue.success_iff {i : Instance} {ds : List Deed} {l : Lane} {r : JobResult}
    (from_ : FromQueue i ds l) (closed : l.result? = some r) (steps : i.steps ≠ []) :
    r.status = .success ↔ ds = flawless i.steps.length := by
  have some_ : 0 < i.steps.length := List.length_pos_iff.mpr steps
  cases from_ with
  | queued => cases closed
  | refused idle =>
    cases closed
    refine ⟨nofun, fun same => ?_⟩
    have length := congrArg List.length (idle.symm.trans same)
    simp only [List.length_nil, flawless_length] at length
    omega
  | begun subject begun =>
    obtain ⟨-, stands⟩ := begun
    obtain ⟨i, phase, deadline, results⟩ := l
    dsimp only at stands subject
    subst subject
    cases stands with
    | success => cases closed; exact ⟨fun _ => rfl, fun _ => rfl⟩
    | failure _ more _ spoilt =>
      cases closed
      exact ⟨nofun, fun same => absurd same (spoilt.not_flawless more)⟩
    | cancelled _ more _ spoilt =>
      cases closed
      exact ⟨nofun, fun same => absurd same (spoilt.not_flawless more)⟩
    | stopped _ more =>
      cases closed
      refine ⟨nofun, fun same => ?_⟩
      have length := congrArg List.length same
      simp only [flawless_length] at length
      omega
    | looking | starting | running | draining | broken => cases closed

end Lane

namespace Archive

/-- Nothing that is raised when runs are recorded passes the guard. The store's own refusals never
do. -/
def Mild : Archive → Prop
  | absent => True
  | kept c => ∀ n r, c.raises n = some r → r.isCaught = true

/-- What is raised when something is recorded is logged, and that is all. -/
theorem Mild.record {a : Archive} (h : a.Mild)
    {act : History.Connection → History.Connection × Option Raised}
    (yields : ∀ c : History.Connection, c.Yields (act c)) :
    (a.record act).1.Mild ∧ (Guarded.call failureLog (a.record act).2).passed = none := by
  cases a with
  | absent => exact ⟨trivial, rfl⟩
  | kept c =>
    obtain ⟨raises, own⟩ := yields c
    refine ⟨?_, Guarded.call_passed fun r raised => ?_⟩
    · rw [Archive.record, Mild, raises]
      exact h
    · rcases own r raised with caught | ⟨n, given⟩
      · exact caught
      · exact h n r given

theorem Mild.start {a : Archive} (h : a.Mild) (now run : String) (event : Event) :
    (a.start now run event).1.Mild ∧
      (Guarded.call failureLog (a.start now run event).2).passed = none :=
  h.record fun c => c.ask_yields _

theorem Mild.finish {a : Archive} (h : a.Mild) (now run : String) (result : RunResult)
    (report : Report) : (a.finish now run result report).1.Mild ∧
      (Guarded.call failureLog (a.finish now run result report).2).passed = none :=
  h.record fun c => c.finish_yields now run result report

end Archive

namespace Pipeline

/-- How a report comes about: the event starts a run, the templates are expanded, the pool of their
instances makes a run to its end, and the results are summed up. -/
structure Reports (p : Pipeline) (event : Event) (x : Executor) (token : Bool)
    (instances : List Instance) (acts : List Action) (report : Report) : Prop where
  starts : p.trigger.starts event = true
  expanded : Template.expandAll p.templates = .ok instances
  ends : ∃ q jobs, Pool.Run (x.withDefaults p.env) (.ofInstances instances token) acts q ∧
    q.results? = some jobs ∧ Report.ofRun (q.resultOf jobs) = .ok report

/-- What happens to the processes of the instance at a position. -/
def deeds (p : Pipeline) (x : Executor) (token : Bool) (instances : List Instance)
    (acts : List Action) (i : Nat) : List Lane.Deed :=
  (Pool.ofInstances instances token).deeds (x.withDefaults p.env) i acts

section

variable {M : Type} [Host M] {p : Pipeline} {event : Event} {s : Setting} {instances : List Instance}
  {machine : M} {archive : Archive} {token : Bool} {report : Report}

theorem conclusion_eq_ok_iff {c : Course M} {result : RunResult} :
    conclusion c = .ok (result, report) ↔ c.result = .ok result ∧ Report.ofRun result = .ok report := by
  simp only [conclusion, bind_eq_ok_iff, pure, Except.pure, Except.ok.injEq, Prod.mk.injEq]
  constructor
  · rintro ⟨_, ran, _, summed, rfl, rfl⟩
    exact ⟨ran, summed⟩
  · rintro ⟨ran, summed⟩
    exact ⟨result, ran, report, summed, rfl, rfl⟩

/-- The execution of instances that gives an answer: its course has come to a report, nothing has
passed a guard, and the run was recorded and announced from start to end. -/
theorem begin_answers {answer : Option Report}
    (h : (p.begin event s instances machine archive token).answer = .ok answer) :
    let course := p.courseOf s instances machine token
    let started := archive.start s.now s.runId event
    ∃ (result : RunResult) (report : Report) (logs logs' : List LogEntry) (announced : LogEntry),
      let closing := Observer.tell s.observer course.given (.runEnd report.overall)
      answer = some report ∧ conclusion course = .ok (result, report) ∧
      p.begin event s instances machine archive token =
        { answer := .ok (some report), machine := course.machine
          archive := (started.1.finish s.now s.runId result report).1
          cancelled := course.pool.cancelled || cancelsNow closing.requests
          sights := logs.map .log ++ (opening s instances).sights ++ [.log announced] ++
            course.seen ++ (logs'.map .log ++ closing.sights)
          unrecorded :=
            started.2.toList ++ (started.1.finish s.now s.runId result report).2.toList } := by
  intro course started
  unfold begin carryOut at h ⊢
  dsimp only at h ⊢
  split at h
  · cases h
  · split at h
    · cases h
    · split at h
      · cases h
      · next result report' concluded =>
        split at h
        · cases h
        · split at h
          · cases h
          · cases h
            exact ⟨result, report', _, _, _, rfl, concluded, rfl⟩

/-- Where nothing passes a guard, the execution of instances answers what its course comes to. -/
theorem begin_of_mild (p : Pipeline) (event : Event) (instances : List Instance) (machine : M)
    (token : Bool) (observer : ∀ o ∈ s.observer, o.Mild) (history : archive.Mild) :
    let course := p.courseOf s instances machine token
    let e := p.begin event s instances machine archive token
    e.answer = (conclusion course).map (fun ended => some ended.2) ∧ e.machine = course.machine ∧
      ((∀ k n, (Observer.tell s.observer k n).requests = []) →
        e.cancelled = course.pool.cancelled) := by
  obtain ⟨history, started⟩ := history.start s.now s.runId event
  have opened : (opening s instances).passed = none := Observer.tell_mild observer ..
  unfold begin carryOut
  simp only [started, opened]
  cases conclusion (p.courseOf s instances machine token) with
  | error f => exact ⟨rfl, rfl, fun _ => rfl⟩
  | ok ended =>
    obtain ⟨result, report⟩ := ended
    simp only [(history.finish s.now s.runId result report).2, Observer.tell_mild observer,
      Except.map, true_and]
    intro quiet
    rw [quiet]
    exact Bool.or_false _

theorem execute_of_plan (plan : p.planFor event = .ok (some instances)) :
    p.execute event s machine archive token =
      { p.begin event s instances machine archive token with
        sights := (p.preamble event).map .log ++
          (p.begin event s instances machine archive token).sights } := by
  simp only [execute, plan]

theorem planFor_eq_some_iff : p.planFor event = .ok (some instances) ↔
    p.trigger.starts event = true ∧ Template.expandAll p.templates = .ok instances := by
  unfold planFor
  split
  · next starts => cases Template.expandAll p.templates <;> simp [starts, Functor.map, Except.map]
  · next skips => simp [skips]

/-- Only the execution of instances gives a report. -/
theorem plan_of_execute
    (h : (p.execute event s machine archive token).answer = .ok (some report)) :
    ∃ instances, p.planFor event = .ok (some instances) ∧
      (p.begin event s instances machine archive token).answer = .ok (some report) := by
  unfold execute at h
  cases plan : p.planFor event with
  | error e =>
    rw [plan] at h
    cases h
  | ok instances =>
    rw [plan] at h
    cases instances with
    | none => cases h
    | some instances => exact ⟨instances, rfl, h⟩

theorem reports_of_execute
    (h : (p.execute event s machine archive token).answer = .ok (some report)) :
    ∃ instances acts, p.Reports event s.executor token instances acts report := by
  obtain ⟨instances, plan, answer⟩ := plan_of_execute h
  obtain ⟨starts, expanded⟩ := planFor_eq_some_iff.mp plan
  obtain ⟨result, _, -, -, -, ⟨⟩, concluded, -⟩ := begin_answers answer
  obtain ⟨ran, summed⟩ := conclusion_eq_ok_iff.mp concluded
  obtain ⟨acts, q, jobs, run, results, rfl⟩ := Executor.course_result ran
  exact ⟨instances, acts, starts, expanded, q, jobs, run, results, summed⟩

end

variable {p : Pipeline} {event : Event} {x : Executor} {token : Bool} {instances : List Instance}
  {acts : List Action} {report : Report}

theorem Reports.numbered (h : p.Reports event x token instances acts report) :
    Numbered 0 instances :=
  (Template.expandFrom_ok h.expanded).2.1

/-- The results that are summed up are those of the instances, and a job has succeeded exactly when
all of its processes have. -/
theorem Reports.jobs (h : p.Reports event x token instances acts report) :
    ∃ r : RunResult, r.jobs.map JobResult.subject = instances ∧ Report.ofRun r = .ok report ∧
      ∀ (i : Nat) (inst : Instance), instances[i]? = some inst → ∃ job, r.jobs[i]? = some job ∧
        (job.status = .success ↔
          p.deeds x token instances acts i = Lane.flawless inst.steps.length) := by
  obtain ⟨q, jobs, run, results, summed⟩ := h.ends
  refine ⟨q.resultOf jobs, run.subjects results, summed, fun i inst at_ => ?_⟩
  obtain ⟨job, l, given, closed, lane⟩ := (run.job results).2 i inst at_
  have steps : inst.steps ≠ [] :=
    (Template.expandFrom_ok h.expanded).2.2 inst (List.mem_of_getElem? at_)
  have own : p.deeds x token instances acts i = Lane.deeds (x.withDefaults p.env)
      { subject := inst }
      ((Pool.ofInstances instances token).moves (x.withDefaults p.env) i acts) := by
    simp [Pipeline.deeds, Pool.deeds, Pool.ofInstances, at_]
  refine ⟨job, given, ?_⟩
  rw [own]
  exact lane.fromQueue.success_iff closed steps

/-- A report is good exactly when all processes of all instances have ended well. -/
theorem Reports.exitCode_iff (h : p.Reports event x token instances acts report) :
    report.exitCode = 0 ↔ ∀ (i : Nat) (inst : Instance), instances[i]? = some inst →
      p.deeds x token instances acts i = Lane.flawless inst.steps.length := by
  obtain ⟨r, subjects, summed, each⟩ := h.jobs
  rw [Report.exitCode_eq_zero_iff, (Report.ofRun_ok h.numbered subjects summed).1,
    Report.outcome_eq_success_iff]
  constructor
  · intro good i inst at_
    obtain ⟨job, given, iff⟩ := each i inst at_
    exact iff.mp (good job (List.mem_of_getElem? given))
  · intro good job mem
    obtain ⟨i, given⟩ := List.mem_iff_getElem?.mp mem
    have at_ : instances[i]? = some job.subject := by simp [← subjects, given]
    obtain ⟨job', given', iff⟩ := each i job.subject at_
    obtain rfl : job = job' := by simpa using given.symm.trans given'
    exact iff.mpr (good i job.subject at_)

theorem Reports.listsOnce (h : p.Reports event x token instances acts report) :
    report.jobs.length = instances.length ∧ ∀ i ∈ instances, report.ListsOnce i := by
  obtain ⟨r, subjects, summed, -⟩ := h.jobs
  exact Report.listsOnce_of_numbered h.numbered subjects summed

/-- A report by evaluation: the actions are carried out, and the results summed up in order. -/
theorem Reports.of_after? {q : Pool} {jobs : List JobResult} {summaries : List JobSummary}
    (starts : p.trigger.starts event = true)
    (expanded : Template.expandAll p.templates = .ok instances)
    (after : (Pool.ofInstances instances token).after? (x.withDefaults p.env) acts = some q)
    (results : q.results? = some jobs) (summed : jobs.mapM JobSummary.ofResult = .ok summaries) :
    ∃ report, p.Reports event x token instances acts report := by
  have run := Pool.run_of_after? after
  have summed' : ∃ report, Report.ofRun (q.resultOf jobs) = .ok report := by
    rw [Report.ofRun_numbered (Template.expandFrom_ok expanded).2.1 (run.subjects results)]
    exact ⟨_, bind_eq_ok_iff.mpr ⟨summaries, summed, rfl⟩⟩
  obtain ⟨report, summed'⟩ := summed'
  exact ⟨report, starts, expanded, q, jobs, run, results, summed'⟩

theorem execute_of_course {M : Type} [Host M] {s : Setting} {machine : M} {result : RunResult}
    {summaries : List JobSummary} (observer : ∀ o ∈ s.observer, o.Mild)
    (starts : p.trigger.starts event = true)
    (expanded : Template.expandAll p.templates = .ok instances)
    (ran : (p.courseOf s instances machine token).result = .ok result)
    (summed : result.jobs.mapM JobSummary.ofResult = .ok summaries) :
    ∃ report, report.overall = result.outcome ∧
      (p.execute event s machine .absent token).answer = .ok (some report) := by
  obtain ⟨acts, q, jobs, run, results, rfl⟩ := Executor.course_result ran
  have numbered := (Template.expandFrom_ok expanded).2.1
  have ofRun := Report.ofRun_numbered (r := q.resultOf jobs) numbered (run.subjects results)
  rw [summed] at ofRun
  refine ⟨{ overall := (q.resultOf jobs).outcome, jobs := summaries
            cancelled := (q.resultOf jobs).cancelled }, rfl, ?_⟩
  have plan := planFor_eq_some_iff.mpr ⟨starts, expanded⟩
  have unrecorded : Archive.Mild .absent := trivial
  rw [execute_of_plan plan, (begin_of_mild p event instances machine token observer unrecorded).1,
    conclusion_eq_ok_iff.mpr ⟨ran, ofRun⟩]
  rfl

end Pipeline

/-- The verdict on an accepted declaration. What an execution reports comes about by a run of the
pool of all instances; and however a report comes about, it lists each instance once, it is not
empty, and it is good exactly when all steps of all instances were started in order and ended with
code zero in time, so that a good report means that a step has run. -/
theorem verdict_iff_all_steps_ended_well {doc : Value} {p : Pipeline}
    (accepted : Declaration.build doc = .ok p) (event : Event) :
    (∀ (M : Type) [Host M] (s : Setting) (machine : M) (archive : Archive) (token : Bool)
      (report : Report), (p.execute event s machine archive token).answer = .ok (some report) →
        ∃ instances acts, p.Reports event s.executor token instances acts report) ∧
    ∀ (x : Executor) (token : Bool) (instances : List Instance) (acts : List Action)
      (report : Report), p.Reports event x token instances acts report →
      report.jobs ≠ [] ∧ report.jobs.length = instances.length ∧
      (∀ inst ∈ instances, report.ListsOnce inst) ∧
      (report.exitCode = 0 ↔ ∀ (i : Nat) (inst : Instance), instances[i]? = some inst →
        report.ListsOnce inst ∧
          p.deeds x token instances acts i = Lane.flawless inst.steps.length) ∧
      (report.exitCode = 0 → ∃ i k, .spawned k ∈ p.deeds x token instances acts i) := by
  refine ⟨fun _ _ _ _ _ _ _ => Pipeline.reports_of_execute, fun x token instances acts report h => ?_⟩
  obtain ⟨length, once⟩ := h.listsOnce
  obtain ⟨nonempty, -, steps⟩ := Template.expandFrom_ok h.expanded
  have some_ : instances ≠ [] := nonempty (Declaration.build_templates accepted)
  have verdict := h.exitCode_iff
  refine ⟨fun none_ => some_ ?_, length, once, ?_, fun good => ?_⟩
  · exact List.length_eq_zero_iff.mp (length ▸ by simp [none_])
  · rw [verdict]
    exact ⟨fun good i inst at_ => ⟨once inst (List.mem_of_getElem? at_), good i inst at_⟩,
      fun good i inst at_ => (good i inst at_).2⟩
  · obtain ⟨inst, rest, rfl⟩ := List.exists_cons_of_ne_nil some_
    obtain ⟨s, more, first⟩ := List.exists_cons_of_ne_nil (steps inst List.mem_cons_self)
    refine ⟨0, 0, ?_⟩
    rw [verdict.mp good 0 inst rfl, first]
    simp [Lane.flawless]

/-- Executes a document on a machine: how it turns out. -/
def outcomeOf {M : Type} [Host M] (doc : Value) (event : Event) (s : Setting) (machine : M)
    (token : Bool) : Option Status := do
  let p ← (Declaration.build doc).toOption
  let instances ← (Template.expandAll p.templates).toOption
  let result ← (p.courseOf s instances machine token).result.toOption
  let _ ← (result.jobs.mapM JobSummary.ofResult).toOption
  if p.trigger.starts event then return result.outcome else none

theorem execute_of_outcome {M : Type} [Host M] {doc : Value} {event : Event} {s : Setting}
    {machine : M} {token : Bool} {outcome : Status} (observer : ∀ o ∈ s.observer, o.Mild)
    (h : outcomeOf doc event s machine token = some outcome) :
    ∃ p report, Declaration.build doc = .ok p ∧ report.overall = outcome ∧
      (p.execute event s machine .absent token).answer = .ok (some report) := by
  obtain ⟨p, accepted, h⟩ := Option.bind_eq_some_iff.mp h
  obtain ⟨instances, expanded, h⟩ := Option.bind_eq_some_iff.mp h
  obtain ⟨result, ran, h⟩ := Option.bind_eq_some_iff.mp h
  obtain ⟨summaries, summed, h⟩ := Option.bind_eq_some_iff.mp h
  split at h
  · next starts =>
    cases h
    obtain ⟨report, overall, answer⟩ := Pipeline.execute_of_course observer starts
      (toOption_eq_some_iff.mp expanded) (toOption_eq_some_iff.mp ran)
      (toOption_eq_some_iff.mp summed)
    exact ⟨p, report, toOption_eq_some_iff.mp accepted, overall, answer⟩
  · cases h

/-- Carries out given actions for a document: the number of steps of each instance, and what happens
to its processes. -/
def rehearse (doc : Value) (event : Event) (x : Executor) (acts : List Action) :
    Option (List (Nat × List Lane.Deed)) := do
  let p ← (Declaration.build doc).toOption
  let instances ← (Template.expandAll p.templates).toOption
  let q ← (Pool.ofInstances instances).after? (x.withDefaults p.env) acts
  let _ ← ((← q.results?).mapM JobSummary.ofResult).toOption
  if p.trigger.starts event then
    return instances.mapIdx fun i inst => (inst.steps.length, p.deeds x false instances acts i)
  else none

theorem reports_of_rehearse {doc : Value} {event : Event} {x : Executor} {acts : List Action}
    {told : List (Nat × List Lane.Deed)} (h : rehearse doc event x acts = some told) :
    ∃ p instances report, Declaration.build doc = .ok p ∧
      p.Reports event x false instances acts report ∧
      ∀ i : Nat, instances[i]?.map (fun inst =>
        (inst.steps.length, p.deeds x false instances acts i)) = told[i]? := by
  obtain ⟨p, accepted, h⟩ := Option.bind_eq_some_iff.mp h
  obtain ⟨instances, expanded, h⟩ := Option.bind_eq_some_iff.mp h
  obtain ⟨q, after, h⟩ := Option.bind_eq_some_iff.mp h
  obtain ⟨jobs, results, h⟩ := Option.bind_eq_some_iff.mp h
  obtain ⟨summaries, summed, h⟩ := Option.bind_eq_some_iff.mp h
  split at h
  · next starts =>
    cases h
    obtain ⟨report, reports⟩ := Pipeline.Reports.of_after? starts
      (toOption_eq_some_iff.mp expanded) after results (toOption_eq_some_iff.mp summed)
    exact ⟨p, instances, report, toOption_eq_some_iff.mp accepted, reports, by simp⟩
  · cases h

/-- One job for two values, on two workers. Where both processes end with code zero the report is
good; where the time of one is up before it ends with code zero, the report is bad. -/
theorem verdict_of_late_process :
    let doc : Value := .object [("jobs", .object [("build", .object [
      ("matrix", .object [("v", .list [.text "1", .text "2"])]),
      ("steps", .list [.object [("run", .text "make")]])])])]
    let event : Event := { kind := "push" }
    let x : Executor := { stepTimeout := some (.int 5) }
    let acts (late : List Action) : List Action :=
      [.lane 0 (.pick 0), .lane 0 (.look 0), .lane 1 (.pick 0), .lane 0 (.launch .started),
        .lane 1 (.look 0), .lane 1 (.launch .started)] ++ late ++
      [.lane 1 (.exit 0), .lane 1 (.leave "" "" (.int 1)), .lane 0 (.exit 0), .take 1, .store,
        .lane 0 (.leave "" "" (.int 1)), .take 0, .store]
    (∃ p instances report, Declaration.build doc = .ok p ∧
      p.Reports event x false instances (acts []) report ∧ report.exitCode = 0) ∧
    ∃ p instances report, Declaration.build doc = .ok p ∧
      p.Reports event x false instances (acts [.lane 1 .expire]) report ∧ report.exitCode ≠ 0 := by
  intro doc event x acts
  have fine : rehearse doc event x (acts []) =
      some [(1, Lane.flawless 1), (1, Lane.flawless 1)] := by
    decide +kernel
  have late : rehearse doc event x (acts [.lane 1 .expire]) =
      some [(1, Lane.flawless 1), (1, [.spawned 0, .expired, .ended 0])] := by
    decide +kernel
  constructor
  · obtain ⟨p, instances, report, accepted, reports, told⟩ := reports_of_rehearse fine
    have verdict := ((verdict_iff_all_steps_ended_well accepted event).2 x false instances _ report
      reports).2.2.2.1
    refine ⟨p, instances, report, accepted, reports, verdict.mpr fun i inst at_ => ?_⟩
    refine ⟨reports.listsOnce.2 inst (List.mem_of_getElem? at_), ?_⟩
    have here := (told i).symm
    rw [at_] at here
    have mem := List.mem_of_getElem? here
    simp only [List.mem_cons, List.not_mem_nil, or_false, or_self, Prod.mk.injEq] at mem
    rw [mem.1, mem.2]
  · obtain ⟨p, instances, report, accepted, reports, told⟩ := reports_of_rehearse late
    have verdict := ((verdict_iff_all_steps_ended_well accepted event).2 x false instances _ report
      reports).2.2.2.1
    refine ⟨p, instances, report, accepted, reports, fun good => ?_⟩
    obtain ⟨inst, at_, here⟩ := Option.map_eq_some_iff.mp (told 1)
    obtain ⟨steps, deeds⟩ := Prod.mk.inj here
    have ended := (verdict.mp good 1 inst at_).2
    rw [steps, deeds] at ended
    exact absurd ended (by decide)

end JobMatrix
