import JobMatrix.Proofs.JobShape
import JobMatrix.Proofs.Lifecycle
import JobMatrix.Proofs.ReadBack
import JobMatrix.Proofs.Report
import Mathlib.Data.List.Forall2

/-! The report of a run, from the results that its lanes leave. A summary takes the step that failed
from its instance and the error from the last result, which go together because a lane ends with the
result of the step that failed. Main statement: a run has one report, whatever the order of its
results, and each job has a summary in it that explains how the job ended. -/

namespace JobMatrix

/-- A result has a duration that was measured, and a failure has an error or a code. -/
structure StepResult.Accounted (r : StepResult) : Prop where
  duration : ∃ d, r.duration = .float d
  failure : r.status = .failure →
    (∃ e, r.error = some e ∧ e ≠ "") ∨ r.error = none ∧ ∃ n, r.code = some n

theorem Executor.exhausted_ne_empty (x : Executor) : x.exhausted ≠ "" := by
  unfold Executor.exhausted
  rw [ne_eq, String.append_eq_empty_iff, String.append_eq_empty_iff]
  simp

namespace Lane

variable {x : Executor} {c : Bool} {l l' : Lane} {m : Move} {s : Step} {moves : List (Bool × Move)}

theorem unstarted?_accounted {how : Launch} {a : Attempt} (h : unstarted? c s how = some a)
    (k : Int) : (a.result s k).Accounted := by
  have failed {e : String} (t : String) (some_ : e ≠ "") :
      ((Attempt.failed { step := s.label, error := some (e ++ t) }).result s k).Accounted :=
    ⟨⟨_, rfl⟩, fun _ => .inl ⟨_, rfl, by simp [some_]⟩⟩
  have stopped : ((Attempt.cancelled "run").result s k).Accounted := ⟨⟨_, rfl⟩, nofun⟩
  cases how with
  | unreadable f => cases h
  | noDirectory path => cases h; exact failed path (by decide)
  | refused detail =>
    cases c with
    | true => cases h; exact stopped
    | false => cases h; exact failed detail (by decide)
  | started | broken f =>
    cases c with
    | true => cases h; exact stopped
    | false => cases h

theorem ending_accounted {limit : Option Limit} {expired : Bool} {o : Output}
    (measured : ∃ d, o.duration = .float d) (k : Int) :
    ((ending c s limit expired o).result s k).Accounted := by
  have judged := Attempt.ofEnding_judged s o (if expired then limit.map Limit.text else none) c
  unfold ending
  generalize (if expired then limit.map Limit.text else none) = late at judged
  generalize Attempt.ofEnding s o late c = a at judged
  cases judged with
  | finished => exact ⟨measured, nofun⟩
  | cancelled => exact ⟨⟨_, rfl⟩, nofun⟩
  | failed =>
    refine ⟨measured, fun _ => ?_⟩
    cases late with
    | none => exact .inr ⟨rfl, o.code, rfl⟩
    | some limit => exact .inl ⟨_, rfl, by simp⟩

theorem Advances.accounted (h : Advances x c l m l')
    (measured : ∀ out err d, m = .leave out err d → ∃ v, d = .float v)
    (old : ∀ r ∈ l.results, r.Accounted) : ∀ r ∈ l'.results, r.Accounted := by
  have recorded {r : StepResult} (new : r.Accounted) :
      ∀ q ∈ (l.record r).1.results, q.Accounted := by
    rw [record_results]
    exact List.forall_mem_append.mpr ⟨old, List.forall_mem_singleton.mpr new⟩
  cases h with
  | start => rw [proceed_fst]; exact old
  | spend => exact recorded ⟨⟨_, rfl⟩, fun _ => .inl ⟨_, rfl, x.exhausted_ne_empty⟩⟩
  | unstarted _ _ attempt => exact recorded (unstarted?_accounted attempt _)
  | leave => exact recorded (ending_accounted (measured _ _ _ rfl) _)
  | refuse | startFault | stop | announce | launchFault | spawn | expire | exit => exact old

theorem Run.accounted (h : Run x l moves l')
    (measured : ∀ c out err d, (c, .leave out err d) ∈ moves → ∃ v, d = .float v)
    (old : ∀ r ∈ l.results, r.Accounted) : ∀ r ∈ l'.results, r.Accounted := by
  induction h with
  | nil => exact old
  | @cons _ _ _ c m es moves first _ ih =>
    refine ih (fun c out err d mem => measured c out err d (.tail _ mem)) ?_
    refine (advances_of_advance first).accounted (fun out err d left => ?_) old
    exact measured c out err d (left ▸ .head _)

end Lane

/-- A job that failed has for its last result the failure of the step at which it failed; any other
job failed at none. -/
def JobResult.Located (r : JobResult) : Prop :=
  (r.status = .failure ∧ ∃ (k : Nat) (last : StepResult), r.failedAt = some (k : Int) ∧
    r.steps.length = k + 1 ∧ r.steps[k]? = some last ∧ last.status = .failure ∧
    r.subject.steps[k]? = some last.step) ∨
  r.status ≠ .failure ∧ r.failedAt = none

theorem JobResult.WellShaped.located {r : JobResult} (h : r.WellShaped) : r.Located := by
  by_cases failed : r.status = .failure
  · obtain ⟨k, failedAt, length, -, status⟩ := h.failure.mp failed
    obtain ⟨last, at_, bad⟩ := Option.map_eq_some_iff.mp status
    exact .inl ⟨failed, k, last, failedAt, length, at_, bad, (h.placed k last at_).2⟩
  · refine .inr ⟨failed, ?_⟩
    cases place : r.failedAt with
    | none => rfl
    | some k => exact absurd (h.failedAt (by rw [place]; rfl)) failed

theorem Lane.Run.located {x : Executor} {i : Instance} {moves : List (Bool × Move)} {l : Lane}
    {r : JobResult} (h : Run x { subject := i } moves l) (closed : l.result? = some r) :
    r.Located := by
  cases h.fromQueue with
  | queued => cases closed
  | refused => cases closed; exact .inr ⟨nofun, rfl⟩
  | begun _ begun => exact (begun.wellShaped closed).located

theorem Pool.mem_moves {x : Executor} {i : Nat} {p : Pool} {acts : List Action} {c : Bool}
    {m : Lane.Move} (mem : (c, m) ∈ p.moves x i acts) : .lane i m ∈ acts := by
  induction acts generalizing p with
  | nil => cases mem
  | cons a rest ih =>
    simp only [moves] at mem
    split at mem
    · rcases List.mem_append.mp mem with here | later
      · cases a with
        | lane j m' =>
          simp only [movesOf] at here
          split at here
          · next same =>
            obtain ⟨-, rfl⟩ := Prod.mk.inj (List.mem_singleton.mp here)
            exact same ▸ .head _
          · cases here
        | take | store | cancel | interrupt => cases here
      · exact .tail _ (ih later)
    · cases mem

theorem Number.sum?_measured {ns : List Number} (measured : ∀ n ∈ ns, ∃ d, n = .float d) :
    ∃ total, sum? ns = some total := by
  have go (acc : Number) (finite : acc.toDouble?.isSome = true) :
      ∃ total, ns.foldlM add? acc = some total := by
    induction ns generalizing acc with
    | nil => exact ⟨acc, rfl⟩
    | cons n ns ih =>
      obtain ⟨d, rfl⟩ := measured n (.head _)
      obtain ⟨v, told⟩ := Option.isSome_iff_exists.mp finite
      have sum : add? acc (.float d) = some (.float (v.add d)) := by
        cases acc <;> simp_all [add?, toDouble?]
      rw [List.foldlM_cons, sum]
      exact ih (fun n mem => measured n (.tail _ mem)) _ rfl
  exact go (.int 0) (by decide)

namespace JobSummary

/-- A summary says how a job ended. Of a failed job it names the step at which the job failed, with
the error that was recorded for this step, or the code with which the step ended; of any other job
it names neither a step nor an error. -/
structure Explains (s : JobSummary) (r : JobResult) : Prop where
  covers : s.Covers r.subject
  status : s.status = r.status
  stepsRun : s.stepsRun = r.steps.length
  failure : r.status = .failure → ∃ (k : Nat) (last : StepResult),
    s.failedAt = some (k : Int) ∧ s.stepsRun = k + 1 ∧ r.steps[k]? = some last ∧
    r.subject.steps[k]? = some last.step ∧ s.failedStep = some last.step.label ∧
    ((∃ e, last.error = some e ∧ s.error = some e) ∨
      last.error = none ∧ ∃ n : Int, last.code = some n ∧ s.error = some ("exit " ++ toString n))
  other : r.status ≠ .failure → s.failedAt = none ∧ s.failedStep = none ∧ s.error = none

theorem errorOf_failure {r : JobResult} {last : StepResult} (failed : r.status = .failure)
    (ends : r.steps.getLast? = some last) (bad : last.status = .failure)
    (accounted : last.Accounted) : (∃ e, last.error = some e ∧ errorOf r = some e) ∨
      last.error = none ∧ ∃ n : Int, last.code = some n ∧
        errorOf r = some ("exit " ++ toString n) := by
  rcases accounted.failure bad with ⟨e, error, nonempty⟩ | ⟨error, n, code⟩
  · exact .inl ⟨e, error, by simp [errorOf, failed, ends, error, nonempty]⟩
  · have shown : last.codeValue.display = toString n := by
      rw [StepResult.codeValue, code]
      rfl
    exact .inr ⟨error, n, code, by simp [errorOf, failed, ends, error, shown]⟩

theorem exists_explains {r : JobResult} (located : r.Located)
    (accounted : ∀ s ∈ r.steps, s.Accounted) : ∃ s, ofResult r = .ok s ∧ s.Explains r := by
  obtain ⟨total, sum⟩ : ∃ total, Number.sum? (r.steps.map StepResult.duration) = some total := by
    refine Number.sum?_measured fun n mem => ?_
    obtain ⟨s, own, rfl⟩ := List.mem_map.mp mem
    exact (accounted s own).duration
  unfold ofResult
  rw [sum]
  rcases located with ⟨failed, k, last, failedAt, length, at_, bad, step⟩ | ⟨fine, failedAt⟩
  · have found : r.failedStep = .ok (some last.step) := by
      simp [JobResult.failedStep, failedAt, JobResult.itemAt?, step]
    have ends : r.steps.getLast? = some last := by
      rw [List.getLast?_eq_getElem?, length]
      exact at_
    have error := errorOf_failure failed ends bad (accounted last (List.mem_of_getElem? at_))
    rw [found]
    exact ⟨_, rfl, ⟨rfl, rfl, rfl, rfl, rfl⟩, rfl, rfl,
      fun _ => ⟨k, last, failedAt, length, at_, step, rfl, error⟩, fun fine => absurd failed fine⟩
  · have found : r.failedStep = .ok none := by simp [JobResult.failedStep, failedAt]
    have error : errorOf r = none := by simp [errorOf, fine]
    rw [found]
    exact ⟨_, rfl, ⟨rfl, rfl, rfl, rfl, rfl⟩, rfl, rfl, fun failed => absurd failed fine,
      fun _ => ⟨failedAt, rfl, error⟩⟩

end JobSummary

theorem Pool.Run.explains {x : Executor} {instances : List Instance} {token : Bool}
    {acts : List Action} {q : Pool} {jobs : List JobResult} {job : JobResult}
    (h : Run x (ofInstances instances token) acts q) (results : q.results? = some jobs)
    (measured : ∀ i out err d, .lane i (.leave out err d) ∈ acts → ∃ v, d = .float v)
    (mem : job ∈ jobs) : ∃ s, JobSummary.ofResult job = .ok s ∧ s.Explains job := by
  obtain ⟨i, at_⟩ := List.mem_iff_getElem?.mp mem
  obtain ⟨length, lanes⟩ := h.job results
  have inside : i < instances.length := length ▸ (List.getElem?_eq_some_iff.mp at_).1
  obtain ⟨r, l, at_', closed, lane⟩ := lanes i _ (List.getElem?_eq_getElem inside)
  obtain rfl : job = r := Option.some.inj (at_.symm.trans at_')
  refine JobSummary.exists_explains (lane.located closed) ?_
  rw [Lane.result_steps closed]
  exact lane.accounted (fun c out err d mem => measured i out err d (mem_moves mem)) (by simp)

theorem mapM_ok_of_forall {α β ε : Type} {f : α → Except ε β} {R : β → α → Prop} {xs : List α}
    (each : ∀ x ∈ xs, ∃ y, f x = .ok y ∧ R y x) :
    ∃ ys, xs.mapM f = .ok ys ∧ List.Forall₂ R ys xs := by
  induction xs with
  | nil => exact ⟨[], rfl, .nil⟩
  | cons x xs ih =>
    obtain ⟨y, own, here⟩ := each x (.head _)
    obtain ⟨ys, rest, there⟩ := ih fun x mem => each x (.tail _ mem)
    refine ⟨y :: ys, ?_, .cons here there⟩
    rw [mapM_eq_ok_iff] at rest ⊢
    simp [own, rest]

namespace Report

open History (byIndex byIndex_perm byIndex_rising mergeSort_perm_eq)

theorem ofRun_perm {jobs jobs' : List JobResult} (perm : jobs'.Perm jobs) (cancelled : Bool)
    (distinct : (jobs.map fun j => j.subject.index).Nodup) :
    ofRun { jobs := jobs', cancelled } = ofRun { jobs, cancelled } := by
  have sorted : byIndex jobs = byIndex jobs' :=
    mergeSort_perm_eq perm.symm fun a mem b mem' same =>
      List.inj_on_of_nodup_map distinct mem mem' same
  have outcome : RunResult.outcome { jobs := jobs', cancelled } =
      RunResult.outcome { jobs, cancelled } := by
    simp only [RunResult.outcome, perm.all_eq]
  unfold byIndex at sorted
  simp only [ofRun, outcome, sorted]

theorem exists_ofRun {jobs : List JobResult} (cancelled : Bool)
    (distinct : (jobs.map fun j => j.subject.index).Nodup)
    (each : ∀ job ∈ jobs, ∃ s, JobSummary.ofResult job = .ok s ∧ s.Explains job) :
    ∃ report, ofRun { jobs, cancelled } = .ok report ∧
      report.overall = RunResult.outcome { jobs, cancelled } ∧
      List.Forall₂ JobSummary.Explains report.jobs (byIndex jobs) ∧
      report.jobs.Pairwise fun a b => a.index < b.index := by
  obtain ⟨summaries, summed, explained⟩ := mapM_ok_of_forall fun job mem =>
    each job ((byIndex_perm jobs).mem_iff.mp mem)
  refine ⟨{ overall := _, jobs := summaries, cancelled }, ?_, rfl, explained, ?_⟩
  · exact bind_eq_ok_iff.mpr ⟨summaries, summed, rfl⟩
  · have indices : summaries.map (·.index) = (byIndex jobs).map fun j => j.subject.index := by
      rw [← List.forall₂_eq_eq_eq, List.forall₂_map_left_iff, List.forall₂_map_right_iff]
      exact explained.imp fun _ _ e => e.covers.index
    rw [← List.pairwise_map (f := fun s : JobSummary => s.index) (R := (· < ·)), indices]
    exact List.pairwise_map.mpr (byIndex_rising distinct)

/-- A run of instances with distinct indices has one report, in whatever order its results are
given. The summaries rise by index, there is one for each job, and it explains how the job ended.
The run fails exactly when some job is not a success. -/
theorem run_has_one_report {x : Executor} {instances : List Instance} {token : Bool}
    {acts : List Action} {q : Pool} {jobs : List JobResult}
    (run : Pool.Run x (.ofInstances instances token) acts q) (results : q.results? = some jobs)
    (distinct : (instances.map Instance.index).Nodup)
    (measured : ∀ i out err d, .lane i (.leave out err d) ∈ acts → ∃ v, d = .float v) :
    ∃ report,
      (∀ jobs', jobs'.Perm jobs → ofRun { q.resultOf jobs with jobs := jobs' } = .ok report) ∧
      (report.jobs.Pairwise fun a b => a.index < b.index) ∧
      (∃ order, order.Perm jobs ∧ List.Forall₂ JobSummary.Explains report.jobs order) ∧
      (report.overall = .failure ↔ ∃ job ∈ jobs, job.status ≠ .success) := by
  have apart : (jobs.map fun j => j.subject.index).Nodup := by
    rw [← run.subjects results, List.map_map] at distinct
    exact distinct
  obtain ⟨report, made, overall, explained, rising⟩ :=
    exists_ofRun (q.resultOf jobs).cancelled apart fun job => run.explains results measured
  refine ⟨report, fun jobs' perm => (ofRun_perm perm _ apart).trans made, rising,
    ⟨byIndex jobs, byIndex_perm jobs, explained⟩, ?_⟩
  rw [overall]
  simp [RunResult.outcome, JobResult.ok]

/-- Two instances, the second of which has the lower index: the first fails with code 2 in its
second step, and the second is not begun. -/
theorem run_has_one_report_out_of_order :
    let step : Step := { command := .line "make" }
    let last : Instance :=
      { template := .text "job", index := 7, bindings := [], steps := [step, step], env := [] }
    let first : Instance :=
      { template := .text "job", index := 3, bindings := [], steps := [step], env := [] }
    let acts : List Action := [.lane 0 (.pick 0), .lane 0 (.look 0), .lane 0 (.launch .started),
      .lane 0 (.exit 0), .lane 0 (.leave "" "" (.float .zero)), .lane 0 (.look 1),
      .lane 0 (.launch .started), .lane 0 (.exit 2), .lane 0 (.leave "" "" (.float .zero)), .cancel,
      .lane 1 (.pick 2), .take 1, .store, .take 0, .store]
    ∃ q jobs report, Pool.Run {} (.ofInstances [last, first]) acts q ∧ q.results? = some jobs ∧
      jobs.map JobResult.status = [.failure, .cancelled] ∧
      (∀ jobs', jobs'.Perm jobs → ofRun { q.resultOf jobs with jobs := jobs' } = .ok report) ∧
      report.jobs.length = 2 ∧ (report.jobs.Pairwise fun a b => a.index < b.index) ∧
      report.overall = .failure := by
  intro step last first acts
  have ended : (((Pool.ofInstances [last, first]).after? {} acts).bind fun q =>
      q.results?.map fun jobs => jobs.map JobResult.status) = some [.failure, .cancelled] := by
    decide +kernel
  obtain ⟨q, after, ended⟩ := Option.bind_eq_some_iff.mp ended
  obtain ⟨jobs, results, statuses⟩ := Option.map_eq_some_iff.mp ended
  have run := Pool.run_of_after? after
  obtain ⟨report, made, rising, ⟨order, perm, explained⟩, failed⟩ :=
    run_has_one_report run results (by decide) fun i out err d mem => by
      obtain ⟨-, -, -, rfl⟩ : i = 0 ∧ out = "" ∧ err = "" ∧ d = .float .zero := by
        simpa [acts] using mem
      exact ⟨_, rfl⟩
  have count : report.jobs.length = 2 := by
    rw [explained.length_eq, perm.length_eq, ← List.length_map JobResult.status, statuses]
    rfl
  obtain ⟨job, mem, status⟩ : ∃ job ∈ jobs, job.status = .failure :=
    List.mem_map.mp (statuses ▸ .head _)
  exact ⟨q, jobs, report, run, results, statuses, made, count, rising,
    failed.mpr ⟨job, mem, status ▸ nofun⟩⟩

end Report

end JobMatrix
