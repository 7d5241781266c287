import JobMatrix.Report
import JobMatrix.Proofs.Dict
import JobMatrix.Proofs.Expansion

/-! The report of a run: a summary for each job, in the order of their indices, and a verdict that
is good exactly when all jobs have succeeded. -/

namespace JobMatrix

/-- A summary is that of an instance. -/
structure JobSummary.Covers (s : JobSummary) (i : Instance) : Prop where
  id : s.id = i.id
  name : s.name = i.displayName
  index : s.index = i.index
  bindings : s.bindings = i.bindings
  stepsTotal : s.stepsTotal = i.steps.length

theorem JobSummary.covers_of_result {r : JobResult} {s : JobSummary} (h : ofResult r = .ok s) :
    s.Covers r.subject := by
  obtain ⟨failed, -, h⟩ := bind_eq_ok_iff.mp h
  dsimp only at h
  split at h
  · cases h
    exact ⟨rfl, rfl, rfl, rfl, rfl⟩
  · cases h

namespace Report

/-- An instance has one summary in a report. -/
def ListsOnce (r : Report) (i : Instance) : Prop :=
  ∃! k : Nat, ∃ s, r.jobs[k]? = some s ∧ s.Covers i

theorem exitCode_eq_zero_iff (r : Report) : r.exitCode = 0 ↔ r.overall = .success := by
  simp [exitCode]

theorem outcome_eq_success_iff (r : RunResult) :
    r.outcome = .success ↔ ∀ job ∈ r.jobs, job.status = .success := by
  simp [RunResult.outcome, JobResult.ok]

theorem ofRun_numbered {r : RunResult} {instances : List Instance}
    (numbered : Numbered 0 instances) (subjects : r.jobs.map JobResult.subject = instances) :
    ofRun r = do
      return { overall := r.outcome, jobs := ← r.jobs.mapM JobSummary.ofResult
               cancelled := r.cancelled } := by
  have index (k : Nat) (inside : k < r.jobs.length) : r.jobs[k].subject.index = k := by
    have := numbered k r.jobs[k].subject (by simp [← subjects, inside])
    omega
  unfold ofRun
  rw [List.mergeSort_of_pairwise]
  refine List.pairwise_iff_getElem.mpr fun a b ha hb before => ?_
  simp only [index, decide_eq_true_eq]
  omega

theorem ofRun_ok {r : RunResult} {report : Report} {instances : List Instance}
    (numbered : Numbered 0 instances) (subjects : r.jobs.map JobResult.subject = instances)
    (h : ofRun r = .ok report) :
    report.overall = r.outcome ∧ r.jobs.map JobSummary.ofResult = report.jobs.map .ok := by
  rw [ofRun_numbered numbered subjects] at h
  obtain ⟨jobs, summed, h⟩ := bind_eq_ok_iff.mp h
  cases h
  exact ⟨rfl, mapM_eq_ok_iff.mp summed⟩

theorem listsOnce_of_numbered {r : RunResult} {report : Report} {instances : List Instance}
    (numbered : Numbered 0 instances) (subjects : r.jobs.map JobResult.subject = instances)
    (h : ofRun r = .ok report) :
    report.jobs.length = instances.length ∧ ∀ i ∈ instances, report.ListsOnce i := by
  have summed := (ofRun_ok numbered subjects h).2
  have length : report.jobs.length = instances.length := by
    simpa [← subjects] using (congrArg List.length summed).symm
  have covers : ∀ (k : Nat) (s : JobSummary), report.jobs[k]? = some s →
      ∃ i, instances[k]? = some i ∧ s.Covers i := by
    intro k s at_
    have here := congrArg (·[k]?) summed
    simp only [List.getElem?_map, at_, Option.map_some, Option.map_eq_some_iff] at here
    obtain ⟨job, found, result⟩ := here
    exact ⟨job.subject, by simp [← subjects, found], JobSummary.covers_of_result result⟩
  refine ⟨length, fun i mem => ?_⟩
  obtain ⟨k, at_⟩ := List.mem_iff_getElem?.mp mem
  have inside : k < report.jobs.length := length ▸ (List.getElem?_eq_some_iff.mp at_).1
  refine ⟨k, ⟨_, List.getElem?_eq_getElem inside, ?_⟩, ?_⟩
  · obtain ⟨j, at_', covered⟩ := covers k _ (List.getElem?_eq_getElem inside)
    obtain rfl : i = j := by simpa using at_.symm.trans at_'
    exact covered
  · rintro k' ⟨s, there, covered⟩
    obtain ⟨j, at_', covered'⟩ := covers k' s there
    have own := numbered k i at_
    have other := numbered k' j at_'
    have same := covered.index.symm.trans covered'.index
    omega

end Report

end JobMatrix
