import JobMatrix.Proofs.Pool

/-! The end of a run by a failure. Main statement: without a cancellation from outside, a run counts
as cancelled exactly when a failure is to end it and a job has failed, and no job is cancelled
unless another has failed. -/

namespace JobMatrix

namespace Lane

variable {c : Bool} {l : Lane}

theorem unstarted?_cancelled {s : Step} {how : Launch} {a : Attempt} {k : Int}
    (h : unstarted? c s how = some a) (stopped : (a.result s k).status = .cancelled) :
    c = true := by
  cases c with
  | true => rfl
  | false =>
    cases how <;> simp only [unstarted?, Option.some.injEq, reduceCtorEq, Bool.false_eq_true,
      if_false] at h <;> subst h <;> cases stopped

theorem ending_cancelled {s : Step} {limit : Option Limit} {expired : Bool} {o : Output} {k : Int}
    (stopped : ((ending c s limit expired o).result s k).status = .cancelled) : c = true := by
  have judged := Attempt.ofEnding_judged s o (if expired then limit.map Limit.text else none) c
  unfold ending at stopped
  generalize Attempt.ofEnding s o (if expired then limit.map Limit.text else none) c = a
    at judged stopped
  cases judged with
  | finished | failed => cases stopped
  | cancelled _ _ token => exact token

theorem record_closed_cancelled {r : StepResult} {k : Option Int}
    (h : (l.record r).1.phase = .closed .cancelled k) : r.status = .cancelled := by
  unfold record at h
  split at h
  · simp only [proceed_fst] at h
    split at h <;> cases h
  · next status => exact status
  · cases h

theorem Advances.token_of_cancelled {x : Executor} {l' : Lane} {m : Move}
    (h : Advances x c l m l') {k : Option Int} (closed : l'.phase = .closed .cancelled k) :
    c = true := by
  cases h with
  | refuse _ token | stop _ _ token => exact token
  | start =>
    rw [proceed_fst] at closed
    dsimp only at closed
    split at closed <;> cases closed
  | spend => cases record_closed_cancelled closed
  | unstarted _ _ attempt => exact unstarted?_cancelled attempt (record_closed_cancelled closed)
  | leave => exact ending_cancelled (record_closed_cancelled closed)
  | startFault | announce | launchFault | spawn | expire | exit => cases closed

/-- How a lane from the queue closes: as a success, as a failure of one of its steps, or
cancelled. -/
theorem FromQueue.closed {i : Instance} {ds : List Deed} {r : JobResult}
    (from_ : FromQueue i ds l) (closed : l.result? = some r) :
    r.status = .success ∨ r.status = .failure ∧ (∃ s ∈ r.steps, s.status = .failure) ∨
      r.status = .cancelled ∧ l.phase = .closed .cancelled none := by
  cases from_ with
  | queued => cases closed
  | refused =>
    cases closed
    exact .inr (.inr ⟨rfl, rfl⟩)
  | begun _ begun =>
    obtain ⟨-, stands⟩ := begun
    obtain ⟨i, phase, deadline, results⟩ := l
    dsimp only at stands
    cases stands with
    | success =>
      cases closed
      exact .inl rfl
    | @failure _ r _ _ _ status =>
      cases closed
      exact .inr (.inl ⟨rfl, r, by simp [resultAs], status⟩)
    | stopped | cancelled =>
      cases closed
      exact .inr (.inr ⟨rfl, rfl⟩)
    | looking | starting | running | draining | broken => cases closed

end Lane

namespace Pool

variable {x : Executor} {q : Pool} {instances : List Instance} {c : Bool} {acts : List Action}
  {i : Nat}

theorem Applies.token_of_cancelled {p : Pool} {a : Action} (h : Applies x p a q)
    (before : ∀ (i : Nat) (l : Lane), p.lanes[i]? = some l → l.phase = .closed .cancelled none →
      p.cancelled = true) :
    ∀ (i : Nat) (l : Lane), q.lanes[i]? = some l → l.phase = .closed .cancelled none →
      q.cancelled = true := by
  intro i l found closed
  have inside : i < p.lanes.length := h.lanes_length ▸ (List.getElem?_eq_some_iff.mp found).1
  rcases h.at_lane (List.getElem?_eq_getElem inside) with
    ⟨m, l', es, -, moved, found'⟩ | ⟨-, found'⟩
  · obtain rfl : l = l' := by simpa using found.symm.trans found'
    exact h.cancelled ((Lane.advances_of_advance moved).token_of_cancelled closed)
  · obtain rfl : l = p.lanes[i] := by simpa using found.symm.trans found'
    exact h.cancelled (before i _ (List.getElem?_eq_getElem inside) closed)

theorem Run.token_of_cancelled (h : Run x (ofInstances instances c) acts q) {l : Lane}
    (found : q.lanes[i]? = some l) (closed : l.phase = .closed .cancelled none) :
    q.cancelled = true := by
  refine h.keeps (P := fun p => ∀ (i : Nat) (l : Lane), p.lanes[i]? = some l →
    l.phase = .closed .cancelled none → p.cancelled = true) ?_ Applies.token_of_cancelled i l found
    closed
  intro i l found closed
  obtain ⟨inst, -, rfl⟩ : ∃ inst, instances[i]? = some inst ∧ ({ subject := inst } : Lane) = l := by
    simpa [ofInstances] using found
  cases closed

theorem Run.token_of_failure (h : Run x (ofInstances instances c) acts q)
    (failFast : x.failFast = true) {r : JobResult} (stored : Dict.get? q.stored i = some r)
    (failed : r.status = .failure) : q.cancelled = true := by
  refine h.keeps (P := fun p => ∀ i r, Dict.get? p.stored i = some r → r.status = .failure →
    p.cancelled = true) (by simp [ofInstances, Dict.get?]) ?_ i r stored failed
  intro p a q applies before i r stored failed
  cases applies with
  | lane | take => exact before i r stored failed
  | takeFault | cancel | interrupt => rfl
  | @store j s hand =>
    rw [Dict.get?_put] at stored
    split at stored
    · cases stored
      simp [failFast, failed]
    · simp [before i r stored failed]

theorem Run.failed_job {jobs : List JobResult} (h : Run x (ofInstances instances) acts q)
    (quiet : ∀ a ∈ acts, a ≠ .cancel ∧ a ≠ .interrupt) (results : q.results? = some jobs)
    (set : q.cancelled = true) : x.failFast = true ∧
      ∃ (j : Nat) (other : JobResult), jobs[j]? = some other ∧ other.status = .failure := by
  obtain ⟨failFast, j, l, r, found, closed, failed⟩ := h.cancelled_cause
    (kept_ofInstances instances false) quiet (h.kept.sound results) rfl set
  obtain ⟨r', given, closed'⟩ := h.kept.job results found
  obtain rfl : r = r' := by simpa using closed.symm.trans closed'
  exact ⟨failFast, j, r, given, failed⟩

/-- How a job of a run ends: as a success, as a failure of one of its steps, or cancelled, which it
cannot be before the token is set. -/
theorem Run.job_closed {jobs : List JobResult} (h : Run x (ofInstances instances c) acts q)
    (results : q.results? = some jobs) {job : JobResult} (given : jobs[i]? = some job) :
    job.status = .success ∨ job.status = .failure ∧ (∃ s ∈ job.steps, s.status = .failure) ∨
      job.status = .cancelled ∧ q.cancelled = true := by
  obtain ⟨l, found, closed⟩ := h.kept i job (.inr (results?_stored results given))
  obtain ⟨inst, ds, from_⟩ := h.fromQueue found
  rcases from_.closed closed with good | bad | ⟨stopped, phase⟩
  · exact .inl good
  · exact .inr (.inl bad)
  · exact .inr (.inr ⟨stopped, h.token_of_cancelled found phase⟩)

/-- Without a cancellation from outside, a run that comes to its end counts as cancelled exactly
when a failure is to end it and a job has failed; a job is cancelled only if another has failed; and
a run in which no step fails is a success in all of its jobs. -/
theorem failFast_accounts_for_cancellation {x : Executor} {instances : List Instance}
    {acts : List Action} {q : Pool} {jobs : List JobResult}
    (run : Run x (ofInstances instances) acts q)
    (quiet : ∀ a ∈ acts, a ≠ .cancel ∧ a ≠ .interrupt) (results : q.results? = some jobs) :
    ((q.resultOf jobs).cancelled = true ↔
      x.failFast = true ∧ ∃ job ∈ jobs, job.status = .failure) ∧
    (∀ (i : Nat) (job : JobResult), jobs[i]? = some job → job.status = .cancelled →
      x.failFast = true ∧
        ∃ (j : Nat) (other : JobResult), j ≠ i ∧ jobs[j]? = some other ∧ other.status = .failure) ∧
    ((∀ job ∈ jobs, ∀ s ∈ job.steps, s.status ≠ .failure) →
      ∀ job ∈ jobs, job.status = .success) := by
  refine ⟨⟨fun set => ?_, ?_⟩, fun i job given cancelled => ?_, fun clean => ?_⟩
  · obtain ⟨token, -⟩ : q.cancelled = true ∧ jobs ≠ [] := by simpa [resultOf] using set
    obtain ⟨failFast, j, other, given, failed⟩ := run.failed_job quiet results token
    exact ⟨failFast, other, List.mem_of_getElem? given, failed⟩
  · rintro ⟨failFast, job, mem, failed⟩
    obtain ⟨i, given⟩ := List.mem_iff_getElem?.mp mem
    have token := run.token_of_failure failFast (results?_stored results given) failed
    simpa [resultOf, token] using List.ne_nil_of_mem mem
  · have token : q.cancelled = true := by
      rcases run.job_closed results given with status | ⟨status, -⟩ | ⟨-, token⟩
      · simp [cancelled] at status
      · simp [cancelled] at status
      · exact token
    obtain ⟨failFast, j, other, given', failed⟩ := run.failed_job quiet results token
    refine ⟨failFast, j, other, ?_, given', failed⟩
    rintro rfl
    obtain rfl : job = other := by simpa using given.symm.trans given'
    simp [cancelled] at failed
  · -- a cancelled job is due to one that failed, and no job fails without a step that does
    have unfailed (i : Nat) (job : JobResult) (given : jobs[i]? = some job) :
        job.status ≠ .failure := by
      intro failed
      rcases run.job_closed results given with status | ⟨-, s, mem, failed'⟩ | ⟨status, -⟩
      · simp [failed] at status
      · exact clean job (List.mem_of_getElem? given) s mem failed'
      · simp [failed] at status
    intro job mem
    obtain ⟨i, given⟩ := List.mem_iff_getElem?.mp mem
    rcases run.job_closed results given with status | ⟨failed, -⟩ | ⟨-, token⟩
    · exact status
    · exact absurd failed (unfailed i job given)
    · obtain ⟨-, j, other, given', failed⟩ := run.failed_job quiet results token
      exact absurd failed (unfailed j other given')

/-- Two jobs at once: the first fails while the second is about to start its process. -/
theorem failFast_accounts_for_cancelled_sibling :
    let step : Step := { command := .line "make" }
    let one : Instance :=
      { template := .text "one", index := 0, bindings := [], steps := [step], env := [] }
    let two : Instance :=
      { template := .text "two", index := 1, bindings := [], steps := [step], env := [] }
    let x : Executor := { failFast := true }
    let acts : List Action := [.lane 0 (.pick 0), .lane 1 (.pick 0), .lane 0 (.look 0),
      .lane 0 (.launch .started), .lane 0 (.exit 1), .lane 1 (.look 0),
      .lane 0 (.leave "" "" (.int 1)), .take 0, .store, .lane 1 (.launch .started), .take 1, .store]
    ∃ q jobs, Run x (ofInstances [one, two]) acts q ∧ q.results? = some jobs ∧
      jobs.map JobResult.status = [.failure, .cancelled] ∧ (q.resultOf jobs).cancelled = true ∧
      ∃ j other, j ≠ 1 ∧ jobs[j]? = some other ∧ other.status = .failure := by
  intro step one two x acts
  have statuses : (((ofInstances [one, two]).after? x acts).bind results?).map
      (·.map JobResult.status) = some [.failure, .cancelled] := by
    decide +kernel
  obtain ⟨jobs, results, statuses⟩ := Option.map_eq_some_iff.mp statuses
  obtain ⟨q, after, results⟩ := Option.bind_eq_some_iff.mp results
  obtain ⟨job, given, cancelled⟩ : ∃ job, jobs[1]? = some job ∧ job.status = .cancelled := by
    have second := congrArg (·[1]?) statuses
    exact Option.map_eq_some_iff.mp (List.getElem?_map.symm.trans second)
  obtain ⟨whole, sibling, -⟩ :=
    failFast_accounts_for_cancellation (run_of_after? after) (by simp [acts]) results
  obtain ⟨failFast, j, other, ne, given', failed⟩ := sibling 1 job given cancelled
  exact ⟨q, jobs, run_of_after? after, results, statuses,
    whole.mpr ⟨failFast, other, List.mem_of_getElem? given', failed⟩, j, other, ne, given', failed⟩

end Pool

end JobMatrix
