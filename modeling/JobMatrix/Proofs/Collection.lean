import JobMatrix.Proofs.Progress

/-! The collection of results. Main statement: a pool in which no lane breaks comes to rest after a
bounded number of actions, and then it has one result for each instance, at the position of the
instance; each instance was handed to one worker, once; and an interrupt loses nothing that was
stored, whenever it comes. -/

namespace JobMatrix

namespace Lane

theorem Advances.queue {x : Executor} {c : Bool} {l l' : Lane} {m : Move}
    (h : Advances x c l m l') : l.isQueued = m.opens ∧ l'.isQueued = false := by
  have recorded (r : StepResult) : (l.record r).1.isQueued = false := by
    unfold record
    split
    · simp only [proceed_fst]
      by_cases more : l.results.length + 1 < l.subject.steps.length <;> simp [isQueued, more]
    · rfl
    · rfl
  cases h with
  | refuse phase => simp [isQueued, phase, Move.opens]
  | start phase move =>
    have opens : m.opens = true := by rcases move with rfl | ⟨rfl, -⟩ <;> rfl
    rw [proceed_fst, opens]
    by_cases more : l.results.length < l.subject.steps.length <;> simp [isQueued, phase, more]
  | startFault phase move =>
    have opens : m.opens = true := by rcases move with rfl | ⟨rfl, -⟩ <;> rfl
    simp [isQueued, phase, opens]
  | spend phase | unstarted phase | leave phase =>
    exact ⟨by simp [isQueued, phase, Move.opens], recorded _⟩
  | stop phase | announce phase | launchFault phase | spawn phase | expire phase | exit phase =>
    simp [isQueued, phase, Move.opens]

theorem Run.opens_count {x : Executor} {l l' : Lane} {moves : List (Bool × Move)}
    (h : Run x l moves l') :
    moves.countP (·.2.opens) + l'.isQueued.toNat = l.isQueued.toNat := by
  induction h with
  | nil => simp
  | @cons l l' l'' c m es moves first _ ih =>
    obtain ⟨queued, taken⟩ := (advances_of_advance first).queue
    rw [taken] at ih
    have later : moves.countP (·.2.opens) + l''.isQueued.toNat = 0 := ih
    rw [List.countP_cons, queued, Nat.add_right_comm, later]
    cases m.opens <;> rfl

end Lane

/-- Whether an action hands the instance at a position to a worker. -/
def Action.handsOver (i : Nat) : Action → Bool
  | .lane j (.pick _) => j == i
  | _ => false

namespace Pool

/-- Without jobs that begin by themselves, a lane is taken out of the queue by a worker. -/
theorem Run.handsOver_count {x : Executor} {p q : Pool} {acts : List Action} (h : Run x p acts q)
    (pooled : ∀ i now, .lane i (.begin now) ∉ acts) (i : Nat) :
    acts.countP (·.handsOver i) = (p.moves x i acts).countP (·.2.opens) := by
  induction h with
  | nil => rfl
  | @cons p q r a es acts first _ ih =>
    have rest := ih fun j now mem => pooled j now (List.mem_cons_of_mem _ mem)
    have own : (Action.handsOver i a).toNat = (movesOf i p a).countP (·.2.opens) := by
      cases a with
      | lane j m =>
        by_cases here : j = i
        · cases m with
          | begin now => exact absurd List.mem_cons_self (pooled j now)
          | pick | look | launch | expire | exit | leave =>
            simp [Action.handsOver, movesOf, here, Lane.Move.opens]
        · cases m <;> simp [Action.handsOver, movesOf, here]
      | take | store | cancel | interrupt => rfl
    simp only [moves, first, List.countP_cons, List.countP_append, ← rest, ← own]
    cases Action.handsOver i a <;> simp
    omega

theorem Run.rest {x : Executor} {p q r : Pool} {before after : List Action}
    (h : Run x p before q) (k : Run x p (before ++ after) r) : Run x q after r := by
  induction h with
  | nil => exact k
  | cons first _ ih =>
    cases k with
    | cons first' k =>
      obtain ⟨rfl, -⟩ := Prod.mk.inj (Option.some.inj (first.symm.trans first'))
      exact ih k

theorem Run.cancelled {x : Executor} {p q : Pool} {acts : List Action} (h : Run x p acts q)
    (set : p.cancelled = true) : q.cancelled = true :=
  h.keeps (P := fun p => p.cancelled = true) set Applies.cancelled

theorem Run.cancelled_of_interrupt {x : Executor} {p q : Pool} {acts : List Action}
    (h : Run x p acts q) (mem : .interrupt ∈ acts) : q.cancelled = true := by
  induction h with
  | nil => cases mem
  | @cons p q r a es acts first rest ih =>
    rcases List.mem_cons.mp mem with rfl | later
    · cases applies_of_apply first with
      | interrupt => exact rest.cancelled rfl
    · exact ih later

/-- What was stored at some time is the result in the end: the lane had closed by then. -/
theorem Run.stored_kept {x : Executor} {instances : List Instance} {c : Bool}
    {before after : List Action} {p q : Pool} {jobs : List JobResult}
    (h : Run x (ofInstances instances c) (before ++ after) q)
    (first : Run x (ofInstances instances c) before p) (results : q.results? = some jobs) {i : Nat}
    {job : JobResult} (stored : Dict.get? p.stored i = some job) : jobs[i]? = some job := by
  obtain ⟨l, found, closed⟩ := first.kept i job (.inr stored)
  have last := (first.rest h).stays found (Lane.isOver_of_result closed)
  obtain ⟨r, given, closed'⟩ := h.kept.job results last
  rw [given, ← closed, closed']

/-- No result is lost, none is doubled and none is misplaced. A run has a bounded number of actions,
outside cancellations apart; it rests exactly when all results are there; and then there are as many
as instances, each at the position of its instance, which one worker has taken once. What was stored
at any time, so before an interrupt, is among them unchanged, and after an interrupt the run counts
as cancelled. -/
theorem every_result_collected_in_place {x : Executor} {instances : List Instance} {token : Bool}
    {acts : List Action} {q : Pool} (run : Run x (ofInstances instances token) acts q)
    (pooled : ∀ i now, .lane i (.begin now) ∉ acts)
    (sound : ∀ l ∈ q.lanes, ∀ f, l.phase ≠ .broken f) :
    acts.countP (!·.isCancel) ≤ (ofInstances instances token).toGo ∧
    (q.Rests x ↔ ∃ jobs, q.results? = some jobs) ∧
    ∀ jobs, q.results? = some jobs →
      jobs.length = instances.length ∧
      (∀ (i : Nat) (inst : Instance), instances[i]? = some inst →
        (∃ job, jobs[i]? = some job ∧ job.subject = inst) ∧ acts.countP (·.handsOver i) = 1) ∧
      (∀ before after p, acts = before ++ after → Run x (ofInstances instances token) before p →
        ∀ i job, Dict.get? p.stored i = some job → jobs[i]? = some job) ∧
      (instances ≠ [] → .interrupt ∈ acts → (q.resultOf jobs).cancelled = true) := by
  have bound := run.toGo_le ⟨by simp [ofInstances], by simp [ofInstances]⟩
  refine ⟨by omega, run.rests_iff sound, fun jobs results => ?_⟩
  obtain ⟨length, each⟩ := run.job results
  refine ⟨length, fun i inst at_ => ?_, ?_, fun some_ mem => ?_⟩
  · obtain ⟨job, l, given, closed, lane⟩ := each i inst at_
    refine ⟨⟨job, given, (Lane.result_subject closed).trans lane.subject⟩, ?_⟩
    have count := lane.opens_count
    have out : l.isQueued = false := by
      rcases Lane.phase_of_isOver (Lane.isOver_of_result closed) with ⟨_, _, phase⟩ | ⟨_, phase⟩
      · simp [Lane.isQueued, phase]
      · simp [Lane.isQueued, phase]
    rw [out] at count
    rw [run.handsOver_count pooled]
    exact count
  · rintro before after p rfl first i job stored
    exact run.stored_kept first results stored
  · have nonempty : jobs ≠ [] := by
      rintro rfl
      exact some_ (List.length_eq_zero_iff.mp length.symm)
    simp [resultOf, run.cancelled_of_interrupt mem, nonempty]

/-- Two jobs on one worker: the interrupt comes while the collector has the result of the second in
its hand. The result is taken again, and that of the first stays as it was stored. -/
theorem every_result_collected_in_place_interrupted :
    let step : Step := { command := .line "make" }
    let one : Instance :=
      { template := .text "one", index := 0, bindings := [], steps := [step], env := [] }
    let two : Instance :=
      { template := .text "two", index := 1, bindings := [], steps := [step], env := [] }
    let x : Executor := { maxWorkers := some 1 }
    let job (i : Nat) : List Action := [.lane i (.pick 0), .lane i (.look 0),
      .lane i (.launch .started), .lane i (.exit 0), .lane i (.leave "" "" (.int 1)), .take i]
    let first : List Action := job 0 ++ [.store]
    let acts : List Action := first ++ (job 1 ++ [.interrupt, .take 1, .store])
    ∃ p q done jobs, Run x (ofInstances [one, two]) first p ∧
      Run x (ofInstances [one, two]) acts q ∧ q.Rests x ∧ q.results? = some jobs ∧
      Dict.get? p.stored 0 = some done ∧ jobs[0]? = some done ∧ done.status = .success ∧
      (∃ job, jobs[1]? = some job ∧ job.subject = two) ∧ acts.countP (·.handsOver 1) = 1 ∧
      (q.resultOf jobs).cancelled = true := by
  intro step one two x job first acts
  have before : (((ofInstances [one, two]).after? x first).bind fun p =>
      (Dict.get? p.stored 0).map JobResult.status) = some .success := by
    decide +kernel
  have all : ((ofInstances [one, two]).after? x acts).bind (fun q =>
      q.results?.map (·.map JobResult.status)) = some [.success, .success] := by
    decide +kernel
  obtain ⟨p, after, stored⟩ := Option.bind_eq_some_iff.mp before
  obtain ⟨done, stored, status⟩ := Option.map_eq_some_iff.mp stored
  obtain ⟨q, after', results⟩ := Option.bind_eq_some_iff.mp all
  obtain ⟨jobs, results, -⟩ := Option.map_eq_some_iff.mp results
  have run := run_of_after? after'
  have pooled : ∀ i now, .lane i (.begin now) ∉ acts := by simp [acts, first, job]
  obtain ⟨-, rests, given⟩ :=
    every_result_collected_in_place run pooled (run.kept.sound results)
  obtain ⟨-, each, kept, interrupted⟩ := given jobs results
  exact ⟨p, q, done, jobs, run_of_after? after, run, rests.mpr ⟨jobs, results⟩, results, stored,
    kept first _ p rfl (run_of_after? after) 0 done stored, status, (each 1 two rfl).1,
    (each 1 two rfl).2, interrupted (by simp) (by simp [acts])⟩

end Pool

end JobMatrix
