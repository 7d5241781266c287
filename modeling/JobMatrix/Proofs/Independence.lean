import JobMatrix.Proofs.Pool
import JobMatrix.Proofs.Solo

/-! Instances are independent of each other. Main statement: in a run of a pool whose processes fare
as an oracle says, each instance has the result that it has by itself or was cut off before by a
cancellation, whichever the instances, their order, the number of workers and the order in which
the workers act. -/

namespace JobMatrix

namespace Lane

theorem solo_congr {x x' : Executor} (o : Oracle) (i : Instance)
    (step : x'.stepTimeout = x.stepTimeout) (job : x'.jobTimeout = x.jobTimeout) :
    solo x' o i = solo x o i := by
  have own (s : Step) : ownLimit x' s = ownLimit x s := by
    simp [ownLimit, Executor.ownTimeout, step]
  have exhausted : x'.exhausted = x.exhausted := by
    unfold Executor.exhausted
    rw [job]
  have spent (s : Step) (k : Int) : spentResult x' s k = spentResult x s k := by
    unfold spentResult
    rw [exhausted]
  have result (outcome : Outcome) (s : Step) (k : Nat) :
      soloResult x' outcome s k = soloResult x outcome s k := by
    unfold soloResult
    rw [own, spent]
  have same : track x' o i = track x o i := by simp only [track, result]
  rw [solo, solo, same]

end Lane

namespace Pool

/-- A run of a pool to its end in which the processes of all jobs fare as an oracle says. No job has
a deadline, and none can break. -/
structure Completes (o : Oracle) (x : Executor) (instances : List Instance) (token : Bool)
    (acts : List Action) (q : Pool) (jobs : List JobResult) : Prop where
  calm : ∀ inst ∈ instances, Lane.Calm x inst
  run : Run x (ofInstances instances token) acts q
  obedient : ∀ (i : Nat) (inst : Instance), instances[i]? = some inst →
    Lane.Obedient o x { subject := inst } ((ofInstances instances token).moves x i acts)
  results : q.results? = some jobs

theorem Completes.job {o : Oracle} {x : Executor} {instances : List Instance} {token : Bool}
    {acts : List Action} {q : Pool} {jobs : List JobResult}
    (h : Completes o x instances token acts q jobs) {i : Nat} {inst : Instance}
    (at_ : instances[i]? = some inst) :
    ∃ job, jobs[i]? = some job ∧ (job = Lane.solo x o inst ∨
      q.cancelled = true ∧ job.Truncates (Lane.solo x o inst)) := by
  obtain ⟨job, l, given, closed, run⟩ := (h.run.job h.results).2 i inst at_
  have tracks := run.tracks (h.calm inst (List.mem_of_getElem? at_)) (h.obedient i inst at_)
    (h.run.rising i) (Lane.tracks_queued x o _ inst)
  exact ⟨job, given, tracks.result run.fromQueue closed⟩

theorem Completes.solo {o : Oracle} {x : Executor} {instances : List Instance} {token : Bool}
    {acts : List Action} {q : Pool} {jobs : List JobResult}
    (h : Completes o x instances token acts q jobs) (unset : q.cancelled = false) {i : Nat}
    {inst : Instance} (at_ : instances[i]? = some inst) :
    jobs[i]? = some (Lane.solo x o inst) := by
  obtain ⟨job, given, same | ⟨token, -⟩⟩ := h.job at_
  · rw [given, same]
  · rw [unset] at token
    cases token

/-- Each instance has the one result that it has by itself under a token that is never set, or was
cut off before. Without a cancellation it has that result, whichever the other instances, their
order and the number of workers; and a run in which a failure does not end the others is not
cancelled unless from outside. -/
theorem instances_independent {o : Oracle} {x : Executor} {instances : List Instance}
    {token : Bool} {acts : List Action} {q : Pool} {jobs : List JobResult}
    (h : Completes o x instances token acts q jobs) :
    jobs.length = instances.length ∧
    (∀ (i : Nat) (inst : Instance), instances[i]? = some inst → ∃ whole job,
      (∀ r, Lane.Alone x o inst r ↔ r = whole) ∧ jobs[i]? = some job ∧
      (job = whole ∨ job.Truncates whole) ∧ (q.cancelled = false → job = whole)) ∧
    (x.failFast = false → token = false → (∀ a ∈ acts, a ≠ .cancel ∧ a ≠ .interrupt) →
      q.cancelled = false) ∧
    ∀ x' instances' token' acts' q' jobs', Completes o x' instances' token' acts' q' jobs' →
      x'.stepTimeout = x.stepTimeout → q.cancelled = false → q'.cancelled = false →
      ∀ (i j : Nat) (inst : Instance), instances[i]? = some inst → instances'[j]? = some inst →
        jobs[i]? = jobs'[j]? := by
  refine ⟨(h.run.job h.results).1, fun i inst at_ => ?_, fun patient unset quiet => ?_, ?_⟩
  · obtain ⟨job, given, ends⟩ := h.job at_
    refine ⟨Lane.solo x o inst, job, Lane.alone_iff o (h.calm inst (List.mem_of_getElem? at_)),
      given, ends.imp_right And.right, fun unset => ?_⟩
    rcases ends with same | ⟨token, -⟩
    · exact same
    · rw [unset] at token
      cases token
  · exact h.run.uncancelled patient quiet (h.run.kept.sound h.results) unset
  · intro x' instances' token' acts' q' jobs' h' step unset unset' i j inst at_ at_'
    have endless := (h.calm inst (List.mem_of_getElem? at_)).endless
    have endless' := (h'.calm inst (List.mem_of_getElem? at_')).endless
    rw [h.solo unset at_, h'.solo unset' at_',
      Lane.solo_congr o inst step (endless'.trans endless.symm)]

/-- The actions of a run name the moves of its lanes; the run itself sets only their tokens. -/
theorem Run.map_snd_moves {x : Executor} {p q : Pool} {acts : List Action} (h : Run x p acts q)
    (start : Pool) (i : Nat) :
    (p.moves x i acts).map Prod.snd = acts.flatMap fun a => (movesOf i start a).map Prod.snd := by
  induction h with
  | nil => rfl
  | @cons p q r a es acts first _ ih =>
    have own : (movesOf i p a).map Prod.snd = (movesOf i start a).map Prod.snd := by
      cases a <;> simp only [movesOf]
      split <;> rfl
    simp only [moves, first, List.map_append, List.flatMap_cons, own, ih]

/-- Two jobs at once where a failure ends the run: the first job fails, and by that the process of
the second step of the other is killed. The other keeps the success of its first step. -/
theorem instances_independent_failFast :
    let step : Step := { command := .line "make" }
    let one : Instance :=
      { template := .text "one", index := 0, bindings := [], steps := [step], env := [] }
    let two : Instance :=
      { template := .text "two", index := 1, bindings := [], steps := [step, step], env := [] }
    let o : Oracle := fun i _ => .ended ⟨if i.index = 0 then 1 else 0, "", "", .int 1⟩ false
    let x : Executor := { failFast := true }
    let acts : List Action := [.lane 0 (.pick 0), .lane 1 (.pick 0), .lane 1 (.look 0),
      .lane 1 (.launch .started), .lane 0 (.look 0), .lane 0 (.launch .started), .lane 1 (.exit 0),
      .lane 1 (.leave "" "" (.int 1)), .lane 0 (.exit 1), .lane 1 (.look 0),
      .lane 1 (.launch .started), .lane 0 (.leave "" "" (.int 1)), .take 0, .store,
      .lane 1 (.exit (-15)), .lane 1 (.leave "" "" (.int 0)), .take 1, .store]
    ∃ q jobs job whole, Completes o x [one, two] false acts q jobs ∧ jobs[1]? = some job ∧
      job.steps.map StepResult.status = [.success, .cancelled] ∧ Lane.Alone x o two whole ∧
      job.Truncates whole := by
  intro step one two o x acts
  have calm : ∀ inst ∈ [one, two], Lane.Calm x inst := by
    intro inst mem
    refine ⟨rfl, fun s mem' => ?_⟩
    simp only [List.mem_cons, List.not_mem_nil, or_false] at mem
    rcases mem with rfl | rfl <;> simp_all [one, two, Lane.ownLimit, Executor.ownTimeout, step, x]
  have statuses : (((ofInstances [one, two]).after? x acts).bind results?).map
      (·.map (·.steps.map StepResult.status)) = some [[.failure], [.success, .cancelled]] := by
    decide +kernel
  obtain ⟨jobs, results, statuses⟩ := Option.map_eq_some_iff.mp statuses
  obtain ⟨q, after, results⟩ := Option.bind_eq_some_iff.mp results
  obtain ⟨job, given, steps⟩ : ∃ job, jobs[1]? = some job ∧
      job.steps.map StepResult.status = [.success, .cancelled] := by
    have second := congrArg (·[1]?) statuses
    exact Option.map_eq_some_iff.mp (List.getElem?_map.symm.trans second)
  have run := run_of_after? after
  have tokens₁ : ((ofInstances [one, two]).moves x 0 acts).map Prod.fst =
      [false, false, false, false, false] := by decide +kernel
  have tokens₂ : ((ofInstances [one, two]).moves x 1 acts).map Prod.fst =
      [false, false, false, false, false, false, false, true, true] := by decide +kernel
  have moves₁ : (ofInstances [one, two]).moves x 0 acts = [(false, .pick 0), (false, .look 0),
      (false, .launch .started), (false, .exit 1), (false, .leave "" "" (.int 1))] :=
    List.zip_of_prod tokens₁ (run.map_snd_moves q 0)
  have moves₂ : (ofInstances [one, two]).moves x 1 acts = [(false, .pick 0), (false, .look 0),
      (false, .launch .started), (false, .exit 0), (false, .leave "" "" (.int 1)),
      (false, .look 0), (false, .launch .started), (true, .exit (-15)),
      (true, .leave "" "" (.int 0))] :=
    List.zip_of_prod tokens₂ (run.map_snd_moves q 1)
  have obedient : ∀ (i : Nat) (inst : Instance), [one, two][i]? = some inst →
      Lane.Obedient o x { subject := inst } ((ofInstances [one, two]).moves x i acts) := by
    intro i inst at_
    rcases i with _ | _ | i
    · cases at_
      rw [moves₁]
      exact .cons rfl trivial <| .cons rfl trivial <| .cons rfl rfl <|
        .cons rfl (.inl ⟨_, _, rfl, rfl, rfl⟩) <| .cons rfl (.inl ⟨_, rfl⟩) trivial
    · cases at_
      rw [moves₂]
      exact .cons rfl trivial <| .cons rfl trivial <| .cons rfl rfl <|
        .cons rfl (.inl ⟨_, _, rfl, rfl, rfl⟩) <| .cons rfl (.inl ⟨_, rfl⟩) <|
        .cons rfl trivial <| .cons rfl rfl <| .cons rfl (.inr ⟨rfl, rfl, by decide⟩) <|
        .cons rfl (.inr ⟨rfl, rfl, by decide⟩) trivial
    · cases at_
  have ends : Completes o x [one, two] false acts q jobs :=
    ⟨calm, run, obedient, results⟩
  obtain ⟨whole, job', alone, given', same | cut, -⟩ := (instances_independent ends).2.1 1 two rfl
  · obtain rfl : Lane.solo x o two = whole :=
      (alone _).mp ((Lane.alone_iff o (calm two (by simp)) _).mpr rfl)
    obtain rfl : job = job' := by simpa using given.symm.trans given'
    have good : (Lane.solo x o two).steps.map StepResult.status = [.success, .success] := by
      decide +kernel
    rw [← same, steps] at good
    cases good
  · obtain rfl : job = job' := by simpa using given.symm.trans given'
    exact ⟨q, jobs, job, whole, ends, given, steps, (alone whole).mpr rfl, cut⟩

end Pool

end JobMatrix
