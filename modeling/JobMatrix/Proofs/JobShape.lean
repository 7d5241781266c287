import JobMatrix.Proofs.Lane

/-! The shape of a job's result: the recorded steps are a run of successes from the first step on,
after which at most one step has failed or was cancelled, and the status of the job says which. Main
statement: a job that runs by itself has a result of this shape, whatever comes of its steps and
whenever the token is cancelled. -/

namespace JobMatrix

/-- The status of the recorded step at a position. -/
def JobResult.statusAt? (r : JobResult) (k : Nat) : Option Status :=
  r.steps[k]?.map StepResult.status

/-- The shape of the result of a job. -/
structure JobResult.WellShaped (r : JobResult) : Prop where
  /-- The result at a position is that of the step at this position. -/
  placed : ∀ (k : Nat) (s : StepResult), r.steps[k]? = some s →
    s.index = k ∧ r.subject.steps[k]? = some s.step
  /-- A success: every step has succeeded. -/
  success : r.status = .success ↔ ∀ k < r.subject.steps.length, r.statusAt? k = some .success
  /-- A failure: the last recorded step is the one that failed, and all before it succeeded. -/
  failure : r.status = .failure ↔ ∃ i : Nat, r.failedAt = some (i : Int) ∧
    r.steps.length = i + 1 ∧ (∀ k < i, r.statusAt? k = some .success) ∧
    r.statusAt? i = some .failure
  /-- A cancelled job: some steps, but not all, have succeeded, and after them at most one was
  cancelled. -/
  cancelled : r.status = .cancelled ↔ ∃ j < r.subject.steps.length,
    (∀ k < j, r.statusAt? k = some .success) ∧
    (r.steps.length = j ∨ r.steps.length = j + 1 ∧ r.statusAt? j = some .cancelled)
  /-- Only a failure has a place. -/
  failedAt : r.failedAt.isSome = true → r.status = .failure

namespace Lane

theorem AllOk.status {rs : List StepResult} (ok : AllOk rs) {k : Nat} (inside : k < rs.length) :
    rs[k]?.map StepResult.status = some .success := by
  rw [List.getElem?_eq_getElem inside]
  exact congrArg some (ok _ (List.getElem_mem inside))

theorem AllOk.status_append {rs : List StepResult} (ok : AllOk rs) (r : StepResult) {k : Nat}
    (inside : k < rs.length) : (rs ++ [r])[k]?.map StepResult.status = some .success := by
  rw [List.getElem?_append_left inside]
  exact ok.status inside

theorem status_last (rs : List StepResult) (r : StepResult) :
    (rs ++ [r])[rs.length]?.map StepResult.status = some r.status := by
  simp

theorem Begun.wellShaped {l : Lane} {ds : List Deed} (begun : l.Begun ds) {r : JobResult}
    (closed : l.result? = some r) : r.WellShaped := by
  obtain ⟨placed, stands⟩ := begun
  obtain ⟨i, phase, deadline, results⟩ := l
  dsimp only at placed stands
  cases stands with
  | success ok all =>
    cases closed
    refine ⟨placed, ⟨fun _ k inside => ok.status (all ▸ inside), fun _ => rfl⟩,
      ⟨nofun, nofun⟩, ⟨nofun, ?_⟩, nofun⟩
    rintro ⟨j, inside, -, short | ⟨-, status⟩⟩
    · simp only [resultAs] at short inside
      omega
    · rw [JobResult.statusAt?, resultAs, ok.status (all ▸ inside)] at status
      cases status
  | @failure rs r _ ok more status =>
    cases closed
    refine ⟨placed, ⟨nofun, fun all => ?_⟩, ⟨fun _ => ?_, fun _ => rfl⟩, ⟨nofun, ?_⟩, fun _ => rfl⟩
    · have last := all rs.length more
      rw [JobResult.statusAt?, resultAs, status_last, status] at last
      cases last
    · refine ⟨rs.length, rfl, by simp [resultAs], fun k inside => ok.status_append r inside, ?_⟩
      rw [JobResult.statusAt?, resultAs, status_last, status]
    · rintro ⟨j, -, good, long | ⟨long, last⟩⟩
      · have bad := good rs.length (by simp [resultAs] at long; omega)
        rw [JobResult.statusAt?, resultAs, status_last, status] at bad
        cases bad
      · obtain rfl : j = rs.length := by simp [resultAs] at long; omega
        rw [JobResult.statusAt?, resultAs, status_last, status] at last
        cases last
  | stopped ok more =>
    cases closed
    refine ⟨placed, ⟨nofun, fun all => ?_⟩, ⟨nofun, nofun⟩, ⟨fun _ => ?_, fun _ => rfl⟩, nofun⟩
    · have missing := all results.length more
      simp [JobResult.statusAt?, resultAs] at missing
    · exact ⟨results.length, more, fun k inside => ok.status inside, .inl rfl⟩
  | @cancelled rs r _ ok more status =>
    cases closed
    refine ⟨placed, ⟨nofun, fun all => ?_⟩, ⟨nofun, nofun⟩, ⟨fun _ => ?_, fun _ => rfl⟩, nofun⟩
    · have last := all rs.length more
      rw [JobResult.statusAt?, resultAs, status_last, status] at last
      cases last
    · refine ⟨rs.length, more, fun k inside => ok.status_append r inside, .inr ⟨?_, ?_⟩⟩
      · simp [resultAs]
      · rw [JobResult.statusAt?, resultAs, status_last, status]
  | looking | starting | running | draining | broken => cases closed

theorem mem_flawless {n k : Nat} (h : .spawned k ∈ flawless n) : k < n := by
  simpa [flawless] using h

theorem Spoilt.spawned {n k : Nat} {ds : List Deed} (h : Spoilt n ds) (mem : .spawned k ∈ ds) :
    k = n := by
  rcases h with rfl | ⟨expired, code, rfl, -⟩
  · cases mem
  · cases expired <;> simpa [lateness] using mem

/-- The steps whose processes are started are those up to the first that did not succeed. -/
theorem Begun.spawned {l : Lane} {ds : List Deed} (begun : l.Begun ds) {r : JobResult}
    (closed : l.result? = some r) {k : Nat} (mem : .spawned k ∈ ds) :
    ∀ j < k, r.statusAt? j = some .success := by
  obtain ⟨-, stands⟩ := begun
  obtain ⟨i, phase, deadline, results⟩ := l
  dsimp only at stands
  intro j before
  cases stands with
  | success ok all =>
    cases closed
    have := mem_flawless mem
    exact ok.status (by omega)
  | @failure rs r _ ok _ _ spoilt | @cancelled rs r _ ok _ _ spoilt =>
    cases closed
    refine ok.status_append r ?_
    rcases List.mem_append.mp mem with early | last
    · have := mem_flawless early
      omega
    · exact spoilt.spawned last ▸ before
  | stopped ok =>
    cases closed
    have := mem_flawless mem
    exact ok.status (by omega)
  | looking | starting | running | draining | broken => cases closed

/-- The result of a job that runs by itself has the right shape, whatever comes of its steps, under
whatever limits, and whenever the token is cancelled; and no process of a step is started unless all
steps before it have succeeded. -/
theorem job_result_shape {x : Executor} {i : Instance} {c : Bool} {now : Rat}
    {moves : List (Bool × Move)} {l : Lane} {r : JobResult}
    (run : Run x { subject := i } ((c, .begin now) :: moves) l) (closed : l.result? = some r) :
    r.subject = i ∧ r.WellShaped ∧
      ∀ k, .spawned k ∈ deeds x { subject := i } ((c, .begin now) :: moves) →
        ∀ j < k, r.statusAt? j = some .success := by
  have subject : r.subject = i := (result_subject closed).trans run.subject
  cases run with
  | cons first rest =>
    have begun := rest.begun (begun_of_start rfl rfl (.inl rfl) (advances_of_advance first))
    refine ⟨subject, begun.wellShaped closed, fun k mem => begun.spawned closed ?_⟩
    simpa [deeds, deedsOf, first] using mem

/-- A job of two steps whose token is cancelled while the process of the second runs. -/
theorem job_result_shape_cancelled :
    let step : Step := { command := .line "true" }
    let i : Instance :=
      { template := .text "job", index := 0, bindings := [], steps := [step, step], env := [] }
    let moves : List (Bool × Move) := [(false, .look 0), (false, .launch .started),
      (false, .exit 0), (false, .leave "" "" (.int 0)), (false, .look 0), (false, .launch .started),
      (true, .exit (-9)), (true, .leave "" "" (.int 0))]
    ∃ l r, Run {} { subject := i } ((false, .begin 0) :: moves) l ∧ l.result? = some r ∧
      r.status = .cancelled ∧ r.steps.length = 2 ∧ r.WellShaped := by
  intro step i moves
  have run : ∃ l r, Run {} { subject := i } ((false, .begin 0) :: moves) l ∧ l.result? = some r ∧
      r.status = .cancelled ∧ r.steps.length = 2 :=
    ⟨_, _, .cons rfl <| .cons rfl <| .cons rfl <| .cons rfl <| .cons rfl <| .cons rfl <|
      .cons rfl <| .cons rfl <| .cons rfl <| .nil _, rfl, rfl, rfl⟩
  obtain ⟨l, r, run, closed, status, length⟩ := run
  exact ⟨l, r, run, closed, status, length, (job_result_shape run closed).2.1⟩

end Lane

end JobMatrix
