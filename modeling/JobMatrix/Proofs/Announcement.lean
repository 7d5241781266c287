import JobMatrix.Proofs.Verdict

/-! What observers are told of a run. Main statement: of each job they are told its whole lifecycle
in order, or nothing if it was cancelled before it began, whatever comes in between of the others;
and one who observes both the run and its jobs is told of the run before and after all of them. -/

namespace JobMatrix

namespace Pipeline

variable {M : Type} [Host M] {p : Pipeline} {event : Event} {s : Setting} {instances : List Instance}
  {machine : M} {archive : Archive} {token : Bool} {report : Report} {o : Observer}

theorem begin_notices (watched : s.observer = some o)
    (h : (p.begin event s instances machine archive token).answer = .ok (some report)) :
    Sight.notices (p.begin event s instances machine archive token).sights =
      .runStart instances.length :: (p.courseOf s instances machine token).heard ++
        [.runEnd report.overall] := by
  obtain ⟨result, _, logs, logs', announced, ⟨⟩, -, same⟩ := begin_answers h
  have line (e : LogEntry) (ss : List Sight) : Sight.notices (.log e :: ss) = Sight.notices ss := rfl
  simp [same, opening, watched, Sight.notices_append, Sight.notices_log, Observer.notices_tell, line,
    Course.heard]

/-- What is told in an execution that gives a report: first that the run starts, then what is told
along a run of the pool by which the report comes about, and then that the run is over. -/
theorem told_of_execute (watched : s.observer = some o)
    (h : (p.execute event s machine archive token).answer = .ok (some report)) :
    ∃ instances acts, p.Reports event s.executor token instances acts report ∧
      Sight.notices (p.execute event s machine archive token).sights =
        .runStart instances.length :: ((Pool.ofInstances instances token).told
          (s.executor.withDefaults p.env) acts).map (·.2) ++ [.runEnd report.overall] := by
  obtain ⟨instances, plan, answer⟩ := plan_of_execute h
  obtain ⟨starts, expanded⟩ := planFor_eq_some_iff.mp plan
  obtain ⟨result, _, -, -, -, ⟨⟩, concluded, -⟩ := begin_answers answer
  obtain ⟨ran, summed⟩ := conclusion_eq_ok_iff.mp concluded
  obtain ⟨acts, q, jobs, run, results, rfl, heard⟩ := Executor.course_told ran
  refine ⟨instances, acts, ⟨starts, expanded, q, jobs, run, results, summed⟩, ?_⟩
  have seen : (s.executorObserver <|> s.observer).isSome = true := by simp [watched]
  rw [execute_of_plan plan, Sight.notices_append, Sight.notices_log, begin_notices watched answer,
    List.nil_append]
  exact congrArg (_ :: · ++ _) (heard seen)

end Pipeline

open Pool (ofInstances toldOf)

/-- What observers are told. In every run of a pool that ends with a result for each instance, what
is told of an instance is the lifecycle of its job, with one end of a step for each result, and
nothing is told that is not of an instance. What the observer of an executor is told of its
instances is what is told along such a run; and in an execution this comes between the start and the
end of the run, of which the pipeline's observer is told. -/
theorem each_job_is_told_from_start_to_end :
    (∀ (x : Executor) (token : Bool) (instances : List Instance) (acts : List Action) (q : Pool)
      (jobs : List JobResult), Pool.Run x (ofInstances instances token) acts q →
      q.results? = some jobs →
      let told := (ofInstances instances token).told x acts
      (∀ (i : Nat) (inst : Instance), instances[i]? = some inst → ∃ job, jobs[i]? = some job ∧
        Lane.Lifecycle x inst ((ofInstances instances token).moves x i acts) job (toldOf i told) ∧
        (toldOf i told).countP Notice.isStepEnd = job.steps.length) ∧
      ∀ (i : Nat) (n : Notice), (i, n) ∈ told →
        ∃ inst, instances[i]? = some inst ∧ n.subject? = some inst) ∧
    (∀ (M : Type) [Host M] (x : Executor) (o : Observer) (machine : M) (token : Bool)
      (instances : List Instance) (given : Nat) (requests : List Request)
      (schedule : Course.Schedule) (r : RunResult),
      (x.course (some o) machine token instances given requests schedule).result = .ok r →
      ∃ acts q jobs, Pool.Run x (ofInstances instances token) acts q ∧ q.results? = some jobs ∧
        r.jobs = jobs ∧ Sight.notices
          (x.course (some o) machine token instances given requests schedule).seen =
            ((ofInstances instances token).told x acts).map (·.2)) ∧
    ∀ (M : Type) [Host M] (p : Pipeline) (event : Event) (s : Setting) (machine : M)
      (archive : Archive) (token : Bool) (report : Report) (o : Observer), s.observer = some o →
      (p.execute event s machine archive token).answer = .ok (some report) →
      ∃ instances acts, p.Reports event s.executor token instances acts report ∧
        Sight.notices (p.execute event s machine archive token).sights =
          .runStart instances.length :: ((ofInstances instances token).told
            (s.executor.withDefaults p.env) acts).map (·.2) ++ [.runEnd report.overall] := by
  refine ⟨fun x token instances acts q jobs run results => ⟨fun i inst at_ => ?_, fun i n mem => ?_⟩,
    fun M _ x o machine token instances given requests schedule r h => ?_,
    fun M _ p event s machine archive token report o watched h => Pipeline.told_of_execute watched h⟩
  · obtain ⟨job, own, lifecycle⟩ := run.lifecycle results at_
    exact ⟨job, own, lifecycle, lifecycle.count⟩
  · exact run.told_subject results mem
  · obtain ⟨acts, q, jobs, run, results, rfl, heard⟩ := Executor.course_told h
    exact ⟨acts, q, jobs, run, results, rfl, heard rfl⟩

/-- Two jobs: the time of the first is up before its second step, whose end alone is told, and the
run is cancelled before the second begins. And an execution that its observer cancels when it is told
that a job starts. -/
theorem told_of_refused_step_and_cancelled_job :
    let step : Step := { command := .line "make" }
    let one : Instance :=
      { template := .text "one", index := 0, bindings := [], steps := [step, step], env := [] }
    let two : Instance :=
      { template := .text "two", index := 1, bindings := [], steps := [step], env := [] }
    let x : Executor := { jobTimeout := some (.int 5) }
    let acts : List Action := [.lane 0 (.pick 0), .lane 0 (.look 0), .lane 0 (.launch .started),
      .lane 0 (.exit 0), .lane 0 (.leave "" "" (.int 1)), .lane 0 (.look 7), .cancel,
      .lane 1 (.pick 8), .take 0, .store, .take 1, .store]
    let told := (ofInstances [one, two]).told x acts
    let doc : Value := .object [("jobs", .object [("build", .object [
      ("steps", .list [.object [("run", .text "make")]])])])]
    let stopping : Observer := { name := "stop", react := fun n => match n with
      | .jobStart _ => { requests := [.cancel none] }
      | _ => {} }
    let s : Setting := { executor := {}, observer := some stopping, runId := "r", now := "" }
    let event : Event := { kind := "push" }
    (∃ q jobs job, Pool.Run x (ofInstances [one, two]) acts q ∧ q.results? = some jobs ∧
      jobs[0]? = some job ∧
      Lane.Lifecycle x one ((ofInstances [one, two]).moves x 0 acts) job (toldOf 0 told) ∧
      (toldOf 0 told).map Notice.name =
        ["on_job_start", "on_step_start", "on_step_end", "on_step_end", "on_job_end"] ∧
      toldOf 1 told = []) ∧
    ∃ p report instances acts, Declaration.build doc = .ok p ∧ report.overall = .failure ∧
      p.Reports event s.executor false instances acts report ∧
      Sight.notices (p.execute event s ({} : Prompt) .absent false).sights =
        .runStart instances.length :: ((ofInstances instances).told
          (s.executor.withDefaults p.env) acts).map (·.2) ++ [.runEnd .failure] := by
  intro step one two x acts told doc stopping s event
  obtain ⟨each, -, executions⟩ := each_job_is_told_from_start_to_end
  constructor
  · have ended : (((ofInstances [one, two]).after? x acts).bind Pool.results?).isSome = true := by
      decide +kernel
    obtain ⟨jobs, results⟩ := Option.isSome_iff_exists.mp ended
    obtain ⟨q, after, results⟩ := Option.bind_eq_some_iff.mp results
    have run := Pool.run_of_after? after
    obtain ⟨job, given, lifecycle, -⟩ := (each x false [one, two] acts q jobs run results).1 0 one rfl
    refine ⟨q, jobs, job, run, results, given, lifecycle, ?_, ?_⟩
    · decide +kernel
    · have none_ : (toldOf 1 told).length = 0 := by decide +kernel
      exact List.length_eq_zero_iff.mp none_
  · have outcome : outcomeOf doc event s ({} : Prompt) false = some .failure := by decide +kernel
    have mild : ∀ o ∈ s.observer, o.Mild := by
      rintro o ⟨⟩
      refine .of_silent (fun n => ?_) fun _ => rfl
      cases n <;> rfl
    obtain ⟨p, report, accepted, overall, answer⟩ := execute_of_outcome mild outcome
    obtain ⟨instances, acts, reports, told⟩ :=
      executions Prompt p event s {} .absent false report stopping rfl answer
    exact ⟨p, report, instances, acts, accepted, overall, reports, overall ▸ told⟩

end JobMatrix
