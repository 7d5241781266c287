import JobMatrix.Run.Course
import JobMatrix.Proofs.FailFast
import JobMatrix.Proofs.Progress

/-! Steps whose process cannot be started. Main statement: a job ends with a result, and each step
whose process cannot be started is a failure of the job at this step, exactly when each of its steps
can be handed to the system: it has a word, no null character stands in its words and variables, no
name of a variable has an equals sign, and it can be told whether its directory is there. Any other
step breaks the run, with all other jobs. -/

namespace JobMatrix

/-- What can be handed to the system: some words, and texts without null characters, of which the
names of variables have no equals sign. -/
theorem Course.launchFault?_eq_none_iff {words : List String} {env : Env} :
    launchFault? words env = none ↔
      words ≠ [] ∧ (∀ v ∈ env, '=' ∉ v.1.toList) ∧ (∀ w ∈ words, '\x00' ∉ w.toList) ∧
        ∀ v ∈ env, '\x00' ∉ v.1.toList ∧ '\x00' ∉ v.2.toList := by
  unfold launchFault?
  dsimp only
  split
  · next empty => simp [List.isEmpty_iff.mp empty]
  · next some_ =>
    have words_ : words ≠ [] := by simpa using some_
    split
    · next sign =>
      simp only [reduceCtorEq, false_iff, not_and]
      intro _ names
      obtain ⟨v, mem, has⟩ := List.any_eq_true.mp sign
      exact absurd (by simpa using has) (names v mem)
    · next names =>
      have names_ : ∀ v ∈ env, '=' ∉ v.1.toList := by simpa using names
      split
      · next null =>
        simp only [reduceCtorEq, false_iff, not_and]
        intro _ _ plain plain'
        rcases Bool.or_eq_true_iff.mp null with has | has
        · obtain ⟨w, mem, has⟩ := List.any_eq_true.mp has
          exact plain w mem (by simpa using has)
        · obtain ⟨v, mem, has⟩ := List.any_eq_true.mp has
          have both := plain' v mem
          simp [both.1, both.2] at has
      · next plain =>
        simp only [true_iff]
        refine ⟨words_, names_, ?_⟩
        simpa using plain

/-- A launch that is neither a result of the step nor a start, but a fault. -/
def Launch.BreaksBy (how : Launch) (f : Fault) : Prop := how = .unreadable f ∨ how = .broken f

namespace Executor

variable {x : Executor} {i : Instance} {s : Step}

/-- What can come of starting the process of a step, where the directory is looked up in one of some
file trees: it cannot be told whether the directory is there, it is not, the step cannot be handed
to the system, the system refuses it, or the process starts. -/
inductive Launches (x : Executor) (trees : FileTree → Prop) (i : Instance) (s : Step) :
    Launch → Prop
  | unreadable {tree : FileTree} {e : SystemError} (met : trees tree)
      (untold : tree.holdsDirectory [] (x.contextFor i s).cwd = .error e) :
      Launches x trees i s (.unreadable (.system e (x.contextFor i s).cwd.text))
  | noDirectory : Launches x trees i s (.noDirectory (x.contextFor i s).cwd.text)
  | broken {f : Fault}
      (fault : Course.launchFault? s.command.words (x.contextFor i s).env = some f) :
      Launches x trees i s (.broken f)
  | refused {detail : String}
      (lawful : Course.launchFault? s.command.words (x.contextFor i s).env = none) :
      Launches x trees i s (.refused detail)
  | started (lawful : Course.launchFault? s.command.words (x.contextFor i s).env = none) :
      Launches x trees i s .started

/-- A step that can be handed to the system, and whose directory can be looked up in all of the file
trees. -/
structure Startable (x : Executor) (trees : FileTree → Prop) (i : Instance) (s : Step) : Prop where
  words : s.command.words ≠ []
  names : ∀ v ∈ (x.contextFor i s).env, '=' ∉ v.1.toList
  plainWords : ∀ w ∈ s.command.words, '\x00' ∉ w.toList
  plainEnv : ∀ v ∈ (x.contextFor i s).env, '\x00' ∉ v.1.toList ∧ '\x00' ∉ v.2.toList
  readable : ∀ tree, trees tree → ∃ there,
    tree.holdsDirectory [] (x.contextFor i s).cwd = .ok there

theorem Startable.lawful {trees : FileTree → Prop} (h : x.Startable trees i s) :
    Course.launchFault? s.command.words (x.contextFor i s).env = none :=
  Course.launchFault?_eq_none_iff.mpr ⟨h.words, h.names, h.plainWords, h.plainEnv⟩

/-- A step can be started exactly when nothing that can come of it breaks its lane. -/
theorem startable_iff {trees : FileTree → Prop} :
    x.Startable trees i s ↔ ∀ how f, x.Launches trees i s how → ¬how.BreaksBy f := by
  constructor
  · rintro startable how f launches (rfl | rfl)
    · cases launches with
      | unreadable met untold =>
        obtain ⟨there, told⟩ := startable.readable _ met
        rw [told] at untold
        cases untold
    · cases launches with
      | broken fault =>
        rw [startable.lawful] at fault
        cases fault
  · intro sound
    have lawful : Course.launchFault? s.command.words (x.contextFor i s).env = none := by
      cases fault : Course.launchFault? s.command.words (x.contextFor i s).env with
      | none => rfl
      | some f => exact absurd (.inr rfl) (sound _ f (.broken fault))
    obtain ⟨words, names, plainWords, plainEnv⟩ := Course.launchFault?_eq_none_iff.mp lawful
    refine ⟨words, names, plainWords, plainEnv, fun tree met => ?_⟩
    cases told : tree.holdsDirectory [] (x.contextFor i s).cwd with
    | ok there => exact ⟨there, rfl⟩
    | error e => exact absurd (.inl rfl) (sound _ _ (.unreadable met told))

/-- The limits of a job can be told: an integer among them is in the range of binary numbers. -/
structure Timely (x : Executor) (i : Instance) : Prop where
  job : ∀ n, x.jobTimeout = some n → n.isZero = true ∨ n.toDouble?.isSome = true
  steps : ∀ s ∈ i.steps, ∀ n, x.ownTimeout s = some n → n.toDouble?.isSome = true

theorem Timely.deadline (timely : x.Timely i) (now : Rat) : ∃ d, x.deadline now = .ok d := by
  unfold Executor.deadline
  cases limit : x.jobTimeout with
  | none => exact ⟨none, rfl⟩
  | some n =>
    dsimp only
    split
    · exact ⟨none, rfl⟩
    · next nonzero =>
      rcases timely.job n limit with zero | told
      · exact absurd zero nonzero
      · refine ⟨some (n.amount.plus now), ?_⟩
        simp [Option.isSome_iff_ne_none.mp told]

theorem Timely.bounded (timely : x.Timely i) (mem : s ∈ i.steps) (d : Option Amount) (now : Rat) :
    (x.limitFor s d now).elim false Limit.boundless = false := by
  have own (n : Number) (given : x.ownTimeout s = some n) :
      (Limit.ofNumber n).boundless = false := by
    simpa [Limit.ofNumber] using timely.steps s mem n given
  unfold limitFor
  cases given : x.ownTimeout s with
  | none => cases d <;> rfl
  | some n =>
    cases d with
    | none => exact own n given
    | some d =>
      simp only [Option.map_some, Option.elim_some]
      split
      · rfl
      · exact own n given

/-- A job that has time for each of its steps when it begins. -/
def Roomy (x : Executor) (i : Instance) : Prop :=
  ∀ s ∈ i.steps, ∀ d, x.deadline 0 = .ok d → Lane.isSpent (x.limitFor s d 0) = false

end Executor

theorem Course.prepare_launches {M : Type} [Host M] {c : Course M} {i : Instance} {s : Step}
    {context : Context} {asked : Except Launch (Host.Image M)}
    (h : c.prepare i s = (asked, context)) :
    c.executor.Launches (· = Host.tree c.machine) i s
      (match asked with
        | .error how => how
        | .ok _ => .started) := by
  unfold prepare at h
  dsimp only at h
  split at h
  · next e untold =>
    cases h
    exact .unreadable rfl untold
  · cases h
    exact .noDirectory
  · split at h
    · next f fault =>
      cases h
      exact .broken fault
    · next lawful =>
      split at h
      · cases h
        exact .started lawful
      · cases h
        exact .refused lawful

namespace Lane

variable {x : Executor} {trees : FileTree → Prop} {l l' : Lane} {i : Instance}

/-- Whether a move, where it is a launch, is what can come of the present step. -/
def Allowed (x : Executor) (trees : FileTree → Prop) (l : Lane) : Move → Prop
  | .launch how => ∀ s, l.step? = some s → x.Launches trees l.subject s how
  | _ => True

/-- Whether all launches along moves are what can come of their steps. -/
def Lawful (x : Executor) (trees : FileTree → Prop) : Lane → List (Bool × Move) → Prop
  | _, [] => True
  | l, (c, m) :: rest => Allowed x trees l m ∧
    match l.advance x c m with
    | some (l', _) => Lawful x trees l' rest
    | none => True

theorem Lawful.cons {c : Bool} {m : Move} {es : List Emission} {moves : List (Bool × Move)}
    (first : l.advance x c m = some (l', es)) (allowed : Allowed x trees l m)
    (rest : Lawful x trees l' moves) : Lawful x trees l ((c, m) :: moves) := by
  simpa [Lawful, first] using ⟨allowed, rest⟩

/-- What containment says of a run of a job: it does not break, it cannot go on for ever and, as
long as there is no result, it can go on; and each step whose process could not be started, while
nobody had cancelled the run, is the failure of the job at this step. -/
structure Contains (x : Executor) (trees : FileTree → Prop) (i : Instance)
    (moves : List (Bool × Move)) (l : Lane) : Prop where
  unbroken : ∀ f, l.phase ≠ .broken f
  bounded : moves.length ≤ ({ subject := i } : Lane).toGo
  ends : (∃ r, l.result? = some r) ∨
    ∀ c, ∃ m l' es, Allowed x trees l m ∧ l.advance x c m = some (l', es)
  recorded : ∀ before how after p, moves = before ++ (false, .launch how) :: after →
    Run x { subject := i } before p → how ≠ .started →
    ∃ r, l.result? = some r ∧ r.status = .failure ∧ r.failedAt = some (p.results.length : Int)

/-- A job that is contained in every run, whatever comes of its steps and whenever the run is
cancelled. -/
def Contained (x : Executor) (trees : FileTree → Prop) (i : Instance) : Prop :=
  ∀ moves l, Run x { subject := i } moves l → Lawful x trees { subject := i } moves →
    Contains x trees i moves l

/-- A lane that is not broken, and whose process can be waited for once it starts. -/
structure Secure (l : Lane) : Prop where
  unbroken : ∀ f, l.phase ≠ .broken f
  limited : ∀ limit, l.phase = .starting limit → limit.elim false Limit.boundless = false

theorem record_secure (l : Lane) (r : StepResult) : (l.record r).1.Secure := by
  unfold record
  split
  · simp only [proceed_fst]
    by_cases more : l.results.length + 1 < l.subject.steps.length
    · constructor <;> simp [more]
    · constructor <;> simp [more]
  · constructor <;> simp [close]
  · constructor <;> simp [close]

theorem Advances.secure {c : Bool} {m : Move} (h : Advances x c l m l')
    (allowed : Allowed x trees l m) (timely : x.Timely l.subject)
    (startable : ∀ s ∈ l.subject.steps, x.Startable trees l.subject s) (secure : l.Secure) :
    l'.Secure := by
  cases h with
  | refuse | stop | spawn | expire | exit => constructor <;> simp
  | start =>
    simp only [proceed_fst]
    by_cases more : l.results.length < l.subject.steps.length
    · constructor <;> simp [more]
    · constructor <;> simp [more]
  | @startFault _ now f _ _ untold =>
    obtain ⟨d, told⟩ := timely.deadline now
    rw [told] at untold
    cases untold
  | spend | unstarted | leave => exact record_secure l _
  | @announce now s _ step =>
    refine ⟨by simp, fun limit phase => ?_⟩
    cases phase
    exact timely.bounded (List.mem_of_getElem? step) l.deadline now
  | @launchFault limit s how f phase step why =>
    have sound := Executor.startable_iff.mp (startable s (List.mem_of_getElem? step)) how f
      (allowed s step)
    rcases why with fault | ⟨-, fault | ⟨-, boundless, -⟩⟩
    · exact absurd (.inl fault) sound
    · exact absurd (.inr fault) sound
    · rw [secure.limited limit phase] at boundless
      cases boundless

theorem Run.secure {moves : List (Bool × Move)} (h : Run x l moves l')
    (lawful : Lawful x trees l moves) (timely : x.Timely l.subject)
    (startable : ∀ s ∈ l.subject.steps, x.Startable trees l.subject s) (secure : l.Secure) :
    l'.Secure := by
  induction h with
  | nil => exact secure
  | cons first _ ih =>
    have taken := advances_of_advance first
    simp only [Lawful, first] at lawful
    have same := taken.subject
    exact ih lawful.2 (same ▸ timely) (same ▸ startable)
      (taken.secure lawful.1 timely startable secure)

theorem secure_queued (i : Instance) : ({ subject := i } : Lane).Secure := by
  constructor <;> simp

theorem Run.length_le {moves : List (Bool × Move)} (h : Run x l moves l') :
    moves.length + l'.toGo ≤ l.toGo := by
  induction h with
  | nil => simp
  | cons first _ ih =>
    have less := (advances_of_advance first).toGo_lt
    rw [List.length_cons]
    omega

theorem Run.rest {p : Lane} {before after : List (Bool × Move)} (h : Run x l before p)
    (k : Run x l (before ++ after) l') : Run x p after l' := by
  induction h with
  | nil => exact k
  | cons first _ ih =>
    cases k with
    | cons first' k =>
      obtain ⟨rfl, -⟩ := Prod.mk.inj (Option.some.inj (first.symm.trans first'))
      exact ih k

theorem Run.of_over {moves : List (Bool × Move)} (h : Run x l moves l') (done : l.isOver = true) :
    l' = l := by
  cases h with
  | nil => rfl
  | cons first =>
    rw [advance_over x _ done] at first
    cases first

theorem FromQueue.ends {ds : List Deed} (from_ : FromQueue i ds l)
    (unbroken : ∀ f, l.phase ≠ .broken f) :
    (∃ r, l.result? = some r) ∨
      ∀ c, ∃ m l' es, Allowed x trees l m ∧ l.advance x c m = some (l', es) := by
  cases from_ with
  | queued => exact .inr fun c => ⟨.begin 0, _, _, trivial, rfl⟩
  | refused => exact .inl ⟨_, rfl⟩
  | begun _ begun =>
    cases finished : l.isOver with
    | true =>
      rcases phase_of_isOver finished with ⟨status, failedAt, phase⟩ | ⟨f, phase⟩
      · exact .inl ⟨l.resultAs status failedAt, by simp only [result?, phase]⟩
      · exact absurd phase (unbroken f)
    | false =>
      refine .inr fun c => ?_
      obtain ⟨m, l', es, -, finds, moved⟩ := begun.goes_on finished x c
      refine ⟨m, l', es, ?_, moved⟩
      cases m with
      | launch how =>
        intro s step
        rw [finds how s rfl step]
        exact .noDirectory
      | pick | begin | look | expire | exit | leave => trivial

/-- A launch that starts no process, while nobody has cancelled the run, ends the job as a failure
at its step, or breaks it. -/
theorem Run.recorded {p : Lane} {how : Launch} {after : List (Bool × Move)}
    (h : Run x p ((false, .launch how) :: after) l) (unbroken : ∀ f, l.phase ≠ .broken f)
    (idle : how ≠ .started) :
    ∃ r, l.result? = some r ∧ r.status = .failure ∧ r.failedAt = some (p.results.length : Int) := by
  cases h with
  | cons first rest =>
    cases advances_of_advance first with
    | @unstarted limit s _ a phase step attempt =>
      have status : (a.result s p.results.length).status = .failure := by
        rcases unstarted?_status attempt p.results.length with failed | stopped
        · exact failed
        · cases unstarted?_cancelled attempt stopped
      rw [record_failure status] at rest
      rw [rest.of_over rfl]
      exact ⟨_, rfl, rfl, by simp [resultAs]⟩
    | launchFault =>
      rw [rest.of_over rfl] at unbroken
      exact absurd rfl (unbroken _)
    | spawn => exact absurd rfl idle
    | start _ move | startFault _ move => rcases move with move | ⟨move, -⟩ <;> cases move

theorem contained_of_startable (timely : x.Timely i)
    (startable : ∀ s ∈ i.steps, x.Startable trees i s) : Contained x trees i := by
  intro moves l run lawful
  have unbroken := (run.secure lawful timely startable (secure_queued i)).unbroken
  have length := run.length_le
  refine ⟨unbroken, by omega, run.fromQueue.ends unbroken, ?_⟩
  rintro before how after p rfl first idle
  exact (first.rest run).recorded unbroken idle

/-! A step that cannot be started is reached, and breaks its lane. -/

/-- A lane comes lawfully to a fault. -/
def ComesToFault (x : Executor) (trees : FileTree → Prop) (l : Lane) : Prop :=
  ∃ moves l' f, Run x l moves l' ∧ Lawful x trees l moves ∧ l'.phase = .broken f

theorem ComesToFault.step (m : Move) (l' : Lane)
    (first : (l.advance x false m).map Prod.fst = some l') (allowed : Allowed x trees l m)
    (rest : ComesToFault x trees l') : ComesToFault x trees l := by
  obtain ⟨⟨_, es⟩, moved, rfl⟩ := Option.map_eq_some_iff.mp first
  obtain ⟨moves, l'', f, run, lawful, phase⟩ := rest
  exact ⟨(false, m) :: moves, l'', f, .cons moved run, .cons moved allowed lawful, phase⟩

theorem look_announces {s : Step} (phase : l.phase = .looking) (step : l.step? = some s)
    (left : isSpent (x.limitFor s l.deadline 0) = false) :
    (l.advance x false (.look 0)).map Prod.fst =
      some { l with phase := .starting (x.limitFor s l.deadline 0) } := by
  unfold isSpent at left
  simp [advance, phase, step, look, left]

theorem comesToFault_of_looking (n : Nat) {s : Step} (timely : x.Timely l.subject)
    (phase : l.phase = .looking)
    (room : ∀ s ∈ l.subject.steps, isSpent (x.limitFor s l.deadline 0) = false)
    (at_ : l.subject.steps[l.results.length + n]? = some s)
    (earlier : ∀ k s', k < l.results.length + n → l.subject.steps[k]? = some s' →
      x.Startable trees l.subject s') (stuck : ¬x.Startable trees l.subject s) :
    ComesToFault x trees l := by
  induction n generalizing l with
  | zero =>
    obtain ⟨how, f, launches, breaks⟩ : ∃ how f, x.Launches trees l.subject s how ∧
        how.BreaksBy f := by
      simpa [Executor.startable_iff] using stuck
    have step : l.step? = some s := at_
    refine .step (.look 0) _ (look_announces phase step (room s (List.mem_of_getElem? at_))) trivial
      ?_
    refine ⟨[(false, .launch how)], { l with phase := .broken f }, f, ?_, ?_, rfl⟩
    · have fault : advance x false
          { l with phase := .starting (x.limitFor s l.deadline 0) } (.launch how) =
            some ({ l with phase := .broken f }, []) := by
        have here : l.subject.steps[l.results.length]? = some s := at_
        rcases breaks with rfl | rfl <;> simp [advance, step?, here, Lane.launch]
      exact .cons fault (.nil _)
    · refine ⟨fun s' step' => ?_, by split <;> trivial⟩
      obtain rfl : s = s' := Option.some.inj (step.symm.trans step')
      exact launches
  | succ n ih =>
    have more : l.results.length + 1 < l.subject.steps.length := by
      have := (List.getElem?_eq_some_iff.mp at_).1
      omega
    obtain ⟨s', here⟩ : ∃ s', l.subject.steps[l.results.length]? = some s' :=
      ⟨_, List.getElem?_eq_getElem (by omega)⟩
    have mem := List.mem_of_getElem? here
    have bounded := timely.bounded mem l.deadline 0
    have startable := earlier l.results.length s' (by omega) here
    refine .step (.look 0) _ (look_announces phase here (room s' mem)) trivial ?_
    refine .step (.launch .started)
      { l with phase := .running (x.limitFor s' l.deadline 0) false } ?_ ?_ ?_
    · simp [advance, step?, here, Lane.launch, bounded]
    · intro s'' step''
      obtain rfl : s' = s'' := Option.some.inj (here.symm.trans step'')
      exact .started startable.lawful
    refine .step (.exit 0) { l with phase := .draining (x.limitFor s' l.deadline 0) false 0 }
      (by simp [advance]) trivial ?_
    let done : StepResult := (ending false s' (x.limitFor s' l.deadline 0) false
      ⟨0, "", "", .int 0⟩).result s' l.results.length
    refine .step (.leave "" "" (.int 0))
      { l with phase := .looking, results := l.results ++ [done] } ?_ trivial ?_
    · have succeeds : done.status = .success := rfl
      simp only [advance, step?, here, conclude, Option.map_some]
      rw [record_success succeeds, proceed_fst]
      simp [more, done]
    · refine ih timely rfl room ?_ ?_ stuck
      · simpa [Nat.add_assoc, Nat.add_comm 1 n] using at_
      · intro k s'' before at_''
        exact earlier k s'' (by simp at before; omega) at_''

theorem startable_of_contained (timely : x.Timely i) (roomy : x.Roomy i)
    (contained : Contained x trees i) : ∀ s ∈ i.steps, x.Startable trees i s := by
  have each (k : Nat) : ∀ s, i.steps[k]? = some s → x.Startable trees i s := by
    induction k using Nat.strong_induction_on with
    | _ k ih =>
      intro s at_
      by_contra stuck
      obtain ⟨d, told⟩ := timely.deadline 0
      have inside : 0 < i.steps.length := by
        have := (List.getElem?_eq_some_iff.mp at_).1
        omega
      have faulty : ComesToFault x trees { subject := i } := by
        refine .step (.begin 0) { subject := i, phase := .looking, deadline := d } ?_ trivial ?_
        · simp [advance, start, told, proceed_fst, inside]
        · exact comesToFault_of_looking k timely rfl (fun s mem => roomy s mem d told)
            (by simpa using at_) (fun j s' before => ih j (by simpa using before) s') stuck
      obtain ⟨moves, l, f, run, lawful, phase⟩ := faulty
      exact (contained moves l run lawful).unbroken f phase
  intro s mem
  obtain ⟨k, at_⟩ := List.mem_iff_getElem?.mp mem
  exact each k s at_

end Lane

namespace Pool

variable {x : Executor}

/-- All launches of a run are what can come of their steps. -/
def Lawful (x : Executor) (trees : FileTree → Prop) (instances : List Instance) (token : Bool)
    (acts : List Action) : Prop :=
  ∀ (n : Nat) (i : Instance), instances[n]? = some i →
    Lane.Lawful x trees { subject := i } ((ofInstances instances token).moves x n acts)

theorem Run.unbroken {trees : FileTree → Prop} {instances : List Instance} {token : Bool}
    {acts : List Action} {q : Pool} (h : Run x (ofInstances instances token) acts q)
    (lawful : Lawful x trees instances token acts)
    (contained : ∀ i ∈ instances, Lane.Contained x trees i) :
    ∀ l ∈ q.lanes, ∀ f, l.phase ≠ .broken f := by
  intro l mem
  obtain ⟨n, found⟩ := List.mem_iff_getElem?.mp mem
  obtain ⟨i, at_, run⟩ := h.origin found
  exact (contained i (List.mem_of_getElem? at_) _ l run (lawful n i at_)).unbroken

theorem Run.cancelled_of_fault {instances : List Instance} {token : Bool} {acts : List Action}
    {q : Pool} (h : Run x (ofInstances instances token) acts q) {f : Fault}
    (met : q.fault = some f) : q.cancelled = true := by
  refine h.keeps (P := fun p => ∀ f, p.fault = some f → p.cancelled = true) (by simp [ofInstances])
    ?_ f met
  intro p a q applies before f met
  cases applies with
  | lane | take => exact before f met
  | store => simp [before f met]
  | takeFault | cancel | interrupt => rfl

/-- Which steps are contained. A job whose steps can all be started, under limits that can be told,
ends with a result in every run, and each step whose process is not started is its failure at this
step; and a job of which this is true, and that has time for its steps, has only such steps. In a
run of jobs with such steps only, the collector meets no fault and comes to all results, and where a
failure does not end the run none of them is cancelled unless from outside. A fault, however,
cancels the run, which then has no result. -/
theorem contained_iff_startable {x : Executor} {trees : FileTree → Prop}
    {instances : List Instance} (timely : ∀ i ∈ instances, x.Timely i) :
    (∀ i ∈ instances, (∀ s ∈ i.steps, x.Startable trees i s) → Lane.Contained x trees i) ∧
    (∀ i ∈ instances, x.Roomy i → Lane.Contained x trees i →
      ∀ s ∈ i.steps, x.Startable trees i s) ∧
    ((∀ i ∈ instances, ∀ s ∈ i.steps, x.Startable trees i s) → ∀ token acts q,
      Run x (ofInstances instances token) acts q → Lawful x trees instances token acts →
      q.fault = none ∧ (q.Rests x ↔ ∃ jobs, q.results? = some jobs) ∧
      (x.failFast = false → token = false → (∀ a ∈ acts, a ≠ .cancel ∧ a ≠ .interrupt) →
        q.cancelled = false ∧ ∀ l ∈ q.lanes, l.phase ≠ .closed .cancelled none)) ∧
    ∀ token acts q f, Run x (ofInstances instances token) acts q → q.fault = some f →
      q.cancelled = true ∧ q.results? = none := by
  have one (i : Instance) (mem : i ∈ instances) (startable : ∀ s ∈ i.steps, x.Startable trees i s) :
      Lane.Contained x trees i :=
    Lane.contained_of_startable (timely i mem) startable
  refine ⟨one, fun i mem roomy => Lane.startable_of_contained (timely i mem) roomy, ?_, ?_⟩
  · intro startable token acts q run lawful
    have sound := run.unbroken lawful fun i mem => one i mem (startable i mem)
    refine ⟨?_, run.rests_iff sound, fun patient unset quiet => ?_⟩
    · cases met : q.fault with
      | none => rfl
      | some f =>
        obtain ⟨n, l, found, phase⟩ := run.tidy.fault f met
        exact absurd phase (sound l (List.mem_of_getElem? found) f)
    · have uncancelled := run.uncancelled patient quiet sound unset
      refine ⟨uncancelled, fun l mem closed => ?_⟩
      obtain ⟨n, found⟩ := List.mem_iff_getElem?.mp mem
      rw [run.token_of_cancelled found closed] at uncancelled
      cases uncancelled
  · intro token acts q f run met
    refine ⟨run.cancelled_of_fault met, ?_⟩
    cases results : q.results? with
    | none => rfl
    | some jobs =>
      obtain ⟨n, l, found, phase⟩ := run.tidy.fault f met
      exact absurd phase (run.kept.sound results l (List.mem_of_getElem? found) f)

/-- A job of a plain command is contained, and one whose second step has no words is not. -/
theorem contained_iff_startable_empty_command :
    let step : Step := { command := .line "true" }
    let one : Instance :=
      { template := .text "one", index := 0, bindings := [], steps := [step], env := [] }
    let two : Instance := { one with steps := [step, { command := .argv [] }] }
    Lane.Contained {} (· = {}) one ∧ ¬Lane.Contained {} (· = {}) two := by
  intro step one two
  have untimed : ∀ i ∈ [one, two], ∀ s ∈ i.steps, s.timeout = none := by
    simp [one, two, step]
  have timely : ∀ i ∈ [one, two], Executor.Timely {} i := by
    intro i mem
    refine ⟨nofun, fun s mem' n given => ?_⟩
    simp [Executor.ownTimeout, untimed i mem s mem'] at given
  obtain ⟨good, bad, -⟩ := @contained_iff_startable {} (· = {}) [one, two] timely
  refine ⟨good one (by simp) ?_, fun contained => ?_⟩
  · intro s mem
    obtain rfl : s = step := by simpa [one] using mem
    refine ⟨by decide, by decide, by decide, by decide, ?_⟩
    rintro tree rfl
    exact ⟨true, toOption_eq_some_iff.mp (by decide +kernel)⟩
  · have roomy : Executor.Roomy {} two := by
      intro s mem d told
      cases told
      simp [Executor.limitFor, Executor.ownTimeout, untimed two (by simp) s mem, Lane.isSpent]
    have startable := bad two (by simp) roomy contained { command := .argv [] } (by simp [two])
    exact startable.words rfl

/-- Two jobs on one worker, where a failure does not end the run: a variable of the first has an
equals sign in its name, and by that the second is cancelled and the run ends in a fault. -/
theorem unstartable_step_breaks_the_run :
    let one : Instance :=
      { template := .text "one", index := 0, bindings := []
        steps := [{ command := .line "true", env := [("A=B", "c")] }], env := [] }
    let two : Instance :=
      { template := .text "two", index := 1, bindings := [], steps := [{ command := .line "true" }]
        env := [] }
    let x : Executor := { maxWorkers := some 1 }
    let acts : List Action := [.lane 0 (.pick 0), .lane 0 (.look 0),
      .lane 0 (.launch (.broken .illegalVariable)), .take 0, .lane 1 (.pick 0)]
    ∃ q, Run x (ofInstances [one, two]) acts q ∧ Lawful x (· = {}) [one, two] false acts ∧
      x.failFast = false ∧ q.fault = some .illegalVariable ∧ q.cancelled = true ∧
      q.lanes[1]?.map Lane.phase = some (.closed .cancelled none) := by
  intro one two x acts
  obtain ⟨q, after, known⟩ : ∃ q, (ofInstances [one, two]).after? x acts = some q ∧
      (q.fault = some .illegalVariable ∧ q.cancelled = true ∧
        q.lanes[1]?.map Lane.phase = some (.closed .cancelled none)) :=
    ⟨_, rfl, rfl, rfl, rfl⟩
  refine ⟨q, run_of_after? after, ?_, rfl, known⟩
  intro n i at_
  rcases n with _ | _ | n
  · cases at_
    refine .cons rfl trivial (.cons rfl trivial (.cons rfl ?_ trivial))
    intro s step
    cases step
    exact .broken (by rfl)
  · cases at_
    exact .cons rfl trivial trivial
  · cases at_

end Pool

end JobMatrix
