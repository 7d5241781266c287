import JobMatrix.Proofs.Pool

/-! What observers are told of one job. `Recounts` is the grammar of what is told of its steps, and
`Lifecycle` that of the whole; every move of a lane keeps to it, and in a run of a pool each lane
keeps to it by itself, however its moves go between those of the others. -/

namespace JobMatrix

/-- Whether a notice tells of the end of a step. -/
def Notice.isStepEnd : Notice → Bool
  | stepEnd .. => true
  | _ => false

namespace Emission

/-- What observers are told by emissions. -/
def notices (es : List Emission) : List Notice :=
  es.filterMap fun e => match e with | notice n => some n | _ => none

@[simp] theorem notices_nil : notices [] = [] := rfl

@[simp] theorem notices_log (e : LogEntry) (es : List Emission) :
    notices (.log e :: es) = notices es := rfl

@[simp] theorem notices_notice (n : Notice) (es : List Emission) :
    notices (.notice n :: es) = n :: notices es := rfl

@[simp] theorem notices_attempt (a : Attempt) (es : List Emission) :
    notices (.attempt a :: es) = notices es := rfl

@[simp] theorem notices_sayOf (level : Level) (i : Instance) (message : String)
    (es : List Emission) : notices (.sayOf level i message :: es) = notices es := rfl

@[simp] theorem notices_append (es fs : List Emission) :
    notices (es ++ fs) = notices es ++ notices fs := List.filterMap_append

end Emission

/-- Whether a step is under way: its start was told, and its end was not. -/
def Phase.isAnnounced : Phase → Bool
  | .starting _ => true
  | .running .. => true
  | .draining .. => true
  | _ => false

namespace Lane

variable {x : Executor} {l l' : Lane} {nows : List Rat} {ns ts : List Notice} {s : Step} {c : Bool}
  {m : Move} {moves : List (Bool × Move)} {r : JobResult} {i : Instance}

open Emission (notices)

/-- What observers are told along moves. -/
def told (x : Executor) : Lane → List (Bool × Move) → List Notice
  | _, [] => []
  | l, (c, m) :: rest =>
    match l.advance x c m with
    | some (l', es) => notices es ++ told x l' rest
    | none => []

/-- The time at which a move looks at the clock before a step. -/
def Move.look? : Move → Option Rat
  | look now => some now
  | _ => none

/-- The times at which a lane looks at the clock before a step. -/
def looks (moves : List (Bool × Move)) : List Rat := moves.filterMap (·.2.look?)

theorem looks_cons (c : Bool) (m : Move) (moves : List (Bool × Move)) :
    looks ((c, m) :: moves) = m.look?.toList ++ looks moves := by
  cases seen : m.look? <;> simp [looks, seen]

/-- What is told of steps by their results, in order, where the lane has looked at the clock before
each: the start and then the end of a step, or its end alone when no time was left for it. -/
inductive Recounts (x : Executor) (deadline : Option Amount) (i : Instance) :
    List Rat → List StepResult → List Notice → Prop
  | nil : Recounts x deadline i [] [] []
  | announced {nows : List Rat} {now : Rat} {rs : List StepResult} {r : StepResult}
      {ns : List Notice} (before : Recounts x deadline i nows rs ns)
      (left : isSpent (x.limitFor r.step deadline now) = false) :
      Recounts x deadline i (nows ++ [now]) (rs ++ [r])
        (ns ++ [.stepStart i r.step rs.length, .stepEnd i r])
  | refused {nows : List Rat} {now : Rat} {rs : List StepResult} {s : Step} {ns : List Notice}
      (before : Recounts x deadline i nows rs ns)
      (spent : isSpent (x.limitFor s deadline now) = true) :
      Recounts x deadline i (nows ++ [now]) (rs ++ [spentResult x s rs.length])
        (ns ++ [.stepEnd i (spentResult x s rs.length)])

/-- How far a lane has come whose job has begun, by the looks that it has taken and by what was
told of it. -/
inductive Story (x : Executor) (l : Lane) : List Rat → List Notice → Prop
  | looking {nows : List Rat} {ns : List Notice} (phase : l.phase = .looking)
      (steps : Recounts x l.deadline l.subject nows l.results ns) :
      Story x l nows (.jobStart l.subject :: ns)
  | announced {nows : List Rat} {now : Rat} {s : Step} {ns : List Notice}
      (phase : l.phase.isAnnounced = true) (step : l.step? = some s)
      (left : isSpent (x.limitFor s l.deadline now) = false)
      (steps : Recounts x l.deadline l.subject nows l.results ns) :
      Story x l (nows ++ [now])
        (.jobStart l.subject :: ns ++ [.stepStart l.subject s l.results.length])
  | closed {nows more : List Rat} {ns : List Notice} {r : JobResult} (result : l.result? = some r)
      (steps : Recounts x l.deadline l.subject nows l.results ns) :
      Story x l (nows ++ more) (.jobStart l.subject :: ns ++ [.jobEnd l.subject r])
  | broken {f : Fault} {nows : List Rat} {ns : List Notice} (phase : l.phase = .broken f) :
      Story x l nows ns

theorem Story.close (steps : Recounts x l.deadline l.subject nows l.results ns) (more : List Rat)
    (status : Status) (failedAt : Option Int) : Story x (l.close status failedAt).1 (nows ++ more)
      (.jobStart l.subject :: ns ++ notices (l.close status failedAt).2) :=
  .closed rfl steps

theorem Story.proceed (steps : Recounts x l.deadline l.subject nows l.results ns) :
    Story x l.proceed.1 nows (.jobStart l.subject :: ns ++ notices l.proceed.2) := by
  unfold Lane.proceed
  split
  · simpa using Story.looking (l := { l with phase := .looking }) rfl steps
  · simpa using Story.close steps [] .success none

theorem Story.record {r : StepResult}
    (steps : Recounts x l.deadline l.subject nows (l.results ++ [r])
      (ns ++ [.stepEnd l.subject r])) :
    Story x (l.record r).1 nows (.jobStart l.subject :: ns ++ notices (l.record r).2) := by
  unfold Lane.record
  dsimp only
  split
  · simpa using Story.proceed (l := { l with results := l.results ++ [r] }) steps
  · simpa using Story.close (l := { l with results := l.results ++ [r] }) steps [] .cancelled none
  · simpa using Story.close (l := { l with results := l.results ++ [r] }) steps [] .failure
      (some r.index)

theorem notices_conclude (l : Lane) (s : Step) (a : Attempt) :
    notices (l.conclude s a).2 = notices (l.record (a.result s l.results.length)).2 := by
  cases a <;> rfl

theorem Story.conclude {now : Rat} (left : isSpent (x.limitFor s l.deadline now) = false)
    (steps : Recounts x l.deadline l.subject nows l.results ns) (a : Attempt) :
    Story x (l.conclude s a).1 (nows ++ [now])
      (.jobStart l.subject :: ns ++ [.stepStart l.subject s l.results.length] ++
        notices (l.conclude s a).2) := by
  have step : (a.result s l.results.length).step = s := a.result_step s _
  have more := steps.announced (r := a.result s l.results.length) (step ▸ left)
  rw [step, List.append_cons ns] at more
  rw [notices_conclude]
  exact .record more

theorem Story.look (step : l.step? = some s)
    (steps : Recounts x l.deadline l.subject nows l.results ns) (c : Bool) (now : Rat) :
    Story x (l.look x c s now).1 (nows ++ [now])
      (.jobStart l.subject :: ns ++ notices (l.look x c s now).2) := by
  unfold Lane.look
  cases c with
  | true => exact .close steps [now] .cancelled none
  | false =>
    cases spent : isSpent (x.limitFor s l.deadline now) with
    | true =>
      have told := Story.record (steps.refused spent)
      unfold isSpent at spent
      simpa [spent, spentResult] using told
    | false =>
      have told : Story x { l with phase := .starting (x.limitFor s l.deadline now) } _ _ :=
        .announced rfl step spent steps
      unfold isSpent at spent
      simpa [spent] using told

theorem Story.launch {now : Rat} (step : l.step? = some s)
    (left : isSpent (x.limitFor s l.deadline now) = false)
    (steps : Recounts x l.deadline l.subject nows l.results ns) (c : Bool) (limit : Option Limit)
    (how : Launch) :
    Story x (l.launch c s limit how).1 (nows ++ [now])
      (.jobStart l.subject :: ns ++ [.stepStart l.subject s l.results.length] ++
        notices (l.launch c s limit how).2) := by
  have ended := Story.conclude left steps
  have broken (f : Fault) : Story x { l with phase := .broken f } (nows ++ [now])
      (.jobStart l.subject :: ns ++ [.stepStart l.subject s l.results.length] ++ []) := .broken rfl
  unfold Lane.launch
  split
  · exact broken _
  · exact ended _
  · split
    · exact ended _
    · split
      · exact broken _
      · rw [Emission.notices_nil, List.append_nil]
        exact .announced rfl step left steps
  · split
    · exact ended _
    · exact ended _
  · split
    · exact ended _
    · exact broken _

theorem Story.at_look {looks : List Rat} (story : Story x l looks ts) (phase : l.phase = .looking) :
    ∃ ns, ts = .jobStart l.subject :: ns ∧
      Recounts x l.deadline l.subject looks l.results ns := by
  cases story with
  | looking _ steps => exact ⟨_, rfl, steps⟩
  | announced other | broken other =>
    rw [phase] at other
    cases other
  | closed result => simp [result?, phase] at result

theorem Story.under_way {looks : List Rat} (story : Story x l looks ts)
    (phase : l.phase.isAnnounced = true) :
    ∃ nows now s ns, looks = nows ++ [now] ∧ l.step? = some s ∧
      isSpent (x.limitFor s l.deadline now) = false ∧
      Recounts x l.deadline l.subject nows l.results ns ∧
      ts = .jobStart l.subject :: ns ++ [.stepStart l.subject s l.results.length] := by
  cases story with
  | announced _ step left steps => exact ⟨_, _, _, _, rfl, step, left, steps, rfl⟩
  | looking other | broken other =>
    rw [other] at phase
    cases phase
  | closed result =>
    unfold result? at result
    split at result
    · next other =>
      rw [other] at phase
      cases phase
    · cases result

theorem Story.begun {looks : List Rat} (story : Story x l looks ts) : l.phase ≠ .queued := by
  intro queued
  cases story with
  | looking phase | announced phase | broken phase =>
    rw [queued] at phase
    cases phase
  | closed result => simp [result?, queued] at result

theorem Story.advance {es : List Emission} {looks : List Rat} (story : Story x l looks ts)
    (h : l.advance x c m = some (l', es)) :
    Story x l' (looks ++ m.look?.toList) (ts ++ notices es) := by
  cases m with
  | pick now =>
    simp only [Lane.advance] at h
    split at h
    · next phase => exact absurd phase story.begun
    · cases h
  | begin now =>
    simp only [Lane.advance] at h
    split at h
    · next phase => exact absurd phase story.begun
    · cases h
  | look now =>
    simp only [Lane.advance] at h
    split at h
    · next s phase step =>
      obtain ⟨ns, rfl, steps⟩ := story.at_look phase
      have told := Story.look step steps c now
      rw [Option.some.inj h] at told
      exact told
    · cases h
  | launch how =>
    simp only [Lane.advance] at h
    split at h
    · next limit s phase step =>
      obtain ⟨nows, now, s', ns, rfl, step', left, steps, rfl⟩ := story.under_way (phase ▸ rfl)
      obtain rfl : s = s' := by simpa using step.symm.trans step'
      have told := Story.launch step left steps c limit how
      rw [Option.some.inj h] at told
      simpa [Move.look?] using told
    · cases h
  | expire =>
    simp only [Lane.advance] at h
    split at h
    · next limit s phase step =>
      obtain ⟨nows, now, s', ns, rfl, step', left, steps, rfl⟩ := story.under_way (phase ▸ rfl)
      cases h
      simpa [Move.look?, Emission.say] using
        Story.announced (l := { l with phase := .running (some limit) true })
          rfl step' left steps
    · cases h
  | exit code =>
    simp only [Lane.advance] at h
    split at h
    · next limit late phase =>
      obtain ⟨nows, now, s, ns, rfl, step, left, steps, rfl⟩ := story.under_way (phase ▸ rfl)
      cases h
      simpa [Move.look?] using Story.announced (l := { l with phase := .draining limit late code })
        rfl step left steps
    · cases h
  | leave out err duration =>
    simp only [Lane.advance] at h
    split at h
    · next limit late code s phase step =>
      obtain ⟨nows, now, s', ns, rfl, step', left, steps, rfl⟩ := story.under_way (phase ▸ rfl)
      obtain rfl : s = s' := by simpa using step.symm.trans step'
      have told := Story.conclude left steps (ending c s limit late ⟨code, out, err, duration⟩)
      rw [Option.some.inj h] at told
      simpa [Move.look?] using told
    · cases h

theorem Run.story {before : List Rat} (h : Run x l moves l') (story : Story x l before ts) :
    Story x l' (before ++ looks moves) (ts ++ l.told x moves) := by
  induction h generalizing before ts with
  | nil => simpa [looks, told] using story
  | @cons l l' l'' c m es moves first _ ih =>
    have next := ih (story.advance first)
    simpa [told, first, looks_cons] using next

/-- The deadline of a lane is the one of a time, unless the lane is broken. -/
def Timed (x : Executor) (start : Rat) (l : Lane) : Prop :=
  x.deadline start = .ok l.deadline ∨ ∃ f, l.phase = .broken f

theorem record_deadline (l : Lane) (r : StepResult) : (l.record r).1.deadline = l.deadline := by
  unfold record
  split <;> simp [proceed_fst, close]

theorem Advances.deadline (h : Advances x c l m l') (begun : l.phase ≠ .queued) :
    l'.deadline = l.deadline := by
  cases h with
  | refuse phase | start phase | startFault phase => exact absurd phase begun
  | spend | unstarted | leave => exact record_deadline l _
  | stop | announce | launchFault | spawn | expire | exit => rfl

theorem Run.timed {start : Rat} {looks : List Rat} (h : Run x l moves l')
    (story : Story x l looks ts) (timed : Timed x start l) : Timed x start l' := by
  induction h generalizing looks ts with
  | nil => exact timed
  | cons first _ ih =>
    refine ih (story.advance first) ?_
    rcases timed with told | ⟨f, phase⟩
    · exact .inl ((advances_of_advance first).deadline story.begun ▸ told)
    · rw [advance_over x _ (by simp [isOver, phase])] at first
      cases first

theorem start_story (x : Executor) (i : Instance) (now : Rat) :
    Story x (start x { subject := i } now).1 [] (notices (start x { subject := i } now).2) ∧
      Timed x now (start x { subject := i } now).1 := by
  unfold start
  cases told : x.deadline now with
  | error f => exact ⟨.broken rfl, .inr ⟨f, rfl⟩⟩
  | ok deadline =>
    refine ⟨Story.proceed (l := { subject := i, deadline }) .nil, .inl ?_⟩
    simpa [proceed_fst] using told

/-- What is told of a job with a result, along the moves of its lane: nothing of one that was
cancelled before it began; else its start, its steps, and its end with the result. The lane has
looked at the clock before each step, and once more if it found the token set then. -/
inductive Lifecycle (x : Executor) (i : Instance) (moves : List (Bool × Move)) (r : JobResult) :
    List Notice → Prop
  | none (status : r.status = .cancelled) (steps : r.steps = []) : Lifecycle x i moves r []
  | whole {start : Rat} {deadline : Option Amount} {nows more : List Rat} {ns : List Notice}
      (first : ∃ c m, moves.head? = some (c, m) ∧ (m = .pick start ∨ m = .begin start))
      (told : x.deadline start = .ok deadline) (looked : looks moves = nows ++ more)
      (steps : Recounts x deadline i nows r.steps ns) :
      Lifecycle x i moves r (.jobStart i :: ns ++ [.jobEnd i r])

theorem result_steps (closed : l.result? = some r) : r.steps = l.results := by
  unfold result? at closed
  split at closed
  · cases closed; rfl
  · cases closed

theorem Story.at_end {looks : List Rat} (story : Story x l looks ts) (closed : l.result? = some r) :
    ∃ nows more ns, looks = nows ++ more ∧ Recounts x l.deadline l.subject nows r.steps ns ∧
      ts = .jobStart l.subject :: ns ++ [.jobEnd l.subject r] := by
  rcases phase_of_isOver (isOver_of_result closed) with ⟨status, failedAt, ended⟩ | ⟨f, ended⟩
  · cases story with
    | @closed nows more ns r' result steps =>
      obtain rfl : r = r' := by simpa using closed.symm.trans result
      exact ⟨nows, more, ns, rfl, result_steps closed ▸ steps, rfl⟩
    | looking phase | announced phase | broken phase =>
      rw [ended] at phase
      cases phase
  · simp [result?, ended] at closed

theorem Run.lifecycle_of_start {start : Rat} {es : List Emission}
    (move : m = .pick start ∨ m = .begin start)
    (begins : Lane.start x { subject := i } start = (l, es)) (rest : Run x l moves l')
    (closed : l'.result? = some r) :
    Lifecycle x i ((c, m) :: moves) r (notices es ++ l.told x moves) := by
  obtain ⟨story, timed⟩ := start_story x i start
  have subject : (Lane.start x { subject := i } start).1.subject = i :=
    (start_advances (c := false) rfl (.inl rfl)).subject
  rw [begins] at story timed subject
  obtain ⟨nows, more, ns, looked, steps, told⟩ := (rest.story story).at_end closed
  have own : l'.subject = i := rest.subject.trans subject
  rw [own] at steps told
  rw [told]
  rcases rest.timed story timed with due | ⟨f, phase⟩
  · have first : looks ((c, m) :: moves) = nows ++ more := by
      rcases move with rfl | rfl <;> exact looked
    exact .whole ⟨c, m, rfl, move⟩ due first steps
  · simp [result?, phase] at closed

theorem Run.lifecycle (h : Run x { subject := i } moves l) (closed : l.result? = some r) :
    Lifecycle x i moves r (told x { subject := i } moves) := by
  cases h with
  | nil => cases closed
  | @cons _ l' _ c m es moves first rest =>
    have told_ : told x { subject := i } ((c, m) :: moves) = notices es ++ l'.told x moves := by
      simp [told, first]
    rw [told_]
    cases m with
    | pick now =>
      cases c with
      | true =>
        cases first
        cases rest with
        | nil =>
          cases closed
          exact .none rfl rfl
        | cons next => rw [advance_over x _ rfl] at next; cases next
      | false => exact rest.lifecycle_of_start (.inl rfl) (Option.some.inj first) closed
    | begin now => exact rest.lifecycle_of_start (.inr rfl) (Option.some.inj first) closed
    | look | launch | expire | exit | leave => cases first

theorem Recounts.count {deadline : Option Amount} {rs : List StepResult}
    (h : Recounts x deadline i nows rs ns) : ns.countP Notice.isStepEnd = rs.length := by
  induction h with
  | nil => rfl
  | announced _ _ ih | refused _ _ ih => simp [ih, Notice.isStepEnd]

theorem Recounts.subject {deadline : Option Amount} {rs : List StepResult}
    (h : Recounts x deadline i nows rs ns) : ∀ n ∈ ns, n.subject? = some i := by
  induction h with
  | nil => exact fun _ mem => nomatch mem
  | announced _ _ ih | refused _ _ ih =>
    simp only [List.forall_mem_append, List.forall_mem_cons]
    exact ⟨ih, by simp [Notice.subject?]⟩

theorem Lifecycle.subject (h : Lifecycle x i moves r ns) : ∀ n ∈ ns, n.subject? = some i := by
  cases h with
  | none => exact fun _ mem => nomatch mem
  | whole _ _ _ steps =>
    simp only [List.cons_append, List.forall_mem_cons, List.forall_mem_append]
    exact ⟨rfl, steps.subject, by simp [Notice.subject?]⟩

theorem Lifecycle.count (h : Lifecycle x i moves r ns) :
    ns.countP Notice.isStepEnd = r.steps.length := by
  cases h with
  | none _ steps => simp [steps]
  | whole _ _ _ steps => simp [steps.count, Notice.isStepEnd]

end Lane

namespace Pool

variable {x : Executor} {p q : Pool} {i : Nat} {es : List Emission}

open Emission (notices)

/-- What observers are told by an action, each notice with the position of its lane. -/
def tellings (es : List Emission) : Action → List (Nat × Notice)
  | .lane i _ => (notices es).map (i, ·)
  | _ => []

/-- What observers are told along actions. -/
def told (x : Executor) : Pool → List Action → List (Nat × Notice)
  | _, [] => []
  | p, a :: rest =>
    match p.apply x a with
    | some (q, es) => tellings es a ++ told x q rest
    | none => []

/-- What is told of the lane at a position. -/
def toldOf (i : Nat) (ts : List (Nat × Notice)) : List Notice :=
  (ts.filter (·.1 == i)).map (·.2)

theorem toldOf_append (i : Nat) (ts us : List (Nat × Notice)) :
    toldOf i (ts ++ us) = toldOf i ts ++ toldOf i us := by
  simp [toldOf]

theorem toldOf_tag (i j : Nat) (ns : List Notice) :
    toldOf i (ns.map (j, ·)) = if j = i then ns else [] := by
  by_cases same : j = i <;> simp [toldOf, List.filter_map, Function.comp_def, same]

theorem apply_lane {m : Lane.Move} (h : p.apply x (.lane i m) = some (q, es)) :
    ∃ l l', p.lanes[i]? = some l ∧ l.advance x p.cancelled m = some (l', es) ∧
      q = p.setLane i l' := by
  simp only [apply] at h
  split at h
  · next l found =>
    split at h
    · cases h
    · obtain ⟨⟨l', fs⟩, moved, same⟩ := Option.map_eq_some_iff.mp h
      cases same
      exact ⟨l, l', found, moved, rfl⟩
  · cases h

theorem Run.toldOf_lane {acts : List Action} (h : Run x p acts q) {l : Lane}
    (found : p.lanes[i]? = some l) : toldOf i (p.told x acts) = l.told x (p.moves x i acts) := by
  induction h generalizing l with
  | nil => rfl
  | @cons p q r a es acts first _ ih =>
    simp only [told, moves, first, toldOf_append]
    cases a with
    | lane j m =>
      obtain ⟨l₀, l', found', moved, rfl⟩ := apply_lane first
      by_cases this : j = i
      · subst this
        obtain rfl : l₀ = l := by simpa using found'.symm.trans found
        have next : (p.setLane j l').lanes[j]? = some l' :=
          List.getElem?_set_self (List.getElem?_eq_some_iff.mp found).1
        simp [tellings, toldOf_tag, movesOf, Lane.told, moved, ih next]
      · have next : (p.setLane j l').lanes[i]? = some l := by simpa [setLane, this] using found
        simp [tellings, toldOf_tag, movesOf, this, ih next]
    | take | store | cancel | interrupt =>
      rcases (applies_of_apply first).at_lane found with ⟨m, l', es, own, -⟩ | ⟨-, next⟩
      · cases own
      · exact ih next

theorem Run.told_of_lane {acts : List Action} (h : Run x p acts q) {n : Notice}
    (mem : (i, n) ∈ p.told x acts) : i < p.lanes.length := by
  induction h with
  | nil => cases mem
  | @cons p q r a es acts first _ ih =>
    simp only [told, first] at mem
    rcases List.mem_append.mp mem with now | later
    · cases a with
      | lane j m =>
        obtain ⟨l, l', found, -⟩ := apply_lane first
        obtain ⟨n', -, same⟩ := List.mem_map.mp now
        cases same
        exact (List.getElem?_eq_some_iff.mp found).1
      | take | store | cancel | interrupt => cases now
    · exact (applies_of_apply first).lanes_length ▸ ih later

theorem Run.lifecycle {instances : List Instance} {c : Bool} {acts : List Action}
    {jobs : List JobResult} (h : Run x (ofInstances instances c) acts q)
    (results : q.results? = some jobs) {inst : Instance} (at_ : instances[i]? = some inst) :
    ∃ job, jobs[i]? = some job ∧ Lane.Lifecycle x inst ((ofInstances instances c).moves x i acts)
      job (toldOf i ((ofInstances instances c).told x acts)) := by
  obtain ⟨job, l, given, closed, run⟩ := (h.job results).2 i inst at_
  have first : (ofInstances instances c).lanes[i]? = some { subject := inst } := by
    simp [ofInstances, at_]
  exact ⟨job, given, h.toldOf_lane first ▸ run.lifecycle closed⟩

theorem Run.told_subject {instances : List Instance} {c : Bool} {acts : List Action}
    {jobs : List JobResult} (h : Run x (ofInstances instances c) acts q)
    (results : q.results? = some jobs) {n : Notice}
    (mem : (i, n) ∈ (ofInstances instances c).told x acts) :
    ∃ inst, instances[i]? = some inst ∧ n.subject? = some inst := by
  have inside : i < instances.length := by simpa [ofInstances] using h.told_of_lane mem
  have at_ := List.getElem?_eq_getElem inside
  obtain ⟨job, -, lifecycle⟩ := h.lifecycle results at_
  refine ⟨instances[i], at_, lifecycle.subject n ?_⟩
  simpa [toldOf] using mem

theorem Run.told_append {before : List Action} (h : Run x p before q) (after : List Action) :
    p.told x (before ++ after) = p.told x before ++ q.told x after := by
  induction h with
  | nil => rfl
  | cons first _ ih => simp [told, first, ih]

theorem told_cancels (x : Executor) (n : Nat) (p : Pool) :
    p.told x (List.replicate n .cancel) = [] := by
  induction n generalizing p with
  | zero => rfl
  | succ n ih => exact ih p.cancelAll.1

theorem notices_cancelAll (p : Pool) : notices p.cancelAll.2 = [] := by
  unfold cancelAll
  dsimp only
  split <;> rfl

theorem notices_store (x : Executor) (p : Pool) (i : Nat) (r : JobResult) :
    notices (p.store x i r).2 = [] := by
  unfold store
  dsimp only
  split
  · exact notices_cancelAll _
  · rfl

theorem notices_take {l : Lane} (h : p.take i l = some (q, es)) : notices es = [] := by
  unfold take at h
  split at h
  · cases h; rfl
  · cases h; exact notices_cancelAll p
  · cases h

theorem tellings_snd {a : Action} (h : p.apply x a = some (q, es)) :
    (tellings es a).map (·.2) = notices es := by
  cases a with
  | lane i m => simp [tellings, Function.comp_def]
  | take i =>
    simp only [apply] at h
    split at h
    · split at h
      · exact (notices_take h).symm
      · cases h
    · cases h
  | store =>
    obtain ⟨⟨i, r⟩, -, same⟩ := Option.map_eq_some_iff.mp h
    have told := notices_store x p i r
    rw [same] at told
    exact told.symm
  | cancel => cases h; exact (notices_cancelAll p).symm
  | interrupt =>
    simp only [apply] at h
    split at h
    · cases h
    · cases h; exact (notices_cancelAll p).symm

end Pool

end JobMatrix
