import JobMatrix.Run.Lane
import Mathlib.Data.List.Basic

/-! Runs of one lane. `Advances` says what a move can do, case by case; `Stands` says how the phase
of a lane that has begun goes with its results and with what has happened to its processes, and
every move keeps it. -/

namespace JobMatrix

namespace Attempt

@[simp] theorem result_step (a : Attempt) (s : Step) (k : Int) : (a.result s k).step = s := by
  cases a <;> rfl

@[simp] theorem result_index (a : Attempt) (s : Step) (k : Int) : (a.result s k).index = k := by
  cases a <;> rfl

/-- The three ways in which a process that has ended is judged. -/
inductive Judged (s : Step) (o : Output) (expired : Option String) (c : Bool) : Attempt → Prop
  | finished (code : o.code = 0) (inTime : expired = none) : Judged s o expired c (.finished o)
  | cancelled (code : o.code ≠ 0) (inTime : expired = none) (token : c = true) :
      Judged s o expired c (.cancelled ("step '" ++ s.label ++ "'"))
  | failed (bad : o.code ≠ 0 ∨ expired.isSome = true) (open_ : c = false ∨ expired.isSome = true) :
      Judged s o expired c (.failed
        { step := s.label, code := some o.code
          error := expired.map fun limit => "timed out after " ++ limit ++ "s"
          timedOut := expired.isSome, output := some o })

theorem ofEnding_judged (s : Step) (o : Output) (expired : Option String) (c : Bool) :
    Judged s o expired c (ofEnding s o expired c) := by
  unfold ofEnding
  split
  · next good =>
    obtain ⟨code, inTime⟩ : o.code = 0 ∧ expired = none := by simpa using good
    exact .finished code inTime
  · next bad =>
    have bad' : o.code ≠ 0 ∨ expired.isSome = true := by
      cases expired <;> simp_all
    split
    · next stopped =>
      obtain ⟨token, inTime⟩ : c = true ∧ expired = none := by simpa using stopped
      exact .cancelled (by simpa [inTime] using bad') inTime token
    · next going =>
      exact .failed bad' (by cases c <;> cases expired <;> simp_all)

end Attempt

namespace Lane

variable {c : Bool} {x : Executor} {l l' : Lane} {m : Move} {s : Step} {r : StepResult}

/-- A run of a lane: its moves, each with the token as it stands when the move happens. -/
inductive Run (x : Executor) : Lane → List (Bool × Move) → Lane → Prop
  | nil (l : Lane) : Run x l [] l
  | cons {l l' l'' : Lane} {c : Bool} {m : Move} {es : List Emission}
      {moves : List (Bool × Move)} :
      l.advance x c m = some (l', es) → Run x l' moves l'' → Run x l ((c, m) :: moves) l''

/-- The tokens along moves, between a first and a last one: once set, they stay so. -/
def Rising : Bool → List (Bool × Move) → Bool → Prop
  | c, [], d => c = true → d = true
  | c, (e, _) :: rest, d => (c = true → e = true) ∧ Rising e rest d

theorem Rising.weaken {c' d : Bool} {ms : List (Bool × Move)} (h : Rising c' ms d)
    (le : c = true → c' = true) : Rising c ms d := by
  cases ms with
  | nil => exact fun set => h (le set)
  | cons m rest => exact ⟨fun set => h.1 (le set), h.2⟩

/-- What comes of a step whose process is not started, none where it is started or breaks the
lane. -/
def unstarted? (c : Bool) (s : Step) : Launch → Option Attempt
  | .unreadable _ => none
  | .noDirectory path =>
    some (.failed { step := s.label, error := some ("working directory not found: " ++ path) })
  | .started => if c then some (.cancelled "run") else none
  | .refused detail =>
    some (if c then .cancelled "run"
      else .failed { step := s.label, error := some ("could not start: " ++ detail) })
  | .broken _ => if c then some (.cancelled "run") else none

/-- The result of a step for which no time is left. -/
def spentResult (x : Executor) (s : Step) (index : Int) : StepResult :=
  { step := s, index, status := .failure, error := some x.exhausted, timedOut := true }

/-- Whether a limit leaves no time at all. -/
def isSpent (limit : Option Limit) : Bool := limit.elim false fun l => l.amount.nonpositive

/-- What a move does to a lane, by cases. -/
inductive Advances (x : Executor) (c : Bool) (l : Lane) : Move → Lane → Prop
  | refuse {now : Rat} (phase : l.phase = .queued) (token : c = true) :
      Advances x c l (.pick now) { l with phase := .closed .cancelled none }
  | start {m : Move} {now : Rat} {deadline : Option Amount} (phase : l.phase = .queued)
      (move : m = .begin now ∨ m = .pick now ∧ c = false) (told : x.deadline now = .ok deadline) :
      Advances x c l m (proceed { l with deadline }).1
  | startFault {m : Move} {now : Rat} {f : Fault} (phase : l.phase = .queued)
      (move : m = .begin now ∨ m = .pick now ∧ c = false) (untold : x.deadline now = .error f) :
      Advances x c l m { l with phase := .broken f }
  | stop {now : Rat} {s : Step} (phase : l.phase = .looking) (step : l.step? = some s)
      (token : c = true) : Advances x c l (.look now) { l with phase := .closed .cancelled none }
  | spend {now : Rat} {s : Step} (phase : l.phase = .looking) (step : l.step? = some s)
      (token : c = false) (spent : isSpent (x.limitFor s l.deadline now) = true) :
      Advances x c l (.look now) (l.record (spentResult x s l.results.length)).1
  | announce {now : Rat} {s : Step} (phase : l.phase = .looking) (step : l.step? = some s)
      (token : c = false) (left : isSpent (x.limitFor s l.deadline now) = false) :
      Advances x c l (.look now) { l with phase := .starting (x.limitFor s l.deadline now) }
  | unstarted {limit : Option Limit} {s : Step} {how : Launch} {a : Attempt}
      (phase : l.phase = .starting limit) (step : l.step? = some s)
      (attempt : unstarted? c s how = some a) :
      Advances x c l (.launch how) (l.record (a.result s l.results.length)).1
  | launchFault {limit : Option Limit} {s : Step} {how : Launch} {f : Fault}
      (phase : l.phase = .starting limit) (step : l.step? = some s)
      (why : how = .unreadable f ∨ c = false ∧ (how = .broken f ∨
        how = .started ∧ limit.elim false Limit.boundless = true ∧ f = .numberTooLarge)) :
      Advances x c l (.launch how) { l with phase := .broken f }
  | spawn {limit : Option Limit} {s : Step} (phase : l.phase = .starting limit)
      (step : l.step? = some s) (token : c = false) :
      Advances x c l (.launch .started) { l with phase := .running limit false }
  | expire {limit : Limit} (phase : l.phase = .running (some limit) false) :
      Advances x c l .expire { l with phase := .running (some limit) true }
  | exit {limit : Option Limit} {expired : Bool} {code : Int}
      (phase : l.phase = .running limit expired) :
      Advances x c l (.exit code) { l with phase := .draining limit expired code }
  | leave {limit : Option Limit} {expired : Bool} {code : Int} {s : Step} {out err : String}
      {duration : Number} (phase : l.phase = .draining limit expired code)
      (step : l.step? = some s) :
      Advances x c l (.leave out err duration)
        (l.record ((ending c s limit expired ⟨code, out, err, duration⟩).result s
          l.results.length)).1

theorem start_advances {now : Rat} (phase : l.phase = .queued)
    (move : m = .begin now ∨ m = .pick now ∧ c = false) : Advances x c l m (l.start x now).1 := by
  unfold start
  cases told : x.deadline now with
  | error f => exact .startFault phase move told
  | ok deadline => exact .start phase move told

theorem look_advances {now : Rat} (phase : l.phase = .looking) (step : l.step? = some s) :
    Advances x c l (.look now) (l.look x c s now).1 := by
  unfold look
  cases c with
  | true => exact .stop phase step rfl
  | false =>
    cases spent : isSpent (x.limitFor s l.deadline now) with
    | true =>
      have taken := Advances.spend (c := false) phase step rfl spent
      unfold isSpent at spent
      simpa [spent, spentResult] using taken
    | false =>
      have taken := Advances.announce (c := false) phase step rfl spent
      unfold isSpent at spent
      simpa [spent] using taken

theorem unstarted_advances {limit : Option Limit} {how : Launch} {a : Attempt}
    (phase : l.phase = .starting limit) (step : l.step? = some s)
    (attempt : unstarted? c s how = some a) (same : l.launch c s limit how = l.conclude s a) :
    Advances x c l (.launch how) (l.launch c s limit how).1 := by
  rw [same]
  exact .unstarted phase step attempt

theorem launch_advances {limit : Option Limit} (how : Launch) (phase : l.phase = .starting limit)
    (step : l.step? = some s) : Advances x c l (.launch how) (l.launch c s limit how).1 := by
  cases how with
  | unreadable f => exact .launchFault phase step (.inl rfl)
  | noDirectory path => exact unstarted_advances phase step rfl rfl
  | refused detail => cases c <;> exact unstarted_advances phase step rfl rfl
  | broken f =>
    cases c with
    | true => exact unstarted_advances phase step rfl rfl
    | false => exact .launchFault phase step (.inr ⟨rfl, .inl rfl⟩)
  | started =>
    cases c with
    | true => exact unstarted_advances phase step rfl rfl
    | false =>
      cases boundless : limit.elim false Limit.boundless with
      | true =>
        have broken : l.launch false s limit .started =
            ({ l with phase := .broken .numberTooLarge }, []) := by
          simp [launch, boundless]
        rw [broken]
        exact .launchFault phase step (.inr ⟨rfl, .inr ⟨rfl, boundless, rfl⟩⟩)
      | false =>
        have running : l.launch false s limit .started =
            ({ l with phase := .running limit false }, []) := by
          simp [launch, boundless]
        rw [running]
        exact .spawn phase step rfl

theorem advances_of_advance {es : List Emission} (h : l.advance x c m = some (l', es)) :
    Advances x c l m l' := by
  cases m with
  | pick now =>
    simp only [advance] at h
    split at h
    · next phase =>
      cases c with
      | true => cases h; exact .refuse phase rfl
      | false =>
        obtain rfl : (l.start x now).1 = l' := congrArg Prod.fst (Option.some.inj h)
        exact start_advances phase (.inr ⟨rfl, rfl⟩)
    · cases h
  | begin now =>
    simp only [advance] at h
    split at h
    · next phase =>
      obtain rfl : (l.start x now).1 = l' := congrArg Prod.fst (Option.some.inj h)
      exact start_advances phase (.inl rfl)
    · cases h
  | look now =>
    simp only [advance] at h
    split at h
    · next s phase step =>
      obtain rfl : (l.look x c s now).1 = l' := congrArg Prod.fst (Option.some.inj h)
      exact look_advances phase step
    · cases h
  | launch how =>
    simp only [advance] at h
    split at h
    · next limit s phase step =>
      obtain rfl : (l.launch c s limit how).1 = l' := congrArg Prod.fst (Option.some.inj h)
      exact launch_advances how phase step
    · cases h
  | expire =>
    simp only [advance] at h
    split at h
    · next phase step => cases h; exact .expire phase
    · cases h
  | exit code =>
    simp only [advance] at h
    split at h
    · next phase => cases h; exact .exit phase
    · cases h
  | leave out err duration =>
    simp only [advance] at h
    split at h
    · next phase step => cases h; exact .leave phase step
    · cases h

/-! What a result does to its lane. -/

theorem proceed_fst (l : Lane) : l.proceed.1 = { l with
    phase := if l.results.length < l.subject.steps.length then .looking
      else .closed .success none } := by
  unfold proceed
  split <;> rfl

theorem record_success (h : r.status = .success) :
    (l.record r).1 = (proceed { l with results := l.results ++ [r] }).1 := by
  simp [record, h]

theorem record_failure (h : r.status = .failure) :
    (l.record r).1 =
      { l with results := l.results ++ [r], phase := .closed .failure (some r.index) } := by
  simp [record, h, close]

theorem record_cancelled (h : r.status = .cancelled) :
    (l.record r).1 =
      { l with results := l.results ++ [r], phase := .closed .cancelled none } := by
  simp [record, h, close]

theorem record_subject (l : Lane) (r : StepResult) : (l.record r).1.subject = l.subject := by
  unfold record
  split <;> simp [proceed_fst, close]

theorem record_results (l : Lane) (r : StepResult) :
    (l.record r).1.results = l.results ++ [r] := by
  unfold record
  split <;> simp [proceed_fst, close]

theorem record_not_running (l : Lane) (r : StepResult) : (l.record r).1.isRunning = false := by
  unfold record
  split
  · simp only [proceed_fst]
    by_cases more : l.results.length + 1 < l.subject.steps.length <;> simp [isRunning, more]
  · rfl
  · rfl

theorem Advances.subject (h : Advances x c l m l') : l'.subject = l.subject := by
  cases h with
  | start => rw [proceed_fst]
  | spend | unstarted | leave => exact record_subject l _
  | refuse | startFault | stop | announce | launchFault | spawn | expire | exit => rfl

theorem Run.subject {moves : List (Bool × Move)} (h : Run x l moves l') :
    l'.subject = l.subject := by
  induction h with
  | nil => rfl
  | cons first _ ih => exact ih.trans (advances_of_advance first).subject

theorem record_forall {P : Nat → StepResult → Prop} (old : ∀ k q, l.results[k]? = some q → P k q)
    (new : P l.results.length r) : ∀ k q, (l.record r).1.results[k]? = some q → P k q := by
  intro k q at_
  rw [record_results] at at_
  rcases Nat.lt_trichotomy k l.results.length with earlier | same | later
  · rw [List.getElem?_append_left earlier] at at_
    exact old k q at_
  · subst same
    obtain rfl : r = q := by simpa using at_
    exact new
  · rw [List.getElem?_eq_none (by simp; omega)] at at_
    cases at_

/-- Each result stands at the position of its step. -/
def Placed (l : Lane) : Prop :=
  ∀ (k : Nat) (r : StepResult), l.results[k]? = some r →
    r.index = k ∧ l.subject.steps[k]? = some r.step

theorem Placed.record (h : l.Placed) (index : r.index = l.results.length)
    (step : l.step? = some r.step) : (l.record r).1.Placed := by
  unfold Placed
  rw [record_subject]
  exact record_forall h ⟨index, step⟩

theorem Advances.placed (h : Advances x c l m l') (placed : l.Placed) : l'.Placed := by
  cases h with
  | start => rw [proceed_fst]; exact placed
  | spend _ step => exact placed.record rfl step
  | unstarted _ step => exact placed.record (by simp) (by simpa using step)
  | leave _ step => exact placed.record (by simp) (by simpa using step)
  | refuse | startFault | stop | announce | launchFault | spawn | expire | exit => exact placed

/-! What happens to the processes of a lane. -/

/-- Something that happens to the processes of a lane: the process of a step starts, its time is up,
or it ends with a code. -/
inductive Deed where
  | spawned (index : Nat)
  | expired
  | ended (code : Int)
deriving DecidableEq, Repr

variable {ds : List Deed}

/-- What happens to processes at a move from one lane to the next. -/
def deedsOf (l l' : Lane) : Move → List Deed
  | .launch _ => if l'.isRunning then [.spawned l.results.length] else []
  | .expire => [.expired]
  | .exit code => [.ended code]
  | _ => []

/-- What happens to processes along moves, in order. -/
def deeds (x : Executor) : Lane → List (Bool × Move) → List Deed
  | _, [] => []
  | l, (c, m) :: rest =>
    match l.advance x c m with
    | some (l', _) => deedsOf l l' m ++ deeds x l' rest
    | none => []

/-- The first `n` steps, each started and ended with code zero in time before the next. -/
def flawless (n : Nat) : List Deed := (List.range n).flatMap fun k => [.spawned k, .ended 0]

@[simp] theorem flawless_zero : flawless 0 = [] := rfl

theorem flawless_succ (n : Nat) : flawless (n + 1) = flawless n ++ [.spawned n, .ended 0] := by
  simp [flawless, List.range_succ]

/-- The deed of a limit that has run out. -/
def lateness (expired : Bool) : List Deed := if expired then [.expired] else []

/-- The deeds of a step that does not succeed: none when its process was not started, else a process
that runs out of time or ends with another code than zero. -/
def Spoilt (k : Nat) (ds : List Deed) : Prop :=
  ds = [] ∨ ∃ expired code, ds = .spawned k :: lateness expired ++ [.ended code] ∧
    (expired = true ∨ code ≠ 0)

/-- Results that are all successes. -/
def AllOk (rs : List StepResult) : Prop := ∀ r ∈ rs, r.status = .success

/-- How a job of `n` steps stands that has begun: its phase, its results and what has happened to
its processes. -/
inductive Stands (n : Nat) : Phase → List StepResult → List Deed → Prop
  | looking {rs : List StepResult} (ok : AllOk rs) (more : rs.length < n) :
      Stands n .looking rs (flawless rs.length)
  | starting {limit : Option Limit} {rs : List StepResult} (ok : AllOk rs) (more : rs.length < n) :
      Stands n (.starting limit) rs (flawless rs.length)
  | running {limit : Option Limit} {expired : Bool} {rs : List StepResult} (ok : AllOk rs)
      (more : rs.length < n) (limited : expired = true → limit.isSome = true) :
      Stands n (.running limit expired) rs
        (flawless rs.length ++ .spawned rs.length :: lateness expired)
  | draining {limit : Option Limit} {expired : Bool} {code : Int} {rs : List StepResult}
      (ok : AllOk rs) (more : rs.length < n) (limited : expired = true → limit.isSome = true) :
      Stands n (.draining limit expired code) rs
        (flawless rs.length ++ (.spawned rs.length :: lateness expired ++ [.ended code]))
  | success {rs : List StepResult} (ok : AllOk rs) (all : rs.length = n) :
      Stands n (.closed .success none) rs (flawless n)
  | failure {rs : List StepResult} {r : StepResult} {ds : List Deed} (ok : AllOk rs)
      (more : rs.length < n) (status : r.status = .failure) (spoilt : Spoilt rs.length ds) :
      Stands n (.closed .failure (some rs.length)) (rs ++ [r]) (flawless rs.length ++ ds)
  | stopped {rs : List StepResult} (ok : AllOk rs) (more : rs.length < n) :
      Stands n (.closed .cancelled none) rs (flawless rs.length)
  | cancelled {rs : List StepResult} {r : StepResult} {ds : List Deed} (ok : AllOk rs)
      (more : rs.length < n) (status : r.status = .cancelled) (spoilt : Spoilt rs.length ds) :
      Stands n (.closed .cancelled none) (rs ++ [r]) (flawless rs.length ++ ds)
  | broken {f : Fault} {rs : List StepResult} {ds : List Deed} : Stands n (.broken f) rs ds

/-- A lane that has begun, with its deeds so far. -/
def Begun (l : Lane) (ds : List Deed) : Prop :=
  l.Placed ∧ Stands l.subject.steps.length l.phase l.results ds

theorem Stands.record (ok : AllOk l.results) (more : l.results.length < l.subject.steps.length)
    (index : r.index = l.results.length) (status : r.status = .failure ∨ r.status = .cancelled)
    (spoilt : Spoilt l.results.length ds) :
    Stands l.subject.steps.length (l.record r).1.phase (l.record r).1.results
      (flawless l.results.length ++ ds) := by
  rcases status with failed | stopped
  · rw [record_failure failed, index]
    exact .failure ok more failed spoilt
  · rw [record_cancelled stopped]
    exact .cancelled ok more stopped spoilt

theorem Stands.record_success (ok : AllOk l.results)
    (more : l.results.length < l.subject.steps.length) (status : r.status = .success) :
    Stands l.subject.steps.length (l.record r).1.phase (l.record r).1.results
      (flawless (l.results.length + 1)) := by
  have ok' : AllOk (l.results ++ [r]) := by
    intro q mem
    rcases List.mem_append.mp mem with old | new
    · exact ok q old
    · exact (List.mem_singleton.mp new) ▸ status
  have length : (l.results ++ [r]).length = l.results.length + 1 := by simp
  rw [Lane.record_success status, proceed_fst]
  by_cases last : l.results.length + 1 < l.subject.steps.length
  · simp only [length, last, if_true]
    exact length ▸ .looking ok' (by rw [length]; exact last)
  · have all : l.results.length + 1 = l.subject.steps.length := by omega
    simp only [length, last, if_false]
    rw [all]
    exact .success ok' (length.trans all)

theorem unstarted?_status {how : Launch} {a : Attempt} (h : unstarted? c s how = some a) (k : Int) :
    (a.result s k).status = .failure ∨ (a.result s k).status = .cancelled := by
  cases how <;> cases c <;> simp [unstarted?] at h <;> subst h <;> simp [Attempt.result]

/-- What becomes of a process that has ended: a success if it ended with code zero in time, and a
step that is spoilt if not. -/
theorem ending_status (c : Bool) (s : Step) {limit : Option Limit} {expired : Bool} (o : Output)
    (limited : expired = true → limit.isSome = true) (k : Int) :
    ((ending c s limit expired o).result s k).status = .success ∧ o.code = 0 ∧ expired = false ∨
    (((ending c s limit expired o).result s k).status = .failure ∨
      ((ending c s limit expired o).result s k).status = .cancelled) ∧
      (expired = true ∨ o.code ≠ 0) := by
  have judged := Attempt.ofEnding_judged s o (if expired then limit.map Limit.text else none) c
  have inTime (h : (if expired then limit.map Limit.text else none) = none) : expired = false := by
    cases expired with
    | false => rfl
    | true => cases limit <;> simp_all
  unfold ending
  generalize Attempt.ofEnding s o (if expired then limit.map Limit.text else none) c = a at judged
  cases judged with
  | finished code time => exact .inl ⟨rfl, code, inTime time⟩
  | cancelled code => exact .inr ⟨.inr rfl, .inr code⟩
  | failed bad =>
    refine .inr ⟨.inl rfl, ?_⟩
    cases expired <;> simp_all

theorem Advances.stands (h : Advances x c l m l')
    (stands : Stands l.subject.steps.length l.phase l.results ds) :
    Stands l'.subject.steps.length l'.phase l'.results (ds ++ deedsOf l l' m) := by
  rw [h.subject]
  cases h with
  | refuse phase | start phase | startFault phase => rw [phase] at stands; cases stands
  | stop phase =>
    rw [phase] at stands
    cases stands with
    | looking ok more => simpa [deedsOf] using Stands.stopped ok more
  | spend phase =>
    rw [phase] at stands
    cases stands with
    | looking ok more => exact .record ok more rfl (.inl rfl) (.inl rfl)
  | announce phase =>
    rw [phase] at stands
    cases stands with
    | looking ok more => simpa [deedsOf] using Stands.starting ok more
  | unstarted phase _ attempt =>
    rw [phase] at stands
    cases stands with
    | starting ok more =>
      refine .record ok more (by simp) (unstarted?_status attempt _) (.inl ?_)
      simp [deedsOf, record_not_running]
  | launchFault => exact .broken
  | @spawn limit _ phase =>
    rw [phase] at stands
    cases stands with
    | starting ok more =>
      have running : Stands l.subject.steps.length (.running limit false) l.results
          (flawless l.results.length ++ .spawned l.results.length :: lateness false) :=
        .running ok more (by simp)
      exact running
  | @expire limit phase =>
    rw [phase] at stands
    cases stands with
    | running ok more =>
      have late : Stands l.subject.steps.length (.running (some limit) true) l.results
          (flawless l.results.length ++ .spawned l.results.length :: lateness true) :=
        .running ok more (by simp)
      simpa [deedsOf, lateness] using late
  | exit phase =>
    rw [phase] at stands
    cases stands with
    | running ok more limited => simpa [deedsOf] using Stands.draining ok more limited
  | @leave limit expired code s out err duration phase =>
    rw [phase] at stands
    cases stands with
    | draining ok more limited =>
      simp only [deedsOf, List.append_nil]
      rcases ending_status c s ⟨code, out, err, duration⟩ limited l.results.length with
        ⟨status, zero, inTime⟩ | ⟨status, bad⟩
      · simp only at zero
        subst zero inTime
        exact flawless_succ _ ▸ .record_success ok more status
      · exact .record ok more (by simp) status (.inr ⟨expired, code, rfl, bad⟩)

theorem Advances.begun (h : Advances x c l m l') (begun : l.Begun ds) :
    l'.Begun (ds ++ deedsOf l l' m) :=
  ⟨h.placed begun.1, h.stands begun.2⟩

theorem Run.begun {moves : List (Bool × Move)} (h : Run x l moves l') (begun : l.Begun ds) :
    l'.Begun (ds ++ l.deeds x moves) := by
  induction h generalizing ds with
  | nil => simpa [deeds] using begun
  | cons first _ ih =>
    have next := ih ((advances_of_advance first).begun begun)
    simpa [deeds, first] using next

theorem deedsOf_start {now : Rat} (l l' : Lane)
    (move : m = .begin now ∨ m = .pick now ∧ c = false) : deedsOf l l' m = [] := by
  rcases move with rfl | ⟨rfl, -⟩ <;> rfl

/-- A job that begins stands before its first step, is over at once when it has none, or breaks. -/
theorem begun_of_start {now : Rat} (phase : l.phase = .queued) (fresh : l.results = [])
    (move : m = .begin now ∨ m = .pick now ∧ c = false) (h : Advances x c l m l') :
    l'.Begun [] := by
  have placed : l.Placed := by
    intro k r at_
    simp [fresh] at at_
  refine ⟨h.placed placed, ?_⟩
  cases h with
  | refuse _ token => rcases move with move | ⟨-, c⟩ <;> simp_all
  | start =>
    have ok : AllOk [] := by simp [AllOk]
    simp only [proceed_fst, fresh]
    by_cases more : 0 < l.subject.steps.length
    · simpa [more] using Stands.looking ok more
    · have all : 0 = l.subject.steps.length := by omega
      simpa [← all] using Stands.success ok all
  | startFault => exact .broken
  | stop phase' | spend phase' | announce phase' | unstarted phase' | launchFault phase'
  | spawn phase' | expire phase' | exit phase' | leave phase' => rw [phase] at phase'; cases phase'

theorem phase_of_isOver (done : l.isOver = true) :
    (∃ status failedAt, l.phase = .closed status failedAt) ∨ ∃ f, l.phase = .broken f := by
  unfold isOver at done
  split at done
  · next status failedAt phase => exact .inl ⟨status, failedAt, phase⟩
  · next f phase => exact .inr ⟨f, phase⟩
  · cases done

theorem advance_over (x : Executor) (c : Bool) (done : l.isOver = true) (m : Move) :
    l.advance x c m = none := by
  rcases phase_of_isOver done with ⟨status, failedAt, phase⟩ | ⟨f, phase⟩
  · cases m <;> simp [advance, phase]
  · cases m <;> simp [advance, phase]

theorem isOver_of_result {r : JobResult} (closed : l.result? = some r) : l.isOver = true := by
  unfold result? at closed
  split at closed
  · next phase => simp [isOver, phase]
  · cases closed

theorem result_subject {r : JobResult} (closed : l.result? = some r) : r.subject = l.subject := by
  unfold result? at closed
  split at closed
  · cases closed; rfl
  · cases closed

/-- How a lane stands that comes from the queue: still there, taken under a cancelled token, or
begun. -/
inductive FromQueue (i : Instance) (ds : List Deed) : Lane → Prop
  | queued (idle : ds = []) : FromQueue i ds { subject := i }
  | refused (idle : ds = []) : FromQueue i ds { subject := i, phase := .closed .cancelled none }
  | begun {l : Lane} (subject : l.subject = i) (begun : l.Begun ds) : FromQueue i ds l

theorem Run.fromQueue {i : Instance} {moves : List (Bool × Move)}
    (h : Run x { subject := i } moves l) : FromQueue i (deeds x { subject := i } moves) l := by
  cases h with
  | nil => exact .queued rfl
  | @cons _ l' _ c m es moves first rest =>
    have same := (Run.cons first rest).subject
    have taken := advances_of_advance first
    have own : deeds x { subject := i } ((c, m) :: moves) =
        deedsOf { subject := i } l' m ++ l'.deeds x moves := by
      simp [deeds, first]
    rw [own]
    cases advances_of_advance first with
    | refuse _ token =>
      cases rest with
      | nil => exact .refused rfl
      | cons next => rw [advance_over x _ rfl] at next; cases next
    | start _ move | startFault _ move =>
      rw [deedsOf_start _ _ move]
      exact .begun same (rest.begun (begun_of_start rfl rfl move taken))
    | stop phase | spend phase | announce phase | unstarted phase | launchFault phase
    | spawn phase | expire phase | exit phase | leave phase => cases phase

end Lane

end JobMatrix
