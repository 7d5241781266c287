import JobMatrix.Proofs.JobShape
import JobMatrix.Proofs.Lifecycle
import Mathlib.Algebra.Order.Monoid.Unbundled.WithTop
import Mathlib.Algebra.Order.Ring.Rat

/-! Deadlines. The limit of a step is made afresh when its lane looks at the clock, from what is
left of the time of the job and from the limit of the step itself. Main statement: a process is
started only with time left, its limit never reaches past the deadline of its job, and a job that
comes to a step at its deadline fails there. -/

namespace JobMatrix

namespace Amount

/-- The line of rationals with its two ends. -/
abbrev Seconds := WithBot (WithTop ℚ)

/-- The place of a reading of the clock on the line. -/
abbrev moment (q : ℚ) : Seconds := (q : WithTop ℚ)

/-- The place of an amount on the line, none for an unknown one. -/
def value? : Amount → Option Seconds
  | exactly q => some (moment q)
  | above => some (⊤ : WithTop ℚ)
  | below => some ⊥
  | unknown => none

variable {a : Amount} {v : Seconds}

theorem value?_of_ne_unknown (known : a ≠ .unknown) : ∃ v, a.value? = some v := by
  cases a with
  | unknown => exact absurd rfl known
  | exactly | above | below => exact ⟨_, rfl⟩

theorem less_iff {b : Amount} {w : Seconds} (left : a.value? = some v) (right : b.value? = some w) :
    a.less b = true ↔ v < w := by
  have end_ (q : ℚ) : moment q < (⊤ : WithTop ℚ) :=
    WithBot.coe_lt_coe.mpr (WithTop.coe_lt_top q)
  cases a <;> cases b <;> cases left <;> cases right <;> simp [less, -WithBot.coe_top, end_]

theorem nonpositive_iff (told : a.value? = some v) : a.nonpositive = true ↔ v ≤ 0 := by
  cases a with
  | unknown => cases told
  | above =>
    cases told
    have end_ : ¬((⊤ : WithTop ℚ) : Seconds) ≤ (0 : WithTop ℚ) := by simp [-WithBot.coe_top]
    exact ⟨fun h => (Bool.false_ne_true h).elim, fun h => absurd h end_⟩
  | exactly | below => cases told; simp [nonpositive]

theorem value?_plus (q : ℚ) (told : a.value? = some v) :
    (a.plus q).value? = some (moment q + v) := by
  cases a <;> cases told <;> simp [plus, value?, -WithBot.coe_top, ← WithBot.coe_add]

/-- What is left of an amount makes it up again with what was taken away. -/
theorem value?_minus (q : ℚ) (told : a.value? = some v) :
    ∃ w, (a.minus q).value? = some w ∧ moment q + w = v := by
  cases a with
  | unknown => cases told
  | exactly b =>
    cases told
    refine ⟨_, rfl, ?_⟩
    rw [← WithBot.coe_add, ← WithTop.coe_add, add_sub_cancel]
  | above => cases told; exact ⟨_, rfl, by rw [← WithBot.coe_add, WithTop.add_top]⟩
  | below => cases told; exact ⟨_, rfl, WithBot.add_bot _⟩

theorem nonpos_of_add_le {q : ℚ} (le : moment q + v ≤ moment q) : v ≤ 0 := by
  cases v using WithBot.recBotCoe with
  | bot => exact bot_le
  | coe v =>
    cases v using WithTop.recTopCoe with
    | top => rw [← WithBot.coe_add, WithTop.add_top, WithBot.coe_le_coe] at le; simp at le
    | coe v =>
      have le : q + v ≤ q := by exact_mod_cast le
      have le : v ≤ 0 := by simpa using le
      exact_mod_cast le

end Amount

namespace Executor

variable {x : Executor}

/-- Under a deadline the limit of a step reaches no further than the deadline, and no further than
the limit of the step itself. -/
theorem limitFor_within {s : Step} {due : Amount} {t : Amount.Seconds} (now : ℚ)
    (told : due.value? = some t) (known : ∀ n, x.ownTimeout s = some n → n.amount ≠ .unknown) :
    ∃ limit d, x.limitFor s (some due) now = some limit ∧ limit.amount.value? = some d ∧
      Amount.moment now + d ≤ t ∧
      ∀ n, x.ownTimeout s = some n → ∃ v, n.amount.value? = some v ∧ d ≤ v := by
  obtain ⟨left, rest, sum⟩ := Amount.value?_minus now told
  have reach {d : Amount.Seconds} (le : d ≤ left) :
      Amount.moment now + d ≤ t := sum ▸ by gcongr
  unfold limitFor
  cases own : x.ownTimeout s with
  | none => exact ⟨_, left, rfl, rest, reach le_rfl, fun n given => nomatch given⟩
  | some n =>
    obtain ⟨v, value⟩ := Amount.value?_of_ne_unknown (known n own)
    have less := Amount.less_iff rest value
    simp only [Option.map_some]
    by_cases sooner : left < v
    · refine ⟨_, left, by rw [Limit.remaining, Limit.ofNumber, if_pos (less.mpr sooner)],
        rest, reach le_rfl, ?_⟩
      rintro n' ⟨⟩
      exact ⟨v, value, sooner.le⟩
    · refine ⟨_, v, by rw [Limit.remaining, Limit.ofNumber, if_neg fun h => sooner (less.mp h)],
        value, reach (not_lt.mp sooner), ?_⟩
      rintro n' ⟨⟩
      exact ⟨v, value, le_rfl⟩

theorem deadline_of_total {total : Number} {start : ℚ} {deadline : Option Amount}
    (given : x.jobTimeout = some total) (nonzero : total.isZero = false)
    (told : x.deadline start = .ok deadline) : some (total.amount.plus start) = deadline := by
  simp only [Executor.deadline, given, nonzero, Bool.false_eq_true, if_false] at told
  split at told
  · cases told
  · cases told; rfl

theorem deadline_of_untimed {start : ℚ} {deadline : Option Amount}
    (untimed : ∀ total, x.jobTimeout = some total → total.isZero = true)
    (told : x.deadline start = .ok deadline) : none = deadline := by
  unfold Executor.deadline at told
  split at told
  · next total given => simpa [untimed total given] using told
  · cases told; rfl

end Executor

/-- The limit of the step that is announced or under way. -/
def Phase.limit? : Phase → Option (Option Limit)
  | .starting limit => some limit
  | .running limit _ => some limit
  | .draining limit _ _ => some limit
  | _ => none

namespace Lane

variable {x : Executor} {l l' : Lane} {moves : List (Bool × Move)} {c : Bool} {m : Move}
  {i : Instance}

/-- The lane after moves, none where one of them cannot happen. -/
def after? (x : Executor) : Lane → List (Bool × Move) → Option Lane
  | l, [] => some l
  | l, (c, m) :: rest =>
    match l.advance x c m with
    | some (l', _) => after? x l' rest
    | none => none

theorem run_of_after? (h : l.after? x moves = some l') : Run x l moves l' := by
  induction moves generalizing l with
  | nil => cases h; exact .nil _
  | cons m rest ih =>
    simp only [after?] at h
    split at h
    · next first => exact .cons first (ih h)
    · cases h

/-- The limit of the step at hand was made at the last look at the clock, with time left. -/
def LimitedAt (x : Executor) (l : Lane) (last : Option ℚ) : Prop :=
  ∀ limit, l.phase.limit? = some limit → ∃ s now, l.step? = some s ∧ last = some now ∧
    limit = x.limitFor s l.deadline now ∧ isSpent limit = false

theorem proceed_limit? (l : Lane) : l.proceed.1.phase.limit? = none := by
  rw [proceed_fst]
  dsimp only
  split <;> rfl

theorem record_limit? (l : Lane) (r : StepResult) : (l.record r).1.phase.limit? = none := by
  unfold record
  split
  · exact proceed_limit? _
  · rfl
  · rfl

theorem Advances.limitedAt {last : Option ℚ} (h : Advances x c l m l')
    (limited : LimitedAt x l last) : LimitedAt x l' (m.look?.or last) := by
  have unlimited {l' : Lane} (none_ : l'.phase.limit? = none) (last : Option ℚ) :
      LimitedAt x l' last := fun limit some_ => nomatch none_.symm.trans some_
  cases h with
  | refuse | startFault | stop | launchFault => exact unlimited rfl _
  | start => exact unlimited (proceed_limit? _) _
  | spend | unstarted | leave => exact unlimited (record_limit? l _) _
  | @announce now s _ step _ left =>
    rintro limit ⟨⟩
    exact ⟨s, now, step, rfl, rfl, left⟩
  | spawn phase | expire phase | exit phase =>
    rintro limit ⟨⟩
    exact limited _ (by rw [phase]; rfl)

theorem Run.limitedAt {last : Option ℚ} (h : Run x l moves l') (limited : LimitedAt x l last) :
    LimitedAt x l' ((looks moves).getLast?.or last) := by
  induction h generalizing last with
  | nil => exact limited
  | @cons l l' l'' c m es moves first _ ih =>
    have next := ih ((advances_of_advance first).limitedAt limited)
    have looked : m.look?.toList.getLast? = m.look? := by cases m.look? <;> rfl
    rw [looks_cons, List.getLast?_append, looked, Option.or_assoc]
    exact next

theorem Run.split {before after : List (Bool × Move)} (h : Run x l (before ++ after) l') :
    ∃ mid, Run x l before mid ∧ Run x mid after l' ∧
      l.deeds x (before ++ after) = l.deeds x before ++ mid.deeds x after := by
  induction before generalizing l with
  | nil => exact ⟨l, .nil l, h, rfl⟩
  | cons m before ih =>
    cases h with
    | cons first rest =>
      obtain ⟨mid, begins, ends, deeds_⟩ := ih rest
      exact ⟨mid, .cons first begins, ends, by simp [deeds, first, deeds_]⟩

/-- A job that is opened at a time has the deadline of that time, unless it is over. -/
theorem Run.due {start : ℚ} (opens : m = .begin start ∨ m = .pick start)
    (h : Run x { subject := i } ((c, m) :: moves) l) (busy : l.isOver = false) :
    x.deadline start = .ok l.deadline := by
  cases h with
  | @cons _ l' _ _ _ _ _ first rest =>
    have begun : l' = (Lane.start x { subject := i } start).1 := by
      rcases opens with rfl | rfl
      · exact (congrArg Prod.fst (Option.some.inj first)).symm
      · cases c with
        | false => exact (congrArg Prod.fst (Option.some.inj first)).symm
        | true =>
          cases first
          cases rest with
          | nil => cases busy
          | cons next => rw [advance_over x _ rfl] at next; cases next
    subst begun
    obtain ⟨story, timed⟩ := start_story x i start
    rcases rest.timed story timed with told | ⟨f, phase⟩
    · exact told
    · simp [isOver, phase] at busy

/-- The limit of a process that is under way was made at the last look at the clock. -/
theorem Run.running_limit {start : ℚ} (opens : m = .begin start ∨ m = .pick start)
    (h : Run x { subject := i } ((c, m) :: moves) l) {limit : Option Limit} {expired : Bool}
    (phase : l.phase = .running limit expired) :
    ∃ s now deadline, l.step? = some s ∧ (looks moves).getLast? = some now ∧
      x.deadline start = .ok deadline ∧ limit = x.limitFor s deadline now ∧
      isSpent limit = false := by
  have told := h.due opens (by simp [isOver, phase])
  have fresh : LimitedAt x { subject := i } none := fun _ given => by cases given
  obtain ⟨s, now, step, last, made, left⟩ := h.limitedAt fresh limit (by rw [phase]; rfl)
  have unseen : looks ((c, m) :: moves) = looks moves := by rcases opens with rfl | rfl <;> rfl
  rw [unseen, Option.or_none] at last
  exact ⟨s, now, l.deadline, step, last, told, made, left⟩

/-- A job that has come to a step has had the steps before it succeed, and no other process. -/
theorem FromQueue.looking {ds : List Deed} (h : FromQueue i ds l) (phase : l.phase = .looking) :
    ds = flawless l.results.length ∧ l.results.length < l.subject.steps.length := by
  cases h with
  | queued | refused => cases phase
  | begun _ begun =>
    have stands := begun.2
    rw [phase] at stands
    cases stands with
    | looking _ more => exact ⟨rfl, more⟩

theorem Run.can_look (h : Run x { subject := i } moves l) (phase : l.phase = .looking)
    (token : Bool) (now : ℚ) : ∃ l' es, l.advance x token (.look now) = some (l', es) := by
  have step : l.step? = some _ := List.getElem?_eq_getElem (h.fromQueue.looking phase).2
  exact ⟨_, _, by simp only [advance, phase, step]; rfl⟩

/-- A look at the clock at which no time is left for the step ends the job: with the failure of the
step, unless the token is set. -/
theorem Advances.spent {now : ℚ} (h : Advances x c l (.look now) l')
    (spent : l.phase = .looking → ∀ s, l.step? = some s →
      isSpent (x.limitFor s l.deadline now) = true) :
    l.phase = .looking ∧ l'.isOver = true ∧ (c = false → ∃ s, l.step? = some s ∧
      l'.phase = .closed .failure (some l.results.length) ∧
      l'.results = l.results ++ [spentResult x s l.results.length]) := by
  cases h with
  | stop phase _ token => exact ⟨phase, rfl, fun unset => nomatch token.symm.trans unset⟩
  | @spend _ s phase step =>
    rw [record_failure rfl]
    exact ⟨phase, rfl, fun _ => ⟨s, step, rfl, rfl⟩⟩
  | announce phase step _ left => exact nomatch (spent phase _ step).symm.trans left
  | start _ move | startFault _ move => rcases move with move | ⟨move, -⟩ <;> cases move

/-- A job comes to an end where it looks at the clock with no time left, and the process of no
further step is started. -/
theorem Run.spent {before after : List (Bool × Move)} {now : ℚ}
    (h : Run x { subject := i } (before ++ (c, .look now) :: after) l)
    (spent : ∀ mid, Run x { subject := i } before mid → mid.phase = .looking →
      ∀ s, mid.step? = some s → isSpent (x.limitFor s mid.deadline now) = true) :
    after = [] ∧ l.isOver = true ∧ (c = false → ∃ rs s, i.steps[rs.length]? = some s ∧
      l.phase = .closed .failure (some rs.length) ∧
      l.results = rs ++ [spentResult x s rs.length] ∧
      ∀ j, rs.length ≤ j →
        .spawned j ∉ deeds x { subject := i } (before ++ (c, .look now) :: after)) := by
  obtain ⟨mid, begins, ends, deeds_⟩ := h.split
  rw [deeds_]
  cases ends with
  | @cons _ next _ _ _ _ _ first rest =>
    obtain ⟨phase, done, failed⟩ := (advances_of_advance first).spent (spent mid begins)
    cases rest with
    | cons further => rw [advance_over x _ done] at further; cases further
    | nil =>
      refine ⟨rfl, done, fun token => ?_⟩
      obtain ⟨s, step, closed, results⟩ := failed token
      rw [step?, begins.subject] at step
      refine ⟨mid.results, s, step, closed, results, fun j le mem => ?_⟩
      rw [(begins.fromQueue.looking phase).1] at mem
      simp only [deeds, first, deedsOf, List.append_nil] at mem
      exact Nat.not_le_of_lt (mem_flawless mem) le

theorem isSpent_at_deadline {s : Step} {due : Amount} {t : Amount.Seconds} {now : ℚ}
    (told : due.value? = some t) (known : ∀ n, x.ownTimeout s = some n → n.amount ≠ .unknown)
    (reached : t ≤ Amount.moment now) : isSpent (x.limitFor s (some due) now) = true := by
  obtain ⟨limit, d, made, value, within, -⟩ := x.limitFor_within now told known
  rw [made]
  exact (Amount.nonpositive_iff value).mpr (Amount.nonpos_of_add_le (within.trans reached))

/-- The deadline bounds every step. In a job with a time limit that begins at `start`, every process
under way has a limit `d` above zero, which was made at the last look at the clock, reaches no
further than `start` and the time limit together, and is at most the limit of its step. A job that
has come to a step can look at the clock, and if it does at that time or later, it moves no more:
unless the token is set, the step fails for want of time, and neither its process nor one of a later
step is started. Without a time limit the limit of a process is that of its step, or the general
one, or none. -/
theorem deadline_bounds_every_step {x : Executor} {i : Instance} {c : Bool} {m : Move} {start : ℚ}
    {moves : List (Bool × Move)} {l : Lane} (opens : m = .begin start ∨ m = .pick start)
    (known : ∀ s ∈ i.steps, ∀ n, (s.timeout <|> x.stepTimeout) = some n → n.amount ≠ .unknown)
    (run : Run x { subject := i } ((c, m) :: moves) l) :
    (∀ total t, x.jobTimeout = some total → total.isZero = false → total.amount.value? = some t →
      (∀ limit expired, l.phase = .running limit expired →
        ∃ s now given d, l.step? = some s ∧ (looks moves).getLast? = some now ∧
          limit = some given ∧ given.amount.value? = some d ∧ 0 < d ∧
          Amount.moment now + d ≤ Amount.moment start + t ∧
          ∀ n, (s.timeout <|> x.stepTimeout) = some n → ∃ v, n.amount.value? = some v ∧ d ≤ v) ∧
      (l.phase = .looking → ∀ token now, ∃ l' es, l.advance x token (.look now) = some (l', es)) ∧
      (∀ before after token now, moves = before ++ (token, .look now) :: after →
        Amount.moment start + t ≤ Amount.moment now →
        after = [] ∧ l.isOver = true ∧ (token = false →
          ∃ rs s, i.steps[rs.length]? = some s ∧
            l.phase = .closed .failure (some rs.length) ∧
            l.results = rs ++ [{ step := s, index := rs.length, status := .failure
                                 error := some x.exhausted, timedOut := true }] ∧
            ∀ j, rs.length ≤ j → .spawned j ∉ deeds x { subject := i } ((c, m) :: moves)))) ∧
    ((∀ total, x.jobTimeout = some total → total.isZero = true) →
      ∀ limit expired, l.phase = .running limit expired →
        ∃ s, l.step? = some s ∧ limit = (s.timeout <|> x.stepTimeout).map Limit.ofNumber) := by
  have own {l' : Lane} {s : Step} (subject : l'.subject = i) (step : l'.step? = some s) :
      ∀ n, x.ownTimeout s = some n → n.amount ≠ .unknown := by
    rw [step?, subject] at step
    exact known s (List.mem_of_getElem? step)
  refine ⟨fun total t given nonzero value => ⟨?_, run.can_look, ?_⟩, ?_⟩
  · intro limit expired phase
    obtain ⟨s, now, deadline, step, last, due, rfl, left⟩ := run.running_limit opens phase
    obtain rfl : some (total.amount.plus start) = deadline :=
      x.deadline_of_total given nonzero due
    obtain ⟨limit, d, made, amount, within, bounded⟩ :=
      x.limitFor_within now (Amount.value?_plus start value) (own run.subject step)
    refine ⟨s, now, limit, d, step, last, made, amount, ?_, within, bounded⟩
    rw [made] at left
    exact not_le.mp fun le => nomatch left.symm.trans ((Amount.nonpositive_iff amount).mpr le)
  · rintro before after token now rfl reached
    have whole : Run x { subject := i } (((c, m) :: before) ++ (token, .look now) :: after) l := run
    refine whole.spent fun mid begins phase s step => ?_
    have due := begins.due opens (by simp [isOver, phase])
    rw [← x.deadline_of_total given nonzero due]
    exact isSpent_at_deadline (Amount.value?_plus start value) (own begins.subject step) reached
  · intro untimed limit expired phase
    obtain ⟨s, now, deadline, step, last, due, rfl, left⟩ := run.running_limit opens phase
    obtain rfl : none = deadline := x.deadline_of_untimed untimed due
    exact ⟨s, step, rfl⟩

/-- A job of two steps that begins at 5 with 10 seconds: its first step, which has 3 of its own, is
under way after a look at 6, and a look at 15 comes too late for the second. -/
theorem deadline_bounds_two_steps :
    let one : Step := { command := .line "make", timeout := some (.int 3) }
    let two : Step := { command := .line "test" }
    let i : Instance :=
      { template := .text "job", index := 0, bindings := [], steps := [one, two], env := [] }
    let x : Executor := { jobTimeout := some (.int 10) }
    let early : List (Bool × Move) := [(false, .look 6), (false, .launch .started)]
    let late : List (Bool × Move) :=
      [(false, .exit 0), (false, .leave "" "" (.int 0)), (false, .look 15)]
    (∃ l given expired d, Run x { subject := i } ((false, .begin 5) :: early) l ∧
      l.phase = .running (some given) expired ∧ given.amount.value? = some d ∧ 0 < d ∧
      Amount.moment 6 + d ≤ Amount.moment 5 + Amount.moment 10 ∧ d ≤ Amount.moment 3) ∧
    ∃ l r, Run x { subject := i } ((false, .begin 5) :: (early ++ late)) l ∧
      l.results[1]? = some r ∧ r.step = two ∧ r.status = .failure ∧ r.timedOut = true ∧
      .spawned 1 ∉ deeds x { subject := i } ((false, .begin 5) :: (early ++ late)) := by
  intro one two i x early late
  have known : ∀ s ∈ i.steps, ∀ n, (s.timeout <|> x.stepTimeout) = some n →
      n.amount ≠ .unknown := by
    simp [i, one, two, x, Number.amount]
  constructor
  · have under : (after? x { subject := i } ((false, .begin 5) :: early)).map
        (fun l => (l.isRunning, l.results.length)) = some (true, 0) := by decide +kernel
    obtain ⟨l, after, state⟩ := Option.map_eq_some_iff.mp under
    obtain ⟨running, count⟩ := Prod.mk.inj state
    have run := run_of_after? after
    unfold isRunning at running
    split at running
    · next limit expired phase =>
      obtain ⟨s, now, given, d, step, last, rfl, value, positive, within, own⟩ :=
        ((deadline_bounds_every_step (.inl rfl) known run).1 (.int 10) _ rfl rfl rfl).1 _ _ phase
      cases last
      rw [step?, run.subject, count] at step
      cases step
      obtain ⟨v, three, le⟩ := own _ rfl
      cases three
      exact ⟨l, given, expired, d, run, phase, value, positive, within, le⟩
    · cases running
  · have ended : (after? x { subject := i } ((false, .begin 5) :: (early ++ late))).map
        (·.results.length) = some 2 := by decide +kernel
    obtain ⟨l, after, count⟩ := Option.map_eq_some_iff.mp ended
    have run := run_of_after? after
    obtain ⟨rs, s, step, -, results, unstarted⟩ :=
      (((deadline_bounds_every_step (.inl rfl) known run).1 (.int 10) _ rfl rfl rfl).2.2
        (early ++ late.take 2) [] false 15 rfl (by decide +kernel)).2.2 rfl
    have at_ : l.results[rs.length]? = some (spentResult x s rs.length) := by
      rw [results]
      exact List.getElem?_concat_length
    have one_ : rs.length = 1 := by simpa [results] using count
    rw [one_] at step at_ unstarted
    cases step
    exact ⟨l, spentResult x two 1, run, at_, rfl, rfl, rfl, unstarted 1 (Nat.le_refl 1)⟩

end Lane

end JobMatrix
