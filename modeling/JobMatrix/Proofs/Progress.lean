import Mathlib.Algebra.GroupWithZero.Nat
import Mathlib.Data.Finset.Card
import JobMatrix.Proofs.Pool

/-! A run of a pool comes to its end. `toGo` bounds what a lane, and a pool, can still do, and every
action but an outside cancellation makes it less. Main statement: a pool without broken lanes comes
to rest exactly when the result of each lane is stored, so that nobody waits for ever. -/

namespace JobMatrix

namespace Lane

/-- A bound on the moves that a lane can still make; a step takes at most five. -/
def toGo (l : Lane) : Nat :=
  let later := 5 * (l.subject.steps.length - l.results.length - 1)
  match l.phase with
  | .queued => later + 6
  | .looking => later + 5
  | .starting _ => later + 4
  | .running _ false => later + 3
  | .running _ true => later + 2
  | .draining .. => later + 1
  | .closed .. => 0
  | .broken _ => 0

theorem record_toGo_le (l : Lane) (r : StepResult) :
    (l.record r).1.toGo ≤ 5 * (l.subject.steps.length - l.results.length - 1) := by
  unfold record
  split
  · simp only [proceed_fst]
    by_cases more : l.results.length + 1 < l.subject.steps.length
    · simp only [toGo, List.length_append, List.length_singleton, more, if_true]
      omega
    · simp [toGo, more]
  · exact Nat.zero_le _
  · exact Nat.zero_le _

theorem Advances.toGo_lt {x : Executor} {c : Bool} {l l' : Lane} {m : Move}
    (h : Advances x c l m l') : l'.toGo < l.toGo := by
  cases h with
  | refuse phase | startFault phase | stop phase => simp [toGo, phase]
  | start phase =>
    rw [proceed_fst]
    by_cases more : l.results.length < l.subject.steps.length <;> simp [toGo, phase, more]
  | announce phase => simp [toGo, phase]
  | spend phase | unstarted phase | leave phase =>
    refine Nat.lt_of_le_of_lt (record_toGo_le l _) ?_
    simp [toGo, phase]
  | launchFault phase | spawn phase | expire phase => simp [toGo, phase]
  | @exit limit expired code phase => cases expired <;> simp [toGo, phase]

/-- Whether a move takes a job out of the queue. -/
def Move.opens : Move → Bool
  | .pick _ => true
  | .begin _ => true
  | _ => false

/-- A job that has begun can go on until it is over, whatever the token says; where a process is to
start, it can by finding no directory. -/
theorem Begun.goes_on {l : Lane} {ds : List Deed} (begun : l.Begun ds) (live : l.isOver = false)
    (x : Executor) (c : Bool) :
    ∃ m l' es, m.opens = false ∧
      (∀ how s, m = .launch how → l.step? = some s →
        how = .noDirectory (x.contextFor l.subject s).cwd.text) ∧
      l.advance x c m = some (l', es) := by
  obtain ⟨-, stands⟩ := begun
  obtain ⟨i, phase, deadline, results⟩ := l
  have present (more : results.length < i.steps.length) :
      ∃ s, i.steps[results.length]? = some s := ⟨_, List.getElem?_eq_getElem more⟩
  cases stands with
  | looking _ more =>
    obtain ⟨s, step⟩ := present more
    exact ⟨.look 0, _, _, rfl, by simp, by simp only [advance, step?, step]; rfl⟩
  | starting _ more =>
    obtain ⟨s, step⟩ := present more
    refine ⟨.launch (.noDirectory (x.contextFor i s).cwd.text), _, _, rfl,
      fun how s' same at_ => ?_, by simp only [advance, step?, step]; rfl⟩
    obtain rfl : s = s' := Option.some.inj (step.symm.trans at_)
    exact (Move.launch.inj same).symm
  | running _ _ => exact ⟨.exit 0, _, _, rfl, by simp, rfl⟩
  | draining _ more =>
    obtain ⟨s, step⟩ := present more
    exact ⟨.leave "" "" (.int 0), _, _, rfl, by simp, by simp only [advance, step?, step]; rfl⟩
  | success | failure | stopped | cancelled | broken => cases live

end Lane

/-- Whether an action comes from the workers or the collector. Workers take instances from the
queue; nobody begins a job by itself. -/
def Action.isInner : Action → Bool
  | .lane _ (.begin _) => false
  | .lane .. => true
  | .take _ => true
  | .store => true
  | .cancel => false
  | .interrupt => false

def Action.isCancel : Action → Bool
  | .cancel => true
  | _ => false

namespace Pool

variable {p q : Pool} {i : Nat} {x : Executor} {l : Lane}

/-- The positions for which no result is stored. -/
def missing (p : Pool) : Finset Nat :=
  (Finset.range p.lanes.length).filter fun i => Dict.contains p.stored i = false

/-- A bound on what the collector has still to do: it takes and stores each result that is missing,
may be interrupted and take one again, and may meet a fault. -/
def errands (p : Pool) : Nat :=
  2 * p.missing.card + (if p.hand.isNone then 1 else 0) + (if p.interrupted then 0 else 2) +
    if p.fault.isNone then 1 else 0

/-- A bound on the actions that are left, outside cancellations apart. -/
def toGo (p : Pool) : Nat := (p.lanes.map Lane.toGo).sum + p.errands

/-- What the collector has in its hand is not stored yet, and a fault that it has met is that of a
lane. -/
structure Tidy (p : Pool) : Prop where
  hand : ∀ i r, p.hand = some (i, r) → i ∈ p.missing
  fault : ∀ f, p.fault = some f → ∃ (i : Nat) (l : Lane), p.lanes[i]? = some l ∧ l.phase = .broken f

theorem mem_missing : i ∈ p.missing ↔ i < p.lanes.length ∧ Dict.contains p.stored i = false := by
  simp [missing]

theorem awaits_iff :
    p.awaits i = true ↔ p.hand = none ∧ p.fault = none ∧ Dict.contains p.stored i = false := by
  simp [awaits, and_assoc]

theorem Applies.tidy {a : Action} (h : Applies x p a q) (tidy : p.Tidy) : q.Tidy := by
  -- a lane that is broken stays so, whichever the action
  have faults (f : Fault) (met : p.fault = some f) :
      ∃ (i : Nat) (l : Lane), q.lanes[i]? = some l ∧ l.phase = .broken f := by
    obtain ⟨i, l, found, phase⟩ := tidy.fault f met
    exact ⟨i, l, h.stays found (by simp [Lane.isOver, phase]), phase⟩
  cases h with
  | lane =>
    refine ⟨fun i r held => ?_, faults⟩
    simpa [mem_missing, setLane] using tidy.hand i r held
  | take found awaited =>
    refine ⟨fun i r held => ?_, faults⟩
    cases held
    exact mem_missing.mpr ⟨(List.getElem?_eq_some_iff.mp found).1, (awaits_iff.mp awaited).2.2⟩
  | @takeFault i l f found awaited phase =>
    refine ⟨fun i r held => ?_, fun g met => ?_⟩
    · rw [(awaits_iff.mp awaited).1] at held
      cases held
    · cases met
      exact ⟨i, l, found, phase⟩
  | store => exact ⟨fun i r held => (by cases held), faults⟩
  | cancel => exact ⟨tidy.hand, faults⟩
  | interrupt => exact ⟨fun i r held => (by cases held), faults⟩

theorem Run.tidy {instances : List Instance} {c : Bool} {acts : List Action}
    (h : Run x (ofInstances instances c) acts q) : q.Tidy :=
  h.keeps ⟨by simp [ofInstances], by simp [ofInstances]⟩ Applies.tidy

theorem sum_toGo_set {ls : List Lane} {l' : Lane} (found : ls[i]? = some l)
    (less : l'.toGo < l.toGo) : ((ls.set i l').map Lane.toGo).sum < (ls.map Lane.toGo).sum := by
  induction ls generalizing i with
  | nil => cases found
  | cons first rest ih =>
    cases i with
    | zero =>
      obtain rfl : first = l := by simpa using found
      simpa using less
    | succ i => simpa using ih (by simpa using found)

theorem missing_put (p : Pool) (i : Nat) (r : JobResult) :
    missing { p with stored := Dict.put p.stored i r } = p.missing.erase i := by
  ext j
  have put : Dict.contains (Dict.put p.stored i r) j = (i == j || Dict.contains p.stored j) := by
    simp only [Dict.contains, Dict.get?_put]
    by_cases same : i = j <;> simp [same]
  simp only [mem_missing, Finset.mem_erase, put, Bool.or_eq_false_iff, beq_eq_false_iff_ne]
  tauto

theorem Applies.toGo_le {a : Action} (h : Applies x p a q) (tidy : p.Tidy) :
    q.toGo + (if a.isCancel then 0 else 1) ≤ p.toGo := by
  cases h with
  | @lane i m l l' es found _ moved =>
    have less := sum_toGo_set found (Lane.advances_of_advance moved).toGo_lt
    have missing : (p.setLane i l').missing = p.missing := by simp [missing, setLane]
    have same : (p.setLane i l').errands = p.errands := by
      rw [errands, missing]
      rfl
    simp only [toGo, same, Action.isCancel, Bool.false_eq_true, if_false]
    simp only [setLane]
    omega
  | take found awaited =>
    have empty := (awaits_iff.mp awaited).1
    simp only [toGo, errands, missing, Action.isCancel, empty, Option.isNone_some,
      Option.isNone_none, Bool.false_eq_true, if_false, if_true]
    omega
  | takeFault found awaited =>
    have sound := (awaits_iff.mp awaited).2.1
    simp only [toGo, errands, missing, Action.isCancel, sound, Option.isNone_some,
      Option.isNone_none, Bool.false_eq_true, if_false, if_true]
    omega
  | @store i r hand =>
    have absent := tidy.hand i r hand
    have fewer := Finset.card_erase_add_one absent
    have put := missing_put p i r
    simp only [missing] at put fewer
    simp only [toGo, errands, missing, Action.isCancel, hand, put, ← fewer]
    simp
    omega
  | cancel => simp [toGo, errands, missing, Action.isCancel]
  | interrupt first =>
    simp only [toGo, errands, missing, Action.isCancel, first]
    cases p.hand <;> simp <;> omega

theorem Run.toGo_le {acts : List Action} (h : Run x p acts q) (tidy : p.Tidy) :
    q.toGo + acts.countP (!·.isCancel) ≤ p.toGo := by
  induction h with
  | nil => simp
  | @cons p q r a es acts first _ ih =>
    have taken := applies_of_apply first
    have rest := ih (taken.tidy tidy)
    have here := taken.toGo_le tidy
    cases outside : a.isCancel <;> simp [outside] at here ⊢ <;> omega

/-- Neither a worker nor the collector can do anything. -/
def Rests (x : Executor) (p : Pool) : Prop :=
  ∀ a : Action, a.isInner = true → p.apply x a = none

theorem Rests.advance (rests : p.Rests x) (found : p.lanes[i]? = some l) {m : Lane.Move}
    (inner : Action.isInner (.lane i m) = true) (turn : m.isPick = true → p.mayPick x i = true) :
    l.advance x p.cancelled m = none := by
  have none_ := rests (.lane i m) inner
  have free : (m.isPick && !p.mayPick x i) = false := by
    cases pick : m.isPick with
    | false => rfl
    | true => simp [turn pick]
  simpa [apply, found, free] using none_

theorem Rests.idle (rests : p.Rests x) (found : p.lanes[i]? = some l) {inst : Instance}
    {ds : List Lane.Deed} (from_ : Lane.FromQueue inst ds l) : l.isBusy = false := by
  cases from_ with
  | queued => rfl
  | refused => rfl
  | begun _ begun =>
    cases finished : l.isOver with
    | true => simp [Lane.isBusy, finished]
    | false =>
      obtain ⟨m, l', es, later, -, moved⟩ := begun.goes_on finished x p.cancelled
      have inner : Action.isInner (.lane i m) = true ∧ m.isPick = false := by
        cases m with
        | pick | begin => cases later
        | look | launch | expire | exit | leave => exact ⟨rfl, rfl⟩
      have still := rests.advance found inner.1 (by simp [inner.2])
      rw [still] at moved
      cases moved

theorem Rests.taken (rests : p.Rests x) (idle : ∀ l ∈ p.lanes, l.isBusy = false) :
    ∀ l ∈ p.lanes, l.isQueued = false := by
  have free : p.busy = 0 := by
    rw [busy, List.length_eq_zero_iff, List.filter_eq_nil_iff]
    exact fun l mem => by simp [idle l mem]
  have workers : 0 < x.workers p.lanes.length := by
    unfold Executor.workers
    split
    · split <;> omega
    · omega
  cases next : p.next? with
  | none => exact List.findIdx?_eq_none_iff.mp next
  | some i =>
    obtain ⟨inside, queued, -⟩ := List.findIdx?_eq_some_iff_getElem.mp next
    have turn : p.mayPick x i = true := by simp [mayPick, next, free, workers]
    have still := rests.advance (List.getElem?_eq_getElem inside) (m := .pick 0) rfl fun _ => turn
    unfold Lane.isQueued at queued
    split at queued
    · next phase =>
      simp only [Lane.advance, phase] at still
      split at still <;> cases still
    · cases queued

theorem exists_results_iff : (∃ jobs, p.results? = some jobs) ↔ p.missing = ∅ := by
  unfold results?
  rw [exists_mapM_eq_some_iff, Finset.eq_empty_iff_forall_notMem]
  simp only [List.mem_range, mem_missing, Dict.contains, Option.isSome_eq_false_iff,
    Option.isNone_iff_eq_none, not_and, ← ne_eq, Option.ne_none_iff_exists']

theorem Run.rests_iff {instances : List Instance} {c : Bool} {acts : List Action}
    (h : Run x (ofInstances instances c) acts q) (sound : ∀ l ∈ q.lanes, ∀ f, l.phase ≠ .broken f) :
    q.Rests x ↔ ∃ jobs, q.results? = some jobs := by
  constructor
  · intro rests
    rw [exists_results_iff, Finset.eq_empty_iff_forall_notMem]
    intro i absent
    obtain ⟨inside, unstored⟩ := mem_missing.mp absent
    have hand : q.hand = none := by
      cases held : q.hand with
      | none => rfl
      | some h => simpa [apply, held] using rests .store rfl
    have fault : q.fault = none := by
      cases met : q.fault with
      | none => rfl
      | some f =>
        obtain ⟨j, l, found, phase⟩ := h.tidy.fault f met
        exact absurd phase (sound l (List.mem_of_getElem? found) f)
    have idle : ∀ l ∈ q.lanes, l.isBusy = false := by
      intro l mem
      obtain ⟨j, found⟩ := List.mem_iff_getElem?.mp mem
      obtain ⟨inst, ds, from_⟩ := h.fromQueue found
      exact rests.idle found from_
    have found : q.lanes[i]? = some q.lanes[i] := List.getElem?_eq_getElem inside
    have mem : q.lanes[i] ∈ q.lanes := List.getElem_mem inside
    -- neither busy nor queued, the lane is over, and the collector can take what it gives
    have finished : q.lanes[i].isOver = true := by
      have taken := rests.taken idle _ mem
      have calm := idle _ mem
      simpa [Lane.isBusy, taken] using calm
    have awaited : q.awaits i = true := awaits_iff.mpr ⟨hand, fault, unstored⟩
    have still := rests (.take i) rfl
    simp only [apply, found, awaited, if_true] at still
    unfold take at still
    rcases Lane.phase_of_isOver finished with ⟨status, failedAt, phase⟩ | ⟨f, phase⟩
    · simp [phase] at still
    · exact sound _ mem f phase
  · intro results a inner
    have full := exists_results_iff.mp results
    obtain ⟨jobs, results⟩ := results
    cases a with
    | lane i m =>
      cases found : q.lanes[i]? with
      | none => simp [apply, found]
      | some l =>
        obtain ⟨r, -, closed⟩ := h.kept.job results found
        simp [apply, found, Lane.advance_over x q.cancelled (Lane.isOver_of_result closed)]
    | take i =>
      cases found : q.lanes[i]? with
      | none => simp [apply, found]
      | some l =>
        have inside := (List.getElem?_eq_some_iff.mp found).1
        have stored : q.awaits i = false := by
          by_contra awaited
          have absent := mem_missing.mpr ⟨inside, (awaits_iff.mp (by simpa using awaited)).2.2⟩
          simp [full] at absent
        simp [apply, found, stored]
    | store =>
      cases held : q.hand with
      | none => simp [apply, held]
      | some hand =>
        have absent := h.tidy.hand hand.1 hand.2 held
        simp [full] at absent
    | cancel | interrupt => cases inner

end Pool

end JobMatrix
