import JobMatrix.Run.Pool
import JobMatrix.Proofs.Dict
import JobMatrix.Proofs.Lane

/-! Runs of a pool. `Applies` says what an action can do, case by case. Each lane of a run makes a
run of its own under a token that is never taken back, and what the collector has stored are the
results of the lanes. -/

namespace JobMatrix.Pool

variable {x : Executor} {p q : Pool} {acts : List Action} {a : Action} {i : Nat} {l : Lane}
  {instances : List Instance} {c : Bool} {jobs : List JobResult}

/-- A run of actions, in the order in which they happen, whichever worker they belong to. -/
inductive Run (x : Executor) : Pool → List Action → Pool → Prop
  | nil (p : Pool) : Run x p [] p
  | cons {p q r : Pool} {a : Action} {es : List Emission} {acts : List Action} :
      p.apply x a = some (q, es) → Run x q acts r → Run x p (a :: acts) r

/-- The pool after actions, none where one of them cannot happen. -/
def after? (x : Executor) : Pool → List Action → Option Pool
  | p, [] => some p
  | p, a :: rest =>
    match p.apply x a with
    | some (q, _) => after? x q rest
    | none => none

theorem run_of_after? (h : p.after? x acts = some q) : Run x p acts q := by
  induction acts generalizing p with
  | nil => cases h; exact .nil _
  | cons a rest ih =>
    simp only [after?] at h
    split at h
    · next first => exact .cons first (ih h)
    · cases h

/-- What an action does to a pool, by cases. -/
inductive Applies (x : Executor) (p : Pool) : Action → Pool → Prop
  | lane {i : Nat} {m : Lane.Move} {l l' : Lane} {es : List Emission}
      (found : p.lanes[i]? = some l) (turn : m.isPick = true → p.mayPick x i = true)
      (moved : l.advance x p.cancelled m = some (l', es)) : Applies x p (.lane i m) (p.setLane i l')
  | take {i : Nat} {l : Lane} {r : JobResult} (found : p.lanes[i]? = some l)
      (awaited : p.awaits i = true) (result : l.result? = some r) :
      Applies x p (.take i) { p with hand := some (i, r) }
  | takeFault {i : Nat} {l : Lane} {f : Fault} (found : p.lanes[i]? = some l)
      (awaited : p.awaits i = true) (phase : l.phase = .broken f) :
      Applies x p (.take i) { p with cancelled := true, fault := some f }
  | store {i : Nat} {r : JobResult} (hand : p.hand = some (i, r)) :
      Applies x p .store { p with
        hand := none, stored := Dict.put p.stored i r
        cancelled := p.cancelled || x.failFast && r.status == .failure }
  | cancel : Applies x p .cancel { p with cancelled := true }
  | interrupt (first : p.interrupted = false) :
      Applies x p .interrupt { p with cancelled := true, interrupted := true, hand := none }

theorem store_fst (x : Executor) (p : Pool) (i : Nat) (r : JobResult) :
    (p.store x i r).1 = { p with
      hand := none, stored := Dict.put p.stored i r
      cancelled := p.cancelled || x.failFast && r.status == .failure } := by
  unfold store
  split
  · next h => simp_all [cancelAll]
  · next h => cases c : p.cancelled <;> simp_all

theorem applies_of_apply {es : List Emission} (h : p.apply x a = some (q, es)) :
    Applies x p a q := by
  cases a with
  | lane i m =>
    simp only [apply] at h
    split at h
    · next l found =>
      split at h
      · cases h
      · next turn =>
        obtain ⟨⟨l', fs⟩, moved, same⟩ := Option.map_eq_some_iff.mp h
        cases same
        exact .lane found (by simpa using turn) moved
    · cases h
  | take i =>
    simp only [apply] at h
    split at h
    · next l found =>
      split at h
      · next awaited =>
        unfold take at h
        split at h
        · next phase =>
          cases h
          exact .take found awaited (by simp [Lane.result?, phase])
        · next f phase => cases h; exact .takeFault found awaited phase
        · cases h
      · cases h
    · cases h
  | store =>
    simp only [apply] at h
    obtain ⟨⟨i, r⟩, hand, same⟩ := Option.map_eq_some_iff.mp h
    obtain rfl : (p.store x i r).1 = q := congrArg Prod.fst same
    rw [store_fst]
    exact .store hand
  | cancel => cases h; exact .cancel
  | interrupt =>
    simp only [apply] at h
    split at h
    · cases h
    · next first => cases h; exact .interrupt (by simpa using first)

theorem Run.keeps {P : Pool → Prop} (h : Run x p acts q) (start : P p)
    (step : ∀ {p a q}, Applies x p a q → P p → P q) : P q := by
  induction h with
  | nil => exact start
  | cons first _ ih => exact ih (step (applies_of_apply first) start)

theorem Run.append {r : Pool} {before after : List Action} (h : Run x p before q)
    (k : Run x q after r) : Run x p (before ++ after) r := by
  induction h with
  | nil => exact k
  | cons first _ ih => exact .cons first (ih k)

/-! The token is never taken back. -/

theorem Applies.cancelled (h : Applies x p a q) (set : p.cancelled = true) :
    q.cancelled = true := by
  cases h with
  | store => simp [set]
  | lane | take => exact set
  | takeFault | cancel | interrupt => rfl

/-- The moves of a lane at an action. -/
def movesOf (i : Nat) (p : Pool) : Action → List (Bool × Lane.Move)
  | .lane j m => if j = i then [(p.cancelled, m)] else []
  | _ => []

/-- The moves of a lane along actions, each with the token as it stands when the move happens. -/
def moves (x : Executor) (i : Nat) : Pool → List Action → List (Bool × Lane.Move)
  | _, [] => []
  | p, a :: rest =>
    match p.apply x a with
    | some (q, _) => movesOf i p a ++ moves x i q rest
    | none => []

/-- What happens to the processes of a lane along actions. -/
def deeds (x : Executor) (i : Nat) (p : Pool) (acts : List Action) : List Lane.Deed :=
  match p.lanes[i]? with
  | some l => l.deeds x (p.moves x i acts)
  | none => []

/-! Each lane of a run makes a run of its own. -/

theorem Applies.lanes_length (h : Applies x p a q) : q.lanes.length = p.lanes.length := by
  cases h <;> simp [setLane]

theorem Run.lanes_length (h : Run x p acts q) : q.lanes.length = p.lanes.length := by
  induction h with
  | nil => rfl
  | cons first _ ih => exact ih.trans (applies_of_apply first).lanes_length

theorem Applies.at_lane (h : Applies x p a q) (found : p.lanes[i]? = some l) :
    (∃ m l' es, movesOf i p a = [(p.cancelled, m)] ∧ l.advance x p.cancelled m = some (l', es) ∧
      q.lanes[i]? = some l') ∨ movesOf i p a = [] ∧ q.lanes[i]? = some l := by
  cases h with
  | @lane j m l₀ l' es found' _ moved =>
    by_cases this : j = i
    · subst this
      obtain rfl : l₀ = l := by simpa using found'.symm.trans found
      refine .inl ⟨m, l', es, by simp [movesOf], moved, ?_⟩
      exact List.getElem?_set_self (List.getElem?_eq_some_iff.mp found).1
    · refine .inr ⟨by simp [movesOf, this], ?_⟩
      simpa [setLane, this] using found
  | take | takeFault | store | cancel | interrupt => exact .inr ⟨rfl, found⟩

theorem Run.lane (h : Run x p acts q) (found : p.lanes[i]? = some l) :
    ∃ l', q.lanes[i]? = some l' ∧ Lane.Run x l (p.moves x i acts) l' := by
  induction h generalizing l with
  | nil => exact ⟨l, found, .nil l⟩
  | @cons p q r a es acts first _ ih =>
    simp only [moves, first]
    rcases (applies_of_apply first).at_lane found with
      ⟨m, l', es, own, moved, found'⟩ | ⟨none_, found'⟩
    · obtain ⟨l'', final, rest⟩ := ih found'
      exact ⟨l'', final, own ▸ .cons moved rest⟩
    · obtain ⟨l'', final, rest⟩ := ih found'
      exact ⟨l'', final, by simpa [none_] using rest⟩

theorem Run.origin (h : Run x (ofInstances instances c) acts q) (found : q.lanes[i]? = some l) :
    ∃ inst, instances[i]? = some inst ∧
      Lane.Run x { subject := inst } ((ofInstances instances c).moves x i acts) l := by
  have count : q.lanes.length = instances.length := by simpa [ofInstances] using h.lanes_length
  have inside := (List.getElem?_eq_some_iff.mp found).1
  have at_ : instances[i]? = some instances[i] := List.getElem?_eq_getElem (count ▸ inside)
  have first : (ofInstances instances c).lanes[i]? = some { subject := instances[i] } := by
    simp [ofInstances, at_]
  obtain ⟨l', found', run⟩ := h.lane first
  obtain rfl : l = l' := by simpa using found.symm.trans found'
  exact ⟨_, at_, run⟩

theorem Run.fromQueue (h : Run x (ofInstances instances c) acts q) (found : q.lanes[i]? = some l) :
    ∃ inst ds, Lane.FromQueue inst ds l := by
  obtain ⟨inst, -, run⟩ := h.origin found
  exact ⟨inst, _, run.fromQueue⟩

theorem Run.rising (h : Run x p acts q) (i : Nat) :
    Lane.Rising p.cancelled (p.moves x i acts) q.cancelled := by
  induction h with
  | nil => exact id
  | @cons p q r a es acts first _ ih =>
    have later := ih.weaken (applies_of_apply first).cancelled
    simp only [moves, first]
    cases a with
    | lane j m =>
      by_cases this : j = i
      · simpa [movesOf, this] using ⟨fun set => set, later⟩
      · simpa [movesOf, this] using later
    | take | store | cancel | interrupt => exact later

theorem Applies.stays (h : Applies x p a q) (found : p.lanes[i]? = some l)
    (done : l.isOver = true) : q.lanes[i]? = some l := by
  rcases h.at_lane found with ⟨m, l', es, -, moved, -⟩ | ⟨-, same⟩
  · rw [Lane.advance_over x _ done] at moved
    cases moved
  · exact same

theorem Run.stays (h : Run x p acts q) (found : p.lanes[i]? = some l) (done : l.isOver = true) :
    q.lanes[i]? = some l :=
  h.keeps (P := fun p => p.lanes[i]? = some l) found fun taken found => taken.stays found done

/-! What the collector has stored are the results of the lanes. -/

/-- What is in the collector's hand or stored at a position is the result of the lane there. -/
def Kept (p : Pool) : Prop :=
  ∀ i r, p.hand = some (i, r) ∨ Dict.get? p.stored i = some r →
    ∃ l, p.lanes[i]? = some l ∧ l.result? = some r

theorem Applies.kept (h : Applies x p a q) (kept : p.Kept) : q.Kept := by
  have stays {i : Nat} {r : JobResult}
      (old : p.hand = some (i, r) ∨ Dict.get? p.stored i = some r) :
      ∃ l, q.lanes[i]? = some l ∧ l.result? = some r := by
    obtain ⟨l, found, closed⟩ := kept i r old
    exact ⟨l, h.stays found (Lane.isOver_of_result closed), closed⟩
  cases h with
  | lane => exact fun i r held => stays held
  | @take j l s found _ result =>
    rintro i r (held | stored)
    · cases held
      exact ⟨l, found, result⟩
    · exact stays (.inr stored)
  | takeFault => exact fun i r held => stays held
  | @store j s hand =>
    rintro i r (held | stored)
    · cases held
    · rw [Dict.get?_put] at stored
      split at stored
      · next same =>
        cases stored
        exact stays (.inl ((beq_iff_eq.mp same) ▸ hand))
      · exact stays (.inr stored)
  | cancel => exact fun i r held => stays held
  | interrupt =>
    rintro i r (held | stored)
    · cases held
    · exact stays (.inr stored)

theorem kept_ofInstances (instances : List Instance) (c : Bool) :
    (ofInstances instances c).Kept := by
  simp [Kept, ofInstances, Dict.get?]

theorem Run.kept (h : Run x (ofInstances instances c) acts q) : q.Kept :=
  h.keeps (kept_ofInstances instances c) Applies.kept

theorem results?_length (h : p.results? = some jobs) : jobs.length = p.lanes.length := by
  simpa using (congrArg List.length (mapM_eq_some_iff.mp h)).symm

theorem results?_stored (h : p.results? = some jobs) {r : JobResult} (given : jobs[i]? = some r) :
    Dict.get? p.stored i = some r := by
  have inside : i < p.lanes.length :=
    results?_length h ▸ (List.getElem?_eq_some_iff.mp given).1
  have here := congrArg (·[i]?) (mapM_eq_some_iff.mp h)
  simpa [List.getElem?_range inside, given] using here

theorem Kept.job (kept : p.Kept) (results : p.results? = some jobs) (found : p.lanes[i]? = some l) :
    ∃ r, jobs[i]? = some r ∧ l.result? = some r := by
  have inside : i < jobs.length :=
    results?_length results ▸ (List.getElem?_eq_some_iff.mp found).1
  have given := List.getElem?_eq_getElem inside
  obtain ⟨l', found', closed⟩ := kept i _ (.inr (results?_stored results given))
  obtain rfl : l = l' := by simpa using found.symm.trans found'
  exact ⟨_, given, closed⟩

theorem Kept.sound (kept : p.Kept) (results : p.results? = some jobs) :
    ∀ l ∈ p.lanes, ∀ f, l.phase ≠ .broken f := by
  intro l mem f phase
  obtain ⟨i, found⟩ := List.mem_iff_getElem?.mp mem
  obtain ⟨r, -, closed⟩ := kept.job results found
  simp [Lane.result?, phase] at closed

/-- The run of a job in a run of a pool that has ended: the lane of each instance makes a run of its
own from the queue on, and closes with the result that is given for the instance. -/
theorem Run.job (h : Run x (ofInstances instances c) acts q) (results : q.results? = some jobs) :
    jobs.length = instances.length ∧ ∀ (i : Nat) (inst : Instance), instances[i]? = some inst →
      ∃ r l, jobs[i]? = some r ∧ l.result? = some r ∧
        Lane.Run x { subject := inst } ((ofInstances instances c).moves x i acts) l := by
  have count : q.lanes.length = instances.length := by simpa [ofInstances] using h.lanes_length
  refine ⟨(results?_length results).trans count, fun i inst at_ => ?_⟩
  have first : (ofInstances instances c).lanes[i]? = some { subject := inst } := by
    simp [ofInstances, at_]
  obtain ⟨l, last, run⟩ := h.lane first
  obtain ⟨r, given, closed⟩ := h.kept.job results last
  exact ⟨r, l, given, closed, run⟩

/-- What sets the token, when neither a cancellation from outside nor a broken lane does: the
failure of a job that was stored. -/
theorem Run.cancelled_cause (h : Run x p acts q) (kept : p.Kept)
    (quiet : ∀ a ∈ acts, a ≠ .cancel ∧ a ≠ .interrupt)
    (sound : ∀ l ∈ q.lanes, ∀ f, l.phase ≠ .broken f) (unset : p.cancelled = false)
    (set : q.cancelled = true) :
    x.failFast = true ∧ ∃ (i : Nat) (l : Lane) (r : JobResult),
      q.lanes[i]? = some l ∧ l.result? = some r ∧ r.status = .failure := by
  induction h with
  | nil =>
    rw [unset] at set
    cases set
  | @cons p q r a es acts first rest ih =>
    have taken := applies_of_apply first
    have later := ih (taken.kept kept) (fun a mem => quiet a (List.mem_cons_of_mem _ mem)) sound
    obtain ⟨inside, still⟩ := quiet a List.mem_cons_self
    cases taken with
    | lane | take => exact later unset set
    | cancel => exact absurd rfl inside
    | interrupt => exact absurd rfl still
    | @takeFault i l f found _ phase =>
      have last := rest.stays found (by simp [Lane.isOver, phase])
      exact absurd phase (sound l (List.mem_of_getElem? last) f)
    | @store i job hand =>
      by_cases failed : x.failFast = true ∧ job.status = .failure
      · obtain ⟨l, found, closed⟩ := kept i job (.inl hand)
        have last := rest.stays found (Lane.isOver_of_result closed)
        exact ⟨failed.1, i, l, job, last, closed, failed.2⟩
      · exact later (by simpa [unset] using failed) set

/-- Nothing sets the token without an outside cancellation, unless a failure ends the run or a lane
breaks. -/
theorem Run.uncancelled (h : Run x (ofInstances instances c) acts q)
    (patient : x.failFast = false) (quiet : ∀ a ∈ acts, a ≠ .cancel ∧ a ≠ .interrupt)
    (sound : ∀ l ∈ q.lanes, ∀ f, l.phase ≠ .broken f) (unset : c = false) :
    q.cancelled = false := by
  refine Bool.eq_false_iff.mpr fun set => ?_
  have ends := (h.cancelled_cause (kept_ofInstances instances c) quiet sound unset set).1
  rw [patient] at ends
  cases ends

theorem Run.subjects (h : Run x (ofInstances instances c) acts q)
    (results : q.results? = some jobs) : jobs.map JobResult.subject = instances := by
  obtain ⟨length, each⟩ := h.job results
  refine List.ext_getElem? fun i => ?_
  cases at_ : instances[i]? with
  | none =>
    have outside := List.getElem?_eq_none_iff.mp at_
    simpa [length] using outside
  | some inst =>
    obtain ⟨job, l, given, closed, lane⟩ := each i inst at_
    have subject : job.subject = inst := (Lane.result_subject closed).trans lane.subject
    simp [given, subject]

end JobMatrix.Pool
