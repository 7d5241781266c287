import JobMatrix.Proofs.Verdict

/-! Observers and the history only look on. A course that nobody observes and the same course under
an observer that asks for nothing go on side by side, event by event, and differ only in what is
seen, as long as nothing that is raised passes the guard. Main statement: nothing that an observer or
the history raises changes the report of an execution, and what the guards catch changes nothing. -/

namespace JobMatrix

/-- An observer that asks for nothing, though it may raise something. -/
def Observer.Quiet (o : Observer) : Prop := ∀ n, (o.react n).requests = []

theorem Observer.tell_quiet {o : Option Observer} (quiet : ∀ o' ∈ o, o'.Quiet) (given : Nat)
    (n : Notice) : (Observer.tell o given n).requests = [] := by
  cases o with
  | none => rfl
  | some o => exact quiet o rfl n

namespace Course

variable {M : Type} [Host M] {o : Option Observer} {c d : Course M}

/-- A course that nobody observes, and the same one under an observer. -/
def Watched (o : Option Observer) (c d : Course M) : Prop :=
  c.observer = none ∧ ∃ sights, d = { c with observer := o, sights }

theorem Watched.same {α : Type} {f : Course M → α} (h : Watched o c d)
    (apart : ∀ (o : Option Observer) (sights : List Sight),
      f { c with observer := o, sights } = f c) : f d = f c := by
  obtain ⟨-, sights, rfl⟩ := h
  exact apart o sights

theorem Watched.pool (h : Watched o c d) : d.pool = c.pool := h.same fun _ _ => rfl

theorem Watched.machine (h : Watched o c d) : d.machine = c.machine := h.same fun _ _ => rfl

theorem Watched.executor (h : Watched o c d) : d.executor = c.executor := h.same fun _ _ => rfl

theorem Watched.track (h : Watched o c d) (i : Nat) : d.track i = c.track i :=
  h.same (f := (·.track i)) fun _ _ => rfl

theorem Watched.map (h : Watched o c d) (f : Course M → Course M)
    (apart : ∀ (o : Option Observer) (sights : List Sight),
      f { c with observer := o, sights } = { f c with observer := o, sights })
    (alone : (f c).observer = c.observer) : Watched o (f c) (f d) := by
  obtain ⟨unwatched, sights, rfl⟩ := h
  exact ⟨alone.trans unwatched, sights, apart o sights⟩

theorem Watched.foldl {α : Type} {f : Course M → α → Course M}
    (step : ∀ {c d : Course M}, Watched o c d → ∀ a, Watched o (f c a) (f d a)) (as : List α)
    (h : Watched o c d) : Watched o (as.foldl f c) (as.foldl f d) := by
  induction as generalizing c d with
  | nil => exact h
  | cons a rest ih => exact ih (step h a)

theorem Watched.see (h : Watched o c d) (s : Sight) : Watched o (c.see s) (d.see s) := by
  obtain ⟨alone, sights, rfl⟩ := h
  exact ⟨alone, s :: sights, rfl⟩

theorem Watched.watch (h : Watched o c d) : Watched o c.watch d.watch := by
  obtain ⟨alone, sights, rfl⟩ := h
  exact ⟨alone, (Host.takeShown c.machine).1.map Sight.shown ++ sights, rfl⟩

theorem Watched.kill (h : Watched o c d) (i : Nat) : Watched o (c.kill i) (d.kill i) := by
  unfold Course.kill
  rw [h.track, h.machine]
  split
  · split
    · exact h.map (fun c => { c with machine := _ }) (fun _ _ => rfl) rfl
    · exact h
  · exact h

theorem Watched.killRunning (h : Watched o c d) (p : Pool) :
    Watched o (c.killRunning p) (d.killRunning p) := by
  refine Watched.foldl (fun {c d} h i => ?_) _ h
  split
  · exact h.kill i
  · exact h

theorem foldl_see (ss : List Sight) (c : Course M) :
    ss.foldl see c = { c with sights := ss.reverse ++ c.sights } := by
  induction ss generalizing c with
  | nil => rfl
  | cons s rest ih => simp [ih, see]

/-- An observer that asks for nothing is told something, and nobody else is. -/
theorem Watched.tell (quiet : ∀ o' ∈ o, o'.Quiet) (h : Watched o c d) (n : Notice) :
    Watched o (c.tell n).1 (d.tell n).1 ∧ (c.tell n).2 = none := by
  obtain ⟨alone, sights, rfl⟩ := h
  refine ⟨⟨?_, (Observer.tell o c.given n).sights.reverse ++ sights, ?_⟩, ?_⟩
  · simp [Course.tell, alone, Observer.tell]
  · unfold Course.tell
    dsimp only
    rw [alone, Observer.tell_quiet quiet, foldl_see]
    rfl
  · simp [Course.tell, alone, Observer.tell]

theorem Watched.emit (quiet : ∀ o' ∈ o, o'.Quiet) (h : Watched o c d) (e : Emission) :
    Watched o (c.emit e).1 (d.emit e).1 ∧ (c.emit e).2 = none := by
  cases e with
  | log e => exact ⟨h.see (.log e), rfl⟩
  | notice n => exact h.tell quiet n
  | attempt a =>
    exact ⟨h.map (fun c => { c with attempts := a :: c.attempts }) (fun _ _ => rfl) rfl, rfl⟩

/-- What passes the guard stays with the course that is observed, so that where there is nothing at
the end there was nothing on the way. -/
theorem Watched.emitAll (quiet : ∀ o' ∈ o, o'.Quiet) {a : Action} {es : List Emission}
    (fine : (emitAll a es d).escaped = none) (h : Watched o c d) :
    Watched o (emitAll a es c) (emitAll a es d) := by
  induction es generalizing c d with
  | nil => exact h
  | cons e es ih =>
    obtain ⟨told, silent⟩ := h.emit quiet e
    have alone : emitAll a (e :: es) c = emitAll a es (c.emit e).1 := by
      rcases emitAll_cons a e es c with ⟨-, same⟩ | ⟨f, passes, -⟩
      · exact same
      · cases passes.symm.trans silent
    rcases emitAll_cons a e es d with ⟨-, same⟩ | ⟨f, -, same⟩
    · rw [same] at fine
      rw [alone, same]
      exact ih fine told
    · rw [same] at fine
      exact absurd fine (abandon_escaped _ a f)

theorem Watched.perform (quiet : ∀ o' ∈ o, o'.Quiet) (h : Watched o c d) {a : Action}
    (fine : (d.perform a).escaped = none) : Watched o (c.perform a) (d.perform a) := by
  unfold Course.perform at fine ⊢
  rw [h.pool, h.executor] at fine ⊢
  split
  · exact h
  · next pool es taken =>
    rw [taken] at fine
    refine Watched.emitAll quiet fine ?_
    refine Watched.map ?_ (fun c => { c with pool }) (fun _ _ => rfl) rfl
    split
    · exact h.killRunning c.pool
    · exact h

theorem Watched.later (h : Watched o c d) (i delay : Nat) :
    Watched o (c.later i delay) (d.later i delay) :=
  h.map (·.later i delay) (fun _ _ => rfl) rfl

theorem Watched.launch (quiet : ∀ o' ∈ o, o'.Quiet) (h : Watched o c d) {i : Nat}
    (fine : (d.launch i).escaped = none) : Watched o (c.launch i) (d.launch i) := by
  unfold Course.launch at fine ⊢
  have prepare : d.prepare = c.prepare := h.same fun _ _ => rfl
  rw [h.pool, prepare] at fine ⊢
  split
  · exact h
  · next l there =>
    rw [there] at fine
    split
    · exact h
    · next step given =>
      simp only [given] at fine
      split
      · next how _ prepared =>
        rw [prepared] at fine
        exact (h.perform quiet fine).later i lookTime
      · next image context prepared =>
        rw [prepared] at fine
        dsimp only at fine ⊢
        have told : (d.perform (.lane i (.launch .started))).escaped = none := by
          split at fine <;> exact fine
        have started := (h.perform quiet told).later i lookTime
        rw [started.pool]
        split
        · exact started.map (·.spawn i image context) (fun _ _ => rfl) rfl
        · exact started

theorem Watched.leave (quiet : ∀ o' ∈ o, o'.Quiet) (h : Watched o c d) {i : Nat}
    (fine : (d.leave i).escaped = none) : Watched o (c.leave i) (d.leave i) := by
  unfold Course.leave at fine ⊢
  dsimp only at fine ⊢
  rw [h.track, h.machine] at fine ⊢
  split
  · exact h
  · next j own =>
    rw [own] at fine
    have collected := (h.map ({ · with machine := (Host.collect c.machine j).2 })
      (fun _ _ => rfl) rfl).watch
    exact (collected.perform quiet fine).later i lookTime

theorem Watched.occur (quiet : ∀ o' ∈ o, o'.Quiet) (h : Watched o c d) {time : Nat} {e : Event}
    (fine : (d.occur time e).escaped = none) : Watched o (c.occur time e) (d.occur time e) := by
  have timed := h.map (fun c => { c with machine := Host.withClock c.machine time })
    (fun _ _ => rfl) rfl
  cases e with
  | machine => exact (timed.map (fun c => { c with machine := Host.advance c.machine })
      (fun _ _ => rfl) rfl).watch
  | exit i code => exact (timed.perform quiet fine).later i lookTime
  | leave i => exact timed.leave quiet fine
  | timer t =>
    exact (timed.map (fun c => { c with timers := c.timers.filter fun u => u.due != t.due })
      (fun _ _ => rfl) rfl).perform quiet fine
  | expire i => exact (timed.perform quiet ((kill_leads _ i).fine fine)).kill i
  | look i =>
    obtain ⟨-, sights, rfl⟩ := h
    exact (timed.perform quiet fine).later i startTime
  | launch i => exact timed.launch quiet fine
  | pick i =>
    obtain ⟨-, sights, rfl⟩ := h
    exact ((timed.perform quiet fine).later i lookTime).map ({ · with open' := time + pickTime })
      (fun _ _ => rfl) rfl
  | collect i =>
    exact (timed.perform quiet ((perform_leads _ _).fine fine)).perform quiet fine

theorem Watched.run (quiet : ∀ o' ∈ o, o'.Quiet) {schedule : Schedule} {fuel : Nat}
    (h : Watched o c d) (fine : (Course.run schedule fuel d).escaped = none) :
    Watched o (Course.run schedule fuel c) (Course.run schedule fuel d) := by
  induction fuel generalizing c d with
  | zero => exact h
  | succ fuel ih =>
    unfold Course.run at fine ⊢
    have ended : d.isOver = c.isOver := h.same fun _ _ => rfl
    have events : d.events = c.events := h.same fun _ _ => rfl
    rw [ended, h.machine, events] at fine ⊢
    split
    · exact h
    · next going =>
      rw [if_neg going] at fine
      split
      · exact h
      · next time e chosen =>
        rw [chosen] at fine
        exact ih (h.occur quiet ((run_leads schedule fuel _).fine fine)) fine

end Course

/-- The setting with nobody who observes. -/
def Setting.unwatched (s : Setting) : Setting :=
  { s with observer := none, executorObserver := none }

namespace Pipeline

variable {M : Type} [Host M] {s : Setting}

end Pipeline

end JobMatrix
