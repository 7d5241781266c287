import Mathlib.Data.Option.Basic
import JobMatrix.Run.Course
import JobMatrix.Proofs.Lifecycle

/-! The course of a run on a machine goes through its pool by actions only: whatever the machine
does, in whichever order events happen and whatever the observer asks for, the pool makes a run of
its own, and the observer is told what is told along that run, unless it raises something that
passes the guard. -/

namespace JobMatrix

namespace Sight

theorem notices_append (ss ts : List Sight) : notices (ss ++ ts) = notices ss ++ notices ts :=
  List.filterMap_append

theorem notices_log (es : List LogEntry) : notices (es.map .log) = [] := by
  simp [notices, List.filterMap_map]

theorem notices_shown (texts : List String) : notices (texts.map .shown) = [] := by
  simp [notices, List.filterMap_map]

end Sight

theorem Observer.notices_tell (o : Observer) (given : Nat) (n : Notice) :
    Sight.notices (Observer.tell (some o) given n).sights = [n] :=
  congrArg (n :: ·) (Sight.notices_log _)

/-- Nothing that the observer raises passes the guard. -/
def Observer.Mild (o : Observer) : Prop :=
  (∀ n x, (o.react n).raised = some x → x.isCaught = true) ∧
    ∀ k x, o.lapse k = some x → x.isCaught = true

theorem Observer.Mild.of_silent {o : Observer} (reacts : ∀ n, (o.react n).raised = none)
    (lapses : ∀ k, o.lapse k = none) : o.Mild := by
  simp [Mild, reacts, lapses]

theorem Guarded.call_passed {log : String → LogEntry} {r : Option Raised}
    (caught : ∀ x, r = some x → x.isCaught = true) : (Guarded.call log r).passed = none := by
  cases r with
  | none => rfl
  | some x =>
    have guarded := caught x rfl
    unfold Guarded.call
    rw [Raised.isCaught] at guarded
    dsimp only
    split
    · rfl
    · next f passes => simp [passes, Except.isOk, Except.toBool] at guarded

theorem Observer.tell_mild {o : Option Observer} (mild : ∀ o' ∈ o, o'.Mild) (given : Nat)
    (n : Notice) : (Observer.tell o given n).passed = none := by
  cases o with
  | none => rfl
  | some o =>
    obtain ⟨reacts, lapses⟩ := mild o rfl
    refine Guarded.call_passed fun x raised => ?_
    rcases (Option.orElse_eq_some _ _ _).mp raised with own | ⟨-, own⟩
    · exact reacts n x own
    · exact lapses given x own

namespace Course

variable {M : Type} [Host M]

/-- What the observer was told. -/
def heard (c : Course M) : List Notice := Sight.notices c.seen

theorem heard_see (c : Course M) (s : Sight) : (c.see s).heard = c.heard ++ Sight.notices [s] := by
  simp [heard, see, seen, Sight.notices_append]

theorem heard_watch (c : Course M) : c.watch.heard = c.heard := by
  simp [heard, watch, seen, Sight.notices_append, ← List.map_reverse, Sight.notices_shown]

/-- The settings stay, the pool makes a run of actions, and an observer is told notices. -/
structure Goes (acts : List Action) (ns : List Notice) (c d : Course M) : Prop where
  executor : d.executor = c.executor
  pooled : d.pooled = c.pooled
  observer : d.observer = c.observer
  escaped : d.escaped = c.escaped
  run : Pool.Run c.executor c.pool acts d.pool
  heard : c.observer.isSome = true → d.heard = c.heard ++ ns

/-- The pool is left alone, but may be cancelled, while an observer is told notices. -/
def Tells (ns : List Notice) (c d : Course M) : Prop :=
  ∃ n, Goes (List.replicate n .cancel) ns c d

/-- One course leads to another: unless something has passed the guard, the pool makes a run, and an
observer is told what is told along it. -/
structure Leads (c d : Course M) : Prop where
  observer : d.observer = c.observer
  mild : (∀ o ∈ c.observer, o.Mild) → d.escaped = c.escaped
  goes : d.escaped = none → ∃ acts, Goes acts ((c.pool.told c.executor acts).map (·.2)) c d

theorem Goes.trans {c d e : Course M} {acts acts' : List Action} {ns ns' : List Notice}
    (h : Goes acts ns c d) (k : Goes acts' ns' d e) : Goes (acts ++ acts') (ns ++ ns') c e where
  executor := k.executor.trans h.executor
  pooled := k.pooled.trans h.pooled
  observer := k.observer.trans h.observer
  escaped := k.escaped.trans h.escaped
  run := h.run.append (h.executor ▸ k.run)
  heard watched := by rw [k.heard (h.observer ▸ watched), h.heard watched, List.append_assoc]

theorem Tells.idle {c d : Course M} (executor : d.executor = c.executor)
    (pooled : d.pooled = c.pooled) (observer : d.observer = c.observer)
    (escaped : d.escaped = c.escaped) (pool : d.pool = c.pool) (heard : d.heard = c.heard) :
    Tells [] c d :=
  ⟨0, executor, pooled, observer, escaped, pool ▸ .nil _, fun _ => by simp [heard]⟩

theorem Tells.refl (c : Course M) : Tells [] c c := .idle rfl rfl rfl rfl rfl rfl

theorem Tells.trans {c d e : Course M} {ns ns' : List Notice} (h : Tells ns c d) (k : Tells ns' d e) :
    Tells (ns ++ ns') c e := by
  obtain ⟨n, goes⟩ := h
  obtain ⟨n', goes'⟩ := k
  exact ⟨n + n', List.replicate_add n n' Action.cancel ▸ goes.trans goes'⟩

theorem Tells.foldl {α : Type} {f : Course M → α → Course M} {g : List α → List Notice}
    (nil : g [] = []) (cons : ∀ a as, g (a :: as) = g [a] ++ g as)
    (step : ∀ c a, Tells (g [a]) c (f c a)) (as : List α) (c : Course M) :
    Tells (g as) c (as.foldl f c) := by
  induction as generalizing c with
  | nil => exact nil ▸ .refl c
  | cons a rest ih => exact cons a rest ▸ (step c a).trans (ih (f c a))

theorem Tells.leads {c d : Course M} (h : Tells [] c d) : Leads c d := by
  obtain ⟨n, goes⟩ := h
  refine ⟨goes.observer, fun _ => goes.escaped, fun _ => ⟨List.replicate n .cancel, ?_⟩⟩
  rwa [Pool.told_cancels]

theorem Leads.idle {c d : Course M} (executor : d.executor = c.executor)
    (pooled : d.pooled = c.pooled) (observer : d.observer = c.observer)
    (escaped : d.escaped = c.escaped) (pool : d.pool = c.pool) (heard : d.heard = c.heard) :
    Leads c d :=
  (Tells.idle executor pooled observer escaped pool heard).leads

theorem Leads.refl (c : Course M) : Leads c c := (Tells.refl c).leads

/-- What has passed the guard is not forgotten. -/
theorem Leads.fine {c d : Course M} (h : Leads c d) (fine : d.escaped = none) : c.escaped = none := by
  obtain ⟨acts, goes⟩ := h.goes fine
  exact goes.escaped.symm.trans fine

theorem Leads.trans {c d e : Course M} (h : Leads c d) (k : Leads d e) : Leads c e := by
  refine ⟨k.observer.trans h.observer, fun mild => ?_, fun fine => ?_⟩
  · exact (k.mild (h.observer.symm ▸ mild)).trans (h.mild mild)
  · obtain ⟨acts, goes⟩ := h.goes (k.fine fine)
    obtain ⟨acts', goes'⟩ := k.goes fine
    rw [goes.executor] at goes'
    refine ⟨acts ++ acts', ?_⟩
    rw [goes.run.told_append, List.map_append]
    exact goes.trans goes'

theorem kill_eq (c : Course M) (i : Nat) : c.kill i = { c with machine := (c.kill i).machine } := by
  unfold kill
  split
  · split <;> rfl
  · rfl

theorem killRunning_eq (c : Course M) (p : Pool) :
    c.killRunning p = { c with machine := (c.killRunning p).machine } := by
  unfold killRunning
  generalize List.range p.lanes.length = is
  induction is generalizing c with
  | nil => rfl
  | cons i rest ih =>
    simp only [List.foldl_cons]
    split
    · rw [ih (c.kill i), kill_eq c i]
    · exact ih c

theorem kill_leads (c : Course M) (i : Nat) : Leads c (c.kill i) := by
  rw [kill_eq]
  exact .idle rfl rfl rfl rfl rfl rfl

theorem Goes.action {c : Course M} {a : Action} {pool : Pool} {es : List Emission}
    (taken : c.pool.apply c.executor a = some (pool, es)) :
    Goes [a] [] c { c with pool } ∧ Goes [a] [] c { c.killRunning c.pool with pool } := by
  have run : Pool.Run c.executor c.pool [a] pool := .cons taken (.nil _)
  have heard (d : Course M) (same : d.sights = c.sights) : d.heard = c.heard ++ [] := by
    simp [Course.heard, seen, same]
  rw [killRunning_eq]
  exact ⟨⟨rfl, rfl, rfl, rfl, run, fun _ => heard _ rfl⟩,
    ⟨rfl, rfl, rfl, rfl, run, fun _ => heard _ rfl⟩⟩

theorem see_tells (c : Course M) (s : Sight) : Tells (Sight.notices [s]) c (c.see s) :=
  ⟨0, rfl, rfl, rfl, rfl, .nil _, fun _ => heard_see c s⟩

theorem cancel_tells (c : Course M) : Tells [] c c.cancel := by
  have taken : c.pool.apply c.executor .cancel = some c.pool.cancelAll := rfl
  have cancelled : Tells [] c _ := ⟨1, (Goes.action taken).2⟩
  refine cancelled.trans (.foldl (g := fun _ => []) rfl (fun _ _ => rfl) (fun d e => ?_) _ _)
  cases e with
  | log e => exact see_tells d (.log e)
  | notice | attempt => exact .refl d

theorem request_tells (c : Course M) (r : Request) : Tells [] c (c.request r) := by
  cases r with
  | cancel delay =>
    cases delay with
    | none => exact cancel_tells c
    | some delay => exact .idle rfl rfl rfl rfl rfl rfl
  | interrupt delay => exact .idle rfl rfl rfl rfl rfl rfl

theorem requests_tell (rs : List Request) (c : Course M) : Tells [] c (rs.foldl request c) :=
  .foldl (g := fun _ => []) rfl (fun _ _ => rfl) request_tells rs c

theorem tell_tells (c : Course M) (n : Notice) : Tells [n] c (c.tell n).1 := by
  have counted : Tells [] c { c with given := c.given + 1 } := .idle rfl rfl rfl rfl rfl rfl
  have seen := Tells.foldl (g := Sight.notices) rfl (fun s ss => Sight.notices_append [s] ss)
    see_tells (Observer.tell c.observer c.given n).sights { c with given := c.given + 1 }
  have told := (counted.trans seen).trans
    (requests_tell (Observer.tell c.observer c.given n).requests _)
  cases watched : c.observer with
  | none =>
    obtain ⟨k, goes⟩ := told
    refine ⟨k, { goes with heard := fun other => ?_ }⟩
    rw [watched] at other
    cases other
  | some o =>
    rw [watched, Observer.notices_tell, ← watched] at told
    exact told

theorem emit_tells (c : Course M) (e : Emission) : Tells (Emission.notices [e]) c (c.emit e).1 := by
  cases e with
  | log e => exact see_tells c (.log e)
  | notice n => exact tell_tells c n
  | attempt a => exact .idle rfl rfl rfl rfl rfl rfl

theorem emit_mild {c : Course M} (mild : ∀ o ∈ c.observer, o.Mild) (e : Emission) :
    (c.emit e).2 = none := by
  cases e with
  | log | attempt => rfl
  | notice n => exact Observer.tell_mild mild c.given n

theorem abandon_escaped (c : Course M) (a : Action) (f : Fault) : (c.abandon a f).escaped ≠ none := by
  cases own : c.escaped <;> simp [abandon, own]

theorem emitAll_cons (a : Action) (e : Emission) (es : List Emission) (c : Course M) :
    (c.emit e).2 = none ∧ emitAll a (e :: es) c = emitAll a es (c.emit e).1 ∨
      ∃ f, (c.emit e).2 = some f ∧ emitAll a (e :: es) c = (c.emit e).1.abandon a f := by
  rw [emitAll]
  split
  · next d given => simp [given]
  · next d f given => simp [given]

/-- What is seen of an action leaves the pool alone until something passes the guard. -/
theorem emitAll_tells (a : Action) (es : List Emission) (c : Course M)
    (fine : (emitAll a es c).escaped = none) :
    Tells (Emission.notices es) c (emitAll a es c) := by
  induction es generalizing c with
  | nil => exact .refl c
  | cons e es ih =>
    rcases emitAll_cons a e es c with ⟨-, same⟩ | ⟨f, -, same⟩
    · rw [same] at fine ⊢
      rw [show e :: es = [e] ++ es from rfl, Emission.notices_append]
      exact (emit_tells c e).trans (ih _ fine)
    · rw [same] at fine
      exact absurd fine (abandon_escaped _ a f)

theorem emitAll_observer (a : Action) (es : List Emission) (c : Course M) :
    (emitAll a es c).observer = c.observer ∧
      ((∀ o ∈ c.observer, o.Mild) → (emitAll a es c).escaped = c.escaped) := by
  induction es generalizing c with
  | nil => exact ⟨rfl, fun _ => rfl⟩
  | cons e es ih =>
    obtain ⟨n, told⟩ := emit_tells c e
    rcases emitAll_cons a e es c with ⟨-, same⟩ | ⟨f, passes, same⟩
    · rw [same]
      obtain ⟨observer, mild⟩ := ih (c.emit e).1
      rw [told.observer, told.escaped] at mild
      exact ⟨observer.trans told.observer, mild⟩
    · rw [same]
      refine ⟨told.observer, fun mild => ?_⟩
      cases passes.symm.trans (emit_mild mild e)

theorem perform_leads (c : Course M) (a : Action) : Leads c (c.perform a) := by
  unfold perform
  split
  · exact .refl c
  · next pool es taken =>
    obtain ⟨plain, killing⟩ := Goes.action taken
    have moved : Goes [a] [] c
        { (if cancels c.pool pool a then c.killRunning c.pool else c) with pool } := by
      split
      · exact killing
      · exact plain
    dsimp only
    generalize { (if cancels c.pool pool a then c.killRunning c.pool else c) with pool } = d at moved ⊢
    obtain ⟨observer, mild⟩ := emitAll_observer a es d
    rw [moved.observer, moved.escaped] at mild
    refine ⟨observer.trans moved.observer, mild, fun fine => ?_⟩
    obtain ⟨n, told⟩ := emitAll_tells a es d fine
    have own : (c.pool.told c.executor (a :: List.replicate n .cancel)).map (·.2) =
        Emission.notices es := by
      simp [Pool.told, taken, Pool.told_cancels, Pool.tellings_snd taken]
    exact ⟨a :: List.replicate n .cancel, own ▸ moved.trans told⟩

theorem later_leads {c d : Course M} (h : Leads c d) (i delay : Nat) : Leads c (d.later i delay) :=
  h.trans (.idle rfl rfl rfl rfl rfl rfl)

theorem launch_leads (c : Course M) (i : Nat) : Leads c (c.launch i) := by
  unfold launch
  split
  · exact .refl c
  · split
    · exact .refl c
    · split
      · exact later_leads (perform_leads c _) i lookTime
      · have started := later_leads (perform_leads c (.lane i (.launch .started))) i lookTime
        dsimp only
        split
        · exact started.trans (.idle rfl rfl rfl rfl rfl rfl)
        · exact started

theorem leave_leads (c : Course M) (i : Nat) : Leads c (c.leave i) := by
  unfold leave
  dsimp only
  split
  · exact .refl c
  · refine later_leads (.trans ?_ (perform_leads _ _)) i lookTime
    exact .idle rfl rfl rfl rfl rfl (heard_watch _)

theorem occur_leads (c : Course M) (time : Nat) (e : Event) : Leads c (c.occur time e) := by
  have timed : Leads c { c with machine := Host.withClock c.machine time } :=
    (.idle rfl rfl rfl rfl rfl rfl)
  cases e with
  | machine => exact timed.trans (.idle rfl rfl rfl rfl rfl (heard_watch _))
  | exit i code => exact timed.trans (later_leads (perform_leads _ _) i lookTime)
  | leave i => exact timed.trans (leave_leads _ i)
  | timer t =>
    refine timed.trans (.trans ?_ (perform_leads _ _))
    exact .idle rfl rfl rfl rfl rfl rfl
  | expire i => exact timed.trans ((perform_leads _ _).trans (kill_leads _ i))
  | look i => exact timed.trans (later_leads (perform_leads _ _) i startTime)
  | launch i => exact timed.trans (launch_leads _ i)
  | pick i =>
    exact timed.trans ((later_leads (perform_leads _ _) i lookTime).trans
      (.idle rfl rfl rfl rfl rfl rfl))
  | collect i => exact timed.trans ((perform_leads _ _).trans (perform_leads _ _))

theorem run_leads (schedule : Schedule) (fuel : Nat) (c : Course M) :
    Leads c (run schedule fuel c) := by
  induction fuel generalizing c with
  | zero => exact .refl c
  | succ fuel ih =>
    unfold run
    split
    · exact .refl c
    · split
      · exact .refl c
      · exact (occur_leads c _ _).trans (ih _)

end Course

section

variable {M : Type} [Host M] {x : Executor} {observer : Option Observer} {machine : M} {token : Bool}
  {instances : List Instance} {given : Nat} {requests : List Request} {schedule : Course.Schedule}
  {r : RunResult}

theorem Executor.course_leads (x : Executor) (observer : Option Observer) (machine : M)
    (token : Bool) (instances : List Instance) (given : Nat) (requests : List Request)
    (schedule : Course.Schedule) : Course.Leads
      { executor := x, observer, machine, pool := .ofInstances instances token
        tracks := instances.map fun _ => {}, open' := Host.clock machine, given }
      (x.course observer machine token instances given requests schedule) :=
  (Course.requests_tell requests _).leads.trans (Course.run_leads schedule _ _)

/-- A result is given only where nothing has passed the guard. -/
theorem Course.fine_of_result {c : Course M} (h : c.result = .ok r) :
    c.escaped = none ∧ ∃ jobs, c.jobs? = some jobs ∧ r = c.pool.resultOf jobs := by
  unfold Course.result at h
  split at h
  · cases h
  · next jobs none_ results =>
    exact ⟨((Option.orElse_eq_none _ _).mp none_).2, jobs, results, (Except.ok.inj h).symm⟩
  · cases h

/-- What a run of instances on a machine gives is what some run of their pool gives, and what its
observer is told is what is told along that run. -/
theorem Executor.course_told
    (h : (x.course observer machine token instances given requests schedule).result = .ok r) :
    ∃ acts q jobs, Pool.Run x (.ofInstances instances token) acts q ∧ q.results? = some jobs ∧
      r = q.resultOf jobs ∧ (observer.isSome = true →
        (x.course observer machine token instances given requests schedule).heard =
          ((Pool.ofInstances instances token).told x acts).map (·.2)) := by
  obtain ⟨fine, jobs, results, same⟩ := Course.fine_of_result h
  obtain ⟨acts, goes⟩ :=
    (x.course_leads observer machine token instances given requests schedule).goes fine
  refine ⟨acts, _, jobs, goes.run, ?_, same, goes.heard⟩
  rwa [Course.jobs?, goes.pooled] at results

theorem Executor.course_result
    (h : (x.course observer machine token instances given requests schedule).result = .ok r) :
    ∃ acts q jobs, Pool.Run x (.ofInstances instances token) acts q ∧ q.results? = some jobs ∧
      r = q.resultOf jobs := by
  obtain ⟨acts, q, jobs, run, results, same, -⟩ := course_told h
  exact ⟨acts, q, jobs, run, results, same⟩

end

end JobMatrix
