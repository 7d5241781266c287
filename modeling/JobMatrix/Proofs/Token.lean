import JobMatrix.Run.Token
import Mathlib.Data.List.Basic

/-! Interleavings of the calls on a token, by any number of threads. Main statement: once a
cancellation has returned, every process whose registration has returned has been terminated, unless
it was unregistered before the cancellation listed the processes. -/

namespace JobMatrix.Token

variable {s t : Token} {a : Action} {acts : List Action} {j k p : Nat}

/-- A run of atomic actions, in the order in which they happen, whichever calls they belong to. -/
inductive Run : Token → List Action → Token → Prop
  | nil (t : Token) : Run t [] t
  | cons {s t u : Token} {a : Action} {acts : List Action} :
      s.step a = some t → Run t acts u → Run s (a :: acts) u

/-- What an action does to a token, by cases. -/
inductive Steps (t : Token) : Action → Token → Prop
  | set : Steps t .set { t with cancelled := true, calls := t.calls ++ [.cancelling] }
  | list {k : Nat} (call : t.calls[k]? = some .cancelling) :
      Steps t (.list k) { t with calls := t.calls.set k (.terminating t.registered) }
  | listed {k p : Nat} {ps : List Nat} (call : t.calls[k]? = some (.terminating ps))
      (mem : p ∈ ps) : Steps t (.terminate k p) (t.terminate k p (.terminating (ps.erase p)))
  | doomed {k p : Nat} (call : t.calls[k]? = some (.registered p true)) :
      Steps t (.terminate k p) (t.terminate k p (.registered p false))
  | register {p : Nat} : Steps t (.register p)
      { t with registered := p :: t.registered.erase p, calls := t.calls ++ [.registering p] }
  | check {k p : Nat} (call : t.calls[k]? = some (.registering p)) :
      Steps t (.check k) { t with calls := t.calls.set k (.registered p t.cancelled) }
  | unregister {p : Nat} :
      Steps t (.unregister p) { t with registered := t.registered.erase p }

theorem steps_of_step {t' : Token} (h : t.step a = some t') : Steps t a t' := by
  cases a with
  | set => cases h; exact .set
  | list k =>
    simp only [step] at h
    split at h
    · next call => cases h; exact .list call
    · cases h
  | terminate k p =>
    simp only [step] at h
    split at h
    · next call =>
      split at h
      · next mem => cases h; exact .listed call mem
      · cases h
    · next call =>
      split at h
      · next eq => subst eq; cases h; exact .doomed call
      · cases h
    · cases h
  | register p => cases h; exact .register
  | check k =>
    simp only [step] at h
    split at h
    · next call => cases h; exact .check call
    · cases h
  | unregister p => cases h; exact .unregister

theorem Run.keeps {P : Token → Prop} (h : Run s acts t) (start : P s)
    (step : ∀ {s a t}, a ∈ acts → Steps s a t → P s → P t) : P t := by
  induction h with
  | nil => exact start
  | cons first rest ih =>
    refine ih (step List.mem_cons_self (steps_of_step first) start) ?_
    exact fun mem => step (List.mem_cons_of_mem _ mem)

theorem Run.split {u : Token} {before after : List Action} (h : Run s (before ++ after) u) :
    ∃ t, Run s before t ∧ Run t after u := by
  induction before generalizing s with
  | nil => exact ⟨s, .nil s, h⟩
  | cons a before ih =>
    cases h with
    | cons first rest =>
      obtain ⟨t, h₁, h₂⟩ := ih rest
      exact ⟨t, .cons first h₁, h₂⟩

theorem run_terminate (t : Token) (calls : List Call) (ps : List Nat)
    (last : t.calls = calls ++ [.terminating ps]) :
    Run t (ps.map (.terminate calls.length))
      { t with terminated := ps.reverse ++ t.terminated, calls := calls ++ [.terminating []] } := by
  induction ps generalizing t with
  | nil => simpa [← last] using Run.nil t
  | cons p ps ih =>
    have step : t.step (.terminate calls.length p) =
        some (t.terminate calls.length p (.terminating ps)) := by
      simp [Token.step, last]
    have rest := ih (t.terminate calls.length p (.terminating ps)) (by simp [terminate, last])
    simpa [terminate] using Run.cons step rest

theorem run_cancel (t : Token) :
    Run t (.set :: .list t.calls.length :: t.registered.map (.terminate t.calls.length))
      { t.cancel with calls := t.calls ++ [.terminating []] } := by
  refine .cons rfl (.cons (t := { t with
    cancelled := true, calls := t.calls ++ [.terminating t.registered] }) (by simp [Token.step]) ?_)
  exact run_terminate _ t.calls t.registered rfl

theorem Run.cancelled (h : Run s acts t) (set : s.cancelled = true) : t.cancelled = true := by
  refine h.keeps (P := fun t => t.cancelled = true) set fun _ step set => ?_
  cases step with
  | set => rfl
  | list | listed | doomed | register | check | unregister => exact set

theorem Run.cancelled_of_cancelling (h : Run {} acts t) (call : t.calls[k]? = some .cancelling) :
    t.cancelled = true := by
  refine h.keeps (P := fun t => ∀ k, t.calls[k]? = some Call.cancelling → t.cancelled = true)
    (by simp) (fun _ step ih => ?_) k call
  cases step with
  | set => exact fun _ _ => rfl
  | register =>
    intro k call
    rw [List.getElem?_append] at call
    split at call
    · exact ih k call
    · grind
  | unregister => exact ih
  | list | listed | doomed | check => intro k call; exact ih k (by grind [terminate])

/-! The calls of a token are numbered in the order in which they are made, and a call stays what it
is. -/

/-- Whether an action makes a new call. -/
def Action.opens : Action → Bool
  | set => true
  | register _ => true
  | _ => false

/-- The process that a registration is for. -/
def Call.process? : Call → Option Nat
  | registering p => some p
  | registered p _ => some p
  | _ => none

theorem Steps.calls_length (h : Steps s a t) :
    t.calls.length = s.calls.length + [a].countP Action.opens := by
  cases h <;> simp [Action.opens, terminate]

theorem Steps.process? (h : Steps s a t) (old : j < s.calls.length) :
    t.calls[j]?.bind Call.process? = s.calls[j]?.bind Call.process? := by
  cases h with
  | set | register => rw [List.getElem?_append_left old]
  | unregister => rfl
  | list | listed | doomed | check => grind [terminate, Call.process?]

theorem Run.process? (h : Run s acts t) (old : j < s.calls.length) :
    t.calls[j]?.bind Call.process? = s.calls[j]?.bind Call.process? := by
  refine (h.keeps (P := fun t => j < t.calls.length ∧
    t.calls[j]?.bind Call.process? = s.calls[j]?.bind Call.process?) ⟨old, rfl⟩ ?_).2
  rintro t a u - step ⟨inside, same⟩
  exact ⟨by have := step.calls_length; omega, (step.process? inside).trans same⟩

theorem Steps.registered (h : Steps s a t) (mem : p ∈ s.registered) (other : a ≠ .unregister p) :
    p ∈ t.registered := by
  cases h with
  | @register q =>
    by_cases same : p = q
    · exact same ▸ List.mem_cons_self
    · exact List.mem_cons_of_mem _ ((List.mem_erase_of_ne same).mpr mem)
  | @unregister q =>
    have different : p ≠ q := fun same => other (same ▸ rfl)
    exact (List.mem_erase_of_ne different).mpr mem
  | set | list | listed | doomed | check => exact mem

/-- Along `acts`, from a token with `made` calls, the process is not unregistered any more once call
`j` is made. -/
def KeptSince (p j made : Nat) (acts : List Action) : Prop :=
  ∀ before after, acts = before ++ .unregister p :: after →
    made + before.countP Action.opens ≤ j

theorem KeptSince.tail {made : Nat} (h : KeptSince p j made (a :: acts)) :
    KeptSince p j (made + [a].countP Action.opens) acts := by
  rintro before after rfl
  have := h (a :: before) after rfl
  rw [List.countP_cons] at this
  simp only [List.countP_singleton] at this ⊢
  omega

theorem Run.registered (h : Run s acts t) (kept : KeptSince p j s.calls.length acts)
    (start : s.calls[j]?.bind Call.process? = some p → p ∈ s.registered)
    (call : t.calls[j]?.bind Call.process? = some p) : p ∈ t.registered := by
  induction h with
  | nil => exact start call
  | @cons s t u a acts first rest ih =>
    have step := steps_of_step first
    refine ih (step.calls_length ▸ kept.tail) (fun named => ?_) call
    by_cases old : j < s.calls.length
    · have other : a ≠ .unregister p := by
        rintro rfl
        have := kept [] acts rfl
        simp at this
        omega
      exact step.registered (start (step.process? old ▸ named)) other
    · -- the call is made by this very action, which registers its process
      cases step with
      | register => grind [Call.process?]
      | set | list | listed | doomed | check | unregister => grind [terminate, Call.process?]

/-! What a cancellation has listed is terminated before it returns. -/

/-- Call `k` has terminated the process or has still to terminate it. -/
def Handled (k p : Nat) (t : Token) : Prop :=
  p ∈ t.terminated ∨ ∃ ps, t.calls[k]? = some (.terminating ps) ∧ p ∈ ps

theorem Steps.terminated (h : Steps s a t) (mem : p ∈ s.terminated) : p ∈ t.terminated := by
  cases h with
  | listed | doomed => exact List.mem_cons_of_mem _ mem
  | set | list | register | check | unregister => exact mem

theorem Steps.handled (h : Steps s a t) (handled : Handled k p s) : Handled k p t := by
  obtain done | ⟨ps, call, mem⟩ := handled
  · exact .inl (h.terminated done)
  cases h with
  | @listed k' q qs call' mem' =>
    by_cases same : p = q
    · exact .inl (same ▸ List.mem_cons_self)
    · refine .inr ?_
      by_cases this : k = k'
      · subst this
        obtain rfl : ps = qs := by simpa using call.symm.trans call'
        exact ⟨ps.erase q, by grind [terminate], (List.mem_erase_of_ne same).mpr mem⟩
      · exact ⟨ps, by grind [terminate], mem⟩
  | set | register =>
    have old : k < s.calls.length := (List.getElem?_eq_some_iff.mp call).1
    exact .inr ⟨ps, (List.getElem?_append_left old).trans call, mem⟩
  | unregister => exact .inr ⟨ps, call, mem⟩
  | list call' | doomed call' | check call' =>
    exact .inr ⟨ps, by grind [terminate], mem⟩

theorem Run.terminated (h : Run s acts t) (handled : Handled k p s)
    (returned : t.calls[k]? = some (.terminating [])) : p ∈ t.terminated := by
  have final : Handled k p t := h.keeps handled fun _ step => step.handled
  obtain done | ⟨ps, call, mem⟩ := final
  · exact done
  · obtain rfl : ps = [] := by simpa using call.symm.trans returned
    cases mem

/-! A registration that is made under a set flag terminates its process before it returns. -/

/-- The flag is set, and of the calls from number `n` on every registration that has returned has
terminated its process. -/
structure Settled (n : Nat) (t : Token) : Prop where
  cancelled : t.cancelled = true
  terminated : ∀ j p, n ≤ j → t.calls[j]? = some (.registered p false) → p ∈ t.terminated

theorem Steps.settled (h : Steps s a t) {n : Nat} (settled : Settled n s) : Settled n t := by
  obtain ⟨set, done⟩ := settled
  cases h with
  | set => exact ⟨rfl, fun j p late call => done j p late (by grind)⟩
  | register => exact ⟨set, fun j p late call => done j p late (by grind)⟩
  | unregister => exact ⟨set, done⟩
  | list => exact ⟨set, fun j p late call => done j p late (by grind)⟩
  | check => exact ⟨set, fun j p late call => done j p late (by grind)⟩
  | @listed k q qs =>
    exact ⟨set, fun j p late call => List.mem_cons_of_mem _ (done j p late (by grind [terminate]))⟩
  | @doomed k q =>
    refine ⟨set, fun j p late call => ?_⟩
    by_cases this : j = k
    · have : p = q := by grind [terminate]
      exact this ▸ List.mem_cons_self
    · exact List.mem_cons_of_mem _ (done j p late (by grind [terminate]))

theorem Run.terminated_late (h : Run s acts t) (set : s.cancelled = true)
    (late : s.calls.length ≤ j) (returned : t.calls[j]? = some (.registered p false)) :
    p ∈ t.terminated := by
  have start : Settled s.calls.length s := by
    refine ⟨set, fun i q later call => ?_⟩
    rw [List.getElem?_eq_none later] at call
    cases call
  exact (h.keeps start fun _ step => step.settled).terminated j p late returned

theorem Run.list_mem (h : Run {} acts t) {ps : List Nat}
    (call : t.calls[k]? = some (.terminating ps)) : .list k ∈ acts := by
  refine h.keeps (P := fun t => ∀ ps, t.calls[k]? = some (.terminating ps) → .list k ∈ acts)
    (by simp) (fun mem step ih ps call => ?_) ps call
  cases step with
  | @list k' call' =>
    by_cases this : k' = k
    · exact this ▸ mem
    · exact ih ps (by grind)
  | @listed k' p qs call' =>
    by_cases this : k' = k
    · exact ih qs (this ▸ call')
    · exact ih ps (by grind [terminate])
  | unregister => exact ih ps call
  | set | register | doomed | check => exact ih ps (by grind [terminate])

theorem Run.cancelled_of_set (h : Run s acts t) (set : .set ∈ acts) : t.cancelled = true := by
  obtain ⟨before, after, rfl⟩ := List.append_of_mem set
  obtain ⟨u, -, rest⟩ := h.split
  cases rest with
  | cons first rest =>
    cases steps_of_step first
    exact rest.cancelled rfl

/-- In whatever order the actions of all calls happen: a cancellation that has returned has listed
the registered processes at some point, and each process whose registration has returned has been
terminated, unless it was unregistered between its registration and that point; and from the moment
a cancellation sets the flag on, the flag is set. -/
theorem no_process_escapes {acts : List Action} {t : Token} (h : Run {} acts t) :
    (∀ k, t.calls[k]? = some (.terminating []) → .list k ∈ acts ∧
      ∀ before after, acts = before ++ .list k :: after →
        ∀ j p, t.calls[j]? = some (.registered p false) → KeptSince p j 0 before →
          p ∈ t.terminated) ∧
    (.set ∈ acts → t.cancelled = true) := by
  refine ⟨fun k returned => ⟨h.list_mem returned, ?_⟩, h.cancelled_of_set⟩
  rintro before after rfl j p registered kept
  obtain ⟨s, run, rest⟩ := h.split
  cases rest with
  | @cons _ u _ _ _ first rest =>
  cases steps_of_step first with
  | list call =>
  have inside : k < s.calls.length := (List.getElem?_eq_some_iff.mp call).1
  by_cases early : j < s.calls.length
  · -- the process was registered when the processes were listed
    have named : s.calls[j]?.bind Call.process? = some p := by
      rw [← (Run.cons first rest).process? early, registered]
      rfl
    have listed : p ∈ s.registered := run.registered kept (by simp) named
    refine rest.terminated (k := k) (.inr ⟨s.registered, ?_, listed⟩) returned
    exact List.getElem?_set_self inside
  · -- the registration found the flag set
    have set : s.cancelled = true := run.cancelled_of_cancelling call
    exact rest.terminated_late set (by simpa using early) registered

/-- A process that is registered before the processes are listed, and one that is registered after
that and before the cancellation returns. -/
theorem no_process_escapes_around_listing :
    let acts : List Action := [.register 7, .set, .list 1, .register 8, .check 0, .check 2,
      .unregister 7, .terminate 2 8, .terminate 0 7, .terminate 1 7]
    ∃ t, Run {} acts t ∧ t.cancelled = true ∧ 7 ∈ t.terminated ∧ 8 ∈ t.terminated := by
  intro acts
  have run : Run {} acts ⟨true, [8], [7, 7, 8],
      [.registered 7 false, .terminating [], .registered 8 false]⟩ :=
    .cons rfl <| .cons rfl <| .cons rfl <| .cons rfl <| .cons rfl <| .cons rfl <| .cons rfl <|
      .cons rfl <| .cons rfl <| .cons rfl <| .nil _
  obtain ⟨all, set⟩ := no_process_escapes run
  have kept (p j : Nat) : KeptSince p j 0 [.register 7, .set] := by
    intro before after split
    have : .unregister p ∈ [Action.register 7, .set] :=
      split ▸ List.mem_append_right _ List.mem_cons_self
    simp at this
  have done := (all 1 rfl).2 [.register 7, .set] _ rfl
  exact ⟨_, run, set (by decide), done 0 7 rfl (kept 7 0), done 2 8 rfl (kept 8 2)⟩

end JobMatrix.Token
