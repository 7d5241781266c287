import JobMatrix.Proofs.Lane

/-! A job by itself. An oracle says what comes of each step when nobody cancels the run; a lane
obeys it when its processes fare as the oracle says, unless they are killed after a cancellation.
Main statement: such a lane ends as it does by itself under a token that is never cancelled, or it
stops before, with the first results of that. -/

namespace JobMatrix

/-- What comes of a step by itself: its directory is missing, its process cannot be started, or the
process ends, in time or late. A step without a limit is never late. -/
inductive Outcome where
  | noDirectory (path : String)
  | refused (detail : String)
  | ended (o : Output) (late : Bool)

/-- What comes of each step of an instance by itself. -/
abbrev Oracle := Instance → Nat → Outcome

def Outcome.launch : Outcome → Launch
  | noDirectory path => .noDirectory path
  | refused detail => .refused detail
  | ended .. => .started

theorem Outcome.launch_sound (outcome : Outcome) (f : Fault) :
    outcome.launch ≠ .unreadable f ∧ outcome.launch ≠ .broken f := by
  cases outcome <;> simp [Outcome.launch]

namespace Lane

variable {o : Oracle} {x : Executor} {l l' : Lane} {c : Bool} {i : Instance} {k : Nat} {s : Step}
  {a : Attempt} {r : StepResult}

/-- A process that was killed: after a cancellation, while it had time left. It does not end with
code zero. -/
def Killed (c expired : Bool) (code : Int) : Prop := c = true ∧ expired = false ∧ code ≠ 0

/-- Whether a process that ends with a code ends as the oracle says. -/
def EndsBy (outcome : Outcome) (limit : Option Limit) (expired : Bool) (code : Int) : Prop :=
  ∃ out late, outcome = .ended out late ∧ expired = (late && limit.isSome) ∧ code = out.code

/-- Whether a move is what the oracle says of the present step. -/
def Obeys (o : Oracle) (c : Bool) (l : Lane) (m : Move) : Prop :=
  match m, l.phase with
  | .launch how, _ => how = (o l.subject l.results.length).launch
  | .exit code, .running limit expired =>
    EndsBy (o l.subject l.results.length) limit expired code ∨ Killed c expired code
  | .leave out err duration, .draining _ expired code =>
    (∃ late, o l.subject l.results.length = .ended ⟨code, out, err, duration⟩ late) ∨
      Killed c expired code
  | _, _ => True

/-- Whether all moves are what the oracle says. -/
def Obedient (o : Oracle) (x : Executor) : Lane → List (Bool × Move) → Prop
  | _, [] => True
  | l, (c, m) :: rest => Obeys o c l m ∧
    match l.advance x c m with
    | some (l', _) => Obedient o x l' rest
    | none => True

theorem Obedient.cons {m : Move} {es : List Emission} {moves : List (Bool × Move)}
    (first : l.advance x c m = some (l', es)) (obeys : Obeys o c l m)
    (rest : Obedient o x l' moves) : Obedient o x l ((c, m) :: moves) := by
  simpa [Obedient, first] using ⟨obeys, rest⟩

/-- The limit of a step when the job has no deadline. -/
def ownLimit (x : Executor) (s : Step) : Option Limit := (x.ownTimeout s).map Limit.ofNumber

/-- A job that no limit can break: it has no deadline, and the limits of its steps can be waited
for. -/
structure Calm (x : Executor) (i : Instance) : Prop where
  endless : x.jobTimeout = none
  bounded : ∀ s ∈ i.steps, (ownLimit x s).elim false Limit.boundless = false

/-- The result of a step by itself. -/
def soloResult (x : Executor) (outcome : Outcome) (s : Step) (k : Nat) : StepResult :=
  if isSpent (ownLimit x s) then spentResult x s k
  else match outcome with
    | .noDirectory path => Attempt.result (.failed
        { step := s.label, error := some ("working directory not found: " ++ path) }) s k
    | .refused detail => Attempt.result (.failed
        { step := s.label, error := some ("could not start: " ++ detail) }) s k
    | .ended out late =>
      (ending false s (ownLimit x s) (late && (ownLimit x s).isSome) out).result s k

/-- The results of all steps, each by itself. -/
def track (x : Executor) (o : Oracle) (i : Instance) : List StepResult :=
  i.steps.mapIdx fun k s => soloResult x (o i k) s k

/-- The result of a job by itself: that of its steps up to the first that fails. -/
def solo (x : Executor) (o : Oracle) (i : Instance) : JobResult :=
  match (track x o i).findIdx? (!·.ok) with
  | none => { subject := i, steps := track x o i }
  | some k =>
    { subject := i, steps := (track x o i).take (k + 1), status := .failure, failedAt := some k }

/-- The result of a step that was cancelled. -/
def cancelledResult (s : Step) (index : Int) : StepResult :=
  { step := s, index, status := .cancelled, error := some "cancelled" }

theorem track_get (step : i.steps[k]? = some s) :
    (track x o i)[k]? = some (soloResult x (o i k) s k) := by
  simp [track, step]

theorem soloResult_spent (spent : isSpent (ownLimit x s) = true) (outcome : Outcome) (k : Nat) :
    soloResult x outcome s k = spentResult x s k := by
  simp [soloResult, spent]

theorem soloResult_ended (left : isSpent (ownLimit x s) = false) (out : Output) (late : Bool)
    (k : Nat) : soloResult x (.ended out late) s k =
      (ending false s (ownLimit x s) (late && (ownLimit x s).isSome) out).result s k := by
  simp [soloResult, left]

theorem soloResult_unstarted {outcome : Outcome} (left : isSpent (ownLimit x s) = false)
    (h : unstarted? false s outcome.launch = some a) (k : Nat) :
    soloResult x outcome s k = a.result s k := by
  cases outcome with
  | noDirectory path => cases h; simp [soloResult, left]
  | refused detail => cases h; simp [soloResult, left]
  | ended out late => cases h

theorem soloResult_status (x : Executor) (outcome : Outcome) (s : Step) (k : Nat) :
    (soloResult x outcome s k).status = .success ∨
      (soloResult x outcome s k).status = .failure := by
  cases spent : isSpent (ownLimit x s) with
  | true => rw [soloResult_spent spent]; exact .inr rfl
  | false =>
    cases outcome with
    | noDirectory path => rw [soloResult_unstarted spent rfl]; exact .inr rfl
    | refused detail => rw [soloResult_unstarted spent rfl]; exact .inr rfl
    | ended out late =>
      rw [soloResult_ended spent, ending]
      have judged := Attempt.ofEnding_judged s out
        (if late && (ownLimit x s).isSome then (ownLimit x s).map Limit.text else none) false
      generalize Attempt.ofEnding s out _ false = a at judged
      cases judged with
      | finished => exact .inl rfl
      | failed => exact .inr rfl
      | cancelled _ _ token => cases token

theorem soloResult_not_cancelled (x : Executor) (outcome : Outcome) (s : Step) (k : Nat) :
    (soloResult x outcome s k).status ≠ .cancelled := by
  rcases soloResult_status x outcome s k with status | status <;> simp [status]

theorem track_status (h : (track x o i)[k]? = some r) : r.status ≠ .cancelled := by
  simp only [track, List.getElem?_mapIdx, Option.map_eq_some_iff] at h
  obtain ⟨s, -, rfl⟩ := h
  exact soloResult_not_cancelled x _ s k

/-! A cancelled token changes what comes of a step only by cancelling the step. -/

theorem unstarted?_token {how : Launch} (h : unstarted? c s how = some a) :
    unstarted? false s how = some a ∨ c = true ∧ ∃ subject, a = .cancelled subject := by
  cases c with
  | false => exact .inl h
  | true =>
    cases how with
    | unreadable | noDirectory => exact .inl h
    | started | refused | broken => exact .inr ⟨rfl, "run", by simpa [unstarted?] using h.symm⟩

theorem ending_token (c : Bool) (s : Step) (limit : Option Limit) (expired : Bool) (o : Output) :
    ending c s limit expired o = ending false s limit expired o ∨
      c = true ∧ ∃ subject, ending c s limit expired o = .cancelled subject := by
  unfold ending Attempt.ofEnding
  generalize (if expired then limit.map Limit.text else none) = late
  by_cases good : (o.code == 0 && late.isNone) = true
  · exact .inl (by simp only [good, if_true])
  · cases c with
    | false => exact .inl rfl
    | true =>
      cases late with
      | none =>
        have bad : o.code ≠ 0 := by simpa using good
        exact .inr ⟨rfl, "step '" ++ s.label ++ "'", by simp [bad]⟩
      | some text => exact .inl (by simp)

theorem ending_killed {expired : Bool} {code : Int} (killed : Killed c expired code) (s : Step)
    (limit : Option Limit) (out err : String) (duration : Number) :
    ending c s limit expired ⟨code, out, err, duration⟩ =
      .cancelled ("step '" ++ s.label ++ "'") := by
  obtain ⟨rfl, rfl, bad⟩ := killed
  simp [ending, Attempt.ofEnding, bad]

/-- What comes of a process whose end and whose output are those of the oracle, unless it was
killed. -/
theorem ending_known {outcome : Outcome} {expired : Bool} {code : Int} {out err : String}
    {duration : Number} (left : isSpent (ownLimit x s) = false)
    (ends : EndsBy outcome (ownLimit x s) expired code ∨ Killed c expired code)
    (leaves : (∃ late, outcome = .ended ⟨code, out, err, duration⟩ late) ∨ Killed c expired code)
    (k : Nat) :
    (ending c s (ownLimit x s) expired ⟨code, out, err, duration⟩).result s k =
        soloResult x outcome s k ∨
      c = true ∧ ∃ subject,
        ending c s (ownLimit x s) expired ⟨code, out, err, duration⟩ = .cancelled subject := by
  -- the code may be that of a killed process at either of the two moments
  rcases ends with ends | killed
  · rcases leaves with ⟨late', outcome'⟩ | killed
    · obtain ⟨out', late, outcome, rfl, rfl⟩ := ends
      have same : ⟨out'.code, out, err, duration⟩ = out' :=
        (Outcome.ended.inj (outcome'.symm.trans outcome)).1
      refine (ending_token c s _ _ _).imp_left fun own => ?_
      rw [own, same, outcome, soloResult_ended left]
    · exact .inr ⟨killed.1, _, ending_killed killed ..⟩
  · exact .inr ⟨killed.1, _, ending_killed killed ..⟩

/-! The invariant of a lane that obeys an oracle: its results are those of the track, as long as no
step is cancelled. -/

/-- A result that a lane may have at a position: that of the step by itself, or that it was
cancelled. -/
def OnTrack (x : Executor) (o : Oracle) (i : Instance) (k : Nat) (r : StepResult) : Prop :=
  (track x o i)[k]? = some r ∨ ∃ s, i.steps[k]? = some s ∧ r = cancelledResult s k

/-- A limit of the present step is its own, and leaves it time. -/
def Limited (x : Executor) (l : Lane) (limit : Option Limit) : Prop :=
  ∀ s, l.step? = some s → limit = ownLimit x s ∧ isSpent limit = false

/-- What a phase says of the oracle. -/
def Attuned (x : Executor) (o : Oracle) (c : Bool) (l : Lane) : Prop :=
  match l.phase with
  | .starting limit => Limited x l limit
  | .running limit _ => Limited x l limit
  | .draining limit expired code => Limited x l limit ∧
    (EndsBy (o l.subject l.results.length) limit expired code ∨ Killed c expired code)
  | .closed .cancelled _ => c = true
  | .broken _ => False
  | _ => True

structure Tracks (x : Executor) (o : Oracle) (c : Bool) (l : Lane) : Prop where
  endless : l.deadline = none
  results : ∀ k r, l.results[k]? = some r → OnTrack x o l.subject k r
  attuned : Attuned x o c l

/-- A token that is set later changes nothing about what has happened. -/
theorem Tracks.weaken {d : Bool} (h : Tracks x o c l) (le : c = true → d = true) :
    Tracks x o d l := by
  refine ⟨h.endless, h.results, ?_⟩
  have attuned := h.attuned
  unfold Attuned at attuned ⊢
  split at attuned
  · exact attuned
  · exact attuned
  · exact ⟨attuned.1, attuned.2.imp_right fun killed => ⟨le killed.1, killed.2⟩⟩
  · exact le attuned
  · exact attuned
  · trivial

theorem Tracks.record (h : Tracks x o c l) (on : OnTrack x o l.subject l.results.length r)
    (token : r.status = .cancelled → c = true) : Tracks x o c (l.record r).1 := by
  refine ⟨?_, ?_, ?_⟩
  · cases status : r.status <;> simp [Lane.record, status, proceed_fst, close, h.endless]
  · rw [record_subject]
    exact record_forall h.results on
  · cases status : r.status with
    | success =>
      rw [record_success status, proceed_fst]
      by_cases more : l.results.length + 1 < l.subject.steps.length <;> simp [Attuned, more]
    | failure => rw [record_failure status]; trivial
    | cancelled => rw [record_cancelled status]; exact token status
    | other word => simp [Lane.record, status, close, Attuned]

theorem onTrack_of_attempt (step : l.step? = some s) (h : a.result s l.results.length =
        soloResult x (o l.subject l.results.length) s l.results.length ∨
      c = true ∧ ∃ subject, a = .cancelled subject) :
    OnTrack x o l.subject l.results.length (a.result s l.results.length) ∧
      ((a.result s l.results.length).status = .cancelled → c = true) := by
  rcases h with own | ⟨token, subject, rfl⟩
  · rw [own]
    exact ⟨.inl (track_get step), fun status => absurd status (soloResult_not_cancelled x _ s _)⟩
  · exact ⟨.inr ⟨s, step, rfl⟩, fun _ => token⟩

theorem limitFor_endless (endless : l.deadline = none) (s : Step) (now : Rat) :
    x.limitFor s l.deadline now = ownLimit x s := by
  rw [endless]
  rfl

theorem Advances.tracks {m : Move} (h : Advances x c l m l') (calm : Calm x l.subject)
    (obeys : Obeys o c l m) (tracks : Tracks x o c l) : Tracks x o c l' := by
  have attuned := tracks.attuned
  cases h with
  | refuse _ token => exact ⟨tracks.endless, tracks.results, token⟩
  | @start m now deadline _ _ told =>
    have endless : deadline = none := by
      simp only [Executor.deadline, calm.endless, Except.ok.injEq] at told
      exact told.symm
    rw [proceed_fst]
    refine ⟨endless, tracks.results, ?_⟩
    by_cases more : l.results.length < l.subject.steps.length <;> simp [Attuned, more]
  | startFault _ _ untold => simp [Executor.deadline, calm.endless] at untold
  | stop _ _ token => exact ⟨tracks.endless, tracks.results, token⟩
  | @spend now s _ step _ spent =>
    rw [limitFor_endless tracks.endless] at spent
    refine tracks.record (.inl ?_) (fun status => by cases status)
    rw [track_get step, soloResult_spent spent]
  | @announce now s _ step _ left =>
    rw [limitFor_endless tracks.endless] at left ⊢
    refine ⟨tracks.endless, tracks.results, fun t at_ => ?_⟩
    obtain rfl : s = t := by simpa [step?] using step.symm.trans at_
    exact ⟨rfl, left⟩
  | @unstarted limit s how a phase step attempt =>
    simp only [Attuned, phase] at attuned
    obtain ⟨rfl, left⟩ := attuned s step
    have told : how = (o l.subject l.results.length).launch := obeys
    have known := (unstarted?_token attempt).imp_left fun own =>
      (soloResult_unstarted left (told ▸ own) l.results.length).symm
    obtain ⟨on, token⟩ := onTrack_of_attempt step known
    exact tracks.record on token
  | @launchFault limit s how f phase step why =>
    simp only [Attuned, phase] at attuned
    obtain ⟨rfl, -⟩ := attuned s step
    have told : how = (o l.subject l.results.length).launch := obeys
    rcases why with broken | ⟨-, broken | ⟨-, boundless, -⟩⟩
    · exact absurd (told.symm.trans broken) (Outcome.launch_sound _ f).1
    · exact absurd (told.symm.trans broken) (Outcome.launch_sound _ f).2
    · have mem : s ∈ l.subject.steps := List.mem_of_getElem? step
      simp [calm.bounded s mem] at boundless
  | spawn phase =>
    simp only [Attuned, phase] at attuned
    exact ⟨tracks.endless, tracks.results, attuned⟩
  | expire phase =>
    simp only [Attuned, phase] at attuned
    exact ⟨tracks.endless, tracks.results, attuned⟩
  | exit phase =>
    simp only [Attuned, phase] at attuned
    simp only [Obeys, phase] at obeys
    exact ⟨tracks.endless, tracks.results, attuned, obeys⟩
  | @leave limit expired code s out err duration phase step =>
    simp only [Attuned, phase] at attuned
    simp only [Obeys, phase] at obeys
    obtain ⟨limited, ends⟩ := attuned
    obtain ⟨rfl, left⟩ := limited s step
    obtain ⟨on, token⟩ := onTrack_of_attempt step (ending_known left ends obeys l.results.length)
    exact tracks.record on token

theorem tracks_queued (x : Executor) (o : Oracle) (c : Bool) (i : Instance) :
    Tracks x o c { subject := i } :=
  ⟨rfl, by simp, trivial⟩

theorem Run.tracks {d : Bool} {moves : List (Bool × Move)} (h : Run x l moves l')
    (calm : Calm x l.subject) (obedient : Obedient o x l moves) (rising : Rising c moves d)
    (tracks : Tracks x o c l) : Tracks x o d l' := by
  induction h generalizing c with
  | nil => exact tracks.weaken rising
  | cons first _ ih =>
    have taken := advances_of_advance first
    simp only [Obedient, first] at obedient
    exact ih (taken.subject ▸ calm) obedient.2 rising.2
      (taken.tracks calm obedient.1 (tracks.weaken rising.1))

/-! Where a lane ends that obeys an oracle. -/

theorem take_track {rs : List StepResult} (rest : List StepResult)
    (on : ∀ k r, (rs ++ rest)[k]? = some r → OnTrack x o i k r) (ok : AllOk rs) :
    rs = (track x o i).take rs.length := by
  refine List.prefix_iff_eq_take.mp (List.prefix_iff_getElem?.mpr fun k inside => ?_)
  have here : (rs ++ rest)[k]? = some rs[k] := by
    rw [List.getElem?_append_left inside, List.getElem?_eq_getElem inside]
  rcases on k _ here with on | ⟨s, -, cancelled⟩
  · exact on
  · have status := ok _ (List.getElem_mem inside)
    rw [cancelled] at status
    cases status

theorem solo_success (ok : AllOk (track x o i)) :
    solo x o i = { subject := i, steps := track x o i } := by
  have none_ : (track x o i).findIdx? (!·.ok) = none := by
    refine List.findIdx?_eq_none_iff.mpr fun r mem => ?_
    simp [StepResult.ok, ok r mem]
  simp [solo, none_]

theorem solo_failure (ok : AllOk ((track x o i).take k)) (at_ : (track x o i)[k]? = some r)
    (status : r.status ≠ .success) :
    solo x o i = {
      subject := i, steps := (track x o i).take (k + 1), status := .failure
      failedAt := some k } := by
  obtain ⟨inside, here⟩ := List.getElem?_eq_some_iff.mp at_
  have first : (track x o i).findIdx? (!·.ok) = some k := by
    refine List.findIdx?_eq_some_iff_getElem.mpr ⟨inside, by simpa [here, StepResult.ok], ?_⟩
    intro j before
    have := ok _ (List.mem_take_iff_getElem.mpr ⟨j, by omega, rfl⟩)
    simpa [StepResult.ok]
  simp [solo, first]

theorem take_solo {j : Nat} (ok : AllOk ((track x o i).take j))
    (inside : j ≤ (track x o i).length) :
    (solo x o i).steps.take j = (track x o i).take j ∧ j ≤ (solo x o i).steps.length := by
  cases first : (track x o i).findIdx? (!·.ok) with
  | none => simpa [solo, first] using inside
  | some k =>
    obtain ⟨within, bad, -⟩ := List.findIdx?_eq_some_iff_getElem.mp first
    have later : j ≤ k := by
      by_contra before
      have := ok _ (List.mem_take_iff_getElem.mpr ⟨k, by omega, rfl⟩)
      simp [StepResult.ok, this] at bad
    simp only [solo, first, List.take_take, List.length_take]
    exact ⟨by rw [Nat.min_eq_left (by omega)], by omega⟩

end Lane

/-- A result that is cut off: after some first results of the whole, all successes, the job was
cancelled, before the next step or in it. -/
def JobResult.Truncates (r whole : JobResult) : Prop :=
  r.subject = whole.subject ∧ r.status = .cancelled ∧ r.failedAt = none ∧
    ∃ j ≤ whole.steps.length, Lane.AllOk (whole.steps.take j) ∧
      (r.steps = whole.steps.take j ∨ ∃ s, r.subject.steps[j]? = some s ∧
        r.steps = whole.steps.take j ++ [Lane.cancelledResult s j])

namespace Lane

variable {x : Executor} {o : Oracle} {l l' : Lane} {s : Step}

theorem solo_subject (x : Executor) (o : Oracle) (i : Instance) : (solo x o i).subject = i := by
  unfold solo
  split <;> rfl

theorem Tracks.result {c : Bool} {i : Instance} {ds : List Deed} {r : JobResult}
    (tracks : Tracks x o c l) (from_ : FromQueue i ds l) (closed : l.result? = some r) :
    r = solo x o i ∨ c = true ∧ r.Truncates (solo x o i) := by
  cases from_ with
  | queued => cases closed
  | refused =>
    cases closed
    refine .inr ⟨tracks.attuned, (solo_subject x o i).symm, rfl, rfl, 0, Nat.zero_le _, ?_, .inl ?_⟩
    · simp [AllOk]
    · simp [resultAs]
  | begun subject begun =>
    obtain ⟨placed, stands⟩ := begun
    obtain ⟨-, on, attuned⟩ := tracks
    obtain ⟨i, phase, deadline, results⟩ := l
    dsimp only at placed stands on subject
    subst subject
    have length : (track x o i).length = i.steps.length := by simp [track]
    cases stands with
    | success ok all =>
      cases closed
      have whole : results = track x o i := by
        have same := take_track [] (by simpa using on) ok
        rwa [List.take_of_length_le (by omega)] at same
      left
      rw [solo_success (whole ▸ ok), ← whole]
      rfl
    | @failure rs r _ ok more status =>
      cases closed
      have same := take_track [r] on ok
      have here : (track x o i)[rs.length]? = some r := by
        rcases on rs.length r (by simp) with on | ⟨s, -, rfl⟩
        · exact on
        · cases status
      left
      rw [solo_failure (same ▸ ok) here (by simp [status]), List.take_add_one, here, ← same]
      rfl
    | stopped ok more =>
      cases closed
      have same := take_track [] (by simpa using on) ok
      obtain ⟨cut, inside⟩ := take_solo (same ▸ ok) (by omega)
      refine .inr ⟨attuned, (solo_subject x o i).symm, rfl, rfl, results.length, inside, ?_⟩
      rw [cut, ← same]
      exact ⟨ok, .inl rfl⟩
    | @cancelled rs r _ ok more status =>
      cases closed
      have same := take_track [r] on ok
      obtain ⟨cut, inside⟩ := take_solo (same ▸ ok) (by omega)
      refine .inr ⟨attuned, (solo_subject x o i).symm, rfl, rfl, rs.length, inside, ?_⟩
      rw [cut, ← same]
      rcases on rs.length r (by simp) with on | ⟨s, step, rfl⟩
      · exact absurd status (track_status on)
      · exact ⟨ok, .inr ⟨s, step, rfl⟩⟩
    | looking | starting | running | draining | broken => cases closed

/-! A job runs to its end by itself. -/

/-- A lane goes on by itself, under a token that is never set. -/
def Goes (o : Oracle) (x : Executor) (l l' : Lane) : Prop :=
  ∃ moves, Run x l moves l' ∧ Obedient o x l moves ∧ ∀ m ∈ moves, m.1 = false

theorem Goes.refl (o : Oracle) (x : Executor) (l : Lane) : Goes o x l l :=
  ⟨[], .nil l, trivial, by simp⟩

theorem Goes.step {l'' : Lane} (m : Move) (first : (l.advance x false m).map Prod.fst = some l')
    (obeys : Obeys o false l m) (rest : Goes o x l' l'') : Goes o x l l'' := by
  obtain ⟨⟨_, es⟩, moved, rfl⟩ := Option.map_eq_some_iff.mp first
  obtain ⟨moves, run, obedient, unset⟩ := rest
  exact ⟨(false, m) :: moves, .cons moved run, .cons moved obeys obedient, by simpa using unset⟩

/-- A process ends as the oracle says: its time runs out before, or it does not. -/
theorem Goes.exit {limit : Option Limit} {out : Output} {late : Bool}
    (phase : l.phase = .running limit false) (step : l.step? = some s)
    (outcome : o l.subject l.results.length = .ended out late)
    (rest : Goes o x { l with phase := .draining limit (late && limit.isSome) out.code } l') :
    Goes o x l l' := by
  cases expires : late && limit.isSome with
  | false =>
    rw [expires] at rest
    refine .step (.exit out.code) (by simp [advance, phase]) ?_ rest
    simpa [Obeys, phase] using .inl ⟨out, late, outcome, expires.symm, rfl⟩
  | true =>
    rw [expires] at rest
    obtain ⟨rfl, some_⟩ := Bool.and_eq_true_iff.mp expires
    obtain ⟨limit, rfl⟩ := Option.isSome_iff_exists.mp some_
    have late : (l.advance x false .expire).map Prod.fst =
        some { l with phase := .running (some limit) true } := by
      simp [advance, phase, step]
    refine .step .expire late (by simp [Obeys]) (.step (.exit out.code) (by simp [advance]) ?_ rest)
    simpa [Obeys] using .inl ⟨out, true, outcome, rfl, rfl⟩

theorem Goes.unstarted {limit : Option Limit} {a : Attempt} (phase : l.phase = .starting limit)
    (step : l.step? = some s)
    (attempt : unstarted? false s (o l.subject l.results.length).launch = some a) :
    Goes o x l (l.record (a.result s l.results.length)).1 := by
  refine .step (.launch (o l.subject l.results.length).launch) ?_ rfl (.refl ..)
  cases outcome : (o l.subject l.results.length).launch <;>
    simp_all [unstarted?, advance, Lane.launch, conclude]

/-- A lane comes by itself from before a step to the result that the step has by itself. -/
theorem goes_record (o : Oracle) (calm : Calm x l.subject) (endless : l.deadline = none)
    (phase : l.phase = .looking) (step : l.step? = some s) :
    Goes o x l (l.record
      (soloResult x (o l.subject l.results.length) s l.results.length)).1 := by
  have looks : l.advance x false (.look 0) = some (l.look x false s 0) := by
    simp [advance, phase, step]
  cases spent : isSpent (ownLimit x s) with
  | true =>
    rw [soloResult_spent spent]
    refine .step (.look 0) ?_ trivial (.refl ..)
    unfold isSpent at spent
    simp [looks, Lane.look, limitFor_endless endless, spent, spentResult]
  | false =>
    have announced : (l.advance x false (.look 0)).map Prod.fst =
        some { l with phase := .starting (ownLimit x s) } := by
      have left := spent
      unfold isSpent at left
      simp [looks, Lane.look, limitFor_endless endless, left]
    refine .step (.look 0) announced trivial ?_
    cases attempt : unstarted? false s (o l.subject l.results.length).launch with
    | some a =>
      rw [soloResult_unstarted spent attempt]
      exact .unstarted rfl step attempt
    | none =>
      obtain ⟨out, late, outcome⟩ : ∃ out late, o l.subject l.results.length = .ended out late := by
        cases outcome : o l.subject l.results.length <;>
          simp_all [unstarted?, Outcome.launch]
      rw [outcome, soloResult_ended spent]
      have here : l.subject.steps[l.results.length]? = some s := step
      have bounded := calm.bounded s (List.mem_of_getElem? step)
      have spawned : (advance x false { l with phase := .starting (ownLimit x s) }
          (.launch .started)).map Prod.fst =
            some { l with phase := .running (ownLimit x s) false } := by
        simp [advance, step?, here, Lane.launch, bounded]
      refine .step (.launch .started) spawned (by simp [Obeys, outcome, Outcome.launch]) ?_
      refine .exit rfl step outcome ?_
      refine .step (.leave out.stdout out.stderr out.duration) ?_ ?_ (.refl ..)
      · simp only [advance, step?, here]
        rfl
      · exact .inl ⟨late, outcome⟩

theorem Goes.trans {l'' : Lane} (h : Goes o x l l') (k : Goes o x l' l'') : Goes o x l l'' := by
  obtain ⟨moves, run, obedient, unset⟩ := h
  induction run with
  | nil => exact k
  | @cons l l' _ c m es moves first _ ih =>
    obtain rfl : c = false := unset (c, m) List.mem_cons_self
    simp only [Obedient, first] at obedient
    refine .step m (by rw [first]; rfl) obedient.1 ?_
    exact ih k obedient.2 fun m mem => unset m (List.mem_cons_of_mem _ mem)

/-- A lane before a step, or past the last one, comes to its end by itself. -/
theorem goes_to_end (o : Oracle) (n : Nat) (calm : Calm x l.subject) (endless : l.deadline = none)
    (left : l.subject.steps.length = l.results.length + n) :
    ∃ l' r, Goes o x l.proceed.1 l' ∧ l'.result? = some r := by
  induction n generalizing l with
  | zero =>
    refine ⟨l.proceed.1, l.resultAs .success none, .refl .., ?_⟩
    simp [proceed_fst, left, result?, resultAs]
  | succ n ih =>
    have more : l.results.length < l.subject.steps.length := by omega
    obtain ⟨s, step⟩ : ∃ s, l.step? = some s := ⟨_, List.getElem?_eq_getElem more⟩
    have looking : l.proceed.1 = { l with phase := .looking } := by simp [proceed_fst, more]
    have next := goes_record o (l := { l with phase := .looking }) calm endless rfl step
    rw [looking]
    rcases soloResult_status x (o l.subject l.results.length) s l.results.length with
      status | status
    · rw [record_success status] at next
      obtain ⟨l', r, goes, closed⟩ := ih (l := { l with
        phase := .looking
        results := l.results ++ [soloResult x (o l.subject l.results.length) s l.results.length] })
        calm endless (by simp; omega)
      exact ⟨l', r, next.trans goes, closed⟩
    · rw [record_failure status] at next
      exact ⟨_, _, next, rfl⟩

/-- The result of a job that runs by itself, under a token that is never set. -/
def Alone (x : Executor) (o : Oracle) (i : Instance) (r : JobResult) : Prop :=
  ∃ now moves l, Run x { subject := i } ((false, .begin now) :: moves) l ∧
    Obedient o x { subject := i } ((false, .begin now) :: moves) ∧ (∀ m ∈ moves, m.1 = false) ∧
    l.result? = some r

theorem rising_of_unset {moves : List (Bool × Move)} (unset : ∀ m ∈ moves, m.1 = false) :
    Rising false moves false := by
  induction moves with
  | nil => exact id
  | cons m rest ih =>
    obtain ⟨c, m⟩ := m
    obtain rfl : c = false := unset (c, m) List.mem_cons_self
    exact ⟨id, ih fun m mem => unset m (List.mem_cons_of_mem _ mem)⟩

theorem alone_iff (o : Oracle) {i : Instance} (calm : Calm x i) (r : JobResult) :
    Alone x o i r ↔ r = solo x o i := by
  have only : ∀ r, Alone x o i r → r = solo x o i := by
    rintro r ⟨now, moves, l, run, obedient, unset, closed⟩
    have tracks := run.tracks calm obedient (rising_of_unset (by simpa using unset))
      (tracks_queued x o false i)
    rcases tracks.result run.fromQueue closed with same | ⟨token, -⟩
    · exact same
    · cases token
  refine ⟨only r, ?_⟩
  rintro rfl
  obtain ⟨l, r, ⟨moves, run, obedient, unset⟩, closed⟩ :=
    goes_to_end o i.steps.length (l := { subject := i }) calm rfl (by simp)
  have first : advance x false { subject := i } (.begin 0) =
      some (start x { subject := i } 0) := rfl
  have begun : (start x { subject := i } 0).1 = (proceed { subject := i }).1 := by
    simp [start, Executor.deadline, calm.endless]
  have alone : Alone x o i r := by
    exact ⟨0, moves, l, .cons first (begun ▸ run), .cons first trivial (begun ▸ obedient), unset,
      closed⟩
  exact only r alone ▸ alone

end Lane

end JobMatrix
