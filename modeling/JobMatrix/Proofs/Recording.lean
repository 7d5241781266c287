import JobMatrix.Proofs.RunRows
import Mathlib.Logic.Function.Basic

/-! Runs as they are recorded through a connection. A run is entered when it starts; when it has
ended, its rows are added one after another and its entry is closed. Any request may raise
something, which leaves the tables as they are and ends the recording of what was being written. -/

namespace JobMatrix.History

/-- How far the recording of a run has come. `entered` tells whether its start was recorded. -/
inductive Stage where
  | absent
  | begun (entered : Bool)
  | adding (entered : Bool) (result : RunResult) (report : Report) (done rest : List Item)
  | finished (entered : Bool) (result : RunResult) (report : Report)
  | failed (entered : Bool) (done : List Item)

namespace Stage

def entered : Stage → Bool
  | absent => false
  | begun e => e
  | adding e _ _ _ _ => e
  | finished e _ _ => e
  | failed e _ => e

/-- The items that were recorded. -/
def done : Stage → List Item
  | adding _ _ _ done _ => done
  | finished _ result _ => Item.ofResult result
  | failed _ done => done
  | _ => []

/-- What the row of a run that was entered tells. -/
def Tells : Stage → Row → Prop
  | finished _ _ report, r => r.get "status" = .text report.overall.text ∧
      r.get "end_timestamp" ≠ .null ∧ r.get "report_json" ≠ .null
  | _, r => r.get "status" = .text "running" ∧ r.get "end_timestamp" = .null ∧
      Dict.keys r.cells = Table.runs.columns.map Column.name

/-- The rows of a run in the table of runs: one that was entered has one. -/
structure Lists (g : Stage) (rows : List Row) : Prop where
  one : g.entered = true → ∃ r, rows = [r] ∧ g.Tells r
  none : g.entered = false → rows = []

theorem Lists.perm {g : Stage} {rows rows' : List Row} (h : g.Lists rows) (perm : rows'.Perm rows) :
    g.Lists rows' := by
  refine ⟨fun entered => ?_, fun absent => ?_⟩
  · obtain ⟨r, rfl, told⟩ := h.one entered
    exact ⟨r, List.perm_singleton.mp perm, told⟩
  · rw [h.none absent] at perm
    exact List.perm_nil.mp perm

/-- What is recorded is what the run has come to. -/
def Planned (ends : RunResult → Report → Prop) : Stage → Prop
  | adding _ result report done rest => ends result report ∧ done ++ rest = Item.ofResult result
  | finished _ result report => ends result report
  | _ => True

end Stage

/-- The history and how far each run has come in it. -/
structure Book where
  store : Store := {}
  stage : String → Stage := fun _ => .absent

/-- The book with another store, in which a run has come to a stage. -/
def Book.turn (b : Book) (s : Store) (run : String) (g : Stage) : Book :=
  { store := s, stage := Function.update b.stage run g }

/-- What holds of every book. `ends` are the results that each run may have, with the report on
each. -/
structure Book.Consistent (ends : String → RunResult → Report → Prop) (b : Book) : Prop where
  sound : ∀ t, b.store.Sound t
  runs : ∀ run, (b.stage run).Lists (b.store.listed .runs "run_id" run)
  rows : ∀ run, Holds b.store run (b.stage run).done
  planned : ∀ run, (b.stage run).Planned (ends run)
  named : ∀ r ∈ b.store.runs, ∃ run, r.get "run_id" = .text run
  owned : ∀ r ∈ b.store.jobs, ∃ run, r.get "run_id" = .text run
  numbers : ∀ r ∈ b.store.steps, r.get "output_id" = .int r.number

namespace Book

variable {ends : String → RunResult → Report → Prop} {b : Book} {run : String} {s : Store} {g : Stage}

theorem stage_turn : (b.turn s run g).stage run = g := Function.update_self ..

theorem stage_turn_of_ne {run' : String} (other : run' ≠ run) :
    (b.turn s run g).stage run' = b.stage run' := Function.update_of_ne other ..

theorem forall_turn {P : String → Stage → Prop} (own : P run g)
    (others : ∀ run' ≠ run, P run' (b.stage run')) (run' : String) :
    P run' ((b.turn s run g).stage run') := by
  by_cases same : run' = run
  · subst same
    rw [stage_turn]
    exact own
  · rw [stage_turn_of_ne same]
    exact others run' same

theorem consistent_empty : Consistent ends {} where
  sound t := by cases t <;> exact ⟨rfl, rfl, rfl⟩
  runs run := ⟨nofun, fun _ => rfl⟩
  rows run := ⟨by simp [Stage.done], by simp [Store.listed, Store.rows, Stage.done, Item.jobs],
    by simp [Stage.done, Item.jobs]⟩
  planned run := trivial
  named := by simp
  owned := by simp
  numbers := by simp

theorem Consistent.restage (h : Consistent ends b) (entered : g.entered = (b.stage run).entered)
    (done : g.done = (b.stage run).done) (tells : ∀ r, (b.stage run).Tells r → g.Tells r)
    (planned : g.Planned (ends run)) : Consistent ends (b.turn b.store run g) where
  sound := h.sound
  runs := by
    refine forall_turn (P := fun run g => g.Lists (b.store.listed .runs "run_id" run)) ?_
      fun run' _ => h.runs run'
    refine ⟨fun there => ?_, fun absent => (h.runs run).none (entered ▸ absent)⟩
    obtain ⟨r, listed, told⟩ := (h.runs run).one (entered ▸ there)
    exact ⟨r, listed, tells r told⟩
  rows := forall_turn (P := fun run g => Holds b.store run g.done) (done ▸ h.rows run)
    fun run' _ => h.rows run'
  planned := forall_turn (P := fun run g => g.Planned (ends run)) planned fun run' _ => h.planned run'
  named := h.named
  owned := h.owned
  numbers := h.numbers

theorem Consistent.plan (h : Consistent ends b) {e : Bool} {result : RunResult} {report : Report}
    {done rest : List Item} (adding : b.stage run = .adding e result report done rest) :
    ends run result report ∧ Item.ofResult result = done ++ rest ∧ Holds b.store run done := by
  have planned := h.planned run
  have rows := h.rows run
  rw [adding] at planned rows
  exact ⟨planned.1, planned.2.symm, rows⟩

theorem sound_of_rows {s' : Store} {t : Table} (h : ∀ t, s.Sound t) (new : s'.Sound t)
    (same : ∀ t' ≠ t, s'.rows t' = s.rows t') (t' : Table) : s'.Sound t' := by
  refine ⟨?_, new.jobs, new.steps⟩
  by_cases other : t' = t
  · exact other ▸ new.keys
  · rw [same t' other]
    exact (h t').keys

theorem Consistent.start (h : Consistent ends b) {now : String} {event : Event}
    (new : b.stage run = .absent) (put : b.store.start now run event = .ok s) :
    Consistent ends (b.turn s run (.begun true)) := by
  obtain ⟨r, kept, -, rfl, sound⟩ := Store.insertValues_ok (t := .runs)
    ⟨by simp, by simp, by simp [Table.columns], by simp [Table.rowName]⟩ put
  have id : r.get "run_id" = .text run := kept.get (v := .text run) (.head _)
  have none_ : b.store.listed .runs "run_id" run = [] := (h.runs run).none (by rw [new]; rfl)
  refine ⟨?_, ?_, ?_, ?_, ?_, h.owned, h.numbers⟩
  · exact sound_of_rows h.sound sound fun t' other => Store.rows_grown_of_ne _ r other
  · refine forall_turn
      (P := fun run g => g.Lists ((b.store.grown .runs r).listed .runs "run_id" run))
      ⟨fun _ => ⟨r, ?_, ?_⟩, by rintro ⟨⟩⟩ fun run' other => ?_
    · have perm := Store.listed_grown_perm (s := b.store) (t := .runs) id
      rw [none_] at perm
      exact List.perm_singleton.mp perm
    · refine ⟨kept.get (v := .text "running") (by simp), ?_, kept.keys⟩
      exact kept.blank ⟨"end_timestamp", .integer, false⟩ (by simp [Table.columns]) (by simp)
        (by simp [Table.rowName])
    · rw [Store.listed_grown_other (by rw [id]; simpa using Ne.symm other)]
      exact h.runs run'
  · refine forall_turn (P := fun run g => Holds (b.store.grown .runs r) run g.done) ?_
      fun run' _ => (h.rows run').congr rfl rfl
    have own := h.rows run
    rw [new] at own
    exact own.congr rfl rfl
  · exact forall_turn (P := fun run g => g.Planned (ends run)) trivial fun run' _ => h.planned run'
  · intro q mem
    rcases (@Store.mem_rows_grown _ _ .runs r q).mp mem with ⟨-, rfl⟩ | old
    · exact ⟨run, id⟩
    · exact h.named q old

theorem Consistent.add (h : Consistent ends b) {now : String} {e : Bool} {result : RunResult}
    {report : Report} {i : Item} {done rest : List Item}
    (distinct : (result.jobs.map fun j => j.subject.index).Nodup)
    (adding : b.stage run = .adding e result report done (i :: rest))
    (put : b.store.insertValues (i.row run).1 now (i.row run).2 = .ok s) :
    Consistent ends (b.turn s run (.adding e result report (done ++ [i]) rest)) := by
  obtain ⟨ended, split_, rows⟩ := h.plan adding
  have rows' := rows.add (h.sound .steps).steps (Item.follows_of_ofResult distinct split_) put
  have others (run' : String) (other : run' ≠ run) := (h.rows run').add_other (Ne.symm other) put
  obtain ⟨r, kept, -, rfl, sound⟩ := Store.insertValues_ok (i.names run) put
  have runs (run' : String) : (b.store.grown (i.row run).1 r).listed .runs "run_id" run' =
      b.store.listed .runs "run_id" run' := Store.listed_grown_of_ne (i.runs_ne run)
  have runs' : (b.store.grown (i.row run).1 r).runs = b.store.runs :=
    Store.rows_grown_of_ne b.store r (i.runs_ne run)
  refine ⟨?_, ?_, ?_, ?_, ?_, ?_, ?_⟩
  · exact sound_of_rows h.sound sound fun t' other => Store.rows_grown_of_ne _ r other
  · refine forall_turn (P := fun run' g => g.Lists ((b.store.grown (i.row run).1 r).listed .runs
      "run_id" run')) ?_ fun run' _ => runs run' ▸ h.runs run'
    have own := h.runs run
    rw [adding] at own
    exact runs run ▸ ⟨own.one, own.none⟩
  · exact forall_turn (P := fun run' g => Holds (b.store.grown (i.row run).1 r) run' g.done) rows'
      others
  · exact forall_turn (P := fun run g => g.Planned (ends run)) ⟨ended, by simp [split_]⟩
      fun run' _ => h.planned run'
  · intro q mem
    exact h.named q (runs' ▸ mem)
  · intro q mem
    rcases (@Store.mem_rows_grown _ _ .jobs r q).mp mem with ⟨table, rfl⟩ | old
    · cases i with
      | job j => exact ⟨run, Holds.get_run kept⟩
      | step j result => cases table
    · exact h.owned q old
  · intro q mem
    rcases (@Store.mem_rows_grown _ _ .steps r q).mp mem with ⟨table, rfl⟩ | old
    · exact kept.number table.symm
    · exact h.numbers q old

theorem Consistent.close (h : Consistent ends b) {now : String} {e : Bool} {result : RunResult}
    {report : Report} {done : List Item}
    (adding : b.stage run = .adding e result report done [])
    (put : b.store.close now run report = .ok s) :
    Consistent ends (b.turn s run (.finished e result report)) := by
  obtain ⟨ended, split_, rows⟩ := h.plan adding
  obtain ⟨json, rfl, sound⟩ := Store.close_ok put
  refine ⟨?_, ?_, ?_, ?_, ?_, h.owned, h.numbers⟩
  · refine sound_of_rows h.sound sound fun t' other => ?_
    cases t' with
    | runs => exact absurd rfl other
    | jobs | steps => rfl
  · refine forall_turn (P := fun run' g => g.Lists ((b.store.withEnd now run report.overall.text
      json).listed .runs "run_id" run')) ?_ fun run' other => ?_
    · have own := h.runs run
      have perm := b.store.listed_withEnd now run report.overall.text json run
      rw [adding] at own
      refine Stage.Lists.perm ⟨fun entered => ?_, fun absent => ?_⟩ perm
      · obtain ⟨r, listed, -, -, keys⟩ := own.one entered
        obtain ⟨status, time, text⟩ := Store.get_ended now report.overall.text json keys
        refine ⟨_, by rw [listed]; simp, status, ?_, ?_⟩
        · rw [time]
          exact Cell.integer_text_ne_null now
        · rw [text]
          exact Cell.noConfusion
      · rw [own.none absent]
        rfl
    · have perm := b.store.listed_withEnd now run report.overall.text json run'
      simp only [other, if_false, List.map_id'] at perm
      exact (h.runs run').perm perm
  · refine forall_turn (P := fun run' g => Holds (b.store.withEnd now run report.overall.text json)
      run' g.done) ?_ fun run' _ => (h.rows run').congr rfl rfl
    rw [Stage.done, split_, List.append_nil]
    exact rows.congr rfl rfl
  · exact forall_turn (P := fun run g => g.Planned (ends run)) ended fun run' _ => h.planned run'
  · intro q mem
    obtain ⟨r, mem, same⟩ := Store.mem_withEnd mem
    exact same ▸ h.named r mem

theorem Consistent.end_ (h : Consistent ends b) {e : Bool} {result : RunResult} {report : Report}
    (begun : b.stage run = .begun e) (ended : ends run result report) :
    Consistent ends (b.turn b.store run (.adding e result report [] (Item.ofResult result))) :=
  h.restage (by rw [begun]; rfl) (by rw [begun]; rfl)
    (fun r told => by rw [begun] at told; exact told) ⟨ended, rfl⟩

theorem Consistent.fail (h : Consistent ends b) {e : Bool} {result : RunResult} {report : Report}
    {done rest : List Item} (adding : b.stage run = .adding e result report done rest) :
    Consistent ends (b.turn b.store run (.failed e done)) :=
  h.restage (by rw [adding]; rfl) (by rw [adding]; rfl)
    (fun r told => by rw [adding] at told; exact told) trivial

theorem turn_turn {s' : Store} {g' : Stage} :
    (b.turn s run g).turn s' run g' = b.turn s' run g' := by
  simp only [turn, Function.update_idem]

end Book

namespace Connection

variable {ends : String → RunResult → Report → Prop} {c d : Connection} {b : Book} {run : String}
  {g : Stage} {e : Bool} {result : RunResult} {report : Report} {done rest : List Item}

/-- The tables of a connection are those of a book, and so they were in every state before, in which
no run was finished that is not finished alike in the book. -/
structure Follows (ends : String → RunResult → Report → Prop) (c : Connection) (b : Book) : Prop where
  store : b.store = c.store
  now : b.Consistent ends
  before : ∀ s ∈ c.past, ∃ b' : Book, b'.store = s ∧ b'.Consistent ends ∧
    ∀ run result report, b'.stage run = .finished true result report → b.stage run = b'.stage run

theorem Follows.empty (raises : Nat → Option Raised) : Follows ends { raises } {} :=
  ⟨rfl, Book.consistent_empty, nofun⟩

/-- The tables that a request leaves behind join those before. -/
theorem Follows.left (h : Follows ends c b) : ∀ s ∈ c.states, ∃ b' : Book, b'.store = s ∧
    b'.Consistent ends ∧
    ∀ run result report, b'.stage run = .finished true result report → b.stage run = b'.stage run := by
  intro s mem
  rcases List.mem_cons.mp mem with rfl | old
  · exact ⟨b, h.store, h.now, fun _ _ _ _ => rfl⟩
  · exact h.before s old

theorem Follows.idle (h : Follows ends c b) (store : d.store = c.store)
    (past : d.past ⊆ c.states) : Follows ends d b :=
  ⟨h.store.trans store.symm, h.now, fun s mem => h.left s (past mem)⟩

/-- One request: the run that it is about comes to another stage. -/
theorem Follows.turn (h : Follows ends c b)
    (open_ : ∀ result report, b.stage run ≠ .finished true result report)
    (next : (b.turn d.store run g).Consistent ends) (past : d.past ⊆ c.states) :
    Follows ends d (b.turn d.store run g) := by
  refine ⟨rfl, next, fun s mem => ?_⟩
  obtain ⟨b', store, consistent, lasts⟩ := h.left s (past mem)
  refine ⟨b', store, consistent, fun run' result report finished => ?_⟩
  have same := lasts run' result report finished
  have other : run' ≠ run := by
    rintro rfl
    exact open_ result report (same.trans finished)
  rw [Book.stage_turn_of_ne other]
  exact same

/-- The start of a run is entered, or something is raised and it is not. -/
theorem Follows.start (h : Follows ends c b) (new : b.stage run = .absent) (now : String)
    (event : Event) :
    Follows ends (c.start now run event).1
      (b.turn (c.start now run event).1.store run (.begun (c.start now run event).2.isNone)) := by
  have open_ (result : RunResult) (report : Report) : b.stage run ≠ .finished true result report := by
    rw [new]
    exact Stage.noConfusion
  unfold Connection.start
  rcases c.ask_cases (·.start now run event) with ⟨s, put, asked⟩ | ⟨past, r, sub, asked, -⟩
  · rw [asked]
    exact h.turn open_ (h.now.start new (h.store ▸ put)) (List.Subset.refl _)
  · rw [asked]
    refine h.turn open_ ?_ sub
    exact h.store ▸ h.now.restage (by rw [new]; rfl) (by rw [new]; rfl)
      (fun r told => by rw [new] at told; exact told) trivial

/-- What is raised when the end of a run is recorded: something of the connection's own, or the
refusal of a row or of the report. -/
def Refuses (ends : String → RunResult → Report → Prop) (raises : Nat → Option Raised) (run : String)
    (e : Bool) (result : RunResult) (report : Report) (r : Raised) : Prop :=
  (∃ n, raises n = some r) ∨
    (∃ (b : Book) (now : String) (i : Item) (done rest : List Item), b.Consistent ends ∧
      b.stage run = .adding e result report done (i :: rest) ∧
      b.store.insertValues (i.row run).1 now (i.row run).2 = .error r.fault) ∨
    ∃ (b : Book) (now : String), b.Consistent ends ∧ b.store.close now run report = .error r.fault

/-- What comes of recording the end of a run: it is recorded in full, or something is raised and its
entry is not closed. -/
def Settles (ends : String → RunResult → Report → Prop) (raises : Nat → Option Raised) (b : Book)
    (run : String) (e : Bool) (result : RunResult) (report : Report) (whole : Stage)
    (x : Connection × Option Raised) : Prop :=
  ∃ g, Follows ends x.1 (b.turn x.1.store run g) ∧
    match x.2 with
    | none => g = whole
    | some r => (∃ done, g = .failed e done) ∧ Refuses ends raises run e result report r

/-- Rows are added up to the first request that raises something. -/
theorem Follows.addRows (h : Follows ends c b) (now : String)
    (distinct : (result.jobs.map fun j => j.subject.index).Nodup)
    (adding : b.stage run = .adding e result report done rest) :
    Settles ends c.raises b run e result report (.adding e result report (done ++ rest) [])
      (c.addRows now (rest.map (Item.row run))) := by
  induction rest generalizing c b done with
  | nil =>
    refine ⟨_, ?_, rfl⟩
    have same : b.turn c.store run (.adding e result report (done ++ []) []) = b := by
      rw [List.append_nil, ← adding, ← h.store]
      simp [Book.turn]
    exact same.symm ▸ h
  | cons i rest ih =>
    have open_ (result' : RunResult) (report' : Report) :
        b.stage run ≠ .finished true result' report' := by
      rw [adding]
      exact Stage.noConfusion
    rw [List.map_cons, Connection.addRows]
    rcases c.ask_cases (·.insertValues (i.row run).1 now (i.row run).2) with
      ⟨s, put, asked⟩ | ⟨past, r, sub, asked, why⟩
    · rw [asked]
      have first := h.turn (d := { c with store := s, past := c.states }) open_
        (h.now.add distinct adding (h.store ▸ put)) (List.Subset.refl _)
      obtain ⟨g, more, what⟩ := ih first Book.stage_turn
      rw [Book.turn_turn] at more
      rw [List.append_assoc, List.singleton_append] at what
      exact ⟨g, more, what⟩
    · rw [asked]
      refine ⟨_, h.turn open_ (h.store ▸ h.now.fail adding) sub, ⟨done, rfl⟩, ?_⟩
      rcases why with refused | own
      · exact .inr (.inl ⟨b, now, i, done, rest, h.now, adding, h.store ▸ refused⟩)
      · exact .inl ⟨_, own⟩

theorem Follows.close (h : Follows ends c b) (now : String)
    (adding : b.stage run = .adding e result report done []) :
    Settles ends c.raises b run e result report (.finished e result report) (c.close now run report) := by
  have open_ (result' : RunResult) (report' : Report) :
      b.stage run ≠ .finished true result' report' := by
    rw [adding]
    exact Stage.noConfusion
  unfold Connection.close
  rcases c.ask_cases .ok with ⟨s, same, looked⟩ | ⟨past, r, sub, looked, why⟩
  · cases same
    rw [looked]
    have still := h.idle (d := { c with past := c.states }) rfl (List.Subset.refl _)
    change Settles _ _ _ _ _ _ _ _ (Connection.ask { c with past := c.states } _)
    rcases Connection.ask_cases { c with past := c.states } (·.close now run report) with
      ⟨s, put, closed⟩ | ⟨past, r, sub, closed, why⟩
    · rw [closed]
      exact ⟨_, still.turn open_ (h.now.close adding (h.store ▸ put)) (List.Subset.refl _), rfl⟩
    · rw [closed]
      refine ⟨_, still.turn open_ (h.store ▸ h.now.fail adding) sub, ⟨_, rfl⟩, ?_⟩
      rcases why with refused | own
      · exact .inr (.inr ⟨b, now, h.now, h.store ▸ refused⟩)
      · exact .inl ⟨_, own⟩
  · rw [looked]
    refine ⟨_, h.turn open_ (h.store ▸ h.now.fail adding) sub, ⟨_, rfl⟩, ?_⟩
    rcases why with refused | own
    · cases refused
    · exact .inl ⟨_, own⟩

/-- The end of a run is recorded in full, or something is raised and its entry is not closed. -/
theorem Follows.finish (h : Follows ends c b) (now : String)
    (distinct : (result.jobs.map fun j => j.subject.index).Nodup)
    (begun : b.stage run = .begun e) (ended : ends run result report) :
    Settles ends c.raises b run e result report (.finished e result report)
      (c.finish now run result report) := by
  have first : Follows ends c (b.turn c.store run _) := h.turn
    (fun _ _ => by rw [begun]; exact Stage.noConfusion) (h.store ▸ h.now.end_ begun ended)
    (List.subset_cons_self _ _)
  have raises := (c.addRows_yields now ((Item.ofResult result).map (Item.row run))).raises
  obtain ⟨g, added, what⟩ := first.addRows now distinct Book.stage_turn
  rw [Book.turn_turn] at added
  unfold Connection.finish
  rw [Item.rows_ofResult]
  generalize c.addRows now ((Item.ofResult result).map (Item.row run)) = x at raises added what ⊢
  obtain ⟨c₁, _ | r⟩ := x
  · subst what
    obtain ⟨g, closed, what⟩ := added.close now Book.stage_turn
    rw [Book.turn_turn] at closed
    rw [raises] at what
    exact ⟨g, closed, what⟩
  · exact ⟨g, added, what⟩

end Connection

end JobMatrix.History
