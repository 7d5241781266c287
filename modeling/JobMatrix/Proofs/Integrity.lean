import JobMatrix.Proofs.Store

/-! The integrity of the history. Every row has the form of its table, so that its keys compare as
what they are, and every write is checked as a whole. Main statement: whatever is written in
whichever order, by calls that go through or fail, keys stay apart and every reference has a row. -/

namespace JobMatrix.History

namespace Cell

def isNumber : Cell → Bool
  | int _ => true
  | real _ => true
  | _ => false

theorem equal_iff {a b : Cell} (plain : a.isNumber = false) :
    a.equal b = true ↔ a ≠ .null ∧ a = b := by
  cases a with
  | null => simp [equal]
  | int | real => cases plain
  | text s =>
    rw [equal_comm, equal_text_iff]
    simp [eq_comm]
  | bytes data =>
    cases b with
    | bytes other =>
      simp only [equal, less, Bool.and_eq_true, Bool.not_eq_true', decide_eq_false_iff_not, ne_eq,
        reduceCtorEq, not_false_eq_true, true_and, bytes.injEq]
      constructor
      · rintro ⟨above, below⟩
        exact List.le_antisymm below above
      · rintro rfl
        exact ⟨List.lt_irrefl _, List.lt_irrefl _⟩
    | null | int | real | text => simp [equal, less, rank]

theorem isNumber_text (c : Cell) : (Affinity.text.apply c).isNumber = false := by
  cases c <;> rfl

end Cell

/-- The columns for texts hold no numbers. -/
def Row.Formed (t : Table) (r : Row) : Prop :=
  ∀ c ∈ t.columns, c.affinity = .text → (r.get c.name).isNumber = false

namespace Store

variable {t : Table} {r : Row} {s s' : Store}

theorem rowName_ne {c : Column} (mem : c ∈ t.columns) (text : c.affinity = .text) :
    c.name ≠ t.rowName := by
  have each : ∀ c ∈ t.columns, c.affinity = .text → c.name ≠ t.rowName := by
    cases t <;> decide +kernel
  exact each c mem text

theorem formed_newRow (t : Table) (number : Int) (now : String) (given : Dict String Cell) :
    (newRow t number now given).Formed t := by
  intro c mem text
  rw [get_newRow number now given mem, if_neg (by simpa using rowName_ne mem text), text]
  split
  · exact Cell.isNumber_text _
  · split <;> rfl

theorem column?_text {n : String} {c c' : Column} (found : column? t n = some c)
    (mem : c' ∈ t.columns) (text : c'.affinity = .text) (same : c.name = c'.name) :
    c.affinity = .text := by
  unfold column? at found
  split at found
  · next d there =>
    cases found
    have own := Table.affinity_name (List.mem_of_find?_eq_some there)
    rw [← own, same, Table.affinity_name mem, text]
  · split at found
    · cases found
      exact absurd same.symm (rowName_ne mem text)
    · cases found

theorem changeCell_cells {r' : Row} {u : Column × Cell} (h : changeCell t r u = .ok r') :
    r'.cells = if Dict.contains r.cells u.1.name then
      Dict.put r.cells u.1.name (u.1.affinity.apply u.2) else r.cells := by
  unfold changeCell at h
  dsimp only at h
  generalize (if Dict.contains r.cells u.1.name then _ else _ : Dict String Cell) = cells at h ⊢
  split at h
  · split at h
    · cases h
      rfl
    · cases h
  · cases h
    rfl

theorem formed_change {updates : List (Column × Cell)} {r' : Row}
    (h : change t updates r = .ok r') (named : ∀ u ∈ updates, ∃ n, column? t n = some u.1)
    (formed : r.Formed t) : r'.Formed t := by
  induction updates generalizing r with
  | nil =>
    cases h
    exact formed
  | cons u rest ih =>
    obtain ⟨⟨n, found⟩, later⟩ := List.forall_mem_cons.mp named
    rw [change, List.foldlM_cons] at h
    obtain ⟨r₁, first, h⟩ := bind_eq_ok_iff.mp h
    refine ih h later fun c mem text => ?_
    have old := formed c mem text
    unfold Row.get at old ⊢
    rw [changeCell_cells first]
    split
    · rw [Dict.get?_put]
      split
      · next same =>
        rw [column?_text found mem text (beq_iff_eq.mp same)]
        exact Cell.isNumber_text _
      · exact old
    · exact old

theorem columnsOf_ok {refuse : String → Refusal} {names : List String} {cs : List Column}
    (h : columnsOf t refuse names = .ok cs) : ∀ c ∈ cs, ∃ n, column? t n = some c := by
  induction names generalizing cs with
  | nil =>
    cases h
    simp
  | cons n rest ih =>
    unfold columnsOf at h
    split at h
    · cases h
    · next c found =>
      cases others : columnsOf t refuse rest with
      | error e =>
        rw [others] at h
        cases h
      | ok cs' =>
        rw [others] at h
        cases h
        exact List.forall_mem_cons.mpr ⟨⟨n, found⟩, ih others⟩

theorem formed_changeWhere {updates : List (Column × Cell)} {test : Row → Except Refusal Bool}
    {rows rows' : List Row} (h : changeWhere t updates test rows = .ok rows')
    (named : ∀ u ∈ updates, ∃ n, column? t n = some u.1) (formed : ∀ r ∈ rows, r.Formed t) :
    ∀ r ∈ rows', r.Formed t := by
  intro r' mem
  have mem' : (.ok r' : Except Refusal Row) ∈ rows'.map .ok := List.mem_map_of_mem mem
  rw [← mapM_eq_ok_iff.mp h] at mem'
  obtain ⟨r, there, changed⟩ := List.mem_map.mp mem'
  obtain ⟨meets, -, changed⟩ := bind_eq_ok_iff.mp changed
  split at changed
  · exact formed_change changed named (formed r there)
  · cases changed
    exact formed _ there

theorem insert_ok {table now : String} {row : List (String × Except Refusal Cell)}
    (h : s.insert table now row = .ok s') : ∃ t r, s' = s.grown t r ∧ s'.Sound t ∧ r.Formed t := by
  unfold insert at h
  dsimp only at h
  by_cases unnamed : table.isEmpty = true
  · rw [if_pos unnamed] at h
    cases h
  by_cases bare : row.isEmpty = true
  · rw [if_neg unnamed, if_pos bare] at h
    cases h
  rw [if_neg unnamed, if_neg bare] at h
  obtain ⟨t, -, h⟩ := bind_eq_ok_iff.mp h
  obtain ⟨columns, -, h⟩ := bind_eq_ok_iff.mp h
  obtain ⟨cells, -, h⟩ := bind_eq_ok_iff.mp h
  obtain ⟨number, -, h⟩ := bind_eq_ok_iff.mp h
  obtain ⟨rfl, sound⟩ := checked_sound h
  exact ⟨t, _, rfl, sound, formed_newRow t number now _⟩

theorem updateWhere_ok {table : String} {changes : List (String × Except Refusal Cell)}
    {c : Condition} (h : s.updateWhere table changes c = .ok s')
    (formed : ∀ t, ∀ r ∈ s.rows t, r.Formed t) :
    ∃ t rows, s' = s.withRows t rows ∧ s'.Sound t ∧ ∀ r ∈ rows, r.Formed t := by
  unfold updateWhere at h
  dsimp only at h
  by_cases bare : changes.isEmpty = true
  · rw [if_pos bare] at h
    cases h
  rw [if_neg bare] at h
  obtain ⟨t, -, h⟩ := bind_eq_ok_iff.mp h
  obtain ⟨columns, named, h⟩ := bind_eq_ok_iff.mp h
  obtain ⟨cells, -, h⟩ := bind_eq_ok_iff.mp h
  obtain ⟨rows, changed, h⟩ := bind_eq_ok_iff.mp h
  split at h
  · cases h
  obtain ⟨rfl, sound⟩ := checked_sound h
  refine ⟨t, _, rfl, sound, fun r mem => ?_⟩
  have mem' := (foldl_place_perm rows []).mem_iff.mp mem
  refine formed_changeWhere changed (fun u given => ?_) (formed t) r (by simpa using mem')
  obtain ⟨there, -⟩ := List.of_mem_zip (List.mem_of_mem_take given)
  exact columnsOf_ok named u.1 there

theorem rows_withRows (s : Store) (t : Table) (rows : List Row) :
    (s.withRows t rows).rows t = rows := by
  cases t <;> rfl

theorem rows_withRows_of_ne (s : Store) {t' : Table} (rows : List Row) (other : t' ≠ t) :
    (s.withRows t rows).rows t' = s.rows t' := by
  cases t <;> cases t' <;> first | rfl | exact absurd rfl other

/-- Keys and references hold in all tables, and all rows have the form of theirs. -/
structure Whole (s : Store) : Prop where
  sound : ∀ t, s.Sound t
  formed : ∀ t, ∀ r ∈ s.rows t, r.Formed t

theorem whole_fresh : Whole {} := by
  refine ⟨fun t => ?_, fun t => ?_⟩
  · cases t <;> exact ⟨rfl, rfl, rfl⟩
  · cases t <;> exact fun _ mem => nomatch mem

/-- One table is changed and checked, and the others stay as they are. -/
theorem Whole.of_table (whole : s.Whole) (sound : s'.Sound t)
    (others : ∀ t', t' ≠ t → s'.rows t' = s.rows t') (formed : ∀ r ∈ s'.rows t, r.Formed t) :
    s'.Whole := by
  refine ⟨fun t' => ⟨?_, sound.jobs, sound.steps⟩, fun t' => ?_⟩
  · by_cases same : t' = t
    · exact same ▸ sound.keys
    · exact others t' same ▸ (whole.sound t').keys
  · by_cases same : t' = t
    · exact same ▸ formed
    · exact others t' same ▸ whole.formed t'

theorem Whole.insertInto {table now : String} {row : List (String × Value)} (whole : s.Whole)
    (h : s.insertInto table now row = .ok s') : s'.Whole := by
  unfold Store.insertInto at h
  split at h
  · cases h
  · obtain ⟨t, r, rfl, sound, formed⟩ := insert_ok (mapError_eq_ok_iff.mp h)
    refine whole.of_table sound (fun t' other => rows_grown_of_ne s r other) fun q mem => ?_
    rcases mem_rows_grown.mp mem with ⟨-, rfl⟩ | old
    · exact formed
    · exact whole.formed t q old

theorem Whole.updateValues {table : String} {changes : List (String × Value)} {c : Condition}
    (whole : s.Whole) (h : s.updateValues table changes c = .ok s') : s'.Whole := by
  unfold Store.updateValues at h
  split at h
  · cases h
  · obtain ⟨t, rows, rfl, sound, formed⟩ := updateWhere_ok (mapError_eq_ok_iff.mp h) whole.formed
    refine whole.of_table sound (fun t' other => rows_withRows_of_ne s rows other) ?_
    rwa [rows_withRows]

theorem Whole.ask {c : Connection} {change : Store → Except Fault Store} (whole : c.store.Whole)
    (each : ∀ s', change c.store = .ok s' → s'.Whole) : (c.ask change).1.store.Whole := by
  rcases c.ask_cases change with ⟨s', put, asked⟩ | ⟨past, r, -, asked, -⟩
  · rw [asked]
    exact each s' put
  · rw [asked]
    exact whole

theorem Whole.addRows {c : Connection} (whole : c.store.Whole) (now : String)
    (rows : List (Table × List (String × Value))) : (c.addRows now rows).1.store.Whole := by
  induction rows generalizing c with
  | nil => exact whole
  | cons e rest ih =>
    have first : (c.ask (·.insertValues e.1 now e.2)).1.store.Whole :=
      whole.ask fun s' put => whole.insertInto put
    unfold Connection.addRows
    split
    · next c' given =>
      rw [given] at first
      exact ih first
    · exact first

theorem Whole.close {c : Connection} (whole : c.store.Whole) (now run : String) (report : Report) :
    (c.close now run report).1.store.Whole := by
  have looked : (c.ask .ok).1.store.Whole := whole.ask fun s' same => by
    cases same
    exact whole
  unfold Connection.close
  split
  · next c' given =>
    rw [given] at looked
    exact looked.ask fun s' closed => looked.updateValues closed
  · exact looked

theorem Whole.finish (whole : s.Whole) (now run : String) (result : RunResult) (report : Report) :
    (s.finish now run result report).1.Whole := by
  have added := Whole.addRows (c := { store := s }) whole now (result.jobs.flatMap (rowsOf run))
  simp only [Store.finish]
  unfold Connection.finish
  split
  · next c given =>
    rw [given] at added
    exact added.close now run report
  · exact added

/-- A call on the store. -/
inductive Call where
  | insert (table now : String) (row : List (String × Value))
  | update (table : String) (changes : List (String × Value)) (c : Condition)
  | start (now run : String) (event : Event)
  | finish (now run : String) (result : RunResult) (report : Report)

/-- What comes of one statement: the store stays as it is where the statement fails. -/
def settle (s : Store) : Except Fault Store → Store × Option Fault
  | .ok s' => (s', none)
  | .error f => (s, some f)

/-- The store after a call, and the fault if the call fails. -/
def call (s : Store) : Call → Store × Option Fault
  | .insert table now row => s.settle (s.insertInto table now row)
  | .update table changes c => s.settle (s.updateValues table changes c)
  | .start now run event => s.settle (s.start now run event)
  | .finish now run result report => s.finish now run result report

/-- A fresh store after calls, those that fail among them. -/
def after (calls : List Call) : Store := calls.foldl (fun s c => (s.call c).1) {}

theorem Whole.settle {e : Except Fault Store} (whole : s.Whole)
    (each : ∀ s', e = .ok s' → s'.Whole) : (s.settle e).1.Whole := by
  cases e with
  | ok s' => exact each s' rfl
  | error f => exact whole

theorem Whole.call (whole : s.Whole) (c : Call) : (s.call c).1.Whole := by
  cases c with
  | insert table now row => exact whole.settle fun s' put => whole.insertInto put
  | update table changes c => exact whole.settle fun s' put => whole.updateValues put
  | start now run event => exact whole.settle fun s' put => whole.insertInto put
  | finish now run result report => exact whole.finish now run result report

theorem whole_after (calls : List Call) : (after calls).Whole := by
  unfold after
  suffices each : ∀ s : Store, s.Whole → (calls.foldl (fun s c => (s.call c).1) s).Whole from
    each {} whole_fresh
  induction calls with
  | nil => exact fun s whole => whole
  | cons c rest ih => exact fun s whole => ih (s.call c).1 (whole.call c)

theorem Whole.key_plain (whole : s.Whole) (other : t ≠ .steps) (mem : r ∈ s.rows t) :
    (r.get t.key).isNumber = false := by
  cases t with
  | runs => exact whole.formed .runs r mem ⟨"run_id", .text, false⟩ (by decide) rfl
  | jobs => exact whole.formed .jobs r mem ⟨"job_id", .text, false⟩ (by decide) rfl
  | steps => exact absurd rfl other

theorem Whole.keys_apart (whole : s.Whole) (other : t ≠ .steps) :
    (s.rows t).Pairwise fun r q => r.get t.key ≠ .null → r.get t.key ≠ q.get t.key := by
  refine (keysClash_eq_false_iff.mp (whole.sound t).keys).imp_of_mem ?_
  intro r q _ mem unequal there same
  have equal := (Cell.equal_iff (whole.key_plain other mem)).mpr ⟨same ▸ there, same.symm⟩
  rw [equal] at unequal
  cases unequal

theorem Whole.parent_there (whole : s.Whole) {parent : Table} {column : String}
    (named : t.parent? = some (column, parent)) (mem : r ∈ s.rows t)
    (there : r.get column ≠ .null) : ∃ p ∈ s.rows parent, p.get parent.key = r.get column := by
  have met : s.referencesMet t = true := by
    cases t with
    | runs => cases named
    | jobs => exact (whole.sound .jobs).jobs
    | steps => exact (whole.sound .steps).steps
  have other : parent ≠ .steps := by
    cases t <;> cases named <;> decide
  obtain ⟨p, mem', equal⟩ :=
    (referencesMet_iff.mp met column parent named r mem).resolve_left there
  exact ⟨p, mem', ((Cell.equal_iff (whole.key_plain other mem')).mp equal).2⟩

/-- No two runs have one name and no two jobs have one, and whatever a job or a step result names is
there; an entry that is left empty does not count. -/
structure Intact (s : Store) : Prop where
  runs : s.runs.Pairwise fun r q => r.get "run_id" ≠ .null → r.get "run_id" ≠ q.get "run_id"
  jobs : s.jobs.Pairwise fun r q => r.get "job_id" ≠ .null → r.get "job_id" ≠ q.get "job_id"
  jobRuns : ∀ r ∈ s.jobs, r.get "run_id" ≠ .null →
    ∃ p ∈ s.runs, p.get "run_id" = r.get "run_id"
  stepJobs : ∀ r ∈ s.steps, r.get "job_id" ≠ .null →
    ∃ p ∈ s.jobs, p.get "job_id" = r.get "job_id"

theorem Whole.intact (whole : s.Whole) : s.Intact where
  runs := whole.keys_apart (t := .runs) (by decide)
  jobs := whole.keys_apart (t := .jobs) (by decide)
  jobRuns _ mem := whole.parent_there (t := .jobs) rfl mem
  stepJobs _ mem := whole.parent_there (t := .steps) rfl mem

/-- Whether a call is one statement. -/
def Call.isStatement : Call → Bool
  | finish .. => false
  | _ => true

theorem settle_failed {e : Except Fault Store} (failed : (s.settle e).2.isSome = true) :
    (s.settle e).1 = s := by
  cases e with
  | ok s' => cases failed
  | error f => rfl

/-- The integrity of the history. After any calls on a fresh store, with any rows and conditions,
whether they go through or fail, keys are apart and references are met; and a further insertion or
update that fails leaves the store as it is. -/
theorem store_stays_intact (calls : List Call) :
    (after calls).Intact ∧ ∀ c : Call, c.isStatement = true →
      ((after calls).call c).2.isSome = true → ((after calls).call c).1 = after calls := by
  refine ⟨(whole_after calls).intact, fun c statement failed => ?_⟩
  cases c with
  | insert | update | start => exact settle_failed failed
  | finish => cases statement

/-- A run whose name is given as a number and kept as a text, and a job that names it. While the job
does so, the run can be given neither another name nor none, and no second run can take its name. -/
theorem store_intact_after_failed_updates :
    let run : Call := .insert "runs" "now" [("run_id", .int 7)]
    let job : Call := .insert "Jobs" "now" [("job_id", .text "j"), ("run_id", .text "7")]
    let orphan : Call := .insert "jobs" "now" [("job_id", .text "k"), ("run_id", .text "8")]
    let rename : Call := .update "runs" [("RUN_ID", .text "8")] (.equals "rowid" (.ok (.int 1)))
    let erase : Call := .update "runs" [("run_id", .null)] ⟨[], fun _ _ _ => .ok true⟩
    let s := after [run, job, orphan, rename, erase]
    s.runs.map (·.get "run_id") = [.text "7"] ∧ s.jobs.map (·.get "run_id") = [.text "7"] ∧
      s.Intact ∧ (s.call run).2.isSome = true ∧ (s.call run).1 = s := by
  intro run job orphan rename erase s
  obtain ⟨intact, unchanged⟩ := store_stays_intact [run, job, orphan, rename, erase]
  have failed : (s.call run).2.isSome = true := by decide +kernel
  exact ⟨by decide +kernel, by decide +kernel, intact, failed, unchanged run rfl failed⟩

end Store

end JobMatrix.History
