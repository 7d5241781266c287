import JobMatrix.Proofs.Decimal
import JobMatrix.Proofs.Store

/-! The rows that a run has in the history. They are added one at a time, each job before its steps;
the keys of jobs tell the runs apart, so that the rows of one run are not touched by another. -/

namespace JobMatrix.History

theorem append_cons_inj {α : Type} {a : α} {l l' r r' : List α} (h : a ∉ l) (h' : a ∉ l')
    (same : l ++ a :: r = l' ++ a :: r') : l = l' ∧ r = r' := by
  rcases List.append_eq_append_iff.mp same with ⟨as, _, _⟩ | ⟨as, _, _⟩ <;> cases as <;> simp_all

/-- The number of a job in the history, from its run and its index. -/
def keyOf (run : String) (index : Int) : String := run ++ ":" ++ toString index

theorem keyOf_inj {run run' : String} {i i' : Int} (h : keyOf run i = keyOf run' i') :
    run = run' ∧ i = i' := by
  have chars := congrArg (fun s : String => s.toList.reverse) h
  have colon (n : Int) : ':' ∉ (toString n).toList.reverse := by
    rw [List.mem_reverse]
    exact not_mem_toString n rfl (by decide)
  have split_ : (toString i).toList.reverse ++ ':' :: run.toList.reverse =
      (toString i').toList.reverse ++ ':' :: run'.toList.reverse := by
    simpa [keyOf] using chars
  obtain ⟨digits, name⟩ := append_cons_inj (colon i) (colon i') split_
  exact ⟨String.toList_inj.mp (List.reverse_injective name),
    toString_inj (String.toList_inj.mp (List.reverse_injective digits))⟩

/-- What is recorded of a run that has ended, one row at a time: a job, or a step of a job. -/
inductive Item where
  | job (j : JobResult)
  | step (j : JobResult) (r : StepResult)

namespace Item

def index : Item → Int
  | job j => j.subject.index
  | step j _ => j.subject.index

/-- The row of an item and its table. -/
def row (run : String) : Item → Table × List (String × Value)
  | job j => (.jobs, Store.jobRow run j)
  | step j r => (.steps, Store.stepRow (keyOf run j.subject.index) r)

def ofJob (j : JobResult) : List Item := job j :: j.steps.map (step j)

/-- The items of a run in the order in which they are recorded. -/
def ofResult (result : RunResult) : List Item := result.jobs.flatMap ofJob

theorem rows_ofResult (run : String) (result : RunResult) :
    result.jobs.flatMap (Store.rowsOf run) = (ofResult result).map (row run) := by
  rw [ofResult, List.map_flatMap]
  refine List.flatMap_congr fun j _ => ?_
  simp [ofJob, Store.rowsOf, row, Store.jobKey, keyOf, Function.comp_def]

theorem runs_ne (run : String) (i : Item) : Table.runs ≠ (i.row run).1 := by
  cases i <;> simp [row]

/-- The columns that are given for a job. -/
def jobNames : List String :=
  ["job_id", "run_id", "instance_id", "execution_order", "bindings_json", "status", "failed_at"]

/-- The columns that are given for a step. -/
def stepNames : List String :=
  ["job_id", "step_index", "name", "command", "status", "returncode", "error", "stdout", "stderr",
    "duration"]

theorem jobNames_names : Table.jobs.Names jobNames :=
  ⟨by decide, by decide, by decide, by decide⟩

theorem stepNames_names : Table.steps.Names stepNames :=
  ⟨by decide, by decide, by decide, by decide⟩

theorem names (run : String) (i : Item) : (i.row run).1.Names ((i.row run).2.map (·.1)) := by
  cases i with
  | job j => exact jobNames_names
  | step j r => exact stepNames_names

/-- The jobs among items. -/
def jobs (items : List Item) : List JobResult :=
  items.filterMap fun i => match i with
    | job j => some j
    | step _ _ => none

/-- The steps among items that belong to the job with an index. -/
def steps (index : Int) (items : List Item) : List StepResult :=
  items.filterMap fun i => match i with
    | job _ => none
    | step j r => if j.subject.index = index then some r else none

theorem jobs_append (items more : List Item) : jobs (items ++ more) = jobs items ++ jobs more :=
  List.filterMap_append

theorem steps_append (index : Int) (items more : List Item) :
    steps index (items ++ more) = steps index items ++ steps index more :=
  List.filterMap_append

theorem mem_jobs {items : List Item} {j : JobResult} : j ∈ jobs items ↔ job j ∈ items := by
  simp only [jobs, List.mem_filterMap]
  constructor
  · rintro ⟨i, mem, same⟩
    cases i with
    | job j' => exact Option.some.inj same ▸ mem
    | step => cases same
  · exact fun mem => ⟨_, mem, rfl⟩

theorem steps_eq_nil {index : Int} {items : List Item} (none_ : ∀ i ∈ items, i.index ≠ index) :
    steps index items = [] := by
  refine List.filterMap_eq_nil_iff.mpr fun i mem => ?_
  cases i with
  | job j => rfl
  | step j r => exact if_neg (none_ _ mem)

theorem jobs_ofJob (j : JobResult) : jobs (ofJob j) = [j] := by
  simp [jobs, ofJob, List.filterMap_map]

theorem steps_ofJob (j : JobResult) : steps j.subject.index (ofJob j) = j.steps := by
  simp [steps, ofJob, List.filterMap_map]

theorem index_ofJob {j : JobResult} {i : Item} (mem : i ∈ ofJob j) : i.index = j.subject.index := by
  rcases List.mem_cons.mp mem with rfl | mem
  · rfl
  · obtain ⟨r, -, rfl⟩ := List.mem_map.mp mem
    rfl

theorem jobs_ofResult (result : RunResult) : jobs (ofResult result) = result.jobs := by
  unfold ofResult
  induction result.jobs with
  | nil => rfl
  | cons j rest ih => rw [List.flatMap_cons, jobs_append, jobs_ofJob, ih, List.singleton_append]

theorem flatMap_eq_append {js : List JobResult} {before after : List Item} {i : Item}
    (h : js.flatMap ofJob = before ++ i :: after) :
    ∃ earlier j later own more, js = earlier ++ j :: later ∧
      before = earlier.flatMap ofJob ++ own ∧ ofJob j = own ++ i :: more := by
  induction js generalizing before with
  | nil => simp at h
  | cons j rest ih =>
    have further (as : List Item) (h : rest.flatMap ofJob = as ++ i :: after)
        (here : before = ofJob j ++ as) : ∃ earlier j' later own more,
        j :: rest = earlier ++ j' :: later ∧ before = earlier.flatMap ofJob ++ own ∧
          ofJob j' = own ++ i :: more := by
      obtain ⟨earlier, j', later, own, more, rfl, rfl, items⟩ := ih h
      exact ⟨j :: earlier, j', later, own, more, rfl, by simp [here], items⟩
    rw [List.flatMap_cons] at h
    rcases List.append_eq_append_iff.mp h with ⟨as, here, h⟩ | ⟨as, here, h⟩
    · exact further as h here
    · cases as with
      | nil => exact further [] (by simpa using h.symm) (by simpa using here.symm)
      | cons i' more =>
        cases (List.cons.inj h).1
        exact ⟨[], j, rest, before, more, rfl, by simp, here⟩

theorem index_ne_of_nodup {earlier later : List JobResult} {j : JobResult}
    (distinct : ((earlier ++ j :: later).map fun j => j.subject.index).Nodup) {i : Item}
    (mem : i ∈ (earlier ++ later).flatMap ofJob) : i.index ≠ j.subject.index := by
  obtain ⟨j', mem', own⟩ := List.mem_flatMap.mp mem
  rw [index_ofJob own]
  have perm : (earlier ++ j :: later).Perm (j :: (earlier ++ later)) := List.perm_middle
  intro same
  refine (List.nodup_cons.mp ((perm.map _).nodup_iff.mp distinct)).1 ?_
  exact List.mem_map.mpr ⟨j', mem', same⟩

theorem steps_ofResult {result : RunResult}
    (distinct : (result.jobs.map fun j => j.subject.index).Nodup) {j : JobResult}
    (mem : j ∈ result.jobs) : steps j.subject.index (ofResult result) = j.steps := by
  obtain ⟨earlier, later, split_⟩ := List.append_of_mem mem
  rw [split_] at distinct
  have others {items : List Item} (sub : items ⊆ (earlier ++ later).flatMap ofJob) :
      steps j.subject.index items = [] :=
    steps_eq_nil fun i mem => index_ne_of_nodup distinct (sub mem)
  rw [ofResult, split_, List.flatMap_append, List.flatMap_cons, steps_append, steps_append,
    steps_ofJob, others (by simp), others (by simp), List.nil_append, List.append_nil]

/-- What may come after others: a job with an index of its own, or a step of a job that is there. -/
def Follows (before : List Item) : Item → Prop
  | job j => ∀ i ∈ before, i.index ≠ j.subject.index
  | step j _ => job j ∈ before

theorem follows_of_ofResult {result : RunResult}
    (distinct : (result.jobs.map fun j => j.subject.index).Nodup) {before after : List Item}
    {i : Item} (h : ofResult result = before ++ i :: after) : i.Follows before := by
  obtain ⟨earlier, j, later, own, more, split_, rfl, items⟩ := flatMap_eq_append h
  rw [split_] at distinct
  cases own with
  | nil =>
    obtain ⟨rfl, -⟩ := List.cons.inj items
    refine fun i' mem => index_ne_of_nodup distinct ?_
    rw [List.append_nil] at mem
    rw [List.flatMap_append]
    exact List.mem_append_left _ mem
  | cons first own =>
    obtain ⟨rfl, steps⟩ := List.cons.inj items
    have mem : i ∈ j.steps.map (step j) := steps ▸ by simp
    obtain ⟨r, -, rfl⟩ := List.mem_map.mp mem
    simp [Follows]

end Item

/-- The history holds, of a run, the rows of these items and no others. -/
structure Holds (s : Store) (run : String) (done : List Item) : Prop where
  whole : ∀ i ∈ done, ∀ e ∈ (i.row run).2, Cell.ofValue e.2 = .ok (.ok (.of e.2))
  jobs : ((s.listed .jobs "run_id" run).map Row.cells).Perm
    ((Item.jobs done).map fun j => Table.jobs.kept (Store.jobRow run j))
  steps : ∀ j ∈ Item.jobs done,
    (s.listed .steps "job_id" (keyOf run j.subject.index)).map (·.view Item.stepNames) =
      (Item.steps j.subject.index done).map fun r =>
        Table.steps.kept (Store.stepRow (keyOf run j.subject.index) r)

namespace Holds

variable {s s' : Store} {run run' now : String} {done : List Item}

theorem congr (h : Holds s run done) (jobs : s'.jobs = s.jobs) (steps : s'.steps = s.steps) :
    Holds s' run done := by
  have listed (t : Table) (other : t ≠ .runs) (column text : String) :
      s'.listed t column text = s.listed t column text := by
    cases t with
    | runs => exact absurd rfl other
    | jobs => simp only [Store.listed, Store.rows, jobs]
    | steps => simp only [Store.listed, Store.rows, steps]
  refine ⟨h.whole, ?_, fun j mem => ?_⟩
  · rw [listed .jobs (by decide)]
    exact h.jobs
  · rw [listed .steps (by decide)]
    exact h.steps j mem

theorem get_run {j : JobResult} {r : Row} (kept : Store.Kept .jobs now (Store.jobRow run j) r) :
    r.get "run_id" = .text run :=
  kept.get (v := .text run) (.tail _ (.head _))

theorem get_job {j : JobResult} {r : Row} (kept : Store.Kept .jobs now (Store.jobRow run j) r) :
    r.get "job_id" = .text (keyOf run j.subject.index) :=
  kept.get (v := .text (keyOf run j.subject.index)) (.head _)

theorem get_parent {key : String} {result : StepResult} {r : Row}
    (kept : Store.Kept .steps now (Store.stepRow key result) r) : r.get "job_id" = .text key :=
  kept.get (v := .text key) (.head _)

theorem add_other (h : Holds s run done) (other : run' ≠ run) {i : Item}
    (put : s.insertValues (i.row run').1 now (i.row run').2 = .ok s') : Holds s' run done := by
  obtain ⟨r, kept, -, rfl, -⟩ := Store.insertValues_ok (i.names run') put
  cases i with
  | job j =>
    dsimp only [Item.row]
    refine ⟨h.whole, ?_, fun j' mem => ?_⟩
    · have elsewhere : r.get "run_id" ≠ .text run := by
        rw [get_run kept]
        simpa using other
      rw [Store.listed_grown_other elsewhere]
      exact h.jobs
    · rw [Store.listed_grown_of_ne (by decide)]
      exact h.steps j' mem
  | step j result =>
    dsimp only [Item.row]
    refine ⟨h.whole, ?_, fun j' mem => ?_⟩
    · rw [Store.listed_grown_of_ne (by decide)]
      exact h.jobs
    · have elsewhere : r.get "job_id" ≠ .text (keyOf run j'.subject.index) := by
        rw [get_parent kept]
        exact fun same => other (keyOf_inj (Cell.text.inj same)).1
      rw [Store.listed_grown_other elsewhere]
      exact h.steps j' mem

theorem listed_steps_new {key : String} {r : Row} (linked : s.referencesMet .steps = true)
    (named : r.get "job_id" = .text key) (sound : (s.grown .jobs r).Sound .jobs) :
    s.listed .steps "job_id" key = [] := by
  refine List.eq_nil_iff_forall_not_mem.mpr fun q mem => ?_
  obtain ⟨mem, own⟩ := Store.mem_listed.mp mem
  rcases Store.referencesMet_iff.mp linked "job_id" .jobs rfl q mem with null | ⟨p, there, same⟩
  · simp [own] at null
  · have keys := sound.keys
    rw [Store.rows_grown, Store.keysClash_place] at keys
    have clash := keys.1 p there
    have alike : r.get Table.jobs.key = q.get "job_id" := named.trans own.symm
    rw [alike, same] at clash
    cases clash

theorem add (h : Holds s run done) (linked : s.referencesMet .steps = true) {i : Item}
    (follows : i.Follows done)
    (put : s.insertValues (i.row run).1 now (i.row run).2 = .ok s') :
    Holds s' run (done ++ [i]) := by
  obtain ⟨r, kept, next, rfl, sound⟩ := Store.insertValues_ok (i.names run) put
  have whole : ∀ i' ∈ done ++ [i], ∀ e ∈ (i'.row run).2, Cell.ofValue e.2 = .ok (.ok (.of e.2)) :=
    List.forall_mem_append.mpr ⟨h.whole, by simpa using kept.whole⟩
  cases i with
  | job j =>
    dsimp only [Item.row] at kept next sound ⊢
    have jobs : Item.jobs (done ++ [.job j]) = Item.jobs done ++ [j] := Item.jobs_append ..
    have steps (k : Int) : Item.steps k (done ++ [.job j]) = Item.steps k done := by
      rw [Item.steps_append]
      exact List.append_nil _
    refine ⟨whole, ?_, fun j' mem => ?_⟩
    · rw [jobs, List.map_append]
      refine ((Store.listed_grown_perm (get_run kept)).map _).trans ?_
      rw [List.map_cons, kept.cells rfl]
      exact (h.jobs.cons _).trans (List.perm_append_singleton ..).symm
    · rw [Store.listed_grown_of_ne (by decide), steps]
      rw [jobs] at mem
      rcases List.mem_append.mp mem with old | new
      · exact h.steps j' old
      · rw [List.mem_singleton.mp new, listed_steps_new linked (get_job kept) sound,
          Item.steps_eq_nil follows]
        rfl
  | step j result =>
    dsimp only [Item.row] at kept next sound ⊢
    have jobs : Item.jobs (done ++ [.step j result]) = Item.jobs done := by
      rw [Item.jobs_append]
      exact List.append_nil _
    refine ⟨whole, ?_, fun j' mem => ?_⟩
    · rw [Store.listed_grown_of_ne (by decide), jobs]
      exact h.jobs
    · rw [jobs] at mem
      rw [Item.steps_append, List.map_append, ← h.steps j' mem]
      by_cases own : j.subject.index = j'.subject.index
      · have view : r.view Item.stepNames =
            Table.steps.kept (Store.stepRow (keyOf run j'.subject.index) result) := own ▸ kept.view
        rw [Store.listed_grown_steps next (own ▸ get_parent kept), List.map_append]
        simp [Item.steps, own, view]
      · have elsewhere : r.get "job_id" ≠ .text (keyOf run j'.subject.index) := by
          rw [get_parent kept]
          exact fun same => own (keyOf_inj (Cell.text.inj same)).2
        rw [Store.listed_grown_other elsewhere]
        simp [Item.steps, own]

theorem key_of_mem (h : Holds s run done) {q : Row} (mem : q ∈ s.listed .jobs "run_id" run) :
    ∃ j ∈ Item.jobs done, q.get "job_id" = .text (keyOf run j.subject.index) := by
  have viewed := h.jobs.mem_iff.mp (List.mem_map_of_mem mem)
  obtain ⟨j, mem', view⟩ := List.mem_map.mp viewed
  exact ⟨j, mem', (congrArg (fun d => (Dict.get? d "job_id").getD Cell.null) view).symm⟩

theorem mem_of_key (h : Holds s run done) {j : JobResult} (mem : j ∈ Item.jobs done) :
    ∃ q ∈ s.jobs, q.get "job_id" = .text (keyOf run j.subject.index) := by
  have viewed := h.jobs.mem_iff.mpr (List.mem_map_of_mem mem)
  obtain ⟨q, mem', view⟩ := List.mem_map.mp viewed
  exact ⟨q, (Store.mem_listed.mp mem').1,
    congrArg (fun d => (Dict.get? d "job_id").getD Cell.null) view⟩

end Holds

end JobMatrix.History
