import JobMatrix.Proofs.JsonText
import JobMatrix.Proofs.RunRows
import Mathlib.Data.List.Nodup

/-! What the history gives back. A value is kept in the form of its column, collections as JSON, and
a text that is a JSON list or mapping is opened when it is read. Main statement: of a run that was
recorded each job and each step is given back, in order, with all that was recorded of it, but for
texts that are JSON themselves. -/

namespace JobMatrix.History

/-- A text that is read back as it is: it does not start as a JSON list or mapping does, or it is
none. -/
def Lasting (t : String) : Prop :=
  (∀ r, t.toList ≠ '[' :: r ∧ t.toList ≠ '\x7b' :: r) ∨ Json.read t = .error .malformed

/-- Whether a text is read back as it is. -/
def lasts (t : String) : Bool :=
  (match t.toList with
    | '[' :: _ => false
    | '\x7b' :: _ => false
    | _ => true) ||
  match Json.read t with
    | .error .malformed => true
    | _ => false

theorem lasts_iff {t : String} : lasts t = true ↔ Lasting t := by
  have unread : (match Json.read t with | .error .malformed => true | _ => false) = true ↔
      Json.read t = .error .malformed := by
    split <;> simp_all
  rw [lasts, Bool.or_eq_true, unread, Lasting]
  refine or_congr_left ?_
  split <;> simp_all

instance : DecidablePred Lasting := fun _ => decidable_of_iff _ lasts_iff

theorem readValue_ne_text {fuel room : Nat} {c : Char} {r rest : List Char} {v : Value}
    (start : c = '[' ∨ c = '\x7b') (h : Json.readValue fuel room (c :: r) = .ok (v, rest))
    (t : String) : v ≠ .text t := by
  have mapped {α : Type} {x : Json.Reading α} {f : α → Value} (plain : ∀ a, f a ≠ .text t)
      (h : x.map (fun p => (f p.1, p.2)) = .ok (v, rest)) : v ≠ .text t := by
    cases x with
    | error e => cases h
    | ok p =>
      cases h
      exact plain p.1
  cases fuel with
  | zero => cases h
  | succ fuel =>
    cases room with
    | zero => rcases start with rfl | rfl <;> cases h
    | succ room =>
      rcases start with rfl | rfl
      · rw [Json.readValue, Json.skipSpace_cons rfl] at h
        simp only at h
        split at h
        · cases h
          exact Value.noConfusion
        · exact mapped (fun _ => Value.noConfusion) h
      · rw [Json.readValue, Json.skipSpace_cons rfl] at h
        simp only at h
        split at h
        · cases h
          exact Value.noConfusion
        · exact mapped (fun _ => Value.noConfusion) h

theorem read_ne_text {s : String} {c : Char} {r : List Char} (start : c = '[' ∨ c = '\x7b')
    (text : s.toList = c :: r) (t : String) : Json.read s ≠ .ok (.text t) := by
  intro h
  simp only [Json.read, text] at h
  split at h
  · cases h
  · next v rest given =>
    split at h
    · cases h
      exact readValue_ne_text start given t rfl
    · cases h

theorem unpackText_eq_iff {s : String} {c : Char} {r : List Char} (start : c = '[' ∨ c = '\x7b')
    (text : s.toList = c :: r) :
    unpackText s = .ok (.text s) ↔ Json.read s = .error .malformed := by
  unfold unpackText
  split
  · next none_ => simp [none_]
  · next other => exact ⟨fun h => absurd h (read_ne_text start text s), fun h => absurd h other⟩

theorem unpack_text_iff {t : String} : unpack (.text t) = .ok (.text t) ↔ Lasting t := by
  unfold unpack Lasting
  split
  · next s same =>
    obtain rfl : t = s := by simpa [Value.text] using same
    split
    · next r text => simp [unpackText_eq_iff (.inl rfl) text, text]
    · next r text => simp [unpackText_eq_iff (.inr rfl) text, text]
    · next bracket brace =>
      exact ⟨fun _ => .inl fun r => ⟨bracket r, brace r⟩, fun _ => rfl⟩
  · next other => exact absurd rfl (other t)

theorem unpack_of_ne_text {v : Value} (h : ∀ t, v ≠ .text t) : unpack v = .ok v := by
  unfold unpack
  split
  · next s => exact absurd rfl (h s)
  · rfl

/-- What comes back of values that were recorded under names. -/
def reopened (row : List (String × Value)) : Except Fault (List (String × Value)) :=
  row.mapM fun e => do
    let v ← (unpack e.2).mapError readFault
    return (e.1, v)

/-- Values come back as they were recorded when none of them is a text that is JSON itself, and only
then. -/
theorem reopened_eq_ok_iff {row : List (String × Value)} :
    reopened row = .ok row ↔ ∀ e ∈ row, ∀ t, e.2 = .text t → Lasting t := by
  have each (e : String × Value) : (do
      let v ← (unpack e.2).mapError readFault
      return (e.1, v)) = Except.ok e ↔ unpack e.2 = .ok e.2 := by
    obtain ⟨name, v⟩ := e
    cases opened : unpack v with
    | error e => simp [bind, Except.bind, Except.mapError]
    | ok w => simp [bind, Except.bind, Except.mapError, pure, Except.pure]
  rw [reopened, mapM_eq_ok_iff, List.map_inj_left]
  refine forall₂_congr fun e _ => (each e).trans ⟨?_, fun lasting => ?_⟩
  · rintro same t text
    rw [text] at same
    exact unpack_text_iff.mp same
  · by_cases text : ∃ t, e.2 = .text t
    · obtain ⟨t, text⟩ := text
      rw [text]
      exact unpack_text_iff.mpr (lasting t text)
    · exact unpack_of_ne_text fun t same => text ⟨t, same⟩

/-- A value that a column keeps as it is, collections as JSON. -/
inductive Suits : Affinity → Value → Prop
  | null (a : Affinity) : Suits a .null
  | int {n : Int} (fits : Cell.fits n = true) : Suits .integer (.int n)
  | text (t : String) : Suits .text (.text t)
  | object {entries : List (String × Value)} (plain : Json.Plain (.object entries))
      (flat : (Value.object entries).height ≤ Json.nestingLimit) : Suits .text (.object entries)

/-- The text of a collection begins with a bracket, so it is read when it is unpacked. -/
theorem unpack_written {v : Value} (plain : Json.Plain v) (parts : ∀ s, v ≠ .scalar s) {s : String}
    {limit : Nat} (written : Json.write .compact v limit = .ok s) (room : Nat) :
    unpack (.text s) room = unpackText s room := by
  have opens {depth : Nat} {opening closing : String} {c : Char} {w : Except Json.Obstacle _}
      (own : opening.toList = [c]) (h : (if 0 < limit then
        w.map (Json.Layout.compact.enclose depth opening closing) else .error .depth) = .ok s) :
      ∃ r, s.toList = c :: r := by
    split at h
    · cases w with
      | error o => cases h
      | ok parts =>
        cases h
        rw [Json.toList_enclose, own]
        exact ⟨_, rfl⟩
    · cases h
  cases plain with
  | null | bool | int | text => exact absurd rfl (parts _)
  | list =>
    rw [Json.write, Json.writeAt] at written
    obtain ⟨r, start⟩ := opens (c := '[') rfl written
    simp only [unpack, Value.text, start]
  | object =>
    rw [Json.write, Value.object, Json.writeAt] at written
    obtain ⟨r, start⟩ := opens (c := '\x7b') rfl written
    simp only [unpack, Value.text, start]

theorem Suits.toValue {a : Affinity} {v : Value} (h : Suits a v) :
    (a.apply (.of v)).toValue = unpack v := by
  cases h with
  | null => cases a <;> rfl
  | @int n fits =>
    rw [Cell.of_int fits]
    rfl
  | text => rfl
  | @object entries plain flat =>
    obtain ⟨s, writes, reads⟩ := Json.read_write plain
    have written := (writes Json.nestingLimit).trans (if_pos flat)
    have read := (reads Json.nestingLimit).trans (if_pos flat)
    have own : Cell.ofValue (.object entries) = .ok (.ok (.text s)) := by
      change (Json.write .compact (.object entries)).map _ = _
      rw [written]
      rfl
    have opened : unpack (.text s) = .ok (.object entries) := by
      rw [unpack_written plain (fun _ => Value.noConfusion) written, unpackText, read]
    rw [Cell.of, own]
    exact opened.trans (unpack_of_ne_text fun t => Value.noConfusion).symm

theorem values_kept {t : Table} {row : List (String × Value)}
    (h : ∀ e ∈ row, Suits (t.affinity e.1) e.2) : values (t.kept row) = reopened row := by
  rw [values, Table.kept, List.mapM_map]
  refine mapM_congr fun e mem => ?_
  rw [Function.comp_apply, (h e mem).toValue]

/-- An instance that is told by texts. -/
structure Worded (i : Instance) : Prop where
  template : ∃ t, i.template = .text t
  bindings : ∃ d : Dict String String, i.bindings = d.map (fun b => (.text b.1, b.2)) ∧ d.Distinct

theorem Worded.id {i : Instance} (h : Worded i) : ∃ t, i.id = .text t := by
  unfold Instance.id
  split
  · exact h.template
  · exact ⟨_, rfl⟩

theorem Worded.object {i : Instance} (h : Worded i) :
    ∃ entries, Value.map (i.bindings.map fun b => (b.1, .text b.2)) = .object entries ∧
      Json.Plain (.object entries) ∧ (Value.object entries).height ≤ Json.nestingLimit := by
  obtain ⟨d, bindings, distinct⟩ := h.bindings
  refine ⟨d.map fun b => (b.1, .text b.2), by simp [bindings, Value.object], .object ?_ ?_, ?_⟩
  · simpa [Dict.Distinct, Dict.keys, Function.comp_def] using distinct
  · simp only [List.forall_mem_map]
    exact fun b _ => .text _
  · have flat : Value.heightEntries (Json.named (d.map fun b => (b.1, .text b.2))) = 0 := by
      clear bindings distinct
      induction d with
      | nil => rfl
      | cons b rest ih => exact (Nat.zero_max _).trans ih
    exact (congrArg Nat.succ flat).trans_le (by decide)

theorem suits_ofText? (t : Option String) : Suits .text (.ofText? t) := by
  cases t with
  | none => exact .null _
  | some t => exact .text t

theorem suits_ofInt? {n : Option Int}
    (h : Cell.ofValue (.ofInt? n) = .ok (.ok (.of (.ofInt? n)))) : Suits .integer (.ofInt? n) := by
  cases n with
  | none => exact .null _
  | some n => exact .int (Cell.fits_of_int h)

theorem suits_jobRow {run : String} {j : JobResult} (worded : Worded j.subject)
    (whole : ∀ e ∈ Store.jobRow run j, Cell.ofValue e.2 = .ok (.ok (.of e.2))) :
    ∀ e ∈ Store.jobRow run j, Suits (Table.jobs.affinity e.1) e.2 := by
  obtain ⟨id, named⟩ := worded.id
  obtain ⟨entries, bindings, plain, flat⟩ := worded.object
  simp only [Store.jobRow, List.forall_mem_cons, List.not_mem_nil, false_implies, implies_true,
    and_true, bindings, named] at whole ⊢
  exact ⟨.text _, .text _, .text _, .int (Cell.fits_of_int whole.2.2.2.1), .object plain flat,
    .text _, suits_ofInt? whole.2.2.2.2.2.2⟩

/-- What is asked for of a step. -/
def stepColumns : String := "step_index, name, command, status, returncode, error, stdout, stderr"

/-- What a step is told by in the history. -/
def stepFields (r : StepResult) : List (String × Value) := [
  ("step_index", .int r.index), ("name", .text r.step.label),
  ("command", .text r.step.command.display), ("status", .text r.status.text),
  ("returncode", r.codeValue), ("error", .ofText? r.error), ("stdout", .text r.stdout),
  ("stderr", .text r.stderr)]

def fieldNames : List String :=
  ["step_index", "name", "command", "status", "returncode", "error", "stdout", "stderr"]

theorem suits_stepFields (key : String) {r : StepResult}
    (whole : ∀ e ∈ Store.stepRow key r, Cell.ofValue e.2 = .ok (.ok (.of e.2))) :
    ∀ e ∈ stepFields r, Suits (Table.steps.affinity e.1) e.2 := by
  simp only [Store.stepRow, stepFields, List.forall_mem_cons, List.not_mem_nil, false_implies,
    implies_true, and_true] at whole ⊢
  exact ⟨.int (Cell.fits_of_int whole.2.1), .text _, .text _, .text _,
    suits_ofInt? whole.2.2.2.2.2.1, suits_ofText? _, .text _, .text _⟩

theorem selected_stepColumns :
    ∃ cs, Store.selected .steps stepColumns = .ok cs ∧ cs.map Column.name = fieldNames := by
  have known : (Store.selected .steps stepColumns).toOption.map (·.map Column.name) =
      some fieldNames := by decide +kernel
  obtain ⟨cs, given, names⟩ := Option.map_eq_some_iff.mp known
  exact ⟨cs, toOption_eq_some_iff.mp given, names⟩

theorem pick_view {t : Table} {cs : List Column} (r : Row) (names : t.Names (cs.map Column.name)) :
    Store.pick t cs r = r.view (cs.map Column.name) := by
  have cells : (cs.map fun c =>
      (c.name, if c.name == t.rowName then .int r.number else r.get c.name)) =
        r.view (cs.map Column.name) := by
    rw [Row.view, List.map_map]
    refine List.map_congr_left fun c mem => ?_
    have unnumbered : (c.name == t.rowName) = false := by
      simp only [beq_eq_false_iff_ne]
      exact fun same => names.unnumbered (same ▸ List.mem_map_of_mem mem)
    simp [unnumbered]
  rw [Store.pick, cells, Dict.Distinct.ofList_eq]
  simpa [Dict.Distinct, Dict.keys, Row.view, Function.comp_def] using names.once

/-- A query for the steps of a job gives their rows in the order in which they were recorded. -/
theorem select_steps (s : Store) (key : String) :
    s.select "step_results" stepColumns (some ("job_id", .ok (.text key))) =
      .ok ((s.listed .steps "job_id" key).map (·.view fieldNames)) := by
  obtain ⟨cs, selected, names⟩ := selected_stepColumns
  have own : Table.steps.Names (cs.map Column.name) := by
    rw [names]
    exact ⟨by decide, by decide, by decide, by decide⟩
  have column : Store.column? .steps "job_id" = some ⟨"job_id", .text, false⟩ :=
    Table.column?_name (c := ⟨"job_id", .text, false⟩) (by decide)
  have matched : (s.rows .steps).filter
      (Store.matchesCell .steps ⟨"job_id", .text, false⟩ (.text key)) =
        s.listed .steps "job_id" key := by
    refine List.filter_congr fun r _ => Bool.eq_iff_iff.mpr ?_
    rw [decide_eq_true_iff]
    exact Cell.equal_text_iff
  have table : Store.table? "step_results" = some .steps := Table.table?_name .steps
  have picked : Store.pick .steps cs = fun r => r.view fieldNames := by
    funext r
    rw [pick_view r own, names]
  simp only [Store.select, table, selected, column, pure_bind]
  change Except.ok (List.map (Store.pick .steps cs) (List.filter _ _)) = _
  rw [matched, picked]

namespace Holds

variable {s s' : Store} {c c' : Connection} {run now : String} {result : RunResult}
  {done rest : List Item}

theorem addRows (h : Holds c.store run done) (linked : c.store.referencesMet .steps = true)
    (distinct : (result.jobs.map fun j => j.subject.index).Nodup)
    (split_ : Item.ofResult result = done ++ rest)
    (added : c.addRows now (rest.map (Item.row run)) = (c', none)) :
    Holds c'.store run (done ++ rest) := by
  induction rest generalizing c done with
  | nil =>
    cases added
    rwa [List.append_nil]
  | cons i rest ih =>
    rw [List.map_cons, Connection.addRows] at added
    split at added
    · next c'' asked =>
      have put := Connection.ok_of_ask asked
      obtain ⟨r, -, -, -, sound⟩ := Store.insertValues_ok (i.names run) put
      have more := h.add linked (Item.follows_of_ofResult distinct split_) put
      have split' : Item.ofResult result = done ++ [i] ++ rest := by simp [split_]
      have all := ih more sound.steps split' added
      rwa [List.append_assoc, List.singleton_append] at all
    · next raised => exact absurd added (raised c')

theorem of_start {event : Event} (linked : s.referencesMet .jobs = true)
    (begun : s.start now run event = .ok s') :
    Holds s' run [] ∧ s'.referencesMet .steps = true := by
  obtain ⟨r, kept, -, rfl, sound⟩ := Store.insertValues_ok (t := .runs)
    ⟨by simp, by simp, by simp [Table.columns], by simp [Table.rowName]⟩ begun
  have id : r.get "run_id" = .text run := kept.get (v := .text run) (.head _)
  have keys := sound.keys
  rw [Store.rows_grown, Store.keysClash_place] at keys
  have none_ : s.listed .jobs "run_id" run = [] := by
    refine List.eq_nil_iff_forall_not_mem.mpr fun q mem => ?_
    obtain ⟨there, own⟩ := Store.mem_listed.mp mem
    rcases Store.referencesMet_iff.mp linked "run_id" .runs rfl q there with null | ⟨p, mem', same⟩
    · simp [own] at null
    · have clash := keys.1 p mem'
      have alike : r.get Table.runs.key = q.get "run_id" := id.trans own.symm
      rw [alike, same] at clash
      cases clash
  refine ⟨⟨by simp, ?_, by simp [Item.jobs]⟩, sound.steps⟩
  rw [Store.listed_grown_of_ne (by decide), none_]
  exact .refl _

theorem of_finish {report : Report} (h : Holds s run []) (linked : s.referencesMet .steps = true)
    (distinct : (result.jobs.map fun j => j.subject.index).Nodup)
    (ended : s.finish now run result report = (s', none)) :
    Holds s' run (Item.ofResult result) := by
  obtain ⟨c', finished, rfl⟩ : ∃ c', ({ store := s } : Connection).finish now run result report =
      (c', none) ∧ c'.store = s' := by
    obtain ⟨store, fault⟩ := Prod.mk.inj ended
    exact ⟨_, Prod.ext rfl (Option.map_eq_none_iff.mp fault), store⟩
  unfold Connection.finish at finished
  rw [Item.rows_ofResult] at finished
  split at finished
  · next c added =>
    unfold Connection.close at finished
    split at finished
    · next c₂ looked =>
      have same : c.store = c₂.store := Except.ok.inj (Connection.ok_of_ask looked)
      obtain ⟨json, closed, -⟩ := Store.close_ok (Connection.ok_of_ask finished)
      rw [closed, ← same]
      exact (Holds.addRows (c := { store := s }) h linked distinct rfl added).congr rfl rfl
    · next raised => exact absurd finished (raised c')
  · next raised => exact absurd finished (raised c')

theorem select_steps (h : Holds s run (Item.ofResult result))
    (distinct : (result.jobs.map fun j => j.subject.index).Nodup) {j : JobResult}
    (mem : j ∈ result.jobs) :
    s.select "step_results" stepColumns (some ("job_id", .ok (.text (Store.jobKey run j)))) =
      .ok (j.steps.map fun r => Table.steps.kept (stepFields r)) := by
  have rows := h.steps j (by rwa [Item.jobs_ofResult])
  rw [Item.steps_ofResult distinct mem] at rows
  have fields := congrArg (List.map fun d : Dict String Cell => d.tail.dropLast) rows
  rw [List.map_map, List.map_map] at fields
  rw [History.select_steps]
  exact congrArg Except.ok fields

end Holds

/-- The place of a job among those of its run. -/
def order (cells : Dict String Cell) : Int :=
  match Dict.get? cells "execution_order" with
  | some (.int n) => n
  | _ => 0

theorem get?_order {run : String} {j : JobResult}
    (whole : ∀ e ∈ Store.jobRow run j, Cell.ofValue e.2 = .ok (.ok (.of e.2))) :
    Dict.get? (Table.jobs.kept (Store.jobRow run j)) "execution_order" =
      some (.int j.subject.index) := by
  have fits := Cell.fits_of_int (whole ("execution_order", .int j.subject.index)
    (by simp [Store.jobRow]))
  exact congrArg (fun c => some (Affinity.integer.apply c)) (Cell.of_int fits)

theorem order_kept {run : String} {j : JobResult}
    (whole : ∀ e ∈ Store.jobRow run j, Cell.ofValue e.2 = .ok (.ok (.of e.2))) :
    order (Table.jobs.kept (Store.jobRow run j)) = j.subject.index := by
  rw [order, get?_order whole]

section

variable {α : Type} {key : α → Int}

theorem sorted_by (key : α → Int) (l : List α) :
    (l.mergeSort fun a b => key a ≤ key b).Pairwise fun a b => key a ≤ key b := by
  have sorted := @List.pairwise_mergeSort α (fun a b => key a ≤ key b)
    (fun a b c => by simp only [decide_eq_true_eq]; omega)
    (fun a b => by simp only [Bool.or_eq_true, decide_eq_true_eq]; omega) l
  simpa using sorted

theorem mergeSort_perm_eq {l l' : List α} (perm : l.Perm l')
    (inj : ∀ a ∈ l, ∀ b ∈ l, key a = key b → a = b) :
    (l.mergeSort fun a b => key a ≤ key b) = l'.mergeSort fun a b => key a ≤ key b := by
  refine List.Perm.eq_of_pairwise (fun a b mem mem' below above => ?_) (sorted_by key l)
    (sorted_by key l') ?_
  · refine inj a (List.mem_mergeSort.mp mem) b ?_ (by omega)
    exact perm.mem_iff.mpr (List.mem_mergeSort.mp mem')
  · exact (List.mergeSort_perm l _).trans (perm.trans (List.mergeSort_perm l' _).symm)

end

/-- Jobs by their indices. -/
def byIndex (jobs : List JobResult) : List JobResult :=
  jobs.mergeSort fun a b => a.subject.index ≤ b.subject.index

theorem byIndex_perm (jobs : List JobResult) : (byIndex jobs).Perm jobs := List.mergeSort_perm ..

theorem byIndex_rising {jobs : List JobResult}
    (distinct : (jobs.map fun j => j.subject.index).Nodup) :
    (byIndex jobs).Pairwise fun a b => a.subject.index < b.subject.index := by
  have apart := ((byIndex_perm jobs).map fun j => j.subject.index).nodup_iff.mpr distinct
  have sorted := sorted_by (fun j : JobResult => j.subject.index) jobs
  refine (sorted.and (List.pairwise_map.mp apart)).imp fun both => ?_
  exact lt_of_le_of_ne both.1 both.2

theorem Holds.jobsOf {s : Store} {run : String} {result : RunResult}
    (h : Holds s run (Item.ofResult result))
    (distinct : (result.jobs.map fun j => j.subject.index).Nodup) :
    s.jobsOf run = (byIndex result.jobs).map fun j => Table.jobs.kept (Store.jobRow run j) := by
  have whole (j : JobResult) (mem : j ∈ result.jobs) := h.whole (.job j)
    (List.mem_flatMap.mpr ⟨j, mem, .head _⟩)
  have perm := h.jobs
  rw [Item.jobs_ofResult] at perm
  have placed (r : Row) (mem : r ∈ s.listed .jobs "run_id" run) :
      r.get "execution_order" = .int (order r.cells) := by
    obtain ⟨j, mem', cells⟩ := List.mem_map.mp (perm.mem_iff.mp (List.mem_map_of_mem mem))
    rw [Row.get, ← cells, get?_order (whole j mem'), order_kept (whole j mem')]
    rfl
  have own : (s.jobs.filter fun r => (r.get "run_id").equal (.text run)) =
      s.listed .jobs "run_id" run := by
    refine List.filter_congr fun r _ => Bool.eq_iff_iff.mpr ?_
    rw [decide_eq_true_iff]
    exact Cell.equal_text_iff
  rw [Store.jobsOf, own]
  calc ((s.listed .jobs "run_id" run).mergeSort fun a b =>
        !(b.get "execution_order").less (a.get "execution_order")).map Row.cells
    _ = ((s.listed .jobs "run_id" run).map Row.cells).mergeSort fun d d' => order d ≤ order d' := by
      refine List.map_mergeSort fun a mem b mem' => ?_
      rw [placed a mem, placed b mem']
      simp only [Cell.less, ← decide_not, Int.not_lt]
    _ = (result.jobs.map fun j => Table.jobs.kept (Store.jobRow run j)).mergeSort fun d d' =>
          order d ≤ order d' := by
      refine mergeSort_perm_eq perm fun d mem d' mem' same => ?_
      obtain ⟨j, at_, rfl⟩ := List.mem_map.mp (perm.mem_iff.mp mem)
      obtain ⟨j', at_', rfl⟩ := List.mem_map.mp (perm.mem_iff.mp mem')
      rw [order_kept (whole j at_), order_kept (whole j' at_')] at same
      rw [List.inj_on_of_nodup_map distinct at_ at_' same]
    _ = (byIndex result.jobs).map fun j => Table.jobs.kept (Store.jobRow run j) := by
      refine (List.map_mergeSort fun j mem j' mem' => ?_).symm
      rw [order_kept (whole j mem), order_kept (whole j' mem')]

theorem Holds.read_jobs {s : Store} {run : String} {result : RunResult}
    (h : Holds s run (Item.ofResult result))
    (distinct : (result.jobs.map fun j => j.subject.index).Nodup)
    (worded : ∀ j ∈ result.jobs, Worded j.subject) :
    (s.jobsOf run).mapM values =
      (byIndex result.jobs).mapM fun j => reopened (Store.jobRow run j) := by
  rw [h.jobsOf distinct, List.mapM_map]
  refine mapM_congr fun j mem => values_kept ?_
  have mem := (byIndex_perm result.jobs).mem_iff.mp mem
  exact suits_jobRow (worded j mem) (h.whole (.job j) (List.mem_flatMap.mpr ⟨j, mem, .head _⟩))

theorem Holds.read_steps {s : Store} {run : String} {result : RunResult}
    (h : Holds s run (Item.ofResult result)) {j : JobResult} (mem : j ∈ result.jobs) :
    (j.steps.map fun r => Table.steps.kept (stepFields r)).mapM values =
      j.steps.mapM fun r => reopened (stepFields r) := by
  rw [List.mapM_map]
  refine mapM_congr fun r mem' => values_kept (suits_stepFields (Store.jobKey run j) ?_)
  exact h.whole (.step j r) (List.mem_flatMap.mpr ⟨j, mem, .tail _ (List.mem_map_of_mem mem')⟩)

theorem mapM_reopened_iff {α : Type} {row : α → List (String × Value)} {l : List α} :
    (l.mapM fun a => reopened (row a)) = .ok (l.map row) ↔
      ∀ a ∈ l, ∀ e ∈ row a, ∀ t, e.2 = .text t → Lasting t := by
  rw [mapM_eq_ok_iff, List.map_map, List.map_inj_left]
  exact forall₂_congr fun a _ => reopened_eq_ok_iff

/-- The history gives back what was recorded, but for texts that are JSON themselves. When the start
and the end of a run were recorded, a query for its jobs gives them by their indices and a query for
the steps of a job gives these in their order, each with what was recorded of it. All values come
back opened; and they come back as they were if and only if each text among them starts neither as a
JSON list nor as a JSON mapping does, or is no JSON. -/
theorem recorded_runs_read_back {s s₁ s₂ : Store} {started ended run : String} {event : Event}
    {result : RunResult} {report : Report} (linked : s.referencesMet .jobs = true)
    (distinct : (result.jobs.map fun j => j.subject.index).Nodup)
    (worded : ∀ j ∈ result.jobs, Worded j.subject)
    (begun : s.start started run event = .ok s₁)
    (done : s₁.finish ended run result report = (s₂, none)) :
    (∃ jobs : List JobResult, jobs.Perm result.jobs ∧
      (jobs.Pairwise fun a b => a.subject.index < b.subject.index) ∧
      (s₂.jobsOf run).mapM values = (jobs.mapM fun j => reopened (Store.jobRow run j)) ∧
      ((s₂.jobsOf run).mapM values = .ok (jobs.map (Store.jobRow run)) ↔
        ∀ j ∈ result.jobs, ∀ e ∈ Store.jobRow run j, ∀ t, e.2 = .text t → Lasting t)) ∧
    ∀ j ∈ result.jobs, ∃ rows,
      s₂.select "step_results" stepColumns (some ("job_id", .ok (.text (Store.jobKey run j)))) =
        .ok rows ∧
      rows.mapM values = (j.steps.mapM fun r => reopened (stepFields r)) ∧
      (rows.mapM values = .ok (j.steps.map stepFields) ↔
        ∀ r ∈ j.steps, ∀ e ∈ stepFields r, ∀ t, e.2 = .text t → Lasting t) := by
  obtain ⟨entered, steps⟩ := Holds.of_start linked begun
  have rows := entered.of_finish steps distinct done
  refine ⟨⟨byIndex result.jobs, byIndex_perm _, byIndex_rising distinct,
    rows.read_jobs distinct worded, ?_⟩, fun j mem => ?_⟩
  · rw [rows.read_jobs distinct worded, mapM_reopened_iff]
    exact forall_congr' fun j => imp_congr_left (byIndex_perm result.jobs).mem_iff
  · refine ⟨_, rows.select_steps distinct mem, rows.read_steps mem, ?_⟩
    rw [rows.read_steps mem, mapM_reopened_iff]

/-- Two jobs against the order of their indices; what a step has written starts as a list does and
is none. -/
theorem recorded_runs_read_back_in_order :
    let job (index : Int) (os : String) : JobResult :=
      { subject :=
          { template := .text "build", index, bindings := [(.text "os", os)], steps := []
            env := [] }
        steps := [{ step := { command := .line "make" }, index := 0, stdout := "[draft" }] }
    ∃ s₁ s₂, ({} : Store).start "t" "r" { kind := "push" } = .ok s₁ ∧
      s₁.finish "t" "r" { jobs := [job 1 "mac", job 0 "linux"] } { overall := .success } =
        (s₂, none) ∧
      (s₂.jobsOf "r").mapM values =
        .ok [Store.jobRow "r" (job 0 "linux"), Store.jobRow "r" (job 1 "mac")] ∧
      ∃ rows, s₂.select "step_results" stepColumns (some ("job_id", .ok (.text "r:0"))) = .ok rows ∧
        rows.mapM values = .ok ((job 0 "linux").steps.map stepFields) := by
  intro job
  let result : RunResult := { jobs := [job 1 "mac", job 0 "linux"] }
  have known : (({} : Store).start "t" "r" { kind := "push" }).toOption.map (fun s₁ =>
      (s₁.finish "t" "r" result { overall := .success }).2.isNone) = some true := by
    decide +kernel
  obtain ⟨s₁, put, whole⟩ := Option.map_eq_some_iff.mp known
  have begun := toOption_eq_some_iff.mp put
  have done : s₁.finish "t" "r" result { overall := .success } =
      ((s₁.finish "t" "r" result { overall := .success }).1, none) :=
    Prod.ext rfl (Option.isNone_iff_eq_none.mp whole)
  have worded : ∀ j ∈ result.jobs, Worded j.subject := by
    simp only [result, List.forall_mem_cons, List.not_mem_nil, false_implies, implies_true,
      and_true]
    exact ⟨⟨⟨_, rfl⟩, [("os", "mac")], rfl, by decide⟩,
      ⟨⟨_, rfl⟩, [("os", "linux")], rfl, by decide⟩⟩
  obtain ⟨⟨jobs, perm, rising, -, exactly⟩, steps⟩ :=
    recorded_runs_read_back rfl (by decide) worded begun done
  have ordered : jobs = [job 0 "linux", job 1 "mac"] := by
    refine List.Perm.eq_of_pairwise (fun a b _ _ below above => ?_) rising (by simp [job])
      (perm.trans (.swap ..))
    omega
  have texts {row : List (String × Value)} (h : ∀ e ∈ row, ∀ t ∈ e.2.text?, Lasting t) :
      ∀ e ∈ row, ∀ t, e.2 = .text t → Lasting t := fun e mem t same => h e mem t (by rw [same]; rfl)
  refine ⟨s₁, _, begun, done, ?_, ?_⟩
  · rw [ordered] at exactly
    refine exactly.mpr fun j mem => texts ?_
    rcases List.mem_pair.mp mem with rfl | rfl <;> decide +kernel
  · obtain ⟨rows, selected, -, exactly⟩ := steps (job 0 "linux") (by simp [result])
    refine ⟨rows, selected, exactly.mpr fun r mem => texts ?_⟩
    rw [List.mem_singleton.mp mem]
    decide +kernel

/-- What a step has written is given back as a list when it is the text of one. -/
theorem output_read_as_list :
    let step : StepResult :=
      { step := { command := .line "echo [1]" }, index := 0, stdout := "[1]" }
    let job : JobResult :=
      { subject := { template := .text "build", index := 0, bindings := [], steps := [], env := [] }
        steps := [step] }
    ∃ s₁ s₂ rows, ({} : Store).start "t" "r" { kind := "push" } = .ok s₁ ∧
      s₁.finish "t" "r" { jobs := [job] } { overall := .success } = (s₂, none) ∧
      s₂.select "step_results" stepColumns (some ("job_id", .ok (.text "r:0"))) = .ok rows ∧
      rows.mapM values ≠ .ok [stepFields step] := by
  intro step job
  have known : (({} : Store).start "t" "r" { kind := "push" }).toOption.bind (fun s₁ =>
      let (s₂, fault) := s₁.finish "t" "r" { jobs := [job] } { overall := .success }
      (s₂.select "step_results" stepColumns
        (some ("job_id", .ok (.text "r:0")))).toOption.bind fun rows =>
      (rows.mapM values).toOption.map fun rows =>
        (fault.isNone, rows.map fun row => row.map fun e => e.2.text?)) =
      some (true, [[none, some "echo [1]", some "echo [1]", some "success", none, none, none,
        some ""]]) := by
    decide +kernel
  obtain ⟨s₁, begun, known⟩ := Option.bind_eq_some_iff.mp known
  obtain ⟨rows, selected, known⟩ := Option.bind_eq_some_iff.mp known
  obtain ⟨read, opened, known⟩ := Option.map_eq_some_iff.mp known
  obtain ⟨whole, texts⟩ := Prod.mk.inj known
  refine ⟨s₁, (s₁.finish "t" "r" { jobs := [job] } { overall := .success }).1, rows,
    toOption_eq_some_iff.mp begun, Prod.ext rfl (Option.isNone_iff_eq_none.mp whole),
    toOption_eq_some_iff.mp selected, fun same => ?_⟩
  rw [toOption_eq_some_iff.mp opened] at same
  rw [Except.ok.inj same] at texts
  exact absurd texts (by decide)

end JobMatrix.History
