import JobMatrix.Proofs.Additions
import JobMatrix.Proofs.Report
import JobMatrix.Proofs.RunRows

/-! Identities of instances. The identity is a text with the bindings written one after another.
Main statement: where no written binding can be taken for several, instances with different bindings
have different identities, and a report finds by an identity the bindings that it stands for. -/

namespace JobMatrix

namespace Instance

/-- A binding as it stands in an identity. -/
def written (e : Scalar × String) : List Char := e.1.display.toList ++ '=' :: e.2.toList

/-- The beginning of a binding that follows another, up to its value. -/
def label (e : Scalar × String) : List Char := ',' :: ' ' :: e.1.display.toList

/-- Bindings that are told apart where they are written: by the names, none of which is written like
another or with an equals sign, and none of which begins inside a written binding. -/
structure Legible (entries : List (Scalar × String)) : Prop where
  names : ∀ e ∈ entries, ∀ e' ∈ entries, e.1.display = e'.1.display → e.1 = e'.1
  plain : ∀ e ∈ entries, '=' ∉ e.1.display.toList
  inside : ∀ e ∈ entries, ∀ e' ∈ entries, ¬ label e' ++ ['='] <:+: written e

/-- What follows the first of several bindings. -/
def further (b : Bindings) : List Char := b.flatMap fun e => ',' :: ' ' :: written e

theorem further_cons (e : Scalar × String) (b : Bindings) :
    further (e :: b) = label e ++ '=' :: (e.2.toList ++ further b) := by
  simp [further, label, written]

theorem toList_bound (e : Scalar × String) (b : Bindings) :
    (bound (e :: b)).toList = written e ++ further b := by
  induction b generalizing e with
  | nil => simp [bound, further, written]
  | cons e' b ih =>
    have later := ih e'
    simp only [bound, List.map_cons, String.intercalate_cons_cons, String.toList_append] at later ⊢
    rw [later]
    simp [written, further]

section Told

variable {entries : List (Scalar × String)} (legible : Legible entries)

include legible

theorem Legible.label_plain {e : Scalar × String} (mem : e ∈ entries) : '=' ∉ label e := by
  simpa [label] using legible.plain e mem

/-- What follows a value has the value of another binding end later only if a label begins inside a
written binding. -/
theorem Legible.eq_nil_of_further {b b' : Bindings} (mem : ∀ e ∈ b, e ∈ entries)
    (mem' : ∀ e ∈ b', e ∈ entries) {e : Scalar × String} (here : e ∈ entries) {first x : List Char}
    (value : written e = first ++ x) (same : further b = x ++ further b') : x = [] := by
  cases b with
  | nil => exact (List.append_eq_nil_iff.mp same.symm).1
  | cons f b =>
    have listed := mem f (.head _)
    rw [further_cons] at same
    rcases List.append_eq_append_iff.mp same with ⟨z, own, rest⟩ | ⟨z, own, rest⟩
    · -- The whole label of the next binding lies in the value.
      cases z with
      | nil => cases b' <;> simp [further] at rest
      | cons c z =>
        obtain ⟨rfl, -⟩ := List.cons.inj rest
        refine absurd ⟨first, z, ?_⟩ (legible.inside e here f listed)
        rw [value, own]
        simp
    · -- The value ends inside the label, whose end is then a label of its own.
      cases b' with
      | nil => simp [further] at rest
      | cons g b' =>
        rw [further_cons] at rest
        have unmarked : '=' ∉ z := fun in_ =>
          legible.label_plain listed (own ▸ List.mem_append_right _ in_)
        obtain ⟨rfl, -⟩ := History.append_cons_inj
          (legible.label_plain (mem' g (.head _))) unmarked rest
        match x, own with
        | [], _ => rfl
        | [_], own => simp [label] at own
        | _ :: _ :: x, own =>
          have name : f.1.display.toList = x ++ label g := (List.cons.inj (List.cons.inj own).2).2
          refine absurd ⟨x, f.2.toList, ?_⟩ (legible.inside f listed g (mem' g (.head _)))
          simp [written, name]

theorem Legible.further_inj {b b' : Bindings} (mem : ∀ e ∈ b, e ∈ entries)
    (mem' : ∀ e ∈ b', e ∈ entries) (same : further b = further b') : b = b' := by
  induction b generalizing b' with
  | nil =>
    cases b' with
    | nil => rfl
    | cons => simp [further] at same
  | cons e b ih =>
    cases b' with
    | nil => simp [further] at same
    | cons e' b' =>
      obtain ⟨here, later⟩ := List.forall_mem_cons.mp mem
      obtain ⟨here', later'⟩ := List.forall_mem_cons.mp mem'
      rw [further_cons, further_cons] at same
      obtain ⟨labels, same⟩ := History.append_cons_inj (legible.label_plain here)
        (legible.label_plain here') same
      have names : e.1 = e'.1 := legible.names e here e' here'
        (String.toList_inj.mp (by simpa [label] using labels))
      have values : e.2.toList = e'.2.toList ∧ further b = further b' := by
        rcases List.append_eq_append_iff.mp same with ⟨x, own, rest⟩ | ⟨x, own, rest⟩
        · obtain rfl := legible.eq_nil_of_further later later' here'
            (show written e' = (e'.1.display.toList ++ '=' :: e.2.toList) ++ x by
              simp [written, own]) rest
          simp_all
        · obtain rfl := legible.eq_nil_of_further later' later here
            (show written e = (e.1.display.toList ++ '=' :: e'.2.toList) ++ x by
              simp [written, own]) rest
          simp_all
      rw [Prod.ext names (String.toList_inj.mp values.1), ih later later' values.2]

theorem Legible.bound_inj {b b' : Bindings} (mem : ∀ e ∈ b, e ∈ entries)
    (mem' : ∀ e ∈ b', e ∈ entries) (some_ : b ≠ []) (some_' : b' ≠ []) (same : bound b = bound b') :
    b = b' := by
  refine legible.further_inj mem mem' ?_
  obtain ⟨e, b, rfl⟩ := List.exists_cons_of_ne_nil some_
  obtain ⟨e', b', rfl⟩ := List.exists_cons_of_ne_nil some_'
  rw [← String.toList_inj, toList_bound, toList_bound] at same
  exact congrArg (',' :: ' ' :: ·) same

end Told

theorem template_ne_text (template : Scalar) (text : String) :
    template ≠ .text (template.display ++ " (" ++ text ++ ")") := by
  intro same
  have shown : template.display = template.display ++ " (" ++ text ++ ")" :=
    congrArg Scalar.display same
  have length := congrArg String.length shown
  have closing : ")".length = 1 := rfl
  simp only [String.length_append] at length
  omega

theorem Legible.bindings_eq {entries : List (Scalar × String)} (legible : Legible entries)
    {i j : Instance} (template : i.template = j.template)
    (mem : ∀ e ∈ i.bindings, e ∈ entries) (mem' : ∀ e ∈ j.bindings, e ∈ entries)
    (same : i.id = j.id) : i.bindings = j.bindings := by
  unfold id at same
  rw [template] at same
  split at same <;> split at same
  · next none_ none_' => rw [List.isEmpty_iff.mp none_, List.isEmpty_iff.mp none_']
  · exact absurd same (template_ne_text _ _)
  · exact absurd same.symm (template_ne_text _ _)
  · next some_ some_' =>
    rw [List.isEmpty_iff] at some_ some_'
    exact legible.bound_inj mem mem' some_ some_' (by simpa using same)

end Instance

namespace Template

variable {t : Template} {start : Int} {is : List Instance}

theorem expand_bindings (h : t.expand start = .ok is) {i : Instance} (mem : i ∈ is) :
    i.template = t.id ∧ (i.bindings = [] ∨ i.bindings ∈ t.bindings) := by
  obtain ⟨_, -, h⟩ := bind_eq_ok_iff.mp h
  split at h
  · obtain ⟨bs, combos, h⟩ := bind_eq_ok_iff.mp h
    obtain ⟨index, b, listed, made⟩ := bindAll_mem h mem
    obtain ⟨env, -, made⟩ := bind_eq_ok_iff.mp made
    obtain ⟨steps, -, made⟩ := bind_eq_ok_iff.mp made
    obtain ⟨name, -, made⟩ := bind_eq_ok_iff.mp made
    cases made
    exact ⟨rfl, .inr ((combinations_eq_ok_iff.mp combos).1 ▸ listed)⟩
  · cases h
    obtain rfl := List.mem_singleton.mp mem
    exact ⟨rfl, .inl rfl⟩

/-- A template with a job for each of the additions. -/
def ofAdditions (additions : List Bindings) : Template :=
  { id := .text "ci", steps := [{ command := .line "make" }], additions }

theorem exists_report_of_pair {i j : Instance} (expanded : t.expand 0 = .ok [i, j]) :
    ∃ s s' : JobSummary, s.Covers i ∧ s'.Covers j ∧
      Report.ofRun { jobs := [{ subject := i }, { subject := j }] } =
        .ok { overall := .success, jobs := [s, s'] } := by
  have numbered := (expand_ok expanded).2.1
  exact ⟨_, _, ⟨rfl, rfl, rfl, rfl, rfl⟩, ⟨rfl, rfl, rfl, rfl, rfl⟩,
    (Report.ofRun_numbered numbered rfl).trans rfl⟩

/-- In an expansion whose bindings are told apart where they are written, instances with different
bindings have different identities. So in the report of a run of the instances, the summary found by
the identity of an instance has its bindings. -/
theorem ids_identify (legible : Instance.Legible t.bindings.flatten)
    (expanded : t.expand start = .ok is) :
    (∀ i ∈ is, ∀ j ∈ is, i.bindings ≠ j.bindings → i.id ≠ j.id) ∧
    ∀ r report, (r.jobs.map JobResult.subject).Perm is → Report.ofRun r = .ok report →
      ∀ i ∈ is, ∃ s, report.job? i.id = some s ∧ s.bindings = i.bindings := by
  have bound (i : Instance) (mem : i ∈ is) : ∀ e ∈ i.bindings, e ∈ t.bindings.flatten := by
    rcases (expand_bindings expanded mem).2 with none_ | listed
    · simp [none_]
    · exact fun e mem => List.mem_flatten.mpr ⟨_, listed, mem⟩
  have told (i : Instance) (mem : i ∈ is) (j : Instance) (mem' : j ∈ is) (same : i.id = j.id) :
      i.bindings = j.bindings :=
    legible.bindings_eq ((expand_bindings expanded mem).1.trans (expand_bindings expanded mem').1.symm)
      (bound i mem) (bound j mem') same
  refine ⟨fun i mem j mem' => mt (told i mem j mem'), fun r report subjects reported i mem => ?_⟩
  obtain ⟨summaries, summed, made⟩ := bind_eq_ok_iff.mp reported
  cases made
  have sorted := List.mergeSort_perm r.jobs fun a b => a.subject.index ≤ b.subject.index
  obtain ⟨job, ran, rfl⟩ := List.mem_map.mp (subjects.mem_iff.mpr mem)
  obtain ⟨s, listed, own⟩ := mapM_ok_made summed (sorted.mem_iff.mpr ran)
  have some_ : (summaries.find? fun j => decide (j.id = job.subject.id)).isSome = true :=
    List.find?_isSome.mpr ⟨s, listed, decide_eq_true (JobSummary.covers_of_result own).id⟩
  obtain ⟨s', found⟩ := Option.isSome_iff_exists.mp some_
  obtain ⟨job', ran', own'⟩ := mapM_ok_mem summed (List.mem_of_find?_eq_some found)
  have covers := JobSummary.covers_of_result own'
  have same : s'.id = job.subject.id := by simpa using List.find?_some found
  have mem' := subjects.mem_iff.mp (List.mem_map_of_mem (sorted.mem_iff.mp ran'))
  exact ⟨s', found, covers.bindings.trans (told _ mem' _ mem (covers.id.symm.trans same))⟩

/-- A value in which another binding seems to begin is no harm where nothing of that name is bound. -/
theorem ids_identify_beside_commas :
    let t := ofAdditions [[(.text "a", "1, b=2")], [(.text "a", "1"), (.text "c", "2")]]
    ∃ i j report s, t.expand 0 = .ok [i, j] ∧ i.bindings ≠ j.bindings ∧ i.id ≠ j.id ∧
      Report.ofRun { jobs := [{ subject := i }, { subject := j }] } = .ok report ∧
      report.job? j.id = some s ∧ s.bindings = j.bindings := by
  intro t
  have known : (t.expand 0).toOption.map (·.map Instance.bindings) =
      some [[(.text "a", "1, b=2")], [(.text "a", "1"), (.text "c", "2")]] := by
    decide +kernel
  obtain ⟨is, expanded, known⟩ := Option.map_eq_some_iff.mp known
  obtain ⟨i, j, rfl⟩ := List.length_eq_two.mp (by simpa using congrArg List.length known)
  have expanded := toOption_eq_some_iff.mp expanded
  obtain ⟨first, second⟩ : i.bindings = _ ∧ j.bindings = _ := by simpa using known
  have different : i.bindings ≠ j.bindings := by simp [first, second]
  obtain ⟨_, _, -, -, reported⟩ := exists_report_of_pair expanded
  obtain ⟨apart, found⟩ := ids_identify (t := t)
    ⟨by decide +kernel, by decide +kernel, by decide +kernel⟩ expanded
  obtain ⟨s, found, own⟩ := found _ _ (.refl _) reported j (by simp)
  exact ⟨i, j, _, s, expanded, different, apart i (by simp) j (by simp) different, reported,
    found, own⟩

/-- Where a value holds what looks like another binding, two instances have one identity, by which a
report finds the wrong one. -/
theorem id_of_two_instances :
    let t := ofAdditions [[(.text "a", "1, b=2")], [(.text "a", "1"), (.text "b", "2")]]
    ∃ i j report s, t.expand 0 = .ok [i, j] ∧ i.bindings ≠ j.bindings ∧ i.id = j.id ∧
      Report.ofRun { jobs := [{ subject := i }, { subject := j }] } = .ok report ∧
      report.job? j.id = some s ∧ s.bindings ≠ j.bindings := by
  intro t
  have known : (t.expand 0).toOption.map (·.map fun i => (i.id, i.bindings)) =
      some [(.text "ci (a=1, b=2)", [(.text "a", "1, b=2")]),
        (.text "ci (a=1, b=2)", [(.text "a", "1"), (.text "b", "2")])] := by
    decide +kernel
  obtain ⟨is, expanded, known⟩ := Option.map_eq_some_iff.mp known
  obtain ⟨i, j, rfl⟩ := List.length_eq_two.mp (by simpa using congrArg List.length known)
  have expanded := toOption_eq_some_iff.mp expanded
  obtain ⟨⟨id, first⟩, id', second⟩ : (i.id = _ ∧ i.bindings = _) ∧ j.id = _ ∧ j.bindings = _ := by
    simpa using known
  obtain ⟨s, s', covers, -, reported⟩ := exists_report_of_pair expanded
  refine ⟨i, j, _, s, expanded, by simp [first, second], id.trans id'.symm, reported, ?_, ?_⟩
  · simp [Report.job?, covers.id, id, id']
  · simp [covers.bindings, first, second]

end Template

end JobMatrix
