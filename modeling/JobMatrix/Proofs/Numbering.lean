import JobMatrix.Proofs.Expansion

/-! The numbers of instances. The instances of a list of templates are those of one template after
another, numbered through. -/

namespace JobMatrix

/-- An instance whose index is greater by `n`. -/
def Instance.shift (n : Int) (i : Instance) : Instance := { i with index := i.index + n }

theorem Numbered.nodup {start : Int} {is : List Instance} (h : Numbered start is) :
    (is.map Instance.index).Nodup := by
  refine List.pairwise_iff_getElem.mpr fun a b ha hb before same => ?_
  simp only [List.length_map, List.getElem_map] at ha hb same
  have first := h a is[a] (List.getElem?_eq_getElem ha)
  have second := h b is[b] (List.getElem?_eq_getElem hb)
  omega

theorem map_bind {α β γ ε : Type} (x : Except ε α) (f : α → Except ε β) (g : β → γ) :
    (x >>= f).map g = x >>= fun a => (f a).map g := by
  cases x <;> rfl

theorem bind_map {α β γ ε : Type} (x : Except ε α) (g : α → β) (f : β → Except ε γ) :
    x.map g >>= f = x >>= fun a => f (g a) := by
  cases x <;> rfl

namespace Template

variable (t : Template) (start n : Int)

theorem bind_shift (b : Bindings) :
    t.bind (start + n) b = (t.bind start b).map (Instance.shift n) := by
  simp only [bind, map_bind]
  rfl

theorem bindAll_shift (bs : List Bindings) :
    t.bindAll (start + n) bs = (t.bindAll start bs).map (List.map (Instance.shift n)) := by
  induction bs generalizing start with
  | nil => rfl
  | cons b bs ih =>
    have next : start + n + 1 = start + 1 + n := by omega
    simp only [bindAll, next, bind_shift, ih, map_bind, bind_map]
    rfl

theorem expand_shift :
    t.expand (start + n) = (t.expand start).map (List.map (Instance.shift n)) := by
  simp only [expand, map_bind]
  congr 1
  funext _
  split
  · simp only [bindAll_shift, map_bind]
  · rfl

theorem expandFrom_shift (ts : List Template) :
    expandFrom (start + n) ts = (expandFrom start ts).map (List.map (Instance.shift n)) := by
  induction ts generalizing start with
  | nil => rfl
  | cons t ts ih =>
    simp only [expandFrom, expand_shift, map_bind, bind_map, List.length_map]
    congr 1
    funext is
    have next : start + n + is.length = start + is.length + n := by omega
    rw [next, ih, bind_map]
    simp only [← List.map_append]
    rfl

theorem expandFrom_append (ts us : List Template) :
    expandFrom start (ts ++ us) = (do
      let is ← expandFrom start ts
      let js ← expandFrom (start + is.length) us
      return is ++ js) := by
  induction ts generalizing start with
  | nil =>
    change expandFrom start us = expandFrom (start + 0) us >>= pure
    rw [Int.add_zero, bind_pure]
  | cons t ts ih =>
    simp only [List.cons_append, expandFrom, ih, bind_assoc, pure_bind, List.length_append,
      List.append_assoc, Int.natCast_add, ← Int.add_assoc]

/-- The instances of two lists of templates are those of the first, and after them those of the
second with greater indices. -/
theorem expandAll_append (ts us : List Template) :
    expandAll (ts ++ us) = (do
      let is ← expandAll ts
      let js ← expandAll us
      return is ++ js.map (.shift is.length)) := by
  unfold expandAll
  rw [expandFrom_append]
  congr 1
  funext is
  rw [expandFrom_shift, bind_map]

/-- The instances, each with the index of its place. -/
def placed (is : List Instance) : List Instance :=
  is.mapIdx fun k i => { i with index := k }

theorem placed_append (is js : List Instance) :
    placed (is ++ js) = placed is ++ (placed js).map (.shift is.length) := by
  rw [placed, List.mapIdx_append]
  congr 1
  refine List.ext_getElem? fun k => ?_
  simp [placed, Instance.shift, Function.comp_def]

theorem placed_of_numbered {is : List Instance} (h : Numbered 0 is) : placed is = is := by
  refine List.ext_getElem? fun k => ?_
  rw [placed, List.getElem?_mapIdx]
  cases at_ : is[k]? with
  | none => rfl
  | some i =>
    have index := h k i at_
    simp only [Option.map_some, Option.some.injEq]
    rw [Int.zero_add] at index
    rw [← index]

theorem expandFrom_eq (ts : List Template) :
    expandFrom start ts = (ts.mapM fun t : Template => t.expand).map fun parts =>
      (placed parts.flatten).map (.shift start) := by
  induction ts generalizing start with
  | nil => rfl
  | cons t ts ih =>
    have own := t.expand_shift 0 start
    rw [Int.zero_add] at own
    rw [expandFrom, own, List.mapM_cons]
    cases expanded : t.expand with
    | error e => rfl
    | ok is =>
      have numbered := (expand_ok expanded).2.1
      change expandFrom (start + (is.map (Instance.shift start)).length) ts >>= _ = _
      rw [List.length_map, ih, bind_map]
      cases ts.mapM fun t : Template => t.expand with
      | error e => rfl
      | ok parts =>
        have further : Instance.shift start ∘ Instance.shift is.length =
            Instance.shift (start + is.length) := by
          funext i
          simp only [Instance.shift, Function.comp_apply]
          congr 1
          omega
        change Except.ok (is.map (Instance.shift start) ++ _) =
          Except.ok ((placed (is ++ parts.flatten)).map _)
        rw [placed_append, placed_of_numbered numbered, List.map_append, List.map_map, further]

/-- The instances of a list of templates: those of each, one after another, with the indices of
their places. -/
theorem expandAll_eq (ts : List Template) :
    expandAll ts = (ts.mapM fun t : Template => t.expand).map fun parts =>
      placed parts.flatten := by
  have none_ : Instance.shift 0 = fun i => i := by
    funext i
    simp [Instance.shift]
  rw [expandAll, expandFrom_eq, none_]
  simp only [List.map_id']

theorem expandAll_error_iff {ts : List Template} :
    (∃ e, expandAll ts = .error e) ↔ ∃ t ∈ ts, ∃ e, t.expand = .error e := by
  rw [expandAll_eq, ← mapM_error_iff]
  cases ts.mapM fun t : Template => t.expand <;> simp [Except.map]

end Template

end JobMatrix
