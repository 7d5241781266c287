import JobMatrix.Matrix
import JobMatrix.Proofs.Dict

/-! The expansion of templates: the instances are numbered through from the start, every template
has at least one, and every instance has at least one step. The variables of an instance and of its
steps are those of the template with the placeholders filled, also where there is no matrix, since
then there are no placeholders. -/

namespace JobMatrix

namespace Placeholder

theorem fill_plain (lookup : String → Option String) {s : List Char}
    (plain : ∀ axis, .reference axis ∉ pieces s) : fill lookup (pieces s) = .ok s := by
  fun_induction pieces s with
  | case1 s name rest leads ih => exact absurd List.mem_cons_self (plain name)
  | case2 => rfl
  | case3 c r leads ih =>
    have rest := ih fun axis mem => plain axis (List.mem_cons_of_mem _ mem)
    simp [fill, rest, Except.map]

theorem referenced_of_reference {text axis : String} (h : .reference axis ∈ pieces text.toList) :
    axis ∈ referenced text := by
  have mem : axis ∈ references text := List.mem_filterMap.mpr ⟨_, h, rfl⟩
  simpa [referenced] using mem

end Placeholder

theorem substitute_plain {text : String} (plain : Placeholder.referenced text = [])
    (b : Bindings) : substitute text b = .ok text := by
  have filled := Placeholder.fill_plain (fun axis => Dict.get? b (.text axis)) (s := text.toList)
    fun axis mem => by simpa [plain] using Placeholder.referenced_of_reference mem
  simp [substitute, filled]

theorem bindEnv_plain {env : Env}
    (plain : ∀ text ∈ Dict.values env, Placeholder.referenced text = []) (b : Bindings) :
    bindEnv b env = .ok env := by
  refine mapM_eq_ok_iff.mpr (List.map_congr_left fun e mem => ?_)
  have same := substitute_plain (plain e.2 (List.mem_map.mpr ⟨e, mem, rfl⟩)) b
  simp [same, bind, Except.bind, pure, Except.pure]

theorem bindEnv_keys {b : Bindings} {env bound : Env} (h : bindEnv b env = .ok bound) :
    Dict.keys bound = Dict.keys env :=
  keys_of_mapM_ok (fun e e' filled => by
    obtain ⟨_, -, filled⟩ := bind_eq_ok_iff.mp filled
    cases filled
    rfl) h

/-- Instances whose indices count up from `start`. -/
def Numbered (start : Int) (is : List Instance) : Prop :=
  ∀ (k : Nat) (i : Instance), is[k]? = some i → i.index = start + k

theorem Numbered.cons {start : Int} {i : Instance} {is : List Instance} (first : i.index = start)
    (rest : Numbered (start + 1) is) : Numbered start (i :: is) := by
  intro k j at_
  cases k with
  | zero =>
    cases at_
    simp [first]
  | succ k =>
    have := rest k j at_
    push_cast
    omega

theorem Numbered.append {start : Int} {is js : List Instance} (h : Numbered start is)
    (k : Numbered (start + is.length) js) : Numbered start (is ++ js) := by
  intro n i at_
  by_cases inside : n < is.length
  · rw [List.getElem?_append_left inside] at at_
    exact h n i at_
  · rw [List.getElem?_append_right (by omega)] at at_
    have := k _ i at_
    omega

theorem Step.bind_env {b : Bindings} {s s' : Step} (h : s.bind b = .ok s') :
    bindEnv b s.env = .ok s'.env := by
  unfold Step.bind at h
  dsimp only at h
  split at h <;>
  · obtain ⟨command, -, h⟩ := bind_eq_ok_iff.mp h
    obtain ⟨name, -, h⟩ := bind_eq_ok_iff.mp h
    obtain ⟨directory, -, h⟩ := bind_eq_ok_iff.mp h
    obtain ⟨env, bound, h⟩ := bind_eq_ok_iff.mp h
    cases h
    exact bound

namespace Template

variable {t : Template} {i : Instance} {start : Int} {is : List Instance}

theorem validate_eq_ok_iff :
    t.validate = .ok () ↔ t.steps ≠ [] ∧ repeats t.axisNames = false ∧
      (∀ a ∈ t.axes, a.values ≠ []) ∧ (∀ e ∈ t.exclusions, t.undeclared e = []) ∧
      ∀ text ∈ t.texts, t.missing? text = none := by
  unfold validate
  split
  · next none_ => simp_all
  · next some_ =>
    have steps : t.steps ≠ [] := by simpa using some_
    split
    · simp_all
    · next once =>
      split
      · next a found =>
        have empty := List.find?_some found
        simp only [reduceCtorEq, false_iff]
        rintro ⟨-, -, values, -⟩
        exact values a (List.mem_of_find?_eq_some found) (by simpa using empty)
      · next full =>
        split
        · next e found =>
          have stray := List.find?_some found
          simp only [reduceCtorEq, false_iff]
          rintro ⟨-, -, -, declared, -⟩
          simp [declared e (List.mem_of_find?_eq_some found)] at stray
        · next declared =>
          split
          · next axis found =>
            obtain ⟨text, mem, missing⟩ := List.exists_of_findSome?_eq_some found
            simp only [reduceCtorEq, false_iff]
            rintro ⟨-, -, -, -, known⟩
            simp [known text mem] at missing
          · next known =>
            simp only [true_iff]
            exact ⟨steps, by simpa using once, by simpa using full, by simpa using declared,
              List.findSome?_eq_none_iff.mp known⟩

theorem bind_ok {index : Int} {b : Bindings} (h : t.bind index b = .ok i) :
    i.index = index ∧ i.steps.length = t.steps.length := by
  obtain ⟨env, -, h⟩ := bind_eq_ok_iff.mp h
  obtain ⟨steps, bound, h⟩ := bind_eq_ok_iff.mp h
  obtain ⟨name, -, h⟩ := bind_eq_ok_iff.mp h
  cases h
  refine ⟨rfl, ?_⟩
  simpa using (congrArg List.length (mapM_eq_ok_iff.mp bound)).symm

theorem bindAll_ok {bs : List Bindings} (h : t.bindAll start bs = .ok is) :
    is.length = bs.length ∧ Numbered start is ∧ ∀ i ∈ is, i.steps.length = t.steps.length := by
  induction bs generalizing start is with
  | nil =>
    cases h
    simp [Numbered]
  | cons b bs ih =>
    obtain ⟨i, bound, h⟩ := bind_eq_ok_iff.mp h
    obtain ⟨rest, others, h⟩ := bind_eq_ok_iff.mp h
    cases h
    obtain ⟨index, steps⟩ := bind_ok bound
    obtain ⟨length, numbered, all⟩ := ih others
    exact ⟨by simp [length], numbered.cons index, List.forall_mem_cons.mpr ⟨steps, all⟩⟩

theorem bindAll_mem {bs : List Bindings} (h : t.bindAll start bs = .ok is) (mem : i ∈ is) :
    ∃ index, ∃ b ∈ bs, t.bind index b = .ok i := by
  induction bs generalizing start is with
  | nil =>
    cases h
    cases mem
  | cons b bs ih =>
    obtain ⟨first, bound, h⟩ := bind_eq_ok_iff.mp h
    obtain ⟨rest, others, h⟩ := bind_eq_ok_iff.mp h
    cases h
    rcases List.mem_cons.mp mem with rfl | later
    · exact ⟨start, b, List.mem_cons_self, bound⟩
    · obtain ⟨index, b', mem', bound'⟩ := ih others later
      exact ⟨index, b', List.mem_cons_of_mem _ mem', bound'⟩

/-- The variables of an instance are those of its template under its bindings, and so are those of
its steps. -/
def Bound (t : Template) (i : Instance) : Prop :=
  t.instanceEnv i.bindings = .ok i.env ∧
    ∀ (n : Nat) (s : Step), i.steps[n]? = some s →
      ∃ declared, t.steps[n]? = some declared ∧ bindEnv i.bindings declared.env = .ok s.env

theorem bind_bound {index : Int} {b : Bindings} (h : t.bind index b = .ok i) : t.Bound i := by
  obtain ⟨env, own, h⟩ := bind_eq_ok_iff.mp h
  obtain ⟨steps, each, h⟩ := bind_eq_ok_iff.mp h
  obtain ⟨name, -, h⟩ := bind_eq_ok_iff.mp h
  cases h
  refine ⟨own, fun n s at_ => ?_⟩
  obtain ⟨declared, at_', filled⟩ := mapM_ok_getElem? each at_
  exact ⟨declared, at_', Step.bind_env filled⟩

theorem validate_plain (h : t.validate = .ok ()) (none_ : t.known = []) {text : String}
    (mem : text ∈ t.texts) : Placeholder.referenced text = [] := by
  have unknown := (validate_eq_ok_iff.mp h).2.2.2.2 text mem
  simpa [missing?, none_, List.eq_nil_iff_forall_not_mem] using unknown

theorem expand_bound (h : t.expand start = .ok is) (mem : i ∈ is) : t.Bound i := by
  obtain ⟨_, valid, h⟩ := bind_eq_ok_iff.mp h
  split at h
  · obtain ⟨bs, -, h⟩ := bind_eq_ok_iff.mp h
    obtain ⟨index, b, -, bound⟩ := bindAll_mem h mem
    exact bind_bound bound
  · next plain =>
    obtain ⟨axes, additions⟩ : t.axes = [] ∧ t.additions = [] := by simpa [hasMatrix] using plain
    have known : t.known = [] := by simp [Template.known, axisNames, axes, additions]
    cases h
    obtain rfl := List.mem_singleton.mp mem
    refine ⟨?_, fun n s at_ => ⟨s, at_, ?_⟩⟩
    · have own : bindEnv [] t.env = .ok t.env := bindEnv_plain (fun text mem =>
        validate_plain valid known (by simp [texts, mem])) []
      exact bind_eq_ok_iff.mpr ⟨t.env, own, by rw [axes]; rfl⟩
    · refine bindEnv_plain (fun text mem => validate_plain valid known ?_) []
      refine List.mem_append_left _ (List.mem_append_left _ (List.mem_flatMap.mpr ⟨s, ?_, ?_⟩))
      · exact List.mem_of_getElem? at_
      · simp [Step.texts, mem]

theorem expand_ok (h : t.expand start = .ok is) :
    is ≠ [] ∧ Numbered start is ∧ ∀ i ∈ is, i.steps ≠ [] := by
  obtain ⟨_, valid, h⟩ := bind_eq_ok_iff.mp h
  have steps := (validate_eq_ok_iff.mp valid).1
  split at h
  · obtain ⟨bs, combos, h⟩ := bind_eq_ok_iff.mp h
    obtain ⟨length, numbered, all⟩ := bindAll_ok h
    have some_ : bs ≠ [] := by
      unfold combinations at combos
      split at combos
      · cases combos
      · next more =>
        cases combos
        simpa using more
    refine ⟨fun none_ => some_ ?_, numbered, fun i mem none_ => steps ?_⟩
    · exact List.length_eq_zero_iff.mp (length ▸ by simp [none_])
    · exact List.length_eq_zero_iff.mp (all i mem ▸ by simp [none_])
  · cases h
    refine ⟨by simp, .cons rfl (by simp [Numbered]), by simpa using steps⟩

theorem expandFrom_ok {ts : List Template} (h : expandFrom start ts = .ok is) :
    (ts ≠ [] → is ≠ []) ∧ Numbered start is ∧ ∀ i ∈ is, i.steps ≠ [] := by
  induction ts generalizing start is with
  | nil =>
    cases h
    simp [Numbered]
  | cons t ts ih =>
    obtain ⟨first, expanded, h⟩ := bind_eq_ok_iff.mp h
    obtain ⟨rest, others, h⟩ := bind_eq_ok_iff.mp h
    cases h
    obtain ⟨some_, numbered, steps⟩ := expand_ok expanded
    obtain ⟨-, numbered', steps'⟩ := ih others
    exact ⟨fun _ => by simp [some_], numbered.append numbered',
      List.forall_mem_append.mpr ⟨steps, steps'⟩⟩

end Template

end JobMatrix
