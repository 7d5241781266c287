import JobMatrix.Proofs.Expansion
import JobMatrix.Run.Executor

/-! Templates without a matrix. Their expansion fills no placeholder. Main statement: it makes the
instance that the general expansion makes for the empty combination, and the steps of both run in
the same contexts. -/

namespace JobMatrix

open Placeholder (referenced)

/-- The step, with none in place of an empty directory. -/
def Step.settled (s : Step) : Step :=
  { s with directory := if s.directory = some "" then none else s.directory }

theorem Step.filter_directory (s : Step) :
    s.directory.filter (!·.isEmpty) = s.settled.directory := by
  unfold Step.settled
  cases s.directory with
  | none => rfl
  | some d => by_cases empty : d = "" <;> simp [Option.filter, empty]

theorem Step.bind_plain {s : Step} (plain : ∀ text ∈ s.texts, referenced text = [])
    (b : Bindings) : s.bind b = .ok s.settled := by
  rw [Step.texts, Step.filter_directory] at plain
  simp only [List.mem_append, or_imp, forall_and] at plain
  obtain ⟨⟨⟨command, name⟩, directory⟩, env⟩ := plain
  have located : s.settled.directory.mapM (substitute · b) = .ok s.settled.directory := by
    cases given : s.settled.directory with
    | none => rfl
    | some d =>
      have same := substitute_plain (directory d (by simp [given])) b
      simp [same]
  unfold Step.bind
  rw [Step.filter_directory, located, substitute_plain (name _ (by simp)), bindEnv_plain env]
  unfold Step.settled
  cases run : s.command with
  | line text =>
    have same := substitute_plain (command text (by simp [run, Command.texts])) b
    simp only [same]
    rfl
  | argv words =>
    have same : words.mapM (substitute · b) = .ok words := by
      refine mapM_eq_ok_iff.mpr (List.map_congr_left fun word mem => ?_)
      exact substitute_plain (command word (by simpa [run, Command.texts] using mem)) b
    simp only [same]
    rfl

theorem Executor.contextFor_settled (x : Executor) {i i' : Instance} (env : i.env = i'.env)
    (s : Step) : x.contextFor i s = x.contextFor i' s.settled := by
  unfold Executor.contextFor Step.settled
  rw [env]
  cases s.directory with
  | none => rfl
  | some d => by_cases empty : d = "" <;> simp [empty]

namespace Template

/-- The template with the empty combination for its only addition. -/
def withEmptyCombination (t : Template) : Template := { t with additions := [[]] }

variable {t : Template}

theorem bindings_withEmptyCombination (axes : t.axes = []) :
    t.withEmptyCombination.bindings = [[]] := by
  simp [withEmptyCombination, bindings, axes, add]

theorem validate_withEmptyCombination (additions : t.additions = []) (valid : t.validate = .ok ()) :
    t.withEmptyCombination.validate = .ok () := by
  rw [validate_eq_ok_iff] at valid ⊢
  have known : t.withEmptyCombination.known = t.known := by
    simp [known, withEmptyCombination, additions, axisNames, Dict.keys]
  simp only [missing?, known] at valid ⊢
  exact valid

theorem bind_plain (axes : t.axes = []) (plain : ∀ text ∈ t.texts, referenced text = [])
    (start : Int) : t.withEmptyCombination.bind start [] =
      .ok { template := t.id, index := start, bindings := [], env := t.env, name := t.name,
            steps := t.steps.map Step.settled } := by
  simp only [texts, List.mem_append, or_imp, forall_and, List.mem_flatMap] at plain
  obtain ⟨⟨steps, name⟩, env⟩ := plain
  have named := substitute_plain (name t.name (by simp)) []
  have bound : t.steps.mapM (Step.bind []) = .ok (t.steps.map Step.settled) := by
    rw [mapM_eq_ok_iff, List.map_map]
    exact List.map_congr_left fun s mem => Step.bind_plain (fun text h => steps text ⟨s, mem, h⟩) []
  have nameless : t.withEmptyCombination.instanceName [] = .ok t.name := by
    simp only [instanceName, withEmptyCombination, List.isEmpty_nil, Bool.or_true, if_true, named]
    split
    · next empty => rw [String.isEmpty_iff.mp empty]
    · rfl
  have own : t.withEmptyCombination.instanceEnv [] = .ok t.env := by
    unfold instanceEnv
    rw [show t.withEmptyCombination.env = t.env from rfl, bindEnv_plain env,
      show t.withEmptyCombination.axes = [] from axes]
    rfl
  unfold Template.bind
  rw [own, show t.withEmptyCombination.steps = t.steps from rfl, bound, nameless]
  rfl

/-- Without axes and additions, a template that is accepted has one instance, with its own steps,
variables and name. With the empty combination as an addition it has the same one, but for the empty
directories of its steps. Both lead to the same contexts. -/
theorem expand_eq_general (axes : t.axes = []) (additions : t.additions = [])
    (valid : t.validate = .ok ()) (start : Int) :
    ∃ i, t.expand start = .ok [i] ∧
      i = { template := t.id, index := start, bindings := [], steps := t.steps, env := t.env,
            name := t.name } ∧
      t.withEmptyCombination.expand start = .ok [{ i with steps := i.steps.map Step.settled }] ∧
      ∀ x : Executor, i.steps.map (x.contextFor i) =
        (i.steps.map Step.settled).map
          (x.contextFor { i with steps := i.steps.map Step.settled }) := by
  have none_ : t.known = [] := by simp [known, axisNames, axes, additions]
  have bound := bind_plain axes (fun text mem => validate_plain valid none_ mem) start
  refine ⟨_, ?_, rfl, ?_, fun x => ?_⟩
  · have matrix : t.hasMatrix = false := by simp [hasMatrix, axes, additions]
    rw [expand, valid, matrix]
    rfl
  · have combos : t.withEmptyCombination.combinations = .ok [[]] := by
      simp [combinations, bindings_withEmptyCombination axes]
    have matrix : t.withEmptyCombination.hasMatrix = true := by
      simp [hasMatrix, withEmptyCombination]
    rw [expand, validate_withEmptyCombination additions valid, matrix, combos]
    change t.withEmptyCombination.bindAll start [[]] = _
    rw [bindAll, bound]
    rfl
  · rw [List.map_map]
    exact List.map_congr_left fun s _ => x.contextFor_settled rfl s

/-- A step with an empty directory has none on the general path, and runs in the same place. -/
theorem expand_eq_general_of_empty_directory :
    let step : Step := { command := .line "make", directory := some "" }
    let t : Template := { id := .text "ci", steps := [step], name := "CI", exclusions := [[]] }
    ∃ i, t.expand 3 = .ok [i] ∧ i.index = 3 ∧ i.steps = [step] ∧
      t.withEmptyCombination.expand 3 = .ok [{ i with steps := [{ step with directory := none }] }] ∧
      ∀ x : Executor, x.contextFor i step =
        x.contextFor { i with steps := [{ step with directory := none }] }
          { step with directory := none } := by
  intro step t
  have valid : t.validate = .ok () := toOption_eq_some_iff.mp (by decide +kernel)
  obtain ⟨i, short, rfl, general, contexts⟩ := expand_eq_general (t := t) rfl rfl valid 3
  exact ⟨_, short, rfl, rfl, general, fun x => List.head_eq_of_cons_eq (contexts x)⟩

end Template

end JobMatrix
