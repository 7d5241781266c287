import JobMatrix.Run.Executor
import JobMatrix.Proofs.Declaration
import JobMatrix.Proofs.Expansion

/-! The environment of a step. Main statement: a variable is bound exactly when one of the layers
binds it, and has the value of the highest of these. The layers are, from the top, the variables of
the step, the overlays of the bound values of the axes from the last declared to the first, the
variables of the template, of the executor and of the pipeline, and the ambient ones. -/

namespace JobMatrix

namespace Template

/-- A template in which each collection of variables has one entry for each name. -/
structure Distinct (t : Template) : Prop where
  env : t.env.Distinct
  steps : ∀ s ∈ t.steps, s.env.Distinct
  overlays : ∀ a ∈ t.axes, ∀ o ∈ a.overlays, o.2.Distinct

/-- The overlays that go with bindings, that of the last axis first. An axis that is not bound has
none. -/
def overlays (t : Template) (b : Bindings) : List Env :=
  t.axes.reverse.filterMap fun a => (Dict.get? b a.name).map a.overlay

theorem instanceEnv_eq {t : Template} {b : Bindings} {env : Env} (h : t.instanceEnv b = .ok env) :
    ∃ base, bindEnv b t.env = .ok base ∧ env = (t.overlays b).reverse.foldl Dict.merge base := by
  obtain ⟨base, own, h⟩ := bind_eq_ok_iff.mp h
  cases h
  refine ⟨base, own, ?_⟩
  rw [overlays, List.filterMap_reverse, List.reverse_reverse, List.foldl_filterMap]
  congr
  funext env a
  cases Dict.get? b a.name <;> rfl

theorem Distinct.overlays_distinct {t : Template} (h : t.Distinct) (b : Bindings) :
    ∀ layer ∈ t.overlays b, layer.Distinct := by
  intro layer mem
  obtain ⟨a, declared, bound⟩ := List.mem_filterMap.mp mem
  obtain ⟨value, -, rfl⟩ := Option.map_eq_some_iff.mp bound
  unfold Axis.overlay
  cases found : Dict.get? a.overlays value with
  | none => exact List.nodup_nil
  | some o => exact h.overlays a (List.mem_reverse.mp declared) _ (Dict.mem_of_get? found)

end Template

/-! Whatever is declared has one entry for each name. -/

namespace Declaration

theorem envOf_distinct {v : Value} {env : Env} (h : envOf v = .ok env) : env.Distinct := by
  obtain ⟨given, -, h⟩ := bind_eq_ok_iff.mp h
  obtain ⟨entries, -, h⟩ := bind_eq_ok_iff.mp h
  cases h
  exact Dict.distinct_ofList entries

theorem optional_envOf_distinct {o : Option Value} {env : Env}
    (h : optional [] envOf o = .ok env) : env.Distinct := by
  rcases optional_ok h with rfl | ⟨v, -, given⟩
  · exact List.nodup_nil
  · exact envOf_distinct given

theorem overlaysOf_distinct {v : Value} {overlays : Dict String Env}
    (h : overlaysOf v = .ok overlays) : ∀ o ∈ overlays, o.2.Distinct := by
  obtain ⟨given, -, h⟩ := bind_eq_ok_iff.mp h
  obtain ⟨entries, each, h⟩ := bind_eq_ok_iff.mp h
  cases h
  intro o mem
  rcases Dict.mem_merge mem with none_ | ⟨e, mem', same⟩
  · cases none_
  · obtain ⟨source, -, read⟩ := mapM_ok_mem each mem'
    obtain ⟨text, -, read⟩ := bind_eq_ok_iff.mp read
    obtain ⟨env, given, read⟩ := bind_eq_ok_iff.mp read
    cases read
    exact same ▸ envOf_distinct given

theorem axisOf_distinct {job name : Scalar} {v : Value} {a : Axis}
    (h : axisOf job name v = .ok a) : ∀ o ∈ a.overlays, o.2.Distinct := by
  rcases axisOf_ok h with none_ | ⟨⟨w, given⟩, -⟩
  · simp [none_]
  · exact overlaysOf_distinct given

theorem jobOf_distinct {id : Scalar} {v : Value} {t : Template} (h : jobOf id v = .ok t) :
    t.Distinct := by
  obtain ⟨fields, -, -, axes, listed, given⟩ := jobOf_ok h
  refine ⟨optional_envOf_distinct given, fun s mem => ?_, fun a mem => ?_⟩
  · rcases optional_ok listed with none_ | ⟨w, -, listed⟩
    · simp [none_] at mem
    · obtain ⟨_, _, -, -, read⟩ := listOf_mem listed mem
      obtain ⟨_, _, -, -, -, own⟩ := stepOf_ok read
      exact optional_envOf_distinct own
  · obtain ⟨name, w, read⟩ := axes a mem
    exact axisOf_distinct read

theorem build_distinct {doc : Value} {p : Pipeline} (h : build doc = .ok p) :
    p.env.Distinct ∧ ∀ t ∈ p.templates, t.Distinct := by
  obtain ⟨entries, jobs, -, -, -, -, built, given⟩ := build_ok h
  refine ⟨optional_envOf_distinct given, fun t mem => ?_⟩
  obtain ⟨source, -, read⟩ := mapM_ok_mem built mem
  exact jobOf_distinct read

end Declaration

theorem bindEnv_distinct {b : Bindings} {env bound : Env} (h : bindEnv b env = .ok bound)
    (distinct : env.Distinct) : bound.Distinct := by
  unfold Dict.Distinct
  rw [bindEnv_keys h]
  exact distinct

namespace Executor

/-- The layers of variables of a step, the highest first: `own` are those of the step and `base`
those of the template, with their placeholders filled. -/
def layers (x : Executor) (defaults : Env) (t : Template) (b : Bindings) (base own : Env) :
    List Env :=
  own :: t.overlays b ++ [base, x.baseEnv, defaults, x.ambient]

theorem get?_contextFor {x : Executor} {defaults : Env} {t : Template} {i : Instance} {s : Step}
    {base : Env} (executor : x.baseEnv.Distinct) (pipeline : defaults.Distinct)
    (template : t.Distinct) (bound : bindEnv i.bindings t.env = .ok base)
    (env : i.env = (t.overlays i.bindings).reverse.foldl Dict.merge base)
    (step : s.env.Distinct) (k : String) :
    Dict.get? ((x.withDefaults defaults).contextFor i s).env k =
      (x.layers defaults t i.bindings base s.env).findSome? (Dict.get? · k) := by
  have inner : Dict.get? i.env k =
      ((t.overlays i.bindings).findSome? (Dict.get? · k)).or (Dict.get? base k) := by
    rw [env, Dict.get?_foldl_merge base (by simpa using template.overlays_distinct i.bindings),
      List.reverse_reverse]
  have distinct : i.env.Distinct := by
    rw [env]
    exact (bindEnv_distinct bound template.env).foldl_merge _
  have all : ∀ upper ∈ [Dict.merge defaults x.baseEnv, i.env, s.env], upper.Distinct := by
    simp [pipeline.merge x.baseEnv, distinct, step]
  calc
    _ = ([s.env, i.env, Dict.merge defaults x.baseEnv].findSome? (Dict.get? · k)).or
        (Dict.get? x.ambient k) := Dict.get?_foldl_merge x.ambient all k
    _ = _ := by
      simp only [layers, findSome?_cons_or, List.findSome?_nil, List.findSome?_append,
        List.cons_append, Option.or_none, Option.or_assoc, inner, Dict.get?_merge defaults executor]

/-- The environment of each step of each instance of an expansion. A variable is bound exactly when
a layer binds it, and then it has the value of the highest layer that does; and the executor for the
run differs from the given one in nothing but the variables that it adds under the executor's own.
-/
theorem environment_of_highest_layer {x : Executor} {defaults : Env} {t : Template} {start : Int}
    {instances : List Instance} {i : Instance} {n : Nat} {s : Step}
    (executor : x.baseEnv.Distinct) (pipeline : defaults.Distinct) (template : t.Distinct)
    (expanded : t.expand start = .ok instances) (mem : i ∈ instances)
    (at_ : i.steps[n]? = some s) :
    ∃ declared base own, t.steps[n]? = some declared ∧
      bindEnv i.bindings t.env = .ok base ∧ bindEnv i.bindings declared.env = .ok own ∧
      (∀ k, Dict.contains ((x.withDefaults defaults).contextFor i s).env k = true ↔
        ∃ layer ∈ x.layers defaults t i.bindings base own, Dict.contains layer k = true) ∧
      (∀ k v above layer below,
        x.layers defaults t i.bindings base own = above ++ layer :: below →
        (∀ upper ∈ above, Dict.get? upper k = none) → Dict.get? layer k = some v →
        Dict.get? ((x.withDefaults defaults).contextFor i s).env k = some v) ∧
      { x.withDefaults defaults with baseEnv := x.baseEnv } = x := by
  obtain ⟨whole, each⟩ := Template.expand_bound expanded mem
  obtain ⟨base, bound, env⟩ := Template.instanceEnv_eq whole
  obtain ⟨declared, at_', own⟩ := each n s at_
  have distinct := bindEnv_distinct own (template.steps declared (List.mem_of_getElem? at_'))
  have lookup := get?_contextFor executor pipeline template bound env distinct
  refine ⟨declared, base, s.env, at_', bound, own, fun k => ?_, ?_, rfl⟩
  · rw [Dict.contains, lookup]
    exact List.findSome?_isSome_iff
  · intro k v above layer below split_ lacking given
    rw [lookup, split_, List.findSome?_append, List.findSome?_eq_none_iff.mpr lacking,
      findSome?_cons_or, given]
    rfl

/-- In a declared pipeline, a variable that two axes, the template and the executor bind has the
value of the axis that is declared last. -/
theorem environment_of_declared_axes :
    let os : Value := .object [("values", .list [.text "a"]),
      ("env", .object [("a", .object [("S", .text "os"), ("P", .text "os")])])]
    let py : Value := .object [("values", .list [.text "b", .text "c"]),
      ("env", .object [("b", .object [("P", .text "py")]), ("c", .object [("P", .text "none")])])]
    let step : Value := .object [("run", .text "make"),
      ("env", .object [("S", .text "$\x7b\x7b matrix.py \x7d\x7d")])]
    let doc : Value := .object [("env", .object [("D", .text "pipeline")]),
      ("jobs", .object [("job", .object [("env", .object [("P", .text "template")]),
        ("matrix", .object [("os", os), ("py", py)]), ("steps", .list [step])])])]
    let x : Executor := { baseEnv := [("P", "executor"), ("B", "executor")] }
    ∃ p t instances i s, Declaration.build doc = .ok p ∧ t ∈ p.templates ∧
      t.expand 0 = .ok instances ∧ i ∈ instances ∧ i.steps[0]? = some s ∧
      Dict.get? ((x.withDefaults p.env).contextFor i s).env "P" = some "py" ∧
      Dict.contains ((x.withDefaults p.env).contextFor i s).env "D" = true := by
  intro os py step doc x
  have known : ((Declaration.build doc).toOption.bind fun p => p.templates[0]?.bind fun t =>
      (t.expand 0).toOption.bind fun is => is[0]?.map fun i =>
        (p.env, t.overlays i.bindings, t.steps.map fun s => Dict.keys s.env, i.steps.length)) =
      some ([("D", "pipeline")], [[("P", "py")], [("S", "os"), ("P", "os")]], [["S"]], 1) := by
    decide +kernel
  obtain ⟨p, built, known⟩ := Option.bind_eq_some_iff.mp known
  obtain ⟨t, declared, known⟩ := Option.bind_eq_some_iff.mp known
  obtain ⟨instances, expanded, known⟩ := Option.bind_eq_some_iff.mp known
  obtain ⟨i, found, known⟩ := Option.map_eq_some_iff.mp known
  simp only [Prod.mk.injEq] at known
  obtain ⟨env, overlays, names, length⟩ := known
  have built' := toOption_eq_some_iff.mp built
  have expanded' := toOption_eq_some_iff.mp expanded
  have mem := List.mem_of_getElem? found
  have at_ : i.steps[0]? = some i.steps[0] := List.getElem?_eq_getElem (by omega)
  obtain ⟨pipeline, templates⟩ := Declaration.build_distinct built'
  obtain ⟨s, base, own, at_', -, bound, binds, highest, -⟩ := environment_of_highest_layer (x := x)
    (by decide) pipeline (templates t (List.mem_of_getElem? declared)) expanded' mem at_
  have lacking : Dict.get? own "P" = none := by
    have keys := congrArg (·[0]?) names
    simp only [List.getElem?_map, at_', Option.map_some] at keys
    rw [Dict.get?_eq_none_iff, bindEnv_keys bound, Option.some.inj keys]
    decide
  refine ⟨p, t, instances, i, _, built', List.mem_of_getElem? declared, expanded', mem, at_, ?_, ?_⟩
  · exact highest "P" "py" [own] [("P", "py")] _ (by rw [layers, overlays]; rfl)
      (by simpa using lacking) rfl
  · exact (binds "D").mpr ⟨p.env, by simp [layers], by rw [env]; rfl⟩

end Executor

end JobMatrix
