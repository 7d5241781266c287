import JobMatrix.Proofs.Additions
import Mathlib.Algebra.BigOperators.Group.List.Basic

/-! The order of the combinations of axes. A choice gives the position of a value for each axis, and
the product goes through the choices in lexicographic order. Main statement: without additions the
combinations are those of all choices in this order, less the ones that an exclusion takes out, and
without exclusions the place of a choice is the number that its positions are the digits of. -/

namespace JobMatrix

namespace Template

/-- The position of one value for each axis. -/
def IsChoice (axes : List Axis) (choice : List Nat) : Prop :=
  List.Forall₂ (fun a i => i < a.values.length) axes choice

/-- The names of the axes bound to the chosen values. -/
def chosen (axes : List Axis) (choice : List Nat) : Bindings :=
  List.zipWith (fun a i => (a.name, a.values.getD i "")) axes choice

/-- The number of choices. -/
def extent (axes : List Axis) : Nat := (axes.map fun a => a.values.length).prod

/-- The number whose digits are the positions, the digit of an axis being below the number of its
values. -/
def rank (axes : List Axis) (choice : List Nat) : Nat :=
  (axes.zip choice).foldl (fun n p => n * p.1.values.length + p.2) 0

/-- Bindings that agree with an exclusion on all of its keys. -/
def Excluded (t : Template) (b : Bindings) : Prop :=
  ∃ e ∈ t.exclusions, ∀ p ∈ e, Dict.get? b p.1 = some p.2

instance (t : Template) (b : Bindings) : Decidable (t.Excluded b) :=
  inferInstanceAs (Decidable (∃ e ∈ t.exclusions, ∀ p ∈ e, Dict.get? b p.1 = some p.2))

/-- All choices in order. -/
def choices : List Axis → List (List Nat)
  | [] => [[]]
  | a :: rest => (List.range a.values.length).flatMap fun i => (choices rest).map (i :: ·)

theorem product_eq (axes : List Axis) : product axes = (choices axes).map (chosen axes) := by
  induction axes with
  | nil => rfl
  | cons a rest ih =>
    have values : a.values = (List.range a.values.length).map (a.values.getD · "") :=
      List.ext_getElem (by simp) fun i _ inside => by simp_all
    rw [product, choices, List.map_flatMap, ih]
    conv_lhs => rw [values, List.flatMap_map]
    simp only [List.map_map]
    rfl

theorem mem_choices {axes : List Axis} {choice : List Nat} :
    choice ∈ choices axes ↔ IsChoice axes choice := by
  induction axes generalizing choice with
  | nil => simp [choices, IsChoice]
  | cons a rest ih =>
    cases choice with
    | nil => simp [choices, IsChoice]
    | cons i choice =>
      rw [IsChoice, List.forall₂_cons, ← IsChoice, ← ih]
      simp [choices]

/-- The choices stand in lexicographic order: those that agree on the first axis by the rest of
them, the others by the first axis. -/
theorem pairwise_choices (axes : List Axis) : (choices axes).Pairwise (· < ·) := by
  induction axes with
  | nil => simp [choices]
  | cons a rest ih =>
    refine List.pairwise_flatMap.mpr
      ⟨fun i _ => ?_, List.pairwise_lt_range.imp fun {i j} less => ?_⟩
    · exact List.pairwise_map.mpr (ih.imp fun less => List.cons_lt_cons_iff.mpr (.inr ⟨rfl, less⟩))
    · intro c mem d mem'
      obtain ⟨c, -, rfl⟩ := List.mem_map.mp mem
      obtain ⟨d, -, rfl⟩ := List.mem_map.mp mem'
      exact List.cons_lt_cons_iff.mpr (.inl less)

theorem length_choices (axes : List Axis) : (choices axes).length = extent axes := by
  induction axes with
  | nil => rfl
  | cons a rest ih => simp [choices, extent, List.length_flatMap, ih]

theorem getElem?_flatMap {α β : Type} {f : α → List β} {m : Nat} (length : ∀ a, (f a).length = m)
    {xs : List α} {i j : Nat} (inside : j < m) :
    (xs.flatMap f)[i * m + j]? = xs[i]?.bind fun a => (f a)[j]? := by
  induction xs generalizing i with
  | nil => simp
  | cons a rest ih =>
    rw [List.flatMap_cons]
    cases i with
    | zero => rw [List.getElem?_append_left (by simpa [length a] using inside)]; simp
    | succ i =>
      have behind : (f a).length ≤ (i + 1) * m + j := by rw [length, Nat.succ_mul]; omega
      have index : (i + 1) * m + j - (f a).length = i * m + j := by
        rw [length, Nat.succ_mul]
        omega
      rw [List.getElem?_append_right behind, index, ih]
      rfl

theorem foldl_rank {axes : List Axis} {choice : List Nat} (h : IsChoice axes choice) (n : Nat) :
    (axes.zip choice).foldl (fun n p => n * p.1.values.length + p.2) n =
      n * extent axes + rank axes choice := by
  induction h generalizing n with
  | nil => simp [extent, rank]
  | @cons a i axes choice _ _ ih =>
    have digits : extent (a :: axes) = a.values.length * extent axes := by simp [extent]
    rw [rank, List.zip_cons_cons, List.foldl_cons, List.foldl_cons, ih, ih, digits]
    simp only [Nat.add_mul, Nat.mul_assoc, Nat.add_assoc, Nat.zero_mul, Nat.zero_add]

theorem rank_cons {a : Axis} {i : Nat} {axes : List Axis} {choice : List Nat}
    (h : IsChoice axes choice) :
    rank (a :: axes) (i :: choice) = i * extent axes + rank axes choice := by
  rw [← foldl_rank h, rank, List.zip_cons_cons, List.foldl_cons]
  simp only [Nat.zero_mul, Nat.zero_add]

theorem getElem?_choices {axes : List Axis} {choice : List Nat} (h : IsChoice axes choice) :
    (choices axes)[rank axes choice]? = some choice := by
  induction h with
  | nil => rfl
  | @cons a i axes choice inside rest ih =>
    have below : rank axes choice < extent axes :=
      length_choices axes ▸ (List.getElem?_eq_some_iff.mp ih).1
    have block (k : Nat) : ((choices axes).map (k :: ·)).length = extent axes := by
      rw [List.length_map, length_choices]
    rw [choices, rank_cons rest, getElem?_flatMap block below]
    simp [List.getElem?_range inside, ih]

theorem kept_eq_filter {t : Template} (matrix : t.axes ≠ []) :
    t.kept = ((choices t.axes).map (chosen t.axes)).filter fun b => ¬ t.Excluded b := by
  rw [kept, if_neg (by simpa using matrix), product_eq]
  refine List.filter_congr fun b _ => Bool.eq_iff_iff.mpr ?_
  have same : t.exclusions.any (agrees b) = true ↔ t.Excluded b := by
    simp only [List.any_eq_true, agrees_iff, Excluded]
  rw [decide_eq_true_iff, ← same, Bool.not_eq_true', Bool.not_eq_true]

/-- Without additions, the combinations of a matrix are those of all choices of a value on each axis
in lexicographic order, the first axis varying slowest. Exactly the combinations that agree with an
exclusion are left out, and it is an error if none is left. Without exclusions there are as many as
the product of the numbers of values, and each choice stands at its rank. -/
theorem combinations_in_order {t : Template} (matrix : t.axes ≠ [])
    (distinct : t.axisNames.Pairwise fun a b => (b == a) = false) (plain : t.additions = []) :
    ∃ (choices : List (List Nat)) (left : List Bindings), choices.Pairwise (· < ·) ∧
      (∀ choice, choice ∈ choices ↔ IsChoice t.axes choice) ∧
      left = ((choices.map (chosen t.axes)).filter fun b => ¬ t.Excluded b) ∧
      t.combinations = (if left = [] then .error (.noCombinations t.id) else .ok left) ∧
      (t.exclusions = [] → ∀ combos, t.combinations = .ok combos →
        combos.length = (t.axes.map fun a => a.values.length).prod ∧
        ∀ choice, IsChoice t.axes choice →
          combos[rank t.axes choice]? = some (chosen t.axes choice)) := by
  have bindings : t.bindings =
      ((choices t.axes).map (chosen t.axes)).filter fun b => ¬ t.Excluded b := by
    rw [bindings_eq distinct, plain, ← kept_eq_filter matrix]
    rfl
  refine ⟨choices t.axes, _, pairwise_choices t.axes, fun _ => mem_choices, rfl, ?_, ?_⟩
  · simp only [combinations, bindings, List.isEmpty_iff]
  · intro open_ combos made
    obtain ⟨rfl, -⟩ := combinations_eq_ok_iff.mp made
    have all : t.bindings = (choices t.axes).map (chosen t.axes) := by
      rw [bindings]
      refine List.filter_eq_self.mpr fun b _ => ?_
      simp [Excluded, open_]
    rw [all]
    refine ⟨by rw [List.length_map, length_choices, extent], fun choice h => ?_⟩
    rw [List.getElem?_map, getElem?_choices h]
    rfl

/-- Two and three values: the last choice stands at the last of six places, and an exclusion takes
one of them out. -/
theorem combinations_in_order_two_axes :
    let t : Template :=
      { id := .text "build", steps := []
        axes := [{ name := .text "os", values := ["linux", "mac"] },
          { name := .text "version", values := ["7", "8", "9"] }] }
    let u : Template := { t with exclusions := [[(.text "version", "8"), (.text "os", "linux")]] }
    (∃ combos, t.combinations = .ok combos ∧ combos.length = 6 ∧
      combos[5]? = some [(.text "os", "mac"), (.text "version", "9")]) ∧
    ∃ (choices : List (List Nat)) (left : List Bindings), choices.Pairwise (· < ·) ∧
      [0, 1] ∈ choices ∧ u.combinations = .ok left ∧
      left = (choices.map (chosen u.axes)).filter fun b => ¬ u.Excluded b := by
  intro t u
  have distinct : t.axisNames.Pairwise fun a b => (b == a) = false := by decide
  obtain ⟨-, -, -, -, -, -, placed⟩ := combinations_in_order (t := t) (by simp [t]) distinct rfl
  have made : t.combinations = .ok t.bindings := combinations_eq_ok_iff.mpr ⟨rfl, by decide⟩
  obtain ⟨length, at_⟩ := placed rfl _ made
  have last : IsChoice t.axes [1, 2] := .cons (by decide) (.cons (by decide) .nil)
  have some_ : u.combinations = .ok u.bindings := combinations_eq_ok_iff.mpr ⟨rfl, by decide⟩
  obtain ⟨choices, left, sorted, members, filtered, given, -⟩ :=
    combinations_in_order (t := u) (by simp [u, t]) distinct rfl
  have taken : IsChoice u.axes [0, 1] := .cons (by decide) (.cons (by decide) .nil)
  refine ⟨⟨_, made, length, at_ _ last⟩, choices, left, sorted, (members _).mpr taken, ?_, filtered⟩
  rw [some_] at given
  split at given
  · cases given
  · rw [some_, given]

end Template

end JobMatrix
