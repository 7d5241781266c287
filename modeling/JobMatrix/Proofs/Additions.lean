import JobMatrix.Matrix
import JobMatrix.Proofs.Dict
import JobMatrix.Proofs.Scalar

/-! The additions of a matrix, applied one after another to the combinations of its axes. A
combination never loses a binding and never gains one of a declared axis, so that whether an
addition fits it depends on its declared part alone, as it was from the start. Main statement: the
combinations of the axes stay in their places, each with further bindings of which the first
addition that concerns it decides, and after them come those of the additions that fit none. -/

namespace JobMatrix

namespace Template

variable {k : Scalar} {p : Bindings} {t : Template}

/-- Whether a name is that of an axis. -/
def Declares (names : List Scalar) (k : Scalar) : Prop := ∃ n ∈ names, (n == k) = true

instance (names : List Scalar) (k : Scalar) : Decidable (Declares names k) :=
  inferInstanceAs (Decidable (∃ n ∈ names, (n == k) = true))

/-- An addition concerns a combination when it names declared axes, and binds them as the
combination does. -/
structure Concerns (names : List Scalar) (entry combo : Bindings) : Prop where
  constrains : ∃ b ∈ entry, Declares names b.1
  agrees : ∀ b ∈ entry, Declares names b.1 → Dict.get? combo b.1 = some b.2

/-- An addition fits a combination that it concerns, if it names something else besides. -/
structure Fits (names : List Scalar) (entry combo : Bindings) : Prop
    extends Concerns names entry combo where
  adds : ∃ b ∈ entry, ¬ Declares names b.1

variable {names : List Scalar} {combo entry : Bindings}

theorem concerns_iff : Concerns names entry combo ↔ (∃ b ∈ entry, Declares names b.1) ∧
    ∀ b ∈ entry, Declares names b.1 → Dict.get? combo b.1 = some b.2 :=
  ⟨fun h => ⟨h.constrains, h.agrees⟩, fun h => ⟨h.1, h.2⟩⟩

instance : Decidable (Concerns names entry combo) := decidable_of_iff' _ concerns_iff

theorem declares_congr {k' : Scalar} (same : (k == k') = true) :
    Declares names k ↔ Declares names k' := by
  unfold Declares
  simp only [BEq.congr_right same]

theorem exists_get?_iff_declares (keys : Dict.keys p = names) :
    (∃ v, Dict.get? p k = some v) ↔ Declares names k := by
  rw [Dict.exists_get?_iff, keys]
  rfl

theorem get?_undeclared (keys : Dict.keys p = names) (undeclared : ¬ Declares names k) :
    Dict.get? p k = none := by
  by_contra bound
  exact undeclared ((exists_get?_iff_declares keys).mp (Option.ne_none_iff_exists'.mp bound))

theorem mem_declaredPart {b : Scalar × String} :
    b ∈ declaredPart names entry ↔ b ∈ entry ∧ Declares names b.1 := by
  simp [declaredPart, Declares]

theorem agrees_iff {part : Bindings} :
    agrees combo part = true ↔ ∀ b ∈ part, Dict.get? combo b.1 = some b.2 := by
  simp [agrees]

theorem fits_iff : fits names entry combo = true ↔ Fits names entry combo := by
  have some_ : (declaredPart names entry).isEmpty = false ↔ ∃ b ∈ entry, Declares names b.1 := by
    simp only [List.isEmpty_eq_false_iff_exists_mem, mem_declaredPart]
  have more : (declaredPart names entry).length < entry.length ↔
      ∃ b ∈ entry, ¬ Declares names b.1 := by
    rw [declaredPart, List.length_filter_lt_length_iff_exists]
    simp [Declares]
  simp only [fits, Bool.and_eq_true, Bool.not_eq_true', decide_eq_true_eq, some_, more, agrees_iff,
    mem_declaredPart]
  constructor
  · rintro ⟨⟨constrains, adds⟩, agrees⟩
    exact ⟨⟨constrains, fun b mem declared => agrees b ⟨mem, declared⟩⟩, adds⟩
  · rintro ⟨⟨constrains, agrees⟩, adds⟩
    exact ⟨⟨constrains, adds⟩, fun b ⟨mem, declared⟩ => agrees b mem declared⟩

/-! One addition, and one combination. -/

/-- A combination after an addition, which extends it if it fits. -/
def grow (names : List Scalar) (combo entry : Bindings) : Bindings :=
  if fits names entry combo then extended combo entry else combo

theorem get?_grow (k : Scalar) : Dict.get? (grow names combo entry) k =
    (Dict.get? combo k).or (if fits names entry combo then Dict.get? entry k else none) := by
  unfold grow
  split
  · exact Dict.get?_foldl_putNew combo entry k
  · rw [Option.or_none]

theorem prefix_grow : combo <+: grow names combo entry := by
  unfold grow
  split
  · exact Dict.prefix_foldl_putNew combo entry
  · exact List.prefix_rfl

theorem Concerns.get? (h : Concerns names entry combo) {v : String} (declared : Declares names k)
    (found : Dict.get? entry k = some v) : Dict.get? combo k = some v := by
  obtain ⟨k', mem, same⟩ := Dict.exists_mem_key found
  rw [← Dict.get?_congr combo same]
  exact h.agrees _ mem ((declares_congr same).mpr declared)

/-- No axis is bound by an addition that fits: the combination binds those that the addition
names. -/
theorem get?_grow_declared (declared : Declares names k) :
    Dict.get? (grow names combo entry) k = Dict.get? combo k := by
  rw [get?_grow]
  split
  · next fit =>
    cases found : Dict.get? entry k with
    | none => rw [Option.or_none]
    | some v => simp [(fits_iff.mp fit).get? declared found]
  · rw [Option.or_none]

theorem concerns_congr {combo' : Bindings}
    (same : ∀ k, Declares names k → Dict.get? combo' k = Dict.get? combo k) :
    Concerns names entry combo' ↔ Concerns names entry combo := by
  constructor
  · rintro ⟨constrains, agrees⟩
    exact ⟨constrains, fun b mem declared => same b.1 declared ▸ agrees b mem declared⟩
  · rintro ⟨constrains, agrees⟩
    exact ⟨constrains, fun b mem declared => (same b.1 declared).trans (agrees b mem declared)⟩

theorem fits_congr {combo' : Bindings}
    (same : ∀ k, Declares names k → Dict.get? combo' k = Dict.get? combo k) :
    fits names entry combo' = fits names entry combo := by
  have one : Fits names entry combo' ↔ Fits names entry combo :=
    ⟨fun h => ⟨(concerns_congr same).mp h.toConcerns, h.adds⟩,
      fun h => ⟨(concerns_congr same).mpr h.toConcerns, h.adds⟩⟩
  rw [Bool.eq_iff_iff, fits_iff, fits_iff, one]

/-! All additions, and one combination. -/

/-- A combination after additions, one after another. -/
def grown (names : List Scalar) (entries : List Bindings) (combo : Bindings) : Bindings :=
  entries.foldl (grow names) combo

theorem get?_grown (entries : List Bindings) (k : Scalar) :
    Dict.get? (grown names entries combo) k = (Dict.get? combo k).or
      (entries.findSome? fun e => if fits names e combo then Dict.get? e k else none) := by
  induction entries generalizing combo with
  | nil => simp [grown]
  | cons e rest ih =>
    have later := @ih (grow names combo e)
    have frame (k : Scalar) (declared : Declares names k) :
        Dict.get? (grow names combo e) k = Dict.get? combo k := get?_grow_declared declared
    simp only [fits_congr frame] at later
    rw [findSome?_cons_or, ← Option.or_assoc, ← get?_grow]
    exact later

theorem prefix_grown (entries : List Bindings) : combo <+: grown names entries combo := by
  induction entries generalizing combo with
  | nil => exact List.prefix_rfl
  | cons e rest ih => exact prefix_grow.trans ih

theorem apart_grown (h : combo.Apart) (entries : List Bindings) :
    (grown names entries combo).Apart := by
  induction entries generalizing combo with
  | nil => exact h
  | cons e rest ih =>
    refine ih ?_
    unfold grow
    split
    · exact h.foldl_putNew e
    · exact h

theorem get?_grown_declared (entries : List Bindings) (declared : Declares names k) :
    Dict.get? (grown names entries combo) k = Dict.get? combo k := by
  induction entries generalizing combo with
  | nil => rfl
  | cons e rest ih => exact ih.trans (get?_grow_declared declared)

/-- A name that is no axis and that a combination lacks has the value that the first addition gives
it of those that concern the combination. -/
theorem get?_grown_eq_some_iff {entries : List Bindings} {v : String}
    (undeclared : ¬ Declares names k) (lacking : Dict.get? combo k = none) :
    Dict.get? (grown names entries combo) k = some v ↔
      ∃ before e after, entries = before ++ e :: after ∧ Concerns names e combo ∧
        Dict.get? e k = some v ∧
        ∀ f ∈ before, Concerns names f combo → Dict.get? f k = none := by
  have gives (e : Bindings) (w : String) :
      (if fits names e combo then Dict.get? e k else none) = some w ↔
        Concerns names e combo ∧ Dict.get? e k = some w := by
    constructor
    · intro found
      split at found
      · next fit => exact ⟨(fits_iff.mp fit).toConcerns, found⟩
      · cases found
    · rintro ⟨concerns, found⟩
      obtain ⟨k', mem, same⟩ := Dict.exists_mem_key found
      have other : ¬ Declares names k' := mt (declares_congr same).mp undeclared
      rw [if_pos (fits_iff.mpr ⟨concerns, _, mem, other⟩), found]
  have lacks (e : Bindings) :
      (if fits names e combo then Dict.get? e k else none) = none ↔
        (Concerns names e combo → Dict.get? e k = none) := by
    rw [Option.eq_none_iff_forall_ne_some]
    simp only [ne_eq, gives, not_and]
    constructor
    · intro h concerns
      exact Option.eq_none_iff_forall_ne_some.mpr fun w => h w concerns
    · intro h w concerns
      simp [h concerns]
  simp only [get?_grown, lacking, Option.none_or, List.findSome?_eq_some_iff, gives, lacks,
    and_assoc]

/-! All combinations. -/

/-- Whether an addition becomes a combination of its own. -/
def isNew (names : List Scalar) (combos : List Bindings) (entry : Bindings) : Bool :=
  !combos.any (fits names entry) && !combos.any (Dict.same · entry)

theorem add_eq (combos : List Bindings) : add names combos entry =
    combos.map (grow names · entry) ++ if isNew names combos entry then [entry] else [] := by
  unfold add isNew
  split
  · next some_ =>
    simp only [some_, Bool.not_true, Bool.false_and, Bool.false_eq_true, if_false, List.append_nil]
    rfl
  · next none_ =>
    have still : combos.map (grow names · entry) = combos := by
      refine (List.map_congr_left fun c mem => ?_).trans combos.map_id
      exact if_neg fun fit => none_ (List.any_eq_true.mpr ⟨c, mem, fit⟩)
    rw [still]
    split
    · next there => simp [there]
    · next absent => simp [none_, absent]

/-- The combinations that additions make by themselves, each after the additions that follow. -/
def newcomers (names : List Scalar) : List Bindings → List Bindings → List Bindings
  | _, [] => []
  | combos, e :: rest =>
    (if isNew names combos e then [grown names rest e] else []) ++
      newcomers names (add names combos e) rest

theorem foldl_add (combos entries : List Bindings) : entries.foldl (add names) combos =
    combos.map (grown names entries) ++ newcomers names combos entries := by
  induction entries generalizing combos with
  | nil => exact (combos.map_id.symm.trans (List.append_nil _).symm)
  | cons e rest ih =>
    rw [List.foldl_cons, ih, newcomers, ← List.append_assoc]
    congr 1
    rw [add_eq, List.map_append, List.map_map]
    congr 1
    split <;> rfl

theorem exists_newcomers (names : List Scalar) (combos entries : List Bindings) :
    ∃ own, own.Sublist entries ∧ List.Forall₂ (· <+: ·) own (newcomers names combos entries) := by
  induction entries generalizing combos with
  | nil => exact ⟨[], .slnil, .nil⟩
  | cons e rest ih =>
    obtain ⟨own, sub, each⟩ := ih (add names combos e)
    rw [newcomers]
    split
    · exact ⟨e :: own, sub.cons_cons e, .cons (prefix_grown rest) each⟩
    · exact ⟨own, sub.cons e, each⟩

/-! The combinations of the axes. -/

/-- The combinations of the axes that no exclusion takes out. -/
def kept (t : Template) : List Bindings :=
  (if t.axes.isEmpty then [] else product t.axes).filter fun c => !t.exclusions.any (agrees c)

theorem keys_of_mem_product {axes : List Axis} {c : Bindings} (mem : c ∈ product axes) :
    Dict.keys c = axes.map Axis.name := by
  induction axes generalizing c with
  | nil =>
    cases List.mem_singleton.mp mem
    rfl
  | cons a rest ih =>
    obtain ⟨v, -, mem⟩ := List.mem_flatMap.mp mem
    obtain ⟨c', mem', rfl⟩ := List.mem_map.mp mem
    rw [List.map_cons, ← ih mem']
    rfl

theorem keys_of_mem_kept (mem : p ∈ t.kept) : Dict.keys p = t.axisNames := by
  obtain ⟨mem, -⟩ := List.mem_filter.mp mem
  split at mem
  · cases mem
  · exact keys_of_mem_product mem

theorem bindings_eq (distinct : t.axisNames.Pairwise fun a b => (b == a) = false) :
    t.bindings = t.additions.foldl (add t.axisNames) t.kept := by
  have plain : (product t.axes).map (Dict.merge []) = product t.axes := by
    refine (List.map_congr_left fun c mem => ?_).trans (product t.axes).map_id
    refine Dict.merge_apart (d := []) ?_
    rw [List.nil_append, Dict.Apart, keys_of_mem_product mem]
    exact distinct
  rw [bindings, kept, plain]

theorem combinations_eq_ok_iff {combos : List Bindings} :
    t.combinations = .ok combos ↔ t.bindings = combos ∧ combos ≠ [] := by
  unfold combinations
  split
  · next none_ =>
    simp only [List.isEmpty_iff] at none_
    simp only [none_, reduceCtorEq, false_iff, not_and, ne_eq, not_not]
    exact Eq.symm
  · next some_ =>
    simp only [List.isEmpty_iff] at some_
    simp only [Except.ok.injEq, iff_self_and]
    rintro rfl
    exact some_

theorem exists_further (distinct : names.Pairwise fun a b => (b == a) = false)
    (keys : Dict.keys p = names) (entries : List Bindings) :
    ∃ further, grown names entries p = p ++ further ∧
      (∀ b ∈ further, ¬ Declares names b.1) ∧
      ∀ k v, Dict.get? further k = some v ↔ ¬ Declares names k ∧
        ∃ before e after, entries = before ++ e :: after ∧ Concerns names e p ∧
          Dict.get? e k = some v ∧ ∀ f ∈ before, Concerns names f p → Dict.get? f k = none := by
  obtain ⟨further, whole⟩ : p <+: grown names entries p := prefix_grown entries
  have apart : (p ++ further).Apart := by
    have own : p.Apart := by
      rw [Dict.Apart, keys]
      exact distinct
    rw [whole]
    exact apart_grown own entries
  have undeclared : ∀ b ∈ further, ¬ Declares names b.1 := by
    rintro b mem ⟨n, known, same⟩
    have before : n ∈ Dict.keys p := keys ▸ known
    rw [Dict.Apart, Dict.keys, List.map_append, List.pairwise_append] at apart
    have other := apart.2.2 n before b.1 (List.mem_map_of_mem mem)
    rw [BEq.symm_false other] at same
    cases same
  refine ⟨further, whole.symm, undeclared, fun k v => ?_⟩
  by_cases declared : Declares names k
  · simp only [declared, not_true, false_and, iff_false]
    intro found
    obtain ⟨k', mem, same⟩ := Dict.exists_mem_key found
    exact undeclared _ mem ((declares_congr same).mpr declared)
  · have lacking := get?_undeclared keys declared
    have all := Dict.get?_append p further k
    rw [lacking, Option.none_or, whole] at all
    rw [← all, get?_grown_eq_some_iff declared lacking]
    simp only [declared, not_false_eq_true, true_and]

/-- Additions extend the combinations of the axes in their places. The first combinations are those
of the axes that no exclusion takes out, in order, each with further bindings of names that are no
axes: such a name is bound exactly if an addition that concerns the combination binds it, and as the
first of these does. The combinations after them contain one addition each, in the order of the
additions. -/
theorem additions_extend_in_place {t : Template} {combos : List Bindings}
    (distinct : t.axisNames.Pairwise fun a b => (b == a) = false)
    (made : t.combinations = .ok combos) :
    t.kept.length ≤ combos.length ∧
    (∀ (i : Nat) (p : Bindings), t.kept[i]? = some p → Dict.keys p = t.axisNames ∧
      ∃ further, combos[i]? = some (p ++ further) ∧
        (∀ b ∈ further, ¬ Declares t.axisNames b.1) ∧
        ∀ k v, Dict.get? further k = some v ↔ ¬ Declares t.axisNames k ∧
          ∃ before e after, t.additions = before ++ e :: after ∧ Concerns t.axisNames e p ∧
            Dict.get? e k = some v ∧
            ∀ f ∈ before, Concerns t.axisNames f p → Dict.get? f k = none) ∧
    ∃ own, own.Sublist t.additions ∧ List.Forall₂ Dict.Within own (combos.drop t.kept.length) := by
  obtain ⟨rfl, -⟩ := combinations_eq_ok_iff.mp made
  rw [bindings_eq distinct, foldl_add]
  have length : (t.kept.map (grown t.axisNames t.additions)).length = t.kept.length :=
    List.length_map _
  refine ⟨by simp, fun i p at_ => ?_, ?_⟩
  · have keys := keys_of_mem_kept (List.mem_of_getElem? at_)
    obtain ⟨further, whole, described⟩ := exists_further distinct keys t.additions
    have inside : i < (t.kept.map (grown t.axisNames t.additions)).length := by
      rw [length]
      exact (List.getElem?_eq_some_iff.mp at_).1
    refine ⟨keys, further, ?_, described⟩
    rw [List.getElem?_append_left inside, List.getElem?_map, at_, Option.map_some, whole]
  · obtain ⟨own, sub, each⟩ := exists_newcomers t.axisNames t.kept t.additions
    rw [← length, List.drop_left]
    exact ⟨own, sub, each.imp fun _ _ => Dict.within_of_isPrefix⟩

/-- The second addition for a value comes too late, and an addition for a value that is not there is
extended by the next. -/
theorem additions_extend_first_and_own :
    let t : Template :=
      { id := .text "build", steps := [{ command := .line "make" }]
        axes := [{ name := .text "os", values := ["linux", "mac", "bsd"] }]
        exclusions := [[(.text "os", "mac")]]
        additions := [[(.text "os", "linux"), (.text "cc", "gcc")],
          [(.text "cc", "clang"), (.text "os", "linux")], [(.text "os", "win")],
          [(.text "os", "win"), (.text "cc", "cl")]] }
    ∃ combos further own, t.combinations = .ok combos ∧ t.kept.length = 2 ∧ combos.length = 3 ∧
      combos[0]? = some ([(.text "os", "linux")] ++ further) ∧
      Dict.get? further (.text "cc") = some "gcc" ∧ own.Sublist t.additions ∧
      List.Forall₂ Dict.Within own (combos.drop 2) := by
  intro t
  have known : t.combinations.toOption = some
      [[(.text "os", "linux"), (.text "cc", "gcc")], [(.text "os", "bsd")],
        [(.text "os", "win"), (.text "cc", "cl")]] := by decide +kernel
  have made := toOption_eq_some_iff.mp known
  have kept : t.kept = [[(.text "os", "linux")], [(.text "os", "bsd")]] := by decide +kernel
  obtain ⟨-, places, own, sub, each⟩ := additions_extend_in_place (by decide) made
  obtain ⟨-, further, whole, -, described⟩ := places 0 [(.text "os", "linux")] (by rw [kept]; rfl)
  rw [kept] at each
  refine ⟨_, further, own, made, by rw [kept]; rfl, rfl, whole, ?_, sub, each⟩
  exact (described _ _).mpr ⟨by decide, [], _, _, rfl, by decide, rfl, nofun⟩

end Template

end JobMatrix
