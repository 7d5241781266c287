import JobMatrix.Proofs.Additions

/-! Additions that get in each other's way. A binding that an earlier addition made is not changed
by a later one, so that an addition may be lost; and a combination without further bindings that
follows one with them may be given the same ones later, so that two combinations become equal. Main
statements: an addition is lost exactly when every combination that it fits binds one of its names
to another value, and combinations become equal exactly in that second way. -/

namespace JobMatrix

/-- If no two keys of a list are one, and the list is as long as one in which all of them are found,
then all of the other are found in it. -/
theorem found_of_apart {κ : Type} [BEq κ] [PartialEquivBEq κ] {l m : List κ}
    (apart : l.Pairwise fun a b => (b == a) = false) (found : ∀ a ∈ l, ∃ b ∈ m, (b == a) = true)
    (length : l.length = m.length) : ∀ b ∈ m, ∃ a ∈ l, (a == b) = true := by
  intro b mem
  by_contra missing
  obtain ⟨before, after, rfl⟩ := List.append_of_mem mem
  have fewer := length_le_of_apart (m := before ++ after) apart fun a mem' => by
    obtain ⟨b', mem'', same⟩ := found a mem'
    have other : b' ≠ b := by
      rintro rfl
      exact missing ⟨a, mem', BEq.symm same⟩
    exact ⟨b', by simpa [other] using mem'', same⟩
  simp only [List.length_append, List.length_cons] at fewer length
  omega

namespace Dict

variable {κ ν : Type} [BEq κ]

instance (d : Dict κ ν) : Decidable d.Apart :=
  inferInstanceAs (Decidable ((keys d).Pairwise fun a b => (b == a) = false))

/-- Whether two dictionaries give different values to one key. -/
def Clash (d e : Dict κ ν) : Prop :=
  ∃ key v w, get? d key = some v ∧ get? e key = some w ∧ v ≠ w

/-- Whether two dictionaries differ as mappings. -/
def Differ (d e : Dict κ ν) : Prop := ∃ key, get? d key ≠ get? e key

/-- A dictionary in which every entry can be looked up: no two of its keys are one, and each is
itself. -/
structure Proper (d : Dict κ ν) : Prop where
  apart : d.Apart
  self : ∀ k ∈ keys d, (k == k) = true

instance (d : Dict κ ν) : Decidable d.Proper :=
  decidable_of_iff (d.Apart ∧ ∀ k ∈ keys d, (k == k) = true)
    ⟨fun h => ⟨h.1, h.2⟩, fun h => ⟨h.apart, h.self⟩⟩

theorem mem_foldl_putNew {d entries : Dict κ ν} {b : κ × ν}
    (h : b ∈ entries.foldl (fun acc e => putNew acc e.1 e.2) d) : b ∈ d ∨ b ∈ entries := by
  induction entries generalizing d with
  | nil => exact .inl h
  | cons e rest ih =>
    rcases ih h with first | later
    · change b ∈ putNew d e.1 e.2 at first
      unfold putNew at first
      split at first
      · exact .inl first
      · rcases List.mem_append.mp first with old | new
        · exact .inl old
        · exact .inr (List.mem_singleton.mp new ▸ List.mem_cons_self)
    · exact .inr (List.mem_cons_of_mem _ later)

theorem same_iff [BEq ν] [LawfulBEq ν] {d e : Dict κ ν} : same d e = true ↔
    d.length = e.length ∧ ∀ b ∈ d, get? e b.1 = some b.2 := by
  simp [same]

theorem Apart.within_of_same [PartialEquivBEq κ] [BEq ν] [LawfulBEq ν] {d e : Dict κ ν}
    (h : d.Apart) (same : Dict.same d e = true) : e.Within d := by
  obtain ⟨length, all⟩ := same_iff.mp same
  have found : ∀ a ∈ keys d, ∃ b ∈ keys e, (b == a) = true := by
    intro a mem
    obtain ⟨b, inside, rfl⟩ := List.mem_map.mp mem
    exact exists_get?_iff.mp ⟨_, all b inside⟩
  intro key v there
  obtain ⟨k, mem, hit⟩ := exists_mem_key there
  obtain ⟨a, mem', hit'⟩ := found_of_apart h found (by simpa [keys] using length) k
    (List.mem_map_of_mem mem)
  obtain ⟨b, inside, rfl⟩ := List.mem_map.mp mem'
  have one : (b.1 == key) = true := BEq.trans hit' hit
  rw [h.get?_of_mem inside one, ← all b inside, get?_congr e one, there]

theorem Proper.get?_self [PartialEquivBEq κ] {d : Dict κ ν} (h : d.Proper) {b : κ × ν}
    (mem : b ∈ d) : get? d b.1 = some b.2 :=
  h.apart.get?_of_mem mem (h.self _ (List.mem_map_of_mem mem))

theorem Proper.length_le [PartialEquivBEq κ] {d e : Dict κ ν} (h : d.Proper)
    (alike : ∀ key, get? d key = get? e key) : d.length ≤ e.length := by
  have found : ∀ a ∈ keys d, ∃ b ∈ keys e, (b == a) = true := by
    intro a mem
    obtain ⟨b, inside, rfl⟩ := List.mem_map.mp mem
    exact exists_get?_iff.mp ⟨b.2, (alike _).symm.trans (h.get?_self inside)⟩
  simpa [keys] using length_le_of_apart h.apart found

theorem same_eq_false_iff [PartialEquivBEq κ] [BEq ν] [LawfulBEq ν] {d e : Dict κ ν}
    (h : d.Proper) (h' : e.Proper) : same d e = false ↔ d.Differ e := by
  rw [← Bool.not_eq_true, ← not_iff_not, not_not]
  simp only [Differ, not_exists, not_not]
  constructor
  · intro one key
    refine Option.ext fun v => ⟨fun found => ?_, h.apart.within_of_same one key v⟩
    obtain ⟨k, mem, hit⟩ := exists_mem_key found
    rw [← get?_congr e hit]
    exact (same_iff.mp one).2 _ mem
  · intro alike
    have length := Nat.le_antisymm (h.length_le alike) (h'.length_le fun key => (alike key).symm)
    exact same_iff.mpr ⟨length, fun b mem => (alike _).symm.trans (h.get?_self mem)⟩

end Dict

namespace Template

variable {names : List Scalar} {combo entry : Bindings}

/-- What holds of combinations and additions, and lasts while a combination grows, holds in the
end. -/
theorem forall_foldl_add {Q : Bindings → Prop}
    (lasts : ∀ c e, Q c → Q e → Q (grow names c e)) {combos entries : List Bindings}
    (first : ∀ c ∈ combos, Q c) (added : ∀ e ∈ entries, Q e) :
    ∀ c ∈ entries.foldl (add names) combos, Q c := by
  induction entries generalizing combos with
  | nil => exact first
  | cons e rest ih =>
    obtain ⟨own, others⟩ := List.forall_mem_cons.mp added
    refine ih (fun c mem => ?_) others
    rw [add_eq, List.mem_append, List.mem_map] at mem
    rcases mem with ⟨c', mem, rfl⟩ | mem
    · exact lasts c' e (first c' mem) own
    · split at mem
      · cases List.mem_singleton.mp mem
        exact own
      · cases mem

theorem apart_foldl_add {combos entries : List Bindings} (first : ∀ c ∈ combos, c.Apart)
    (added : ∀ e ∈ entries, e.Apart) : ∀ c ∈ entries.foldl (add names) combos, c.Apart :=
  forall_foldl_add (fun _ e h _ => apart_grown h [e]) first added

theorem bindings_with {t : Template}
    (distinct : t.axisNames.Pairwise fun a b => (b == a) = false) (entries : List Bindings) :
    { t with additions := entries }.bindings = entries.foldl (add t.axisNames) t.kept :=
  bindings_eq (t := { t with additions := entries }) distinct

theorem apart_of_mem_kept {t : Template}
    (distinct : t.axisNames.Pairwise fun a b => (b == a) = false) {p : Bindings}
    (mem : p ∈ t.kept) : p.Apart := by
  rw [Dict.Apart, keys_of_mem_kept mem]
  exact distinct

theorem exists_addition_of_get? {t : Template} {entries : List Bindings} {k : Scalar} {v : String}
    (mem : combo ∈ entries.foldl (add t.axisNames) t.kept) (undeclared : ¬ Declares t.axisNames k)
    (bound : Dict.get? combo k = some v) : ∃ e ∈ entries, Dict.get? e k = some v := by
  let from_ (c : Bindings) : Prop :=
    ∀ v, Dict.get? c k = some v → ∃ e ∈ entries, Dict.get? e k = some v
  refine forall_foldl_add (Q := from_) (fun c e first added v bound => ?_) (fun p mem v bound => ?_)
    (fun e mem v bound => ⟨e, mem, bound⟩) combo mem v bound
  · rw [get?_grow, Option.or_eq_some_iff] at bound
    rcases bound with own | ⟨-, given⟩
    · exact first v own
    · split at given
      · exact added v given
      · cases given
  · rw [get?_undeclared (keys_of_mem_kept mem) undeclared] at bound
    cases bound

/-! An addition, and the combinations that there are when it is applied. -/

theorem exists_within_of_not_fits {combos : List Bindings} (apart : ∀ c ∈ combos, c.Apart)
    (none_ : ∀ c ∈ combos, ¬ Fits names entry c) :
    ∃ c ∈ add names combos entry, entry.Within c := by
  have unfit : combos.any (fits names entry) = false := by
    simpa [fits_iff] using none_
  by_cases there : combos.any (Dict.same · entry) = true
  · obtain ⟨c, mem, same⟩ := List.any_eq_true.mp there
    refine ⟨c, ?_, (apart c mem).within_of_same same⟩
    simpa [add, unfit, there] using mem
  · refine ⟨entry, ?_, fun _ _ found => found⟩
    simp [add, unfit, there]

theorem within_grow_iff (fit : Fits names entry combo) :
    entry.Within (grow names combo entry) ↔ ¬ entry.Clash combo := by
  have lookup (k : Scalar) : Dict.get? (grow names combo entry) k =
      (Dict.get? combo k).or (Dict.get? entry k) := by
    rw [get?_grow, if_pos (fits_iff.mpr fit)]
  constructor
  · rintro within ⟨k, v, w, given, own, other⟩
    have found := within k v given
    rw [lookup, own] at found
    exact other (Option.some.inj found).symm
  · intro agree k v given
    rw [lookup, given]
    cases own : Dict.get? combo k with
    | none => rfl
    | some w =>
      by_contra other
      exact agree ⟨k, v, w, given, own, fun same => other (same ▸ rfl)⟩

theorem Declares.self {k : Scalar} (h : Declares names k) : (k == k) = true := by
  obtain ⟨n, -, same⟩ := h
  exact BEq.trans (BEq.symm same) same

theorem Fits.of_within {combo' : Bindings} (fit : Fits names entry combo') (own : entry.Apart)
    (within : ∀ b ∈ entry, Declares names b.1 → Dict.get? entry b.1 = some b.2 →
      Dict.get? combo b.1 = some b.2) : Fits names entry combo :=
  ⟨⟨fit.constrains, fun b mem declared =>
    within b mem declared (own.get?_of_mem mem declared.self)⟩, fit.adds⟩

/-- Of the combinations that there are after an addition, one contains it in the end exactly if it
fitted none, or one of those that it fitted without a clash. -/
theorem exists_within_grown_iff (names : List Scalar) (after : List Bindings)
    {combos : List Bindings} (apart : ∀ c ∈ combos, c.Apart) (own : entry.Apart) :
    (∃ r ∈ (add names combos entry).map (grown names after), entry.Within r) ↔
      (∀ c ∈ combos, ¬ Fits names entry c) ∨
        ∃ c ∈ combos, Fits names entry c ∧ ¬ entry.Clash c := by
  constructor
  · rintro ⟨r, mem, within⟩
    obtain ⟨c', mem', rfl⟩ := List.mem_map.mp mem
    by_cases none_ : ∀ c ∈ combos, ¬ Fits names entry c
    · exact .inl none_
    · simp only [not_forall, not_not] at none_
      obtain ⟨c₀, mem₀, fit⟩ := none_
      have old : isNew names combos entry = false := by
        simp only [isNew, Bool.and_eq_false_iff, Bool.not_eq_false']
        exact .inl (List.any_eq_true.mpr ⟨c₀, mem₀, fits_iff.mpr fit⟩)
      rw [add_eq, old] at mem'
      obtain ⟨c, there, rfl⟩ := List.mem_map.mp (by simpa using mem')
      refine .inr ⟨c, there, fit.of_within own fun b _ declared given => ?_, ?_⟩
      · have still : Dict.get? (grown names after (grow names c entry)) b.1 = Dict.get? c b.1 :=
          (get?_grown_declared after declared).trans (get?_grow_declared declared)
        exact still.symm.trans (within _ _ given)
      · rintro ⟨k, v, w, given, bound, other⟩
        have still : Dict.get? (grown names after (grow names c entry)) k = some w :=
          Dict.within_of_isPrefix (prefix_grow.trans (prefix_grown after)) k w bound
        exact other (Option.some.inj ((within k v given).symm.trans still))
  · intro h
    suffices ∃ c ∈ add names combos entry, entry.Within c by
      obtain ⟨c, mem, within⟩ := this
      refine ⟨_, List.mem_map_of_mem mem, fun k v found => ?_⟩
      exact Dict.within_of_isPrefix (prefix_grown after) k v (within k v found)
    rcases h with none_ | ⟨c, mem, fit, agree⟩
    · exact exists_within_of_not_fits apart none_
    · refine ⟨grow names c entry, ?_, (within_grow_iff fit).mpr agree⟩
      rw [add_eq]
      exact List.mem_append_left _ (List.mem_map_of_mem mem)

/-- What becomes of an addition. The combinations that there are when it has been applied contain it
in the end, one of them at least, exactly if it fitted none of those before it, or one of them
without a clash. So an addition is not lost if no earlier one binds a name that is no axis to
another value. -/
theorem addition_kept_iff {t : Template} {combos before after : List Bindings} {entry : Bindings}
    (distinct : t.axisNames.Pairwise fun a b => (b == a) = false)
    (apart : ∀ e ∈ t.additions, e.Apart) (made : t.combinations = .ok combos)
    (split_ : t.additions = before ++ entry :: after) :
    ((∃ r ∈ combos.take { t with additions := before ++ [entry] }.bindings.length,
        entry.Within r) ↔
      (∀ c ∈ { t with additions := before }.bindings, ¬ Fits t.axisNames entry c) ∨
        ∃ c ∈ { t with additions := before }.bindings,
          Fits t.axisNames entry c ∧ ¬ entry.Clash c) ∧
    ((∀ e ∈ before, ∀ k v w, ¬ Declares t.axisNames k → Dict.get? entry k = some v →
        Dict.get? e k = some w → v = w) → ∃ r ∈ combos, entry.Within r) := by
  obtain ⟨rfl, -⟩ := combinations_eq_ok_iff.mp made
  have reached : { t with additions := before ++ [entry] }.bindings =
      add t.axisNames { t with additions := before }.bindings entry := by
    rw [bindings_with distinct, bindings_with distinct, List.foldl_append]
    rfl
  have whole : t.bindings = ({ t with additions := before ++ [entry] }.bindings.map
      (grown t.axisNames after)) ++
        newcomers t.axisNames { t with additions := before ++ [entry] }.bindings after := by
    rw [bindings_eq distinct, split_, List.foldl_append, List.foldl_cons, foldl_add, reached,
      bindings_with distinct]
  have parts : ∀ c ∈ { t with additions := before }.bindings, c.Apart := by
    rw [bindings_with distinct]
    refine apart_foldl_add (fun p => apart_of_mem_kept distinct) fun e mem => apart e ?_
    rw [split_]
    exact List.mem_append_left _ mem
  have own : entry.Apart := apart entry (by simp [split_])
  have turn := exists_within_grown_iff t.axisNames after parts own
  rw [← reached] at turn
  constructor
  · rw [whole, List.take_left' (List.length_map _)]
    exact turn
  · intro agree
    have found := turn.mpr ?_
    · obtain ⟨r, mem, within⟩ := found
      refine ⟨r, ?_, within⟩
      rw [whole]
      exact List.mem_append_left _ mem
    · by_cases none_ : ∀ c ∈ { t with additions := before }.bindings, ¬ Fits t.axisNames entry c
      · exact .inl none_
      · simp only [not_forall, not_not] at none_
        obtain ⟨c, mem, fit⟩ := none_
        refine .inr ⟨c, mem, fit, ?_⟩
        rintro ⟨k, v, w, given, bound, other⟩
        by_cases declared : Declares t.axisNames k
        · exact other (Option.some.inj ((fit.get? declared given).symm.trans bound))
        · rw [bindings_with distinct] at mem
          obtain ⟨e, mem, gives⟩ := exists_addition_of_get? mem declared bound
          exact other (agree e mem k v w declared given gives)

/-- Two additions for one value that share a binding are both kept. -/
theorem addition_kept_beside_equal_binding :
    let second : Bindings := [(.text "opt", "2"), (.text "cc", "gcc"), (.text "os", "linux")]
    let t : Template :=
      { id := .text "build", steps := [{ command := .line "make" }]
        axes := [{ name := .text "os", values := ["linux", "mac"] }]
        additions := [[(.text "os", "linux"), (.text "cc", "gcc")], second] }
    ∃ combos, t.combinations = .ok combos ∧ ∃ r ∈ combos, second.Within r := by
  intro second t
  have known : t.combinations.toOption = some [[(.text "os", "linux"), (.text "cc", "gcc"),
      (.text "opt", "2")], [(.text "os", "mac")]] := by decide +kernel
  have made := toOption_eq_some_iff.mp known
  have split_ : t.additions = [[(.text "os", "linux"), (.text "cc", "gcc")]] ++ second :: [] := rfl
  refine ⟨_, made, (addition_kept_iff (by decide) (by decide) made split_).2 ?_⟩
  intro e mem k v w undeclared given gives
  cases List.mem_singleton.mp mem
  obtain ⟨k', there, same⟩ := Dict.exists_mem_key gives
  rw [← Dict.get?_congr _ same] at given
  rcases List.mem_pair.mp there with os | cc
  · cases os
    exact absurd ⟨_, .head _, same⟩ undeclared
  · cases cc
    have gcc : Dict.get? second (.text "cc") = some "gcc" := by decide
    exact Option.some.inj (given.symm.trans gcc)

/-- The second of two additions for one value, with another value for the same name, is in no
combination. -/
theorem later_addition_is_lost :
    let t : Template :=
      { id := .text "build", steps := [{ command := .line "make" }]
        axes := [{ name := .text "toolchain", values := ["stable"] }]
        additions := [[(.text "toolchain", "stable"), (.text "flags", "a")],
          [(.text "toolchain", "stable"), (.text "flags", "b")]] }
    t.axisNames.Pairwise (fun a b => (b == a) = false) ∧
      ∃ combos, t.combinations = .ok combos ∧ ∃ entry ∈ t.additions, ∀ r ∈ combos,
        ¬ entry.Within r := by
  intro t
  have known : t.combinations.toOption = some [[(.text "toolchain", "stable"),
      (.text "flags", "a")]] := by decide +kernel
  refine ⟨by decide, _, toOption_eq_some_iff.mp known, _, .tail _ (.head _), ?_⟩
  intro r mem within
  cases List.mem_singleton.mp mem
  have found := within (.text "flags") "b" (by decide)
  revert found
  decide

/-! Combinations that become equal. -/

theorem isNew_iff {combos : List Bindings} (proper : ∀ c ∈ combos, c.Proper)
    (own : entry.Proper) : isNew names combos entry = true ↔
      (∀ c ∈ combos, ¬ Fits names entry c) ∧ ∀ c ∈ combos, c.Differ entry := by
  simp only [isNew, Bool.and_eq_true, Bool.not_eq_true', List.any_eq_false, fits_iff]
  refine and_congr_right fun _ => forall_congr' fun c => imp_congr_right fun mem => ?_
  rw [Bool.not_eq_true, Dict.same_eq_false_iff (proper c mem) own]

/-- A relation of all combinations in the end is one of those that there were in the beginning, and
of each addition that becomes a combination with those that are there before it. -/
theorem pairwise_foldl_add {R : Bindings → Bindings → Prop} (combos entries : List Bindings) :
    (entries.foldl (add names) combos).Pairwise R ↔
      (combos.map (grown names entries)).Pairwise R ∧
      ∀ before e after, entries = before ++ e :: after →
        isNew names (before.foldl (add names) combos) e = true →
        ∀ c ∈ before.foldl (add names) combos, R (grown names after c) (grown names after e) := by
  induction entries generalizing combos with
  | nil =>
    have all : combos.map (grown names []) = combos := combos.map_id
    simp [all]
  | cons e rest ih =>
    have still (new : isNew names combos e = true) : ∀ c ∈ combos, grow names c e = c := by
      intro c mem
      simp only [isNew, Bool.and_eq_true, Bool.not_eq_true', List.any_eq_false] at new
      exact if_neg (new.1 c mem)
    have first : ((add names combos e).map (grown names rest)).Pairwise R ↔
        (combos.map (grown names (e :: rest))).Pairwise R ∧ (isNew names combos e = true →
          ∀ c ∈ combos, R (grown names rest c) (grown names rest e)) := by
      have grows : (combos.map (grow names · e)).map (grown names rest) =
          combos.map (grown names (e :: rest)) := List.map_map
      rw [add_eq, List.map_append, grows, List.pairwise_append]
      refine and_congr_right fun _ => ?_
      by_cases new : isNew names combos e = true
      · have unchanged : combos.map (grown names (e :: rest)) = combos.map (grown names rest) :=
          List.map_congr_left fun c mem => congrArg (grown names rest) (still new c mem)
        simp [new, unchanged]
      · simp [new]
    rw [List.foldl_cons, ih, first, and_assoc]
    refine and_congr_right fun _ => ?_
    constructor
    · rintro ⟨own, later⟩ before e' after split_ new
      rcases List.cons_eq_append_iff.mp split_ with ⟨rfl, same⟩ | ⟨before, rfl, rfl⟩
      · cases same
        exact own new
      · exact later before e' after rfl new
    · intro all
      exact ⟨all [] e rest rfl, fun before e' after split_ =>
        all (e :: before) e' after (by rw [split_, List.cons_append])⟩

/-- An addition of declared axes only catches up with a combination when it binds these axes as the
combination does, and the additions after it give it the further bindings of the combination. -/
structure CatchesUp (names : List Scalar) (after : List Bindings) (entry combo : Bindings) :
    Prop where
  nonempty : entry ≠ []
  plain : ∀ b ∈ entry, Declares names b.1
  alike : ∀ k, Declares names k → Dict.get? combo k = Dict.get? entry k
  regained : ∀ k v, ¬ Declares names k → Dict.get? combo k = some v →
    ∃ before e after', after = before ++ e :: after' ∧ Concerns names e entry ∧
      Dict.get? e k = some v ∧ ∀ f ∈ before, Concerns names f entry → Dict.get? f k = none

theorem CatchesUp.misfit {after : List Bindings} (h : CatchesUp names after entry combo)
    {combo' : Bindings} : ¬ Fits names entry combo' := by
  intro fit
  obtain ⟨b, mem, undeclared⟩ := fit.adds
  exact undeclared (h.plain b mem)

theorem get?_of_plain (plain : ∀ b ∈ entry, Declares names b.1) {k : Scalar}
    (undeclared : ¬ Declares names k) : Dict.get? entry k = none := by
  by_contra bound
  obtain ⟨v, found⟩ := Option.ne_none_iff_exists'.mp bound
  obtain ⟨k', mem, same⟩ := Dict.exists_mem_key found
  exact undeclared ((declares_congr same).mp (plain _ mem))

theorem CatchesUp.get?_grown {after : List Bindings} (h : CatchesUp names after entry combo)
    (k : Scalar) :
    Dict.get? (grown names after combo) k = Dict.get? (grown names after entry) k := by
  by_cases declared : Declares names k
  · rw [get?_grown_declared after declared, get?_grown_declared after declared, h.alike k declared]
  · have lacking := get?_of_plain h.plain declared
    cases bound : Dict.get? combo k with
    | some v =>
      rw [Dict.within_of_isPrefix (prefix_grown after) k v bound]
      exact ((get?_grown_eq_some_iff declared lacking).mpr (h.regained k v declared bound)).symm
    | none =>
      simp only [Template.get?_grown, bound, lacking, fits_congr h.alike]

/-- A combination and an addition that comes after it are equal in the end exactly when the addition
catches up. -/
theorem catchesUp_iff {after : List Bindings} (own : entry.Proper) (differ : combo.Differ entry)
    (misfit : ¬ Fits names entry combo) :
    ¬ Dict.Differ (grown names after combo) (grown names after entry) ↔
      CatchesUp names after entry combo := by
  constructor
  · intro h
    have equal : ∀ k, Dict.get? (grown names after combo) k =
        Dict.get? (grown names after entry) k := by simpa [Dict.Differ] using h
    have alike : ∀ k, Declares names k → Dict.get? combo k = Dict.get? entry k := by
      intro k declared
      rw [← get?_grown_declared after declared, equal, get?_grown_declared after declared]
    have constrains : ∃ b ∈ entry, Declares names b.1 := by
      by_contra none_
      -- Nothing fits an addition without axes, so that both would have been equal before.
      have unfit (e : Bindings) : fits names e entry = false := by
        by_contra fit
        obtain ⟨⟨⟨b, there, declared⟩, agrees⟩, -⟩ := fits_iff.mp (by simpa using fit)
        obtain ⟨k, mem', same⟩ := Dict.exists_mem_key (agrees b there declared)
        exact none_ ⟨_, mem', (declares_congr same).mpr declared⟩
      obtain ⟨k, other⟩ := differ
      have nothing : (after.findSome? fun _ => (none : Option String)) = none :=
        List.findSome?_eq_none_iff.mpr fun _ _ => rfl
      have same := equal k
      simp only [Template.get?_grown, fits_congr alike, unfit] at same
      exact other (by simpa [nothing] using same)
    have plain : ∀ b ∈ entry, Declares names b.1 := by
      intro b there
      by_contra undeclared
      refine misfit ⟨⟨constrains, fun b' there' declared => ?_⟩, b, there, undeclared⟩
      exact (alike _ declared).trans (own.get?_self there')
    obtain ⟨b, there, -⟩ := constrains
    refine ⟨List.ne_nil_of_mem there, plain, alike, fun k v undeclared bound => ?_⟩
    rw [← get?_grown_eq_some_iff undeclared (get?_of_plain plain undeclared), ← equal]
    exact Dict.within_of_isPrefix (prefix_grown after) k v bound
  · rintro h ⟨k, other⟩
    exact other (h.get?_grown k)

theorem proper_grow {c e : Bindings} (h : c.Proper) (h' : e.Proper) : (grow names c e).Proper := by
  refine ⟨apart_grown h.apart [e], fun k mem => ?_⟩
  obtain ⟨b, there, rfl⟩ := List.mem_map.mp mem
  unfold grow at there
  split at there
  · rcases Dict.mem_foldl_putNew there with own | given
    · exact h.self _ (List.mem_map_of_mem own)
    · exact h'.self _ (List.mem_map_of_mem given)
  · exact h.self _ (List.mem_map_of_mem there)

theorem proper_of_mem_kept {t : Template}
    (distinct : t.axisNames.Pairwise fun a b => (b == a) = false)
    (self : ∀ n ∈ t.axisNames, (n == n) = true) {p : Bindings} (mem : p ∈ t.kept) : p.Proper := by
  refine ⟨apart_of_mem_kept distinct mem, ?_⟩
  rw [keys_of_mem_kept mem]
  exact self

theorem pairwise_kept {t : Template} (differ : t.kept.Pairwise Dict.Differ)
    (entries : List Bindings) :
    (t.kept.map (grown t.axisNames entries)).Pairwise Dict.Differ := by
  rw [List.pairwise_map]
  refine differ.imp_of_mem fun {p q} memp memq ⟨k, other⟩ => ⟨k, ?_⟩
  have declared : Declares t.axisNames k := by
    by_contra undeclared
    have lacking := get?_undeclared (keys_of_mem_kept memp) undeclared
    exact other (lacking.trans (get?_undeclared (keys_of_mem_kept memq) undeclared).symm)
  rwa [get?_grown_declared entries declared, get?_grown_declared entries declared]

/-- When combinations are equal. If those of the axes differ from each other, then all combinations
do in the end, unless an addition of declared axes only, which differs from all combinations before
it, catches up with one of them. So they do if every addition that is not empty names something that
is no axis. -/
theorem combinations_differ_iff {t : Template} {combos : List Bindings}
    (distinct : t.axisNames.Pairwise fun a b => (b == a) = false)
    (self : ∀ n ∈ t.axisNames, (n == n) = true) (proper : ∀ e ∈ t.additions, e.Proper)
    (made : t.combinations = .ok combos) (differ : t.kept.Pairwise Dict.Differ) :
    (combos.Pairwise Dict.Differ ↔
      ∀ before e after, t.additions = before ++ e :: after →
        (∀ c ∈ { t with additions := before }.bindings, c.Differ e) →
        ∀ c ∈ { t with additions := before }.bindings, ¬ CatchesUp t.axisNames after e c) ∧
    ((∀ e ∈ t.additions, e ≠ [] → ∃ b ∈ e, ¬ Declares t.axisNames b.1) →
      combos.Pairwise Dict.Differ) := by
  obtain ⟨rfl, -⟩ := combinations_eq_ok_iff.mp made
  have all : t.bindings.Pairwise Dict.Differ ↔
      ∀ before e after, t.additions = before ++ e :: after →
        (∀ c ∈ { t with additions := before }.bindings, c.Differ e) →
        ∀ c ∈ { t with additions := before }.bindings, ¬ CatchesUp t.axisNames after e c := by
    simp only [bindings_with distinct]
    rw [pairwise_foldl_add]
    simp only [pairwise_kept differ, true_and]
    refine forall_congr' fun before => forall_congr' fun e => forall_congr' fun after => ?_
    refine imp_congr_right fun split_ => ?_
    have own : e.Proper := proper e (by simp [split_])
    have parts : ∀ c ∈ before.foldl (add t.axisNames) t.kept, c.Proper :=
      forall_foldl_add (fun _ _ => proper_grow) (fun p mem => proper_of_mem_kept distinct self mem)
        fun f mem => proper f (by simp [split_, mem])
    rw [isNew_iff parts own]
    constructor
    · intro h apart c mem up
      have differs := h ⟨fun _ _ => up.misfit, apart⟩ c mem
      exact (catchesUp_iff own (apart c mem) up.misfit).mpr up differs
    · rintro h ⟨misfit, apart⟩ c mem
      by_contra equal
      exact h apart c mem ((catchesUp_iff own (apart c mem) (misfit c mem)).mp equal)
  refine ⟨all, fun more => all.mpr fun before e after split_ _ c _ up => ?_⟩
  obtain ⟨b, mem, undeclared⟩ := more e (by simp [split_]) up.nonempty
  exact undeclared (up.plain b mem)

/-- Additions that each name something besides the axis make no combination twice. -/
theorem combinations_differ_with_further_names :
    let t : Template :=
      { id := .text "build", steps := [{ command := .line "make" }]
        axes := [{ name := .text "os", values := ["linux", "mac"] }]
        additions := [[(.text "os", "win"), (.text "cc", "cl")],
          [(.text "os", "mac"), (.text "cc", "clang")], [(.text "os", "win"), (.text "cc", "cl")]] }
    ∃ combos, t.combinations = .ok combos ∧ combos.length = 3 ∧ combos.Pairwise Dict.Differ := by
  intro t
  have known : t.combinations.toOption = some [[(.text "os", "linux")],
      [(.text "os", "mac"), (.text "cc", "clang")], [(.text "os", "win"), (.text "cc", "cl")]] := by
    decide +kernel
  have made := toOption_eq_some_iff.mp known
  have kept : t.kept = [[(.text "os", "linux")], [(.text "os", "mac")]] := by decide +kernel
  refine ⟨_, made, rfl, (combinations_differ_iff (by decide) (by decide) (by decide) made ?_).2
    (by decide)⟩
  rw [kept]
  exact .cons (fun q mem => ⟨.text "os", by cases List.mem_singleton.mp mem; decide⟩) (by simp)

/-- An addition with a further name, one without it, and the first one again: the second is
extended by the third and then equals the first. -/
theorem repeated_addition_repeats_combination :
    let t : Template :=
      { id := .text "build", steps := [{ command := .line "make" }]
        axes := [{ name := .text "toolchain", values := ["stable"] }]
        additions := [[(.text "toolchain", "nightly"), (.text "flags", "a")],
          [(.text "toolchain", "nightly")],
          [(.text "toolchain", "nightly"), (.text "flags", "a")]] }
    t.axisNames.Pairwise (fun a b => (b == a) = false) ∧ t.kept.Pairwise Dict.Differ ∧
      ∃ combos, t.combinations = .ok combos ∧ ¬ combos.Pairwise Dict.Differ := by
  intro t
  have kept : t.kept = [[(.text "toolchain", "stable")]] := by decide +kernel
  have known : t.combinations.toOption = some [[(.text "toolchain", "stable")],
      [(.text "toolchain", "nightly"), (.text "flags", "a")],
      [(.text "toolchain", "nightly"), (.text "flags", "a")]] := by decide +kernel
  refine ⟨by decide, by rw [kept]; exact List.pairwise_singleton _ _, _,
    toOption_eq_some_iff.mp known, fun differ => ?_⟩
  obtain ⟨k, other⟩ := (List.pairwise_cons.mp (List.pairwise_cons.mp differ).2).1 _ (.head _)
  exact other rfl

end Template

end JobMatrix
