import JobMatrix.Dict
import Mathlib.Data.List.Basic
import Mathlib.Data.List.Nodup

/-! Lookup in dictionaries, and computations that may fail: one after another, and over a list. -/

namespace JobMatrix

variable {α β ε : Type}

theorem findSome?_cons_or (f : α → Option β) (a : α) (l : List α) :
    (a :: l).findSome? f = (f a).or (l.findSome? f) := by
  cases found : f a <;> simp [found]

namespace Dict

variable {κ ν : Type} [BEq κ]

theorem get?_put [EquivBEq κ] (d : Dict κ ν) (key key' : κ) (v : ν) :
    get? (put d key v) key' = if key == key' then some v else get? d key' := by
  induction d with
  | nil => rfl
  | cons e rest ih =>
    obtain ⟨k, old⟩ := e
    unfold put
    split
    · next same =>
      have alike : (k == key') = (key == key') := BEq.congr_left same
      by_cases hit : (key == key') = true <;> simp [get?, alike, hit]
    · next other =>
      by_cases hit : (k == key') = true
      · have miss : (key == key') = false := by
          by_contra h
          exact other (BEq.trans hit (BEq.symm (by simpa using h)))
        simp [get?, hit, miss]
      · simp [get?, hit, ih]

theorem get?_put_self (d : Dict κ ν) {key : κ} (v : ν) (own : (key == key) = true) :
    get? (put d key v) key = some v := by
  induction d with
  | nil => simp [put, get?, own]
  | cons e rest ih =>
    by_cases here : (e.1 == key) = true
    · simp [put, get?, here]
    · simp [put, get?, here, ih]

theorem get?_map {ν' : Type} (d : Dict κ ν) (f : ν → ν') (key : κ) :
    get? (d.map fun e => (e.1, f e.2)) key = (get? d key).map f := by
  induction d with
  | nil => rfl
  | cons e rest ih =>
    by_cases hit : (e.1 == key) = true <;> simp [get?, hit, ih]

theorem mem_of_get? [LawfulBEq κ] {d : Dict κ ν} {key : κ} {v : ν} (h : get? d key = some v) :
    (key, v) ∈ d := by
  induction d with
  | nil => cases h
  | cons e rest ih =>
    obtain ⟨k, old⟩ := e
    unfold get? at h
    split at h
    · next hit =>
      cases h
      exact beq_iff_eq.mp hit ▸ List.mem_cons_self
    · exact List.mem_cons_of_mem _ (ih h)

/-- A value that is found stands under some key, if not under the one that was looked for. -/
theorem exists_mem_of_get? {d : Dict κ ν} {key : κ} {v : ν} (h : get? d key = some v) :
    ∃ k, (k, v) ∈ d := by
  induction d with
  | nil => cases h
  | cons e rest ih =>
    obtain ⟨k, old⟩ := e
    unfold get? at h
    split at h
    · cases h
      exact ⟨k, List.mem_cons_self⟩
    · obtain ⟨k', mem⟩ := ih h
      exact ⟨k', List.mem_cons_of_mem _ mem⟩

theorem mem_put {d : Dict κ ν} {key : κ} {v : ν} {e : κ × ν} (h : e ∈ put d key v) :
    e ∈ d ∨ e.2 = v ∧ (e.1 = key ∨ e.1 ∈ keys d) := by
  induction d with
  | nil =>
    cases List.mem_singleton.mp h
    exact .inr ⟨rfl, .inl rfl⟩
  | cons e' rest ih =>
    obtain ⟨k, old⟩ := e'
    unfold put at h
    split at h
    · rcases List.mem_cons.mp h with rfl | later
      · exact .inr ⟨rfl, .inr List.mem_cons_self⟩
      · exact .inl (List.mem_cons_of_mem _ later)
    · rcases List.mem_cons.mp h with rfl | later
      · exact .inl List.mem_cons_self
      · rcases ih later with old | ⟨same, known⟩
        · exact .inl (List.mem_cons_of_mem _ old)
        · exact .inr ⟨same, known.imp_right (List.mem_cons_of_mem _)⟩

theorem mem_merge {d upper : Dict κ ν} {e : κ × ν} (h : e ∈ merge d upper) :
    e ∈ d ∨ ∃ e' ∈ upper, e.2 = e'.2 := by
  unfold merge at h
  induction upper generalizing d with
  | nil => exact .inl h
  | cons first rest ih =>
    rcases ih h with old | ⟨e', mem, same⟩
    · exact (mem_put old).imp_right fun same => ⟨first, List.mem_cons_self, same.1⟩
    · exact .inr ⟨e', List.mem_cons_of_mem _ mem, same⟩

/-- One entry for each key. -/
def Distinct (d : Dict κ ν) : Prop := (keys d).Nodup

omit [BEq κ] in
instance [DecidableEq κ] (d : Dict κ ν) : Decidable d.Distinct :=
  inferInstanceAs (Decidable (keys d).Nodup)

theorem get?_eq_none_iff [LawfulBEq κ] {d : Dict κ ν} {key : κ} :
    get? d key = none ↔ key ∉ keys d := by
  induction d with
  | nil => simp [get?, keys]
  | cons e rest ih =>
    obtain ⟨k, v⟩ := e
    by_cases hit : k = key
    · simp [get?, keys, hit]
    · simpa [get?, keys, hit, Ne.symm hit] using ih

theorem keys_put [LawfulBEq κ] (d : Dict κ ν) (key : κ) (v : ν) :
    keys (put d key v) = keys d ∨ key ∉ keys d ∧ keys (put d key v) = keys d ++ [key] := by
  induction d with
  | nil => simp [put, keys]
  | cons e rest ih =>
    obtain ⟨k, old⟩ := e
    by_cases hit : k = key
    · simp [put, keys, hit]
    · simpa [put, keys, hit, Ne.symm hit] using ih

theorem Distinct.put [LawfulBEq κ] {d : Dict κ ν} (h : d.Distinct) (key : κ) (v : ν) :
    (put d key v).Distinct := by
  unfold Distinct
  rcases keys_put d key v with same | ⟨new, more⟩
  · rw [same]
    exact h
  · rw [more]
    refine List.nodup_append.mpr ⟨h, by simp, fun k mem k' last same => new ?_⟩
    rw [← List.mem_singleton.mp last, ← same]
    exact mem

theorem Distinct.merge [LawfulBEq κ] {d : Dict κ ν} (h : d.Distinct) (upper : Dict κ ν) :
    (merge d upper).Distinct := by
  unfold Dict.merge
  induction upper generalizing d with
  | nil => exact h
  | cons e rest ih => exact ih (h.put e.1 e.2)

theorem distinct_ofList [LawfulBEq κ] (entries : List (κ × ν)) : (ofList entries).Distinct := by
  have empty : Distinct ([] : Dict κ ν) := List.nodup_nil
  exact empty.merge entries

theorem Distinct.get?_of_mem [LawfulBEq κ] {d : Dict κ ν} (h : d.Distinct) {key : κ} {v : ν}
    (mem : (key, v) ∈ d) : get? d key = some v := by
  induction d with
  | nil => cases mem
  | cons e rest ih =>
    obtain ⟨k, old⟩ := e
    obtain ⟨new, h⟩ := List.nodup_cons.mp h
    rcases List.mem_cons.mp mem with same | later
    · cases same
      simp [get?]
    · have other : k ≠ key := by
        rintro rfl
        exact new (List.mem_map_of_mem (f := (·.1)) later)
      simpa [get?, other] using ih h later

theorem Distinct.mem_iff [LawfulBEq κ] {d : Dict κ ν} (h : d.Distinct) (e : κ × ν) :
    e ∈ d ↔ get? d e.1 = some e.2 :=
  ⟨h.get?_of_mem, mem_of_get?⟩

omit [BEq κ] in
theorem Distinct.perm {d d' : Dict κ ν} (h : d.Distinct) (p : List.Perm d' d) : d'.Distinct :=
  (p.map Prod.fst).nodup_iff.mpr h

theorem Distinct.get?_perm [LawfulBEq κ] {d d' : Dict κ ν} (h : d.Distinct) (p : List.Perm d' d)
    (key : κ) : get? d' key = get? d key := by
  refine Option.ext fun v => ?_
  rw [← (h.perm p).mem_iff (key, v), ← h.mem_iff (key, v), p.mem_iff]

theorem Distinct.put_perm [LawfulBEq κ] {d d' : Dict κ ν} (h : d.Distinct) (p : List.Perm d' d)
    (key : κ) (v : ν) : List.Perm (Dict.put d' key v) (Dict.put d key v) := by
  have distinct := h.put key v
  have distinct' := (h.perm p).put key v
  refine (List.perm_ext_iff_of_nodup (List.Nodup.of_map _ distinct')
    (List.Nodup.of_map _ distinct)).mpr fun e => ?_
  rw [distinct'.mem_iff, distinct.mem_iff, get?_put, get?_put, h.get?_perm p]

theorem put_new [LawfulBEq κ] {d : Dict κ ν} {key : κ} (new : key ∉ keys d) (v : ν) :
    put d key v = d ++ [(key, v)] := by
  induction d with
  | nil => rfl
  | cons e rest ih =>
    obtain ⟨k, old⟩ := e
    simp only [keys, List.map_cons, List.mem_cons, not_or] at new
    simp [put, Ne.symm new.1, ih new.2]

theorem putNew_new [LawfulBEq κ] {d : Dict κ ν} {key : κ} (new : key ∉ keys d) (v : ν) :
    putNew d key v = d ++ [(key, v)] := by
  simp [putNew, contains, get?_eq_none_iff.mpr new]

omit [BEq κ] in
theorem Distinct.foldl_append {put' : Dict κ ν → κ → ν → Dict κ ν}
    (appends : ∀ {d : Dict κ ν} {key : κ}, key ∉ keys d → ∀ v, put' d key v = d ++ [(key, v)])
    {d entries : Dict κ ν} (h : (d ++ entries).Distinct) :
    entries.foldl (fun acc e => put' acc e.1 e.2) d = d ++ entries := by
  induction entries generalizing d with
  | nil => simp
  | cons e rest ih =>
    obtain ⟨k, v⟩ := e
    have new : k ∉ keys d := by
      unfold Distinct at h
      simp only [keys, List.map_append, List.map_cons] at h
      intro old
      exact (List.nodup_append.mp h).2.2 k old k List.mem_cons_self rfl
    rw [List.foldl_cons, appends new, ih (by simpa using h), List.append_assoc,
      List.singleton_append]

theorem Distinct.ofList_eq [LawfulBEq κ] {entries : Dict κ ν} (h : entries.Distinct) :
    ofList entries = entries :=
  Distinct.foldl_append (d := []) put_new h

theorem get?_merge [LawfulBEq κ] (d : Dict κ ν) {upper : Dict κ ν} (h : upper.Distinct)
    (key : κ) : get? (merge d upper) key = (get? upper key).or (get? d key) := by
  induction upper generalizing d with
  | nil => rfl
  | cons e rest ih =>
    obtain ⟨k, v⟩ := e
    obtain ⟨fresh, distinct⟩ := List.nodup_cons.mp h
    have later := ih (put d k v) distinct
    rw [get?_put] at later
    rw [merge, List.foldl_cons]
    refine later.trans ?_
    by_cases hit : k = key
    · subst hit
      have lacking : get? rest k = none := get?_eq_none_iff.mpr fresh
      simp [get?, lacking]
    · simp [get?, hit]

theorem get?_foldl_merge [LawfulBEq κ] (d : Dict κ ν) {uppers : List (Dict κ ν)}
    (h : ∀ upper ∈ uppers, upper.Distinct) (key : κ) :
    get? (uppers.foldl merge d) key = (uppers.reverse.findSome? (get? · key)).or (get? d key) := by
  induction uppers generalizing d with
  | nil => rfl
  | cons upper rest ih =>
    obtain ⟨first, others⟩ := List.forall_mem_cons.mp h
    rw [List.foldl_cons, ih _ others, get?_merge d first, List.reverse_cons, List.findSome?_append,
      findSome?_cons_or, List.findSome?_nil, Option.or_none, Option.or_assoc]

theorem Distinct.foldl_merge [LawfulBEq κ] {d : Dict κ ν} (h : d.Distinct)
    (uppers : List (Dict κ ν)) : (uppers.foldl Dict.merge d).Distinct := by
  induction uppers generalizing d with
  | nil => exact h
  | cons upper rest ih => exact ih (h.merge upper)

/-! Keys that are compared by an equality which is only symmetric and transitive. -/

/-- A value that is found stands under a key that is the one looked for. -/
theorem exists_mem_key {d : Dict κ ν} {key : κ} {v : ν} (h : get? d key = some v) :
    ∃ k, (k, v) ∈ d ∧ (k == key) = true := by
  induction d with
  | nil => cases h
  | cons e rest ih =>
    obtain ⟨k, old⟩ := e
    unfold get? at h
    split at h
    · next hit =>
      cases h
      exact ⟨k, List.mem_cons_self, hit⟩
    · obtain ⟨k', mem, hit⟩ := ih h
      exact ⟨k', List.mem_cons_of_mem _ mem, hit⟩

theorem exists_get?_iff {d : Dict κ ν} {key : κ} :
    (∃ v, get? d key = some v) ↔ ∃ k ∈ keys d, (k == key) = true := by
  induction d with
  | nil => simp [get?, keys]
  | cons e rest ih =>
    obtain ⟨k, v⟩ := e
    by_cases hit : (k == key) = true
    · simp [get?, keys, hit]
    · simpa [get?, keys, hit] using ih

theorem get?_append (d e : Dict κ ν) (key : κ) :
    get? (d ++ e) key = (get? d key).or (get? e key) := by
  induction d with
  | nil => rfl
  | cons first rest ih =>
    by_cases hit : (first.1 == key) = true <;> simp [get?, hit, ih]

theorem get?_congr [PartialEquivBEq κ] (d : Dict κ ν) {key key' : κ} (same : (key == key') = true) :
    get? d key = get? d key' := by
  induction d with
  | nil => rfl
  | cons e rest ih => simp only [get?, BEq.congr_right (a := e.1) same, ih]

theorem get?_putNew [PartialEquivBEq κ] (d : Dict κ ν) (key key' : κ) (v : ν) :
    get? (putNew d key v) key' = (get? d key').or (if key == key' then some v else none) := by
  unfold putNew contains
  split
  · next there =>
    by_cases hit : (key == key') = true
    · rw [get?_congr d hit] at there
      obtain ⟨w, found⟩ := Option.isSome_iff_exists.mp there
      simp [found]
    · simp [hit]
  · rw [get?_append]
    rfl

theorem get?_foldl_putNew [PartialEquivBEq κ] (d entries : Dict κ ν) (key : κ) :
    get? (entries.foldl (fun acc e => putNew acc e.1 e.2) d) key =
      (get? d key).or (get? entries key) := by
  induction entries generalizing d with
  | nil => simp [get?]
  | cons e rest ih =>
    rw [List.foldl_cons, ih, get?_putNew, Option.or_assoc]
    by_cases hit : (e.1 == key) = true <;> simp [get?, hit]

theorem prefix_foldl_putNew (d entries : Dict κ ν) :
    d <+: entries.foldl (fun acc e => putNew acc e.1 e.2) d := by
  induction entries generalizing d with
  | nil => exact List.prefix_rfl
  | cons e rest ih =>
    have first : d <+: putNew d e.1 e.2 := by
      unfold putNew
      split
      · exact List.prefix_rfl
      · exact List.prefix_append _ _
    exact first.trans (ih _)

/-- Keys of which no two are one. -/
def Apart (d : Dict κ ν) : Prop := (keys d).Pairwise fun a b => (b == a) = false

theorem put_apart {d : Dict κ ν} {key : κ} (new : ∀ k ∈ keys d, (k == key) = false) (v : ν) :
    put d key v = d ++ [(key, v)] := by
  induction d with
  | nil => rfl
  | cons e rest ih =>
    obtain ⟨k, old⟩ := e
    obtain ⟨first, later⟩ := List.forall_mem_cons.mp new
    simp [put, first, ih later]

theorem merge_apart [PartialEquivBEq κ] {d entries : Dict κ ν} (h : (d ++ entries).Apart) :
    merge d entries = d ++ entries := by
  unfold merge
  induction entries generalizing d with
  | nil => simp
  | cons e rest ih =>
    have new : ∀ k ∈ keys d, (k == e.1) = false := by
      intro k mem
      unfold Apart keys at h
      rw [List.map_append, List.pairwise_append] at h
      exact BEq.symm_false (h.2.2 k mem e.1 List.mem_cons_self)
    rw [List.foldl_cons, put_apart new, ih (by simpa using h), List.append_assoc,
      List.singleton_append]

theorem Apart.get?_of_mem [PartialEquivBEq κ] {d : Dict κ ν} (h : d.Apart) {k key : κ} {v : ν}
    (mem : (k, v) ∈ d) (same : (k == key) = true) : get? d key = some v := by
  induction d with
  | nil => cases mem
  | cons e rest ih =>
    obtain ⟨k', old⟩ := e
    obtain ⟨new, later⟩ := List.pairwise_cons.mp h
    rcases List.mem_cons.mp mem with here | there
    · cases here
      simp [get?, same]
    · have other : (k' == key) = false := by
        by_contra hit
        have one : (k == k') = true := BEq.trans same (BEq.symm (by simpa using hit))
        simp [new k (List.mem_map_of_mem (f := (·.1)) there)] at one
      simpa [get?, other] using ih later there

theorem Apart.putNew [PartialEquivBEq κ] {d : Dict κ ν} (h : d.Apart) (key : κ) (v : ν) :
    (putNew d key v).Apart := by
  unfold Dict.putNew contains
  split
  · exact h
  · next lacking =>
    have new : ∀ k ∈ keys d, (key == k) = false := by
      intro k mem
      by_contra hit
      have hit : (k == key) = true := BEq.symm (by simpa using hit)
      obtain ⟨w, found⟩ := exists_get?_iff.mpr ⟨k, mem, hit⟩
      simp [found] at lacking
    unfold Apart keys
    rw [List.map_append, List.pairwise_append]
    exact ⟨h, by simp, by simpa [keys] using new⟩

theorem Apart.foldl_putNew [PartialEquivBEq κ] {d : Dict κ ν} (h : d.Apart) (entries : Dict κ ν) :
    (entries.foldl (fun acc e => Dict.putNew acc e.1 e.2) d).Apart := by
  induction entries generalizing d with
  | nil => exact h
  | cons e rest ih => exact ih (h.putNew e.1 e.2)

/-- Whether whatever a dictionary holds is also held by another. -/
def Within (d e : Dict κ ν) : Prop := ∀ key v, get? d key = some v → get? e key = some v

theorem within_of_isPrefix {d e : Dict κ ν} (h : d <+: e) : d.Within e := by
  obtain ⟨more, rfl⟩ := h
  intro key v found
  rw [get?_append, found]
  rfl

end Dict

/-- Keys of which no two are one are no more than the keys among which they are found. -/
theorem length_le_of_apart {κ : Type} [BEq κ] [PartialEquivBEq κ] {l m : List κ}
    (apart : l.Pairwise fun a b => (b == a) = false) (found : ∀ a ∈ l, ∃ b ∈ m, (b == a) = true) :
    l.length ≤ m.length := by
  induction l generalizing m with
  | nil => simp
  | cons a l ih =>
    obtain ⟨new, apart⟩ := List.pairwise_cons.mp apart
    obtain ⟨⟨b, mem, same⟩, found⟩ := List.forall_mem_cons.mp found
    obtain ⟨before, after, rfl⟩ := List.append_of_mem mem
    have rest := ih (m := before ++ after) apart fun a' mem' => by
      obtain ⟨b', mem'', same'⟩ := found a' mem'
      have other : b' ≠ b := by
        rintro rfl
        have one : (a' == a) = true := BEq.trans (BEq.symm same') same
        simp [new a' mem'] at one
      exact ⟨b', by simpa [other] using mem'', same'⟩
    simp only [List.length_append, List.length_cons] at rest ⊢
    omega

theorem bind_eq_ok_iff {x : Except ε α} {f : α → Except ε β} {b : β} :
    x >>= f = .ok b ↔ ∃ a, x = .ok a ∧ f a = .ok b := by
  cases x <;> simp [bind, Except.bind]

theorem bind_eq_error_iff {x : Except ε α} {f : α → Except ε β} {e : ε} :
    x >>= f = .error e ↔ x = .error e ∨ ∃ a, x = .ok a ∧ f a = .error e := by
  cases x <;> simp [bind, Except.bind]

theorem mapError_eq_error_iff {ε' : Type} {x : Except ε α} {f : ε → ε'} {e' : ε'} :
    x.mapError f = .error e' ↔ ∃ e, x = .error e ∧ f e = e' := by
  cases x <;> simp [Except.mapError]

theorem mapError_eq_ok_iff {ε' : Type} {x : Except ε α} {f : ε → ε'} {a : α} :
    x.mapError f = .ok a ↔ x = .ok a := by
  cases x <;> simp [Except.mapError]

theorem toOption_eq_some_iff {x : Except ε α} {a : α} : x.toOption = some a ↔ x = .ok a := by
  cases x <;> simp [Except.toOption]

theorem mapM_eq_some_iff {f : α → Option β} {xs : List α} {ys : List β} :
    xs.mapM f = some ys ↔ xs.map f = ys.map some := by
  induction xs generalizing ys with
  | nil => cases ys <;> simp
  | cons x xs ih =>
    rw [List.mapM_cons]
    cases fx : f x with
    | none => cases ys <;> simp [fx]
    | some y =>
      cases rest : xs.mapM f with
      | none =>
        cases ys with
        | nil => simp
        | cons z zs => simpa [fx] using fun _ h => by simp [ih.mpr h] at rest
      | some zs =>
        cases ys with
        | nil => simp
        | cons z ys => simp [fx, ← ih, rest]

theorem exists_mapM_eq_some_iff {f : α → Option β} {xs : List α} :
    (∃ ys, xs.mapM f = some ys) ↔ ∀ x ∈ xs, ∃ y, f x = some y := by
  induction xs with
  | nil => simp
  | cons x xs ih =>
    rw [List.forall_mem_cons, ← ih]
    simp only [mapM_eq_some_iff]
    constructor
    · rintro ⟨ys, same⟩
      obtain ⟨y, zs, rfl⟩ : ∃ y zs, ys = y :: zs := by
        cases ys with
        | nil => simp at same
        | cons y zs => exact ⟨y, zs, rfl⟩
      obtain ⟨head, tail⟩ := List.cons.inj same
      exact ⟨⟨y, head⟩, zs, tail⟩
    · rintro ⟨⟨y, head⟩, ys, tail⟩
      exact ⟨y :: ys, by simp [head, tail]⟩

theorem mapM_eq_ok_iff {f : α → Except ε β} {xs : List α} {ys : List β} :
    xs.mapM f = .ok ys ↔ xs.map f = ys.map .ok := by
  induction xs generalizing ys with
  | nil => cases ys <;> simp [pure, Except.pure]
  | cons x xs ih =>
    rw [List.mapM_cons]
    cases fx : f x with
    | error e => cases ys <;> simp [fx, bind, Except.bind]
    | ok y =>
      cases rest : xs.mapM f with
      | error e =>
        cases ys with
        | nil => simp [bind, Except.bind]
        | cons z zs => simpa [fx, bind, Except.bind] using fun _ h => by simp [ih.mpr h] at rest
      | ok zs =>
        cases ys with
        | nil => simp [bind, Except.bind, pure, Except.pure]
        | cons z ys => simp [fx, ← ih, rest, bind, Except.bind, pure, Except.pure]

theorem mapM_ok_getElem? {f : α → Except ε β} {xs : List α} {ys : List β} (h : xs.mapM f = .ok ys)
    {n : Nat} {y : β} (at_ : ys[n]? = some y) : ∃ x, xs[n]? = some x ∧ f x = .ok y := by
  have here := congrArg (·[n]?) (mapM_eq_ok_iff.mp h)
  simp only [List.getElem?_map, at_, Option.map_some] at here
  exact Option.map_eq_some_iff.mp here

theorem mapM_ok_mem {f : α → Except ε β} {xs : List α} {ys : List β} (h : xs.mapM f = .ok ys)
    {y : β} (mem : y ∈ ys) : ∃ x ∈ xs, f x = .ok y := by
  obtain ⟨n, at_⟩ := List.mem_iff_getElem?.mp mem
  obtain ⟨x, at_', same⟩ := mapM_ok_getElem? h at_
  exact ⟨x, List.mem_of_getElem? at_', same⟩

theorem mapM_ok_made {f : α → Except ε β} {xs : List α} {ys : List β} (h : xs.mapM f = .ok ys)
    {x : α} (mem : x ∈ xs) : ∃ y ∈ ys, f x = .ok y := by
  have there : f x ∈ ys.map .ok := mapM_eq_ok_iff.mp h ▸ List.mem_map_of_mem mem
  obtain ⟨y, mem', made⟩ := List.mem_map.mp there
  exact ⟨y, mem', made.symm⟩

theorem mem_mapM_ok_iff {f : α → Except ε β} {xs : List α} {ys : List β} (h : xs.mapM f = .ok ys)
    {y : β} : y ∈ ys ↔ ∃ x ∈ xs, f x = .ok y := by
  refine ⟨mapM_ok_mem h, fun ⟨x, mem, made⟩ => ?_⟩
  obtain ⟨y', mem', made'⟩ := mapM_ok_made h mem
  cases made.symm.trans made'
  exact mem'

theorem keys_of_mapM_ok {κ : Type} {f : κ × α → Except ε (κ × β)} {es : Dict κ α} {es' : Dict κ β}
    (own : ∀ e e', f e = .ok e' → e'.1 = e.1) (h : es.mapM f = .ok es') :
    Dict.keys es' = Dict.keys es := by
  have each := mapM_eq_ok_iff.mp h
  clear h
  induction es generalizing es' with
  | nil =>
    cases es' with
    | nil => rfl
    | cons => cases each
  | cons e es ih =>
    cases es' with
    | nil => cases each
    | cons e' es' =>
      obtain ⟨here, later⟩ := List.cons.inj each
      exact congrArg₂ List.cons (own e e' here) (ih later)

theorem mapM_congr {f g : α → Except ε β} {xs : List α} (h : ∀ x ∈ xs, f x = g x) :
    xs.mapM f = xs.mapM g := by
  have mapped (f : α → Except ε β) : (xs.map f).mapM (fun x => x) = xs.mapM f := List.mapM_map
  rw [← mapped f, List.map_congr_left h, mapped g]

theorem mapM_error_mem {f : α → Except ε β} {xs : List α} {e : ε} (h : xs.mapM f = .error e) :
    ∃ x ∈ xs, f x = .error e := by
  induction xs with
  | nil => cases h
  | cons x xs ih =>
    rw [List.mapM_cons] at h
    rcases bind_eq_error_iff.mp h with own | ⟨_, -, h⟩
    · exact ⟨x, List.mem_cons_self, own⟩
    · rcases bind_eq_error_iff.mp h with later | ⟨_, -, h⟩
      · obtain ⟨x', mem, failed⟩ := ih later
        exact ⟨x', List.mem_cons_of_mem _ mem, failed⟩
      · cases h

theorem mapM_error_iff {f : α → Except ε β} {xs : List α} :
    (∃ e, xs.mapM f = .error e) ↔ ∃ a ∈ xs, ∃ e, f a = .error e := by
  induction xs with
  | nil => simp [pure, Except.pure]
  | cons a rest ih =>
    rw [List.mapM_cons]
    cases own : f a with
    | error e => exact ⟨fun _ => ⟨a, List.mem_cons_self, e, own⟩, fun _ => ⟨e, rfl⟩⟩
    | ok b =>
      have later : (∃ a' ∈ a :: rest, ∃ e, f a' = .error e) ↔
          ∃ a' ∈ rest, ∃ e, f a' = .error e := by
        simp [own]
      rw [later, ← ih]
      cases rest.mapM f <;> simp [bind, Except.bind, pure, Except.pure]

end JobMatrix
