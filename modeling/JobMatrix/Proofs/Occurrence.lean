import JobMatrix.Proofs.Instantiation

/-! The language of placeholders. `Written` says how a placeholder is written and `Occurs` where one
stands in a text, without a scan of the text. A dollar sign starts a placeholder and stands nowhere
else in one, so that no two of them share a character and a scan from the left meets every one. Main
statement: a text is filled by putting the bound values in the places of all its placeholders at
once, and cannot be filled exactly if one of them names an axis that is not bound. -/

namespace JobMatrix

namespace Placeholder

variable {c : Char} {r rest s : List Char} {axis : String}

/-- The ways to write a placeholder for an axis. -/
inductive Written : String → List Char → Prop
  | intro {lead trail inner : List Char} {initial : Char}
      (leadBlank : ∀ c ∈ lead, Text.isBlank c = true)
      (trailBlank : ∀ c ∈ trail, Text.isBlank c = true)
      (starts : isInitial initial = true) (goesOn : ∀ c ∈ inner, isInner c = true) :
      Written (String.ofList (initial :: inner))
        (['$', '\x7b', '\x7b'] ++ lead ++ ['m', 'a', 't', 'r', 'i', 'x', '.'] ++
          initial :: inner ++ trail ++ ['\x7d', '\x7d'])

theorem isInner_bounds (h : isInner c = true) : 45 ≤ c.toNat ∧ c.toNat ≤ 122 := by
  delta isInner isInitial Char.isAlpha Char.isUpper Char.isLower Char.isDigit at h
  simp only [Bool.or_eq_true, decide_eq_true_eq, Bool.and_eq_true, UInt32.le_iff_toNat_le,
    ge_iff_le] at h
  have code : c.toNat = c.val.toNat := rfl
  rcases h with (((⟨low, high⟩ | ⟨low, high⟩) | rfl) | ⟨low, high⟩) | rfl
  · exact ⟨Nat.le_trans (by decide) low, Nat.le_trans high (by decide)⟩
  · exact ⟨Nat.le_trans (by decide) low, Nat.le_trans high (by decide)⟩
  · decide
  · exact ⟨Nat.le_trans (by decide) low, Nat.le_trans high (by decide)⟩
  · decide

theorem isInner_of_isInitial (h : isInitial c = true) : isInner c = true := by
  simp [isInner, h]

theorem isInner_of_isBlank (blank : Text.isBlank c = true) : isInner c = false := by
  by_contra inner
  obtain ⟨low, high⟩ := isInner_bounds (by simpa using inner)
  simp only [Text.isBlank, Bool.or_eq_true, Bool.and_eq_true, decide_eq_true_eq,
    beq_iff_eq] at blank
  omega

/-- What stands before a character of another class is all that is taken of this class. -/
theorem span_exact {p : Char → Bool} {body : List Char} (inside : ∀ c ∈ body, p c = true)
    (stop : ∀ c, rest.head? = some c → p c = false) :
    (body ++ rest).takeWhile p = body ∧ (body ++ rest).dropWhile p = rest := by
  rw [List.takeWhile_append_of_pos inside, List.dropWhile_append_of_pos inside]
  cases rest with
  | nil => simp
  | cons c rest => simp [stop c rfl]

theorem closing?_of_written {trail inner : List Char} {initial : Char}
    (trailBlank : ∀ c ∈ trail, Text.isBlank c = true) (starts : isInitial initial = true)
    (goesOn : ∀ c ∈ inner, isInner c = true) (rest : List Char) :
    closing? (initial :: (inner ++ (trail ++ '\x7d' :: '\x7d' :: rest))) =
      some (String.ofList (initial :: inner), rest) := by
  have stop : ∀ c, (trail ++ '\x7d' :: '\x7d' :: rest).head? = some c → isInner c = false := by
    intro c head
    cases trail with
    | nil =>
      cases head
      decide
    | cons d trail =>
      cases head
      exact isInner_of_isBlank (trailBlank c List.mem_cons_self)
  have brace : ∀ c, ('\x7d' :: '\x7d' :: rest).head? = some c → Text.isBlank c = false := by
    rintro c ⟨⟩
    decide
  obtain ⟨name, after⟩ := span_exact goesOn stop
  simp only [closing?, starts, if_true, name, after, (span_exact trailBlank brace).2]

theorem leading?_of_written {word : List Char} (h : Written axis word) (rest : List Char) :
    leading? (word ++ rest) = some (axis, rest) := by
  cases h with
  | @intro lead trail inner initial leadBlank trailBlank starts goesOn =>
    have stop : ∀ c, ('m' :: 'a' :: 't' :: 'r' :: 'i' :: 'x' :: '.' ::
        initial :: (inner ++ (trail ++ '\x7d' :: '\x7d' :: rest))).head? = some c →
        Text.isBlank c = false := by
      rintro c ⟨⟩
      decide
    have after := (span_exact leadBlank stop).2
    simp only [List.cons_append, List.nil_append, List.append_assoc, leading?, after]
    exact closing?_of_written trailBlank starts goesOn rest

theorem exists_body {p : Char → Bool} (h : s.dropWhile p = rest) :
    ∃ body, (∀ c ∈ body, p c = true) ∧ s = body ++ rest ∧ s.takeWhile p = body := by
  refine ⟨s.takeWhile p, List.all_eq_true.mp List.all_takeWhile, ?_, rfl⟩
  rw [← h, List.takeWhile_append_dropWhile]

theorem written_of_closing? (h : closing? s = some (axis, rest)) :
    ∃ initial inner trail, isInitial initial = true ∧ (∀ c ∈ inner, isInner c = true) ∧
      (∀ c ∈ trail, Text.isBlank c = true) ∧ axis = String.ofList (initial :: inner) ∧
      s = initial :: (inner ++ (trail ++ '\x7d' :: '\x7d' :: rest)) := by
  cases s with
  | nil => cases h
  | cons initial r =>
    simp only [closing?] at h
    split at h
    · next starts =>
      split at h
      · next closed =>
        cases h
        obtain ⟨trail, trailBlank, after, -⟩ := exists_body closed
        obtain ⟨inner, goesOn, whole, name⟩ := exists_body after
        rw [name]
        exact ⟨initial, inner, trail, starts, goesOn, trailBlank, rfl, by rw [whole]⟩
      · cases h
    · cases h

theorem written_of_leading? (h : leading? s = some (axis, rest)) :
    ∃ word, Written axis word ∧ s = word ++ rest := by
  unfold leading? at h
  split at h
  · split at h
    · next opened =>
      obtain ⟨lead, leadBlank, rfl, -⟩ := exists_body opened
      obtain ⟨initial, inner, trail, starts, goesOn, trailBlank, rfl, rfl⟩ := written_of_closing? h
      exact ⟨_, .intro leadBlank trailBlank starts goesOn, by simp⟩
    · cases h
  · cases h

/-- The scan for a placeholder at the start of a text finds what is written there. -/
theorem leading?_eq_some_iff :
    leading? s = some (axis, rest) ↔ ∃ word, Written axis word ∧ s = word ++ rest := by
  constructor
  · exact written_of_leading?
  · rintro ⟨word, written, rfl⟩
    exact leading?_of_written written rest

/-- A dollar sign starts a placeholder and stands nowhere else in it. -/
theorem Written.dollar {word : List Char} (h : Written axis word) :
    ∃ tail, word = '$' :: tail ∧ '$' ∉ tail := by
  cases h with
  | @intro lead trail inner initial leadBlank trailBlank starts goesOn =>
    refine ⟨['\x7b', '\x7b'] ++ lead ++ ['m', 'a', 't', 'r', 'i', 'x', '.'] ++ initial :: inner ++
      trail ++ ['\x7d', '\x7d'], rfl, ?_⟩
    have noBlank {cs : List Char} (blank : ∀ c ∈ cs, Text.isBlank c = true) : '$' ∉ cs :=
      fun mem => absurd (blank _ mem) (by decide)
    have noName : '$' ∉ initial :: inner := by
      intro mem
      have named : isInner '$' = true := by
        rcases List.mem_cons.mp mem with rfl | mem
        · exact isInner_of_isInitial starts
        · exact goesOn _ mem
      exact absurd named (by decide)
    simp only [List.mem_append, noBlank leadBlank, noBlank trailBlank, noName, or_false]
    decide

/-! Where placeholders stand in a text. -/

/-- A placeholder for an axis is written in a text after so many characters. -/
structure Occurs (s : List Char) (start : Nat) (word : List Char) (axis : String) : Prop where
  written : Written axis word
  there : word <+: s.drop start

variable {word word' : List Char} {start start' : Nat} {axis' : String}

theorem Written.occurs (h : Written axis word) (rest : List Char) :
    Occurs (word ++ rest) 0 word axis :=
  ⟨h, List.prefix_append word rest⟩

theorem occurs_append (before : List Char) :
    Occurs (before ++ s) (before.length + start) word axis ↔ Occurs s start word axis := by
  have same : (before ++ s).drop (before.length + start) = s.drop start :=
    List.drop_length_add_append ..
  exact ⟨fun h => ⟨h.written, same ▸ h.there⟩, fun h => ⟨h.written, same ▸ h.there⟩⟩

theorem Occurs.leads (h : Occurs s 0 word axis) :
    ∃ rest, leading? s = some (axis, rest) ∧ s = word ++ rest := by
  obtain ⟨rest, same⟩ := h.there
  exact ⟨rest, leading?_eq_some_iff.mpr ⟨word, h.written, same.symm⟩, same.symm⟩

/-- After a placeholder at the start of a text, all others stand behind it. -/
theorem occurs_after_iff (h : Written axis word) :
    Occurs (word ++ rest) start word' axis' ↔
      start = 0 ∧ word' = word ∧ axis' = axis ∨
        ∃ k, start = word.length + k ∧ Occurs rest k word' axis' := by
  constructor
  · intro other
    rcases Nat.lt_or_ge start word.length with inside | behind
    · left
      cases start with
      | zero =>
        obtain ⟨rest', leads, same⟩ := other.leads
        rw [leading?_of_written h] at leads
        cases leads
        exact ⟨rfl, (List.append_cancel_right same).symm, rfl⟩
      | succ n =>
        -- The dollar sign of the other would stand inside this one.
        obtain ⟨tail, rfl, once⟩ := h.dollar
        obtain ⟨tail', rfl, -⟩ := other.written.dollar
        obtain ⟨rest', same⟩ := other.there
        have at_ : (tail ++ rest)[n]? = some '$' := by
          rw [← List.head?_drop]
          exact (congrArg List.head? same).symm
        rw [List.getElem?_append_left (by simpa using inside)] at at_
        exact absurd (List.mem_of_getElem? at_) once
    · right
      obtain ⟨k, rfl⟩ := Nat.exists_eq_add_of_le behind
      exact ⟨k, rfl, (occurs_append word).mp other⟩
  · rintro (⟨rfl, rfl, rfl⟩ | ⟨k, rfl, other⟩)
    · exact h.occurs rest
    · exact (occurs_append word).mpr other

theorem occurs_cons_iff (plain : leading? (c :: r) = none) :
    Occurs (c :: r) start word axis ↔ ∃ k, start = 1 + k ∧ Occurs r k word axis := by
  constructor
  · intro h
    cases start with
    | zero =>
      obtain ⟨rest, leads, -⟩ := h.leads
      rw [plain] at leads
      cases leads
    | succ k => exact ⟨k, Nat.add_comm k 1, (occurs_append [c]).mp (Nat.add_comm k 1 ▸ h)⟩
  · rintro ⟨k, rfl, h⟩
    exact (occurs_append [c]).mpr h

theorem Occurs.of_drop (h : Occurs s (start + start') word axis) :
    Occurs (s.drop start) start' word axis :=
  ⟨h.written, by rw [List.drop_drop]; exact h.there⟩

theorem Occurs.apart_of_le (h : Occurs s start word axis) (h' : Occurs s start' word' axis')
    (order : start ≤ start') :
    start = start' ∧ word = word' ∧ axis = axis' ∨ start + word.length ≤ start' := by
  obtain ⟨k, rfl⟩ := Nat.exists_eq_add_of_le order
  obtain ⟨rest, same⟩ := h.there
  have other := h'.of_drop
  rw [← same] at other
  rcases (occurs_after_iff h.written).mp other with ⟨rfl, rfl, rfl⟩ | ⟨k', rfl, -⟩
  · exact .inl ⟨rfl, rfl, rfl⟩
  · exact .inr (by omega)

/-- Two placeholders of a text are one and the same, or share no character. -/
theorem Occurs.apart (h : Occurs s start word axis) (h' : Occurs s start' word' axis') :
    start = start' ∧ word = word' ∧ axis = axis' ∨ start + word.length ≤ start' ∨
      start' + word'.length ≤ start := by
  rcases Nat.le_total start start' with order | order
  · rcases h.apart_of_le h' order with same | apart
    · exact .inl same
    · exact .inr (.inl apart)
  · rcases h'.apart_of_le h order with ⟨rfl, rfl, rfl⟩ | apart
    · exact .inl ⟨rfl, rfl, rfl⟩
    · exact .inr (.inr apart)

/-! What the scan of a text finds and makes of it. -/

theorem reference_mem_pieces_iff :
    .reference axis ∈ pieces s ↔ ∃ start word, Occurs s start word axis := by
  fun_induction pieces s with
  | case1 s name rest leads ih =>
    obtain ⟨first, written, rfl⟩ := written_of_leading? leads
    simp only [List.mem_cons, Piece.reference.injEq, ih, occurs_after_iff written]
    constructor
    · rintro (rfl | ⟨k, word, there⟩)
      · exact ⟨0, first, .inl ⟨rfl, rfl, rfl⟩⟩
      · exact ⟨_, word, .inr ⟨k, rfl, there⟩⟩
    · rintro ⟨start, word, ⟨-, -, same⟩ | ⟨k, -, there⟩⟩
      · exact .inl same
      · exact .inr ⟨k, word, there⟩
  | case2 =>
    simp only [List.not_mem_nil, false_iff]
    rintro ⟨start, word, h⟩
    obtain ⟨tail, rfl, -⟩ := h.written.dollar
    simpa using h.there
  | case3 c r leads ih =>
    simp only [List.mem_cons, reduceCtorEq, false_or, ih, occurs_cons_iff leads]
    constructor
    · rintro ⟨k, word, there⟩
      exact ⟨_, word, k, rfl, there⟩
    · rintro ⟨start, word, k, -, there⟩
      exact ⟨k, word, there⟩

theorem mem_referenced_iff {text : String} :
    axis ∈ referenced text ↔ ∃ start word, Occurs text.toList start word axis := by
  rw [mem_referenced, mem_references, reference_mem_pieces_iff]

variable {lookup : String → Option String}

/-- What a character of a text contributes when the text is filled: the first of a placeholder the
value of the axis, the others of a placeholder nothing, and any other character itself. -/
inductive Contributes (lookup : String → Option String) (s : List Char) (i : Nat) :
    List Char → Prop
  | value {word : List Char} {axis v : String} (occurs : Occurs s i word axis)
      (bound : lookup axis = some v) : Contributes lookup s i v.toList
  | inside {start : Nat} {word : List Char} {axis : String} (occurs : Occurs s start word axis)
      (after : start < i) (within : i < start + word.length) : Contributes lookup s i []
  | plain {c : Char} (char : s[i]? = some c)
      (outside : ∀ start word axis, Occurs s start word axis →
        i < start ∨ start + word.length ≤ i) : Contributes lookup s i [c]

/-- A text with all its placeholders replaced at once. -/
def Filled (lookup : String → Option String) (s filled : List Char) : Prop :=
  ∃ parts : List (List Char), filled = parts.flatten ∧ parts.length = s.length ∧
    ∀ i part, parts[i]? = some part → Contributes lookup s i part

/-- No placeholder goes beyond the first part of a text. -/
def Splits (before s : List Char) : Prop :=
  ∀ start word axis, Occurs (before ++ s) start word axis →
    start + word.length ≤ before.length ∨
      ∃ k, start = before.length + k ∧ Occurs s k word axis

theorem Contributes.behind {before part : List Char} {i : Nat} (splits : Splits before s)
    (h : Contributes lookup s i part) :
    Contributes lookup (before ++ s) (before.length + i) part := by
  cases h with
  | value occurs bound => exact .value ((occurs_append before).mpr occurs) bound
  | inside occurs after within =>
    exact .inside ((occurs_append before).mpr occurs) (by omega) (by omega)
  | plain char outside =>
    refine .plain ?_ fun start word axis occurs => ?_
    · rw [List.getElem?_append_right (by omega), Nat.add_sub_cancel_left, char]
    · rcases splits start word axis occurs with early | ⟨k, rfl, there⟩
      · exact .inr (by omega)
      · have := outside k word axis there
        omega

theorem Filled.behind {before filled : List Char} {parts : List (List Char)}
    (splits : Splits before s) (length : parts.length = before.length)
    (first : ∀ i part, parts[i]? = some part → Contributes lookup (before ++ s) i part)
    (h : Filled lookup s filled) : Filled lookup (before ++ s) (parts.flatten ++ filled) := by
  obtain ⟨parts', rfl, length', rest⟩ := h
  refine ⟨parts ++ parts', by simp, by simp [length, length'], fun i part at_ => ?_⟩
  rcases Nat.lt_or_ge i parts.length with inside | behind
  · rw [List.getElem?_append_left inside] at at_
    exact first i part at_
  · rw [List.getElem?_append_right behind] at at_
    obtain ⟨k, rfl⟩ := Nat.exists_eq_add_of_le behind
    rw [Nat.add_sub_cancel_left] at at_
    rw [length]
    exact (rest k part at_).behind splits

theorem splits_written (h : Written axis word) (rest : List Char) : Splits word rest := by
  intro start word' axis' occurs
  rcases (occurs_after_iff h).mp occurs with ⟨rfl, rfl, -⟩ | there
  · exact .inl (by omega)
  · exact .inr there

theorem splits_plain (plain : leading? (c :: r) = none) : Splits [c] r :=
  fun _ _ _ occurs => .inr ((occurs_cons_iff plain).mp occurs)

theorem Filled.written {filled : List Char} {v : String} (h : Written axis word)
    (bound : lookup axis = some v) (later : Filled lookup rest filled) :
    Filled lookup (word ++ rest) (v.toList ++ filled) := by
  obtain ⟨tail, rfl, -⟩ := id h.dollar
  have whole : v.toList = (v.toList :: List.replicate tail.length []).flatten := by simp
  rw [whole]
  refine later.behind (splits_written h rest) (by simp) fun i part at_ => ?_
  cases i with
  | zero =>
    cases at_
    exact .value (h.occurs rest) bound
  | succ i =>
    obtain ⟨inside, rfl⟩ : i < tail.length ∧ [] = part := by
      simpa [List.getElem?_replicate] using at_
    exact .inside (h.occurs rest) (by omega) (by simpa using inside)

theorem Filled.plain {filled : List Char} (plain : leading? (c :: r) = none)
    (later : Filled lookup r filled) : Filled lookup (c :: r) (c :: filled) := by
  have first : ∀ i part, ([[c]] : List (List Char))[i]? = some part →
      Contributes lookup ([c] ++ r) i part := by
    intro i part at_
    cases i with
    | zero =>
      cases at_
      refine .plain rfl fun start word axis occurs => ?_
      obtain ⟨k, rfl, -⟩ := (occurs_cons_iff plain).mp occurs
      exact .inl (by omega)
    | succ i => cases at_
  exact later.behind (splits_plain plain) rfl first

theorem map_eq_ok_iff {α β ε : Type} {x : Except ε α} {f : α → β} {b : β} :
    x.map f = .ok b ↔ ∃ a, x = .ok a ∧ f a = b := by
  cases x <;> simp [Except.map]

theorem map_eq_error_iff {α β ε : Type} {x : Except ε α} {f : α → β} {e : ε} :
    x.map f = .error e ↔ x = .error e := by
  cases x <;> simp [Except.map]

theorem filled_of_fill {filled : List Char} (h : fill lookup (pieces s) = .ok filled) :
    Filled lookup s filled := by
  fun_induction pieces s generalizing filled with
  | case1 s name rest leads ih =>
    obtain ⟨word, written, rfl⟩ := written_of_leading? leads
    cases found : lookup name with
    | none => simp [fill, found] at h
    | some v =>
      simp only [fill, found, map_eq_ok_iff] at h
      obtain ⟨later, filled, rfl⟩ := h
      exact (ih filled).written written found
  | case2 =>
    cases h
    exact ⟨[], rfl, rfl, by simp⟩
  | case3 c r leads ih =>
    simp only [fill, map_eq_ok_iff] at h
    obtain ⟨later, filled, rfl⟩ := h
    exact (ih filled).plain leads

/-- A text that cannot be filled has a placeholder whose axis is not bound, and all before it are
bound. -/
theorem first_unbound_of_fill (h : fill lookup (pieces s) = .error axis) :
    ∃ start word, Occurs s start word axis ∧ lookup axis = none ∧
      ∀ start' word' axis', Occurs s start' word' axis' → start' < start →
        ∃ v, lookup axis' = some v := by
  fun_induction pieces s with
  | case1 s name rest leads ih =>
    obtain ⟨first, written, rfl⟩ := written_of_leading? leads
    cases found : lookup name with
    | none =>
      simp only [fill, found, Except.error.injEq] at h
      subst h
      exact ⟨0, first, written.occurs rest, found, fun _ _ _ _ before => absurd before (by omega)⟩
    | some v =>
      simp only [fill, found, map_eq_error_iff] at h
      obtain ⟨start, word, there, lacking, bound⟩ := ih h
      refine ⟨_, word, (occurs_append first).mpr there, lacking, ?_⟩
      intro start' word' axis' h before
      rcases (occurs_after_iff written).mp h with ⟨-, -, rfl⟩ | ⟨k, rfl, other⟩
      · exact ⟨v, found⟩
      · exact bound k word' axis' other (by omega)
  | case2 => cases h
  | case3 c r leads ih =>
    simp only [fill, map_eq_error_iff] at h
    obtain ⟨start, word, there, lacking, bound⟩ := ih h
    refine ⟨_, word, (occurs_append [c]).mpr there, lacking, fun start' word' axis' h before => ?_⟩
    obtain ⟨k, rfl, other⟩ := (occurs_cons_iff leads).mp h
    exact bound k word' axis' other (by simp only [List.length_singleton] at before; omega)

theorem fill_congr {lookup' : String → Option String} {ps : List Piece}
    (same : ∀ axis, .reference axis ∈ ps → lookup' axis = lookup axis) :
    fill lookup' ps = fill lookup ps := by
  induction ps with
  | nil => rfl
  | cons p rest ih =>
    have later := ih fun axis mem => same axis (List.mem_cons_of_mem p mem)
    cases p with
    | char c => rw [fill, fill, later]
    | reference name => rw [fill, fill, later, same name List.mem_cons_self]

end Placeholder

open Placeholder

/-- The placeholders of a text never overlap, and the axes that it refers to are those they name.
The text cannot be filled exactly if one of these is not bound, and then the first that is not bound
from the left is named. Otherwise every placeholder is replaced by the value of its axis, and every
other character stays; a value is put in as it is. So bindings of other axes do not matter. -/
theorem placeholders_filled_at_once (text : String) (b : Bindings) :
    (∀ start word axis start' word' axis', Occurs text.toList start word axis →
      Occurs text.toList start' word' axis' →
        start = start' ∧ word = word' ∧ axis = axis' ∨ start + word.length ≤ start' ∨
          start' + word'.length ≤ start) ∧
    (∀ axis, axis ∈ referenced text ↔ ∃ start word, Occurs text.toList start word axis) ∧
    ((∃ e, substitute text b = .error e) ↔
      ∃ axis ∈ referenced text, Dict.get? b (.text axis) = none) ∧
    (∀ e, substitute text b = .error e → ∃ start word axis,
      e = .unboundReference axis text ∧ Occurs text.toList start word axis ∧
      Dict.get? b (.text axis) = none ∧
      ∀ start' word' axis', Occurs text.toList start' word' axis' → start' < start →
        ∃ v, Dict.get? b (.text axis') = some v) ∧
    (∀ s, substitute text b = .ok s →
      Filled (fun axis => Dict.get? b (.text axis)) text.toList s.toList) ∧
    ∀ b', (∀ axis ∈ referenced text, Dict.get? b' (.text axis) = Dict.get? b (.text axis)) →
      substitute text b' = substitute text b := by
  refine ⟨fun _ _ _ _ _ _ h h' => h.apart h', fun _ => mem_referenced_iff, ?_, ?_, ?_, ?_⟩
  · constructor
    · rintro ⟨e, failed⟩
      obtain ⟨axis, mem, lacking⟩ := (substitute_error failed).1
      exact ⟨axis, mem_referenced.mpr mem, lacking⟩
    · rintro ⟨axis, mem, lacking⟩
      cases result : substitute text b with
      | error e => exact ⟨e, rfl⟩
      | ok s => exact absurd ⟨axis, mem_referenced.mp mem, lacking⟩ (substitute_ok result)
  · intro e failed
    unfold substitute at failed
    split at failed
    · cases failed
    · next axis unfilled =>
      cases failed
      obtain ⟨start, word, there⟩ := first_unbound_of_fill unfilled
      exact ⟨start, word, axis, rfl, there⟩
  · intro s done
    unfold substitute at done
    split at done
    · next filled =>
      cases done
      rw [String.toList_ofList]
      exact filled_of_fill filled
    · cases done
  · intro b' same
    unfold substitute
    rw [fill_congr fun axis mem => same axis (mem_referenced.mpr (mem_references.mpr mem))]

-- A value that looks like a placeholder is put in as it is, between what only looks like braces.
example : (substitute "$$\x7b\x7b matrix.a\t\x7d\x7d\x7d"
    [(.text "a", "$\x7b\x7bmatrix.b\x7d\x7d")]).toOption =
      some "$$\x7b\x7bmatrix.b\x7d\x7d\x7d" := by
  decide +kernel

end JobMatrix
