import JobMatrix.Glob
import Mathlib.Data.List.Basic
import Mathlib.Data.List.TakeWhile

/-! The language of a pattern. A pattern spells signs, and each sign stands for texts, which is said
without regard to how a text is matched. Main statement: a text fits a pattern exactly if it belongs
to the language of the signs. -/

namespace JobMatrix.Glob

/-- A sign of a pattern: any text, any character, a character that a class lists or does not list,
or a character that stands for itself. -/
inductive Sign where
  | many
  | one
  | group (negated : Bool) (body : List Char)
  | plain (c : Char)

/-- A class up to its closing bracket, and what follows it. The body is not empty, and only its first
character may be a closing bracket. -/
inductive Encloses : List Char → Bool → List Char → List Char → Prop
  | listing {first more rest} : first ≠ '!' → ']' ∉ more →
      Encloses (first :: (more ++ ']' :: rest)) false (first :: more) rest
  | negated {first more rest} : ']' ∉ more →
      Encloses ('!' :: first :: (more ++ ']' :: rest)) true (first :: more) rest

/-- A pattern spells signs. A bracket that opens no class stands for itself. -/
inductive Spells : List Char → List Sign → Prop
  | nil : Spells [] []
  | many {p signs} : Spells p signs → Spells ('*' :: p) (.many :: signs)
  | one {p signs} : Spells p signs → Spells ('?' :: p) (.one :: signs)
  | group {p body rest negated signs} :
      Encloses p negated body rest → Spells rest signs →
      Spells ('[' :: p) (.group negated body :: signs)
  | bracket {p signs} :
      (∀ negated body rest, ¬ Encloses p negated body rest) → Spells p signs →
      Spells ('[' :: p) (.plain '[' :: signs)
  | plain {c : Char} {p signs} : c ≠ '*' → c ≠ '?' → c ≠ '[' →
      Spells p signs → Spells (c :: p) (.plain c :: signs)

/-- A character is listed by the body of a class: a hyphen between two characters makes a range, and
any other character is listed for itself. -/
inductive Lists : List Char → Char → Prop
  | inside {a b c r} : a ≤ c → c ≤ b → Lists (a :: '-' :: b :: r) c
  | after {a b c r} : Lists r c → Lists (a :: '-' :: b :: r) c
  | itself {a r} : (∀ b q, r ≠ '-' :: b :: q) → Lists (a :: r) a
  | later {a c r} : (∀ b q, r ≠ '-' :: b :: q) → Lists r c → Lists (a :: r) c

/-- The characters that a class admits: those that it lists or, if it is negated, does not list. A
class that is not negated is misread where only empty ranges come before a mark of negation: it admits
what is not listed after the mark, and there a hyphen makes no range. -/
inductive Admits : Bool → List Char → Char → Prop
  | unlisted {body c} : ¬ Lists body c → Admits true body c
  | listed {body c} : (∀ r, skipEmpty body ≠ '!' :: r) → Lists body c → Admits false body c
  | misread {body r c} : skipEmpty body = '!' :: r → (∀ b q, r ≠ '-' :: b :: q) → ¬ Lists r c →
      Admits false body c
  | hyphen {body b r c} : skipEmpty body = '!' :: '-' :: b :: r → c ≠ '-' → c ≠ b → ¬ Lists r c →
      Admits false body c

/-- The texts that signs stand for, one after another. -/
inductive Language : List Sign → List Char → Prop
  | nil : Language [] []
  | many {signs s} (text : List Char) : Language signs s → Language (.many :: signs) (text ++ s)
  | one {signs s} (c : Char) : Language signs s → Language (.one :: signs) (c :: s)
  | group {signs s c negated body} : Admits negated body c → Language signs s →
      Language (.group negated body :: signs) (c :: s)
  | plain {signs s} (c : Char) : Language signs s → Language (.plain c :: signs) (c :: s)

/-! The sets of classes. -/

variable {c : Char} {s p body rest : List Char} {negated : Bool} {signs : List Sign}

theorem mem_ranges_iff : (∃ r ∈ ranges body, r.1 ≤ c ∧ c ≤ r.2) ↔ Lists body c := by
  fun_induction ranges body with
  | case1 a b r ih =>
    rw [List.exists_mem_cons_iff, ih]
    constructor
    · rintro (⟨low, high⟩ | later)
      · exact .inside low high
      · exact .after later
    · intro h
      cases h with
      | inside low high => exact .inl ⟨low, high⟩
      | after later => exact .inr later
      | itself single | later single => exact absurd rfl (single b r)
  | case2 a r single ih =>
    have single (b : Char) (q : List Char) : r ≠ '-' :: b :: q := fun same => single b q same
    rw [List.exists_mem_cons_iff, ih]
    constructor
    · rintro (⟨low, high⟩ | later)
      · exact Char.le_antisymm high low ▸ .itself single
      · exact .later single later
    · intro h
      cases h with
      | inside | after => exact absurd rfl (single _ _)
      | itself => exact .inl ⟨Char.le_refl _, Char.le_refl _⟩
      | later _ later => exact .inr later
  | case3 => exact ⟨by simp, nofun⟩

theorem lists_skipEmpty : Lists (skipEmpty body) c ↔ Lists body c := by
  fun_induction skipEmpty body with
  | case1 a b r empty ih =>
    rw [ih]
    refine ⟨.after, fun h => ?_⟩
    cases h with
    | inside low high => exact absurd (Char.le_trans low high) (Char.not_le.mpr empty)
    | after later => exact later
    | itself single | later single => exact absurd rfl (single b r)
  | case2 => rfl
  | case3 => rfl

theorem fits_set (rs : List (Char × Char)) :
    ((Part.set false rs).fits c = true ↔ ∃ r ∈ rs, r.1 ≤ c ∧ c ≤ r.2) ∧
      ((Part.set true rs).fits c = true ↔ ¬ ∃ r ∈ rs, r.1 ≤ c ∧ c ≤ r.2) := by
  constructor <;> simp [Part.fits]

theorem fits_listing : (listing body).fits c = true ↔ Admits false body c := by
  unfold listing
  split
  · next b r misread =>
    have own (a : Char) : a ≤ c ∧ c ≤ a ↔ c = a :=
      ⟨fun ⟨low, high⟩ => Char.le_antisymm high low, fun same => same ▸ ⟨Char.le_refl _, Char.le_refl _⟩⟩
    rw [(fits_set _).2, List.exists_mem_cons_iff, List.exists_mem_cons_iff, mem_ranges_iff, own, own,
      not_or, not_or]
    constructor
    · rintro ⟨hyphen, other, unlisted⟩
      exact .hyphen misread hyphen other unlisted
    · intro admitted
      cases admitted with
      | listed plain => exact absurd misread (plain _)
      | misread misread' free => exact absurd (List.cons.inj (misread'.symm.trans misread)).2 (free _ _)
      | hyphen misread' hyphen other unlisted =>
        cases misread.symm.trans misread'
        exact ⟨hyphen, other, unlisted⟩
  · next r free misread =>
    rw [(fits_set _).2, mem_ranges_iff]
    constructor
    · exact .misread misread free
    · intro admitted
      cases admitted with
      | listed plain => exact absurd misread (plain _)
      | misread misread' _ unlisted =>
        cases misread.symm.trans misread'
        exact unlisted
      | hyphen misread' => exact absurd (List.cons.inj (misread.symm.trans misread')).2 (free _ _)
  · next plain =>
    rw [(fits_set _).1, mem_ranges_iff, lists_skipEmpty]
    constructor
    · exact .listed plain
    · intro admitted
      cases admitted with
      | listed _ listed => exact listed
      | misread misread | hyphen misread => exact absurd misread (plain _)

/-! The parts of a pattern. -/

/-- What a sign is matched by. -/
def Sign.part : Sign → Part
  | many => .star
  | one => .any
  | group true body => .set true (ranges body)
  | group false body => listing body
  | plain c => .char c

theorem span_bracket {more : List Char} (closed : ']' ∉ more) (rest : List Char) :
    (more ++ ']' :: rest).takeWhile (· != ']') = more ∧
      (more ++ ']' :: rest).dropWhile (· != ']') = ']' :: rest := by
  have inside (d : Char) (mem : d ∈ more) : (d != ']') = true := by
    simp only [bne_iff_ne]
    rintro rfl
    exact closed mem
  rw [List.takeWhile_append_of_pos inside, List.dropWhile_append_of_pos inside]
  simp

theorem bracket?_of_encloses (h : Encloses p negated body rest) :
    bracket? p = some (if negated then '!' :: body else body, rest) := by
  cases h with
  | @listing first _ _ unmarked closed =>
    by_cases bracket : first = ']'
    · subst bracket
      simp [bracket?, span_bracket closed]
    · simp [bracket?, unmarked, bracket, span_bracket closed]
  | @negated first _ _ closed =>
    by_cases bracket : first = ']'
    · subst bracket
      simp [bracket?, span_bracket closed]
    · simp [bracket?, bracket, span_bracket closed]

theorem exists_closing {tail : List Char} (h : s.dropWhile (· != ']') = c :: tail) :
    ∃ more, ']' ∉ more ∧ s = more ++ ']' :: tail := by
  refine ⟨s.takeWhile (· != ']'), fun mem => ?_, ?_⟩
  · simpa using List.mem_takeWhile_imp mem
  · have head := List.head?_dropWhile_not (· != ']') s
    rw [h] at head
    obtain rfl : c = ']' := by simpa using head
    rw [← h, List.takeWhile_append_dropWhile]

theorem encloses_of_bracket? {inside : List Char} (h : bracket? p = some (inside, rest)) :
    ∃ negated body, Encloses p negated body rest := by
  dsimp only [bracket?] at h
  split at h
  · next c tail dropped =>
    obtain ⟨-, rfl⟩ := Prod.mk.inj (Option.some.inj h)
    obtain ⟨more, closed, text⟩ := exists_closing dropped
    clear dropped h
    split at text
    · next q =>
      obtain rfl : q = _ := text
      exact ⟨_, _, .negated closed⟩
    · next q free =>
      obtain rfl : q = _ := text
      cases more with
      | nil => exact absurd rfl (free _)
      | cons first more => exact ⟨_, _, .negated fun mem => closed (.tail _ mem)⟩
    · next q =>
      obtain rfl : q = _ := text
      exact ⟨_, _, .listing (by decide) closed⟩
    · next unmarked free =>
      obtain rfl : p = _ := text
      cases more with
      | nil => exact absurd rfl (free _)
      | cons first more =>
        refine ⟨_, _, .listing ?_ fun mem => closed (.tail _ mem)⟩
        rintro rfl
        exact unmarked _ rfl
  · cases h

theorem bracket?_eq_none_iff :
    bracket? p = none ↔ ∀ negated body rest, ¬ Encloses p negated body rest := by
  constructor
  · intro none_ negated body rest h
    rw [bracket?_of_encloses h] at none_
    cases none_
  · intro h
    cases found : bracket? p with
    | none => rfl
    | some found' =>
      obtain ⟨negated, body, closed⟩ := encloses_of_bracket? found
      exact absurd closed (h negated body _)

theorem Encloses.length (h : Encloses p negated body rest) :
    rest.length < p.length := by
  cases h <;> grind

theorem set_of_encloses (h : Encloses p negated body rest) :
    Glob.set (if negated then '!' :: body else body) = (Sign.group negated body).part := by
  cases h with
  | negated => rfl
  | listing unmarked =>
    change Glob.set (_ :: _) = listing _
    unfold Glob.set
    split
    · next same => exact absurd (List.cons.inj same).1 unmarked
    · rfl

theorem partsOf_of_spells (h : Spells p signs) {fuel : Nat}
    (enough : p.length ≤ fuel) : partsOf fuel p = signs.map Sign.part := by
  induction h generalizing fuel with
  | nil => cases fuel <;> rfl
  | many _ ih | one _ ih =>
    obtain ⟨more, rfl⟩ := Nat.exists_eq_add_of_le' enough
    exact congrArg _ (ih (Nat.le_add_left _ more))
  | group closed _ ih =>
    obtain ⟨more, rfl⟩ := Nat.exists_eq_add_of_le' enough
    change partsOf (more + _ + 1) _ = _
    have shorter := closed.length
    rw [partsOf, bracket?_of_encloses closed, List.map_cons, ← set_of_encloses closed]
    exact congrArg _ (ih (by omega))
  | bracket none_ _ ih =>
    obtain ⟨more, rfl⟩ := Nat.exists_eq_add_of_le' enough
    change partsOf (more + _ + 1) _ = _
    rw [partsOf, bracket?_eq_none_iff.mpr none_]
    exact congrArg _ (ih (Nat.le_add_left _ more))
  | plain _ _ _ _ ih =>
    obtain ⟨more, rfl⟩ := Nat.exists_eq_add_of_le' enough
    change partsOf (more + _ + 1) _ = _
    simp [partsOf, Sign.part, ih]

theorem exists_spells (p : List Char) : ∃ signs, Spells p signs := by
  induction h : p.length using Nat.strongRecOn generalizing p with
  | ind n ih =>
    subst h
    cases p with
    | nil => exact ⟨[], .nil⟩
    | cons c p =>
      obtain ⟨signs, later⟩ := ih p.length (by simp) p rfl
      by_cases star : c = '*'
      · subst star
        exact ⟨_, .many later⟩
      by_cases any : c = '?'
      · subst any
        exact ⟨_, .one later⟩
      by_cases bracket : c = '['
      · subst bracket
        cases found : bracket? p with
        | none => exact ⟨_, .bracket (bracket?_eq_none_iff.mp found) later⟩
        | some found' =>
          obtain ⟨negated, body, closed⟩ := encloses_of_bracket? found
          obtain ⟨signs, after⟩ := ih _ (Nat.lt_succ_of_lt closed.length) found'.2 rfl
          exact ⟨_, .group closed after⟩
      · exact ⟨_, .plain star any bracket later⟩

/-! The matching of parts. -/

theorem fitsFrom_nil (parts : List Part) : ∃ b, fitsFrom parts [] = [b] := by
  induction parts with
  | nil => exact ⟨true, rfl⟩
  | cons part parts ih =>
    obtain ⟨b, here⟩ := ih
    cases part <;> simp [fitsFrom, here, laterOn, oneThen]

theorem fitsFrom_cons (parts : List Part) (c : Char) (s : List Char) :
    ∃ b, fitsFrom parts (c :: s) = b :: fitsFrom parts s := by
  induction parts with
  | nil => exact ⟨false, rfl⟩
  | cons part parts ih =>
    obtain ⟨b, here⟩ := ih
    cases part <;> simp [fitsFrom, here, laterOn, oneThen]

theorem accepts_nil : accepts [] s = true ↔ s = [] := by
  cases s <;> simp [accepts, fitsFrom]

theorem accepts_star {parts : List Part} :
    accepts (.star :: parts) s = true ↔ ∃ text rest, s = text ++ rest ∧ accepts parts rest := by
  induction s with
  | nil =>
    obtain ⟨b, here⟩ := fitsFrom_nil parts
    simp [accepts, fitsFrom, here, laterOn]
  | cons c s ih =>
    obtain ⟨b, here⟩ := fitsFrom_cons parts c s
    have step : accepts (.star :: parts) (c :: s) =
        (accepts parts (c :: s) || accepts (.star :: parts) s) := by
      simp [accepts, fitsFrom, here, laterOn]
    rw [step, Bool.or_eq_true, ih]
    constructor
    · rintro (now | ⟨text, rest, rfl, later⟩)
      · exact ⟨[], c :: s, rfl, now⟩
      · exact ⟨c :: text, rest, rfl, later⟩
    · rintro ⟨text, rest, same, later⟩
      cases text with
      | nil => exact .inl (by simpa [same] using later)
      | cons d text =>
        obtain ⟨rfl, rfl⟩ := List.cons.inj same
        exact .inr ⟨text, rest, rfl, later⟩

theorem accepts_cons {part : Part} {parts : List Part} (single : part ≠ .star) :
    accepts (part :: parts) s = true ↔
      ∃ c rest, s = c :: rest ∧ part.fits c = true ∧ accepts parts rest = true := by
  have made : fitsFrom (part :: parts) s = oneThen part s (fitsFrom parts s) := by
    cases part <;> first | rfl | exact absurd rfl single
  rw [accepts, made]
  cases s with
  | nil => simp [oneThen]
  | cons c s =>
    obtain ⟨b, here⟩ := fitsFrom_cons parts c s
    simp [here, oneThen, accepts]

theorem Sign.part_group_ne : (Sign.group negated body).part ≠ .star := by
  cases negated
  · simp only [Sign.part, listing]
    split <;> nofun
  · nofun

theorem fits_group : (Sign.group negated body).part.fits c = true ↔ Admits negated body c := by
  cases negated with
  | false => exact fits_listing
  | true =>
    change (Part.set true (ranges body)).fits c = true ↔ _
    rw [(fits_set _).2, mem_ranges_iff]
    exact ⟨.unlisted, fun | .unlisted h => h⟩

theorem accepts_iff :
    accepts (signs.map Sign.part) s = true ↔ Language signs s := by
  induction signs generalizing s with
  | nil =>
    rw [List.map_nil, accepts_nil]
    exact ⟨fun empty => empty ▸ .nil, fun | .nil => rfl⟩
  | cons sign signs ih =>
    rw [List.map_cons]
    cases sign with
    | many =>
      simp only [Sign.part, accepts_star, ih]
      exact ⟨fun ⟨text, rest, same, h⟩ => same ▸ .many text h, fun | .many text h => ⟨text, _, rfl, h⟩⟩
    | one =>
      rw [Sign.part, accepts_cons (by nofun)]
      simp only [ih]
      exact ⟨fun ⟨c, rest, same, _, h⟩ => same ▸ .one c h, fun | .one c h => ⟨c, _, rfl, rfl, h⟩⟩
    | plain d =>
      rw [Sign.part, accepts_cons (by nofun)]
      simp only [ih, Part.fits, beq_iff_eq]
      exact ⟨fun ⟨c, rest, same, own, h⟩ => same ▸ own ▸ .plain c h,
        fun | .plain c h => ⟨c, _, rfl, rfl, h⟩⟩
    | group negated body =>
      rw [accepts_cons Sign.part_group_ne]
      simp only [ih, fits_group]
      exact ⟨fun ⟨c, rest, same, own, h⟩ => same ▸ .group own h,
        fun | .group own h => ⟨_, _, rfl, own, h⟩⟩

/-- A text fits a pattern exactly if it belongs to the language of what the pattern spells. -/
theorem globMatches_iff {pattern text : String} : globMatches pattern text = true ↔
    ∃ signs, Spells pattern.toList signs ∧ Language signs text.toList := by
  have own {signs : List Sign} (spelt : Spells pattern.toList signs) :
      globMatches pattern text = true ↔ Language signs text.toList := by
    rw [globMatches, parts, partsOf_of_spells spelt (Nat.le_of_eq String.length_toList)]
    exact accepts_iff
  constructor
  · intro fits
    obtain ⟨signs, spelt⟩ := exists_spells pattern.toList
    exact ⟨signs, spelt, (own spelt).mp fits⟩
  · rintro ⟨signs, spelt, sound⟩
    exact (own spelt).mpr sound

end JobMatrix.Glob
