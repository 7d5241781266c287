import JobMatrix.Value.Basic

/-! Scalars as keys. Two scalars are one key exactly when they have one mark, so that being one key
is symmetric and transitive. It is not reflexive: an undefined number has no mark. -/

namespace JobMatrix

/-- The place of a number among the others: its value, or the sign of an infinite one. -/
def Double.place? : Double → Option (Rat ⊕ Bool)
  | infinite s => some (.inr s)
  | x => x.toRat?.map .inl

theorem Double.compare?_eq_iff {x y : Double} :
    x.compare? y = some .eq ↔ ∃ p, x.place? = some p ∧ y.place? = some p := by
  cases x with
  | undefined => simp [compare?, place?, toRat?]
  | infinite s =>
    cases y with
    | undefined => simp [compare?, place?, toRat?]
    | infinite t => cases s <;> cases t <;> simp [compare?, place?]
    | finite t n f => cases s <;> simp [compare?, place?, toRat?]
  | finite s m e =>
    cases y with
    | undefined => simp [compare?, place?, toRat?]
    | infinite t => cases t <;> simp [compare?, place?, toRat?]
    | finite t n f =>
      obtain ⟨a, ha⟩ : ∃ a, (finite s m e).toRat? = some a := ⟨_, rfl⟩
      obtain ⟨b, hb⟩ : ∃ b, (finite t n f).toRat? = some b := ⟨_, rfl⟩
      simp only [compare?, place?, ha, hb, Option.getD_some, Option.map_some, Option.some.injEq,
        exists_eq_left', Sum.inl.injEq]
      by_cases less : a < b
      · simp [less, (Rat.ne_of_lt less).symm]
      · by_cases more : b < a
        · simp [less, more, Rat.ne_of_lt more]
        · simp [Rat.le_antisymm (Rat.not_lt.mp less) (Rat.not_lt.mp more)]

namespace Scalar

/-- What makes a scalar the key that it is. -/
inductive Mark where
  | whole (n : Int)
  | number (place : Rat ⊕ Bool)
  | moment (isKnown : Bool) (instant : Int)
  | other (s : Scalar)

/-- The mark of a scalar that equals no integer, none for an undefined number. -/
def ownMark? : Scalar → Option Mark
  | float x => x.place?.map .number
  | moment m => some (.moment m.offset.isSome m.instant)
  | a => some (.other a)

def mark? (a : Scalar) : Option Mark :=
  match a.toInt? with
  | some n => some (.whole n)
  | none => a.ownMark?

theorem ownMark?_ne_whole (a : Scalar) (n : Int) : a.ownMark? ≠ some (.whole n) := by
  cases a <;> simp [ownMark?]

theorem beq_iff_mark {a b : Scalar} :
    (a == b) = true ↔ ∃ m, a.mark? = some m ∧ b.mark? = some m := by
  rw [exists_congr fun _ => and_comm]
  change same a b = true ↔ _
  unfold same mark?
  cases a.toInt? with
  | some n =>
    cases b.toInt? with
    | some n' => simp
    | none => simp [ownMark?_ne_whole]
  | none =>
    cases b.toInt? with
    | some n' => simp [ownMark?_ne_whole]
    | none =>
      cases a with
      | float x =>
        cases b with
        | float y =>
          simp only [ownMark?, beq_iff_eq, Double.compare?_eq_iff, Option.map_eq_some_iff]
          constructor
          · rintro ⟨p, first, second⟩
            exact ⟨_, ⟨p, second, rfl⟩, p, first, rfl⟩
          · rintro ⟨_, ⟨p, second, rfl⟩, p', first, same⟩
            cases same
            exact ⟨p, first, second⟩
        | _ => simp [ownMark?]
      | moment x =>
        cases b with
        | moment y => simp [ownMark?, Moment.same, Moment.comparable]
        | _ => simp [ownMark?]
      | _ => cases b <;> simp [ownMark?]

instance : PartialEquivBEq Scalar where
  symm := by
    intro a b h
    obtain ⟨m, first, second⟩ := beq_iff_mark.mp h
    exact beq_iff_mark.mpr ⟨m, second, first⟩
  trans := by
    intro a b c h h'
    obtain ⟨m, first, second⟩ := beq_iff_mark.mp h
    obtain ⟨m', second', third⟩ := beq_iff_mark.mp h'
    cases second.symm.trans second'
    exact beq_iff_mark.mpr ⟨m, first, third⟩

theorem text_beq (s : String) (key : Scalar) :
    (Scalar.text s == key) = decide (Scalar.text s = key) := by
  change Scalar.same (.text s) key = _
  unfold Scalar.same
  cases key with
  | float x => cases whole : x.toInt? <;> simp [Scalar.toInt?, whole]
  | _ => simp [Scalar.toInt?]

end Scalar

end JobMatrix
