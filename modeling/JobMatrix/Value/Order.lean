import JobMatrix.Value.Basic

/-! The order of scalars. Scalars of one kind compare, where truth values and numbers are one kind;
scalars of different kinds do not. Moments with a known offset and moments without one are two
kinds. -/

namespace JobMatrix

namespace Scalar

def compare? : Scalar → Scalar → Option Ordering
  | text s, text t => some (compare s t)
  | text s, halves q => some (compare (s.toList.map Char.toNat) q)
  | halves p, text t => some (compare p (t.toList.map Char.toNat))
  | halves p, halves q => some (compare p q)
  | date d, date e => some (compare d.number e.number)
  | moment a, moment b => if a.comparable b then some (compare a.instant b.instant) else none
  | bytes x, bytes y => some (if x < y then .lt else if y < x then .gt else .eq)
  | float x, float y => x.compare? y
  | float x, b => b.toInt?.bind fun n => x.compareRat? n
  | a, float y => a.toInt?.bind fun m => (y.compareRat? m).map Ordering.swap
  | a, b => a.toInt?.bind fun m => b.toInt?.map (compare m)

/-- Values in the order of their keys, equal keys as they stand; none when two keys cannot be
compared. -/
def sortOn? {α : Type} (key : α → Scalar) (xs : List α) : Option (List α) :=
  let isNumber (a : α) : Bool := match key a with
    | float _ => true
    | k => k.toInt?.isSome
  let comparable (a b : α) : Bool :=
    key a == key b || (isNumber a && isNumber b) || (compare? (key a) (key b)).isSome
  if xs.all fun a => xs.all (comparable a) then
    some (xs.mergeSort fun a b => compare? (key a) (key b) != some .gt)
  else none

end Scalar

end JobMatrix
