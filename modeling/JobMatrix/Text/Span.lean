/-! Sets of code points as sorted arrays of closed runs, searched by halving. -/

namespace JobMatrix.Text

abbrev Span := Nat × Nat

/-- Runs from numbers in turn: of the code points that are left out before a run, and of those in
it. -/
def runsFrom (start : Nat) : List Nat → List Span
  | gap :: size :: rest =>
    (start + gap, start + gap + size - 1) :: runsFrom (start + gap + size) rest
  | _ => []

def runsOf (numbers : List Nat) : Array Span := (runsFrom 0 numbers).toArray

/-- Whether `n` lies in one of the runs with an index from `lo` to before `lo + size`. -/
def withinFrom (runs : Array Span) (n : Nat) (lo size : Nat) : Bool :=
  if _h : size = 0 then false
  else
    let half := size / 2
    match runs[lo + half]? with
    | none => false
    | some (first, last) =>
      if n < first then withinFrom runs n lo half
      else if n ≤ last then true
      else withinFrom runs n (lo + half + 1) (size - half - 1)
termination_by size
decreasing_by all_goals omega

/-- Whether `n` lies in one of the runs of a sorted array. -/
def within (runs : Array Span) (n : Nat) : Bool :=
  withinFrom runs n 0 runs.size

end JobMatrix.Text
