import JobMatrix.Text.Blank

/-! Placeholders in texts: a dollar sign and two braces around `matrix.` and the name of an axis,
with white space allowed inside the braces. A text is cut into plain characters and references,
from the left, and every other character stands for itself. -/

namespace JobMatrix

/-- A piece of a text: a character, or a reference to the axis of that name. -/
inductive Piece where
  | char (c : Char)
  | reference (axis : String)
deriving DecidableEq, Repr

namespace Placeholder

def isInitial (c : Char) : Bool := c.isAlpha || c = '_'

def isInner (c : Char) : Bool := isInitial c || c.isDigit || c = '-'

/-- The name after `matrix.`, white space and the closing braces, and what follows them. -/
def closing? : List Char → Option (String × List Char)
  | c :: r =>
    if isInitial c then
      match (r.dropWhile isInner).dropWhile Text.isBlank with
      | '\x7d' :: '\x7d' :: rest => some (String.ofList (c :: r.takeWhile isInner), rest)
      | _ => none
    else none
  | [] => none

/-- The placeholder at the start of a text: the axis it names and what follows it. -/
def leading? : List Char → Option (String × List Char)
  | '$' :: '\x7b' :: '\x7b' :: r =>
    match r.dropWhile Text.isBlank with
    | 'm' :: 'a' :: 't' :: 'r' :: 'i' :: 'x' :: '.' :: r => closing? r
    | _ => none
  | _ => none

theorem length_dropWhile_le {α : Type} (p : α → Bool) (s : List α) :
    (s.dropWhile p).length ≤ s.length := by
  induction s with
  | nil => simp
  | cons a s ih =>
    rw [List.dropWhile_cons]
    split
    · exact Nat.le_succ_of_le ih
    · exact Nat.le_refl _

theorem closing?_length {s rest : List Char} {name : String} (h : closing? s = some (name, rest)) :
    rest.length < s.length := by
  cases s with
  | nil => simp [closing?] at h
  | cons c r =>
    have hr := length_dropWhile_le isInner r
    have hb := length_dropWhile_le Text.isBlank (r.dropWhile isInner)
    simp only [closing?] at h
    split at h
    · split at h
      · next heq =>
        obtain ⟨-, rfl⟩ := Prod.mk.inj (Option.some.inj h)
        rw [heq] at hb
        simp only [List.length_cons] at hb ⊢
        omega
      · simp at h
    · simp at h

theorem leading?_length {s rest : List Char} {name : String} (h : leading? s = some (name, rest)) :
    rest.length < s.length := by
  unfold leading? at h
  split at h
  · next r =>
    have hb := length_dropWhile_le Text.isBlank r
    split at h
    · next heq =>
      have := closing?_length h
      rw [heq] at hb
      simp only [List.length_cons] at hb ⊢
      omega
    · simp at h
  · simp at h

def pieces (s : List Char) : List Piece :=
  match _h : leading? s with
  | some (name, rest) => .reference name :: pieces rest
  | none =>
    match s with
    | [] => []
    | c :: r => .char c :: pieces r
termination_by s.length
decreasing_by
  · exact leading?_length _h
  · simp

def references (s : String) : List String :=
  (pieces s.toList).filterMap fun
    | .reference axis => some axis
    | .char _ => none

def referenced (s : String) : List String :=
  ((references s).mergeSort fun a b => decide (a ≤ b)).eraseDups

/-- The text of the pieces with each reference replaced by what `lookup` gives for it; the first
reference for which it gives nothing is the error. -/
def fill (lookup : String → Option String) : List Piece → Except String (List Char)
  | [] => .ok []
  | .char c :: rest => (fill lookup rest).map (c :: ·)
  | .reference axis :: rest =>
    match lookup axis with
    | none => .error axis
    | some value => (fill lookup rest).map (value.toList ++ ·)

end Placeholder

end JobMatrix
