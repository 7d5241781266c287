import JobMatrix.Host.Program.Lines

/-! Lines from files and from the input, one after another. Whoever takes them may stop before the
end. -/

namespace JobMatrix.Program

def handLines {σ : Type} (f : σ → List UInt8 → Work (σ × Bool)) (s : σ) :
    List (List UInt8) → Work (σ × Bool)
  | [] => return (s, true)
  | line :: rest => do
    let (s, more) ← f s line
    if more then handLines f s rest else return (s, false)

/-- Hands on the lines of an input as they come; `carry` is the start of a line. -/
def inputLines {σ : Type} (descriptor : Nat) (ending : UInt8)
    (f : σ → List UInt8 → Work (σ × Bool)) : Nat → List UInt8 → σ → Work σ
  | 0, _, s => return s
  | fuel + 1, carry, s => do
    let data ← readBlock descriptor
    if data.isEmpty then
      if carry.isEmpty then return s
      let (s, _) ← f s carry
      return s
    let lines := linesOf (carry ++ data) ending
    let open? := lines.getLast?.filter fun l => l.getLast? != some ending
    let (s, more) ← handLines f s (if open?.isSome then lines.dropLast else lines)
    if more then inputLines descriptor ending f fuel (open?.getD []) s else return s

/-- Hands on the lines at a path, with their ends; a dash stands for the input. -/
def sourceLines {σ : Type} (path : String) (ending : UInt8)
    (f : σ → List UInt8 → Work (σ × Bool)) (s : σ) : Work (Except SystemError σ) := do
  if path == "-" then return .ok (← inputLines 0 ending f rounds [] s)
  else match ← readPath path with
    | .error e => return .error e
    | .ok data =>
      let (s, _) ← handLines f s (linesOf data ending)
      return .ok s

end JobMatrix.Program
