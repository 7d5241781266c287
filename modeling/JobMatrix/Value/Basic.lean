import JobMatrix.Dict
import JobMatrix.Number.Double
import JobMatrix.Text.Points
import JobMatrix.Value.Calendar

/-! The values of a document: scalars, which may also stand as keys, and lists and mappings of
values. One value may stand in several places of a document, and even inside itself. -/

namespace JobMatrix

/-- A value without parts. -/
inductive Scalar where
  | null
  | bool (b : Bool)
  | int (n : Int)
  | float (x : Double)
  | text (s : String)
  /-- A text with halves of characters in it, by its code points. -/
  | halves (points : List Nat)
  | date (d : Date)
  | moment (m : Moment)
  | bytes (data : List UInt8)
deriving DecidableEq, Repr, Inhabited

namespace Scalar

def ofPoints (points : List Nat) : Scalar :=
  if points.any Text.isHalf then halves points else text (String.ofList (points.map Char.ofNat))

/-- A scalar with a text of characters in place of one with halves. -/
def mended : Scalar → Scalar
  | halves points => text (String.ofList (Text.mended points))
  | s => s

def toInt? : Scalar → Option Int
  | bool b => some (if b then 1 else 0)
  | int n => some n
  | float x => x.toInt?
  | _ => none

/-- Whether two scalars are one key. Truth values count as the numbers 0 and 1, numbers are compared
by value, and moments by the point in time. -/
def same (a b : Scalar) : Bool :=
  match a.toInt?, b.toInt? with
  | some m, some n => m == n
  | none, none =>
    match a, b with
    | float x, float y => x.compare? y == some .eq
    | moment x, moment y => x.same y
    | a, b => decide (a = b)
  | _, _ => false

instance : BEq Scalar := ⟨same⟩

instance : Coe String Scalar := ⟨text⟩

end Scalar

/-- A value of a document. -/
inductive Value where
  | scalar (s : Scalar)
  | list (items : List Value)
  | tuple (items : List Value)
  | map (entries : List (Scalar × Value))
  | set (items : List Scalar)
  /-- A value that stands in several places, where the label tells it from others. -/
  | shared (label : Nat) (v : Value)
  /-- The value with the label, inside itself. -/
  | again (label : Nat)
deriving Repr, Inhabited

namespace Value

def null : Value := scalar .null

def bool (b : Bool) : Value := scalar (.bool b)

def int (n : Int) : Value := scalar (.int n)

def nat (n : Nat) : Value := scalar (.int n)

def float (x : Double) : Value := scalar (.float x)

def text (s : String) : Value := scalar (.text s)

def object (entries : List (String × Value)) : Value :=
  map (entries.map fun e => (.text e.1, e.2))

def ofText? : Option String → Value
  | some s => text s
  | none => null

def ofInt? : Option Int → Value
  | some n => int n
  | none => null

def ofEnv (env : Env) : Value :=
  object (env.map fun e => (e.1, text e.2))

mutual

/-- A value with `w` in place of the marks for the value with a label. -/
def close (label : Nat) (w : Value) : Value → Value
  | list items => list (closeItems label w items)
  | tuple items => tuple (closeItems label w items)
  | map entries => map (closeEntries label w entries)
  | shared l v => if l = label then shared l v else shared l (close label w v)
  | again l => if l = label then w else again l
  | v => v

def closeItems (label : Nat) (w : Value) : List Value → List Value
  | [] => []
  | v :: rest => close label w v :: closeItems label w rest

def closeEntries (label : Nat) (w : Value) : List (Scalar × Value) → List (Scalar × Value)
  | [] => []
  | (k, v) :: rest => (k, close label w v) :: closeEntries label w rest

end

mutual

/-- A value with texts of characters in place of those with halves. -/
def mended : Value → Value
  | scalar s => scalar s.mended
  | list items => list (mendedItems items)
  | tuple items => tuple (mendedItems items)
  | map entries => map (mendedEntries entries)
  | set items => set (items.map Scalar.mended)
  | shared l v => shared l (mended v)
  | again l => again l

def mendedItems : List Value → List Value
  | [] => []
  | v :: rest => mended v :: mendedItems rest

def mendedEntries : List (Scalar × Value) → List (Scalar × Value)
  | [] => []
  | (k, v) :: rest => (k.mended, mended v) :: mendedEntries rest

end

def opened : Value → Value
  | shared label v => close label (shared label v) v
  | v => v

mutual

def isLooped : Value → Bool
  | list items => anyLooped items
  | tuple items => anyLooped items
  | map entries => anyEntryLooped entries
  | shared _ v => isLooped v
  | again _ => true
  | _ => false

def anyLooped : List Value → Bool
  | [] => false
  | v :: rest => isLooped v || anyLooped rest

def anyEntryLooped : List (Scalar × Value) → Bool
  | [] => false
  | (_, v) :: rest => isLooped v || anyEntryLooped rest

end

mutual

def height : Value → Nat
  | list items => heightAll items + 1
  | tuple items => heightAll items + 1
  | map entries => heightEntries entries + 1
  | shared _ v => height v
  | _ => 0

def heightAll : List Value → Nat
  | [] => 0
  | v :: rest => max (height v) (heightAll rest)

def heightEntries : List (Scalar × Value) → Nat
  | [] => 0
  | (_, v) :: rest => max (height v) (heightEntries rest)

end

def items : Value → List Value
  | list items => items
  | _ => []

def entries : Value → List (Scalar × Value)
  | map entries => entries
  | _ => []

def isNull : Value → Bool
  | scalar .null => true
  | _ => false

def get? : Value → Scalar → Option Value
  | map entries, key => Dict.get? entries key
  | _, _ => none

def text? : Value → Option String
  | scalar (.text s) => some s
  | _ => none

def truthy : Value → Bool
  | scalar .null => false
  | scalar (.bool b) => b
  | scalar (.int n) => n != 0
  | scalar (.float x) => !x.isZero
  | scalar (.text s) => !s.isEmpty
  | scalar (.bytes data) => !data.isEmpty
  | scalar _ => true
  | list items => !items.isEmpty
  | tuple items => !items.isEmpty
  | map entries => !entries.isEmpty
  | set items => !items.isEmpty
  | shared _ v => v.truthy
  | again _ => true

end Value

end JobMatrix
