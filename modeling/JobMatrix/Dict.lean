/-! Ordered dictionaries: lists of entries in the order in which their keys were first put. -/

namespace JobMatrix

/-- Entries in the order of first insertion. The operations below keep one entry for each key. -/
abbrev Dict (κ ν : Type) := List (κ × ν)

namespace Dict

variable {κ ν : Type} [BEq κ]

def get? : Dict κ ν → κ → Option ν
  | [], _ => none
  | (k, v) :: rest, key => if k == key then some v else get? rest key

def contains (d : Dict κ ν) (key : κ) : Bool :=
  (get? d key).isSome

/-- Gives `key` the value `v`: in place when the key is there, else at the end. -/
def put : Dict κ ν → κ → ν → Dict κ ν
  | [], key, v => [(key, v)]
  | (k, old) :: rest, key, v => if k == key then (k, v) :: rest else (k, old) :: put rest key v

/-- Gives `key` the value `v` unless it has one. -/
def putNew (d : Dict κ ν) (key : κ) (v : ν) : Dict κ ν :=
  if contains d key then d else d ++ [(key, v)]

/-- Puts the entries of `upper` into `d` one after another: the later value wins, and the earlier
position. -/
def merge (d upper : Dict κ ν) : Dict κ ν :=
  upper.foldl (fun acc e => put acc e.1 e.2) d

def ofList (entries : List (κ × ν)) : Dict κ ν :=
  merge [] entries

/-- The dictionary without `key`. -/
def erase (d : Dict κ ν) (key : κ) : Dict κ ν :=
  d.filter fun e => !(e.1 == key)

/-- Whether two dictionaries hold equal values under equal keys, in whatever order. -/
def same [BEq ν] (d e : Dict κ ν) : Bool :=
  d.length == e.length && d.all fun entry => get? e entry.1 == some entry.2

omit [BEq κ] in
def keys (d : Dict κ ν) : List κ := d.map (·.1)

omit [BEq κ] in
def values (d : Dict κ ν) : List ν := d.map (·.2)

end Dict

/-- Environment variables and their values. -/
abbrev Env := Dict String String

end JobMatrix
