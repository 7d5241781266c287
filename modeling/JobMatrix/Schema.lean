import JobMatrix.Number.Basic
import JobMatrix.Value.Literal
import JobMatrix.Value.Order

/-! Schemas: rules on the shape of a value, and the violations that a value commits, in the order
of the rules. Of several violations one is singled out as the most telling. -/

namespace JobMatrix

/-- The kinds of values that a rule can ask for. -/
inductive Kind where
  | object
  | array
  | string
  | number
  | boolean
  | null
deriving DecidableEq, Repr

namespace Kind

def name : Kind → String
  | object => "object"
  | array => "array"
  | string => "string"
  | number => "number"
  | boolean => "boolean"
  | null => "null"

/-- Whether a value is of a kind. A truth value is no number; dates and bytes are of no kind. -/
def holds : Kind → Value → Bool
  | object, .map _ => true
  | array, .list _ => true
  | string, .scalar (.text _) => true
  | number, .scalar (.int _) => true
  | number, .scalar (.float _) => true
  | boolean, .scalar (.bool _) => true
  | null, .scalar .null => true
  | _, _ => false

end Kind

/-- One rule. A schema is a list of rules, all of which must hold. -/
inductive Rule where
  /-- The value is of one of these kinds. -/
  | kinds (ks : List Kind)
  /-- An object has these keys. -/
  | required (names : List String)
  /-- An object has no keys but these. -/
  | closed (names : List String)
  /-- The values of an object's keys other than `names` obey a schema. -/
  | others (names : List String) (schema : List Rule)
  /-- The values of named keys obey a schema each, where they are present. -/
  | fields (fs : List (String × List Rule))
  /-- The items of an array obey a schema. -/
  | items (schema : List Rule)
  /-- A value of this kind is not empty. -/
  | nonEmpty (k : Kind)
  /-- A number is greater than zero. -/
  | positive
  /-- The value obeys one of several schemas. -/
  | oneOf (branches : List (List Rule))

abbrev Schema := List Rule

/-- A broken rule: where, and what is said of it, unless that cannot be written. The path leads from
the value that was checked, or for the parts of a broken alternative from the value of that
alternative, to the one at fault. -/
inductive Violation where
  | mk (path : List Scalar) (alternative : Bool) (rightKind : Bool) (message : Option String)
      (parts : List Violation)
deriving Inhabited

namespace Violation

def path : Violation → List Scalar
  | mk path _ _ _ _ => path

def alternative : Violation → Bool
  | mk _ alternative _ _ _ => alternative

def rightKind : Violation → Bool
  | mk _ _ rightKind _ _ => rightKind

def message : Violation → Option String
  | mk _ _ _ message _ => message

def parts : Violation → List Violation
  | mk _ _ _ _ parts => parts

/-- The same violation seen from a value that holds the checked one under `key`. A null key is no
part of paths. -/
def under (key : Scalar) : Violation → Violation
  | mk path alternative rightKind message parts =>
    mk (if key == .null then path else key :: path) alternative rightKind message parts

end Violation

namespace Schema

def kindsOf : Schema → List Kind
  | [] => []
  | .kinds ks :: _ => ks
  | _ :: rest => kindsOf rest

def fail (ks : List Kind) (v : Value) (message : Option String) : List Violation :=
  [.mk [] false (ks.any (·.holds v)) message []]

def remark (v : Value) (text : String) : Option String :=
  if v.isShowable then some (v.literal ++ text) else none

def isEmptyOf : Kind → Value → Bool
  | .object, .map entries => entries.isEmpty
  | .array, .list items => items.isEmpty
  | .string, .scalar (.text s) => s.isEmpty
  | _, _ => false

def isNonPositive (v : Value) : Bool :=
  match v.number? with
  | some n => n.amount.nonpositive
  | none => false

/-- The keys of an object that are none of `names`. -/
def extras (names : List String) (entries : List (Scalar × Value)) : List (Scalar × Value) :=
  entries.filter fun e => !names.any fun n => e.1 == .text n

def extrasMessage (keys : List Scalar) : Option String :=
  if !keys.all Scalar.isShowable then none
  else
  let sorted := keys.mergeSort fun a b => decide (a.display ≤ b.display)
  let verb := if keys.length = 1 then "was" else "were"
  some ("Additional properties are not allowed (" ++
    ", ".intercalate (sorted.map Scalar.literal) ++ " " ++ verb ++ " unexpected)")

mutual

/-- The violations of one rule, in a schema that asks for the kinds `ks`. The texts in messages are
those of `labelled`, the value with its label. -/
def checkRule (ks : List Kind) : Rule → Value → Value → List Violation
  | .kinds allowed, labelled, v =>
    if allowed.any (·.holds v) then []
    else
      let names := allowed.map fun k => Text.literal k.name
      fail ks v (remark labelled (" is not of type " ++ ", ".intercalate names))
  | .required names, _, v =>
    match v with
    | .map entries =>
      (names.filter fun n => !Dict.contains entries (.text n)).flatMap fun n =>
        fail ks v (some (Text.literal n ++ " is a required property"))
    | _ => []
  | .closed names, _, v =>
    match v with
    | .map entries =>
      let keys := (extras names entries).map (·.1)
      if keys.isEmpty then [] else fail ks v (extrasMessage keys)
    | _ => []
  | .others names schema, _, v =>
    match v with
    | .map entries =>
      (extras names entries).flatMap fun e =>
        (check schema schema e.2 e.2.opened).map (·.under e.1)
    | _ => []
  | .fields fs, _, v => checkFields fs v
  | .items schema, _, v =>
    match v with
    | .list items =>
      (items.zipIdx.flatMap fun e =>
        (check schema schema e.1 e.1.opened).map (·.under (.int e.2)))
    | _ => []
  | .nonEmpty k, labelled, v =>
    if isEmptyOf k v then fail ks v (remark labelled " should be non-empty") else []
  | .positive, labelled, v =>
    if isNonPositive v then
      fail ks v (remark labelled " is less than or equal to the minimum of 0")
    else []
  | .oneOf branches, labelled, v =>
    let found := checkBranches branches labelled v
    if found.any List.isEmpty then []
    else
      [.mk [] true (ks.any (·.holds v))
        (remark labelled " is not valid under any of the given schemas") found.flatten]

/-- The violations of the rules of a schema; `whole` is the schema and the other argument the rules
still to be checked. -/
def check (whole : Schema) : Schema → Value → Value → List Violation
  | [], _, _ => []
  | rule :: rest, labelled, v =>
    checkRule (kindsOf whole) rule labelled v ++ check whole rest labelled v

def checkFields : List (String × List Rule) → Value → List Violation
  | [], _ => []
  | (name, schema) :: rest, v =>
    (match v.get? (.text name) with
      | some field => (check schema schema field field.opened).map (·.under (.text name))
      | none => []) ++ checkFields rest v

def checkBranches : List (List Rule) → Value → Value → List (List Violation)
  | [], _, _ => []
  | branch :: rest, labelled, v =>
    check branch branch labelled v :: checkBranches rest labelled v

end

def violations (s : Schema) (v : Value) : List Violation := check s s v v.opened

end Schema

namespace Violation

/-- The order of two paths of one length: that of the first keys that differ. -/
def comparePaths : List Scalar → List Scalar → Option Ordering
  | a :: as, b :: bs => if a == b then comparePaths as bs else a.compare? b
  | _, _ => some .eq

/-- The order by relevance: first the shorter path, then the later one, then a rule other than an
alternative, then a value of the wrong kind. -/
def compareRelevance (x y : Violation) : Option Ordering :=
  if x.path.length ≠ y.path.length then some (compare y.path.length x.path.length)
  else
    (comparePaths x.path y.path).map fun o =>
      (o.then (compare (!x.alternative) (!y.alternative))).then
        (compare (!x.rightKind) (!y.rightKind))

/-- The first of the most relevant violations; none when two cannot be compared. -/
def mostRelevant? : Violation → List Violation → Option Violation
  | best, [] => some best
  | best, v :: rest =>
    match compareRelevance v best with
    | none => none
    | some .gt => mostRelevant? v rest
    | some _ => mostRelevant? best rest

/-- The two least relevant violations, the lesser one first and of equals the earlier one; none when
two cannot be compared. -/
def leastTwo? : Violation → Violation → List Violation → Option (Violation × Violation)
  | low, high, [] => some (low, high)
  | low, high, v :: rest =>
    match compareRelevance v high with
    | none => none
    | some .lt =>
      match compareRelevance v low with
      | none => none
      | some .lt => leastTwo? v low rest
      | some _ => leastTwo? low v rest
    | some _ => leastTwo? low high rest

mutual

def depth : Violation → Nat
  | mk _ _ _ _ parts => depthAll parts + 1

def depthAll : List Violation → Nat
  | [] => 0
  | v :: rest => max v.depth (depthAll rest)

end

/-- The place and the message to report for a violation: of a broken alternative, its least relevant
part, unless two parts are equally so. `place` is the path to the checked value. -/
def settle : Nat → List Scalar → Violation → Option (List Scalar × Option String)
  | 0, place, v => some (place ++ v.path, v.message)
  | fuel + 1, place, v =>
    let here := place ++ v.path
    match v.parts with
    | [] => some (here, v.message)
    | [only] => settle fuel here only
    | a :: b :: rest =>
      match compareRelevance b a with
      | none => none
      | some o =>
        match (if o = .lt then leastTwo? b a rest else leastTwo? a b rest) with
        | none => none
        | some (low, high) =>
          match compareRelevance low high with
          | none => none
          | some .eq => some (here, v.message)
          | some _ => settle fuel here low

mutual

def isSayable : Violation → Bool
  | mk _ _ _ message parts => message.isSome && areSayable parts

def areSayable : List Violation → Bool
  | [] => true
  | v :: rest => isSayable v && areSayable rest

end

/-- The outcome of a check: nothing to report, a place and a message, keys on the way that cannot be
compared, or something that cannot be written. -/
inductive Report where
  | clean
  | found (path : List Scalar) (message : String)
  | incomparable
  | unsayable

def report : List Violation → Report
  | [] => .clean
  | v :: rest =>
    if !areSayable (v :: rest) then .unsayable
    else match mostRelevant? v rest with
    | none => .incomparable
    | some best =>
      match settle best.depth [] best with
      | none => .incomparable
      | some (path, message) =>
        if path.all Scalar.isShowable then .found path (message.getD "") else .unsayable

end Violation

end JobMatrix
