import JobMatrix.Glob
import JobMatrix.Log
import JobMatrix.Value.Literal

/-! Triggers: which events of a repository start a run. -/

namespace JobMatrix

/-- An event of a repository, with the branch it concerns where that is known. -/
structure Event where
  kind : String
  ref : Option String := none
deriving DecidableEq, Repr

/-- The kinds of events that start a run and, for some kinds, the patterns of branches. -/
structure Trigger where
  kinds : List Scalar := [.text "push", .text "pull_request"]
  branches : Dict Scalar (List String) := []
deriving Repr, Inhabited

namespace Trigger

/-- How an event fares with a trigger. -/
inductive Verdict where
  | otherKind
  | everyBranch
  | branch
  | otherBranch
deriving DecidableEq, Repr

def branchName (ref : String) : String :=
  if "refs/heads/".toList.isPrefixOf ref.toList then String.ofList (ref.toList.drop 11) else ref

def judge (t : Trigger) (e : Event) : Verdict :=
  if !t.kinds.any (· == .text e.kind) then .otherKind
  else
    match (Dict.get? t.branches (.text e.kind)).getD [], e.ref with
    | [], _ => .everyBranch
    | _, none => .everyBranch
    | patterns, some ref =>
      if patterns.any fun p => globMatches p (branchName ref) then .branch else .otherBranch

def starts (t : Trigger) (e : Event) : Bool :=
  match t.judge e with
  | .everyBranch => true
  | .branch => true
  | _ => false

def log (t : Trigger) (e : Event) : List LogEntry :=
  match t.judge e with
  | .otherKind =>
    [⟨.info, .trigger, "Event '" ++ e.kind ++ "' is not a declared trigger " ++
      (Value.list (t.kinds.map Value.scalar)).literal⟩]
  | .otherBranch =>
    [⟨.info, .trigger, "Ref '" ++ e.ref.getD "" ++ "' matches no branch filter for '" ++
      e.kind ++ "'"⟩]
  | _ => []

end Trigger

end JobMatrix
