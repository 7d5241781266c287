import JobMatrix.FileTree
import JobMatrix.Run.Executor

/-! The machine that runs take place on, as far as they know it. -/

namespace JobMatrix

/-- A machine with files, a clock in nanoseconds, and processes. Nothing is said of when a process
ends, with which code, and what it writes. -/
class Host (M : Type) where
  /-- A program that was found. -/
  Image : Type
  /-- A process that was started. -/
  Job : Type
  tree : M → FileTree
  withTree : M → FileTree → M
  tree_withTree : ∀ m t, tree (withTree m t) = t
  withTree_tree : ∀ m, withTree m (tree m) = m
  withTree_withTree : ∀ m t u, withTree (withTree m t) u = withTree m u
  clock : M → Nat
  withClock : M → Nat → M
  /-- The program for the words of a command. -/
  find : M → Context → List String → Except SystemError Image
  /-- Starts a process, whose output may be shown as it comes. -/
  launch : M → Image → Context → Bool → Job × M
  isLive : M → Job → Bool
  /-- Kills a process with all that it has started. -/
  kill : M → Job → M
  /-- The code with which a process has ended. -/
  code? : M → Job → Option Int
  /-- Whether all that a process has started has closed its streams. -/
  isDrained : M → Job → Bool
  /-- Takes what a process has written to its two streams. -/
  collect : M → Job → (List UInt8 × List UInt8) × M
  /-- When something happens next by itself. -/
  nextTime? : M → Option Nat
  advance : M → M
  /-- Takes the texts that have been shown, the latest first. -/
  takeShown : M → List String × M

/-- A machine on which every process is found, says nothing, and ends at once with code zero. -/
structure Prompt where
  tree : FileTree := {}
  clock : Nat := 0

instance : Host Prompt where
  Image := Unit
  Job := Unit
  tree := Prompt.tree
  withTree m t := { m with tree := t }
  tree_withTree _ _ := rfl
  withTree_tree _ := rfl
  withTree_withTree _ _ _ := rfl
  clock := Prompt.clock
  withClock m t := { m with clock := t }
  find _ _ _ := .ok ()
  launch m _ _ _ := ((), m)
  isLive _ _ := false
  kill m _ := m
  code? _ _ := some 0
  isDrained _ _ := true
  collect m _ := (([], []), m)
  nextTime? _ := none
  advance m := m
  takeShown m := ([], m)

end JobMatrix
