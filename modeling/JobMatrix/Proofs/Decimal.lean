import JobMatrix.Number.Read
import Mathlib.Data.List.Basic

/-! The decimal text of integers: digits without a superfluous zero, after a sign where the integer
is below zero. -/

namespace JobMatrix

theorem toDigits_inj {m n : Nat} (h : Nat.toDigits 10 m = Nat.toDigits 10 n) : m = n := by
  rw [← @Nat.ofDigitChars_ten_toDigits m, h, Nat.ofDigitChars_ten_toDigits]

/-- The characters of an integer: digits, after a sign where it is below zero. -/
theorem toList_toString (n : Int) : (toString n).toList =
    (if n < 0 then ['-'] else []) ++ Nat.toDigits 10 n.natAbs := by
  cases n with
  | ofNat n =>
    rw [if_neg (by simp)]
    simp [Int.toString_eq_repr, Int.repr, Nat.repr]
  | negSucc n =>
    rw [if_pos (by omega)]
    simp [Int.toString_eq_repr, Int.repr, Nat.repr]

theorem not_mem_toString {c : Char} (n : Int) (letter : c.isDigit = false) (unsigned : c ≠ '-') :
    c ∉ (toString n).toList := by
  rw [toList_toString]
  intro mem
  rcases List.mem_append.mp mem with sign | digit
  · split at sign <;> simp_all
  · simp [Nat.isDigit_of_mem_toDigits (by omega) (by omega) digit] at letter

theorem toString_inj {m n : Int} (h : toString m = toString n) : m = n := by
  have chars := congrArg String.toList h
  have sign (k : Nat) : '-' ∉ Nat.toDigits 10 k := fun mem => by
    simpa using Nat.isDigit_of_mem_toDigits (by omega) (by omega) mem
  rw [toList_toString, toList_toString] at chars
  split at chars <;> split at chars
  · have := toDigits_inj (List.cons.inj chars).2
    omega
  · exact absurd (by simp at chars; simp [← chars]) (sign n.natAbs)
  · exact absurd (by simp at chars; simp [chars]) (sign m.natAbs)
  · have := toDigits_inj chars
    omega

theorem natOfDigits_toDigits (n : Nat) : Number.natOfDigits (Nat.toDigits 10 n) = n :=
  Nat.ofDigitChars_ten_toDigits

/-- The digits of a number of more than one digit: those of its tenth part, and the last. -/
theorem toDigits_step {n : Nat} (h : 10 ≤ n) :
    Nat.toDigits 10 n = Nat.toDigits 10 (n / 10) ++ Nat.toDigits 10 (n % 10) := by
  rw [Nat.toDigits_append_toDigits (by decide) (by omega) (by omega), Nat.div_add_mod]

theorem head_toDigits {n : Nat} (h : 0 < n) : ∃ c cs, Nat.toDigits 10 n = c :: cs ∧ c ≠ '0' := by
  induction n using Nat.strongRecOn with
  | ind n ih =>
    by_cases small : n < 10
    · refine ⟨n.digitChar, [], Nat.toDigits_of_lt_base small, ?_⟩
      have digit : ∀ n < 10, 0 < n → n.digitChar ≠ '0' := by decide
      exact digit n small h
    · obtain ⟨c, cs, digits, zero⟩ := ih (n / 10) (by omega) (by omega)
      exact ⟨c, cs ++ Nat.toDigits 10 (n % 10), by rw [toDigits_step (by omega), digits]; rfl, zero⟩

end JobMatrix
