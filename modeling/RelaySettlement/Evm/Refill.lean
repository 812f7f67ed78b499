import Mathlib.Order.Basic
import Mathlib.Tactic.Ring

/-!
# Capped linear refill

A budget that grows at a constant rate and never beyond a capacity.  What is available
at some time depends only on the last level and on how long ago it was, not on how often
it was looked at in between.
-/

namespace Evm

/-- The level some time after it was `level`. -/
def refill (capacity rate level elapsed : ℕ) : ℕ := min capacity (level + elapsed * rate)

section Refill

variable (capacity rate level : ℕ)

theorem refill_le_capacity (elapsed : ℕ) : refill capacity rate level elapsed ≤ capacity :=
  Nat.min_le_left _ _

theorem refill_le_accrued (elapsed : ℕ) :
    refill capacity rate level elapsed ≤ level + elapsed * rate :=
  Nat.min_le_right _ _

theorem refill_zero (bounded : level ≤ capacity) : refill capacity rate level 0 = level := by
  rw [refill, Nat.zero_mul, Nat.add_zero]
  exact Nat.min_eq_right bounded

/-- Refilling in two steps is refilling in one. -/
theorem refill_refill (first second : ℕ) :
    refill capacity rate (refill capacity rate level first) second =
      refill capacity rate level (first + second) := by
  simp only [refill, Nat.add_mul]
  omega

end Refill

end Evm
