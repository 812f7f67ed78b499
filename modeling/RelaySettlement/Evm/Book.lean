import RelaySettlement.Evm.Word
import Mathlib.Algebra.BigOperators.Group.Finset.Basic
import Mathlib.Algebra.BigOperators.Ring.Finset

/-!
# Books of account over a finite set of holders

A book assigns an amount to every holder.  Its total is what conservation and
solvency statements are about; the lemmas below say how posting, taking and
moving an amount change that total.
-/

namespace Evm.Book

variable {α : Type} [DecidableEq α]

/-- Add an amount to one holder. -/
def post (book : α → ℕ) (holder : α) (amount : ℕ) : α → ℕ :=
  set book holder (book holder + amount)

/-- Take an amount from one holder. -/
def take (book : α → ℕ) (holder : α) (amount : ℕ) : α → ℕ :=
  set book holder (book holder - amount)

/-- Move an amount between two holders, which may be the same one. -/
def move (book : α → ℕ) (source target : α) (amount : ℕ) : α → ℕ :=
  post (take book source amount) target amount

/-! ## Totals -/

instance finite_address : Finite Address := Finite.of_fintype Address

/-- The sum of all entries of a book.  The enumeration of the holders is taken
classically, so that no checker is tempted to count through an address space. -/
noncomputable def total {α : Type} [Finite α] (book : α → ℕ) : ℕ :=
  letI := Fintype.ofFinite α
  ∑ holder, book holder

omit [DecidableEq α] in
theorem total_eq_sum [Fintype α] (book : α → ℕ) : total book = ∑ holder, book holder := by
  unfold total
  apply Finset.sum_congr _ fun _ _ => rfl
  ext holder
  simp

variable [Finite α]

omit [DecidableEq α] in
@[simp] theorem total_zero : total (fun _ : α => 0) = 0 := by
  simp [total]

/-- Overwriting one entry exchanges the old entry for the new one. -/
theorem total_set (book : α → ℕ) (holder : α) (amount : ℕ) :
    total (set book holder amount) + book holder = total book + amount := by
  let _ := Fintype.ofFinite α
  rw [total_eq_sum, total_eq_sum]
  have elsewhere :
      ∑ other ∈ Finset.univ.erase holder, set book holder amount other =
        ∑ other ∈ Finset.univ.erase holder, book other := by
    apply Finset.sum_congr rfl
    intro other membership
    simp [Finset.ne_of_mem_erase membership]
  rw [← Finset.add_sum_erase _ book (Finset.mem_univ holder),
    ← Finset.add_sum_erase _ (set book holder amount) (Finset.mem_univ holder),
    elsewhere, set_apply, if_pos rfl]
  ring

theorem total_post (book : α → ℕ) (holder : α) (amount : ℕ) :
    total (post book holder amount) = total book + amount := by
  have exchange := total_set book holder (book holder + amount)
  unfold post
  omega

theorem total_take (book : α → ℕ) (holder : α) (amount : ℕ)
    (covered : amount ≤ book holder) :
    total (take book holder amount) + amount = total book := by
  have exchange := total_set book holder (book holder - amount)
  unfold take
  omega

theorem total_move (book : α → ℕ) (source target : α) (amount : ℕ)
    (covered : amount ≤ book source) :
    total (move book source target amount) = total book := by
  unfold move
  rw [total_post]
  exact total_take book source amount covered

end Evm.Book
