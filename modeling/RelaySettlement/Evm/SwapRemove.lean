import Mathlib.Data.List.Basic
import Mathlib.Data.List.Nodup

/-!
# Removing an array entry by swapping

An entry of an unordered storage array is removed by moving the last entry into its place
and shortening the array by one.  Up to order this erases the entry.
-/

namespace Evm

variable {α : Type} [DecidableEq α]

/-- Replace the first occurrence of an entry by the last one, and drop the last one. -/
def swapRemove (entries : List α) (entry : α) : List α :=
  match entries.findIdx? (· == entry) with
  | none => entries
  | some index => (entries.set index (entries.getLastD entry)).dropLast

theorem findIdx?_of_notMem {entries : List α} {entry : α} (absent : entry ∉ entries) :
    entries.findIdx? (· == entry) = none := by
  rw [List.findIdx?_eq_none_iff]
  intro other member
  apply beq_false_of_ne
  rintro rfl
  exact absent member

theorem findIdx?_append_cons {front back : List α} {entry : α} (absent : entry ∉ front) :
    (front ++ entry :: back).findIdx? (· == entry) = some front.length := by
  rw [List.findIdx?_append, findIdx?_of_notMem absent]
  simp [List.findIdx?_cons]

/-- Only the entries behind the removed one change their places. -/
theorem swapRemove_append_cons {front back : List α} {entry : α} (absent : entry ∉ front) :
    swapRemove (front ++ entry :: back) entry =
      front ++ (back.getLastD entry :: back).dropLast := by
  have last : (front ++ entry :: back).getLastD entry = back.getLastD entry := by
    rw [List.getLastD_eq_getLast?, List.getLast?_append_cons, List.getLast?_cons,
      Option.getD_some, ← List.getLastD_eq_getLast?]
  rw [swapRemove, findIdx?_append_cons absent, last]
  simp [List.set_append_right, List.dropLast_append_of_ne_nil]

omit [DecidableEq α] in
theorem dropLast_moved_perm (back : List α) (entry : α) :
    ((back.getLastD entry :: back).dropLast).Perm back := by
  rcases List.eq_nil_or_concat back with rfl | ⟨front, last, rfl⟩
  · exact List.Perm.refl []
  · have moved : ((front ++ [last]).getLastD entry :: (front ++ [last])).dropLast =
        last :: front := by
      rw [List.getLastD_concat, ← List.cons_append, List.dropLast_concat]
    rw [List.concat_eq_append, moved]
    exact (List.perm_append_singleton last front).symm

theorem swapRemove_perm (entries : List α) (entry : α) :
    (swapRemove entries entry).Perm (entries.erase entry) := by
  by_cases member : entry ∈ entries
  · obtain ⟨front, back, absent, rfl, erased⟩ := List.exists_erase_eq member
    rw [swapRemove_append_cons absent, erased]
    exact (dropLast_moved_perm back entry).append_left front
  · rw [swapRemove, findIdx?_of_notMem member, List.erase_of_not_mem member]

end Evm
