import RelaySettlement.Evm.Word

/-!
# Bitmaps

A set of small numbers kept as the bits of 256-bit words: bit `index % 256` of word
`index / 256`.
-/

namespace Evm

/-- The words of a bitmap. -/
abbrev Bitmap := ℕ → U256

namespace Bitmap

def empty : Bitmap := fun _ => 0

/-- The word in which only the bit of an index is set. -/
def bit (index : ℕ) : U256 := 1#256 <<< (index % 256)

def contains (bitmap : Bitmap) (index : ℕ) : Bool :=
  bitmap (index / 256) &&& bit index != 0

def insert (bitmap : Bitmap) (index : ℕ) : Bitmap :=
  set bitmap (index / 256) (bitmap (index / 256) ||| bit index)

theorem getLsbD_bit (index position : ℕ) :
    (bit index).getLsbD position = decide (index % 256 = position) := by
  have inWord : index % 256 < 256 := Nat.mod_lt _ (by decide)
  rw [bit, ← BitVec.twoPow_eq, BitVec.getLsbD_twoPow]
  simp [inWord]

/-- An index is contained when its bit is set. -/
theorem contains_eq_getLsbD (bitmap : Bitmap) (index : ℕ) :
    bitmap.contains index = (bitmap (index / 256)).getLsbD (index % 256) := by
  have nonzero : bit index ≠ 0#256 := by
    intro zero
    have selected := getLsbD_bit index (index % 256)
    rw [zero, BitVec.getLsbD_zero] at selected
    simp at selected
  rw [contains]
  rw [bit, ← BitVec.twoPow_eq] at nonzero ⊢
  rw [BitVec.and_twoPow]
  cases (bitmap (index / 256)).getLsbD (index % 256) <;> simp [nonzero]

@[simp] theorem contains_empty (index : ℕ) : empty.contains index = false := by
  rw [contains_eq_getLsbD]
  exact BitVec.getLsbD_zero

@[simp] theorem contains_insert (bitmap : Bitmap) (index other : ℕ) :
    (bitmap.insert index).contains other =
      (decide (other = index) || bitmap.contains other) := by
  rw [contains_eq_getLsbD, contains_eq_getLsbD, insert, set_apply]
  split
  next sameWord =>
    have sameBit : decide (index % 256 = other % 256) = decide (other = index) :=
      decide_eq_decide.mpr (by omega)
    rw [BitVec.getLsbD_or, getLsbD_bit, sameBit, sameWord, Bool.or_comm]
  next otherWord =>
    have different : other ≠ index := by
      rintro rfl
      exact otherWord rfl
    simp [different]

end Bitmap

end Evm
