import RelaySettlement.Evm.Reader
import RelaySettlement.LitDepositAddress.Cell

/-!
# Reading cells

A slice is what is left of a cell while it is read: the bits and the references that have not been
loaded yet.  The readers of numbers, coins and addresses follow the TL-B schemes of TON.
-/

open Evm

namespace RelaySettlement

structure Slice where
  bits : List Bool
  refs : List Cell

namespace Cell

def beginParse : Cell → Slice
  | mk bits _ _ _ refs => ⟨bits, List.ofFn refs⟩

theorem beginParse_new {bits : List Bool} {refs : List Cell} {cell : Cell}
    (isCell : new bits refs = some cell) : cell.beginParse = ⟨bits, refs⟩ := by
  obtain ⟨fit, ⟨⟩⟩ := Option.dite_none_right_eq_some.mp isCell
  rw [beginParse, List.ofFn_get]

/-- A cell and all cells below it. -/
def cells : Cell → List Cell
  | mk bits bitsFit count countFits refs =>
      mk bits bitsFit count countFits refs :: (List.ofFn fun i => (refs i).cells).flatten

theorem beginParse_bits_le (cell : Cell) : cell.beginParse.bits.length ≤ maxBits := by
  cases cell with
  | mk bits bitsFit count countFits refs => exact bitsFit

theorem beginParse_refs_le (cell : Cell) : cell.beginParse.refs.length ≤ maxRefs := by
  cases cell with
  | mk bits bitsFit count countFits refs =>
      rw [beginParse, List.length_ofFn]
      exact countFits

end Cell

/-! ## Readers -/

/-- Takes a value off the front of a slice. -/
abbrev CellReader (α : Type) := StateT Slice Option α

namespace CellReader

variable {α : Type}

/-- Read something that takes up all of a slice. -/
def whole (reader : CellReader α) (slice : Slice) : Option α :=
  match reader.run slice with
  | some (value, ⟨[], []⟩) => some value
  | _ => none

def loadBit : CellReader Bool
  | ⟨[], _⟩ => none
  | ⟨bit :: bits, refs⟩ => some (bit, ⟨bits, refs⟩)

def loadBits (count : ℕ) : CellReader (List Bool)
  | ⟨bits, refs⟩ =>
      if count ≤ bits.length then some (bits.take count, ⟨bits.drop count, refs⟩) else none

/-- The bits that a constructor starts with. -/
def loadTag (tag : List Bool) : CellReader Unit
  | ⟨bits, refs⟩ => if tag <+: bits then some ((), ⟨bits.drop tag.length, refs⟩) else none

def loadRef : CellReader Cell
  | ⟨_, []⟩ => none
  | ⟨bits, cell :: refs⟩ => some (cell, ⟨bits, refs⟩)

/-- Everything that is left. -/
def loadRest : CellReader Slice := fun slice => some (slice, ⟨[], []⟩)

def loadUint (width : ℕ) : CellReader ℕ := do
  return Bits.toNat (← loadBits width)

def loadBytes (count : ℕ) : CellReader Bytes := do
  Bits.toBytes (← loadBits (8 * count))

/-- A number in two's complement. -/
def loadInt (width : ℕ) : CellReader ℤ := do
  let value ← loadUint width
  return if 2 * value < 2 ^ width then value else value - 2 ^ width

/-- `Grams`: the number of bytes, and the bytes. -/
def loadCoins : CellReader ℕ := do
  let length ← loadUint 4
  loadUint (length * 8)

/-- `Maybe ^Cell`. -/
def loadMaybeRef : CellReader (Option Cell) := do
  if ← loadBit then return some (← loadRef) else return none

theorem whole_of_run {reader : CellReader α} {slice : Slice} {value : α}
    (read : reader.run slice = some (value, ⟨[], []⟩)) : reader.whole slice = some value := by
  rw [whole, read]

variable (bits : List Bool) (refs : List Cell)

@[simp] theorem run_loadBit (bit : Bool) :
    loadBit.run ⟨bit :: bits, refs⟩ = some (bit, ⟨bits, refs⟩) := rfl

@[simp] theorem run_loadRef (cell : Cell) :
    loadRef.run ⟨bits, cell :: refs⟩ = some (cell, ⟨bits, refs⟩) := rfl

theorem run_loadTag (tag : List Bool) :
    (loadTag tag).run ⟨tag ++ bits, refs⟩ = some ((), ⟨bits, refs⟩) := by
  simp [loadTag, StateT.run]

theorem run_loadTag_bit (bit : Bool) :
    (loadTag [bit]).run ⟨bit :: bits, refs⟩ = some ((), ⟨bits, refs⟩) :=
  run_loadTag bits refs [bit]

theorem run_loadBits (taken : List Bool) :
    (loadBits taken.length).run ⟨taken ++ bits, refs⟩ = some (taken, ⟨bits, refs⟩) := by
  simp [loadBits, StateT.run]

theorem run_loadUint {width value : ℕ} (fits : value < 2 ^ width) :
    (loadUint width).run ⟨Bits.ofNat width value ++ bits, refs⟩ = some (value, ⟨bits, refs⟩) := by
  have read := run_loadBits bits refs (Bits.ofNat width value)
  rw [Bits.length_ofNat] at read
  simp [loadUint, read, Bits.toNat_ofNat, Nat.mod_eq_of_lt fits]

theorem run_loadBytes (data : Bytes) :
    (loadBytes data.length).run ⟨Bits.ofBytes data ++ bits, refs⟩ =
      some (data, ⟨bits, refs⟩) := by
  have read := run_loadBits bits refs (Bits.ofBytes data)
  rw [Bits.length_ofBytes] at read
  simp [loadBytes, read, Bits.toBytes_ofBytes]

/-- Coins are read back as they are stored. -/
theorem run_loadCoins {amount : ℕ} (fits : amount < 2 ^ 120) :
    loadCoins.run ⟨Bits.ofNat 4 (Nat.digits 256 amount).length ++
      (Bits.ofNat ((Nat.digits 256 amount).length * 8) amount ++ bits), refs⟩ =
        some (amount, ⟨bits, refs⟩) := by
  have few : (Nat.digits 256 amount).length ≤ 15 :=
    (Nat.digits_length_le_iff (by decide) amount).mpr fits
  have inside : amount < 2 ^ ((Nat.digits 256 amount).length * 8) := by
    rw [Nat.mul_comm, Nat.pow_mul]
    exact Nat.lt_base_pow_length_digits (by decide)
  rw [loadCoins, StateT.run_bind, run_loadUint _ _ (Nat.lt_of_le_of_lt few (by decide))]
  exact run_loadUint bits refs inside

theorem run_loadCoins_zero :
    loadCoins.run ⟨Bits.ofNat 4 0 ++ bits, refs⟩ = some (0, ⟨bits, refs⟩) := rfl

end CellReader

/-! ## Addresses -/

/-- `addr_std` without anycast. -/
structure StdAddress where
  workchain : ℤ
  hash : Bytes

namespace CellReader

/-- What is behind the tag of `addr_std$10`. -/
def loadStdAddress : CellReader StdAddress := do
  loadTag [false]
  let workchain ← loadInt 8
  return ⟨workchain, ← loadBytes 32⟩

/-- `MsgAddress`: `addr_none$00` or `addr_std$10`. -/
def loadAddress : CellReader (Option StdAddress) := do
  match ← loadUint 2 with
  | 0 => return none
  | 2 => return some (← loadStdAddress)
  | _ => failure

variable (bits : List Bool) (refs : List Cell)

theorem run_loadAddress_none :
    loadAddress.run ⟨Bits.ofNat 2 0 ++ bits, refs⟩ = some (none, ⟨bits, refs⟩) := rfl

theorem run_loadAddress_std {hash : Bytes} (length : hash.length = 32) :
    loadAddress.run ⟨Bits.ofNat 11 0x400 ++ (Bits.ofBytes hash ++ bits), refs⟩ =
      some (some ⟨0, hash⟩, ⟨bits, refs⟩) := by
  have read := run_loadBytes bits refs hash
  rw [length] at read
  have header : Bits.ofNat 11 0x400 ++ (Bits.ofBytes hash ++ bits) =
      Bits.ofNat 2 2 ++ false :: (Bits.ofNat 8 0 ++ (Bits.ofBytes hash ++ bits)) := rfl
  have workchain (bits : List Bool) :
      (loadInt 8).run ⟨Bits.ofNat 8 0 ++ bits, refs⟩ = some (0, ⟨bits, refs⟩) := rfl
  have isStd : loadStdAddress.run ⟨false :: (Bits.ofNat 8 0 ++ (Bits.ofBytes hash ++ bits)), refs⟩ =
      some (⟨0, hash⟩, ⟨bits, refs⟩) := by
    rw [loadStdAddress, run_bind_of (run_loadTag_bit _ _ _), run_bind_of (workchain _),
      run_bind_of read]
    rfl
  rw [header, loadAddress, run_bind_of (run_loadUint _ _ (by decide))]
  exact run_bind_of isStd

end CellReader

end RelaySettlement
