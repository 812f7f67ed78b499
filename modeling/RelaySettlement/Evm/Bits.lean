import Mathlib.Data.List.GetD
import RelaySettlement.Evm.Abi

/-!
# Bits in byte strings

Bit `i` of a byte string is bit `i % 8` of byte `i / 8`, counted from the highest.  A byte string
is determined by its length and its bits, so that two ways to write bits into bytes are compared
bit by bit.
-/

namespace Evm.Bits

/-! ## Numbers as bits -/

/-- The `width` low bits of a number, highest first. -/
def ofNat : (width value : ℕ) → List Bool
  | 0, _ => []
  | width + 1, value => value.testBit width :: ofNat width value

@[simp] theorem length_ofNat (width value : ℕ) : (ofNat width value).length = width := by
  induction width with
  | zero => rfl
  | succ width ih => rw [ofNat, List.length_cons, ih]

theorem getD_ofNat (width value i : ℕ) :
    (ofNat width value).getD i false = (decide (i < width) && value.testBit (width - 1 - i)) := by
  induction width generalizing i with
  | zero => rfl
  | succ width ih =>
      cases i with
      | zero => rw [ofNat, List.getD_cons_zero, decide_eq_true (Nat.succ_pos width)]; rfl
      | succ i =>
          rw [ofNat, List.getD_cons_succ, ih, Nat.add_sub_cancel, Nat.sub_sub, Nat.add_comm 1 i]
          simp

theorem ofNat_add (high low value : ℕ) :
    ofNat (high + low) value = ofNat high (value >>> low) ++ ofNat low value := by
  induction high with
  | zero => rw [Nat.zero_add, ofNat, List.nil_append]
  | succ high ih =>
      rw [Nat.succ_add, ofNat, ofNat, List.cons_append, ih, Nat.testBit_shiftRight,
        Nat.add_comm low high]

/-- Only the low bits count. -/
theorem ofNat_mod (width value : ℕ) : ofNat width (value % 2 ^ width) = ofNat width value := by
  have low : ∀ count ≤ width, ofNat count (value % 2 ^ width) = ofNat count value := by
    intro count
    induction count with
    | zero => intro _; rfl
    | succ count ih =>
        intro below
        rw [ofNat, ofNat, ih (Nat.le_of_succ_le below), Nat.testBit_mod_two_pow,
          decide_eq_true (Nat.lt_of_succ_le below), Bool.true_and]
  exact low width (Nat.le_refl width)

/-- The bits of a byte string. -/
def ofBytes (data : Bytes) : List Bool := data.flatMap fun byte => ofNat 8 byte.toNat

theorem ofBytes_bigEndian (width value : ℕ) :
    ofBytes (Abi.bigEndian width value) = ofNat (8 * width) value := by
  induction width generalizing value with
  | zero => rfl
  | succ width ih =>
      have low : (UInt8.ofNat value).toNat = value % 2 ^ 8 := UInt8.toNat_ofNat'
      have high : value / 256 = value >>> 8 := (Nat.shiftRight_eq_div_pow value 8).symm
      have own : ofBytes [UInt8.ofNat value] = ofNat 8 value := by
        rw [ofBytes, List.flatMap_singleton, low, ofNat_mod]
      rw [Abi.bigEndian_succ, Nat.mul_succ, ofNat_add, ← high, ← ih, ← own]
      exact List.flatMap_append

/-! ## Reading bits -/

/-- The number that bits denote, highest first. -/
def toNat (bits : List Bool) : ℕ := bits.foldl (fun value bit => 2 * value + bit.toNat) 0

theorem foldl_toNat (bits : List Bool) (start : ℕ) :
    bits.foldl (fun value bit => 2 * value + bit.toNat) start =
      start * 2 ^ bits.length + toNat bits := by
  induction bits generalizing start with
  | nil => simp [toNat]
  | cons bit bits ih =>
      rw [toNat, List.foldl_cons, List.foldl_cons, ih, ih (2 * 0 + bit.toNat), List.length_cons,
        Nat.pow_succ]
      ring

theorem toNat_cons (bit : Bool) (bits : List Bool) :
    toNat (bit :: bits) = bit.toNat * 2 ^ bits.length + toNat bits := by
  rw [toNat, List.foldl_cons, foldl_toNat, Nat.mul_zero, Nat.zero_add]

theorem toNat_ofNat (width value : ℕ) : toNat (ofNat width value) = value % 2 ^ width := by
  induction width with
  | zero => rw [pow_zero, Nat.mod_one]; rfl
  | succ width ih =>
      rw [ofNat, toNat_cons, length_ofNat, ih, Nat.mod_pow_succ, Nat.toNat_testBit, Nat.add_comm,
        Nat.mul_comm]

/-- The bytes that bits make up, if they make up whole bytes. -/
def toBytes : List Bool → Option Bytes
  | [] => some []
  | a :: b :: c :: d :: e :: f :: g :: h :: bits => do
      return UInt8.ofNat (toNat [a, b, c, d, e, f, g, h]) :: (← toBytes bits)
  | _ => none

theorem toBytes_ofBytes (data : Bytes) : toBytes (ofBytes data) = some data := by
  induction data with
  | nil => rfl
  | cons byte data ih =>
      have first : UInt8.ofNat (toNat (ofNat 8 byte.toNat)) = byte := by
        rw [toNat_ofNat, Nat.mod_eq_of_lt byte.toNat_lt, UInt8.ofNat_toNat]
      calc toBytes (ofBytes (byte :: data))
          = toBytes (ofNat 8 byte.toNat ++ ofBytes data) := rfl
        _ = (toBytes (ofBytes data)).bind fun bytes =>
              some (UInt8.ofNat (toNat (ofNat 8 byte.toNat)) :: bytes) := rfl
        _ = some (byte :: data) := by rw [ih, first, Option.bind_some]

@[simp] theorem length_ofBytes (data : Bytes) : (ofBytes data).length = 8 * data.length := by
  induction data with
  | nil => rfl
  | cons byte data ih =>
      rw [ofBytes, List.flatMap_cons, List.length_append, length_ofNat, ← ofBytes, ih,
        List.length_cons]
      ring

/-! ## Bits of a byte string -/

/-- There are zeros behind the last byte. -/
def bitAt (data : Bytes) (i : ℕ) : Bool := (data.getD (i / 8) 0).toNat.testBit (7 - i % 8)

theorem bitAt_set {data : Bytes} {index : ℕ} (inside : index < data.length) (byte : UInt8)
    (i : ℕ) :
    bitAt (data.set index byte) i =
      if i / 8 = index then byte.toNat.testBit (7 - i % 8) else bitAt data i := by
  rw [bitAt, List.getD_eq_getElem?_getD]
  split
  next isIndex => rw [isIndex, List.getElem?_set_self inside, Option.getD_some]
  next isOther =>
    rw [List.getElem?_set_ne (Ne.symm isOther), bitAt, List.getD_eq_getElem?_getD]

/-- Bits are or-ed into a byte. -/
theorem bitAt_set_or {data : Bytes} {index : ℕ} (inside : index < data.length) (byte : UInt8)
    (i : ℕ) :
    bitAt (data.set index (data.getD index 0 ||| byte)) i =
      (bitAt data i || (decide (i / 8 = index) && byte.toNat.testBit (7 - i % 8))) := by
  rw [bitAt_set inside]
  split
  next isIndex =>
    rw [decide_eq_true isIndex, Bool.true_and, UInt8.toNat_or, Nat.testBit_or, bitAt, isIndex]
  next isOther => rw [decide_eq_false isOther, Bool.false_and, Bool.or_false]

theorem ext {data other : Bytes} (length : data.length = other.length)
    (bits : ∀ i, bitAt data i = bitAt other i) : data = other := by
  apply List.ext_getElem length
  intro index inside inside'
  apply UInt8.toNat_inj.mp
  apply Nat.eq_of_testBit_eq
  intro position
  rcases Nat.lt_or_ge position 8 with low | high
  · have bit := bits (8 * index + (7 - position))
    have byte : (8 * index + (7 - position)) / 8 = index := by omega
    have place : 7 - (8 * index + (7 - position)) % 8 = position := by omega
    rwa [bitAt, bitAt, byte, place, List.getD_eq_getElem _ _ inside,
      List.getD_eq_getElem _ _ inside'] at bit
  · have wide : 2 ^ 8 ≤ 2 ^ position := Nat.pow_le_pow_right (by decide) high
    rw [Nat.testBit_lt_two_pow (Nat.lt_of_lt_of_le (UInt8.toNat_lt _) wide),
      Nat.testBit_lt_two_pow (Nat.lt_of_lt_of_le (UInt8.toNat_lt _) wide)]

/-- The bits stand at the front, and behind them there are zeros. -/
def Holds (data : Bytes) (bits : List Bool) : Prop := ∀ i, bitAt data i = bits.getD i false

theorem Holds.eq {data other : Bytes} {bits : List Bool} (holds : Holds data bits)
    (otherHolds : Holds other bits) (length : data.length = other.length) : data = other :=
  ext length fun i => (holds i).trans (otherHolds i).symm

theorem holds_replicate (count : ℕ) : Holds (List.replicate count 0) [] := by
  intro i
  have zero : (List.replicate count (0 : UInt8)).getD (i / 8) 0 = 0 := by
    rw [List.getD_eq_getElem?_getD, List.getElem?_replicate]
    split <;> rfl
  rw [bitAt, zero]
  exact Nat.zero_testBit _

end Evm.Bits
