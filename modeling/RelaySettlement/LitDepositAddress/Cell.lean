import Mathlib.Data.Nat.Digits.Lemmas
import RelaySettlement.Evm.Bits
import RelaySettlement.Evm.Codec

/-!
# TON cells

The builder of cells and the representation hash of a cell, over lists of booleans.  A method
that throws returns `none`, and SHA-256 is a parameter.
-/

open Evm

namespace RelaySettlement

/-- `MAX_CELL_BITS`. -/
def Cell.maxBits : ℕ := 1023

/-- `MAX_CELL_REFS`. -/
def Cell.maxRefs : ℕ := 4

/-- An ordinary cell: the constructor has checked the limits. -/
inductive Cell where
  | mk (bits : List Bool) (bitsFit : bits.length ≤ Cell.maxBits) (count : ℕ)
      (countFits : count ≤ Cell.maxRefs) (refs : Fin count → Cell)

namespace Cell

/-- `new Cell(bits, refs)`. -/
def new (bits : List Bool) (refs : List Cell) : Option Cell :=
  if fit : bits.length ≤ maxBits ∧ refs.length ≤ maxRefs then
    some (mk bits fit.1 refs.length fit.2 refs.get)
  else none

variable {bits bits' : List Bool}

theorem exists_new {refs : List Cell} (bitsFit : bits.length ≤ maxBits)
    (refsFit : refs.length ≤ maxRefs) : ∃ cell, new bits refs = some cell := by
  rw [new, dif_pos ⟨bitsFit, refsFit⟩]
  exact ⟨_, rfl⟩

/-! ## Data bytes -/

/-- Pushes zeros until the length is a multiple of 8. -/
def pushZeros : ℕ → List Bool → List Bool
  | 0, padded => padded
  | fuel + 1, padded =>
      if padded.length % 8 = 0 then padded else pushZeros fuel (padded ++ [false])

/-- The bits with the completion tag, if there is a last byte to complete. -/
def padded (bits : List Bool) : List Bool :=
  if bits.length % 8 = 0 then bits else pushZeros 7 (bits ++ [true])

/-- Sets the bits that are true, from position `i` on. -/
def setBits : List Bool → ℕ → Bytes → Bytes
  | [], _, out => out
  | bit :: bits, i, out =>
      setBits bits (i + 1) (if bit then
        out.set (i / 8) (out.getD (i / 8) 0 ||| UInt8.ofNat (1 <<< (7 - i % 8))) else out)

def dataBytes (bits : List Bool) : Bytes :=
  setBits (padded bits) 0 (List.replicate ((bits.length + 7) / 8) 0)

theorem getD_pushZeros (fuel : ℕ) (bits : List Bool) (i : ℕ) :
    (pushZeros fuel bits).getD i false = bits.getD i false := by
  induction fuel generalizing bits with
  | zero => rfl
  | succ fuel ih =>
      rw [pushZeros]
      split
      next => rfl
      next =>
        rw [ih]
        rcases Nat.lt_or_ge i bits.length with inside | outside
        · exact List.getD_append _ _ _ _ inside
        · rw [List.getD_append_right _ _ _ _ outside, List.getD_eq_default _ _ outside]
          cases i - bits.length <;> rfl

theorem length_pushZeros (fuel : ℕ) (bits : List Bool) (enough : (8 - bits.length % 8) % 8 ≤ fuel) :
    (pushZeros fuel bits).length = 8 * ((bits.length + 7) / 8) := by
  induction fuel generalizing bits with
  | zero =>
      rw [pushZeros]
      omega
  | succ fuel ih =>
      rw [pushZeros]
      split
      next aligned => omega
      next unaligned =>
        have longer : (bits ++ [false]).length = bits.length + 1 := List.length_append
        rw [ih _ (by omega), longer]
        omega

theorem length_padded (bits : List Bool) :
    (padded bits).length = 8 * ((bits.length + 7) / 8) := by
  rw [padded]
  split
  next aligned => omega
  next unaligned =>
    have longer : (bits ++ [true]).length = bits.length + 1 := List.length_append
    rw [length_pushZeros _ _ (by omega), longer]
    omega

@[simp] theorem length_setBits (bits : List Bool) (i : ℕ) (out : Bytes) :
    (setBits bits i out).length = out.length := by
  induction bits generalizing i out with
  | nil => rfl
  | cons bit bits ih =>
      rw [setBits, ih]
      split
      next => exact List.length_set
      next => rfl

theorem bitAt_setBits {start : ℕ} {out : Bytes} (room : start + bits.length ≤ 8 * out.length)
    (i : ℕ) :
    Bits.bitAt (setBits bits start out) i =
      (Bits.bitAt out i || (decide (start ≤ i) && bits.getD (i - start) false)) := by
  induction bits generalizing start out with
  | nil => rw [setBits, List.getD_nil, Bool.and_false, Bool.or_false]
  | cons bit bits ih =>
      rw [List.length_cons] at room
      have inside : start / 8 < out.length := by omega
      have mark : (UInt8.ofNat (1 <<< (7 - start % 8))).toNat = 2 ^ (7 - start % 8) := by
        have small : ∀ shift ≤ 7, (UInt8.ofNat (1 <<< shift)).toNat = 2 ^ shift := by
          decide +kernel
        exact small _ (Nat.sub_le _ _)
      -- One step sets the bit at `start`, if it is true, and no other.
      have step : Bits.bitAt (if bit then out.set (start / 8)
            (out.getD (start / 8) 0 ||| UInt8.ofNat (1 <<< (7 - start % 8))) else out) i =
          (Bits.bitAt out i || (decide (start = i) && bit)) := by
        cases bit with
        | false => rw [if_neg Bool.false_ne_true, Bool.and_false, Bool.or_false]
        | true =>
            have place : (decide (i / 8 = start / 8) && decide (7 - start % 8 = 7 - i % 8)) =
                decide (start = i) := by
              rw [← Bool.decide_and]
              exact decide_eq_decide.mpr (by omega)
            rw [if_pos rfl, Bits.bitAt_set_or inside, mark, Nat.testBit_two_pow, place,
              Bool.and_true]
      have room' : start + 1 + bits.length ≤ 8 * (if bit then out.set (start / 8)
          (out.getD (start / 8) 0 ||| UInt8.ofNat (1 <<< (7 - start % 8))) else out).length := by
        split
        next => rw [List.length_set]; omega
        next => omega
      rw [setBits, ih room', step, Bool.or_assoc]
      congr 1
      rcases Nat.lt_trichotomy start i with after | rfl | before
      · have next : i - start = i - (start + 1) + 1 := by omega
        simp [after.ne, after.le, Nat.succ_le_of_lt after, next]
      · simp
      · have later : ¬ start + 1 ≤ i := by omega
        simp [before.ne', before.not_ge, later]

@[simp] theorem length_dataBytes (bits : List Bool) :
    (dataBytes bits).length = (bits.length + 7) / 8 := by
  rw [dataBytes, length_setBits, List.length_replicate]

/-- The data bytes hold the bits, and one more that completes the last byte. -/
theorem holds_dataBytes (bits : List Bool) :
    Bits.Holds (dataBytes bits) (if bits.length % 8 = 0 then bits else bits ++ [true]) := by
  intro i
  have room : 0 + (padded bits).length ≤
      8 * (List.replicate ((bits.length + 7) / 8) (0 : UInt8)).length := by
    rw [length_padded, List.length_replicate, Nat.zero_add]
  rw [dataBytes, bitAt_setBits room, Bits.holds_replicate, List.getD_nil, Bool.false_or,
    decide_eq_true (Nat.zero_le i), Bool.true_and, Nat.sub_zero, padded]
  split
  next => rfl
  next => exact getD_pushZeros 7 _ i

/-! ## Representation -/

/-- `d1`: the number of references of an ordinary cell of level 0. -/
def d1 (count : ℕ) : ℕ := count

/-- `d2`: the number of whole bytes and the number of bytes. -/
def d2 (bits : List Bool) : ℕ := bits.length / 8 + (bits.length + 7) / 8

def depth : Cell → ℕ
  | mk _ _ count _ refs =>
      if count = 0 then 0 else 1 + (List.ofFn fun i => (refs i).depth).foldl max 0

def depthBytes (depth : ℕ) : Bytes := [UInt8.ofNat (depth / 256 % 256), UInt8.ofNat (depth % 256)]

/-- What is hashed for a cell, from the depths and hashes of its references. -/
def represent (bits : List Bool) {count : ℕ} (depths : Fin count → ℕ)
    (hashes : Fin count → Bytes32) : Bytes :=
  [UInt8.ofNat (d1 count), UInt8.ofNat (d2 bits)] ++ dataBytes bits ++
    (List.ofFn fun i => depthBytes (depths i)).flatten ++
    (List.ofFn fun i => Abi.word (hashes i)).flatten

def hash (sha256 : Bytes → Bytes32) : Cell → Bytes32
  | mk bits _ _ _ refs =>
      sha256 (represent bits (fun i => (refs i).depth) fun i => (refs i).hash sha256)

/-- What is hashed for a cell, from the list of its references. -/
theorem hash_new {refs : List Cell} {cell : Cell} (isCell : new bits refs = some cell)
    (sha256 : Bytes → Bytes32) :
    cell.hash sha256 = sha256 ([UInt8.ofNat (d1 refs.length), UInt8.ofNat (d2 bits)] ++
      dataBytes bits ++ refs.flatMap (fun ref => depthBytes ref.depth) ++
      refs.flatMap (fun ref => Abi.word (ref.hash sha256))) := by
  obtain ⟨fit, ⟨⟩⟩ := Option.dite_none_right_eq_some.mp isCell
  have each (image : Cell → Bytes) :
      (List.ofFn fun i => image (refs.get i)).flatten = refs.flatMap image := by
    rw [List.flatMap_def]
    congr 1
    exact (List.ofFn_comp' refs.get image).trans (congrArg _ (List.ofFn_get refs))
  rw [hash, represent, each fun ref => depthBytes ref.depth,
    each fun ref => Abi.word (ref.hash sha256)]

/-! ## Hashes and cells -/

/-- The bit that completes the last byte is the last that is set. -/
theorem length_le_of_completion
    (same : ∀ i, (bits ++ [true]).getD i false = (bits' ++ [true]).getD i false) :
    bits'.length ≤ bits.length := by
  apply Nat.le_of_not_lt
  intro shorter
  have last := same bits'.length
  rw [List.getD_append_right _ _ _ _ (Nat.le_refl _), Nat.sub_self, List.getD_cons_zero,
    List.getD_eq_default _ _ (by simpa using shorter)] at last
  cases last

theorem eq_of_getD_eq (length : bits.length = bits'.length)
    (same : ∀ i, bits.getD i false = bits'.getD i false) : bits = bits' := by
  apply List.ext_getElem length
  intro i inside inside'
  have bit := same i
  rwa [List.getD_eq_getElem _ _ inside, List.getD_eq_getElem _ _ inside'] at bit

/-- The data bytes and the second descriptor determine the bits. -/
theorem dataBytes_inj (descriptor : d2 bits = d2 bits') (same : dataBytes bits = dataBytes bits') :
    bits = bits' := by
  have held (i : ℕ) := (holds_dataBytes bits i).symm.trans
    ((congrArg (Bits.bitAt · i) same).trans (holds_dataBytes bits' i))
  rw [d2, d2] at descriptor
  by_cases aligned : bits.length % 8 = 0
  · have aligned' : bits'.length % 8 = 0 := by omega
    simp only [if_pos aligned, if_pos aligned'] at held
    exact eq_of_getD_eq (by omega) held
  · have unaligned : ¬ bits'.length % 8 = 0 := by omega
    simp only [if_neg aligned, if_neg unaligned] at held
    have length : bits.length = bits'.length := Nat.le_antisymm
      (length_le_of_completion fun i => (held i).symm) (length_le_of_completion held)
    exact (List.append_inj (eq_of_getD_eq (by simp [length]) held) length).1

/-- What is hashed for a cell. -/
def representation (sha256 : Bytes → Bytes32) : Cell → Bytes
  | mk bits _ _ _ refs => represent bits (fun i => (refs i).depth) fun i => (refs i).hash sha256

/-- What is hashed for a cell and all cells below it. -/
def hashed (sha256 : Bytes → Bytes32) : Cell → List Bytes
  | mk bits bitsFit count countFits refs =>
      representation sha256 (mk bits bitsFit count countFits refs) ::
        (List.ofFn fun i => (refs i).hashed sha256).flatten

theorem hash_eq (sha256 : Bytes → Bytes32) (cell : Cell) :
    cell.hash sha256 = sha256 (cell.representation sha256) := by
  cases cell with
  | mk bits bitsFit count countFits refs => rfl

theorem representation_mem_hashed (sha256 : Bytes → Bytes32) (cell : Cell) :
    cell.representation sha256 ∈ cell.hashed sha256 := by
  cases cell with
  | mk bits bitsFit count countFits refs => exact List.mem_cons_self

theorem hashed_ref_subset (sha256 : Bytes → Bytes32) {count : ℕ} (bitsFit : bits.length ≤ maxBits)
    (countFits : count ≤ maxRefs) (refs : Fin count → Cell) (i : Fin count) :
    (refs i).hashed sha256 ⊆ (mk bits bitsFit count countFits refs).hashed sha256 := by
  intro text member
  apply List.mem_cons_of_mem
  exact List.mem_flatten.mpr ⟨_, List.mem_ofFn.mpr ⟨i, rfl⟩, member⟩

theorem length_flatten_ofFn {count width : ℕ} (part : Fin count → Bytes)
    (each : ∀ i, (part i).length = width) : (List.ofFn part).flatten.length = count * width := by
  rw [List.length_flatten, List.map_ofFn]
  have constant : List.length ∘ part = fun _ => width := funext each
  rw [constant, List.ofFn_const, List.sum_replicate_nat]

theorem representation_inj {sha256 : Bytes → Bytes32} {bits bits' : List Bool}
    {count count' : ℕ} {bitsFit : bits.length ≤ maxBits} {bitsFit' : bits'.length ≤ maxBits}
    {countFits : count ≤ maxRefs} {countFits' : count' ≤ maxRefs} {refs : Fin count → Cell}
    {refs' : Fin count' → Cell}
    (same : representation sha256 (mk bits bitsFit count countFits refs) =
      representation sha256 (mk bits' bitsFit' count' countFits' refs')) :
    bits = bits' ∧ (List.ofFn fun i => (refs i).hash sha256) =
      List.ofFn fun i => (refs' i).hash sha256 := by
  simp only [representation, represent, List.append_assoc] at same
  obtain ⟨descriptors, same⟩ := List.append_inj same rfl
  rw [maxBits] at bitsFit bitsFit'
  rw [maxRefs] at countFits countFits'
  have byte {m n : ℕ} (small : m < 256) (small' : n < 256)
      (same : UInt8.ofNat m = UInt8.ofNat n) : m = n := by
    have values := congrArg UInt8.toNat same
    rwa [UInt8.toNat_ofNat', UInt8.toNat_ofNat', Nat.mod_eq_of_lt small,
      Nat.mod_eq_of_lt small'] at values
  obtain ⟨first, second⟩ := List.cons.inj descriptors
  have counts : count = count' := byte (by omega) (by omega) first
  have lengths : d2 bits = d2 bits' :=
    byte (by rw [d2]; omega) (by rw [d2]; omega) (List.cons.inj second).1
  subst counts
  obtain ⟨data, same⟩ := List.append_inj same (by
    rw [length_dataBytes, length_dataBytes]
    rw [d2, d2] at lengths
    omega)
  obtain ⟨_, hashes⟩ := List.append_inj same (by
    rw [@length_flatten_ofFn count 2 _ fun _ => rfl, @length_flatten_ofFn count 2 _ fun _ => rfl])
  refine ⟨dataBytes_inj lengths data, ?_⟩
  apply Abi.flatMap_word_inj
  rw [List.flatMap_def, List.flatMap_def, List.map_ofFn, List.map_ofFn]
  exact hashes

/-- A hash determines its cell, with all cells below it. -/
theorem hash_inj {sha256 : Bytes → Bytes32} {cell cell' : Cell}
    (noCollision : Abi.NoCollision sha256 (cell.hashed sha256 ++ cell'.hashed sha256))
    (same : cell.hash sha256 = cell'.hash sha256) : cell = cell' := by
  induction cell generalizing cell' with
  | mk bits bitsFit count countFits refs ih =>
      cases cell' with
      | mk bits' bitsFit' count' countFits' refs' =>
          rw [hash_eq, hash_eq] at same
          obtain ⟨rfl, hashes⟩ := representation_inj (noCollision _
            (List.mem_append_left _ (representation_mem_hashed _ _)) _
            (List.mem_append_right _ (representation_mem_hashed _ _)) same)
          have counts : count = count' := by simpa using congrArg List.length hashes
          subst counts
          have each (i : Fin count) : refs i = refs' i := by
            apply ih i
            · exact noCollision.of_subset (List.append_subset.mpr
                ⟨List.subset_append_of_subset_left _ (hashed_ref_subset _ _ _ _ i),
                  List.subset_append_of_subset_right _ (hashed_ref_subset _ _ _ _ i)⟩)
            · exact congrFun (List.ofFn_injective hashes) i
          rw [funext each]

end Cell

/-! ## Builder -/

structure Builder where
  bits : List Bool
  refs : List Cell

namespace Builder

/-- `beginCell()`. -/
def empty : Builder := ⟨[], []⟩

def storeBit (builder : Builder) (value : Bool) : Builder :=
  { builder with bits := builder.bits ++ [value] }

def storeUint (builder : Builder) (value : ℤ) (n : ℕ) : Option Builder :=
  if value < 0 then none
  else if 2 ^ n ≤ value.toNat then none
  else some { builder with bits := builder.bits ++ Bits.ofNat n value.toNat }

def storeInt (builder : Builder) (value : ℤ) (n : ℕ) : Option Builder :=
  let limit : ℕ := 2 ^ n / 2
  if value < -limit ∨ limit ≤ value then none
  else builder.storeUint (if value < 0 then value + (2 ^ n : ℕ) else value) n

def storeBuffer (builder : Builder) (bytes : Bytes) : Builder :=
  { builder with bits := builder.bits ++ Bits.ofBytes bytes }

/-- Counts the bytes of a number: `fuel` bounds the count. -/
def byteLength : (fuel value : ℕ) → ℕ
  | 0, _ => 0
  | fuel + 1, value => if value = 0 then 0 else byteLength fuel (value >>> 8) + 1

def storeCoins (builder : Builder) (amount : ℤ) : Option Builder :=
  if amount < 0 then none
  else if amount = 0 then builder.storeUint 0 4
  else
    let length := byteLength amount.toNat amount.toNat
    if 15 < length then none
    else do
      let builder ← builder.storeUint length 4
      builder.storeUint amount (length * 8)

def storeAddressInt (builder : Builder) (workchain : ℤ) (hash : Bytes) : Option Builder := do
  if hash.length ≠ 32 then none
  let builder ← builder.storeUint 0b10 2
  let builder := builder.storeBit false
  let builder ← builder.storeInt workchain 8
  return builder.storeBuffer hash

def storeAddressNone (builder : Builder) : Option Builder := builder.storeUint 0 2

def storeRef (builder : Builder) (cell : Cell) : Option Builder :=
  if Cell.maxRefs ≤ builder.refs.length then none
  else some { builder with refs := builder.refs ++ [cell] }

def storeMaybeRef (builder : Builder) (cell : Option Cell) : Option Builder :=
  match cell with
  | some cell => (builder.storeBit true).storeRef cell
  | none => some (builder.storeBit false)

def endCell (builder : Builder) : Option Cell := Cell.new builder.bits builder.refs

theorem storeUint_eq (builder : Builder) {value n : ℕ} (fits : value < 2 ^ n) :
    builder.storeUint value n =
      some { builder with bits := builder.bits ++ Bits.ofNat n value } := by
  rw [storeUint, if_neg (Int.not_lt.mpr (Int.natCast_nonneg value)), Int.toNat_natCast,
    if_neg (Nat.not_le_of_lt fits)]

theorem storeUint_eq_none (builder : Builder) {value n : ℕ} (wide : 2 ^ n ≤ value) :
    builder.storeUint value n = none := by
  rw [storeUint, if_neg (Int.not_lt.mpr (Int.natCast_nonneg value)), Int.toNat_natCast,
    if_pos wide]

variable {builder stored : Builder}

theorem storeUint_eq_some {value : ℤ} {n : ℕ} (isStored : builder.storeUint value n = some stored) :
    ∃ m : ℕ, value = m ∧ m < 2 ^ n ∧
      stored = { builder with bits := builder.bits ++ Bits.ofNat n m } := by
  simp only [storeUint, Option.ite_none_left_eq_some, Option.some_inj] at isStored
  obtain ⟨nonnegative, fits, rfl⟩ := isStored
  exact ⟨value.toNat, by omega, Nat.lt_of_not_le fits, rfl⟩

theorem byteLength_eq {fuel value : ℕ} (enough : value ≤ fuel) :
    byteLength fuel value = (Nat.digits 256 value).length := by
  induction fuel generalizing value with
  | zero =>
      rw [Nat.le_zero.mp enough]
      rfl
  | succ fuel ih =>
      rw [byteLength]
      split
      next zero =>
        rw [zero]
        rfl
      next nonzero =>
        have positive := Nat.pos_of_ne_zero nonzero
        rw [ih (by rw [Nat.shiftRight_eq_div_pow]; omega),
          Nat.digits_def' (by decide : 1 < 256) positive, List.length_cons,
          Nat.shiftRight_eq_div_pow]

/-- Coins are stored as the number of their bytes and the bytes. -/
theorem storeCoins_eq (builder : Builder) {amount : ℕ} (fits : amount < 2 ^ 120) :
    builder.storeCoins amount = some { builder with
      bits := builder.bits ++ Bits.ofNat 4 (Nat.digits 256 amount).length ++
        Bits.ofNat ((Nat.digits 256 amount).length * 8) amount } := by
  have few : (Nat.digits 256 amount).length ≤ 15 :=
    (Nat.digits_length_le_iff (by decide) amount).mpr fits
  have count : (Nat.digits 256 amount).length < 2 ^ 4 := Nat.lt_of_le_of_lt few (by decide)
  have inside : amount < 2 ^ ((Nat.digits 256 amount).length * 8) := by
    rw [Nat.mul_comm, Nat.pow_mul]
    exact Nat.lt_base_pow_length_digits (by decide)
  rw [storeCoins, if_neg (Int.not_lt.mpr (Int.natCast_nonneg amount))]
  split
  next zero =>
    cases Int.natCast_eq_zero.mp zero
    rw [Nat.digits_zero]
    simp [storeUint, Bits.ofNat]
  next nonzero =>
    simp only [Int.toNat_natCast, byteLength_eq (Nat.le_refl amount), if_neg (Nat.not_lt.mpr few),
      storeUint_eq builder count, some_bind]
    exact storeUint_eq _ inside

theorem storeCoins_eq_none (builder : Builder) {amount : ℕ} (large : 2 ^ 120 ≤ amount) :
    builder.storeCoins amount = none := by
  have many : 15 < (Nat.digits 256 amount).length := by
    apply Nat.lt_of_not_le
    intro few
    have fits : amount < 256 ^ 15 := (Nat.digits_length_le_iff (by decide) amount).mp few
    exact Nat.not_lt_of_le large fits
  have nonzero : ¬ (amount : ℤ) = 0 := by
    intro zero
    cases Int.natCast_eq_zero.mp zero
    exact absurd large (by decide)
  simp only [storeCoins, if_neg (Int.not_lt.mpr (Int.natCast_nonneg amount)), if_neg nonzero,
    Int.toNat_natCast, byteLength_eq (Nat.le_refl amount), if_pos many]

theorem storeCoins_eq_some {amount : ℤ} (isStored : builder.storeCoins amount = some stored) :
    ∃ n : ℕ, amount = n ∧ n < 2 ^ 120 := by
  have nonnegative : ¬ amount < 0 := by
    intro negative
    rw [storeCoins, if_pos negative] at isStored
    cases isStored
  obtain ⟨n, rfl⟩ := Int.eq_ofNat_of_zero_le (Int.not_lt.mp nonnegative)
  refine ⟨n, rfl, Nat.lt_of_not_le ?_⟩
  intro large
  rw [storeCoins_eq_none builder large] at isStored
  cases isStored

theorem storeAddressInt_eq (builder : Builder) {hash : Bytes} (length : hash.length = 32) :
    builder.storeAddressInt 0 hash = some { builder with
      bits := builder.bits ++ Bits.ofNat 11 0x400 ++ Bits.ofBytes hash } := by
  have header : Bits.ofNat 11 0x400 = Bits.ofNat 2 0b10 ++ [false] ++ Bits.ofNat 8 0 := by decide
  simp [storeAddressInt, length, storeUint, storeBit, storeInt, storeBuffer, header]

theorem length_of_storeAddressInt {workchain : ℤ} {hash : Bytes}
    (isStored : builder.storeAddressInt workchain hash = some stored) : hash.length = 32 := by
  rw [storeAddressInt] at isStored
  split at isStored
  next => cases isStored
  next length => exact Decidable.of_not_not length

/-- Stores one number after the other. -/
def storeUints (builder : Builder) (fields : List (ℕ × ℕ)) : Option Builder :=
  fields.foldlM (fun builder field => builder.storeUint field.1 field.2) builder

theorem storeUints_eq (builder : Builder) {fields : List (ℕ × ℕ)}
    (fit : ∀ field ∈ fields, field.1 < 2 ^ field.2) :
    builder.storeUints fields = some { builder with
      bits := builder.bits ++ fields.flatMap fun field => Bits.ofNat field.2 field.1 } := by
  induction fields generalizing builder with
  | nil =>
      rw [List.flatMap_nil, List.append_nil]
      rfl
  | cons field fields ih =>
      rw [storeUints, List.foldlM_cons, storeUint_eq builder (fit field List.mem_cons_self)]
      have others := ih { builder with bits := builder.bits ++ Bits.ofNat field.2 field.1 }
        fun field listed => fit field (List.mem_cons_of_mem _ listed)
      rw [List.flatMap_cons, ← List.append_assoc]
      exact others

/-- Stores one reference after the other. -/
def storeRefs (builder : Builder) (cells : List Cell) : Option Builder :=
  cells.foldlM storeRef builder

/-- Appends the bits and the references of another builder. -/
def storeBuilder (builder other : Builder) : Option Builder :=
  storeRefs { builder with bits := builder.bits ++ other.bits } other.refs

/-- The bits that are left below the limit. -/
def availableBits (builder : Builder) : ℕ := Cell.maxBits - builder.bits.length

theorem storeRefs_eq (builder : Builder) {cells : List Cell}
    (few : builder.refs.length + cells.length ≤ Cell.maxRefs) :
    builder.storeRefs cells = some { builder with refs := builder.refs ++ cells } := by
  induction cells generalizing builder with
  | nil =>
      rw [List.append_nil]
      rfl
  | cons cell cells ih =>
      rw [List.length_cons] at few
      have room : ¬ Cell.maxRefs ≤ builder.refs.length := by omega
      have others := ih { builder with refs := builder.refs ++ [cell] } (by
        rw [List.length_append, List.length_singleton]
        omega)
      rw [storeRefs, List.foldlM_cons, storeRef, if_neg room]
      rw [List.append_assoc] at others
      exact others

end Builder

end RelaySettlement
