import RelaySettlement.GasPayer.Prepaid
import RelaySettlement.LitDepositAddress.Cell

/-!
# TON cell hashes

The builder packs the fields of a cell into a byte buffer, chunk by chunk, and completes the last
byte with a mask.  The deposit-address package builds a cell as a list of bits and packs it at
the end.  Both hash the same bytes.

A function returns `none` where an index is out of bounds, which reverts.  Cursors and widths are
natural numbers: they stay below the length of a buffer in bits.  SHA-256 is a parameter.
-/

open Evm

namespace RelaySettlement

namespace TonTransferRequest

def type : Abi.Ty := .tuple [.uint 256, .uint 128, .uint 32, .uint 32, .uint 32, .uint 32]

def ofValue : Abi.Value → Option TonTransferRequest
  | .tuple [.word receiver, .word amount, .word createdAt, .word queryId, .word subwalletId,
      .word timeout] =>
      some ⟨receiver, amount.setWidth 128, createdAt.setWidth 32, queryId.setWidth 32,
        subwalletId.setWidth 32, timeout.setWidth 32⟩
  | _ => none

theorem ofValue_toValue (request : TonTransferRequest) :
    ofValue request.toValue = some request := by
  cases request
  simp [toValue, ofValue]

theorem decodeAs_encode (request : TonTransferRequest) :
    Abi.decodeAs type ofValue (Abi.encode [request.toValue]) = some request := by
  have typed : Abi.HasType request.toValue type := by
    apply Abi.HasType.tuple
    refine .cons (Abi.hasType_word _) ?_
    iterate 5 refine .cons (Abi.hasType_widen (by decide) _) ?_
    exact .nil
  rw [← request.ofValue_toValue]
  apply Abi.decodeAs_encode_tuple typed
  · simp
  · simp only [List.forall_mem_cons, Abi.Value.size_word, Nat.reducePow, Nat.reduceLeDiff,
      true_and]
    exact List.forall_mem_nil _

end TonTransferRequest

namespace TonVmPayloadBuilder

/-! ## Writing bits -/

/-- The loop of `_writeBits`.  Every round writes a bit at least, so `numBits` bounds the number
of rounds. -/
def writeBitsLoop (value : U256) : (fuel : ℕ) → Bytes → (cur remaining : ℕ) → Option Bytes
  | 0, buf, _, _ => some buf
  | fuel + 1, buf, cur, remaining =>
      if remaining = 0 then some buf
      else
        let byteIdx := cur / 8
        let bitInByte := cur % 8
        let available := 8 - bitInByte
        let take := if remaining < available then remaining else available
        let shift := available - take
        let chunk := (value.toNat >>> (remaining - take)) &&& ((1 <<< take) - 1)
        match buf[byteIdx]? with
        | none => none
        | some byte =>
            writeBitsLoop value fuel (buf.set byteIdx (byte ||| UInt8.ofNat (chunk <<< shift)))
              (cur + take) (remaining - take)

/-- The buffer after `_writeBits` and the new cursor. -/
def writeBits (buf : Bytes) (cursor : ℕ) (value : U256) (numBits : ℕ) : Option (Bytes × ℕ) := do
  let buf ← writeBitsLoop value numBits buf cursor numBits
  return (buf, cursor + numBits)

/-- A chunk of `take` bits, shifted to its place in a byte. -/
theorem testBit_chunk {value take bitInByte position : ℕ} (room : bitInByte + take ≤ 8)
    (inside : position < 8) :
    (UInt8.ofNat ((value &&& ((1 <<< take) - 1)) <<<
        (8 - bitInByte - take))).toNat.testBit (7 - position) =
      (decide (bitInByte ≤ position ∧ position < bitInByte + take) &&
        value.testBit (take - 1 - (position - bitInByte))) := by
  have low : 7 - position < 8 := by omega
  have within : (7 - position ≥ 8 - bitInByte - take ∧
      7 - position - (8 - bitInByte - take) < take) ↔
      bitInByte ≤ position ∧ position < bitInByte + take := by omega
  rw [UInt8.toNat_ofNat', Nat.testBit_mod_two_pow, decide_eq_true low, Bool.true_and,
    Nat.testBit_shiftLeft, Nat.testBit_and, Nat.one_shiftLeft, Nat.testBit_two_pow_sub_one,
    Bool.and_comm (value.testBit _), ← Bool.and_assoc, ← Bool.decide_and,
    decide_eq_decide.mpr within]
  by_cases written : bitInByte ≤ position ∧ position < bitInByte + take
  · have place : 7 - position - (8 - bitInByte - take) = take - 1 - (position - bitInByte) := by
      omega
    rw [place]
  · rw [decide_eq_false written, Bool.false_and, Bool.false_and]

variable {buf : Bytes} {bits : List Bool} {request : TonTransferRequest}

theorem getElem?_eq_getD {place : ℕ} (inside : place < buf.length) :
    buf[place]? = some (buf.getD place 0) := by
  rw [List.getD_eq_getElem _ _ inside]
  exact List.getElem?_eq_getElem inside

/-- A chunk is or-ed into a byte behind the bits of a buffer. -/
theorem holds_chunk {value take : ℕ} (holds : Bits.Holds buf bits)
    (inside : bits.length / 8 < buf.length) (fits : bits.length % 8 + take ≤ 8) :
    Bits.Holds (buf.set (bits.length / 8) (buf.getD (bits.length / 8) 0 ||| UInt8.ofNat
      ((value &&& ((1 <<< take) - 1)) <<< (8 - bits.length % 8 - take))))
      (bits ++ Bits.ofNat take value) := by
  intro i
  rw [Bits.bitAt_set_or inside, testBit_chunk fits (Nat.mod_lt i (by decide)), holds]
  rcases Nat.lt_or_ge i bits.length with before | behind
  · have outside : ¬ (i / 8 = bits.length / 8 ∧
        bits.length % 8 ≤ i % 8 ∧ i % 8 < bits.length % 8 + take) := by omega
    rw [List.getD_append _ _ _ _ before, ← Bool.and_assoc, ← Bool.decide_and,
      decide_eq_false outside, Bool.false_and, Bool.or_false]
  · rw [List.getD_append_right _ _ _ _ behind, List.getD_eq_default _ _ behind, Bool.false_or,
      Bits.getD_ofNat, ← Bool.and_assoc, ← Bool.decide_and]
    by_cases written : i - bits.length < take
    · have place : i % 8 - bits.length % 8 = i - bits.length := by omega
      rw [decide_eq_true written, decide_eq_true (by omega), place]
    · rw [decide_eq_false written, decide_eq_false (by omega), Bool.false_and, Bool.false_and]

/-- Behind the bits of a buffer, the loop writes the low `remaining` bits of the value. -/
theorem writeBitsLoop_eq (value : U256) {fuel remaining : ℕ} (enough : remaining ≤ fuel)
    (holds : Bits.Holds buf bits) (room : bits.length + remaining ≤ 8 * buf.length) :
    ∃ written, writeBitsLoop value fuel buf bits.length remaining = some written ∧
      written.length = buf.length ∧
      Bits.Holds written (bits ++ Bits.ofNat remaining value.toNat) := by
  induction fuel generalizing buf bits remaining with
  | zero =>
      rw [Nat.le_zero.mp enough, Bits.ofNat, List.append_nil]
      exact ⟨buf, rfl, rfl, holds⟩
  | succ fuel ih =>
      rw [writeBitsLoop]
      split
      next done =>
        rw [done, Bits.ofNat, List.append_nil]
        exact ⟨buf, rfl, rfl, holds⟩
      next more =>
        have inside : bits.length / 8 < buf.length := by omega
        simp only [getElem?_eq_getD inside]
        generalize isTake : (if remaining < 8 - bits.length % 8 then remaining
          else 8 - bits.length % 8) = take
        have chunk : 0 < take ∧ take ≤ remaining ∧ bits.length % 8 + take ≤ 8 := by
          rw [← isTake]
          split <;> omega
        obtain ⟨positive, few, fits⟩ := chunk
        have next := @holds_chunk buf bits (value.toNat >>> (remaining - take)) take holds inside
          fits
        obtain ⟨written, isWritten, length, all⟩ := @ih _ _ (remaining - take) (by omega) next
          (by rw [List.length_append, Bits.length_ofNat, List.length_set]; omega)
        rw [List.length_append, Bits.length_ofNat] at isWritten
        refine ⟨written, isWritten, length.trans List.length_set, ?_⟩
        rwa [List.append_assoc, ← Bits.ofNat_add, Nat.add_sub_cancel' few] at all

/-- Behind the bits of a buffer of zeros, `_writeBits` writes the bits of a number. -/
theorem writeBits_eq (value : U256) {numBits : ℕ} (holds : Bits.Holds buf bits)
    (room : bits.length + numBits ≤ 8 * buf.length) :
    ∃ written, writeBits buf bits.length value numBits = some (written, bits.length + numBits) ∧
      written.length = buf.length ∧
      Bits.Holds written (bits ++ Bits.ofNat numBits value.toNat) := by
  obtain ⟨written, isWritten, length, all⟩ := writeBitsLoop_eq value (Nat.le_refl _) holds room
  refine ⟨written, ?_, length, all⟩
  rw [writeBits, isWritten]
  rfl

/-- Writes one field after the other: a value and its width. -/
def writeFields (buf : Bytes) (cursor : ℕ) (fields : List (U256 × ℕ)) : Option (Bytes × ℕ) :=
  fields.foldlM (fun written field => writeBits written.1 written.2 field.1 field.2) (buf, cursor)

/-- The bits of a list of fields. -/
def fieldBits (fields : List (U256 × ℕ)) : List Bool :=
  fields.flatMap fun field => Bits.ofNat field.2 field.1.toNat

@[simp] theorem length_fieldBits (fields : List (U256 × ℕ)) :
    (fieldBits fields).length = (fields.map Prod.snd).sum := by
  induction fields with
  | nil => rfl
  | cons field fields ih =>
      rw [fieldBits, List.flatMap_cons, List.length_append, Bits.length_ofNat, List.map_cons,
        List.sum_cons, ← ih]
      rfl

theorem writeFields_eq {fields : List (U256 × ℕ)} (holds : Bits.Holds buf bits)
    (room : bits.length + (fields.map Prod.snd).sum ≤ 8 * buf.length) :
    ∃ written, writeFields buf bits.length fields =
        some (written, (bits ++ fieldBits fields).length) ∧
      written.length = buf.length ∧ Bits.Holds written (bits ++ fieldBits fields) := by
  induction fields generalizing buf bits with
  | nil =>
      refine ⟨buf, ?_, rfl, ?_⟩
      · rw [fieldBits, List.flatMap_nil, List.append_nil]
        rfl
      · rwa [fieldBits, List.flatMap_nil, List.append_nil]
  | cons field fields ih =>
      rw [List.map_cons, List.sum_cons] at room
      obtain ⟨first, isFirst, firstLength, firstHolds⟩ :=
        writeBits_eq field.1 holds (by omega : bits.length + field.2 ≤ 8 * buf.length)
      have size : (bits ++ Bits.ofNat field.2 field.1.toNat).length = bits.length + field.2 := by
        rw [List.length_append, Bits.length_ofNat]
      obtain ⟨written, isWritten, length, writtenHolds⟩ :=
        ih firstHolds (by rw [size, firstLength]; omega)
      have both : bits ++ fieldBits (field :: fields) =
          bits ++ Bits.ofNat field.2 field.1.toNat ++ fieldBits fields := by
        rw [fieldBits, List.flatMap_cons, List.append_assoc]
        rfl
      rw [size] at isWritten
      rw [both]
      refine ⟨written, ?_, length.trans firstLength, writtenHolds⟩
      rw [writeFields, List.foldlM_cons, isFirst]
      exact isWritten

/-! ## The representation of a cell -/

/-- Copies whole bytes. -/
def copyBytes (buf : Bytes) (count : ℕ) (padded : Bytes) : Option Bytes :=
  (List.range count).foldlM (fun padded i => do return padded.set i (← buf[i]?)) padded

def cellRepr (sha256 : Bytes → Bytes32) (buf : Bytes) (numBits : ℕ) (refHashes : List Bytes32)
    (refDepths : List (BitVec 16)) : Option Bytes32 := do
  let fullBytes := numBits / 8
  let padBytes := (numBits + 7) / 8
  let padded ← copyBytes buf fullBytes (List.replicate padBytes 0)
  let padded ← if numBits % 8 ≠ 0 then do
      let remBits := numBits - fullBytes * 8
      let mask := ((1 <<< remBits) - 1) <<< (8 - remBits)
      let lastByte := (← buf[fullBytes]?) &&& UInt8.ofNat mask
      let completionBit := UInt8.ofNat (1 <<< (7 - remBits))
      pure (padded.set fullBytes (lastByte ||| completionBit))
    else pure padded
  let d1 := UInt8.ofNat refHashes.length
  let d2 := UInt8.ofNat (fullBytes + padBytes)
  return sha256 ([d1, d2] ++ padded ++
    refDepths.flatMap (fun depth => Abi.bigEndian 2 depth.toNat) ++ refHashes.flatMap Abi.word)

theorem copyBytes_eq {padded : Bytes} {count : ℕ} (inside : count ≤ buf.length)
    (room : count ≤ padded.length) :
    ∃ copied, copyBytes buf count padded = some copied ∧ copied.length = padded.length ∧
      ∀ i, Bits.bitAt copied i =
        if i < 8 * count then Bits.bitAt buf i else Bits.bitAt padded i := by
  induction count with
  | zero => exact ⟨padded, rfl, rfl, fun i => (if_neg (Nat.not_lt_zero i)).symm⟩
  | succ count ih =>
      obtain ⟨copied, isCopied, length, bits⟩ :=
        ih (Nat.le_of_succ_le inside) (Nat.le_of_succ_le room)
      have byte : buf[count]? = some buf[count] := List.getElem?_eq_getElem inside
      refine ⟨copied.set count buf[count], ?_, List.length_set.trans length, ?_⟩
      · rw [copyBytes] at isCopied
        rw [copyBytes, List.range_succ, List.foldlM_append, isCopied]
        simp [byte]
      · intro i
        rw [Bits.bitAt_set (by omega), bits]
        rcases Nat.lt_trichotomy (i / 8) count with before | here | behind
        · rw [if_neg (Nat.ne_of_lt before), if_pos (by omega), if_pos (by omega)]
        · rw [if_pos here, if_pos (by omega), Bits.bitAt, here, List.getD_eq_getElem _ _ inside]
        · rw [if_neg (Nat.ne_of_gt behind), if_neg (by omega), if_neg (by omega)]

/-- The last byte keeps its `remBits` high bits and gets one more. -/
theorem testBit_lastByte (byte : UInt8) {remBits position : ℕ} (few : remBits < 8)
    (inside : position < 8) :
    ((byte &&& UInt8.ofNat (((1 <<< remBits) - 1) <<< (8 - remBits))) |||
        UInt8.ofNat (1 <<< (7 - remBits))).toNat.testBit (7 - position) =
      (decide (position < remBits) && byte.toNat.testBit (7 - position) ||
        decide (position = remBits)) := by
  have low : 7 - position < 8 := by omega
  rw [UInt8.toNat_or, UInt8.toNat_and, Nat.testBit_or, Nat.testBit_and, UInt8.toNat_ofNat',
    UInt8.toNat_ofNat', Nat.testBit_mod_two_pow, Nat.testBit_mod_two_pow, decide_eq_true low,
    Bool.true_and, Bool.true_and, Nat.testBit_shiftLeft, Nat.one_shiftLeft, Nat.one_shiftLeft,
    Nat.testBit_two_pow_sub_one, Nat.testBit_two_pow, ← Bool.decide_and,
    Bool.and_comm (byte.toNat.testBit _)]
  have kept : (7 - position ≥ 8 - remBits ∧ 7 - position - (8 - remBits) < remBits) ↔
      position < remBits := by omega
  have completed : 7 - remBits = 7 - position ↔ position = remBits := by omega
  rw [decide_eq_decide.mpr kept, decide_eq_decide.mpr completed]

/-- The bytes that `_cellRepr` hashes for a buffer are those of the cell of the same bits. -/
theorem cellRepr_eq (sha256 : Bytes → Bytes32) {buf : Bytes} {bits : List Bool}
    (holds : Bits.Holds buf bits) (room : bits.length ≤ 8 * buf.length)
    (refHashes : List Bytes32) (refDepths : List (BitVec 16)) :
    cellRepr sha256 buf bits.length refHashes refDepths =
      some (sha256 ([UInt8.ofNat refHashes.length, UInt8.ofNat (Cell.d2 bits)] ++
        Cell.dataBytes bits ++ refDepths.flatMap (fun depth => Abi.bigEndian 2 depth.toNat) ++
        refHashes.flatMap Abi.word)) := by
  have size : (List.replicate ((bits.length + 7) / 8) (0 : UInt8)).length =
      (bits.length + 7) / 8 := List.length_replicate
  obtain ⟨copied, isCopied, length, copiedBits⟩ :=
    @copyBytes_eq buf (List.replicate ((bits.length + 7) / 8) 0) (bits.length / 8) (by omega)
      (by omega)
  have zeros := Bits.holds_replicate ((bits.length + 7) / 8)
  have data := Cell.holds_dataBytes bits
  by_cases aligned : bits.length % 8 = 0
  · -- Every byte is whole.
    rw [if_pos aligned] at data
    have same : copied = Cell.dataBytes bits := by
      apply Bits.Holds.eq _ data (by rw [length, size, Cell.length_dataBytes])
      intro i
      rw [copiedBits, zeros, List.getD_nil]
      split
      next => exact holds i
      next outside => rw [List.getD_eq_default _ _ (by omega)]
    simp only [cellRepr, isCopied, aligned, ne_eq, not_true_eq_false, if_false, same, some_bind]
    rfl
  · rw [if_neg aligned] at data
    have inside : bits.length / 8 < buf.length := by omega
    have rem : bits.length - bits.length / 8 * 8 = bits.length % 8 := by omega
    have same : copied.set (bits.length / 8)
        ((buf.getD (bits.length / 8) 0 &&& UInt8.ofNat (((1 <<< (bits.length % 8)) - 1) <<<
          (8 - bits.length % 8))) ||| UInt8.ofNat (1 <<< (7 - bits.length % 8))) =
        Cell.dataBytes bits := by
      apply Bits.Holds.eq _ data
        (by rw [List.length_set, length, size, Cell.length_dataBytes])
      intro i
      rw [Bits.bitAt_set (by omega), copiedBits, zeros, List.getD_nil]
      split
      next last =>
        rw [testBit_lastByte _ (Nat.mod_lt _ (by decide)) (Nat.mod_lt i (by decide)), ← last]
        have kept := holds i
        rw [Bits.bitAt] at kept
        rw [kept]
        rcases Nat.lt_trichotomy i bits.length with before | here | behind
        · rw [List.getD_append _ _ _ _ before, decide_eq_true (by omega),
            decide_eq_false (by omega), Bool.true_and, Bool.or_false]
        · subst here
          rw [List.getD_append_right _ _ _ _ (Nat.le_refl _), Nat.sub_self, decide_eq_true rfl,
            Bool.or_true]
          rfl
        · rw [List.getD_eq_default (bits ++ [true]) _ (by rw [List.length_append]; exact behind),
            decide_eq_false (by omega), decide_eq_false (by omega), Bool.false_and,
            Bool.false_or]
      next other =>
        split
        next before => rw [holds, List.getD_append _ _ _ _ (by omega)]
        next behind =>
          rw [List.getD_eq_default _ _ (by rw [List.length_append, List.length_singleton]; omega)]
    simp only [cellRepr, isCopied, ne_eq, aligned, not_false_eq_true, if_true,
      getElem?_eq_getD inside, rem, same, some_bind]
    rfl

theorem depthBytes_eq (depth : ℕ) :
    Cell.depthBytes depth = Abi.bigEndian 2 (BitVec.ofNat 16 depth).toNat := by
  have low : ∀ value, Abi.bigEndian 2 value =
      [UInt8.ofNat (value / 256), UInt8.ofNat value] := fun value => by
    simp [Abi.bigEndian, List.range_succ]
  rw [Cell.depthBytes, low, BitVec.toNat_ofNat]
  congr 1
  · apply UInt8.toNat_inj.mp
    rw [UInt8.toNat_ofNat', UInt8.toNat_ofNat']
    omega
  · congr 1
    apply UInt8.toNat_inj.mp
    rw [UInt8.toNat_ofNat', UInt8.toNat_ofNat']
    omega

/-- Fields written into a buffer of zeros hash as the cell of the same bits. -/
theorem writeFields_cellRepr (sha256 : Bytes → Bytes32) {fields : List (U256 × ℕ)}
    {children : List Cell} {cell : Cell} (isCell : Cell.new (fieldBits fields) children = some cell)
    {length : ℕ} (room : (fields.map Prod.snd).sum ≤ 8 * length) :
    (writeFields (List.replicate length 0) 0 fields).bind (fun written =>
      cellRepr sha256 written.1 written.2 (children.map fun child => child.hash sha256)
        (children.map fun child => BitVec.ofNat 16 child.depth)) = some (cell.hash sha256) := by
  have size : (List.replicate length (0 : UInt8)).length = length := List.length_replicate
  obtain ⟨written, isWritten, writtenLength, holds⟩ :=
    writeFields_eq (Bits.holds_replicate length)
      (by rw [size, List.length_nil, Nat.zero_add]; exact room)
  rw [List.nil_append, List.length_nil] at isWritten
  rw [List.nil_append] at holds
  rw [isWritten, Option.bind_some, cellRepr_eq sha256 holds
    (by rw [writtenLength, size, length_fieldBits]; exact room), Cell.hash_new isCell, Cell.d1,
    List.length_map, List.flatMap_map, List.flatMap_map]
  simp only [depthBytes_eq]

/-! ## The signed message -/

/-- `SEND_MODE`. -/
def sendMode : U256 := 1

/-- `BOUNCE`. -/
def bounce : Bool := false

/-- The loop of `_coinsByteLen`: 16 rounds shift an amount out. -/
def coinsByteLenLoop : (fuel : ℕ) → BitVec 128 → BitVec 8 → BitVec 8
  | 0, _, n => n
  | fuel + 1, a, n => if 0 < a then coinsByteLenLoop fuel (a >>> 8) (n + 1) else n

def coinsByteLen (amount : BitVec 128) : BitVec 8 := coinsByteLenLoop 16 amount 0

def writeStdAddrWc0 (buf : Bytes) (cursor : ℕ) (hashBits : Bytes32) : Option (Bytes × ℕ) := do
  let (buf, cursor) ← writeBits buf cursor 0x400 11
  let (buf, cursor) ← writeBits buf cursor (hashBits >>> 128) 128
  let (buf, cursor) ← writeBits buf cursor (hashBits &&& (((1 : U256) <<< 128) - 1)) 128
  return (buf, cursor)

def internalMessageCellHash (sha256 : Bytes → Bytes32) (receiver : Bytes32)
    (amount : BitVec 128) : Option Bytes32 := do
  let amountByteLen := coinsByteLen amount
  let totalBits := 384 + amountByteLen.toNat * 8
  let buf : Bytes := List.replicate ((totalBits + 7) / 8) 0
  let header := (0 : U256) <<< 5 ||| (1 : U256) <<< 4 ||| (if bounce then (1 : U256) <<< 3 else 0)
  let (buf, cursor) ← writeBits buf 0 header 6
  let (buf, cursor) ← writeStdAddrWc0 buf cursor receiver
  let (buf, cursor) ← writeBits buf cursor (amountByteLen.setWidth 256) 4
  let (buf, cursor) ← (if 0 < amountByteLen then
      writeBits buf cursor (amount.setWidth 256) (amountByteLen.toNat * 8)
    else some (buf, cursor))
  let (buf, cursor) ← writeBits buf cursor 0 1
  let (buf, cursor) ← writeBits buf cursor 0 4
  let (buf, cursor) ← writeBits buf cursor 0 4
  let (buf, cursor) ← writeBits buf cursor 0 64
  let (buf, cursor) ← writeBits buf cursor 0 32
  let (buf, cursor) ← writeBits buf cursor 0 1
  let (buf, cursor) ← writeBits buf cursor 0 1
  cellRepr sha256 buf cursor [] []

def signingMessageCellHash (sha256 : Bytes → Bytes32) (request : TonTransferRequest) :
    Option Bytes32 := do
  let msgCellHash ← internalMessageCellHash sha256 request.receiver request.amount
  let buf : Bytes := List.replicate 19 0
  let (buf, cursor) ← writeBits buf 0 (request.subwalletId.setWidth 256) 32
  let (buf, cursor) ← writeBits buf cursor sendMode 8
  let (buf, cursor) ← writeBits buf cursor (request.queryId.setWidth 256 >>> 10) 13
  let (buf, cursor) ← writeBits buf cursor (request.queryId.setWidth 256 &&& 0x3FF) 10
  let (buf, cursor) ← writeBits buf cursor (request.createdAt.setWidth 256) 64
  let (buf, cursor) ← writeBits buf cursor (request.timeout.setWidth 256) 22
  cellRepr sha256 buf cursor [msgCellHash] [0]

/-- The fields of the internal message, in the order they are written. -/
def internalMessageFields (receiver : Bytes32) (amount : BitVec 128) : List (U256 × ℕ) :=
  [((0 : U256) <<< 5 ||| (1 : U256) <<< 4 ||| (if bounce then (1 : U256) <<< 3 else 0), 6),
    (0x400, 11), (receiver >>> 128, 128), (receiver &&& (((1 : U256) <<< 128) - 1), 128),
    ((coinsByteLen amount).setWidth 256, 4),
    (amount.setWidth 256, (coinsByteLen amount).toNat * 8),
    (0, 1), (0, 4), (0, 4), (0, 64), (0, 32), (0, 1), (0, 1)]

/-- The fields of the signed message, in the order they are written. -/
def signingMessageFields (request : TonTransferRequest) : List (U256 × ℕ) :=
  [(request.subwalletId.setWidth 256, 32), (sendMode, 8),
    (request.queryId.setWidth 256 >>> 10, 13), (request.queryId.setWidth 256 &&& 0x3FF, 10),
    (request.createdAt.setWidth 256, 64), (request.timeout.setWidth 256, 22)]

theorem internalMessageCellHash_eq (sha256 : Bytes → Bytes32) (receiver : Bytes32)
    (amount : BitVec 128) :
    internalMessageCellHash sha256 receiver amount =
      (writeFields (List.replicate ((384 + (coinsByteLen amount).toNat * 8 + 7) / 8) 0) 0
        (internalMessageFields receiver amount)).bind
        fun written => cellRepr sha256 written.1 written.2 [] [] := by
  have skipped : ∀ buf cursor, (if 0 < coinsByteLen amount then
      writeBits buf cursor (amount.setWidth 256) ((coinsByteLen amount).toNat * 8)
      else some (buf, cursor)) =
      writeBits buf cursor (amount.setWidth 256) ((coinsByteLen amount).toNat * 8) := by
    intro buf cursor
    split
    next => rfl
    next zero =>
      have none : (coinsByteLen amount).toNat = 0 := Nat.eq_zero_of_not_pos zero
      rw [none]
      rfl
  simp only [internalMessageCellHash, writeStdAddrWc0, skipped, writeFields,
    internalMessageFields, List.foldlM_cons, List.foldlM_nil, Option.bind_eq_bind,
    Option.bind_assoc, Option.pure_def, Option.bind_some]

theorem signingMessageCellHash_eq (sha256 : Bytes → Bytes32) (request : TonTransferRequest) :
    signingMessageCellHash sha256 request =
      (internalMessageCellHash sha256 request.receiver request.amount).bind fun msgCellHash =>
        (writeFields (List.replicate 19 0) 0 (signingMessageFields request)).bind
          fun written => cellRepr sha256 written.1 written.2 [msgCellHash] [0] := by
  simp [signingMessageCellHash, writeFields, signingMessageFields, Option.bind_assoc]

theorem sum_signingMessageFields (request : TonTransferRequest) :
    ((signingMessageFields request).map Prod.snd).sum = 149 := rfl

theorem coinsByteLenLoop_eq {fuel : ℕ} {a : BitVec 128} {n : BitVec 8}
    (enough : a.toNat < 256 ^ fuel) (room : n.toNat + fuel < 256) :
    (coinsByteLenLoop fuel a n).toNat = n.toNat + (Nat.digits 256 a.toNat).length := by
  induction fuel generalizing a n with
  | zero =>
      rw [Nat.lt_one_iff.mp enough, Nat.digits_zero]
      rfl
  | succ fuel ih =>
      rw [coinsByteLenLoop]
      split
      next positive =>
        have positive : 0 < a.toNat := positive
        have shifted : (a >>> 8).toNat = a.toNat / 256 := by
          rw [BitVec.toNat_ushiftRight, Nat.shiftRight_eq_div_pow]
        have next : (n + 1).toNat = n.toNat + 1 := by
          have small : n.toNat + 1 < 2 ^ 8 := by omega
          rw [BitVec.toNat_add]
          exact Nat.mod_eq_of_lt small
        have below : a.toNat / 256 < 256 ^ fuel :=
          Nat.div_lt_of_lt_mul (Nat.lt_of_lt_of_eq enough (Nat.pow_succ'))
        rw [ih (by rwa [shifted]) (by omega), shifted, next,
          Nat.digits_def' (by decide : 1 < 256) positive, List.length_cons]
        omega
      next zero =>
        have zero : a.toNat = 0 := Nat.eq_zero_of_not_pos zero
        rw [zero, Nat.digits_zero]
        rfl

theorem coinsByteLen_eq (amount : BitVec 128) :
    (coinsByteLen amount).toNat = (Nat.digits 256 amount.toNat).length := by
  rw [coinsByteLen, coinsByteLenLoop_eq amount.isLt (by decide)]
  exact Nat.zero_add _

/-! ## The cell with the documented layout -/

/-- The internal message: `int_msg_info`, `ihr_disabled`, the bounce flag, `bounced`, the source,
the destination, the coins, the extra currencies, two fees, `created_lt`, `created_at`, `init`
and the body. -/
def internalMessageCell (receiver : Bytes32) (amount : BitVec 128) : Option Cell := do
  let builder := Builder.empty.storeBit false
  let builder := builder.storeBit true
  let builder := builder.storeBit bounce
  let builder := builder.storeBit false
  let builder ← builder.storeAddressNone
  let builder ← builder.storeAddressInt 0 (Abi.word receiver)
  let builder ← builder.storeCoins amount.toNat
  let builder := builder.storeBit false
  let builder ← builder.storeCoins 0
  let builder ← builder.storeCoins 0
  let builder ← builder.storeUint 0 64
  let builder ← builder.storeUint 0 32
  let builder := builder.storeBit false
  let builder := builder.storeBit false
  builder.endCell

/-- The signed message: `subwallet_id`, the internal message, `send_mode`, the two halves of the
query id, `created_at` and `timeout`. -/
def signingMessageCell (request : TonTransferRequest) : Option Cell := do
  let message ← internalMessageCell request.receiver request.amount
  let builder ← Builder.empty.storeUint request.subwalletId.toNat 32
  let builder ← builder.storeRef message
  let builder ← builder.storeUint sendMode.toNat 8
  let builder ← builder.storeUint (request.queryId >>> 10).toNat 13
  let builder ← builder.storeUint (request.queryId &&& 0x3FF).toNat 10
  let builder ← builder.storeUint request.createdAt.toNat 64
  let builder ← builder.storeUint request.timeout.toNat 22
  builder.endCell

/-- A request whose fields fit the widths of the layout. -/
structure Fits (request : TonTransferRequest) : Prop where
  amount : request.amount.toNat < 2 ^ 120
  queryId : request.queryId.toNat < 2 ^ 23
  timeout : request.timeout.toNat < 2 ^ 22

theorem receiverBits (receiver : Bytes32) :
    Bits.ofNat 128 (receiver >>> 128).toNat ++
      Bits.ofNat 128 (receiver &&& (((1 : U256) <<< 128) - 1)).toNat =
      Bits.ofBytes (Abi.word receiver) := by
  have mask : (((1 : U256) <<< 128) - 1).toNat = 2 ^ 128 - 1 := by decide
  have low : (receiver &&& (((1 : U256) <<< 128) - 1)).toNat = receiver.toNat % 2 ^ 128 := by
    rw [BitVec.toNat_and, mask, Nat.and_two_pow_sub_one_eq_mod]
  rw [low, Bits.ofNat_mod, BitVec.toNat_ushiftRight, ← Bits.ofNat_add, Abi.word,
    Bits.ofBytes_bigEndian]

theorem internalMessageCell_eq (receiver : Bytes32) {amount : BitVec 128}
    (fits : amount.toNat < 2 ^ 120) :
    internalMessageCell receiver amount =
      Cell.new (fieldBits (internalMessageFields receiver amount)) [] := by
  have length : (Abi.word receiver).length = 32 := Abi.length_bigEndian 32 _
  have zero (builder : Builder) (n : ℕ) : builder.storeUint 0 n =
      some { builder with bits := builder.bits ++ Bits.ofNat n 0 } :=
    builder.storeUint_eq (Nat.two_pow_pos n)
  have noCoins (builder : Builder) : builder.storeCoins 0 = builder.storeUint 0 4 := rfl
  have short : ((coinsByteLen amount).setWidth 256).toNat = (coinsByteLen amount).toNat :=
    toNat_widen (by decide) _
  have value : (amount.setWidth 256).toNat = amount.toNat := toNat_widen (by decide) _
  simp only [internalMessageCell, Builder.storeAddressNone, zero, noCoins,
    Builder.storeAddressInt_eq _ length, Builder.storeCoins_eq _ fits, some_bind, Builder.endCell,
    Builder.storeBit, Builder.empty]
  congr 1
  simp only [fieldBits, internalMessageFields, List.flatMap_cons, List.flatMap_nil, short, value,
    coinsByteLen_eq, ← receiverBits, List.append_assoc]
  rfl

theorem signingMessageCell_eq (fits : Fits request) {message : Cell}
    (isMessage : internalMessageCell request.receiver request.amount = some message) :
    signingMessageCell request =
      Cell.new (fieldBits (signingMessageFields request)) [message] := by
  have small : (request.queryId >>> 10).toNat < 2 ^ 13 := by
    rw [BitVec.toNat_ushiftRight, Nat.shiftRight_eq_div_pow]
    exact Nat.div_lt_of_lt_mul fits.queryId
  have low : (request.queryId &&& 0x3FF).toNat < 2 ^ 10 := by
    rw [BitVec.toNat_and]
    exact Nat.and_lt_two_pow _ (by decide)
  have created : request.createdAt.toNat < 2 ^ 64 :=
    Nat.lt_trans request.createdAt.isLt (by decide)
  have room : ¬ Cell.maxRefs ≤ ([] : List Cell).length := by decide
  have high : (request.queryId.setWidth 256 >>> 10).toNat = (request.queryId >>> 10).toNat := by
    rw [BitVec.toNat_ushiftRight, BitVec.toNat_ushiftRight, toNat_widen (by decide)]
  have masked : (request.queryId.setWidth 256 &&& 0x3FF).toNat =
      (request.queryId &&& 0x3FF).toNat := by
    rw [BitVec.toNat_and, BitVec.toNat_and, toNat_widen (by decide)]
    rfl
  have wide (value : BitVec 32) : (value.setWidth 256).toNat = value.toNat :=
    toNat_widen (by decide) _
  simp only [signingMessageCell, isMessage, some_bind,
    Builder.storeUint_eq _ request.subwalletId.isLt, Builder.storeRef, Builder.empty, if_neg room,
    Builder.storeUint_eq _ (by decide : sendMode.toNat < 2 ^ 8), Builder.storeUint_eq _ small,
    Builder.storeUint_eq _ low, Builder.storeUint_eq _ created, Builder.storeUint_eq _ fits.timeout,
    Builder.endCell]
  simp [fieldBits, signingMessageFields, high, wide]

theorem exists_internalMessageCell (receiver : Bytes32) {amount : BitVec 128}
    (fits : amount.toNat < 2 ^ 120) :
    ∃ message, internalMessageCell receiver amount = some message ∧
      Cell.new (fieldBits (internalMessageFields receiver amount)) [] = some message := by
  have few : (coinsByteLen amount).toNat ≤ 15 := by
    rw [coinsByteLen_eq]
    exact (Nat.digits_length_le_iff (by decide) _).mpr fits
  have bound : (fieldBits (internalMessageFields receiver amount)).length ≤ 1023 := by
    rw [length_fieldBits]
    simp only [internalMessageFields, List.map_cons, List.map_nil, List.sum_cons, List.sum_nil]
    omega
  obtain ⟨message, isMessage⟩ := @Cell.exists_new _ [] bound (Nat.zero_le 4)
  exact ⟨message, (internalMessageCell_eq receiver fits).trans isMessage, isMessage⟩

theorem exists_signingMessageCell (fits : Fits request) :
    ∃ cell, signingMessageCell request = some cell := by
  obtain ⟨message, isMessage, _⟩ := exists_internalMessageCell request.receiver fits.amount
  have bound : (fieldBits (signingMessageFields request)).length ≤ 1023 := by
    rw [length_fieldBits, sum_signingMessageFields]
    decide
  rw [signingMessageCell_eq fits isMessage]
  exact @Cell.exists_new _ [message] bound (Nat.le_of_ble_eq_true rfl)

/-- The builder of cells throws where a value does not fit its width. -/
theorem fits_of_signingMessageCell {cell : Cell} (isCell : signingMessageCell request = some cell) :
    Fits request := by
  simp only [signingMessageCell, bind_eq_some] at isCell
  obtain ⟨message, isMessage, _, _, _, _, _, _, _, shift, _, _, _, _, _, timeout, _⟩ := isCell
  have bounded {builder stored : Builder} {value n : ℕ}
      (isStored : builder.storeUint value n = some stored) : value < 2 ^ n := by
    apply Nat.lt_of_not_le
    intro wide
    rw [builder.storeUint_eq_none wide] at isStored
    cases isStored
  refine { amount := ?_, queryId := ?_, timeout := bounded timeout }
  · apply Nat.lt_of_not_le
    intro large
    simp only [internalMessageCell, Builder.storeCoins_eq_none _ large, Option.bind_eq_bind,
      Option.bind_none, Option.bind_fun_none] at isMessage
    cases isMessage
  · have high := bounded shift
    rw [BitVec.toNat_ushiftRight, Nat.shiftRight_eq_div_pow] at high
    omega

/-- What the contract hashes for a request is the cell with the documented layout. -/
theorem signingMessageCellHash_eq_hash (sha256 : Bytes → Bytes32) {cell : Cell}
    (isCell : signingMessageCell request = some cell) :
    signingMessageCellHash sha256 request = some (cell.hash sha256) := by
  have fits := fits_of_signingMessageCell isCell
  obtain ⟨message, isMessage, isNew⟩ := exists_internalMessageCell request.receiver fits.amount
  rw [signingMessageCell_eq fits isMessage] at isCell
  have inner : internalMessageCellHash sha256 request.receiver request.amount =
      some (message.hash sha256) := by
    rw [internalMessageCellHash_eq]
    apply writeFields_cellRepr sha256 isNew
    simp only [internalMessageFields, List.map_cons, List.map_nil, List.sum_cons, List.sum_nil]
    omega
  have leaf : message.depth = 0 := by
    obtain ⟨_, ⟨⟩⟩ := Option.dite_none_right_eq_some.mp isNew
    rw [Cell.depth]
    exact if_pos rfl
  have room : ((signingMessageFields request).map Prod.snd).sum ≤ 8 * 19 := by
    rw [sum_signingMessageFields]
    decide
  have outer := writeFields_cellRepr sha256 isCell room
  rw [List.map_singleton, List.map_singleton, leaf] at outer
  rw [signingMessageCellHash_eq, inner, Option.bind_some]
  exact outer

/-! ## Built payloads -/

def hashesToSign (sha256 : Bytes → Bytes32) (payload : Bytes) : Option (List Bytes32) := do
  let request ← Abi.decodeAs TonTransferRequest.type TonTransferRequest.ofValue payload
  return [← signingMessageCellHash sha256 request]

theorem computeQueryId_lt (keccak256 : Bytes → Bytes32) (chain : HubChain)
    (params : BuildPayloadParams) : (computeQueryId keccak256 chain params).toNat < 2 ^ 23 := by
  have masked (raw : BitVec 32) : (raw &&& queryIdMask).toNat < 2 ^ 23 := by
    rw [BitVec.toNat_and]
    exact Nat.and_lt_two_pow _ (by decide)
  rw [computeQueryId]
  split
  next =>
    rw [BitVec.toNat_and]
    exact Nat.lt_of_le_of_lt Nat.and_le_left (masked _)
  next => exact masked _

/-- A built payload encodes a request that fits. -/
theorem buildPayload_fits {keccak256 : Bytes → Bytes32} {chain : HubChain}
    {builder : TonVmPayloadBuilder} {withdraw : WithdrawParams} {payload : Bytes}
    (ok : builder.buildPayload keccak256 chain withdraw = .ok payload) :
    ∃ request, Abi.decodeAs TonTransferRequest.type TonTransferRequest.ofValue payload =
        some request ∧ Fits request := by
  simp only [buildPayload, buildRequest, bind_eq_ok, require_eq_ok, orRevert_eq_ok,
    GasPaidPayloadBuilder.requireGasPaid_eq_ok, pure_eq_ok] at ok
  obtain ⟨request, ⟨_, _, _, _, _, _, _, _, _, _, _, _, _, coins, rfl⟩, rfl⟩ := ok
  have coins : withdraw.params.amount.toNat < 2 ^ 120 :=
    Nat.lt_of_le_of_lt (BitVec.le_def.mp coins) (by decide)
  refine ⟨_, TonTransferRequest.decodeAs_encode _, ?_⟩
  exact {
    amount := by
      rw [BitVec.toNat_setWidth]
      exact Nat.lt_of_le_of_lt (Nat.mod_le _ _) coins
    queryId := computeQueryId_lt keccak256 chain withdraw.params
    timeout := BitVec.lt_def.mp builder.timeout_lt }

end TonVmPayloadBuilder

open TonVmPayloadBuilder

/-- The contract and the deposit-address package hash every cell alike; the signed message of a
transfer is the cell with the documented layout wherever its fields fit, which they do in every
built payload. -/
theorem ton_cell_hashers_agree (sha256 : Bytes → Bytes32) :
    (∀ (fields : List (U256 × ℕ)) (children : List Cell),
      (∀ field ∈ fields, field.1.toNat < 2 ^ field.2) →
      (fields.map Prod.snd).sum ≤ 1023 → children.length ≤ 4 →
      ∃ cell,
        ((Builder.empty.storeUints (fields.map fun field => (field.1.toNat, field.2))).bind
          fun builder => (builder.storeRefs children).bind Builder.endCell) = some cell ∧
        ((writeFields (List.replicate (((fields.map Prod.snd).sum + 7) / 8) 0) 0 fields).bind
          fun written => cellRepr sha256 written.1 written.2
            (children.map fun child => child.hash sha256)
            (children.map fun child => BitVec.ofNat 16 child.depth)) =
          some (cell.hash sha256)) ∧
    (∀ request : TonTransferRequest,
      ((signingMessageCell request).isSome ↔ request.amount.toNat < 2 ^ 120 ∧
        request.queryId.toNat < 2 ^ 23 ∧ request.timeout.toNat < 2 ^ 22) ∧
      ∀ cell, signingMessageCell request = some cell →
        signingMessageCellHash sha256 request = some (cell.hash sha256)) ∧
    ∀ (keccak256 : Bytes → Bytes32) (chain : HubChain) (builder : TonVmPayloadBuilder)
        (withdraw : WithdrawParams) (payload : Bytes),
      builder.buildPayload keccak256 chain withdraw = .ok payload →
      ∃ request cell, Abi.decodeAs TonTransferRequest.type TonTransferRequest.ofValue payload =
          some request ∧
        signingMessageCell request = some cell ∧
        hashesToSign sha256 payload = some [cell.hash sha256] := by
  refine ⟨?_, ?_, ?_⟩
  · intro fields children fit total few
    have stored := @Builder.storeUints_eq Builder.empty
      (fields.map fun field => (field.1.toNat, field.2)) (List.forall_mem_map.mpr fit)
    have referred := @Builder.storeRefs_eq ⟨fieldBits fields, []⟩ children
      (by rw [List.length_nil, Nat.zero_add]; exact few)
    obtain ⟨cell, isCell⟩ := @Cell.exists_new (fieldBits fields) children
      (by rw [length_fieldBits]; exact total) few
    refine ⟨cell, ?_, writeFields_cellRepr sha256 isCell (by omega)⟩
    have same : Builder.mk (Builder.empty.bits ++ (fields.map fun field =>
        (field.1.toNat, field.2)).flatMap fun field => Bits.ofNat field.2 field.1)
        Builder.empty.refs = ⟨fieldBits fields, []⟩ := by
      rw [List.flatMap_map]
      rfl
    rw [stored, Option.bind_some, same, referred, Option.bind_some]
    exact isCell
  · intro request
    refine ⟨⟨?_, ?_⟩, fun cell isCell => signingMessageCellHash_eq_hash sha256 isCell⟩
    · intro some
      obtain ⟨cell, isCell⟩ := Option.isSome_iff_exists.mp some
      have fits := fits_of_signingMessageCell isCell
      exact ⟨fits.amount, fits.queryId, fits.timeout⟩
    · rintro ⟨amount, queryId, timeout⟩
      exact Option.isSome_iff_exists.mpr (exists_signingMessageCell ⟨amount, queryId, timeout⟩)
  · intro keccak256 chain builder withdraw payload built
    obtain ⟨request, decoded, fits⟩ := buildPayload_fits built
    obtain ⟨cell, isCell⟩ := exists_signingMessageCell fits
    refine ⟨request, cell, decoded, isCell, ?_⟩
    simp [hashesToSign, decoded, signingMessageCellHash_eq_hash sha256 isCell]

open SamplePrepaid in
theorem ton_cell_hashers_agree_sample :
    (∃ cell, signingMessageCell ⟨5, 600, 7, 8, 1, 60⟩ = some cell ∧
      signingMessageCellHash Abi.sampleHash ⟨5, 600, 7, 8, 1, 60⟩ =
        some (cell.hash Abi.sampleHash)) ∧
    ∃ payload request cell, tonBuilder.buildPayload Abi.sampleHash chain
        (WithdrawGasPayer.withdrawParams tonRequest) = .ok payload ∧
      Abi.decodeAs TonTransferRequest.type TonTransferRequest.ofValue payload = some request ∧
      signingMessageCell request = some cell ∧
      hashesToSign Abi.sampleHash payload = some [cell.hash Abi.sampleHash] := by
  obtain ⟨_, requests, payloads⟩ := ton_cell_hashers_agree Abi.sampleHash
  constructor
  · obtain ⟨exists_iff, hashed⟩ := requests ⟨5, 600, 7, 8, 1, 60⟩
    obtain ⟨cell, isCell⟩ := Option.isSome_iff_exists.mp (exists_iff.mpr (by decide))
    exact ⟨cell, isCell, hashed cell isCell⟩
  · obtain ⟨payload, built⟩ := exists_ok (show (tonBuilder.buildPayload Abi.sampleHash chain
      (WithdrawGasPayer.withdrawParams tonRequest)).toOption.isSome by decide +kernel)
    obtain ⟨request, cell, decoded, isCell, hashed⟩ := payloads _ _ _ _ payload built
    exact ⟨payload, request, cell, built, decoded, isCell, hashed⟩

end RelaySettlement
