import RelaySettlement.Evm.Reader

/-!
# The binary format of the XRP Ledger

An object is a sequence of fields.  Each field is an id, which holds the code of a type and a
code among the fields of that type, and a value.  The type fixes the layout of the value:
numbers are big-endian, amounts carry flags in their high bits, and byte strings stand behind
their length.
-/

namespace Evm.Xrpl

/-! ## Field ids -/

/-- A code below 16 takes half a byte.  Any other code leaves its half 0 and takes a byte of its
own behind it. -/
def encodeId (type code : ℕ) : Bytes :=
  if type < 16 then
    if code < 16 then [UInt8.ofNat (16 * type + code)]
    else [UInt8.ofNat (16 * type), UInt8.ofNat code]
  else
    if code < 16 then [UInt8.ofNat code, UInt8.ofNat type]
    else [0, UInt8.ofNat type, UInt8.ofNat code]

/-- A code, given what the first byte holds of it. -/
def readCode (half : ℕ) : Reader ℕ := do
  if half = 0 then
    let code ← Reader.byte
    if code.toNat < 16 then failure else return code.toNat
  else return half

def readId : Reader (ℕ × ℕ) := do
  let first ← Reader.byte
  let type ← readCode (first.toNat / 16)
  let code ← readCode (first.toNat % 16)
  return (type, code)

theorem run_readCode_half {code : ℕ} (positive : 0 < code) (rest : Bytes) :
    (readCode code).run rest = some (code, rest) := by
  rw [readCode, if_neg (Nat.pos_iff_ne_zero.mp positive)]
  rfl

theorem run_readCode_byte {code : ℕ} (large : 16 ≤ code) (small : code < 256) (rest : Bytes) :
    (readCode 0).run (UInt8.ofNat code :: rest) = some (code, rest) := by
  have same : (UInt8.ofNat code).toNat = code := by
    rw [UInt8.toNat_ofNat']
    exact Nat.mod_eq_of_lt small
  simp [readCode, Reader.run_byte, same, if_neg (Nat.not_lt.mpr large)]

theorem run_readId {type code : ℕ} (isType : 0 < type ∧ type < 256)
    (isCode : 0 < code ∧ code < 256) (rest : Bytes) :
    readId.run (encodeId type code ++ rest) = some ((type, code), rest) := by
  have byte : ∀ value < 256, (UInt8.ofNat value).toNat = value := by decide +kernel
  rw [encodeId]
  split
  next typeSmall =>
    split
    next codeSmall =>
      have halves : (16 * type + code) / 16 = type ∧ (16 * type + code) % 16 = code := by omega
      simp only [readId, List.cons_append, List.nil_append, StateT.run_bind, Reader.run_byte,
        some_bind, byte _ (by omega : 16 * type + code < 256), halves, run_readCode_half isType.1,
        run_readCode_half isCode.1]
      rfl
    next codeLarge =>
      have halves : 16 * type / 16 = type ∧ 16 * type % 16 = 0 := by omega
      simp only [readId, List.cons_append, List.nil_append, StateT.run_bind, Reader.run_byte,
        some_bind, byte _ (by omega : 16 * type < 256), halves, run_readCode_half isType.1,
        run_readCode_byte (Nat.not_lt.mp codeLarge) isCode.2]
      rfl
  next typeLarge =>
    split
    next codeSmall =>
      have halves : code / 16 = 0 ∧ code % 16 = code := by omega
      simp [readId, Reader.run_byte, byte _ isCode.2, halves,
        run_readCode_byte (Nat.not_lt.mp typeLarge) isType.2, run_readCode_half isCode.1]
    next codeLarge =>
      have halves : UInt8.toNat 0 / 16 = 0 ∧ UInt8.toNat 0 % 16 = 0 := by decide
      simp [readId, Reader.run_byte, run_readCode_byte (Nat.not_lt.mp typeLarge) isType.2,
        run_readCode_byte (Nat.not_lt.mp codeLarge) isCode.2]

theorem encodeId_ne_nil (type code : ℕ) : encodeId type code ≠ [] := by
  rw [encodeId]
  split
  · split <;> exact List.cons_ne_nil _ _
  · split <;> exact List.cons_ne_nil _ _

/-! ## Lengths -/

/-- The largest length there is. -/
def maxLength : ℕ := 918744

/-- A length takes one byte up to 192, two up to 12480, and three above. -/
def encodeLength (length : ℕ) : Bytes :=
  if length ≤ 192 then [UInt8.ofNat length]
  else if length ≤ 12480 then
    [UInt8.ofNat (193 + (length - 193) / 256), UInt8.ofNat ((length - 193) % 256)]
  else
    [UInt8.ofNat (241 + (length - 12481) / 65536), UInt8.ofNat ((length - 12481) / 256 % 256),
      UInt8.ofNat ((length - 12481) % 256)]

def readLength : Reader ℕ := do
  let first ← Reader.byte
  if first.toNat ≤ 192 then return first.toNat
  else if first.toNat ≤ 240 then
    let second ← Reader.byte
    return 193 + (first.toNat - 193) * 256 + second.toNat
  else if first.toNat ≤ 254 then
    let second ← Reader.byte
    let third ← Reader.byte
    return 12481 + (first.toNat - 241) * 65536 + second.toNat * 256 + third.toNat
  else failure

theorem run_readLength_two {first second : UInt8} (large : ¬ first.toNat ≤ 192)
    (small : first.toNat ≤ 240) (rest : Bytes) :
    readLength.run (first :: second :: rest) =
      some (193 + (first.toNat - 193) * 256 + second.toNat, rest) := by
  simp [readLength, Reader.run_byte, if_neg large, if_pos small]

theorem run_readLength_three {first second third : UInt8} (large : ¬ first.toNat ≤ 240)
    (small : first.toNat ≤ 254) (rest : Bytes) :
    readLength.run (first :: second :: third :: rest) =
      some (12481 + (first.toNat - 241) * 65536 + second.toNat * 256 + third.toNat, rest) := by
  simp [readLength, Reader.run_byte,
    if_neg (fun one => large (Nat.le_trans one (by decide)) : ¬ first.toNat ≤ 192), if_neg large,
    if_pos small]

theorem run_readLength {length : ℕ} (small : length ≤ maxLength) (rest : Bytes) :
    readLength.run (encodeLength length ++ rest) = some (length, rest) := by
  have byte : ∀ value < 256, (UInt8.ofNat value).toNat = value := by decide +kernel
  rw [maxLength] at small
  rw [encodeLength]
  split
  next one =>
    simp [readLength, Reader.run_byte, byte _ (by omega : length < 256), if_pos one]
  next beyond =>
    split
    next two =>
      have first := byte (193 + (length - 193) / 256) (by omega)
      have second := byte ((length - 193) % 256) (Nat.mod_lt _ (by decide))
      have back : 193 + (193 + (length - 193) / 256 - 193) * 256 + (length - 193) % 256 =
          length := by omega
      rw [List.cons_append, List.cons_append, List.nil_append, run_readLength_two, first, second,
        back]
      · omega
      · omega
    next three =>
      have first := byte (241 + (length - 12481) / 65536) (by omega)
      have second := byte ((length - 12481) / 256 % 256) (Nat.mod_lt _ (by decide))
      have third := byte ((length - 12481) % 256) (Nat.mod_lt _ (by decide))
      have back : 12481 + (241 + (length - 12481) / 65536 - 241) * 65536 +
          (length - 12481) / 256 % 256 * 256 + (length - 12481) % 256 = length := by omega
      rw [List.cons_append, List.cons_append, List.cons_append, List.nil_append,
        run_readLength_three, first, second, third, back]
      · omega
      · omega

/-! ## Values -/

/-- Values of the types `UInt16`, `UInt32`, `Amount`, `Blob` and `AccountID`.  An amount is one
of XRP, in drops. -/
inductive Value where
  | uint16 (value : BitVec 16)
  | uint32 (value : BitVec 32)
  | amount (positive : Bool) (drops : ℕ)
  | blob (data : Bytes)
  | account (data : Bytes)
  deriving DecidableEq

namespace Value

/-- The code of a type. -/
def type : Value → ℕ
  | uint16 _ => 1
  | uint32 _ => 2
  | amount .. => 6
  | blob _ => 7
  | account _ => 8

/-- Bit 62 of an amount says that it is positive. -/
def encode : Value → Bytes
  | uint16 value => Abi.bigEndian 2 value.toNat
  | uint32 value => Abi.bigEndian 4 value.toNat
  | amount positive drops => Abi.bigEndian 8 ((if positive then 2 ^ 62 else 0) + drops)
  | blob data => encodeLength data.length ++ data
  | account data => encodeLength data.length ++ data

/-- Bit 63 of an amount marks an issued currency and bit 61 a multi-purpose token. -/
def reader : ℕ → Reader Value
  | 1 => return uint16 (BitVec.ofNat 16 (Abi.readBigEndian (← Reader.bytes 2)))
  | 2 => return uint32 (BitVec.ofNat 32 (Abi.readBigEndian (← Reader.bytes 4)))
  | 6 => do
      let bits := Abi.readBigEndian (← Reader.bytes 8)
      if bits / 2 ^ 63 % 2 = 1 ∨ bits / 2 ^ 61 % 2 = 1 then failure
      else return amount (decide (bits / 2 ^ 62 % 2 = 1)) (bits % 2 ^ 61)
  | 7 => do
      let length ← readLength
      return blob (← Reader.bytes length)
  | 8 => do
      let length ← readLength
      if length = 20 then return account (← Reader.bytes length) else failure
  | _ => failure

def Fits : Value → Prop
  | uint16 _ => True
  | uint32 _ => True
  | amount _ drops => drops < 2 ^ 61
  | blob data => data.length ≤ maxLength
  | account data => data.length = 20

theorem run_bytes_bigEndian {width value : ℕ} (small : value < 256 ^ width) (rest : Bytes) :
    (Reader.bytes width).run (Abi.bigEndian width value ++ rest) =
        some (Abi.bigEndian width value, rest) ∧
      Abi.readBigEndian (Abi.bigEndian width value) = value := by
  constructor
  · have read := Reader.run_bytes (Abi.bigEndian width value) rest
    rwa [Abi.length_bigEndian] at read
  · rw [Abi.readBigEndian_bigEndian, Nat.mod_eq_of_lt small]

theorem run_reader {value : Value} (fits : value.Fits) (rest : Bytes) :
    (reader value.type).run (value.encode ++ rest) = some (value, rest) := by
  cases value with
  | uint16 value =>
      have small : value.toNat < 256 ^ 2 := value.isLt
      obtain ⟨read, back⟩ := run_bytes_bigEndian small rest
      simp [reader, type, encode, read, back]
  | uint32 value =>
      have small : value.toNat < 256 ^ 4 := value.isLt
      obtain ⟨read, back⟩ := run_bytes_bigEndian small rest
      simp [reader, type, encode, read, back]
  | amount positive drops =>
      have small : drops < 2 ^ 61 := fits
      have bound : (if positive then 2 ^ 62 else 0) + drops < 256 ^ 8 := by
        split <;> omega
      obtain ⟨read, back⟩ := run_bytes_bigEndian bound rest
      have native : ¬ (((if positive then 2 ^ 62 else 0) + drops) / 2 ^ 63 % 2 = 1 ∨
          ((if positive then 2 ^ 62 else 0) + drops) / 2 ^ 61 % 2 = 1) := by
        split <;> omega
      have sign : decide (((if positive then 2 ^ 62 else 0) + drops) / 2 ^ 62 % 2 = 1) =
          positive := by
        cases positive with
        | false => exact decide_eq_false (by simp; omega)
        | true => exact decide_eq_true (by simp; omega)
      have low : ((if positive then 2 ^ 62 else 0) + drops) % 2 ^ 61 = drops := by
        split <;> omega
      simp only [reader, type, encode, StateT.run_bind, read, some_bind, back, if_neg native, sign,
        low]
      rfl
  | blob data =>
      have length := run_readLength (fits : data.length ≤ maxLength) (data ++ rest)
      simp [reader, type, encode, length, Reader.run_bytes]
  | account data =>
      have twenty : data.length = 20 := fits
      have length := run_readLength (twenty ▸ by decide : data.length ≤ maxLength) (data ++ rest)
      simp [reader, type, encode, length, if_pos twenty, Reader.run_bytes]

theorem type_pos (value : Value) : 0 < value.type ∧ value.type < 256 := by
  cases value <;> simp [type]

end Value

/-! ## Objects -/

structure Field where
  code : ℕ
  value : Value
  deriving DecidableEq

namespace Field

def encode (field : Field) : Bytes := encodeId field.value.type field.code ++ field.value.encode

def reader : Reader Field := do
  let (type, code) ← readId
  return ⟨code, ← Value.reader type⟩

def Fits (field : Field) : Prop := (0 < field.code ∧ field.code < 256) ∧ field.value.Fits

/-- The order of the fields of an object: by type, then by code. -/
def Precedes (field other : Field) : Prop :=
  field.value.type < other.value.type ∨
    field.value.type = other.value.type ∧ field.code < other.code

theorem run_reader {field : Field} (fits : field.Fits) (rest : Bytes) :
    reader.run (field.encode ++ rest) = some (field, rest) := by
  have id := run_readId field.value.type_pos fits.1 (field.value.encode ++ rest)
  have value := Value.run_reader fits.2 rest
  simp [reader, encode, id, value]

end Field

def encode (fields : List Field) : Bytes := fields.flatMap Field.encode

/-- The fields of an object that takes up all of the bytes. -/
def parse (data : Bytes) : Option (List Field) := Reader.all Field.reader data

theorem parse_encode {fields : List Field} (fits : ∀ field ∈ fields, field.Fits) :
    parse (encode fields) = some fields := by
  apply Reader.all_flatMap
  · intro field listed rest
    exact Field.run_reader (fits field listed) rest
  · intro field _ empty
    exact encodeId_ne_nil _ _ (List.append_eq_nil_iff.mp empty).1

end Evm.Xrpl
