import RelaySettlement.Evm.Reader

/-!
# Protocol buffers on the wire

A message is a sequence of numbered fields.  Each field is a tag, which holds the number and
the type of what follows, and a value: a base-128 number, a fixed-width number, or bytes behind
their length.  What the fields mean is up to a schema; the readers for one are below.
-/

namespace Evm.Wire

/-! ## Base-128 numbers -/

/-- The base-128 digits of a number, least significant first.  The high bit of a byte says
that another one follows.  There are at most `digits` of them. -/
def varint : ℕ → ℕ → Bytes
  | 0, _ => []
  | digits + 1, value =>
      if value < 128 then [UInt8.ofNat value]
      else UInt8.ofNat (value % 128 + 128) :: varint digits (value / 128)

def readVarint : ℕ → Reader ℕ
  | 0 => failure
  | digits + 1 => do
      let digit ← Reader.byte
      if digit.toNat < 128 then return digit.toNat
      else
        let value ← readVarint digits
        return digit.toNat - 128 + 128 * value

theorem length_varint_le (digits value : ℕ) : (varint digits value).length ≤ digits := by
  induction digits generalizing value with
  | zero => exact Nat.le_refl 0
  | succ digits ih =>
      rw [varint]
      split
      · exact Nat.succ_le_succ (Nat.zero_le digits)
      · exact Nat.succ_le_succ (ih _)

theorem varint_ne_nil (digits value : ℕ) : varint (digits + 1) value ≠ [] := by
  rw [varint]
  split
  · exact List.cons_ne_nil _ _
  · exact List.cons_ne_nil _ _

theorem varint_of_lt (digits : ℕ) {value : ℕ} (small : value < 128) :
    varint (digits + 1) value = [UInt8.ofNat value] := by
  rw [varint, if_pos small]

theorem run_readVarint {digits value : ℕ} (fits : value < 128 ^ (digits + 1)) (rest : Bytes) :
    (readVarint (digits + 1)).run (varint (digits + 1) value ++ rest) = some (value, rest) := by
  induction digits generalizing value with
  | zero =>
      rw [zero_add, pow_one] at fits
      have digit : (UInt8.ofNat value).toNat = value := by
        rw [UInt8.toNat_ofNat']
        exact Nat.mod_eq_of_lt (by omega)
      simp [readVarint, varint, if_pos fits, Reader.run_byte, digit]
  | succ digits ih =>
      by_cases small : value < 128
      · have digit : (UInt8.ofNat value).toNat = value := by
          rw [UInt8.toNat_ofNat']
          exact Nat.mod_eq_of_lt (by omega)
        rw [varint_of_lt _ small, readVarint]
        simp [Reader.run_byte, digit, if_pos small]
      · have digit : (UInt8.ofNat (value % 128 + 128)).toNat = value % 128 + 128 := by
          rw [UInt8.toNat_ofNat']
          exact Nat.mod_eq_of_lt (by omega)
        have more : ¬ value % 128 + 128 < 128 := by omega
        have rest' := ih (Nat.div_lt_of_lt_mul (by rw [← Nat.pow_succ']; exact fits) :
          value / 128 < 128 ^ (digits + 1))
        have whole : value % 128 + 128 - 128 + 128 * (value / 128) = value := by omega
        rw [varint, if_neg small, readVarint]
        simp only [List.cons_append, StateT.run_bind, Reader.run_byte, some_bind, digit,
          if_neg more, rest', whole]
        rfl

/-- A number of 64 bits.  Bits beyond them are dropped. -/
def readUint64 : Reader (BitVec 64) := do
  let value ← readVarint 10
  return BitVec.ofNat 64 value

theorem run_readUint64 (value : BitVec 64) (rest : Bytes) :
    readUint64.run (varint 10 value.toNat ++ rest) = some (value, rest) := by
  have fits : value.toNat < 128 ^ (9 + 1) := Nat.lt_trans value.isLt (by decide)
  have read := run_readVarint fits rest
  simp [readUint64, read]

/-! ## Fields -/

inductive Value where
  | varint (value : BitVec 64)
  | fixed64 (value : BitVec 64)
  | delimited (data : Bytes)
  | fixed32 (value : BitVec 32)
  deriving DecidableEq

structure Field where
  number : ℕ
  value : Value
  deriving DecidableEq

namespace Value

def wireType : Value → ℕ
  | varint _ => 0
  | fixed64 _ => 1
  | delimited _ => 2
  | fixed32 _ => 5

def encode : Value → Bytes
  | varint value => Wire.varint 10 value.toNat
  | fixed64 value => littleEndian 8 value.toNat
  | delimited data => Wire.varint 10 data.length ++ data
  | fixed32 value => littleEndian 4 value.toNat

def reader : ℕ → Reader Value
  | 0 => return varint (← readUint64)
  | 1 => return fixed64 (← Reader.uint 64)
  | 2 => do
      let length ← readUint64
      return delimited (← Reader.bytes length.toNat)
  | 5 => return fixed32 (← Reader.uint 32)
  | _ => failure

/-- The length of the bytes can be written. -/
def Fits : Value → Prop
  | delimited data => data.length < 2 ^ 64
  | _ => True

/-- The length of what is written, up to the few bytes of numbers. -/
def dataLength : Value → ℕ
  | delimited data => data.length
  | _ => 0

theorem length_encode_le (value : Value) : value.encode.length ≤ 10 + value.dataLength := by
  cases value with
  | varint value => exact length_varint_le 10 _
  | fixed64 value =>
      rw [encode, length_littleEndian]
      exact Nat.le_add_right_of_le (by decide)
  | delimited data =>
      rw [encode, List.length_append, dataLength]
      exact Nat.add_le_add_right (length_varint_le 10 _) _
  | fixed32 value =>
      rw [encode, length_littleEndian]
      exact Nat.le_add_right_of_le (by decide)

theorem wireType_lt (value : Value) : value.wireType < 8 := by
  cases value <;> simp only [wireType] <;> decide

theorem run_reader {value : Value} (fits : value.Fits) (rest : Bytes) :
    (reader value.wireType).run (value.encode ++ rest) = some (value, rest) := by
  cases value with
  | varint value =>
      have read := run_readUint64 value rest
      simp [reader, wireType, encode, read]
  | fixed64 value =>
      have read := @Reader.run_uint 64 rfl value rest
      rw [show 64 / 8 = 8 from rfl] at read
      simp [reader, wireType, encode, read]
  | delimited data =>
      have length : (BitVec.ofNat 64 data.length).toNat = data.length := by
        rw [BitVec.toNat_ofNat]
        exact Nat.mod_eq_of_lt fits
      have readLength := run_readUint64 (BitVec.ofNat 64 data.length) (data ++ rest)
      have read := Reader.run_bytes data rest
      rw [length] at readLength
      simp [reader, wireType, encode, readLength, length, read]
  | fixed32 value =>
      have read := @Reader.run_uint 32 rfl value rest
      rw [show 32 / 8 = 4 from rfl] at read
      simp [reader, wireType, encode, read]

end Value

namespace Field

def encode (field : Field) : Bytes :=
  varint 10 (8 * field.number + field.value.wireType) ++ field.value.encode

/-- Field numbers are positive and below `2 ^ 29`. -/
def reader : Reader Field := do
  let tag ← readVarint 10
  if 0 < tag / 8 ∧ tag / 8 < 2 ^ 29 then return ⟨tag / 8, ← Value.reader (tag % 8)⟩
  else failure

def Fits (field : Field) : Prop :=
  (0 < field.number ∧ field.number < 2 ^ 29) ∧ field.value.Fits

theorem encode_ne_nil (field : Field) : field.encode ≠ [] := by
  intro empty
  exact varint_ne_nil _ _ (List.append_eq_nil_iff.mp empty).1

theorem run_reader {field : Field} (fits : field.Fits) (rest : Bytes) :
    reader.run (field.encode ++ rest) = some (field, rest) := by
  have wireType := field.value.wireType_lt
  have number := fits.1
  have tagFits : 8 * field.number + field.value.wireType < 128 ^ (9 + 1) :=
    Nat.lt_of_lt_of_le (by omega : _ < 2 ^ 33) (by decide)
  have readTag := run_readVarint tagFits (field.value.encode ++ rest)
  have isNumber : (8 * field.number + field.value.wireType) / 8 = field.number := by omega
  have isType : (8 * field.number + field.value.wireType) % 8 = field.value.wireType := by omega
  have read := Value.run_reader fits.2 rest
  simp only [reader, encode, List.append_assoc, StateT.run_bind, readTag, some_bind, isNumber,
    isType, if_pos number, read]
  rfl

theorem length_encode_le (field : Field) : field.encode.length ≤ 20 + field.value.dataLength := by
  have tag := length_varint_le 10 (8 * field.number + field.value.wireType)
  have value := field.value.length_encode_le
  rw [encode, List.length_append]
  omega

end Field

/-! ## Messages -/

def encode (fields : List Field) : Bytes := fields.flatMap Field.encode

/-- Reads fields until nothing is left.  Every field takes a byte at least, so `fuel` bytes
hold no more than `fuel` fields. -/
def readFields : ℕ → Bytes → Option (List Field)
  | _, [] => some []
  | 0, _ :: _ => none
  | fuel + 1, data => do
      let (field, rest) ← Field.reader.run data
      return field :: (← readFields fuel rest)

/-- The fields of a message that takes up all of the bytes. -/
def parse (data : Bytes) : Option (List Field) := readFields data.length data

theorem encode_cons (field : Field) (fields : List Field) :
    encode (field :: fields) = field.encode ++ encode fields :=
  List.flatMap_cons

theorem encode_singleton (field : Field) : encode [field] = field.encode := by
  rw [encode_cons]
  exact List.append_nil _

theorem encode_append (fields fields' : List Field) :
    encode (fields ++ fields') = encode fields ++ encode fields' :=
  List.flatMap_append

/-- A bound for what is written.  A field takes at most ten bytes for its tag, ten for a number
or a length, and its data. -/
def sizeBound : List Field → ℕ
  | [] => 0
  | field :: fields => 20 + field.value.dataLength + sizeBound fields

theorem length_encode_le (fields : List Field) : (encode fields).length ≤ sizeBound fields := by
  induction fields with
  | nil => exact Nat.le_refl 0
  | cons field fields ih =>
      rw [encode_cons, List.length_append, sizeBound]
      exact Nat.add_le_add field.length_encode_le ih

theorem readFields_eq_many (fuel : ℕ) (data : Bytes) :
    readFields fuel data = Reader.many Field.reader fuel data := by
  induction fuel generalizing data with
  | zero => cases data <;> rfl
  | succ fuel ih =>
      cases data with
      | nil => rfl
      | cons byte data => simp only [readFields, Reader.many, ih]

theorem parse_encode {fields : List Field} (fits : ∀ field ∈ fields, field.Fits) :
    parse (encode fields) = some fields := by
  rw [parse, readFields_eq_many]
  apply Reader.all_flatMap
  · intro field listed rest
    exact Field.run_reader (fits field listed) rest
  · intro field _
    exact field.encode_ne_nil

/-! ## Reading under a schema

A schema lists the numbers and wire types of the fields of a message. -/

/-- The fields of a message, if all of them are in the schema. -/
def parseAs (schema : List (ℕ × ℕ)) (data : Bytes) : Option (List Field) := do
  let fields ← parse data
  if ∀ field ∈ fields, (field.number, field.value.wireType) ∈ schema then return fields
  else none

theorem parseAs_encode {schema : List (ℕ × ℕ)} {fields : List Field}
    (fits : ∀ field ∈ fields, field.Fits)
    (listed : ∀ field ∈ fields, (field.number, field.value.wireType) ∈ schema) :
    parseAs schema (encode fields) = some fields := by
  rw [parseAs, parse_encode fits, some_bind, if_pos listed]
  rfl

/-- The occurrences of a field that holds a number. -/
def numbers (number : ℕ) (fields : List Field) : List (BitVec 64) :=
  fields.filterMap fun field =>
    match field.value with
    | .varint value => if field.number = number then some value else none
    | _ => none

/-- The number a field holds: the last of its occurrences, and 0 if there is none. -/
def scalar (number : ℕ) (fields : List Field) : BitVec 64 :=
  (numbers number fields).getLast?.getD 0

/-- The occurrences of a field that holds bytes. -/
def contents (number : ℕ) (fields : List Field) : List Bytes :=
  fields.filterMap fun field =>
    match field.value with
    | .delimited data => if field.number = number then some data else none
    | _ => none

section Embedded

variable {α : Type} (parse : Bytes → Option α)

/-- An embedded message, if it is there.  Several occurrences are merged, which is to read them
in a row. -/
def embedded (number : ℕ) (fields : List Field) : Option (Option α) :=
  match contents number fields with
  | [] => some none
  | parts => some <$> parse parts.flatten

/-- The occurrences of an embedded message. -/
def repeated (number : ℕ) (fields : List Field) : Option (List α) :=
  (contents number fields).mapM parse

end Embedded

/-- A byte string or text: the last of its occurrences, and empty if there is none. -/
def text (number : ℕ) (fields : List Field) : Bytes :=
  (contents number fields).getLast?.getD []

/-! Signed numbers -/

/-- An `int64` is a number in two's complement. -/
def int64 (value : BitVec 64) : ℤ := value.toInt

/-- An `int32` is the low half of a number, in two's complement. -/
def int32 (value : BitVec 64) : ℤ := (value.setWidth 32).toInt

/-- The numbers 0, -1, 1, -2, … written as 0, 1, 2, 3, …. -/
def zigzag (value : BitVec 64) : BitVec 64 := (value <<< 1) ^^^ value.sshiftRight 63

def sint64 (value : BitVec 64) : ℤ := ((value >>> 1) ^^^ -(value &&& 1)).toInt

variable {value : BitVec 64}

theorem int64_of_lt (small : value.toNat < 2 ^ 63) : int64 value = value.toNat :=
  BitVec.toInt_eq_toNat_of_lt (by omega)

theorem int64_nonneg_iff : 0 ≤ int64 value ↔ value.toNat < 2 ^ 63 := by
  rw [int64, BitVec.toInt_eq_toNat_cond]
  split <;> omega

theorem int32_of_lt (small : value.toNat < 2 ^ 31) : int32 value = value.toNat := by
  have low : (value.setWidth 32).toNat = value.toNat := by
    rw [BitVec.toNat_setWidth]
    exact Nat.mod_eq_of_lt (by omega)
  rw [int32, BitVec.toInt_eq_toNat_of_lt (by omega), low]

section Zigzag

variable {last : ℕ}

theorem sshiftRight_last (value : BitVec (last + 1)) :
    value.sshiftRight last = if value.msb then BitVec.allOnes (last + 1) else 0 := by
  apply BitVec.eq_of_getLsbD_eq
  intro i inside
  have bit : (if last + i < last + 1 then value.getLsbD (last + i) else value.msb) =
      value.msb := by
    split
    next first =>
      cases Nat.lt_one_iff.mp (Nat.lt_of_add_lt_add_left first)
      exact (BitVec.msb_eq_getLsbD_last value).symm
    next => rfl
  rw [BitVec.getLsbD_sshiftRight, bit, decide_eq_false (Nat.not_le_of_lt inside)]
  cases value.msb with
  | false => simp
  | true =>
      rw [if_pos rfl, BitVec.getLsbD_allOnes, decide_eq_true inside]
      rfl

theorem neg_and_one (value : BitVec (last + 1)) :
    -(value &&& 1) = if value.getLsbD 0 then BitVec.allOnes (last + 1) else 0 := by
  have lowest : value &&& 1 = (BitVec.ofBool (value.getLsbD 0)).setWidth (last + 1) :=
    BitVec.and_one_eq_setWidth_ofBool_getLsbD
  rw [lowest]
  cases value.getLsbD 0 with
  | false => simp
  | true => simp [BitVec.neg_one_eq_allOnes]

theorem zigzag_back (value : BitVec (last + 1)) :
    (((value <<< 1) ^^^ value.sshiftRight last) >>> 1) ^^^
      -(((value <<< 1) ^^^ value.sshiftRight last) &&& 1) = value := by
  have sign := BitVec.msb_eq_getLsbD_last value
  apply BitVec.eq_of_getLsbD_eq
  intro i inside
  rw [neg_and_one, sshiftRight_last]
  -- The last bit is shifted out by the first shift; the sign stands in for it.
  rcases Nat.lt_succ_iff_lt_or_eq.mp inside with within | rfl
  · have next : 1 + i < last + 1 := by omega
    cases value.msb with
    | false => simp [inside, next]
    | true => simp [inside, next]
  · have bit : value[i] = value.msb := by
      rw [sign, Nat.add_sub_cancel, BitVec.getLsbD_eq_getElem inside]
    cases isSign : value.msb with
    | false => simp [bit, isSign]
    | true => simp [bit, isSign]

end Zigzag

theorem sint64_zigzag (value : BitVec 64) : sint64 (zigzag value) = value.toInt :=
  congrArg BitVec.toInt (zigzag_back value)

end Evm.Wire
