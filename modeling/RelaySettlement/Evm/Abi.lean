import RelaySettlement.Evm.Word

/-!
# The contract ABI and EIP-712 digests

Encoding follows the head/tail layout of the ABI specification: every member of
a tuple takes one head, a static member in place and a dynamic one as the offset
of its tail.  Decoding follows the validation `abi.decode` performs, which
reverts on a short buffer, on dirty high bits and on an offset or length that
leaves the buffer.
-/

namespace Evm.Abi

/-- The `width` low bytes of a number, most significant first. -/
def bigEndian (width value : ℕ) : Bytes :=
  (List.range width).map fun position =>
    UInt8.ofNat (value / 256 ^ (width - 1 - position))

/-- The number a big-endian byte string denotes. -/
def readBigEndian (data : Bytes) : ℕ :=
  data.foldl (fun value byte => value * 256 + byte.toNat) 0

/-- A byte keeps the low bits of a number. -/
theorem ofNat_and_ff (value : ℕ) : UInt8.ofNat (value &&& 0xff) = UInt8.ofNat value := by
  have low : value &&& 0xff = value % 2 ^ 8 := Nat.and_two_pow_sub_one_eq_mod value 8
  rw [low]
  exact UInt8.ofNat_mod_size

@[simp] theorem length_bigEndian (width value : ℕ) : (bigEndian width value).length = width := by
  rw [bigEndian, List.length_map, List.length_range]

theorem readBigEndian_append (first second : Bytes) :
    readBigEndian (first ++ second) =
      readBigEndian first * 256 ^ second.length + readBigEndian second := by
  have shifted : ∀ (data : Bytes) (value : ℕ),
      data.foldl (fun value byte => value * 256 + byte.toNat) value =
        value * 256 ^ data.length + readBigEndian data := by
    intro data
    induction data with
    | nil => simp [readBigEndian]
    | cons byte data ih =>
        intro value
        have head : readBigEndian (byte :: data) =
            byte.toNat * 256 ^ data.length + readBigEndian data := by
          rw [readBigEndian, List.foldl_cons, ih, Nat.zero_mul, Nat.zero_add]
        rw [List.foldl_cons, ih, head, List.length_cons]
        ring
  rw [readBigEndian, List.foldl_append, shifted, ← readBigEndian]

theorem readBigEndian_cons (byte : UInt8) (data : Bytes) :
    readBigEndian (byte :: data) = byte.toNat * 256 ^ data.length + readBigEndian data := by
  have first : readBigEndian [byte] = byte.toNat := Nat.zero_add _
  rw [← List.singleton_append, readBigEndian_append, first]

theorem bigEndian_succ (width value : ℕ) :
    bigEndian (width + 1) value = bigEndian width (value / 256) ++ [UInt8.ofNat value] := by
  rw [bigEndian, List.range_succ, List.map_append, bigEndian]
  congr 1
  · apply List.map_congr_left
    intro position inWidth
    have below := List.mem_range.mp inWidth
    rw [Nat.div_div_eq_div_mul, ← Nat.pow_succ']
    congr 3
    omega
  · simp

theorem bigEndian_add (left right value : ℕ) :
    bigEndian (left + right) value = bigEndian left (value / 256 ^ right) ++
      bigEndian right value := by
  induction right generalizing value with
  | zero => simp [bigEndian]
  | succ right ih =>
      rw [← Nat.add_assoc, bigEndian_succ, ih, bigEndian_succ, List.append_assoc,
        Nat.div_div_eq_div_mul, Nat.pow_succ']

/-- Reading the low bytes of a number back. -/
theorem readBigEndian_bigEndian (width value : ℕ) :
    readBigEndian (bigEndian width value) = value % 256 ^ width := by
  induction width generalizing value with
  | zero => simp [bigEndian, readBigEndian, Nat.mod_one]
  | succ width ih =>
      rw [bigEndian_succ, readBigEndian_append, ih, Nat.pow_succ', Nat.mod_mul]
      simp [readBigEndian]
      ring

/-- Byte strings are determined by their length and the number they denote. -/
theorem bigEndian_readBigEndian (data : Bytes) :
    bigEndian data.length (readBigEndian data) = data := by
  induction data using List.reverseRecOn with
  | nil => rfl
  | append_singleton data byte ih =>
      have last : readBigEndian [byte] = byte.toNat := by simp [readBigEndian]
      have low := byte.toNat_lt
      rw [List.length_append, List.length_singleton, bigEndian_succ, readBigEndian_append, last,
        List.length_singleton, pow_one]
      congr 2
      · rw [show (readBigEndian data * 256 + byte.toNat) / 256 = readBigEndian data by omega, ih]
      · apply UInt8.toNat_inj.mp
        rw [UInt8.toNat_ofNat']
        omega

theorem readBigEndian_lt (data : Bytes) : readBigEndian data < 256 ^ data.length := by
  rw [← bigEndian_readBigEndian data, readBigEndian_bigEndian, length_bigEndian]
  exact Nat.mod_lt _ (Nat.pow_pos (by decide))

/-- Numbers within a width are determined by their bytes. -/
theorem bigEndian_inj {width value value' : ℕ} (small : value < 256 ^ width)
    (small' : value' < 256 ^ width) (same : bigEndian width value = bigEndian width value') :
    value = value' := by
  have read := congrArg readBigEndian same
  rwa [readBigEndian_bigEndian, readBigEndian_bigEndian, Nat.mod_eq_of_lt small,
    Nat.mod_eq_of_lt small'] at read

theorem bigEndian_toNat_inj {width bits : ℕ} (narrow : bits ≤ 8 * width)
    {value value' : BitVec bits} :
    bigEndian width value.toNat = bigEndian width value'.toNat ↔ value = value' := by
  have inside : 2 ^ bits ≤ 256 ^ width := by
    rw [show 256 = 2 ^ 8 from rfl, ← Nat.pow_mul]
    exact Nat.pow_le_pow_right (by decide) narrow
  constructor
  · intro same
    exact BitVec.eq_of_toNat_eq (bigEndian_inj (Nat.lt_of_lt_of_le value.isLt inside)
      (Nat.lt_of_lt_of_le value'.isLt inside) same)
  · rintro rfl
    rfl

/-- A number of a fixed width can be split off the front of a byte string. -/
theorem bigEndian_append_inj {width value value' : ℕ} {rest rest' : Bytes} :
    bigEndian width value ++ rest = bigEndian width value' ++ rest' ↔
      bigEndian width value = bigEndian width value' ∧ rest = rest' := by
  constructor
  · intro same
    exact List.append_inj same (by simp)
  · rintro ⟨front, rfl⟩
    rw [front]

/-- One 32-byte word. -/
def word (value : U256) : Bytes := bigEndian 32 value.toNat

theorem word_readBigEndian {data : Bytes} (length : data.length = 32) :
    word (BitVec.ofNat 256 (readBigEndian data)) = data := by
  have bound : readBigEndian data < 2 ^ 256 := by
    have bound := readBigEndian_lt data
    rwa [length] at bound
  rw [word, BitVec.toNat_ofNat, Nat.mod_eq_of_lt bound, ← length, bigEndian_readBigEndian]

/-! ## Encoding -/

/-- ABI values.  Integers, addresses, booleans and fixed bytes are all words;
strings are byte strings. -/
inductive Value where
  | word (value : U256)
  | bytes (data : Bytes)
  | tuple (members : List Value)
  | array (elements : List Value)

/-- An address is encoded in the low 160 bits of a word. -/
abbrev Value.address (account : Address) : Value := .word (account.setWidth 256)

/-- A boolean is the word 0 or 1. -/
abbrev Value.bool (flag : Bool) : Value := .word (if flag then 1 else 0)

/-- Pad with zero bytes to a whole number of words. -/
def padRight (data : Bytes) : Bytes :=
  data ++ List.replicate ((32 - data.length % 32) % 32) 0

/-- Lay out the members of a tuple, given for each whether it is dynamic and its
encoding: all heads first, then the tails the heads point to. -/
def layout (members : List (Bool × Bytes)) : Bytes :=
  let headSize := (members.map fun (dynamic, encoding) =>
    if dynamic then 32 else encoding.length).sum
  let heads := members.foldl (fun (heads, tail) (dynamic, encoding) =>
    if dynamic then (heads ++ bigEndian 32 tail, tail + encoding.length)
    else (heads ++ encoding, tail)) (([] : Bytes), headSize)
  heads.1 ++ (members.flatMap fun (dynamic, encoding) =>
    if dynamic then encoding else [])

mutual
/-- Whether a value is dynamic, and its encoding. -/
def Value.encode : Value → Bool × Bytes
  | .word value => (false, Abi.word value)
  | .bytes data => (true, bigEndian 32 data.length ++ padRight data)
  | .tuple members =>
      let encodings := encodeAll members
      (encodings.any (·.1), layout encodings)
  | .array elements =>
      let encodings := encodeAll elements
      (true, bigEndian 32 elements.length ++ layout encodings)

/-- Encode every value of a list. -/
def encodeAll : List Value → List (Bool × Bytes)
  | [] => []
  | value :: values => value.encode :: encodeAll values
end

/-- `abi.encode` of an argument list. -/
def encode (arguments : List Value) : Bytes := layout (encodeAll arguments)

/-! ## EIP-712 -/

/-- The UTF-8 bytes of a string literal. -/
def utf8 (text : String) : Bytes := text.toUTF8.toList

/-- The domain separator of a contract that signs under a name and a version. -/
def domainSeparator (keccak256 : Bytes → Bytes32) (name version : String) (chainId : U256)
    (verifyingContract : Address) : Bytes32 :=
  keccak256 (encode [
    .word (keccak256 (utf8
      "EIP712Domain(string name,string version,uint256 chainId,address verifyingContract)")),
    .word (keccak256 (utf8 name)), .word (keccak256 (utf8 version)), .word chainId,
    .address verifyingContract])

/-- `_hashTypedDataV4`: the digest of a struct hash under a domain separator. -/
def hashTypedData (keccak256 : Bytes → Bytes32) (domainSeparator structHash : Bytes32) :
    Bytes32 :=
  keccak256 ([0x19, 0x01] ++ word domainSeparator ++ word structHash)

/-- What `hashTypedData` hashes. -/
def typedData (domainSeparator structHash : Bytes32) : Bytes :=
  [0x19, 0x01] ++ word domainSeparator ++ word structHash

/-- A hash function has no collision among some inputs. -/
def NoCollision (keccak256 : Bytes → Bytes32) (inputs : List Bytes) : Prop :=
  ∀ first ∈ inputs, ∀ second ∈ inputs, keccak256 first = keccak256 second → first = second

instance (keccak256 : Bytes → Bytes32) (inputs : List Bytes) :
    Decidable (NoCollision keccak256 inputs) :=
  inferInstanceAs (Decidable (∀ first ∈ inputs, ∀ second ∈ inputs,
    keccak256 first = keccak256 second → first = second))

/-- A small stand-in for a hash function, for samples. -/
def sampleHash (data : Bytes) : Bytes32 :=
  BitVec.ofNat 256 (readBigEndian (1 :: data) % 2305843009213693951)

theorem NoCollision.of_subset {keccak256 : Bytes → Bytes32} {inputs inputs' : List Bytes}
    (noCollision : NoCollision keccak256 inputs') (subset : inputs ⊆ inputs') :
    NoCollision keccak256 inputs :=
  fun first member second member' => noCollision first (subset member) second (subset member')

section Parts

variable {keccak256 : Bytes → Bytes32} {first second first' second' : List Bytes}
variable (noCollision : NoCollision keccak256 (first ++ second ++ (first' ++ second')))

include noCollision

/-- Inputs of two computations that come in two parts each: the first parts. -/
theorem NoCollision.firsts : NoCollision keccak256 (first ++ first') :=
  noCollision.of_subset (List.append_subset.mpr
    ⟨List.subset_append_of_subset_left _ (List.subset_append_left _ _),
      List.subset_append_of_subset_right _ (List.subset_append_left _ _)⟩)

theorem NoCollision.seconds : NoCollision keccak256 (second ++ second') :=
  noCollision.of_subset (List.append_subset.mpr
    ⟨List.subset_append_of_subset_left _ (List.subset_append_right _ _),
      List.subset_append_of_subset_right _ (List.subset_append_right _ _)⟩)

/-- One part of each. -/
theorem NoCollision.crossed : NoCollision keccak256 (first ++ second') :=
  noCollision.of_subset (List.append_subset.mpr
    ⟨List.subset_append_of_subset_left _ (List.subset_append_left _ _),
      List.subset_append_of_subset_right _ (List.subset_append_right _ _)⟩)

end Parts

theorem NoCollision.symm {keccak256 : Bytes → Bytes32} {inputs inputs' : List Bytes}
    (noCollision : NoCollision keccak256 (inputs ++ inputs')) :
    NoCollision keccak256 (inputs' ++ inputs) :=
  noCollision.of_subset (List.append_subset.mpr
    ⟨List.subset_append_right _ _, List.subset_append_left _ _⟩)

/-! ## Decoding -/

/-- Reads a value whose encoding starts at a position of the buffer. -/
abbrev Decoder (α : Type) := Bytes → ℕ → Option α

namespace Decoder

variable {α : Type}

/-- The largest offset and length a decoder follows. -/
def limit : ℕ := 0xffffffffffffffff

/-- The word at a position, when the buffer is long enough. -/
def word : Decoder ℕ := fun data position =>
  if position + 32 ≤ data.length then
    some (readBigEndian ((data.drop position).take 32))
  else
    none

/-- An unsigned integer of the given width; dirty high bits revert. -/
def uint (width : ℕ) : Decoder (BitVec width) := fun data position =>
  (word data position).bind fun value =>
    if value < 2 ^ width then some (BitVec.ofNat width value) else none

/-- A byte string: its length, then its bytes. -/
def bytes : Decoder Bytes := fun data position =>
  (word data position).bind fun length =>
    if length ≤ limit ∧ position + 32 + length ≤ data.length then
      some ((data.drop (position + 32)).take length)
    else
      none

/-- The static member whose head has the given index in the tuple at a position. -/
def static (member : Decoder α) (index : ℕ) : Decoder α := fun data position =>
  member data (position + 32 * index)

/-- The dynamic member whose head has the given index in the tuple at a position; the
head is the offset of the member from there. -/
def dynamic (member : Decoder α) (index : ℕ) : Decoder α := fun data position =>
  (word data (position + 32 * index)).bind fun offset =>
    if offset ≤ limit then member data (position + offset) else none

/-- An array of dynamic elements: its length, then the elements laid out as a tuple. -/
def array (element : Decoder α) : Decoder (List α) := fun data position =>
  (word data position).bind fun length =>
    if length ≤ limit ∧ position + 32 + 32 * length ≤ data.length then
      (List.range length).mapM fun index => element.dynamic index data (position + 32)
    else
      none

end Decoder

/-- The integer at head `index` of an encoded argument list. -/
def readUInt (width : ℕ) (data : Bytes) (index : ℕ) : Option (BitVec width) :=
  (Decoder.uint width).static index data 0

/-- The dynamic `bytes` argument whose head stands at `index`. -/
def readBytes (data : Bytes) (index : ℕ) : Option Bytes :=
  Decoder.bytes.dynamic index data 0

end Evm.Abi
