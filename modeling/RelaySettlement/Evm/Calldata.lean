import RelaySettlement.Evm.Codec
import RelaySettlement.Evm.Keccak

/-!
# Calldata

The data of a contract call is a selector of four bytes and the encoding of the arguments.  An
argument without dynamic parts is one word, so calldata of such arguments is known from its
length, its selector and its words.
-/

namespace Evm.Abi

/-- The first four bytes of the hash of a signature. -/
def selector (signature : String) : Bytes := (word (Keccak.keccak256 (utf8 signature))).take 4

def calldata (signature : String) (arguments : List Value) : Bytes :=
  selector signature ++ encode arguments

/-- The bytes of an argument that is one word. -/
def argument (data : Bytes) (index : ℕ) : Bytes := (data.drop (4 + 32 * index)).take 32

theorem length_word (value : U256) : (word value).length = 32 := length_bigEndian 32 _

theorem length_selector (signature : String) : (selector signature).length = 4 := by
  rw [selector, List.length_take, length_word]
  rfl

variable {data : Bytes}

theorem length_argument {index count : ℕ} (length : data.length = 4 + 32 * count)
    (inside : index < count) : (argument data index).length = 32 := by
  rw [argument, List.length_take, List.length_drop, length]
  omega

/-! ## Words side by side -/

/-- The words that a byte string is cut into. -/
def chunks (count : ℕ) (data : Bytes) : List Bytes :=
  (List.range count).map fun index => (data.drop (32 * index)).take 32

theorem chunks_succ (count : ℕ) (data : Bytes) :
    chunks (count + 1) data = data.take 32 :: chunks count (data.drop 32) := by
  rw [chunks, List.range_succ_eq_map, List.map_cons, List.map_map]
  congr 1
  apply List.map_congr_left
  intro index _
  rw [Function.comp_apply, Nat.mul_succ, Nat.add_comm, ← List.drop_drop]

theorem flatten_chunks {count : ℕ} (length : data.length = 32 * count) :
    (chunks count data).flatten = data := by
  induction count generalizing data with
  | zero => exact (List.length_eq_zero_iff.mp length).symm
  | succ count ih =>
      have rest : (data.drop 32).length = 32 * count := by
        rw [List.length_drop, length, Nat.mul_succ, Nat.add_sub_cancel]
      rw [chunks_succ, List.flatten_cons, ih rest, List.take_append_drop]

theorem chunks_words (words : List U256) :
    chunks words.length (words.flatMap word) = words.map word := by
  induction words with
  | nil => rfl
  | cons value words ih =>
      rw [List.length_cons, chunks_succ, List.flatMap_cons, List.take_left' (length_word value),
        List.drop_left' (length_word value), ih, List.map_cons]

/-- Calldata of words is known from its length, its selector and its words. -/
theorem eq_calldata_iff {signature : String} {words : List U256} :
    data = calldata signature (words.map .word) ↔
      data.length = 4 + 32 * words.length ∧ data.take 4 = selector signature ∧
        (List.range words.length).map (argument data) = words.map word := by
  have cut : (List.range words.length).map (argument data) =
      chunks words.length (data.drop 4) := by
    apply List.map_congr_left
    intro index _
    rw [argument, ← List.drop_drop]
  rw [cut, calldata]
  constructor
  · rintro rfl
    refine ⟨?_, List.take_left' (length_selector signature), ?_⟩
    · rw [List.length_append, length_selector, length_encode_words]
    · rw [List.drop_left' (length_selector signature), encode_words, chunks_words]
  · rintro ⟨length, isSelector, isWords⟩
    have rest : (data.drop 4).length = 32 * words.length := by
      rw [List.length_drop, length, Nat.add_sub_cancel_left]
    rw [encode_words, List.flatMap_def, ← isWords, flatten_chunks rest, ← isSelector,
      List.take_append_drop]

/-! ## Addresses in words -/

/-- Twelve zero bytes stand before an address. -/
theorem word_address (account : Address) :
    word (account.setWidth 256) = List.replicate 12 0 ++ bigEndian 20 account.toNat := by
  have high : account.toNat / 256 ^ 20 = 0 := Nat.div_eq_of_lt account.isLt
  rw [word, BitVec.toNat_setWidth_of_le (by decide), bigEndian_add 12 20, high]
  rfl

theorem eq_word_address_iff {account : Address} :
    data = word (account.setWidth 256) ↔
      data.take 12 = List.replicate 12 0 ∧ data.drop 12 = bigEndian 20 account.toNat := by
  rw [word_address]
  constructor
  · rintro rfl
    exact ⟨List.take_left' List.length_replicate, List.drop_left' List.length_replicate⟩
  · rintro ⟨isPadding, isAccount⟩
    rw [← isPadding, ← isAccount, List.take_append_drop]

theorem exists_address (length : data.length = 20) :
    ∃ account : Address, data = bigEndian 20 account.toNat := by
  have bound : readBigEndian data < 2 ^ 160 := by
    have bound := readBigEndian_lt data
    rwa [length] at bound
  use BitVec.ofNat 160 (readBigEndian data)
  rw [BitVec.toNat_ofNat, Nat.mod_eq_of_lt bound, ← length, bigEndian_readBigEndian]

end Evm.Abi
