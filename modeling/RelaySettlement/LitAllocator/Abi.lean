import RelaySettlement.Allocator.Requests
import RelaySettlement.Evm.Codec
import RelaySettlement.Js.Text

/-!
# The request hash of the signer

The signer gets a withdraw request as texts and encodes it by hand, to compare the hash of the
encoding with the one that was attested.  The allocator hashes the `abi.encode` of the struct.

Texts are the byte strings they are encoded as, so that `TextEncoder` is the identity; texts with
lone surrogates are left out.  A function that throws returns `none`.  Lengths and offsets are
natural numbers: an array of the language has fewer than `2 ^ 53` bytes, and up to there its numbers
are exact.
-/

open Evm

namespace RelaySettlement

namespace LitAllocator

/-! ## Bytes -/

/-- `text.replace(/^0x/i, "")`. -/
def stripMark : Bytes → Bytes
  | 48 :: mark :: digits => if mark = 120 ∨ mark = 88 then digits else 48 :: mark :: digits
  | text => text

/-- The text in lower case without its mark, if it is hexadecimal of even length. -/
def normalizeHex (hex : Bytes) : Option Bytes :=
  let clean := stripMark hex
  if (∀ character ∈ clean, (Js.digitValue character).isSome) ∧ clean.length % 2 = 0 then
    some (Text.toLowerCase clean)
  else none

def hexToBytes (hex : Bytes) : Option Bytes := do
  let clean ← normalizeHex hex
  Js.readHex clean

def bytesToHex (bytes : Bytes) : Bytes := Text.hex bytes

def concatBytes (arrays : List Bytes) : Bytes := arrays.flatten

/-! ## Encoding -/

/-- A quantity is given as a text; of a number, it is the decimal text. -/
def parseQuantity (value : Bytes) : Option ℤ :=
  if value.length = 0 then none else Js.bigInt value

/-- Writes the low bytes of a number to the places below `i`, from the last one down. -/
def wordLoop : (i x : ℕ) → Bytes → Bytes
  | 0, _, out => out
  | i + 1, x, out => wordLoop i (x >>> 8) (out.set i (UInt8.ofNat (x &&& 0xff)))

def quantityToWord (value : Bytes) : Option Bytes := do
  let n ← parseQuantity value
  if n < 0 ∨ 2 ^ 256 ≤ n.toNat then none
  else some (wordLoop 32 n.toNat (List.replicate 32 0))

def padRight32 (bytes : Bytes) : Bytes :=
  let len := (bytes.length + 31) / 32 * 32
  bytes ++ List.replicate (len - bytes.length) 0

def abiEncodeBytes (bytes : Bytes) : Option Bytes := do
  return concatBytes [← quantityToWord (Text.decimal bytes.length), padRight32 bytes]

def abiEncodeString (value : Bytes) : Option Bytes := abiEncodeBytes value

/-- The request as the signer gets it, in texts of the language. -/
structure WithdrawRequest where
  chainId : Bytes
  depository : Bytes
  currency : Bytes
  amount : Bytes
  spenderChainId : Bytes
  spender : Bytes
  receiver : Bytes
  data : Bytes
  nonce : Bytes
  short : ∀ text ∈ [chainId, depository, currency, amount, spenderChainId, spender, receiver,
    data, nonce], text.length < 2 ^ 53

/-- One round of the loop over the nine fields: the heads, the tails and the next offset. -/
def encodeField (amount nonce : Bytes) (dynamicParts : List (Option Bytes))
    (encoded : List Bytes × List Bytes × ℕ) (i : ℕ) : Option (List Bytes × List Bytes × ℕ) :=
  let (head, tail, offset) := encoded
  if i = 3 then do
    return (head ++ [← quantityToWord amount], tail, offset)
  else if i = 8 then some (head ++ [nonce], tail, offset)
  else do
    let part ← (dynamicParts[i]?).join
    return (head ++ [← quantityToWord (Text.decimal offset)], tail ++ [part],
      offset + part.length)

def abiEncodeWithdrawRequest (req : WithdrawRequest) : Option Bytes := do
  let dynamicParts : List (Option Bytes) := [
    some (← abiEncodeString req.chainId),
    some (← abiEncodeBytes (← hexToBytes req.depository)),
    some (← abiEncodeBytes (← hexToBytes req.currency)),
    none,
    some (← abiEncodeString req.spenderChainId),
    some (← abiEncodeBytes (← hexToBytes req.spender)),
    some (← abiEncodeBytes (← hexToBytes req.receiver)),
    some (← abiEncodeBytes (← hexToBytes req.data)),
    none]
  let nonce ← hexToBytes req.nonce
  if nonce.length ≠ 32 then none
  else
    let (head, tail, _) ← (List.range 9).foldlM (encodeField req.amount nonce dynamicParts)
      ([], [], 32 * 9)
    let tupleBody := concatBytes (head ++ tail)
    return concatBytes [← quantityToWord (Text.decimal 32), tupleBody]

def computeWithdrawRequestHash (keccak : Bytes → Bytes32) (req : WithdrawRequest) :
    Option Bytes32 := do
  return keccak (← abiEncodeWithdrawRequest req)

/-! ## Words -/

theorem wordLoop_eq (i x : ℕ) {out : Bytes} (inside : i ≤ out.length) :
    wordLoop i x out = Abi.bigEndian i x ++ out.drop i := by
  induction i generalizing x out with
  | zero => rfl
  | succ i ih =>
      have rest : (out.set i (UInt8.ofNat x)).drop i = UInt8.ofNat x :: out.drop (i + 1) := by
        rw [List.drop_eq_getElem_cons (by rw [List.length_set]; exact inside),
          List.getElem_set_self, List.drop_set_of_lt (Nat.lt_succ_self i)]
      rw [wordLoop, Abi.ofNat_and_ff,
        ih _ (by rw [List.length_set]; exact Nat.le_of_succ_le inside), rest, Abi.bigEndian_succ,
        Nat.shiftRight_eq_div_pow, List.append_assoc]
      rfl

/-- A quantity is encoded if it is a number of 256 bits. -/
theorem quantityToWord_eq_some {value encoded : Bytes} :
    quantityToWord value = some encoded ↔
      ∃ word : U256, parseQuantity value = some (word.toNat : ℤ) ∧ encoded = Abi.word word := by
  have whole (n : ℕ) : wordLoop 32 n (List.replicate 32 0) = Abi.bigEndian 32 n := by
    rw [wordLoop_eq 32 n (by decide)]
    exact List.append_nil _
  constructor
  · intro isEncoded
    simp only [quantityToWord, bind_eq_some] at isEncoded
    obtain ⟨n, isNumber, isWord⟩ := isEncoded
    obtain ⟨inRange, isWord⟩ := Option.ite_none_left_eq_some.mp isWord
    have bounds := not_or.mp inRange
    have small : n.toNat < 2 ^ 256 := Nat.lt_of_not_le bounds.2
    have same : (BitVec.ofNat 256 n.toNat).toNat = n.toNat := by
      rw [BitVec.toNat_ofNat]
      exact Nat.mod_eq_of_lt small
    refine ⟨BitVec.ofNat 256 n.toNat, ?_, ?_⟩
    · rw [isNumber, same, Int.toNat_of_nonneg (Int.not_lt.mp bounds.1)]
    · rw [← Option.some.inj isWord, whole, Abi.word, same]
  · rintro ⟨word, isNumber, rfl⟩
    have inRange : ¬ ((word.toNat : ℤ) < 0 ∨ 2 ^ 256 ≤ word.toNat) := by
      rw [not_or]
      exact ⟨Int.not_lt.mpr (Int.natCast_nonneg _), Nat.not_le_of_lt word.isLt⟩
    simp only [quantityToWord, isNumber, some_bind, Int.toNat_natCast, if_neg inRange, whole]
    rfl

theorem parseQuantity_decimal (value : ℕ) :
    parseQuantity (Text.decimal value) = some (value : ℤ) := by
  rw [parseQuantity, if_neg, Js.bigInt_decimal]
  exact fun empty => Js.decimal_ne_nil value (List.length_eq_zero_iff.mp empty)

theorem quantityToWord_decimal {value : ℕ} (small : value < 2 ^ 256) :
    quantityToWord (Text.decimal value) = some (Abi.bigEndian 32 value) := by
  have same : (BitVec.ofNat 256 value).toNat = value := by
    rw [BitVec.toNat_ofNat]
    exact Nat.mod_eq_of_lt small
  apply quantityToWord_eq_some.mpr
  refine ⟨BitVec.ofNat 256 value, ?_, ?_⟩
  · rw [parseQuantity_decimal, same]
  · rw [Abi.word, same]

theorem padRight32_eq (bytes : Bytes) : padRight32 bytes = Abi.padRight bytes := by
  have count : (bytes.length + 31) / 32 * 32 - bytes.length =
      (32 - bytes.length % 32) % 32 := by omega
  rw [padRight32, Abi.padRight, count]

/-- A byte string is encoded as the specification says. -/
theorem abiEncodeBytes_eq {bytes : Bytes} (short : bytes.length < 2 ^ 256) :
    abiEncodeBytes bytes = some (Abi.Value.bytes bytes).encode.2 := by
  simp [abiEncodeBytes, quantityToWord_decimal short, padRight32_eq, concatBytes, Abi.Value.encode]

/-! ## Hexadecimal -/

theorem readHex_eq_none {text : Bytes} (invalid : ¬ ((∀ character ∈ text,
    (Js.digitValue character).isSome) ∧ text.length % 2 = 0)) : Js.readHex text = none := by
  induction text using Js.readHex.induct with
  | case1 => exact absurd ⟨List.forall_mem_nil _, rfl⟩ invalid
  | case2 character => rfl
  | case3 high low rest ih =>
      rw [Js.readHex]
      cases isHigh : Js.digitValue high with
      | none => rfl
      | some highDigit =>
          cases isLow : Js.digitValue low with
          | none => rfl
          | some lowDigit =>
              have none : Js.readHex rest = none := by
                apply ih
                rintro ⟨digits, even⟩
                apply invalid
                constructor
                · simp only [List.forall_mem_cons, isHigh, isLow]
                  exact ⟨rfl, rfl, digits⟩
                · rw [List.length_cons, List.length_cons]
                  omega
              rw [none]
              rfl

theorem hexToBytes_eq (hex : Bytes) : hexToBytes hex = Js.readHex (stripMark hex) := by
  rw [hexToBytes, normalizeHex]
  split
  next => exact Js.readHex_toLowerCase _
  next invalid => exact (readHex_eq_none invalid).symm

theorem length_stripMark_le (text : Bytes) : (stripMark text).length ≤ text.length := by
  fun_cases stripMark text
  · exact Nat.le_add_right _ 2
  · exact Nat.le_refl _
  · exact Nat.le_refl _

theorem length_hexToBytes_le {hex data : Bytes} (read : hexToBytes hex = some data) :
    data.length ≤ hex.length := by
  rw [hexToBytes_eq] at read
  have length := Js.length_of_readHex read
  have stripped := length_stripMark_le hex
  omega

/-- The hexadecimal text of bytes, with its mark. -/
def hexText (data : Bytes) : Bytes := 48 :: 120 :: bytesToHex data

theorem hexToBytes_hexText (data : Bytes) : hexToBytes (hexText data) = some data := by
  rw [hexToBytes_eq]
  exact Js.readHex_hex data

/-! ## Requests -/

/-- The texts of a request read as a request of the allocator. -/
structure WithdrawRequest.Denotes (req : WithdrawRequest)
    (params : RelaySettlement.WithdrawRequest) : Prop where
  chainId : req.chainId = params.chainId
  depository : hexToBytes req.depository = some params.depository
  currency : hexToBytes req.currency = some params.currency
  amount : parseQuantity req.amount = some (params.amount.toNat : ℤ)
  spenderChainId : req.spenderChainId = params.spenderChainId
  spender : hexToBytes req.spender = some params.spender
  receiver : hexToBytes req.receiver = some params.receiver
  data : hexToBytes req.data = some params.data
  nonce : hexToBytes req.nonce = some (Abi.word params.nonce)

/-- The members of the argument that the allocator encodes. -/
def members (params : RelaySettlement.WithdrawRequest) : List Abi.Value :=
  [.bytes params.chainId, .bytes params.depository, .bytes params.currency, .word params.amount,
    .bytes params.spenderChainId, .bytes params.spender, .bytes params.receiver,
    .bytes params.data, .word params.nonce]

def argument (params : RelaySettlement.WithdrawRequest) : Abi.Value := .tuple (members params)

/-- What a member of the argument has among the tails. -/
def tailOf : Abi.Value → Option Bytes
  | .bytes data => some (Abi.Value.bytes data).encode.2
  | _ => none

section Loop

variable {amount nonce : Bytes} {dynamicParts : List (Option Bytes)}

/-- What the loop writes for the field of an index, as a member of a layout. -/
def Writes (amount nonce : Bytes) (dynamicParts : List (Option Bytes)) (i : ℕ)
    (field : Bool × Bytes) : Prop :=
  if i = 3 then field.1 = false ∧ quantityToWord amount = some field.2
  else if i = 8 then field = (false, nonce)
  else field.1 = true ∧ dynamicParts[i]? = some (some field.2)

theorem Writes.encodeField_eq {i offset : ℕ} {field : Bool × Bytes}
    (writes : Writes amount nonce dynamicParts i field) (head tail : List Bytes)
    (small : offset < 2 ^ 256) :
    encodeField amount nonce dynamicParts (head, tail, offset) i = if field.1 then
        some (head ++ [Abi.bigEndian 32 offset], tail ++ [field.2], offset + field.2.length)
      else some (head ++ [field.2], tail, offset) := by
  rw [Writes] at writes
  rw [encodeField]
  split at writes
  next isAmount => simp [isAmount, writes]
  next notAmount =>
    split at writes
    next isNonce => simp [isNonce, writes]
    next notNonce => simp [notAmount, notNonce, writes, quantityToWord_decimal small]

/-- The loop writes the heads and the tails of a layout. -/
theorem foldlM_encodeField {indices : List ℕ} {fields : List (Bool × Bytes)}
    (writes : List.Forall₂ (Writes amount nonce dynamicParts) indices fields)
    (head tail : List Bytes) (offset : ℕ) (small : offset + (Abi.tails fields).length < 2 ^ 256) :
    ∃ heads tails last, indices.foldlM (encodeField amount nonce dynamicParts)
        (head, tail, offset) = some (head ++ heads, tail ++ tails, last) ∧
      concatBytes heads = Abi.heads offset fields ∧ concatBytes tails = Abi.tails fields := by
  induction writes generalizing head tail offset with
  | nil => exact ⟨[], [], offset, by simp, rfl, rfl⟩
  | @cons i field indices fields here _ ih =>
      rw [List.foldlM_cons, here.encodeField_eq head tail (by omega)]
      obtain ⟨dynamic, encoding⟩ := field
      cases dynamic with
      | false =>
          obtain ⟨heads, tails, last, isLoop, isHeads, isTails⟩ :=
            ih (head ++ [encoding]) tail offset small
          refine ⟨encoding :: heads, tails, last, ?_, congrArg (encoding ++ ·) isHeads, isTails⟩
          simpa using isLoop
      | true =>
          rw [Abi.tails, List.flatMap_cons, List.length_append, ← Nat.add_assoc] at small
          obtain ⟨heads, tails, last, isLoop, isHeads, isTails⟩ :=
            ih (head ++ [Abi.bigEndian 32 offset]) (tail ++ [encoding]) _ small
          refine ⟨Abi.bigEndian 32 offset :: heads, encoding :: tails, last, ?_,
            congrArg (Abi.bigEndian 32 offset ++ ·) isHeads, congrArg (encoding ++ ·) isTails⟩
          simpa using isLoop

/-- An amount out of range stops the loop. -/
theorem foldlM_encodeField_none (noAmount : quantityToWord amount = none)
    (parts : List (Option Bytes)) (start : List Bytes × List Bytes × ℕ) :
    (List.range 9).foldlM (encodeField amount nonce parts) start = none := by
  have fields : List.range 9 = [0, 1, 2] ++ 3 :: [4, 5, 6, 7, 8] := rfl
  rw [fields, List.foldlM_append]
  cases [0, 1, 2].foldlM (encodeField amount nonce parts) start with
  | none => rfl
  | some encoded =>
      have stopped : encodeField amount nonce parts encoded 3 = none := by
        simp [encodeField, noAmount]
      rw [some_bind, List.foldlM_cons, stopped]
      rfl

end Loop

namespace WithdrawRequest

variable {req req' : WithdrawRequest} {params params' : RelaySettlement.WithdrawRequest}

def type : Abi.Ty :=
  .tuple [.bytes, .bytes, .bytes, .uint 256, .bytes, .bytes, .bytes, .bytes, .uint 256]

theorem Denotes.lengths (denotes : req.Denotes params) :
    ∀ bytes ∈ [params.chainId, params.depository, params.currency, params.spenderChainId,
      params.spender, params.receiver, params.data], bytes.length < 2 ^ 53 := by
  have read {text bytes : Bytes} (isBytes : hexToBytes text = some bytes)
      (short : text.length < 2 ^ 53) : bytes.length < 2 ^ 53 :=
    Nat.lt_of_le_of_lt (length_hexToBytes_le isBytes) short
  simp only [List.forall_mem_cons]
  refine ⟨?_, read denotes.depository (req.short _ (by simp)),
    read denotes.currency (req.short _ (by simp)), ?_,
    read denotes.spender (req.short _ (by simp)), read denotes.receiver (req.short _ (by simp)),
    read denotes.data (req.short _ (by simp)), List.forall_mem_nil _⟩
  · exact denotes.chainId ▸ req.short req.chainId (by simp)
  · exact denotes.spenderChainId ▸ req.short req.spenderChainId (by simp)

theorem Denotes.typed (denotes : req.Denotes params) : Abi.HasType (argument params) type := by
  have lengths := denotes.lengths
  simp only [List.forall_mem_cons] at lengths
  obtain ⟨chainId, depository, currency, spenderChainId, spender, receiver, data, _⟩ := lengths
  apply Abi.HasType.tuple
  exact .cons (.bytes (by omega)) (.cons (.bytes (by omega)) (.cons (.bytes (by omega))
    (.cons (Abi.hasType_word _) (.cons (.bytes (by omega)) (.cons (.bytes (by omega))
    (.cons (.bytes (by omega)) (.cons (.bytes (by omega)) (.cons (Abi.hasType_word _) .nil))))))))

theorem Denotes.length_layout_le (denotes : req.Denotes params) :
    (Abi.layout (Abi.encodeAll (members params))).length ≤ 9 * (2 ^ 54 + 32) := by
  have lengths := denotes.lengths
  have bytes {data : Bytes} (short : data.length < 2 ^ 53) :
      (Abi.Value.bytes data).size ≤ 2 ^ 54 := by
    have bound := Abi.Value.size_bytes_le data
    omega
  have word (value : U256) : (Abi.Value.word value).size ≤ 2 ^ 54 := by
    rw [Abi.Value.size_word]
    decide
  apply @Abi.length_layout_le (members params)
  simp only [members, List.forall_mem_cons] at lengths ⊢
  obtain ⟨chainId, depository, currency, spenderChainId, spender, receiver, data, _⟩ := lengths
  exact ⟨bytes chainId, bytes depository, bytes currency, word _, bytes spenderChainId,
    bytes spender, bytes receiver, bytes data, word _, List.forall_mem_nil _⟩

theorem Denotes.length_lt (denotes : req.Denotes params) :
    (Abi.encode [argument params]).length < 2 ^ 256 :=
  Nat.lt_of_le_of_lt (Abi.length_encode_single_le denotes.length_layout_le) (by decide)

/-- The signer encodes a request as the allocator does. -/
theorem Denotes.encode (denotes : req.Denotes params) :
    abiEncodeWithdrawRequest req = some (Abi.encode [argument params]) := by
  have lengths := denotes.lengths
  simp only [List.forall_mem_cons] at lengths
  obtain ⟨chainId, depository, currency, spenderChainId, spender, receiver, data, _⟩ := lengths
  have amount : quantityToWord req.amount = some (Abi.word params.amount) :=
    quantityToWord_eq_some.mpr ⟨params.amount, denotes.amount, rfl⟩
  have width : ¬ (Abi.word params.nonce).length ≠ 32 :=
    not_not_intro (Abi.length_bigEndian 32 _)
  have size := denotes.length_layout_le
  rw [Abi.layout_eq, List.length_append, Abi.length_heads] at size
  have headsSize : Abi.headsSize (Abi.encodeAll (members params)) = 288 := by
    simp [members, Abi.encodeAll, Abi.Value.encode, Abi.headsSize, Abi.word]
  have writes : List.Forall₂ (Writes req.amount (Abi.word params.nonce)
      ((members params).map tailOf)) (List.range 9) (Abi.encodeAll (members params)) := by
    simp [List.range_succ, members, Abi.encodeAll, Abi.Value.encode, Writes, tailOf, amount]
  obtain ⟨heads, tails, _, isLoop, isHeads, isTails⟩ :=
    foldlM_encodeField writes [] [] 288 (by omega)
  simp only [members, List.map_cons, List.map_nil, tailOf, List.nil_append] at isLoop
  simp (disch := omega) only [abiEncodeWithdrawRequest, abiEncodeString, denotes.chainId,
    denotes.depository, denotes.currency, denotes.spenderChainId, denotes.spender, denotes.receiver,
    denotes.data, denotes.nonce, abiEncodeBytes_eq, some_bind, if_neg width, quantityToWord_decimal,
    isLoop]
  have body : concatBytes (heads ++ tails) = Abi.layout (Abi.encodeAll (members params)) := by
    rw [Abi.layout_eq, headsSize, ← isHeads, ← isTails]
    exact List.flatten_append
  rw [body]
  simp only [concatBytes, Abi.encode, Abi.encodeAll, Abi.layout_eq [_], argument, Abi.Value.encode]
  rfl

/-- What the signer encodes is a request. -/
theorem exists_denotes {encoded : Bytes} (isEncoded : abiEncodeWithdrawRequest req = some encoded) :
    ∃ params, req.Denotes params := by
  obtain ⟨_, _, read⟩ := bind_eq_some.mp isEncoded
  obtain ⟨depository, isDepository, read⟩ := bind_eq_some.mp read
  obtain ⟨_, _, read⟩ := bind_eq_some.mp read
  obtain ⟨currency, isCurrency, read⟩ := bind_eq_some.mp read
  obtain ⟨_, _, read⟩ := bind_eq_some.mp read
  obtain ⟨_, _, read⟩ := bind_eq_some.mp read
  obtain ⟨spender, isSpender, read⟩ := bind_eq_some.mp read
  obtain ⟨_, _, read⟩ := bind_eq_some.mp read
  obtain ⟨receiver, isReceiver, read⟩ := bind_eq_some.mp read
  obtain ⟨_, _, read⟩ := bind_eq_some.mp read
  obtain ⟨data, isData, read⟩ := bind_eq_some.mp read
  obtain ⟨_, _, read⟩ := bind_eq_some.mp read
  obtain ⟨nonce, isNonce, read⟩ := bind_eq_some.mp read
  split at read
  next => cases read
  next width =>
    have length : nonce.length = 32 := not_not.mp width
    cases isAmount : quantityToWord req.amount with
    | none =>
        rw [foldlM_encodeField_none isAmount] at read
        cases read
    | some encoded =>
        obtain ⟨amount, isNumber, _⟩ := quantityToWord_eq_some.mp isAmount
        refine ⟨⟨req.chainId, depository, currency, amount, req.spenderChainId, spender, receiver,
          data, BitVec.ofNat 256 (Abi.readBigEndian nonce)⟩, ?_⟩
        exact ⟨rfl, isDepository, isCurrency, isNumber, rfl, isSpender, isReceiver, isData,
          isNonce.trans (congrArg some (Abi.word_readBigEndian length).symm)⟩

/-- Requests that are encoded alike are one request. -/
theorem Denotes.inj (denotes : req.Denotes params) (denotes' : req'.Denotes params')
    (same : Abi.encode [argument params] = Abi.encode [argument params']) : params = params' := by
  have values := Abi.encode_inj (.cons denotes.typed .nil) (.cons denotes'.typed .nil)
    denotes.length_lt same
  simp only [argument, members, List.cons.injEq, Abi.Value.tuple.injEq,
    Abi.Value.bytes.injEq, Abi.Value.word.injEq, and_true] at values
  obtain ⟨chainId, depository, currency, amount, spenderChainId, spender, receiver, data,
    nonce⟩ := values
  cases params
  cases params'
  simp_all

/-- Every request that fits the texts of the language has texts. -/
theorem exists_denoting (short : ∀ bytes ∈ [params.chainId, params.depository, params.currency,
      params.spenderChainId, params.spender, params.receiver, params.data],
      2 * bytes.length + 2 < 2 ^ 53) : ∃ req : WithdrawRequest, req.Denotes params := by
  have hexShort {data : Bytes} (small : 2 * data.length + 2 < 2 ^ 53) :
      (hexText data).length < 2 ^ 53 := by
    rw [hexText, List.length_cons, List.length_cons, bytesToHex, Text.length_hex]
    exact small
  have number : (Text.decimal params.amount.toNat).length < 2 ^ 53 := by
    have digits : (Text.decimal params.amount.toNat).length ≤ 78 :=
      Text.length_decimal_le (by decide) (Nat.lt_trans params.amount.isLt (by decide))
    omega
  have nonce : (hexText (Abi.word params.nonce)).length < 2 ^ 53 := by
    apply hexShort
    rw [Abi.word, Abi.length_bigEndian]
    decide
  simp only [List.forall_mem_cons] at short
  obtain ⟨chainId, depository, currency, spenderChainId, spender, receiver, data, _⟩ := short
  refine ⟨⟨params.chainId, hexText params.depository, hexText params.currency,
    Text.decimal params.amount.toNat, params.spenderChainId, hexText params.spender,
    hexText params.receiver, hexText params.data, hexText (Abi.word params.nonce), ?_⟩, ?_⟩
  · simp only [List.forall_mem_cons]
    exact ⟨by omega, hexShort depository, hexShort currency, number, by omega, hexShort spender,
      hexShort receiver, hexShort data, nonce, List.forall_mem_nil _⟩
  · exact ⟨rfl, hexToBytes_hexText _, hexToBytes_hexText _, parseQuantity_decimal _, rfl,
      hexToBytes_hexText _, hexToBytes_hexText _, hexToBytes_hexText _, hexToBytes_hexText _⟩

end WithdrawRequest

end LitAllocator

open LitAllocator

/-- The signer hashes every request as the allocator does, and the encoding tells requests
apart. -/
theorem signer_hashes_requests_as_allocator {χ : Type} (env : AllocatorEnv χ) :
    (∀ (req : LitAllocator.WithdrawRequest) (params : WithdrawRequest), req.Denotes params →
      abiEncodeWithdrawRequest req = some (Abi.encode [argument params]) ∧
      computeWithdrawRequestHash env.hub.keccak256 req =
        some (Allocator.withdrawRequestHash env params)) ∧
    (∀ params : WithdrawRequest, (∀ bytes ∈ [params.chainId, params.depository, params.currency,
        params.spenderChainId, params.spender, params.receiver, params.data],
        2 * bytes.length + 2 < 2 ^ 53) →
      ∃ req : LitAllocator.WithdrawRequest, req.Denotes params) ∧
    (∀ (req : LitAllocator.WithdrawRequest) (encoded : Bytes),
      abiEncodeWithdrawRequest req = some encoded → ∃ params, req.Denotes params) ∧
    ∀ (req req' : LitAllocator.WithdrawRequest) (encoded : Bytes),
      abiEncodeWithdrawRequest req = some encoded →
      abiEncodeWithdrawRequest req' = some encoded →
      ∃ params, req.Denotes params ∧ req'.Denotes params := by
  refine ⟨?_, ?_, ?_, ?_⟩
  · intro req params denotes
    refine ⟨denotes.encode, ?_⟩
    rw [computeWithdrawRequestHash, denotes.encode]
    rfl
  · intro params short
    exact WithdrawRequest.exists_denoting short
  · intro req encoded isEncoded
    exact WithdrawRequest.exists_denotes isEncoded
  · intro req req' encoded isEncoded isEncoded'
    obtain ⟨params, denotes⟩ := WithdrawRequest.exists_denotes isEncoded
    obtain ⟨params', denotes'⟩ := WithdrawRequest.exists_denotes isEncoded'
    have same : Abi.encode [argument params] = Abi.encode [argument params'] := by
      rw [denotes.encode] at isEncoded
      rw [denotes'.encode] at isEncoded'
      exact Option.some.inj (isEncoded.trans isEncoded'.symm)
    exact ⟨params, denotes, denotes.inj denotes' same ▸ denotes'⟩

open SampleRequests in
theorem signer_hashes_requests_as_allocator_sample :
    ∃ req : LitAllocator.WithdrawRequest, req.Denotes params ∧
      abiEncodeWithdrawRequest req = some (Abi.encode [argument params]) ∧
      computeWithdrawRequestHash Abi.sampleHash req =
        some (Allocator.withdrawRequestHash surroundings params) := by
  obtain ⟨hashed, written, _⟩ := signer_hashes_requests_as_allocator surroundings
  obtain ⟨req, denotes⟩ := written params (by decide +kernel)
  exact ⟨req, denotes, hashed req params denotes⟩

end RelaySettlement
