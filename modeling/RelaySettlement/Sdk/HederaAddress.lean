import RelaySettlement.Sdk.HederaVm

/-!
# Hedera addresses in the address slot

`encodeHederaAddress` writes an account into the 20 bytes of an order, and
`decodeHederaAddress` reads them.  An entity id is written as twelve zeros and its number, an
alias as itself, and the builder decides on its own which of the two it is given.
-/

open Evm

namespace RelaySettlement

/-- The loop of `hederaEntityIdToEvmAddress`, from the last byte on. -/
def entityNumBytes : ℕ → ℕ → Bytes
  | 0, _ => []
  | count + 1, num => entityNumBytes count (num >>> 8) ++ [UInt8.ofNat (num &&& 0xff)]

theorem entityNumBytes_eq (count num : ℕ) :
    entityNumBytes count num = Abi.bigEndian count num := by
  induction count generalizing num with
  | zero => rfl
  | succ count ih =>
    rw [entityNumBytes, ih, Abi.ofNat_and_ff, Abi.bigEndian_succ, Nat.shiftRight_eq_div_pow]

/-- `hederaEntityIdToEvmAddress`, with `assertZeroShardAndRealm`. -/
def hederaEntityIdToEvmAddress (entityId : HederaEntityId) : Option Bytes :=
  if entityId.shard = 0 ∧ entityId.realm = 0 then
    some (Js.writeHex (List.replicate 12 0 ++ entityNumBytes 8 entityId.num))
  else none

def formatHederaAddress : HederaAddress → Bytes
  | .entityId entityId => formatHederaEntityId entityId
  | .evmAlias address => address

def HederaAddress.encode : HederaAddress → Option Bytes
  | .evmAlias address => Js.readMarked address
  | .entityId id => do Js.readMarked (← hederaEntityIdToEvmAddress id)

def encodeHederaAddress (address : Bytes) : Option Bytes := do
  (← parseHederaAddress address).encode

def decodeHederaAddress (address : Bytes) : Option Bytes :=
  if address.length = 20 then (fromEvmAddressBytes address).map formatHederaAddress else none

/-! ## What 20 bytes denote -/

theorem alias_eq (bytes : Bytes) : Abi.utf8 "0x" ++ Text.hex bytes = Js.writeHex bytes := by
  have mark : Abi.utf8 "0x" = [48, 120] := by decide +kernel
  rw [mark]
  rfl

/-- The address that 20 bytes hold. -/
inductive Denotes : Bytes → HederaAddress → Prop
  | entityId {num : ℕ} (small : num ≤ hederaEntityComponentMax) :
      Denotes (List.replicate 12 0 ++ Abi.bigEndian 8 num) (.entityId ⟨0, 0, num⟩)
  | evmAlias {bytes : Bytes} (length : bytes.length = 20)
      (marked : ¬∀ byte ∈ bytes.take 12, byte = 0) :
      Denotes bytes (.evmAlias (Js.writeHex bytes))

namespace Denotes

variable {bytes bytes' text text' : Bytes} {address address' : HederaAddress}

theorem length (denotes : Denotes bytes address) : bytes.length = 20 := by
  cases denotes with
  | entityId small =>
    rw [List.length_append, List.length_replicate, Abi.length_bigEndian]
  | evmAlias length marked => exact length

theorem read (denotes : Denotes bytes address) : fromEvmAddressBytes bytes = some address := by
  cases denotes with
  | @entityId num small =>
    have bound : num < 256 ^ 8 := Nat.lt_of_le_of_lt small (by decide)
    have front : (List.replicate 12 0 ++ Abi.bigEndian 8 num).take 12 = List.replicate 12 0 :=
      List.take_left' List.length_replicate
    have zeros : ∀ byte ∈ List.replicate 12 (0 : UInt8), byte = 0 :=
      fun _ => List.eq_of_mem_replicate
    rw [fromEvmAddressBytes, front, if_pos zeros, List.drop_left' List.length_replicate,
      Abi.readBigEndian_bigEndian, Nat.mod_eq_of_lt bound]
    exact if_pos small
  | evmAlias length marked => rw [fromEvmAddressBytes, if_neg marked, alias_eq]

theorem of_read (length : bytes.length = 20) (read : fromEvmAddressBytes bytes = some address) :
    Denotes bytes address := by
  rw [fromEvmAddressBytes] at read
  split at read
  · next zeros =>
    obtain ⟨small, rfl⟩ : Abi.readBigEndian (bytes.drop 12) ≤ hederaEntityComponentMax ∧
        HederaAddress.entityId ⟨0, 0, Abi.readBigEndian (bytes.drop 12)⟩ = address := by
      simpa using read
    have front : bytes.take 12 = List.replicate 12 0 :=
      List.eq_replicate_iff.mpr ⟨by rw [List.length_take, length]; rfl, zeros⟩
    have back : Abi.bigEndian 8 (Abi.readBigEndian (bytes.drop 12)) = bytes.drop 12 := by
      have written := Abi.bigEndian_readBigEndian (bytes.drop 12)
      rwa [List.length_drop, length] at written
    have whole := entityId small
    rwa [back, ← front, List.take_append_drop] at whole
  · next marked =>
    rw [alias_eq] at read
    cases Option.some.inj read
    exact evmAlias length marked

theorem encode (denotes : Denotes bytes address) : address.encode = some bytes := by
  cases denotes with
  | entityId small =>
    rw [HederaAddress.encode, hederaEntityIdToEvmAddress, if_pos ⟨rfl, rfl⟩, entityNumBytes_eq]
    exact Js.readMarked_writeHex _
  | evmAlias length marked => exact Js.readMarked_writeHex bytes

/-- The text of an address is read as the address. -/
theorem parse_format (denotes : Denotes bytes address) :
    parseHederaAddress (formatHederaAddress address) = some address := by
  cases denotes with
  | entityId small => exact HederaVmCodec.parseHederaAddress_fromEntityNum small
  | evmAlias length marked =>
    have digits : parseEvmAddressBytes (Js.writeHex bytes) = some bytes := by
      have front : [48, 120] <+: Js.writeHex bytes := ⟨Text.hex bytes, rfl⟩
      rw [parseEvmAddressBytes, if_pos front, readAddressDigits]
      exact (if_pos (by rw [Js.writeHex, List.drop_succ_cons, List.drop_succ_cons, List.drop_zero,
        Text.length_hex, length])).trans (Js.readHex_hex bytes)
    rw [formatHederaAddress, parseHederaAddress, digits]
    exact (evmAlias length marked).read

end Denotes

theorem length_of_readAddressDigits {digits bytes : Bytes}
    (read : readAddressDigits digits = some bytes) : bytes.length = 20 := by
  obtain ⟨length, read⟩ := Option.ite_none_right_eq_some.mp read
  have twice := Js.length_of_readHex read
  omega

/-- A text that is read is 20 bytes in hexadecimal, or an entity id. -/
theorem parseHederaAddress_cases {text : Bytes} {address : HederaAddress}
    (parsed : parseHederaAddress text = some address) :
    (∃ bytes, Denotes bytes address) ∨
      ∃ entityId, parseHederaEntityId text = some entityId ∧ address = .entityId entityId := by
  rw [parseHederaAddress] at parsed
  split at parsed
  · next bytes digits =>
    exact .inl ⟨bytes, .of_read (length_of_readAddressDigits digits) parsed⟩
  · split at parsed
    · next shard realm bytes parts =>
      obtain ⟨_, read⟩ := Option.ite_none_right_eq_some.mp parsed
      rw [parsePrefixedAddress] at parts
      split at parts
      · simp only [bind_eq_some, Option.pure_def, Option.some_inj, Prod.mk.injEq] at parts
        obtain ⟨_, _, _, _, _, digits, _, _, rfl⟩ := parts
        exact .inl ⟨_, .of_read (length_of_readAddressDigits digits) read⟩
      · cases parts
    · obtain ⟨entityId, isId, rfl⟩ := Option.map_eq_some_iff.mp parsed
      exact .inr ⟨entityId, isId, rfl⟩

theorem num_le_of_parseHederaEntityId {text : Bytes} {entityId : HederaEntityId}
    (parsed : parseHederaEntityId text = some entityId) :
    entityId.num ≤ hederaEntityComponentMax := by
  rw [parseHederaEntityId] at parsed
  split at parsed
  · simp only [bind_eq_some, Option.ite_none_right_eq_some, Option.pure_def,
      Option.some_inj] at parsed
    obtain ⟨_, _, _, _, _, _, ⟨_, _, small⟩, rfl⟩ := parsed
    exact small
  · cases parsed

/-- What a text is encoded as denotes what the text is read as. -/
theorem encodeHederaAddress_eq_some_iff {text bytes : Bytes} :
    encodeHederaAddress text = some bytes ↔
      ∃ address, parseHederaAddress text = some address ∧ Denotes bytes address := by
  constructor
  · intro encoded
    obtain ⟨address, parsed, encoded⟩ := bind_eq_some.mp encoded
    refine ⟨address, parsed, ?_⟩
    rcases parseHederaAddress_cases parsed with ⟨bytes', denotes⟩ | ⟨⟨shard, realm, num⟩, isId, rfl⟩
    · cases denotes.encode.symm.trans encoded
      exact denotes
    · -- An id with a shard or a realm is read, but it has no bytes.
      obtain ⟨text', written, read⟩ := bind_eq_some.mp encoded
      obtain ⟨⟨rfl, rfl⟩, _⟩ := Option.ite_none_right_eq_some.mp written
      have denotes := Denotes.entityId (num_le_of_parseHederaEntityId isId)
      cases denotes.encode.symm.trans encoded
      exact denotes
  · rintro ⟨address, parsed, denotes⟩
    exact bind_eq_some.mpr ⟨address, parsed, denotes.encode⟩

theorem decodeHederaAddress_eq_some_iff {bytes text : Bytes} :
    decodeHederaAddress bytes = some text ↔
      ∃ address, Denotes bytes address ∧ formatHederaAddress address = text := by
  rw [decodeHederaAddress, Option.ite_none_right_eq_some, Option.map_eq_some_iff]
  constructor
  · rintro ⟨length, address, read, written⟩
    exact ⟨address, .of_read length read, written⟩
  · rintro ⟨address, denotes, written⟩
    exact ⟨denotes.length, address, denotes.read, written⟩

/-- What is decoded is encoded to the same bytes. -/
theorem encodeHederaAddress_of_decode {bytes text : Bytes}
    (decoded : decodeHederaAddress bytes = some text) :
    encodeHederaAddress text = some bytes := by
  obtain ⟨address, denotes, rfl⟩ := decodeHederaAddress_eq_some_iff.mp decoded
  exact encodeHederaAddress_eq_some_iff.mpr ⟨address, denotes.parse_format, denotes⟩

theorem fromEntityNum_inj {num num' : ℕ}
    (same : HederaVmCodec.fromEntityNum num = HederaVmCodec.fromEntityNum num') : num = num' := by
  have parts := congrArg (List.splitOn 46) same
  rw [HederaVmCodec.splitOn_entityId, HederaVmCodec.splitOn_entityId] at parts
  have decimals : Text.decimal num = Text.decimal num' := by simpa using parts
  have read := congrArg Js.readCanonical decimals
  rwa [Js.readCanonical_decimal, Js.readCanonical_decimal, Option.some_inj] at read

theorem decodeHederaAddress_eq_fromEntityNum_iff {bytes : Bytes} {num : ℕ} :
    decodeHederaAddress bytes = some (HederaVmCodec.fromEntityNum num) ↔
      Denotes bytes (.entityId ⟨0, 0, num⟩) := by
  rw [decodeHederaAddress_eq_some_iff]
  constructor
  · rintro ⟨_, denotes, written⟩
    cases denotes with
    | entityId small =>
      cases fromEntityNum_inj written
      exact .entityId small
    | evmAlias length marked =>
      -- The second character of an alias is an `x`, that of an id a point.
      have second := congrArg (fun text => text[1]?) written
      exact absurd second (by simp [formatHederaAddress, Js.writeHex, HederaVmCodec.fromEntityNum,
        formatHederaEntityId, show Text.decimal 0 = [48] from rfl])
  · intro denotes
    exact ⟨_, denotes, rfl⟩

open HederaVmPayloadBuilder in
/-- The builder reads the numbers of entity ids, and no other addresses. -/
theorem entityNum_eq_ok_iff {bytes : Bytes} {num : BitVec 64} (length : bytes.length = 20) :
    entityNum bytes = .ok num ↔ Denotes bytes (.entityId ⟨0, 0, num.toNat⟩) := by
  have max : maxEntityNum.toNat = hederaEntityComponentMax := by decide
  constructor
  · intro ok
    obtain ⟨isNum, small⟩ := entityNum_ok length ok
    simp only [entityNum, bind_eq_ok, require_eq_ok] at ok
    obtain ⟨_, zeros, _⟩ := ok
    have read : fromEvmAddressBytes bytes = some (.entityId ⟨0, 0, num.toNat⟩) := by
      have isNum := isNum.trans (numOf_eq_of_zeros length zeros)
      rw [longZeroPrefixLength] at zeros isNum
      rw [fromEvmAddressBytes, if_pos zeros, ← isNum]
      exact if_pos (max ▸ small)
    exact .of_read length read
  · intro denotes
    have read := denotes.read
    rw [fromEvmAddressBytes] at read
    split at read
    · next zeros =>
      obtain ⟨small, isNum⟩ : Abi.readBigEndian (bytes.drop 12) ≤ hederaEntityComponentMax ∧
          Abi.readBigEndian (bytes.drop 12) = num.toNat := by simpa using read
      have value : BitVec.ofNat 64 (Abi.readBigEndian bytes) = num := by
        rw [show Abi.readBigEndian bytes = _ from numOf_eq_of_zeros length zeros]
        exact (congrArg (BitVec.ofNat 64) isNum).trans (by simp)
      simp only [entityNum, bind_eq_ok, require_eq_ok, pure_eq_ok, value]
      refine ⟨(), zeros, (), ?_, trivial⟩
      rw [BitVec.le_def, max, ← isNum]
      exact small
    · cases read

/-! ## One identity for an account -/

open HederaVmPayloadBuilder in
/-- Texts are decoded to a canonical text that has the same bytes, and bytes are encoded again
as they were.  Texts have equal bytes when they are read as one address, and the builder reads
the bytes of entity ids as their numbers and refuses all others. -/
theorem hedera_account_has_one_identity :
    (∀ text bytes, encodeHederaAddress text = some bytes → bytes.length = 20 ∧
      ∃ canonical, decodeHederaAddress bytes = some canonical ∧
        encodeHederaAddress canonical = some bytes) ∧
    (∀ bytes text, decodeHederaAddress bytes = some text →
      encodeHederaAddress text = some bytes) ∧
    (∀ text text' bytes bytes', encodeHederaAddress text = some bytes →
      encodeHederaAddress text' = some bytes' →
      (bytes = bytes' ↔ parseHederaAddress text = parseHederaAddress text')) ∧
    ∀ bytes num, decodeHederaAddress bytes = some (HederaVmCodec.fromEntityNum num) ↔
      bytes.length = addressLength ∧
        ∃ entity, entityNum bytes = .ok entity ∧ entity.toNat = num := by
  refine ⟨?_, fun _ _ => encodeHederaAddress_of_decode, ?_, ?_⟩
  · intro text bytes encoded
    obtain ⟨address, parsed, denotes⟩ := encodeHederaAddress_eq_some_iff.mp encoded
    have decoded := decodeHederaAddress_eq_some_iff.mpr ⟨address, denotes, rfl⟩
    exact ⟨denotes.length, _, decoded, encodeHederaAddress_of_decode decoded⟩
  · intro text text' bytes bytes' encoded encoded'
    obtain ⟨address, parsed, denotes⟩ := encodeHederaAddress_eq_some_iff.mp encoded
    obtain ⟨address', parsed', denotes'⟩ := encodeHederaAddress_eq_some_iff.mp encoded'
    rw [parsed, parsed']
    constructor
    · rintro rfl
      exact denotes.read.symm.trans denotes'.read
    · intro same
      cases Option.some.inj same
      exact Option.some.inj (denotes.encode.symm.trans denotes'.encode)
  · intro bytes num
    rw [decodeHederaAddress_eq_fromEntityNum_iff]
    constructor
    · intro denotes
      have small : num ≤ hederaEntityComponentMax := by
        cases denotes
        assumption
      have value : (BitVec.ofNat 64 num).toNat = num :=
        Nat.mod_eq_of_lt (Nat.lt_of_le_of_lt small (by decide))
      refine ⟨denotes.length, BitVec.ofNat 64 num, ?_, value⟩
      rw [entityNum_eq_ok_iff denotes.length, value]
      exact denotes
    · rintro ⟨length, entity, ok, rfl⟩
      exact (entityNum_eq_ok_iff length).mp ok

end RelaySettlement
