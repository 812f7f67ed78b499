import RelaySettlement.Js.Text
import RelaySettlement.PayloadBuilder.LighterVm

/-!
# The SDK's Lighter withdrawals

`lighterVmCodec` decodes the payloads of the builder into texts, and
`buildLighterTransferL1Message` writes the message that is signed from those texts, line by
line.  The builder writes the same message from words.

Texts are the byte strings they are encoded as.  A function that throws returns `none`.
-/

open Evm

namespace RelaySettlement

namespace LighterVmCodec

/-! ## The codec -/

structure LighterTransferParams where
  nonce : Bytes
  fromAccountIndex : Bytes
  fromRouteType : Bytes
  apiKeyIndex : Bytes
  toAccountIndex : Bytes
  toRouteType : Bytes
  assetIndex : Bytes
  amount : Bytes
  usdcFee : Bytes
  lighterChainId : Bytes
  memo : Bytes
  deriving DecidableEq

structure Withdrawal where
  actionType : ℕ
  parameters : LighterTransferParams
  deriving DecidableEq

/-- `fromAbi` of `transferCodec`.  The memo loses its `0x`. -/
def fromAbi (request : LighterTransferRequest) : LighterTransferParams where
  nonce := Text.decimal request.nonce.toNat
  fromAccountIndex := Text.decimal request.fromAccountIndex.toNat
  fromRouteType := Text.decimal request.fromRouteType.toNat
  apiKeyIndex := Text.decimal request.apiKeyIndex.toNat
  toAccountIndex := Text.decimal request.toAccountIndex.toNat
  toRouteType := Text.decimal request.toRouteType.toNat
  assetIndex := Text.decimal request.assetIndex.toNat
  amount := Text.decimal request.amount.toNat
  usdcFee := Text.decimal request.usdcFee.toNat
  lighterChainId := Text.decimal request.lighterChainId.toNat
  memo := (Abi.utf8 "0x" ++ Text.hex (Abi.word request.memo)).drop 2

def decode (encodedWithdrawal : Bytes) : Option Withdrawal := do
  let result ← Abi.readAs LighterPayload.type LighterPayload.ofValue encodedWithdrawal
  if result.actionType = 0 then
    let parameters ← Abi.readAs LighterTransferRequest.type LighterTransferRequest.ofValue
      result.parameters
    return ⟨result.actionType.toNat, fromAbi parameters⟩
  else none

/-! ## The message -/

def lighterToHex16 (val : Bytes) : Option Bytes := do
  let value ← Js.bigInt val
  return Abi.utf8 "0x" ++ Js.padStart 16 48 (Js.toString16 value)

def buildLighterTransferL1Message (w : LighterTransferParams) : Option Bytes := do
  let memo := Js.padEnd 64 48 w.memo
  return (Abi.utf8 "\n").intercalate [
    Abi.utf8 "Transfer",
    Abi.utf8 "",
    Abi.utf8 "nonce: " ++ (← lighterToHex16 w.nonce),
    Abi.utf8 "from: " ++ (← lighterToHex16 w.fromAccountIndex) ++ Abi.utf8 " (route " ++
      (← lighterToHex16 w.fromRouteType) ++ Abi.utf8 ")",
    Abi.utf8 "api key: " ++ (← lighterToHex16 w.apiKeyIndex),
    Abi.utf8 "to: " ++ (← lighterToHex16 w.toAccountIndex) ++ Abi.utf8 " (route " ++
      (← lighterToHex16 w.toRouteType) ++ Abi.utf8 ")",
    Abi.utf8 "asset: " ++ (← lighterToHex16 w.assetIndex),
    Abi.utf8 "amount: " ++ (← lighterToHex16 w.amount),
    Abi.utf8 "fee: " ++ (← lighterToHex16 w.usdcFee),
    Abi.utf8 "chainId: " ++ (← lighterToHex16 w.lighterChainId),
    Abi.utf8 "memo: " ++ memo,
    Abi.utf8 "Only sign this message for a trusted client!"]

end LighterVmCodec

/-! ## One message -/

namespace LighterVmPayloadBuilder

/-- The builder writes all sixteen digits of a number. -/
theorem toHex16_eq (value : BitVec 64) :
    toHex16 value = Abi.utf8 "0x" ++ Js.fixedNumeral 16 Text.hexSymbol 16 value.toNat := by
  have digit : ∀ place, (value >>> (place * 4) &&& 0xf).toNat =
      value.toNat / 16 ^ place % 16 := by
    intro place
    have power : 2 ^ (place * 4) = 16 ^ place := by rw [Nat.mul_comm, Nat.pow_mul]
    have low := Nat.and_two_pow_sub_one_eq_mod (value.toNat / 16 ^ place) 4
    rw [BitVec.toNat_and, BitVec.toNat_ushiftRight, Nat.shiftRight_eq_div_pow, power]
    exact low
  rw [toHex16, Js.fixedNumeral_eq_map]
  simp only [digit]

theorem toHex16_inj {value value' : BitVec 64} (same : toHex16 value = toHex16 value') :
    value = value' := by
  rw [toHex16_eq, toHex16_eq] at same
  apply BitVec.eq_of_toNat_eq
  exact Js.fixedNumeral_inj Js.digitValue_hexSymbol (by decide) value.isLt value'.isLt
    (List.append_cancel_left same)

theorem length_toHex16 (value : BitVec 64) : (toHex16 value).length = 18 := by
  have mark : (Abi.utf8 "0x").length = 2 := by decide +kernel
  rw [toHex16_eq, List.length_append, Js.length_fixedNumeral, mark]

theorem toHex64_inj {value value' : Bytes32} (same : toHex64 value = toHex64 value') :
    value = value' := by
  have read := Js.readHex_hex (Abi.word value)
  rw [← toHex64, same, toHex64, Js.readHex_hex] at read
  exact (Abi.word_inj (Option.some.inj read)).symm

theorem length_toHex64 (value : Bytes32) : (toHex64 value).length = 64 := by
  rw [toHex64, Text.length_hex, Abi.word, Abi.length_bigEndian]

/-- What stands in the message, label by label. -/
def parts (request : LighterTransferRequest) : List Bytes :=
  [Abi.utf8 "Transfer\n\n", Abi.utf8 "nonce: ", toHex16 request.nonce, Abi.utf8 "\n",
    Abi.utf8 "from: ", toHex16 request.fromAccountIndex, Abi.utf8 " (route ",
    toHex16 request.fromRouteType, Abi.utf8 ")\n",
    Abi.utf8 "api key: ", toHex16 request.apiKeyIndex, Abi.utf8 "\n",
    Abi.utf8 "to: ", toHex16 request.toAccountIndex, Abi.utf8 " (route ",
    toHex16 request.toRouteType, Abi.utf8 ")\n",
    Abi.utf8 "asset: ", toHex16 request.assetIndex, Abi.utf8 "\n",
    Abi.utf8 "amount: ", toHex16 request.amount, Abi.utf8 "\n",
    Abi.utf8 "fee: ", toHex16 request.usdcFee, Abi.utf8 "\n",
    Abi.utf8 "chainId: ", toHex16 request.lighterChainId, Abi.utf8 "\n",
    Abi.utf8 "memo: ", toHex64 request.memo, Abi.utf8 "\n",
    Abi.utf8 "Only sign this message for a trusted client!"]

theorem buildTransferL1Message_eq (request : LighterTransferRequest) :
    buildTransferL1Message request = (parts request).flatten := by
  unfold buildTransferL1Message buildTransferL1MessageTail parts
  -- What the labels are does not matter, and computing them is slow.
  generalize Abi.utf8 = text
  simp

/-- Every part has the same length in all messages, so a message determines its parts. -/
theorem buildTransferL1Message_inj {request request' : LighterTransferRequest}
    (same : buildTransferL1Message request = buildTransferL1Message request') :
    request = request' := by
  have lengths : (parts request).map List.length = (parts request').map List.length := by
    simp [parts, length_toHex16, length_toHex64]
  rw [buildTransferL1Message_eq, buildTransferL1Message_eq] at same
  have equal := List.eq_iff_flatten_eq.mpr ⟨same, lengths⟩
  simp only [parts, List.cons.injEq, true_and, and_true] at equal
  obtain ⟨nonce, fromAccount, fromRoute, apiKey, toAccount, toRoute, asset, amount, fee, chain,
    memo⟩ := equal
  cases request
  cases request'
  simp only [LighterTransferRequest.mk.injEq]
  exact ⟨toHex16_inj nonce, toHex16_inj fromAccount, toHex16_inj fromRoute, toHex16_inj apiKey,
    toHex16_inj toAccount, toHex16_inj toRoute, toHex16_inj asset, toHex16_inj amount,
    toHex16_inj fee, toHex16_inj chain, toHex64_inj memo⟩

end LighterVmPayloadBuilder

namespace LighterVmCodec

open LighterVmPayloadBuilder

theorem lighterToHex16_decimal (value : BitVec 64) :
    lighterToHex16 (Text.decimal value.toNat) = some (toHex16 value) := by
  have zero : (48 : UInt8) = Text.hexSymbol 0 := by decide +kernel
  have padded : Js.padStart 16 48 (Js.toString16 value.toNat) =
      Js.fixedNumeral 16 Text.hexSymbol 16 value.toNat := by
    rw [zero]
    exact Js.padStart_numeral (by decide) (by decide) value.isLt
  rw [lighterToHex16, Js.bigInt_decimal, some_bind, padded, toHex16_eq]
  rfl

theorem memo_eq (request : LighterTransferRequest) :
    Js.padEnd 64 48 (fromAbi request).memo = toHex64 request.memo := by
  have memo : (fromAbi request).memo = toHex64 request.memo := by
    have mark : (Abi.utf8 "0x").length = 2 := by decide +kernel
    rw [fromAbi, List.drop_left' mark, toHex64]
  rw [memo, Js.padEnd_of_le]
  exact Nat.le_of_eq (length_toHex64 request.memo).symm

/-- The lines of the SDK make up the message of the builder. -/
theorem buildLighterTransferL1Message_eq (request : LighterTransferRequest) :
    buildLighterTransferL1Message (fromAbi request) = some (buildTransferL1Message request) := by
  have first : Abi.utf8 "Transfer\n\n" =
      Abi.utf8 "Transfer" ++ (Abi.utf8 "\n" ++ (Abi.utf8 "" ++ Abi.utf8 "\n")) := by
    decide +kernel
  have closing : Abi.utf8 ")\n" = Abi.utf8 ")" ++ Abi.utf8 "\n" := by decide +kernel
  unfold buildLighterTransferL1Message buildTransferL1Message buildTransferL1MessageTail
  rw [memo_eq]
  revert first closing
  generalize Abi.utf8 = text
  intro first closing
  simp [fromAbi, lighterToHex16_decimal, first, closing]

end LighterVmCodec

/-! ## Built payloads -/

open LighterVmPayloadBuilder in
/-- For a built payload the SDK writes the message that the builder has signed, and messages
are equal for equal requests only. -/
theorem lighter_sdk_writes_message (keccak256 : Bytes → Bytes32) :
    (∀ (chain : HubChain) (builder : LighterVmPayloadBuilder) (chainId : Bytes)
        (params : BuildPayloadParams) (payload : Bytes),
      buildPayload keccak256 chain builder chainId params = .ok payload →
      ∃ (envelope : LighterPayload) (request : LighterTransferRequest)
          (withdrawal : LighterVmCodec.Withdrawal),
        Abi.decodeAs LighterPayload.type LighterPayload.ofValue payload = some envelope ∧
        envelope.actionType = transferActionType ∧
        Abi.decodeAs LighterTransferRequest.type LighterTransferRequest.ofValue
          envelope.parameters = some request ∧
        LighterVmCodec.decode payload = some withdrawal ∧
        LighterVmCodec.buildLighterTransferL1Message withdrawal.parameters =
          some (buildTransferL1Message request)) ∧
    ∀ request request' : LighterTransferRequest,
      buildTransferL1Message request = buildTransferL1Message request' → request = request' := by
  constructor
  · intro chain builder chainId params payload built
    simp only [buildPayload, bind_eq_ok, pure_eq_ok] at built
    obtain ⟨request, _, rfl⟩ := built
    refine ⟨⟨transferActionType, Abi.encode [request.toValue]⟩, request,
      ⟨0, LighterVmCodec.fromAbi request⟩,
      LighterPayload.decodeAs_encode request.length_encode_le, rfl, request.decodeAs_encode, ?_,
      LighterVmCodec.buildLighterTransferL1Message_eq request⟩
    have outer : Abi.readAs LighterPayload.type LighterPayload.ofValue
        (Abi.encode [LighterPayload.toValue ⟨transferActionType, Abi.encode [request.toValue]⟩]) =
          _ := Abi.readAs_of_decodeAs (LighterPayload.decodeAs_encode request.length_encode_le)
    rw [LighterVmCodec.decode, outer, some_bind, if_pos (by decide : transferActionType = 0),
      Abi.readAs_of_decodeAs request.decodeAs_encode]
    rfl
  · intro request request' same
    exact buildTransferL1Message_inj same

open SampleTransfer SampleAllocator LighterVmPayloadBuilder in
theorem lighter_sdk_writes_message_sample :
    ∃ (payload : Bytes) (request : LighterTransferRequest)
        (withdrawal : LighterVmCodec.Withdrawal),
      buildPayload Abi.sampleHash chain builder params.chainId
        ⟨params.currency, params.amount, params.receiver, params.nonce, params.data⟩ =
          .ok payload ∧
      LighterVmCodec.decode payload = some withdrawal ∧
      LighterVmCodec.buildLighterTransferL1Message withdrawal.parameters =
        some (buildTransferL1Message request) := by
  obtain ⟨payload, built⟩ : ∃ payload, buildPayload Abi.sampleHash chain builder
      params.chainId ⟨params.currency, params.amount, params.receiver, params.nonce,
        params.data⟩ = .ok payload := by
    apply exists_ok
    decide +kernel
  obtain ⟨_, request, withdrawal, _, _, _, decodes, writes⟩ :=
    (lighter_sdk_writes_message Abi.sampleHash).1 chain builder params.chainId _
      payload built
  exact ⟨payload, request, withdrawal, built, decodes, writes⟩

end RelaySettlement
