import RelaySettlement.Evm.Text
import RelaySettlement.PayloadBuilder.Deployment

/-!
# LighterVmPayloadBuilder

A withdrawal on Lighter is a transfer between accounts of the exchange, signed as a text.
The text names the amount, which the hub burns, and a fee in USDC, which the depository pays
on top of it.  The fee is taken from the data of the request as it is.
-/

open Evm

namespace RelaySettlement

/-! ## Payloads -/

structure LighterPayload where
  actionType : BitVec 8
  parameters : Bytes

namespace LighterPayload

def type : Abi.Ty := .tuple [.uint 8, .bytes]

def toValue (payload : LighterPayload) : Abi.Value :=
  .tuple [.word (payload.actionType.setWidth 256), .bytes payload.parameters]

def ofValue : Abi.Value → Option LighterPayload
  | .tuple [.word actionType, .bytes parameters] => some ⟨actionType.setWidth 8, parameters⟩
  | _ => none

end LighterPayload

structure LighterTransferRequest where
  nonce : BitVec 64
  fromAccountIndex : BitVec 64
  fromRouteType : BitVec 64
  apiKeyIndex : BitVec 64
  toAccountIndex : BitVec 64
  toRouteType : BitVec 64
  assetIndex : BitVec 64
  amount : BitVec 64
  usdcFee : BitVec 64
  lighterChainId : BitVec 64
  memo : Bytes32
  deriving DecidableEq

namespace LighterTransferRequest

def type : Abi.Ty := .tuple (List.replicate 10 (.uint 64) ++ [.uint 256])

def toValue (request : LighterTransferRequest) : Abi.Value :=
  .tuple [.word (request.nonce.setWidth 256), .word (request.fromAccountIndex.setWidth 256),
    .word (request.fromRouteType.setWidth 256), .word (request.apiKeyIndex.setWidth 256),
    .word (request.toAccountIndex.setWidth 256), .word (request.toRouteType.setWidth 256),
    .word (request.assetIndex.setWidth 256), .word (request.amount.setWidth 256),
    .word (request.usdcFee.setWidth 256), .word (request.lighterChainId.setWidth 256),
    .word request.memo]

def ofValue : Abi.Value → Option LighterTransferRequest
  | .tuple [.word nonce, .word fromAccountIndex, .word fromRouteType, .word apiKeyIndex,
      .word toAccountIndex, .word toRouteType, .word assetIndex, .word amount, .word usdcFee,
      .word lighterChainId, .word memo] =>
      some ⟨nonce.setWidth 64, fromAccountIndex.setWidth 64, fromRouteType.setWidth 64,
        apiKeyIndex.setWidth 64, toAccountIndex.setWidth 64, toRouteType.setWidth 64,
        assetIndex.setWidth 64, amount.setWidth 64, usdcFee.setWidth 64,
        lighterChainId.setWidth 64, memo⟩
  | _ => none

end LighterTransferRequest

/-- The data supplied with a Lighter withdrawal. -/
structure LighterTransferInput where
  nonce : BitVec 64
  apiKeyIndex : BitVec 64
  usdcFee : BitVec 64

namespace LighterTransferInput

def type : Abi.Ty := .tuple [.uint 64, .uint 64, .uint 64]

def ofValue : Abi.Value → Option LighterTransferInput
  | .tuple [.word nonce, .word apiKeyIndex, .word usdcFee] =>
      some ⟨nonce.setWidth 64, apiKeyIndex.setWidth 64, usdcFee.setWidth 64⟩
  | _ => none

end LighterTransferInput

/-! ## The builder -/

/-- A deployed builder: its `CONFIG`, and the account and chain it transfers from. -/
structure LighterVmPayloadBuilder where
  config : Address
  fromAccountIndex : BitVec 64
  lighterChainId : BitVec 64

namespace LighterVmPayloadBuilder

inductive Error where
  | unsupportedActionType (actionType : BitVec 8)
  | valueExceedsUint64 (value : U256)
  | invalidLength (length : ℕ)
  | configValueNotSet (key : Bytes32)
  | abiDecodingFailed
  deriving DecidableEq

/-- `TRANSFER_ACTION_TYPE`. -/
def transferActionType : BitVec 8 := 0

/-- `_toUint64`. -/
def toUint64 (value : U256) : Except Error (BitVec 64) :=
  safeCast 64 (.valueExceedsUint64 value) value

/-- `_bytesToUint64`. -/
def bytesToUint64 (value : Bytes) : Except Error (BitVec 64) := do
  require (value.length ≤ 32) (.invalidLength value.length)
  toUint64 (value.foldl (fun result byte => result <<< 8 ||| BitVec.ofNat 256 byte.toNat) 0)

/-! The message -/

/-- `_toHex16`. -/
def toHex16 (value : BitVec 64) : Bytes :=
  Abi.utf8 "0x" ++ (List.range 16).map fun i =>
    Text.hexSymbol (value >>> ((15 - i) * 4) &&& 0xf).toNat

/-- `_toHex64`. -/
def toHex64 (value : Bytes32) : Bytes := Text.hex (Abi.word value)

/-- `_buildTransferL1MessageTail`. -/
def buildTransferL1MessageTail (request : LighterTransferRequest) : Bytes :=
  Abi.utf8 "to: " ++ toHex16 request.toAccountIndex ++ Abi.utf8 " (route " ++
    toHex16 request.toRouteType ++ Abi.utf8 ")\n" ++
    Abi.utf8 "asset: " ++ toHex16 request.assetIndex ++ Abi.utf8 "\n" ++
    Abi.utf8 "amount: " ++ toHex16 request.amount ++ Abi.utf8 "\n" ++
    Abi.utf8 "fee: " ++ toHex16 request.usdcFee ++ Abi.utf8 "\n" ++
    Abi.utf8 "chainId: " ++ toHex16 request.lighterChainId ++ Abi.utf8 "\n" ++
    Abi.utf8 "memo: " ++ toHex64 request.memo ++ Abi.utf8 "\n" ++
    Abi.utf8 "Only sign this message for a trusted client!"

def buildTransferL1Message (request : LighterTransferRequest) : Bytes :=
  Abi.utf8 "Transfer\n\n" ++
    Abi.utf8 "nonce: " ++ toHex16 request.nonce ++ Abi.utf8 "\n" ++
    Abi.utf8 "from: " ++ toHex16 request.fromAccountIndex ++ Abi.utf8 " (route " ++
    toHex16 request.fromRouteType ++ Abi.utf8 ")\n" ++
    Abi.utf8 "api key: " ++ toHex16 request.apiKeyIndex ++ Abi.utf8 "\n" ++
    buildTransferL1MessageTail request

variable (keccak256 : Bytes → Bytes32)

/-- `MessageHashUtils.toEthSignedMessageHash`. -/
def toEthSignedMessageHash (message : Bytes) : Bytes32 :=
  keccak256 (Abi.utf8 "\x19Ethereum Signed Message:\n" ++ Text.decimal message.length ++ message)

def hashesToSign (payload : Bytes) : Except Error (List Bytes32) := do
  let decoded ← orRevert (Abi.decodeAs LighterPayload.type LighterPayload.ofValue payload)
    .abiDecodingFailed
  require (decoded.actionType = transferActionType) (.unsupportedActionType decoded.actionType)
  let request ← orRevert
    (Abi.decodeAs LighterTransferRequest.type LighterTransferRequest.ofValue decoded.parameters)
    .abiDecodingFailed
  return [toEthSignedMessageHash keccak256 (buildTransferL1Message request)]

/-! Building -/

def getFromRouteTypeKey : Bytes → Bytes → Bytes32 :=
  PayloadBuilder.currencyKey keccak256 "LIGHTER_VM_FROM_ROUTE_TYPE"

def getToRouteTypeKey : Bytes → Bytes → Bytes32 :=
  PayloadBuilder.currencyKey keccak256 "LIGHTER_VM_TO_ROUTE_TYPE"

def getAssetIndexKey : Bytes → Bytes → Bytes32 :=
  PayloadBuilder.currencyKey keccak256 "LIGHTER_VM_ASSET_INDEX"

variable (chain : HubChain) (builder : LighterVmPayloadBuilder)

/-- `_configValueToUint64` of the value under a key. -/
def configValueToUint64 (key : Bytes32) : Except Error (BitVec 64) := do
  let value ← orRevert (chain.configValues builder.config key) (.configValueNotSet key)
  toUint64 value

/-- The request that `_buildTransferPayload` encodes. -/
def buildTransferRequest (chainId : Bytes) (params : BuildPayloadParams) :
    Except Error LighterTransferRequest := do
  let input ← orRevert
    (Abi.decodeAs LighterTransferInput.type LighterTransferInput.ofValue params.data)
    .abiDecodingFailed
  let fromRouteType ← configValueToUint64 chain builder
    (getFromRouteTypeKey keccak256 chainId params.currency)
  let toRouteType ← configValueToUint64 chain builder
    (getToRouteTypeKey keccak256 chainId params.currency)
  let toAccountIndex ← bytesToUint64 params.receiver
  let assetIndex ← configValueToUint64 chain builder
    (getAssetIndexKey keccak256 chainId params.currency)
  let amount ← toUint64 params.amount
  return {
    nonce := input.nonce
    fromAccountIndex := builder.fromAccountIndex
    fromRouteType := fromRouteType
    apiKeyIndex := input.apiKeyIndex
    toAccountIndex := toAccountIndex
    toRouteType := toRouteType
    assetIndex := assetIndex
    amount := amount
    usdcFee := input.usdcFee
    lighterChainId := builder.lighterChainId
    memo := 0 }

/-- `_buildTransferPayload`, which is all of `buildPayload`. -/
def buildPayload (chainId : Bytes) (params : BuildPayloadParams) : Except Error Bytes := do
  let request ← buildTransferRequest keccak256 chain builder chainId params
  return Abi.encode [LighterPayload.toValue
    ⟨transferActionType, Abi.encode [request.toValue]⟩]

/-- The views of the builder. -/
def views : BuilderViews where
  buildPayload := fun chain chainId _ params =>
    (buildPayload keccak256 chain builder chainId params).toOption
  hashesToSign := fun _ _ _ payload => (hashesToSign keccak256 payload).toOption

end LighterVmPayloadBuilder

/-! ## What is signed -/

namespace LighterTransferRequest

theorem ofValue_toValue (request : LighterTransferRequest) :
    ofValue request.toValue = some request := by
  cases request
  simp [toValue, ofValue]

theorem typed (request : LighterTransferRequest) : Abi.HasType request.toValue type := by
  apply Abi.HasType.tuple
  iterate 10 refine .cons (Abi.hasType_widen (by decide) _) ?_
  exact .cons (Abi.hasType_word _) .nil

theorem length_encode_le (request : LighterTransferRequest) :
    (Abi.encode [request.toValue]).length ≤ 1000 := by
  have size : request.toValue.size ≤ 11 * (32 + 32) := by
    refine Nat.le_trans (Abi.Value.size_tuple_le 32 ?_) (by simp)
    simp [Abi.Value.size_word]
  have length := Abi.length_encode_single_le size
  omega

theorem decodeAs_encode (request : LighterTransferRequest) :
    Abi.decodeAs type ofValue (Abi.encode [request.toValue]) = some request := by
  have length := request.length_encode_le
  rw [Abi.decodeAs_encode request.typed (by rw [Abi.Decoder.limit]; omega), ofValue_toValue]

end LighterTransferRequest

theorem LighterPayload.decodeAs_encode {payload : LighterPayload}
    (short : payload.parameters.length ≤ 1000) :
    Abi.decodeAs type ofValue (Abi.encode [payload.toValue]) = some payload := by
  have typed : Abi.HasType payload.toValue type :=
    .tuple (.cons (Abi.hasType_widen (by decide) _) (.cons (.bytes (by omega)) .nil))
  have parameters := Abi.Value.size_bytes_le payload.parameters
  have back : ofValue payload.toValue = some payload := by
    simp [LighterPayload.toValue, LighterPayload.ofValue]
  rw [← back]
  apply Abi.decodeAs_encode_tuple typed
  · simp
  · simp only [List.forall_mem_cons, Abi.Value.size_word]
    exact ⟨by omega, by omega, List.forall_mem_nil _⟩

namespace LighterVmPayloadBuilder

variable {keccak256 : Bytes → Bytes32} {chain : HubChain} {builder : LighterVmPayloadBuilder}
variable {chainId depository : Bytes} {params : BuildPayloadParams} {payload : Bytes}

/-- The payload of a transfer. -/
def transferPayload (request : LighterTransferRequest) : Bytes :=
  Abi.encode [LighterPayload.toValue ⟨transferActionType, Abi.encode [request.toValue]⟩]

/-- A built transfer is for the amount of the request, with the fee of its data. -/
theorem exists_request
    (built : (builder.views keccak256).buildPayload chain chainId depository params =
      some payload) :
    ∃ request input, payload = transferPayload request ∧
      request.amount.toNat = params.amount.toNat ∧
      Abi.decodeAs LighterTransferInput.type LighterTransferInput.ofValue params.data =
        some input ∧
      request.usdcFee = input.usdcFee := by
  have ok := toOption_eq_some.mp built
  simp only [buildPayload, bind_eq_ok, pure_eq_ok] at ok
  obtain ⟨request, ok, rfl⟩ := ok
  simp only [buildTransferRequest, toUint64, bind_eq_ok, orRevert_eq_ok, pure_eq_ok] at ok
  obtain ⟨input, isInput, _, _, _, _, _, _, _, _, amount, isAmount, rfl⟩ := ok
  exact ⟨_, input, rfl, safeCast_eq_ok.mp isAmount, isInput, rfl⟩

/-- What is signed for the payload of a transfer is its message. -/
theorem hashesToSign_ok {request : LighterTransferRequest} {hashes : List Bytes32}
    (isPayload : payload = transferPayload request)
    (hashed : (builder.views keccak256).hashesToSign chain chainId depository payload =
      some hashes) :
    hashes = [toEthSignedMessageHash keccak256 (buildTransferL1Message request)] := by
  have outer : Abi.decodeAs LighterPayload.type LighterPayload.ofValue payload =
      some ⟨transferActionType, Abi.encode [request.toValue]⟩ := by
    rw [isPayload]
    exact LighterPayload.decodeAs_encode request.length_encode_le
  have inner := request.decodeAs_encode
  have ok := toOption_eq_some.mp hashed
  simpa [hashesToSign, outer, inner, orRevert, ok_bind, require, eq_comm] using ok

end LighterVmPayloadBuilder

open LighterVmPayloadBuilder in
/-- The message that is signed for an accepted request transfers what the hub burns, and
charges the depository the fee that the data of the request names: one within a bound exactly
if the other is. -/
theorem lighter_fee_is_requested {χ : Type} (env : AllocatorEnv χ) (chainOf : χ → HubChain)
    (address : Address) (builder : LighterVmPayloadBuilder)
    (deployed : env.Deployed chainOf address (builder.views env.hub.keccak256))
    (start : AllocatorWorld) (calls : List (AllocatorSystemCall χ))
    (success : Transition AllocatorWorld (AllocatorSystemCall χ)) (ctx : Ctx χ)
    (params : WithdrawRequest)
    (accepted : AllocatorWorld.AcceptedThrough env start calls address success ctx params) :
    let final := run (AllocatorWorld.step env) calls start
    let hash := Allocator.withdrawRequestHash env params
    ∃ request input,
      final.allocator.payloads hash = transferPayload request ∧
      final.allocator.hashesToSign hash 0 =
        toEthSignedMessageHash env.hub.keccak256 (buildTransferL1Message request) ∧
      success.pre.hub.burn ⟨env.self, ctx.timestamp⟩ (Allocator.spenderAlias env params)
        (Allocator.tokenId env params) params.amount = .ok success.post.hub ∧
      request.amount.toNat = params.amount.toNat ∧
      Abi.decodeAs LighterTransferInput.type LighterTransferInput.ofValue params.data =
        some input ∧
      ∀ bound : BitVec 64, request.usdcFee ≤ bound ↔ input.usdcFee ≤ bound := by
  intro final hash
  obtain ⟨hashes, delivers⟩ := accepted.delivers deployed
  obtain ⟨request, input, stored, amount, isInput, fee⟩ := exists_request delivers.built
  cases hashesToSign_ok stored delivers.hashed
  exact ⟨request, input, stored, delivers.hashes 0 _ rfl, delivers.burned, amount, isInput,
    fun bound => by rw [fee]⟩

/-! A transfer of 1 for which the depository pays all it has. -/

namespace SampleTransfer

open SampleAllocator

def builder : LighterVmPayloadBuilder := ⟨21, 7, 304⟩

def views : BuilderViews := builder.views Abi.sampleHash

/-- Every setting is 1. -/
def chain : HubChain := ⟨3, 1000, fun _ _ => some 1, fun _ _ => 0⟩

def params : WithdrawRequest :=
  { SampleRequests.params with
    amount := 1
    data := Abi.encode [.tuple [.word 8, .word 9, .word 0xffffffffffffffff]] }

theorem accepted_params : accepted views [(chain, params)] = [(params, 20)] := by
  decide +kernel

end SampleTransfer

open SampleTransfer SampleAllocator in
theorem lighter_fee_is_requested_sample :
    ∃ request, payloadOf views [(chain, params)] params =
        LighterVmPayloadBuilder.transferPayload request ∧
      request.amount.toNat = 1 := by
  obtain ⟨success, _, _, through⟩ := exists_accepted accepted_params (List.mem_singleton_self _)
  obtain ⟨request, _, stored, _, _, amount, _⟩ := lighter_fee_is_requested (surroundings views)
    id 20 builder (deployed views) start (calls [(chain, params)]) success _ params through
  exact ⟨request, stored, amount⟩

open SampleTransfer SampleAllocator in
/-- No bound on the fee follows from the settings of the builder: with all of them fixed, a
request for 1 unit is accepted whose message names the largest fee there is. -/
theorem lighter_fee_unbounded :
    ∃ success ctx request,
      AllocatorWorld.AcceptedThrough (surroundings views) start (calls [(chain, params)]) 20
        success ctx params ∧
      payloadOf views [(chain, params)] params =
        LighterVmPayloadBuilder.transferPayload request ∧
      (run (AllocatorWorld.step (surroundings views)) (calls [(chain, params)])
        start).allocator.hashesToSign (Allocator.withdrawRequestHash (surroundings views)
          params) 0 =
        LighterVmPayloadBuilder.toEthSignedMessageHash Abi.sampleHash
          (LighterVmPayloadBuilder.buildTransferL1Message request) ∧
      request.amount = 1 ∧
      ∀ bound : BitVec 64, bound < 0xffffffffffffffff → bound < request.usdcFee := by
  obtain ⟨success, _, _, through⟩ := exists_accepted accepted_params (List.mem_singleton_self _)
  obtain ⟨hashes, delivers⟩ := through.delivers (deployed views)
  obtain ⟨request, input, stored, amount, isInput, fee⟩ :=
    LighterVmPayloadBuilder.exists_request delivers.built
  cases LighterVmPayloadBuilder.hashesToSign_ok stored delivers.hashed
  have requested : (Abi.decodeAs LighterTransferInput.type LighterTransferInput.ofValue
      (Allocator.buildParams params).data).map LighterTransferInput.usdcFee =
        some 0xffffffffffffffff := by
    decide +kernel
  rw [isInput] at requested
  refine ⟨success, _, request, through, stored, delivers.hashes 0 _ rfl,
    BitVec.eq_of_toNat_eq amount, ?_⟩
  intro bound below
  rw [fee, Option.some.inj requested]
  exact below

end RelaySettlement
