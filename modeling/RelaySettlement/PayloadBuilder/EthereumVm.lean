import RelaySettlement.Allocator.Core
import RelaySettlement.Evm.Codec
import RelaySettlement.Evm.Reader

/-!
# Payload builders for EVM chains

`EthereumVmPayloadBuilder` turns a withdrawal into a call request for the depository of an
EVM chain, and `GatewayEthereumVmDestinationPayloadBuilder` does the same for the part of a
Gateway withdrawal that is executed on an EVM chain.  Both leave the calldata of a routed
call to the executor and only commit to its hash, in a column that the depository's own
request does not have.

The builders are views: they read the block and their `Config`, and change nothing.
-/

open Evm

namespace RelaySettlement

def Utils.buildDomainSeparator (keccak256 : Bytes → Bytes32) (name version : String)
    (chainId : U256) (verifyingContract : Address) : Bytes32 :=
  keccak256 (Abi.encode [
    .word (keccak256 (Abi.utf8
      "EIP712Domain(string name,string version,uint256 chainId,address verifyingContract)")),
    .word (keccak256 (Abi.utf8 name)), .word (keccak256 (Abi.utf8 version)), .word chainId,
    .address verifyingContract])

/-- Byte `i` is `value >> (8 * i)`. -/
def Utils.encodeUint64LE (value : BitVec 64) : Bytes := littleEndian 8 value.toNat

def Utils.encodeUint32LE (value : BitVec 32) : Bytes := littleEndian 4 value.toNat

/-- What builders read of the hub chain: the block, the values that are set in each
`Config` and the payments each `WithdrawGasPayer` has recorded. -/
structure HubChain where
  blockNumber : U256
  timestamp : U256
  configValues : Address → Bytes32 → Option Bytes32
  gasPayments : Address → Bytes32 → U256

def BuildPayloadParams.toValue (params : BuildPayloadParams) : Abi.Value :=
  .tuple [.bytes params.currency, .word params.amount, .bytes params.receiver,
    .word params.nonce, .bytes params.data]

namespace PayloadBuilder

inductive Error where
  | configValueNotSet (key : Bytes32)
  | invalidReceiverLength (length : ℕ)
  | invalidCurrencyLength (length : ℕ)
  | invalidDepositoryLength (length : ℕ)
  | unsupportedRoutedDataVersion (version : BitVec 8)
  | emptyRoutedCallsHash
  | ambiguousCallData
  | routerNotAllowed (router : Address)
  | invalidCurrency (currency : Address)
  | invalidAmount
  | invalidMaxBlockHeight
  | allocatorNotAllowed (allocator : Address)
  | feeExceedsPaidGas (maxFee paidAmount : U256)
  | gasNotPaid (withdrawParamsHash : Bytes32)
  | hookDataTooLong (length : ℕ)
  | destinationReverted (destinationBuilder : Address)
  | abiDecodingFailed
  | arithmeticPanic
  deriving DecidableEq

/-- `Config.getConfigValue`. -/
def getConfigValue (values : Bytes32 → Option Bytes32) (key : Bytes32) :
    Except Error Bytes32 :=
  orRevert (values key) (.configValueNotSet key)

/-- `address(bytes20(data))`: the first 20 bytes, with zeros for those that are missing. -/
def bytes20 (data : Bytes) : Address :=
  BitVec.ofNat 160 (Abi.readBigEndian ((data ++ List.replicate 20 0).take 20))

theorem bigEndian_bytes20 {data : Bytes} (length : data.length = 20) :
    Abi.bigEndian 20 (bytes20 data).toNat = data := by
  have whole : (data ++ List.replicate 20 0).take 20 = data := by
    rw [← length]
    exact List.take_left
  have bound : Abi.readBigEndian data < 2 ^ 160 := by
    have bound := Abi.readBigEndian_lt data
    rwa [length] at bound
  rw [bytes20, whole, BitVec.toNat_ofNat, Nat.mod_eq_of_lt bound, ← length,
    Abi.bigEndian_readBigEndian]

/-! ## Calls -/

/-- A call of a request, with either its calldata or a commitment to it; `target` is the
source's `to`. -/
structure Call where
  target : Address
  data : Bytes
  dataHash : Bytes32
  value : U256
  allowFailure : Bool
  deriving DecidableEq

namespace Call

def type : Abi.Ty := .tuple [.address, .bytes, .uint 256, .uint 256, .bool]

def toValue (call : Call) : Abi.Value :=
  .tuple [.address call.target, .bytes call.data, .word call.dataHash, .word call.value,
    .bool call.allowFailure]

def ofValue : Abi.Value → Option Call
  | .tuple [.word target, .bytes data, .word dataHash, .word value, .word allowFailure] =>
      some ⟨target.setWidth 160, data, dataHash, value, allowFailure != 0⟩
  | _ => none

end Call

section Hashing

variable (keccak256 : Bytes → Bytes32)

/-- `CALL_TYPEHASH`. -/
def callTypehash : Bytes32 :=
  keccak256 (Abi.utf8 "Call(address to,bytes data,uint256 value,bool allowFailure)")

/-- The hash that stands for the calldata of a call. -/
def callDataHash (call : Call) : Except Error Bytes32 :=
  if call.dataHash = 0 then
    return keccak256 call.data
  else do
    require (call.data.length = 0) .ambiguousCallData
    return call.dataHash

/-- What one round of the loop over the calls hashes. -/
def encodeCall (call : Call) (dataHash : Bytes32) : Bytes :=
  Abi.encode [
    .word (callTypehash keccak256), .address call.target, .word dataHash, .word call.value,
    .bool call.allowFailure]

/-- The loop over the calls. -/
def hashCalls : List Call → Except Error (List Bytes32)
  | [] => return []
  | call :: calls => do
      let dataHash ← callDataHash keccak256 call
      let callHashes ← hashCalls calls
      return keccak256 (encodeCall keccak256 call dataHash) :: callHashes

/-- `abi.encodeWithSignature("transfer(address,uint256)", receiver, amount)`. -/
def encodeTransfer (receiver : Address) (amount : U256) : Bytes :=
  Abi.bigEndian 4 ((keccak256 (Abi.utf8 "transfer(address,uint256)")).toNat / 2 ^ 224) ++
    Abi.encode [.address receiver, .word amount]

end Hashing

/-! ## Config keys and routed withdrawals -/

section Routing

variable (keccak256 : Bytes → Bytes32)

def getEvmChainIdKey (chainId : Bytes) : Bytes32 :=
  keccak256 (Abi.word (keccak256 (Abi.utf8 "ETHEREUM_VM_CHAIN_ID")) ++ chainId)

/-- The key of a setting for a currency of a chain, under the text that names the
setting. -/
def currencyKey (setting : String) (chainId currency : Bytes) : Bytes32 :=
  keccak256 (Abi.word (keccak256 (Abi.utf8 setting)) ++ chainId ++ currency)

def getExpirationKey : Bytes32 := keccak256 (Abi.utf8 "ETHEREUM_VM_EXPIRATION")

def getRouterAllowedKey (chainId : Bytes) (depository router : Address) : Bytes32 :=
  keccak256 (Abi.encode [
    .word (keccak256 (Abi.utf8 "ETHEREUM_VM_ROUTER_ALLOWED")), .word (keccak256 chainId),
    .address depository, .address router])

structure RoutedWithdrawalData where
  version : BitVec 8
  router : Address
  dataHash : Bytes32

namespace RoutedWithdrawalData

def type : Abi.Ty := .tuple [.uint 8, .address, .uint 256]

def ofValue : Abi.Value → Option RoutedWithdrawalData
  | .tuple [.word version, .word router, .word dataHash] =>
      some ⟨version.setWidth 8, router.setWidth 160, dataHash⟩
  | _ => none

end RoutedWithdrawalData

/-- `ROUTED_WITHDRAWAL_DATA_VERSION`. -/
def routedWithdrawalDataVersion : BitVec 8 := 1

/-- `_decodeRoutedWithdrawalData` after the check of the depository's length. -/
def decodeRouted (values : Bytes32 → Option Bytes32) (chainId : Bytes) (depository : Address)
    (data : Bytes) : Except Error RoutedWithdrawalData := do
  let routed ← orRevert
    (Abi.decodeAs RoutedWithdrawalData.type RoutedWithdrawalData.ofValue data)
    .abiDecodingFailed
  require (routed.version = routedWithdrawalDataVersion)
    (.unsupportedRoutedDataVersion routed.version)
  require (routed.dataHash ≠ 0 ∧ routed.dataHash ≠ keccak256 []) .emptyRoutedCallsHash
  let allowedValue ← getConfigValue values
    (getRouterAllowedKey keccak256 chainId depository routed.router)
  require (allowedValue = 1) (.routerNotAllowed routed.router)
  return routed

/-- The calls of a request: the transfer, and for routed data the call that commits to the
router's calldata. -/
def withRouted (transfer : Call) (data : Bytes)
    (decode : Bytes → Except Error RoutedWithdrawalData) : Except Error (List Call) :=
  if data.length = 0 then
    return [transfer]
  else do
    let routed ← decode data
    return [transfer, ⟨routed.router, [], routed.dataHash, 0, false⟩]

end Routing

end PayloadBuilder

/-! ## EthereumVmPayloadBuilder -/

/-- A deployed builder and its `CONFIG`. -/
structure EthereumVmPayloadBuilder where
  self : Address
  config : Address

namespace EthereumVmPayloadBuilder

open PayloadBuilder

structure CallRequest where
  calls : List PayloadBuilder.Call
  nonce : U256
  expiration : U256
  deriving DecidableEq

namespace CallRequest

def type : Abi.Ty := .tuple [.array PayloadBuilder.Call.type, .uint 256, .uint 256]

def toValue (request : CallRequest) : Abi.Value :=
  .tuple [.array (request.calls.map PayloadBuilder.Call.toValue), .word request.nonce,
    .word request.expiration]

def ofValue : Abi.Value → Option CallRequest
  | .tuple [.array calls, .word nonce, .word expiration] =>
      (calls.mapM PayloadBuilder.Call.ofValue).map fun calls => ⟨calls, nonce, expiration⟩
  | _ => none

end CallRequest

variable (keccak256 : Bytes → Bytes32) (chain : HubChain) (builder : EthereumVmPayloadBuilder)

/-- The `Config` of the builder. -/
def values : Bytes32 → Option Bytes32 := chain.configValues builder.config

/-- What `computeNonce` hashes. -/
def encodeNonce (chainId depository : Bytes) (params : BuildPayloadParams) : Bytes :=
  Abi.encode [.word chain.blockNumber, .address builder.self, .bytes chainId,
    .bytes depository, params.toValue]

def computeNonce (chainId depository : Bytes) (params : BuildPayloadParams) : U256 :=
  keccak256 (encodeNonce chain builder chainId depository params)

/-- `_transferCall`. -/
def transferCall (currencyAddress receiverAddress : Address) (amount : U256) :
    PayloadBuilder.Call :=
  if currencyAddress = 0 then
    ⟨receiverAddress, [], 0, amount, false⟩
  else
    ⟨currencyAddress, encodeTransfer keccak256 receiverAddress amount, 0, 0, false⟩

/-- `_decodeRoutedWithdrawalData`. -/
def decodeRoutedWithdrawalData (chainId depository data : Bytes) :
    Except Error RoutedWithdrawalData := do
  require (depository.length = 20) (.invalidDepositoryLength depository.length)
  decodeRouted keccak256 (values chain builder) chainId (bytes20 depository) data

/-- The request that `buildPayload` encodes. -/
def buildRequest (chainId depository : Bytes) (params : BuildPayloadParams) :
    Except Error CallRequest := do
  require (params.receiver.length = 20) (.invalidReceiverLength params.receiver.length)
  require (params.currency.length = 20) (.invalidCurrencyLength params.currency.length)
  let expirationDelay ← getConfigValue (values chain builder) (getExpirationKey keccak256)
  let calls ← withRouted
    (transferCall keccak256 (bytes20 params.currency) (bytes20 params.receiver) params.amount)
    params.data (decodeRoutedWithdrawalData keccak256 chain builder chainId depository)
  let expiration ← checkedAdd .arithmeticPanic chain.timestamp expirationDelay
  return ⟨calls, computeNonce keccak256 chain builder chainId depository params, expiration⟩

def buildPayload (chainId depository : Bytes) (params : BuildPayloadParams) :
    Except Error Bytes := do
  let request ← buildRequest keccak256 chain builder chainId depository params
  return Abi.encode [request.toValue]

/-- `CALL_REQUEST_TYPEHASH`. -/
def callRequestTypehash : Bytes32 :=
  keccak256 (Abi.utf8
    "CallRequest(Call[] calls,uint256 nonce,uint256 expiration)Call(address to,bytes data,uint256 value,bool allowFailure)")

/-- What the struct hash of a request is taken of. -/
def encodeCallRequest (request : CallRequest) (callHashes : List Bytes32) : Bytes :=
  Abi.encode [
    .word (callRequestTypehash keccak256), .word (keccak256 (callHashes.flatMap Abi.word)),
    .word request.nonce, .word request.expiration]

def hashCallRequest (request : CallRequest) (domainSeparator : Bytes32) :
    Except Error Bytes32 := do
  let callHashes ← hashCalls keccak256 request.calls
  let structHash := keccak256 (encodeCallRequest keccak256 request callHashes)
  return Abi.hashTypedData keccak256 domainSeparator structHash

def hashesToSign (chainId depository payload : Bytes) : Except Error (List Bytes32) := do
  require (depository.length = 20) (.invalidDepositoryLength depository.length)
  let evmChainId ← getConfigValue (values chain builder) (getEvmChainIdKey keccak256 chainId)
  let domainSeparator := Utils.buildDomainSeparator keccak256 "RelayDepository" "1" evmChainId
    (bytes20 depository)
  let request ← orRevert (Abi.decodeAs CallRequest.type CallRequest.ofValue payload)
    .abiDecodingFailed
  let eip712Hash ← hashCallRequest keccak256 request domainSeparator
  return [eip712Hash]

end EthereumVmPayloadBuilder

/-! ## GatewayEthereumVmDestinationPayloadBuilder -/

structure GatewayExecutionParams where
  destinationChainId : Bytes
  transferSpecHash : Bytes32
  destinationToken : Bytes32
  depository : Bytes
  receiver : Bytes
  amount : U256
  nonce : U256
  expiration : U256
  data : Bytes

def GatewayExecutionParams.toValue (params : GatewayExecutionParams) : Abi.Value :=
  .tuple [.bytes params.destinationChainId, .word params.transferSpecHash,
    .word params.destinationToken, .bytes params.depository, .bytes params.receiver,
    .word params.amount, .word params.nonce, .word params.expiration, .bytes params.data]

/-- A deployed destination builder and its `CONFIG`. -/
structure GatewayEthereumVmDestinationPayloadBuilder where
  self : Address
  config : Address

namespace GatewayEthereumVmDestinationPayloadBuilder

open PayloadBuilder

structure CallRequest where
  transferSpecHash : Bytes32
  calls : List PayloadBuilder.Call
  nonce : U256
  expiration : U256
  deriving DecidableEq

namespace CallRequest

def type : Abi.Ty := .tuple [.uint 256, .array PayloadBuilder.Call.type, .uint 256, .uint 256]

def toValue (request : CallRequest) : Abi.Value :=
  .tuple [.word request.transferSpecHash,
    .array (request.calls.map PayloadBuilder.Call.toValue), .word request.nonce,
    .word request.expiration]

def ofValue : Abi.Value → Option CallRequest
  | .tuple [.word transferSpecHash, .array calls, .word nonce, .word expiration] =>
      (calls.mapM PayloadBuilder.Call.ofValue).map fun calls =>
        ⟨transferSpecHash, calls, nonce, expiration⟩
  | _ => none

end CallRequest

/-- `GATEWAY_WALLET`, which `sourceContract` returns. -/
def sourceContract : Bytes32 := 0x77777777dcc4d5a8b6e418fd04d8997ef11000ee

/-- `GATEWAY_MINTER`, which `destinationContract` returns. -/
def destinationContract : Bytes32 := 0x2222222d7164433c4c09b0b0d809a9b52c04c205

variable (keccak256 : Bytes → Bytes32) (chain : HubChain)
variable (builder : GatewayEthereumVmDestinationPayloadBuilder)

/-- The `Config` of the builder. -/
def values : Bytes32 → Option Bytes32 := chain.configValues builder.config

def getExpirationDelay : Except Error U256 :=
  getConfigValue (values chain builder) (getExpirationKey keccak256)

/-- `_depositoryAddress`. -/
def depositoryAddress (depository : Bytes) : Address :=
  if depository.length = 32 then
    BitVec.ofNat 160 (Abi.readBigEndian depository)
  else
    bytes20 depository

/-- What `_computeNonce` hashes. -/
def encodeNonce (params : GatewayExecutionParams) : Bytes :=
  Abi.encode [.word chain.blockNumber, .address builder.self, params.toValue]

/-- `_computeNonce`. -/
def computeNonce (params : GatewayExecutionParams) : U256 :=
  keccak256 (encodeNonce chain builder params)

/-- `_decodeRoutedWithdrawalData`. -/
def decodeRoutedWithdrawalData (chainId depository data : Bytes) :
    Except Error RoutedWithdrawalData := do
  require (depository.length = 20 ∨ depository.length = 32)
    (.invalidDepositoryLength depository.length)
  decodeRouted keccak256 (values chain builder) chainId (depositoryAddress depository) data

/-- The request that `buildExecutionPayload` encodes. -/
def buildRequest (params : GatewayExecutionParams) : Except Error CallRequest := do
  require (params.receiver.length = 20) (.invalidReceiverLength params.receiver.length)
  let calls ← withRouted
    ⟨params.destinationToken.setWidth 160,
      encodeTransfer keccak256 (bytes20 params.receiver) params.amount, 0, 0, false⟩
    params.data
    (decodeRoutedWithdrawalData keccak256 chain builder params.destinationChainId
      params.depository)
  return ⟨params.transferSpecHash, calls, computeNonce keccak256 chain builder params,
    params.expiration⟩

def buildExecutionPayload (params : GatewayExecutionParams) : Except Error Bytes := do
  let request ← buildRequest keccak256 chain builder params
  return Abi.encode [request.toValue]

/-- `CALL_REQUEST_TYPEHASH`. -/
def callRequestTypehash : Bytes32 :=
  keccak256 (Abi.utf8
    "CallRequest(bytes32 transferSpecHash,Call[] calls,uint256 nonce,uint256 expiration)Call(address to,bytes data,uint256 value,bool allowFailure)")

/-- What the struct hash of a request is taken of. -/
def encodeCallRequest (request : CallRequest) (callHashes : List Bytes32) : Bytes :=
  Abi.encode [
    .word (callRequestTypehash keccak256), .word request.transferSpecHash,
    .word (keccak256 (callHashes.flatMap Abi.word)), .word request.nonce,
    .word request.expiration]

def hashExecutionPayload (destinationChainId depository payload : Bytes) :
    Except Error Bytes32 := do
  let evmChainId ← getConfigValue (values chain builder)
    (getEvmChainIdKey keccak256 destinationChainId)
  let domainSeparator := Utils.buildDomainSeparator keccak256 "RelayGatewayDepository" "1"
    evmChainId (depositoryAddress depository)
  let request ← orRevert (Abi.decodeAs CallRequest.type CallRequest.ofValue payload)
    .abiDecodingFailed
  let callHashes ← hashCalls keccak256 request.calls
  let structHash := keccak256 (encodeCallRequest keccak256 request callHashes)
  return Abi.hashTypedData keccak256 domainSeparator structHash

end GatewayEthereumVmDestinationPayloadBuilder

end RelaySettlement
