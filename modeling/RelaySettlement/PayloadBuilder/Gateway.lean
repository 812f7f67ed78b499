import RelaySettlement.PayloadBuilder.GasPaid

/-!
# GatewayVmPayloadBuilder

A Gateway withdrawal has two halves: Circle burns the amount on the source side under a
burn intent, and the depository of the destination chain executes a call request that is
bound to the hash of the intent's transfer spec.  The builder computes both and asks a
destination builder, looked up in its `Config`, for the second.  The destination builders
of this repository are those for EVM chains.
-/

open Evm

namespace RelaySettlement

/-! ## CircleGatewayCodec -/

structure TransferSpec where
  version : BitVec 32
  sourceDomain : BitVec 32
  destinationDomain : BitVec 32
  sourceContract : Bytes32
  destinationContract : Bytes32
  sourceToken : Bytes32
  destinationToken : Bytes32
  sourceDepositor : Bytes32
  destinationRecipient : Bytes32
  sourceSigner : Bytes32
  destinationCaller : Bytes32
  value : U256
  salt : Bytes32
  hookData : Bytes

namespace TransferSpec

def type : Abi.Ty :=
  .tuple ([.uint 32, .uint 32, .uint 32] ++ List.replicate 10 (.uint 256) ++ [.bytes])

def toValue (spec : TransferSpec) : Abi.Value :=
  .tuple [.word (spec.version.setWidth 256), .word (spec.sourceDomain.setWidth 256),
    .word (spec.destinationDomain.setWidth 256), .word spec.sourceContract,
    .word spec.destinationContract, .word spec.sourceToken, .word spec.destinationToken,
    .word spec.sourceDepositor, .word spec.destinationRecipient, .word spec.sourceSigner,
    .word spec.destinationCaller, .word spec.value, .word spec.salt, .bytes spec.hookData]

def ofValue : Abi.Value → Option TransferSpec
  | .tuple [.word version, .word sourceDomain, .word destinationDomain, .word sourceContract,
      .word destinationContract, .word sourceToken, .word destinationToken,
      .word sourceDepositor, .word destinationRecipient, .word sourceSigner,
      .word destinationCaller, .word value, .word salt, .bytes hookData] =>
      some ⟨version.setWidth 32, sourceDomain.setWidth 32, destinationDomain.setWidth 32,
        sourceContract, destinationContract, sourceToken, destinationToken, sourceDepositor,
        destinationRecipient, sourceSigner, destinationCaller, value, salt, hookData⟩
  | _ => none

end TransferSpec

structure BurnIntent where
  maxBlockHeight : U256
  maxFee : U256
  spec : TransferSpec

namespace BurnIntent

def type : Abi.Ty := .tuple [.uint 256, .uint 256, TransferSpec.type]

def toValue (intent : BurnIntent) : Abi.Value :=
  .tuple [.word intent.maxBlockHeight, .word intent.maxFee, intent.spec.toValue]

def ofValue : Abi.Value → Option BurnIntent
  | .tuple [.word maxBlockHeight, .word maxFee, spec] =>
      (TransferSpec.ofValue spec).map fun spec => ⟨maxBlockHeight, maxFee, spec⟩
  | _ => none

end BurnIntent

namespace CircleGatewayCodec

/-- `TRANSFER_SPEC_TYPEHASH`. -/
def transferSpecTypehash : Bytes32 :=
  0x44409c7ba8872720f5fc290d2788c2d70a3905b7ca1cdb2ffa152791a69e089b

/-- `BURN_INTENT_TYPEHASH`. -/
def burnIntentTypehash : Bytes32 :=
  0x8b99d17a83a2dd1add9fc2a450e22732c7e8564aa110ab99c20485a7a10ba37c

/-- `GATEWAY_WALLET_DOMAIN_SEPARATOR`. -/
def gatewayWalletDomainSeparator : Bytes32 :=
  0x23a37920eca61226c76d13c4462857a362147e4b18da665dba894fa297ae4f34

def addressToBytes32 (value : Address) : Bytes32 := value.setWidth 256

/-- The packed form of a transfer spec. -/
def packTransferSpec (spec : TransferSpec) : Bytes :=
  (Abi.bigEndian 4 0xca85def7 ++ Abi.bigEndian 4 spec.version.toNat ++
    Abi.bigEndian 4 spec.sourceDomain.toNat ++ Abi.bigEndian 4 spec.destinationDomain.toNat ++
    Abi.word spec.sourceContract ++ Abi.word spec.destinationContract ++
    Abi.word spec.sourceToken ++ Abi.word spec.destinationToken ++
    Abi.word spec.sourceDepositor) ++
  (Abi.word spec.destinationRecipient ++ Abi.word spec.sourceSigner ++
    Abi.word spec.destinationCaller ++ Abi.word spec.value ++ Abi.word spec.salt ++
    Abi.bigEndian 4 spec.hookData.length ++ spec.hookData)

def encodeTransferSpec (spec : TransferSpec) : Except PayloadBuilder.Error Bytes := do
  require (spec.hookData.length < 2 ^ 32) (.hookDataTooLong spec.hookData.length)
  return packTransferSpec spec

variable (keccak256 : Bytes → Bytes32)

def hashTransferSpec (spec : TransferSpec) : Except PayloadBuilder.Error Bytes32 := do
  let encoded ← encodeTransferSpec spec
  return keccak256 encoded

/-- What `hashTransferSpecTypedData` hashes. -/
def encodeTransferSpecTypedData (spec : TransferSpec) : Bytes :=
  Abi.encode [
    .word transferSpecTypehash, .word (spec.version.setWidth 256),
    .word (spec.sourceDomain.setWidth 256), .word (spec.destinationDomain.setWidth 256),
    .word spec.sourceContract, .word spec.destinationContract, .word spec.sourceToken,
    .word spec.destinationToken] ++
  Abi.encode [
    .word spec.sourceDepositor, .word spec.destinationRecipient, .word spec.sourceSigner,
    .word spec.destinationCaller, .word spec.value, .word spec.salt,
    .word (keccak256 spec.hookData)]

/-- What `hashBurnIntentTypedData` hashes. -/
def encodeBurnIntentTypedData (intent : BurnIntent) : Bytes :=
  Abi.encode [
    .word burnIntentTypehash, .word intent.maxBlockHeight, .word intent.maxFee,
    .word (keccak256 (encodeTransferSpecTypedData keccak256 intent.spec))]

def hashBurnIntent (intent : BurnIntent) : Bytes32 :=
  Abi.hashTypedData keccak256 gatewayWalletDomainSeparator
    (keccak256 (encodeBurnIntentTypedData keccak256 intent))

end CircleGatewayCodec

/-! ## The builder -/

/-- The data supplied with a Gateway withdrawal. -/
structure GatewayVmPayloadData where
  allocator : Address
  destinationChainId : Bytes
  maxBlockHeight : U256
  destinationData : Bytes

namespace GatewayVmPayloadData

def type : Abi.Ty := .tuple [.address, .bytes, .uint 256, .bytes]

def ofValue : Abi.Value → Option GatewayVmPayloadData
  | .tuple [.word allocator, .bytes destinationChainId, .word maxBlockHeight,
      .bytes destinationData] =>
      some ⟨allocator.setWidth 160, destinationChainId, maxBlockHeight, destinationData⟩
  | _ => none

end GatewayVmPayloadData

structure GatewayVmPayload where
  destinationChainId : Bytes
  executionPayload : Bytes
  burnIntent : BurnIntent

namespace GatewayVmPayload

def type : Abi.Ty := .tuple [.bytes, .bytes, BurnIntent.type]

def toValue (payload : GatewayVmPayload) : Abi.Value :=
  .tuple [.bytes payload.destinationChainId, .bytes payload.executionPayload,
    payload.burnIntent.toValue]

def ofValue : Abi.Value → Option GatewayVmPayload
  | .tuple [.bytes destinationChainId, .bytes executionPayload, burnIntent] =>
      (BurnIntent.ofValue burnIntent).map fun burnIntent =>
        ⟨destinationChainId, executionPayload, burnIntent⟩
  | _ => none

end GatewayVmPayload

structure GatewayVmRoutingData where
  sourceDomain : BitVec 32
  destinationDomain : BitVec 32
  destinationDepository : Bytes32
  destinationBuilder : Address

/-- A deployed builder, its `CONFIG` and its `GAS_PAYER`. -/
structure GatewayVmPayloadBuilder where
  self : Address
  config : Address
  gasPayer : Address

namespace GatewayVmPayloadBuilder

open PayloadBuilder

section Keys

variable (keccak256 : Bytes → Bytes32)

/-- A config key of a chain under the text that names the setting. -/
def chainKey (setting : String) (chainId : Bytes) : Bytes32 :=
  keccak256 (Abi.word (keccak256 (Abi.utf8 setting)) ++ Abi.word (keccak256 chainId))

def getCircleDomainKey : Bytes → Bytes32 := chainKey keccak256 "GATEWAY_VM_CIRCLE_DOMAIN"

def getGasFeeKey : Bytes → Bytes32 := chainKey keccak256 "GATEWAY_VM_GAS_FEE"

def getDomainTokenKey : Bytes → Bytes32 := chainKey keccak256 "GATEWAY_VM_DOMAIN_TOKEN"

def getDestinationBuilderKey : Bytes → Bytes32 :=
  chainKey keccak256 "GATEWAY_VM_DESTINATION_BUILDER"

def getDestinationDepositoryKey : Bytes → Bytes32 :=
  chainKey keccak256 "GATEWAY_VM_DESTINATION_DEPOSITORY"

def getAllocatorAllowedKey (allocator : Address) : Bytes32 :=
  keccak256 (Abi.word (keccak256 (Abi.utf8 "GATEWAY_VM_ALLOCATOR_ALLOWED")) ++
    Abi.bigEndian 20 allocator.toNat)

end Keys

/-- `TRANSFER_FEE_DENOMINATOR`. -/
def transferFeeDenominator : U256 := 20000

/-- `CIRCLE_GATEWAY_TRANSFER_SPEC_VERSION`. -/
def circleGatewayTransferSpecVersion : BitVec 32 := 1

/-- The destination builders, by address. -/
abbrev Destinations := Address → Option GatewayEthereumVmDestinationPayloadBuilder

variable (keccak256 : Bytes → Bytes32) (destinations : Destinations) (chain : HubChain)
variable (builder : GatewayVmPayloadBuilder)

/-- The `Config` of the builder. -/
def values : Bytes32 → Option Bytes32 := chain.configValues builder.config

/-- `_isEnabled`. -/
def isEnabled (key : Bytes32) : Bool :=
  match values chain builder key with
  | some value => value ≠ 0
  | none => false

/-- `_getDestinationBuilder`. -/
def getDestinationBuilder (destinationChainId : Bytes) : Except Error Address := do
  let configuredBuilder ← getConfigValue (values chain builder)
    (getDestinationBuilderKey keccak256 destinationChainId)
  return configuredBuilder.setWidth 160

/-- A call to a destination builder, which reverts where there is none. -/
def destination (address : Address) :
    Except Error GatewayEthereumVmDestinationPayloadBuilder :=
  orRevert (destinations address) (.destinationReverted address)

/-- The fee of `_buildBurnIntent`: half a basis point of the amount, rounded up, when the
domains differ. -/
def burnFee (gasFee : U256) (routing : GatewayVmRoutingData) (amount : U256) :
    Except Error U256 := do
  if routing.sourceDomain = routing.destinationDomain then
    return gasFee
  let maxFee ← checkedAdd .arithmeticPanic gasFee (amount / transferFeeDenominator)
  if amount % transferFeeDenominator = 0 then
    return maxFee
  checkedAdd .arithmeticPanic maxFee 1

/-- `_buildBurnIntent`. -/
def buildBurnIntent (chainId : Bytes) (data : GatewayVmPayloadData)
    (routing : GatewayVmRoutingData) (params : BuildPayloadParams) (salt : Bytes32) :
    Except Error BurnIntent := do
  let gasFee ← getConfigValue (values chain builder) (getGasFeeKey keccak256 chainId)
  let maxFee ← burnFee gasFee routing params.amount
  let _destination ← destination destinations routing.destinationBuilder
  let sourceToken ← getConfigValue (values chain builder) (getDomainTokenKey keccak256 chainId)
  let destinationToken ← getConfigValue (values chain builder)
    (getDomainTokenKey keccak256 data.destinationChainId)
  return {
    maxBlockHeight := data.maxBlockHeight
    maxFee := maxFee
    spec := {
      version := circleGatewayTransferSpecVersion
      sourceDomain := routing.sourceDomain
      destinationDomain := routing.destinationDomain
      sourceContract := GatewayEthereumVmDestinationPayloadBuilder.sourceContract
      destinationContract := GatewayEthereumVmDestinationPayloadBuilder.destinationContract
      sourceToken := sourceToken
      destinationToken := destinationToken
      sourceDepositor := CircleGatewayCodec.addressToBytes32 data.allocator
      destinationRecipient := routing.destinationDepository
      sourceSigner := CircleGatewayCodec.addressToBytes32 data.allocator
      destinationCaller := routing.destinationDepository
      value := params.amount
      salt := salt
      hookData := [] } }

/-- `_buildExecutionPayload`. -/
def buildExecutionPayload (destinationBuilder : Address)
    (transferSpecHash destinationToken : Bytes32) (depository : Bytes)
    (data : GatewayVmPayloadData) (params : BuildPayloadParams) : Except Error Bytes := do
  let destinationBuilder ← destination destinations destinationBuilder
  let expirationDelay ← destinationBuilder.getExpirationDelay keccak256 chain
  let expiration ← checkedAdd .arithmeticPanic chain.timestamp expirationDelay
  destinationBuilder.buildExecutionPayload keccak256 chain {
    destinationChainId := data.destinationChainId
    transferSpecHash := transferSpecHash
    destinationToken := destinationToken
    depository := depository
    receiver := params.receiver
    amount := params.amount
    nonce := params.nonce
    expiration := expiration
    data := data.destinationData }

/-- What the salt of a transfer spec is the hash of. -/
def encodeSalt (chainId depository : Bytes) (params : BuildPayloadParams) : Bytes :=
  Abi.encode [.address builder.self, .bytes chainId, .bytes depository, params.toValue]

/-- The payload that `buildPayload` encodes. -/
def buildGatewayPayload (chainId depository : Bytes) (params : BuildPayloadParams) :
    Except Error GatewayVmPayload := do
  let paidAmount ← GasPaidPayloadBuilder.requireGasPaid .gasNotPaid keccak256 chain
    builder.gasPayer ⟨chainId, depository, params⟩
  require (params.currency.length = 20) (.invalidCurrencyLength params.currency.length)
  let currency := bytes20 params.currency
  require (currency = 0) (.invalidCurrency currency)
  require (params.amount ≠ 0) .invalidAmount
  let data ← orRevert
    (Abi.decodeAs GatewayVmPayloadData.type GatewayVmPayloadData.ofValue params.data)
    .abiDecodingFailed
  require (data.maxBlockHeight ≠ 0) .invalidMaxBlockHeight
  let sourceDomain ← getConfigValue (values chain builder) (getCircleDomainKey keccak256 chainId)
  let destinationDomain ← getConfigValue (values chain builder)
    (getCircleDomainKey keccak256 data.destinationChainId)
  require (isEnabled chain builder (getAllocatorAllowedKey keccak256 data.allocator) = true)
    (.allocatorNotAllowed data.allocator)
  let destinationBuilder ← getDestinationBuilder keccak256 chain builder data.destinationChainId
  let destinationDepository ← getConfigValue (values chain builder)
    (getDestinationDepositoryKey keccak256 data.destinationChainId)
  let salt := keccak256 (encodeSalt builder chainId depository params)
  let burnIntent ← buildBurnIntent keccak256 destinations chain builder chainId data
    ⟨sourceDomain.setWidth 32, destinationDomain.setWidth 32, destinationDepository,
      destinationBuilder⟩ params salt
  require (burnIntent.maxFee ≤ paidAmount) (.feeExceedsPaidGas burnIntent.maxFee paidAmount)
  let transferSpecHash ← CircleGatewayCodec.hashTransferSpec keccak256 burnIntent.spec
  let executionPayload ← buildExecutionPayload keccak256 destinations chain destinationBuilder
    transferSpecHash burnIntent.spec.destinationToken (Abi.word destinationDepository) data
    params
  return ⟨data.destinationChainId, executionPayload, burnIntent⟩

def buildPayload (chainId depository : Bytes) (params : BuildPayloadParams) :
    Except Error Bytes := do
  let gatewayPayload ← buildGatewayPayload keccak256 destinations chain builder chainId
    depository params
  return Abi.encode [gatewayPayload.toValue]

/-- `hashesToSign`, which ignores its chain and depository. -/
def hashesToSign (payload : Bytes) : Except Error (List Bytes32) := do
  let gatewayPayload ← orRevert
    (Abi.decodeAs GatewayVmPayload.type GatewayVmPayload.ofValue payload) .abiDecodingFailed
  let destinationChainId := gatewayPayload.destinationChainId
  let destinationDepository ← getConfigValue (values chain builder)
    (getDestinationDepositoryKey keccak256 destinationChainId)
  let destinationBuilder ← getDestinationBuilder keccak256 chain builder destinationChainId
  let destinationBuilder ← destination destinations destinationBuilder
  let executionHash ← destinationBuilder.hashExecutionPayload keccak256 chain
    destinationChainId (Abi.word destinationDepository) gatewayPayload.executionPayload
  return [CircleGatewayCodec.hashBurnIntent keccak256 gatewayPayload.burnIntent, executionHash]

end GatewayVmPayloadBuilder

end RelaySettlement
