import RelaySettlement.PayloadBuilder.EthereumVm

/-!
# Payload builders that require prepaid gas

On XRPL and TON the fee of a payout is paid by the depository.  The builders for these
chains, like the one for Circle Gateway, refuse to build a payload for withdraw parameters
that no `WithdrawGasPayer` payment is recorded for.
-/

open Evm

namespace RelaySettlement

/-! ## WithdrawParams and GasPaidPayloadBuilder -/

/-- The parameters of a payout as the allocator passes them to a payload builder. -/
structure WithdrawParams where
  chainId : Bytes
  depository : Bytes
  params : BuildPayloadParams

namespace WithdrawParams

/-- What `WithdrawParams.hash` hashes. -/
def encode (withdraw : WithdrawParams) : Bytes :=
  Abi.encode [.bytes withdraw.chainId, .bytes withdraw.depository, withdraw.params.toValue]

def hash (keccak256 : Bytes → Bytes32) (withdraw : WithdrawParams) : Bytes32 :=
  keccak256 withdraw.encode

end WithdrawParams

/-- `_requireGasPaid` of `GasPaidPayloadBuilder`, for a builder whose error for parameters
that were not paid for is `gasNotPaid`. -/
def GasPaidPayloadBuilder.requireGasPaid {ε : Type} (gasNotPaid : Bytes32 → ε)
    (keccak256 : Bytes → Bytes32) (chain : HubChain) (gasPayer : Address)
    (withdraw : WithdrawParams) : Except ε U256 := do
  let paidAmount := chain.gasPayments gasPayer (withdraw.hash keccak256)
  require (paidAmount ≠ 0) (gasNotPaid (withdraw.hash keccak256))
  return paidAmount

/-! ## XrpVmPayloadBuilder -/

/-- The fields of a native payment; accounts are `bytes20` in the source. -/
structure XrpPaymentRequest where
  account : Address
  destination : Address
  amount : BitVec 64
  fee : BitVec 64
  sequence : BitVec 32
  lastLedgerSequence : BitVec 32
  flags : BitVec 32
  destinationTag : BitVec 32
  hasDestinationTag : Bool
  signingPubKey : Bytes

namespace XrpPaymentRequest

def type : Abi.Ty :=
  .tuple [.uint 256, .uint 256, .uint 64, .uint 64, .uint 32, .uint 32, .uint 32, .uint 32,
    .bool, .bytes]

/-- A `bytes20` stands in the high bytes of its word. -/
def bytes20Word (account : Address) : U256 := account.setWidth 256 <<< 96

def ofBytes20Word (value : U256) : Option Address :=
  if value.setWidth 96 = 0 then some ((value >>> 96).setWidth 160) else none

def toValue (request : XrpPaymentRequest) : Abi.Value :=
  .tuple [.word (bytes20Word request.account), .word (bytes20Word request.destination),
    .word (request.amount.setWidth 256), .word (request.fee.setWidth 256),
    .word (request.sequence.setWidth 256), .word (request.lastLedgerSequence.setWidth 256),
    .word (request.flags.setWidth 256), .word (request.destinationTag.setWidth 256),
    .bool request.hasDestinationTag, .bytes request.signingPubKey]

def ofValue : Abi.Value → Option XrpPaymentRequest
  | .tuple [.word account, .word destination, .word amount, .word fee, .word sequence,
      .word lastLedgerSequence, .word flags, .word destinationTag, .word hasDestinationTag,
      .bytes signingPubKey] => do
      let account ← ofBytes20Word account
      let destination ← ofBytes20Word destination
      return ⟨account, destination, amount.setWidth 64, fee.setWidth 64, sequence.setWidth 32,
        lastLedgerSequence.setWidth 32, flags.setWidth 32, destinationTag.setWidth 32,
        hasDestinationTag != 0, signingPubKey⟩
  | _ => none

end XrpPaymentRequest

/-- The fields the solver supplies. -/
structure XrpRequestData where
  sequence : BitVec 32
  fee : BitVec 64
  lastLedgerSequence : BitVec 32
  flags : BitVec 32
  destinationTag : BitVec 32
  hasDestinationTag : Bool

namespace XrpRequestData

def type : Abi.Ty := .tuple [.uint 32, .uint 64, .uint 32, .uint 32, .uint 32, .bool]

def ofValue : Abi.Value → Option XrpRequestData
  | .tuple [.word sequence, .word fee, .word lastLedgerSequence, .word flags,
      .word destinationTag, .word hasDestinationTag] =>
      some ⟨sequence.setWidth 32, fee.setWidth 64, lastLedgerSequence.setWidth 32,
        flags.setWidth 32, destinationTag.setWidth 32, hasDestinationTag != 0⟩
  | _ => none

end XrpRequestData

/-- A deployed builder: its signing key, which the constructor has checked to be compressed,
and its `GAS_PAYER`. -/
structure XrpVmPayloadBuilder where
  signingPubKeyPrefix : BitVec 8
  signingPubKeyBody : Bytes32
  gasPayer : Address
  compressed : signingPubKeyPrefix = 2 ∨ signingPubKeyPrefix = 3

namespace XrpVmPayloadBuilder

inductive Error where
  | gasNotPaid (withdrawParamsHash : Bytes32)
  | invalidReceiverLength (length : ℕ)
  | invalidDepositoryLength (length : ℕ)
  | invalidCurrencyLength (length : ℕ)
  | unsupportedCurrency
  | amountExceedsMaxDrops (amount : U256)
  | feeExceedsMaxFee (fee maxFee : BitVec 64)
  | feeExceedsPaidGas (fee : BitVec 64) (paidAmount : U256)
  | abiDecodingFailed
  deriving DecidableEq

/-- `MAX_DROPS`. -/
def maxDrops : BitVec 64 := 100000000000000000

/-- `MAX_FEE`. -/
def maxFee : BitVec 64 := 1000000

/-- `ACCOUNT_ID_LENGTH`. -/
def accountIdLength : ℕ := 20

/-- The payment that `buildPayload` encodes. -/
def buildRequest (keccak256 : Bytes → Bytes32) (chain : HubChain)
    (builder : XrpVmPayloadBuilder) (withdraw : WithdrawParams) :
    Except Error XrpPaymentRequest := do
  let depository := withdraw.depository
  let params := withdraw.params
  let paidAmount ← GasPaidPayloadBuilder.requireGasPaid .gasNotPaid keccak256 chain
    builder.gasPayer withdraw
  require (depository.length = accountIdLength) (.invalidDepositoryLength depository.length)
  require (params.receiver.length = accountIdLength)
    (.invalidReceiverLength params.receiver.length)
  require (params.currency.length = accountIdLength)
    (.invalidCurrencyLength params.currency.length)
  require (PayloadBuilder.bytes20 params.currency = 0) .unsupportedCurrency
  require (params.amount ≤ maxDrops.setWidth 256) (.amountExceedsMaxDrops params.amount)
  let data ← orRevert (Abi.decodeAs XrpRequestData.type XrpRequestData.ofValue params.data)
    .abiDecodingFailed
  require (data.fee ≤ maxFee) (.feeExceedsMaxFee data.fee maxFee)
  require (data.fee.setWidth 256 ≤ paidAmount) (.feeExceedsPaidGas data.fee paidAmount)
  return {
    account := PayloadBuilder.bytes20 depository
    destination := PayloadBuilder.bytes20 params.receiver
    amount := params.amount.setWidth 64
    fee := data.fee
    sequence := data.sequence
    lastLedgerSequence := data.lastLedgerSequence
    flags := data.flags
    destinationTag := data.destinationTag
    hasDestinationTag := data.hasDestinationTag
    signingPubKey :=
      Abi.bigEndian 1 builder.signingPubKeyPrefix.toNat ++ Abi.word builder.signingPubKeyBody }

def buildPayload (keccak256 : Bytes → Bytes32) (chain : HubChain)
    (builder : XrpVmPayloadBuilder) (withdraw : WithdrawParams) : Except Error Bytes := do
  let request ← buildRequest keccak256 chain builder withdraw
  return Abi.encode [request.toValue]

end XrpVmPayloadBuilder

/-! ## TonVmPayloadBuilder -/

structure TonTransferRequest where
  receiver : Bytes32
  amount : BitVec 128
  createdAt : BitVec 32
  queryId : BitVec 32
  subwalletId : BitVec 32
  timeout : BitVec 32

def TonTransferRequest.toValue (request : TonTransferRequest) : Abi.Value :=
  .tuple [.word request.receiver, .word (request.amount.setWidth 256),
    .word (request.createdAt.setWidth 256), .word (request.queryId.setWidth 256),
    .word (request.subwalletId.setWidth 256), .word (request.timeout.setWidth 256)]

/-- A deployed builder: its `CONFIG`, the wallet it is bound to, whose timeout the
constructor has checked, and its `GAS_PAYER`. -/
structure TonVmPayloadBuilder where
  config : Address
  subwalletId : BitVec 32
  timeout : BitVec 32
  gasPayer : Address
  timeout_lt : timeout < 1 <<< 22

namespace TonVmPayloadBuilder

inductive Error where
  | gasNotPaid (withdrawParamsHash : Bytes32)
  | configValueNotSet (key : Bytes32)
  | paidGasBelowGasFee (paidAmount gasFee : U256)
  | invalidReceiverLength (length : ℕ)
  | invalidCurrencyLength (length : ℕ)
  | unsupportedCurrency (currency : Bytes32)
  | amountExceedsMaxCoins (amount : U256)
  deriving DecidableEq

/-- `MAX_TON_COINS`. -/
def maxTonCoins : BitVec 128 := (1 <<< 120) - 1

/-- `CURRENCY_LENGTH`. -/
def currencyLength : ℕ := 32

/-- `NATIVE_CURRENCY`. -/
def nativeCurrency : Bytes32 := 0

/-- `QUERY_ID_MASK`. -/
def queryIdMask : BitVec 32 := (1 <<< 23) - 1

/-- `FORBIDDEN_BIT_NUMBER`. -/
def forbiddenBitNumber : BitVec 32 := 1023

variable (keccak256 : Bytes → Bytes32) (chain : HubChain)

def getGasFeeKey (chainId : Bytes) : Bytes32 :=
  keccak256 (Abi.word (keccak256 (Abi.utf8 "TON_VM_GAS_FEE")) ++ Abi.word (keccak256 chainId))

/-- `_computeQueryId`: 23 bits of a hash, of which the low ten are cleared when they are all
set. -/
def computeQueryId (params : BuildPayloadParams) : BitVec 32 :=
  let raw := (keccak256 (Abi.encode [.word chain.blockNumber, .word params.nonce,
    .bytes params.currency, .bytes params.receiver, .bytes params.data,
    .word params.amount])).setWidth 32 &&& queryIdMask
  if raw &&& 0x3FF = forbiddenBitNumber then raw &&& ~~~ 0x3FF else raw

variable (builder : TonVmPayloadBuilder)

/-- The transfer that `buildPayload` encodes. -/
def buildRequest (withdraw : WithdrawParams) : Except Error TonTransferRequest := do
  let params := withdraw.params
  let paidAmount ← GasPaidPayloadBuilder.requireGasPaid .gasNotPaid keccak256 chain
    builder.gasPayer withdraw
  let gasFeeKey := getGasFeeKey keccak256 withdraw.chainId
  let gasFee ← orRevert (chain.configValues builder.config gasFeeKey)
    (.configValueNotSet gasFeeKey)
  require (gasFee ≤ paidAmount) (.paidGasBelowGasFee paidAmount gasFee)
  require (params.receiver.length = 32) (.invalidReceiverLength params.receiver.length)
  require (params.currency.length = currencyLength)
    (.invalidCurrencyLength params.currency.length)
  let currency : Bytes32 := BitVec.ofNat 256 (Abi.readBigEndian params.currency)
  require (currency = nativeCurrency) (.unsupportedCurrency currency)
  require (params.amount ≤ maxTonCoins.setWidth 256) (.amountExceedsMaxCoins params.amount)
  return {
    receiver := BitVec.ofNat 256 (Abi.readBigEndian params.receiver)
    amount := params.amount.setWidth 128
    createdAt := chain.timestamp.setWidth 32
    queryId := computeQueryId keccak256 chain params
    subwalletId := builder.subwalletId
    timeout := builder.timeout }

def buildPayload (withdraw : WithdrawParams) : Except Error Bytes := do
  let request ← buildRequest keccak256 chain builder withdraw
  return Abi.encode [request.toValue]

end TonVmPayloadBuilder

end RelaySettlement
