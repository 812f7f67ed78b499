import RelaySettlement.Evm.Wire
import RelaySettlement.PayloadBuilder.Deployment

/-!
# HederaVmPayloadBuilder

A withdrawal on Hedera is a transfer of HBAR, or of the one token the builder is deployed for,
from the account of the depository to an account.  The payload is the request, and what is
signed is the transaction body for it, in protocol buffers.  The data of the request names the
account that pays the fee, the node, and when the transaction is valid.
-/

open Evm

namespace RelaySettlement

/-! ## Requests -/

structure HederaTransferRequest where
  payerNum : BitVec 64
  senderNum : BitVec 64
  receiverNum : BitVec 64
  amount : BitVec 64
  tokenNum : BitVec 64
  nodeAccountNum : BitVec 64
  validStartSeconds : BitVec 64
  validStartNanos : BitVec 32
  validDurationSeconds : BitVec 32
  maxTransactionFee : BitVec 64
  deriving DecidableEq

namespace HederaTransferRequest

def type : Abi.Ty :=
  .tuple [.uint 64, .uint 64, .uint 64, .uint 64, .uint 64, .uint 64, .uint 64, .uint 32,
    .uint 32, .uint 64]

def toValue (request : HederaTransferRequest) : Abi.Value :=
  .tuple [.word (request.payerNum.setWidth 256), .word (request.senderNum.setWidth 256),
    .word (request.receiverNum.setWidth 256), .word (request.amount.setWidth 256),
    .word (request.tokenNum.setWidth 256), .word (request.nodeAccountNum.setWidth 256),
    .word (request.validStartSeconds.setWidth 256), .word (request.validStartNanos.setWidth 256),
    .word (request.validDurationSeconds.setWidth 256),
    .word (request.maxTransactionFee.setWidth 256)]

def ofValue : Abi.Value → Option HederaTransferRequest
  | .tuple [.word payerNum, .word senderNum, .word receiverNum, .word amount, .word tokenNum,
      .word nodeAccountNum, .word validStartSeconds, .word validStartNanos,
      .word validDurationSeconds, .word maxTransactionFee] =>
      some ⟨payerNum.setWidth 64, senderNum.setWidth 64, receiverNum.setWidth 64,
        amount.setWidth 64, tokenNum.setWidth 64, nodeAccountNum.setWidth 64,
        validStartSeconds.setWidth 64, validStartNanos.setWidth 32,
        validDurationSeconds.setWidth 32, maxTransactionFee.setWidth 64⟩
  | _ => none

theorem ofValue_toValue (request : HederaTransferRequest) :
    ofValue request.toValue = some request := by
  cases request
  simp [toValue, ofValue]

theorem typed (request : HederaTransferRequest) : Abi.HasType request.toValue type := by
  apply Abi.HasType.tuple
  iterate 10 refine .cons (Abi.hasType_widen (by decide) _) ?_
  exact .nil

theorem decodeAs_encode (request : HederaTransferRequest) :
    Abi.decodeAs type ofValue (Abi.encode [request.toValue]) = some request := by
  rw [← request.ofValue_toValue]
  apply Abi.decodeAs_encode_tuple request.typed
  · simp
  · simp [Abi.Value.size_word]

end HederaTransferRequest

/-- The data supplied with a Hedera withdrawal. -/
structure HederaRequestData where
  payerNum : BitVec 64
  nodeAccountNum : BitVec 64
  validStartSeconds : BitVec 64
  validDurationSeconds : BitVec 32
  maxTransactionFee : BitVec 64
  deriving DecidableEq

namespace HederaRequestData

def type : Abi.Ty := .tuple [.uint 64, .uint 64, .uint 64, .uint 32, .uint 64]

def toValue (data : HederaRequestData) : Abi.Value :=
  .tuple [.word (data.payerNum.setWidth 256), .word (data.nodeAccountNum.setWidth 256),
    .word (data.validStartSeconds.setWidth 256), .word (data.validDurationSeconds.setWidth 256),
    .word (data.maxTransactionFee.setWidth 256)]

def ofValue : Abi.Value → Option HederaRequestData
  | .tuple [.word payerNum, .word nodeAccountNum, .word validStartSeconds,
      .word validDurationSeconds, .word maxTransactionFee] =>
      some ⟨payerNum.setWidth 64, nodeAccountNum.setWidth 64, validStartSeconds.setWidth 64,
        validDurationSeconds.setWidth 32, maxTransactionFee.setWidth 64⟩
  | _ => none

end HederaRequestData

/-! ## The builder -/

/-- A deployed builder.  The constructor refuses the number that stands for HBAR. -/
structure HederaVmPayloadBuilder where
  tokenNum : BitVec 64
  tokenNum_ne_zero : tokenNum ≠ 0

namespace HederaVmPayloadBuilder

inductive Error where
  | invalidReceiverLength (length : ℕ)
  | invalidDepositoryLength (length : ℕ)
  | invalidCurrencyLength (length : ℕ)
  | notAnAccountId (address : Bytes)
  | unsupportedCurrency (tokenNum : BitVec 64)
  | invalidAccount (accountNum : BitVec 64)
  | entityNumExceedsMax (num : BitVec 64)
  | receiverIsSender (accountNum : BitVec 64)
  | payerIsSender (accountNum : BitVec 64)
  | invalidAmount (amount : U256)
  | amountExceedsMax (amount maxAmount : U256)
  | feeExceedsMaxFee (fee maxFee : BitVec 64)
  | invalidValidDuration (validDurationSeconds : BitVec 32)
  | invalidValidStartNanos (nanos : BitVec 32)
  | transfersDoNotNetToZero
  | fieldNumberTooLarge (fieldNumber : UInt8)
  | abiDecodingFailed
  deriving DecidableEq

/-- `MAX_TINYBARS`. -/
def maxTinybars : U256 := 5000000000000000000

/-- `MAX_TOKEN_AMOUNT`, the maximum of `int64`. -/
def maxTokenAmount : BitVec 64 := 0x7fffffffffffffff

/-- `MAX_ENTITY_NUM`, the maximum of `int64`. -/
def maxEntityNum : BitVec 64 := 0x7fffffffffffffff

/-- `MAX_FEE`. -/
def maxFee : BitVec 64 := 100000000

/-- `MAX_VALID_DURATION_SECONDS`. -/
def maxValidDurationSeconds : BitVec 32 := 180

/-- `NANOS_PER_SECOND`. -/
def nanosPerSecond : BitVec 32 := 1000000000

/-- `ADDRESS_LENGTH`. -/
def addressLength : ℕ := 20

/-- `LONG_ZERO_PREFIX_LENGTH`. -/
def longZeroPrefixLength : ℕ := 12

end HederaVmPayloadBuilder

/-! ## The writer of protocol buffers -/

namespace Protobuf

open HederaVmPayloadBuilder

/-- `WIRE_VARINT`. -/
def wireVarint : UInt8 := 0

/-- `WIRE_LENGTH_DELIMITED`. -/
def wireLengthDelimited : UInt8 := 2

/-- `MAX_SINGLE_BYTE_FIELD_NUMBER`. -/
def maxSingleByteFieldNumber : UInt8 := 15

def tag (fieldNumber wireType : UInt8) : Except Error UInt8 := do
  require (fieldNumber ≤ maxSingleByteFieldNumber) (.fieldNumberTooLarge fieldNumber)
  return (fieldNumber <<< 3) ||| wireType

/-- The loop of `varint`, into a buffer with `room` left. -/
def varintLoop : ℕ → BitVec 64 → Bytes
  | 0, _ => []
  | room + 1, value =>
      if 0x80 ≤ value then
        (UInt8.ofBitVec ((value &&& 0x7f).setWidth 8) ||| 0x80) :: varintLoop room (value >>> 7)
      else [UInt8.ofBitVec (value.setWidth 8)]

def varint (value : BitVec 64) : Bytes := varintLoop 10 value

def zigzag (value : BitVec 64) : BitVec 64 := (value <<< 1) ^^^ value.sshiftRight 63

def varintField (fieldNumber : UInt8) (value : BitVec 64) : Except Error Bytes := do
  let tag ← tag fieldNumber wireVarint
  return [tag] ++ varint value

def sint64Field (fieldNumber : UInt8) (value : BitVec 64) : Except Error Bytes :=
  varintField fieldNumber (zigzag value)

def embedded (fieldNumber : UInt8) (message : Bytes) : Except Error Bytes := do
  let tag ← tag fieldNumber wireLengthDelimited
  return [tag] ++ varint (BitVec.ofNat 64 message.length) ++ message

end Protobuf

/-! ## The transaction body -/

namespace HederaVmPayloadBuilder

/-- `_entity`, an `AccountID` or a `TokenID`: shard, realm and number. -/
def entity (num : BitVec 64) : Except Error Bytes := do
  require (num ≤ maxEntityNum) (.entityNumExceedsMax num)
  let shard ← Protobuf.varintField 1 0
  let realm ← Protobuf.varintField 2 0
  let num ← Protobuf.varintField 3 num
  return shard ++ realm ++ num

/-- `_transactionId`: the valid start, the account, and that it is not scheduled. -/
def transactionId (payerNum validStartSeconds : BitVec 64) (validStartNanos : BitVec 32) :
    Except Error Bytes := do
  require (validStartNanos < nanosPerSecond) (.invalidValidStartNanos validStartNanos)
  let seconds ← Protobuf.varintField 1 validStartSeconds
  let nanos ← Protobuf.varintField 2 (validStartNanos.setWidth 64)
  let validStart ← Protobuf.embedded 1 (seconds ++ nanos)
  let payer ← entity payerNum
  let accountId ← Protobuf.embedded 2 payer
  let scheduled ← Protobuf.varintField 3 0
  return validStart ++ accountId ++ scheduled

/-- `_accountAmount`: the account, the amount, and that it is no approval. -/
def accountAmount (accountNum amount : BitVec 64) : Except Error Bytes := do
  let account ← entity accountNum
  let accountId ← Protobuf.embedded 1 account
  let amount ← Protobuf.sint64Field 2 amount
  let isApproval ← Protobuf.varintField 3 0
  return accountId ++ amount ++ isApproval

/-- `_transferEntries`, ordered by the numbers of the accounts. -/
def transferEntries (request : HederaTransferRequest) (fieldNumber : UInt8) :
    Except Error Bytes := do
  require (request.amount ≠ 0 ∧ request.amount ≤ maxTokenAmount)
    (.invalidAmount (request.amount.setWidth 256))
  let debit := -request.amount
  let credit := request.amount
  require (debit + credit = 0) .transfersDoNotNetToZero
  let sender ← accountAmount request.senderNum debit
  let senderEntry ← Protobuf.embedded fieldNumber sender
  let receiver ← accountAmount request.receiverNum credit
  let receiverEntry ← Protobuf.embedded fieldNumber receiver
  return if request.senderNum < request.receiverNum then senderEntry ++ receiverEntry
    else receiverEntry ++ senderEntry

/-- `_cryptoTransfer`: a list of transfers of HBAR, or one of transfers of the token behind an
empty one. -/
def cryptoTransfer (request : HederaTransferRequest) : Except Error Bytes := do
  let entries ← transferEntries request (if request.tokenNum = 0 then 1 else 2)
  if request.tokenNum = 0 then Protobuf.embedded 1 entries
  else
    let noTransfers ← Protobuf.embedded 1 []
    let num ← entity request.tokenNum
    let token ← Protobuf.embedded 1 num
    let tokenTransfers ← Protobuf.embedded 2 (token ++ entries)
    return noTransfers ++ tokenTransfers

def transactionBody (request : HederaTransferRequest) : Except Error Bytes := do
  let id ← transactionId request.payerNum request.validStartSeconds request.validStartNanos
  let id ← Protobuf.embedded 1 id
  let node ← entity request.nodeAccountNum
  let nodeAccountId ← Protobuf.embedded 2 node
  let fee ← Protobuf.varintField 3 request.maxTransactionFee
  let seconds ← Protobuf.varintField 1 (request.validDurationSeconds.setWidth 64)
  let validDuration ← Protobuf.embedded 4 seconds
  let memo ← Protobuf.embedded 6 []
  let transfer ← cryptoTransfer request
  let transfer ← Protobuf.embedded 14 transfer
  return id ++ nodeAccountId ++ fee ++ validDuration ++ memo ++ transfer

/-! ## Building -/

/-- `_entityNum`, the number in a 20-byte address that starts with zeros. -/
def entityNum (address : Bytes) : Except Error (BitVec 64) := do
  require (∀ byte ∈ address.take longZeroPrefixLength, byte = 0) (.notAnAccountId address)
  let num := BitVec.ofNat 64 (Abi.readBigEndian address)
  require (num ≤ maxEntityNum) (.entityNumExceedsMax num)
  return num

variable (keccak256 : Bytes → Bytes32)

/-- `_computeValidStartNanos`. -/
def computeValidStartNanos (params : BuildPayloadParams) : BitVec 32 :=
  (keccak256 (Abi.encode [.word params.nonce, .bytes params.currency, .bytes params.receiver,
    .word params.amount, .bytes params.data]) % nanosPerSecond.setWidth 256).setWidth 32

/-- The checks of the accounts, the currency and the amount. -/
def checkTransfer (builder : HederaVmPayloadBuilder) (senderNum receiverNum tokenNum : BitVec 64)
    (amount : U256) : Except Error Unit := do
  require (tokenNum = 0 ∨ tokenNum = builder.tokenNum) (.unsupportedCurrency tokenNum)
  require (senderNum ≠ 0) (.invalidAccount senderNum)
  require (receiverNum ≠ 0) (.invalidAccount receiverNum)
  require (receiverNum ≠ senderNum) (.receiverIsSender receiverNum)
  require (amount ≠ 0) (.invalidAmount amount)
  let maxAmount := if tokenNum = 0 then maxTinybars else maxTokenAmount.setWidth 256
  require (amount ≤ maxAmount) (.amountExceedsMax amount maxAmount)

/-- The checks of the data.  The valid start is not among them. -/
def checkData (senderNum : BitVec 64) (data : HederaRequestData) : Except Error Unit := do
  require (data.payerNum ≠ 0) (.invalidAccount data.payerNum)
  require (data.payerNum ≠ senderNum) (.payerIsSender data.payerNum)
  require (data.nodeAccountNum ≠ 0) (.invalidAccount data.nodeAccountNum)
  require (data.payerNum ≤ maxEntityNum) (.entityNumExceedsMax data.payerNum)
  require (data.nodeAccountNum ≤ maxEntityNum) (.entityNumExceedsMax data.nodeAccountNum)
  require (data.validDurationSeconds ≠ 0 ∧ data.validDurationSeconds ≤ maxValidDurationSeconds)
    (.invalidValidDuration data.validDurationSeconds)
  require (data.maxTransactionFee ≤ maxFee) (.feeExceedsMaxFee data.maxTransactionFee maxFee)

/-- The request that `buildPayload` encodes. -/
def buildRequest (builder : HederaVmPayloadBuilder) (depository : Bytes)
    (params : BuildPayloadParams) : Except Error HederaTransferRequest := do
  require (depository.length = addressLength) (.invalidDepositoryLength depository.length)
  require (params.receiver.length = addressLength) (.invalidReceiverLength params.receiver.length)
  require (params.currency.length = addressLength) (.invalidCurrencyLength params.currency.length)
  let senderNum ← entityNum depository
  let receiverNum ← entityNum params.receiver
  let tokenNum ← entityNum params.currency
  checkTransfer builder senderNum receiverNum tokenNum params.amount
  let data ← orRevert (Abi.decodeAs HederaRequestData.type HederaRequestData.ofValue params.data)
    .abiDecodingFailed
  checkData senderNum data
  return {
    payerNum := data.payerNum
    senderNum := senderNum
    receiverNum := receiverNum
    amount := params.amount.setWidth 64
    tokenNum := tokenNum
    nodeAccountNum := data.nodeAccountNum
    validStartSeconds := data.validStartSeconds
    validStartNanos := computeValidStartNanos keccak256 params
    validDurationSeconds := data.validDurationSeconds
    maxTransactionFee := data.maxTransactionFee }

def buildPayload (builder : HederaVmPayloadBuilder) (depository : Bytes)
    (params : BuildPayloadParams) : Except Error Bytes := do
  let request ← buildRequest keccak256 builder depository params
  return Abi.encode [request.toValue]

def hashesToSign (payload : Bytes) : Except Error (List Bytes32) := do
  let request ← orRevert
    (Abi.decodeAs HederaTransferRequest.type HederaTransferRequest.ofValue payload)
    .abiDecodingFailed
  let body ← transactionBody request
  return [keccak256 body]

/-- The views of the builder. -/
def views (builder : HederaVmPayloadBuilder) : BuilderViews where
  buildPayload := fun _ _ depository params =>
    (buildPayload keccak256 builder depository params).toOption
  hashesToSign := fun _ _ _ payload => (hashesToSign keccak256 payload).toOption

/-! ## What a built request holds -/

/-- The number of an account or token in its address. -/
def numOf (address : Bytes) : ℕ := Abi.readBigEndian address

/-- A request whose body can be written. -/
structure Writable (request : HederaTransferRequest) : Prop where
  payerNum_le : request.payerNum ≤ maxEntityNum
  senderNum_le : request.senderNum ≤ maxEntityNum
  receiverNum_le : request.receiverNum ≤ maxEntityNum
  amount_ne_zero : request.amount ≠ 0
  amount_le : request.amount ≤ maxTokenAmount
  tokenNum_le : request.tokenNum ≤ maxEntityNum
  nodeAccountNum_le : request.nodeAccountNum ≤ maxEntityNum
  validStartNanos_lt : request.validStartNanos < nanosPerSecond

/-- What `buildPayload` guarantees of the request it encodes. -/
structure Builds (depository : Bytes) (params : BuildPayloadParams) (data : HederaRequestData)
    (request : HederaTransferRequest) : Prop where
  isData : Abi.decodeAs HederaRequestData.type HederaRequestData.ofValue params.data = some data
  payerNum : request.payerNum = data.payerNum
  senderNum : request.senderNum.toNat = numOf depository
  receiverNum : request.receiverNum.toNat = numOf params.receiver
  amount : request.amount.toNat = params.amount.toNat
  tokenNum : request.tokenNum.toNat = numOf params.currency
  nodeAccountNum : request.nodeAccountNum = data.nodeAccountNum
  validStartSeconds : request.validStartSeconds = data.validStartSeconds
  validDurationSeconds : request.validDurationSeconds = data.validDurationSeconds
  maxTransactionFee : request.maxTransactionFee = data.maxTransactionFee
  writable : Writable request

/-- Leading zeros do not count. -/
theorem numOf_eq_of_zeros {address : Bytes} (length : address.length = addressLength)
    (zeros : ∀ byte ∈ address.take longZeroPrefixLength, byte = 0) :
    numOf address = Abi.readBigEndian (address.drop longZeroPrefixLength) := by
  have front : address.take longZeroPrefixLength = List.replicate longZeroPrefixLength 0 := by
    apply List.eq_replicate_iff.mpr
    refine ⟨?_, zeros⟩
    rw [List.length_take, length]
    rfl
  have none : Abi.readBigEndian (List.replicate longZeroPrefixLength 0) = 0 := by decide
  rw [numOf, ← List.take_append_drop longZeroPrefixLength address, Abi.readBigEndian_append,
    front, none, Nat.zero_mul, Nat.zero_add, List.drop_left' List.length_replicate]

/-- An accepted address is the number in it: nothing is cut off. -/
theorem entityNum_ok {address : Bytes} {num : BitVec 64} (length : address.length = addressLength)
    (ok : entityNum address = .ok num) : num.toNat = numOf address ∧ num ≤ maxEntityNum := by
  simp only [entityNum, bind_eq_ok, require_eq_ok, pure_eq_ok] at ok
  obtain ⟨_, zeros, _, small, rfl⟩ := ok
  refine ⟨?_, small⟩
  have bound := Abi.readBigEndian_lt (address.drop longZeroPrefixLength)
  rw [List.length_drop, length, ← numOf_eq_of_zeros length zeros] at bound
  rw [BitVec.toNat_ofNat]
  exact Nat.mod_eq_of_lt bound

theorem computeValidStartNanos_lt (params : BuildPayloadParams) :
    computeValidStartNanos keccak256 params < nanosPerSecond := by
  have second : (nanosPerSecond.setWidth 256 : U256).toNat = 10 ^ 9 := by decide
  rw [computeValidStartNanos, BitVec.lt_def, BitVec.toNat_setWidth, BitVec.toNat_umod, second]
  apply Nat.lt_of_le_of_lt (Nat.mod_le ..)
  exact Nat.mod_lt _ (by decide)

/-- An amount up to `MAX_TOKEN_AMOUNT` keeps its value as a `uint64`. -/
theorem narrow_amount {amount : U256} (small : amount ≤ maxTokenAmount.setWidth 256) :
    (amount.setWidth 64).toNat = amount.toNat ∧ amount.setWidth 64 ≤ maxTokenAmount := by
  have limit : (maxTokenAmount.setWidth 256 : U256).toNat = maxTokenAmount.toNat := by decide
  have bound : amount.toNat ≤ maxTokenAmount.toNat := limit ▸ BitVec.le_def.mp small
  have same : (amount.setWidth 64).toNat = amount.toNat := by
    rw [BitVec.toNat_setWidth]
    exact Nat.mod_eq_of_lt (Nat.lt_of_le_of_lt bound maxTokenAmount.isLt)
  refine ⟨same, BitVec.le_def.mpr ?_⟩
  rw [same]
  exact bound

variable {builder : HederaVmPayloadBuilder}

/-- An accepted amount is one of `int64`. -/
theorem checkTransfer_ok {senderNum receiverNum tokenNum : BitVec 64} {amount : U256}
    (ok : checkTransfer builder senderNum receiverNum tokenNum amount = .ok ()) :
    amount ≠ 0 ∧ amount ≤ maxTokenAmount.setWidth 256 := by
  simp only [checkTransfer, bind_eq_ok, require_eq_ok] at ok
  obtain ⟨_, _, _, _, _, _, _, _, _, positive, small⟩ := ok
  refine ⟨positive, BitVec.le_trans small ?_⟩
  split <;> decide

theorem buildRequest_ok {depository : Bytes} {params : BuildPayloadParams}
    {request : HederaTransferRequest}
    (ok : buildRequest keccak256 builder depository params = .ok request) :
    ∃ data, Builds depository params data request := by
  simp only [buildRequest, checkData, bind_eq_ok, require_eq_ok, orRevert_eq_ok, pure_eq_ok] at ok
  obtain ⟨_, length, _, receiverLength, _, currencyLength, senderNum, isSender, receiverNum,
    isReceiver, tokenNum, isToken, _, checked, data, isData, _,
    ⟨_, _, _, _, _, _, _, payerSmall, _, nodeSmall, _, _, _⟩, rfl⟩ := ok
  obtain ⟨sender, senderSmall⟩ := entityNum_ok length isSender
  obtain ⟨receiver, receiverSmall⟩ := entityNum_ok receiverLength isReceiver
  obtain ⟨token, tokenSmall⟩ := entityNum_ok currencyLength isToken
  obtain ⟨positive, small⟩ := checkTransfer_ok checked
  obtain ⟨amount, amountSmall⟩ := narrow_amount small
  have amountPositive : params.amount.setWidth 64 ≠ 0 := by
    intro zero
    rw [zero] at amount
    exact positive (BitVec.eq_of_toNat_eq amount.symm)
  exact ⟨data, {
    isData := isData
    payerNum := rfl
    senderNum := sender
    receiverNum := receiver
    amount := amount
    tokenNum := token
    nodeAccountNum := rfl
    validStartSeconds := rfl
    validDurationSeconds := rfl
    maxTransactionFee := rfl
    writable := {
      payerNum_le := payerSmall
      senderNum_le := senderSmall
      receiverNum_le := receiverSmall
      amount_ne_zero := amountPositive
      amount_le := amountSmall
      tokenNum_le := tokenSmall
      nodeAccountNum_le := nodeSmall
      validStartNanos_lt := computeValidStartNanos_lt keccak256 params } }⟩

end HederaVmPayloadBuilder

end RelaySettlement
