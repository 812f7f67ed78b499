import RelaySettlement.PayloadBuilder.HederaVm

/-!
# What a Hedera transaction body means

The messages of a transaction body and how the network reads them.  The body for a built
request reads as the transfer that was requested.  Hedera reads the seconds of the valid start
as a signed number, so this takes a valid start below `2 ^ 63`, which the builder does not ask
for.
-/

open Evm Wire

namespace RelaySettlement

/-! ## Messages

Fields that a reader of the schema knows and that are not listed here do not occur; with one of
them a message is not read. -/

/-- `AccountID` and `TokenID`. -/
structure HederaEntity where
  shardNum : ℤ
  realmNum : ℤ
  num : ℤ
  deriving DecidableEq

/-- `Timestamp`. -/
structure HederaTimestamp where
  seconds : ℤ
  nanos : ℤ
  deriving DecidableEq

/-- `TransactionID`. -/
structure HederaTransactionId where
  transactionValidStart : Option HederaTimestamp
  accountId : Option HederaEntity
  scheduled : Bool
  deriving DecidableEq

/-- `AccountAmount`. -/
structure HederaAccountAmount where
  accountId : Option HederaEntity
  amount : ℤ
  isApproval : Bool
  deriving DecidableEq

/-- `TokenTransferList`. -/
structure HederaTokenTransfers where
  token : Option HederaEntity
  transfers : List HederaAccountAmount
  deriving DecidableEq

/-- `CryptoTransferTransactionBody`. -/
structure HederaCryptoTransfer where
  transfers : Option (List HederaAccountAmount)
  tokenTransfers : List HederaTokenTransfers
  deriving DecidableEq

/-- `TransactionBody`. -/
structure HederaTransactionBody where
  transactionId : Option HederaTransactionId
  nodeAccountId : Option HederaEntity
  transactionFee : ℕ
  transactionValidDuration : Option ℤ
  memo : Bytes
  cryptoTransfer : Option HederaCryptoTransfer
  deriving DecidableEq

/-! Each message is read under the numbers and wire types of its schema. -/

def HederaEntity.parse (data : Bytes) : Option HederaEntity := do
  let fields ← parseAs [(1, 0), (2, 0), (3, 0)] data
  return ⟨int64 (scalar 1 fields), int64 (scalar 2 fields),
    int64 (scalar 3 fields)⟩

def HederaTimestamp.parse (data : Bytes) : Option HederaTimestamp := do
  let fields ← parseAs [(1, 0), (2, 0)] data
  return ⟨int64 (scalar 1 fields), int32 (scalar 2 fields)⟩

def HederaTransactionId.parse (data : Bytes) : Option HederaTransactionId := do
  let fields ← parseAs [(1, 2), (2, 2), (3, 0)] data
  let transactionValidStart ← embedded HederaTimestamp.parse 1 fields
  let accountId ← embedded HederaEntity.parse 2 fields
  return ⟨transactionValidStart, accountId, scalar 3 fields ≠ 0⟩

def HederaAccountAmount.parse (data : Bytes) : Option HederaAccountAmount := do
  let fields ← parseAs [(1, 2), (2, 0), (3, 0)] data
  let accountId ← embedded HederaEntity.parse 1 fields
  return ⟨accountId, sint64 (scalar 2 fields), scalar 3 fields ≠ 0⟩

/-- `TransferList`. -/
def HederaAccountAmount.parseList (data : Bytes) : Option (List HederaAccountAmount) := do
  let fields ← parseAs [(1, 2)] data
  repeated HederaAccountAmount.parse 1 fields

def HederaTokenTransfers.parse (data : Bytes) : Option HederaTokenTransfers := do
  let fields ← parseAs [(1, 2), (2, 2)] data
  let token ← embedded HederaEntity.parse 1 fields
  let transfers ← repeated HederaAccountAmount.parse 2 fields
  return ⟨token, transfers⟩

def HederaCryptoTransfer.parse (data : Bytes) : Option HederaCryptoTransfer := do
  let fields ← parseAs [(1, 2), (2, 2)] data
  let transfers ← embedded HederaAccountAmount.parseList 1 fields
  let tokenTransfers ← repeated HederaTokenTransfers.parse 2 fields
  return ⟨transfers, tokenTransfers⟩

/-- `Duration`. -/
def parseHederaDuration (data : Bytes) : Option ℤ := do
  let fields ← parseAs [(1, 0)] data
  return int64 (scalar 1 fields)

def HederaTransactionBody.parse (data : Bytes) : Option HederaTransactionBody := do
  let fields ← parseAs [(1, 2), (2, 2), (3, 0), (4, 2), (6, 2), (14, 2)] data
  let transactionId ← embedded HederaTransactionId.parse 1 fields
  let nodeAccountId ← embedded HederaEntity.parse 2 fields
  let transactionValidDuration ← embedded parseHederaDuration 4 fields
  let cryptoTransfer ← embedded HederaCryptoTransfer.parse 14 fields
  return ⟨transactionId, nodeAccountId, (scalar 3 fields).toNat, transactionValidDuration,
    text 6 fields, cryptoTransfer⟩

/-! ## The writer writes the wire format -/

namespace Protobuf

theorem varintLoop_eq (room : ℕ) (value : BitVec 64) :
    varintLoop room value = Wire.varint room value.toNat := by
  induction room generalizing value with
  | zero => rfl
  | succ room ih =>
      have compare : 0x80 ≤ value ↔ ¬ value.toNat < 128 := by
        rw [BitVec.le_def, Nat.not_lt]
        rfl
      have rest : (value >>> 7).toNat = value.toNat / 128 := by
        rw [BitVec.toNat_ushiftRight, Nat.shiftRight_eq_div_pow]
      rw [varintLoop, Wire.varint, ih, rest]
      by_cases small : value.toNat < 128
      · rw [if_neg (fun large => compare.mp large small), if_pos small, ← BitVec.ofNat_toNat]
        rfl
      · have low : (value &&& 0x7f).toNat = value.toNat % 128 := by
          rw [BitVec.toNat_and]
          exact Nat.and_two_pow_sub_one_eq_mod value.toNat 7
        have marked : ∀ digit < 128, UInt8.ofNat digit ||| 0x80 = UInt8.ofNat (digit + 128) := by
          decide
        rw [if_pos (compare.mpr small), if_neg small, ← BitVec.ofNat_toNat, low,
          ← marked _ (Nat.mod_lt _ (by decide))]
        rfl

variable {fieldNumber : UInt8}

theorem tag_eq {wireType : UInt8} (small : fieldNumber ≤ maxSingleByteFieldNumber)
    (isType : wireType < 8) :
    tag fieldNumber wireType = .ok (UInt8.ofNat (8 * fieldNumber.toNat + wireType.toNat)) := by
  have tags : ∀ number ≤ 15, ∀ type < 8,
      (UInt8.ofNat number <<< 3) ||| UInt8.ofNat type = UInt8.ofNat (8 * number + type) := by
    decide
  have here := tags fieldNumber.toNat (UInt8.le_iff_toNat_le.mp small) wireType.toNat
    (UInt8.lt_iff_toNat_lt.mp isType)
  rw [UInt8.ofNat_toNat, UInt8.ofNat_toNat] at here
  rw [tag, require_pos small, ok_bind, here]
  rfl

/-- The tag of a small field number takes one byte. -/
theorem singleton_tag {wireType : UInt8} (small : fieldNumber ≤ maxSingleByteFieldNumber)
    (isType : wireType < 8) :
    [UInt8.ofNat (8 * fieldNumber.toNat + wireType.toNat)] =
      Wire.varint 10 (8 * fieldNumber.toNat + wireType.toNat) := by
  have number : fieldNumber.toNat ≤ 15 := UInt8.le_iff_toNat_le.mp small
  have type : wireType.toNat < 8 := UInt8.lt_iff_toNat_lt.mp isType
  rw [Wire.varint_of_lt 9 (by omega)]

theorem varintField_eq (small : fieldNumber ≤ maxSingleByteFieldNumber) (value : BitVec 64) :
    varintField fieldNumber value =
      .ok (Wire.encode [⟨fieldNumber.toNat, .varint value⟩]) := by
  have isType : wireVarint < 8 := by decide
  rw [varintField, tag_eq small isType, ok_bind, singleton_tag small isType, varint, varintLoop_eq,
    Wire.encode_singleton]
  rfl

theorem embedded_eq (small : fieldNumber ≤ maxSingleByteFieldNumber) {message : Bytes}
    (short : message.length < 2 ^ 64) :
    embedded fieldNumber message =
      .ok (Wire.encode [⟨fieldNumber.toNat, .delimited message⟩]) := by
  have isType : wireLengthDelimited < 8 := by decide
  have length : (BitVec.ofNat 64 message.length).toNat = message.length := by
    rw [BitVec.toNat_ofNat]
    exact Nat.mod_eq_of_lt short
  rw [embedded, tag_eq small isType, ok_bind, singleton_tag small isType, varint, varintLoop_eq,
    length, List.append_assoc, Wire.encode_singleton]
  rfl

end Protobuf

/-! ## The fields of a body -/

namespace HederaVmPayloadBuilder

def entityFields (num : BitVec 64) : List Field :=
  [⟨1, .varint 0⟩, ⟨2, .varint 0⟩, ⟨3, .varint num⟩]

theorem entity_eq {num : BitVec 64} (small : num ≤ maxEntityNum) :
    entity num = .ok (encode (entityFields num)) := by
  simp (disch := decide) only [entity, require_pos small, ok_bind, Protobuf.varintField_eq,
    ← encode_append]
  rfl

def validStartFields (seconds : BitVec 64) (nanos : BitVec 32) : List Field :=
  [⟨1, .varint seconds⟩, ⟨2, .varint (nanos.setWidth 64)⟩]

def transactionIdFields (payerNum seconds : BitVec 64) (nanos : BitVec 32) : List Field :=
  [⟨1, .delimited (encode (validStartFields seconds nanos))⟩,
    ⟨2, .delimited (encode (entityFields payerNum))⟩, ⟨3, .varint 0⟩]

def accountAmountFields (accountNum amount : BitVec 64) : List Field :=
  [⟨1, .delimited (encode (entityFields accountNum))⟩,
    ⟨2, .varint (zigzag amount)⟩, ⟨3, .varint 0⟩]

/-- Two entries under a field number, by the numbers of their accounts. -/
def transferEntriesFields (number : ℕ) (request : HederaTransferRequest) : List Field :=
  let senderEntry : Field :=
    ⟨number, .delimited (encode (accountAmountFields request.senderNum (-request.amount)))⟩
  let receiverEntry : Field :=
    ⟨number, .delimited (encode (accountAmountFields request.receiverNum request.amount))⟩
  if request.senderNum < request.receiverNum then [senderEntry, receiverEntry]
  else [receiverEntry, senderEntry]

def tokenTransfersFields (request : HederaTransferRequest) : List Field :=
  ⟨1, .delimited (encode (entityFields request.tokenNum))⟩ :: transferEntriesFields 2 request

def cryptoTransferFields (request : HederaTransferRequest) : List Field :=
  if request.tokenNum = 0 then
    [⟨1, .delimited (encode (transferEntriesFields 1 request))⟩]
  else [⟨1, .delimited []⟩, ⟨2, .delimited (encode (tokenTransfersFields request))⟩]

def transactionBodyFields (request : HederaTransferRequest) : List Field :=
  [⟨1, .delimited (encode (transactionIdFields request.payerNum request.validStartSeconds
      request.validStartNanos))⟩,
    ⟨2, .delimited (encode (entityFields request.nodeAccountNum))⟩,
    ⟨3, .varint request.maxTransactionFee⟩,
    ⟨4, .delimited (encode [⟨1, .varint (request.validDurationSeconds.setWidth 64)⟩])⟩,
    ⟨6, .delimited []⟩, ⟨14, .delimited (encode (cryptoTransferFields request))⟩]

/-! Messages are far from too long for their lengths to be written. -/

theorem length_entityFields (num : BitVec 64) : (encode (entityFields num)).length ≤ 60 :=
  length_encode_le _

theorem length_validStartFields (seconds : BitVec 64) (nanos : BitVec 32) :
    (encode (validStartFields seconds nanos)).length ≤ 40 :=
  length_encode_le _

theorem length_transactionIdFields (payerNum seconds : BitVec 64) (nanos : BitVec 32) :
    (encode (transactionIdFields payerNum seconds nanos)).length ≤ 160 := by
  apply Nat.le_trans (length_encode_le _)
  have payer := length_entityFields payerNum
  have validStart := length_validStartFields seconds nanos
  simp only [transactionIdFields, sizeBound, Value.dataLength]
  omega

theorem length_accountAmountFields (accountNum amount : BitVec 64) :
    (encode (accountAmountFields accountNum amount)).length ≤ 120 := by
  apply Nat.le_trans (length_encode_le _)
  have account := length_entityFields accountNum
  simp only [accountAmountFields, sizeBound, Value.dataLength]
  omega

theorem sizeBound_transferEntriesFields (number : ℕ) (request : HederaTransferRequest) :
    sizeBound (transferEntriesFields number request) ≤ 280 := by
  have sender := length_accountAmountFields request.senderNum (-request.amount)
  have receiver := length_accountAmountFields request.receiverNum request.amount
  rw [transferEntriesFields]
  split
  · simp only [sizeBound, Value.dataLength]
    omega
  · simp only [sizeBound, Value.dataLength]
    omega

theorem length_transferEntriesFields (number : ℕ) (request : HederaTransferRequest) :
    (encode (transferEntriesFields number request)).length ≤ 280 :=
  Nat.le_trans (length_encode_le _) (sizeBound_transferEntriesFields number request)

theorem length_tokenTransfersFields (request : HederaTransferRequest) :
    (encode (tokenTransfersFields request)).length ≤ 360 := by
  apply Nat.le_trans (length_encode_le _)
  have token := length_entityFields request.tokenNum
  have entries := sizeBound_transferEntriesFields 2 request
  simp only [tokenTransfersFields, sizeBound, Value.dataLength]
  omega

theorem length_cryptoTransferFields (request : HederaTransferRequest) :
    (encode (cryptoTransferFields request)).length ≤ 400 := by
  apply Nat.le_trans (length_encode_le _)
  have entries := length_transferEntriesFields 1 request
  have tokenTransfers := length_tokenTransfersFields request
  rw [cryptoTransferFields]
  split
  · simp only [sizeBound, Value.dataLength]
    omega
  · simp only [sizeBound, Value.dataLength, List.length_nil]
    omega

/-! The functions of the builder write these fields. -/

variable {nanos : BitVec 32}

theorem transactionId_eq {payerNum seconds : BitVec 64} (payerSmall : payerNum ≤ maxEntityNum)
    (nanosSmall : nanos < nanosPerSecond) :
    transactionId payerNum seconds nanos =
      .ok (encode (transactionIdFields payerNum seconds nanos)) := by
  have payer := length_entityFields payerNum
  have validStart := length_validStartFields seconds nanos
  have isValidStart : encode [⟨UInt8.toNat 1, .varint seconds⟩] ++
      encode [⟨UInt8.toNat 2, .varint (nanos.setWidth 64)⟩] =
        encode (validStartFields seconds nanos) := (encode_append ..).symm
  simp (disch := first | decide | omega) only [transactionId, require_pos nanosSmall, ok_bind,
    Protobuf.varintField_eq, Protobuf.embedded_eq, entity_eq payerSmall, isValidStart]
  simp only [← encode_append]
  rfl

theorem accountAmount_eq {accountNum : BitVec 64} (small : accountNum ≤ maxEntityNum)
    (amount : BitVec 64) :
    accountAmount accountNum amount =
      .ok (encode (accountAmountFields accountNum amount)) := by
  have account := length_entityFields accountNum
  simp (disch := first | decide | omega) only [accountAmount, Protobuf.sint64Field, ok_bind,
    Protobuf.varintField_eq, Protobuf.embedded_eq, entity_eq small]
  simp only [← encode_append]
  rfl

section Writable

variable {request : HederaTransferRequest} (writable : Writable request)
include writable

theorem transferEntries_eq {fieldNumber : UInt8}
    (small : fieldNumber ≤ Protobuf.maxSingleByteFieldNumber) :
    transferEntries request fieldNumber =
      .ok (encode (transferEntriesFields fieldNumber.toNat request)) := by
  have sender := length_accountAmountFields request.senderNum (-request.amount)
  have receiver := length_accountAmountFields request.receiverNum request.amount
  simp (disch := first | exact small | omega) only [transferEntries,
    require_pos (And.intro writable.amount_ne_zero writable.amount_le),
    require_pos (neg_add_cancel request.amount), accountAmount_eq writable.senderNum_le,
    accountAmount_eq writable.receiverNum_le, Protobuf.embedded_eq, ok_bind, ← encode_append,
    transferEntriesFields]
  split <;> rfl

theorem cryptoTransfer_eq :
    cryptoTransfer request = .ok (encode (cryptoTransferFields request)) := by
  have entries := length_transferEntriesFields (UInt8.toNat 1) request
  have num := length_entityFields request.tokenNum
  have tokenTransfers := length_tokenTransfersFields request
  have isTokenTransfers : encode [⟨UInt8.toNat 1,
      .delimited (encode (entityFields request.tokenNum))⟩] ++
        encode (transferEntriesFields (UInt8.toNat 2) request) =
      encode (tokenTransfersFields request) := (encode_append ..).symm
  rw [cryptoTransfer, cryptoTransferFields]
  split
  · simp (disch := first | decide | omega) only [transferEntries_eq writable, ok_bind,
      Protobuf.embedded_eq]
    rfl
  · simp (disch := first | decide | omega) only [transferEntries_eq writable, ok_bind,
      entity_eq writable.tokenNum_le, Protobuf.embedded_eq, isTokenTransfers, ← encode_append]
    rfl

theorem transactionBody_eq :
    transactionBody request = .ok (encode (transactionBodyFields request)) := by
  have id := length_transactionIdFields request.payerNum request.validStartSeconds
    request.validStartNanos
  have node := length_entityFields request.nodeAccountNum
  have transfer := length_cryptoTransferFields request
  have duration : (encode [⟨UInt8.toNat 1,
      .varint (request.validDurationSeconds.setWidth 64)⟩]).length ≤ 20 := length_encode_le _
  simp (disch := first | decide | omega) only [transactionBody,
    transactionId_eq writable.payerNum_le writable.validStartNanos_lt, ok_bind,
    entity_eq writable.nodeAccountNum_le, Protobuf.varintField_eq, Protobuf.embedded_eq,
    cryptoTransfer_eq writable]
  simp only [← encode_append]
  rfl

end Writable

/-! ## Reading the fields back -/

/-- An entity of shard 0 and realm 0. -/
def entityOf (num : ℤ) : HederaEntity := ⟨0, 0, num⟩

/-- A debit and a credit, by the numbers of the accounts. -/
def entriesOf (sender receiver amount : ℤ) : List HederaAccountAmount :=
  let debit : HederaAccountAmount := ⟨some (entityOf sender), -amount, false⟩
  let credit : HederaAccountAmount := ⟨some (entityOf receiver), amount, false⟩
  if sender < receiver then [debit, credit] else [credit, debit]

/-- A transfer of HBAR, or of a token if its number is not 0. -/
def transferOf (sender receiver token amount : ℤ) : HederaCryptoTransfer :=
  if token = 0 then ⟨some (entriesOf sender receiver amount), []⟩
  else ⟨some [], [⟨some (entityOf token), entriesOf sender receiver amount⟩]⟩

theorem parse_entityFields {num : BitVec 64} (small : num ≤ maxEntityNum) :
    HederaEntity.parse (encode (entityFields num)) = some (entityOf num.toNat) := by
  have number : int64 num = num.toNat := int64_of_lt (Nat.lt_succ_of_le small)
  rw [HederaEntity.parse, parseAs_encode (by simp [entityFields, Field.Fits, Value.Fits])
    (by simp [entityFields, Value.wireType]), entityOf, ← number]
  rfl

theorem parse_validStartFields (seconds : BitVec 64) (small : nanos < nanosPerSecond) :
    HederaTimestamp.parse (encode (validStartFields seconds nanos)) =
      some ⟨int64 seconds, nanos.toNat⟩ := by
  have same : (nanos.setWidth 64).toNat = nanos.toNat := BitVec.toNat_setWidth_of_le (by decide)
  have number : int32 (nanos.setWidth 64) = nanos.toNat := by
    rw [int32_of_lt, same]
    rw [same]
    exact Nat.lt_trans (BitVec.lt_def.mp small) (by decide)
  rw [HederaTimestamp.parse, parseAs_encode (by simp [validStartFields, Field.Fits, Value.Fits])
    (by simp [validStartFields, Value.wireType]), ← number]
  rfl

theorem parse_transactionIdFields {payerNum seconds : BitVec 64}
    (payerSmall : payerNum ≤ maxEntityNum) (nanosSmall : nanos < nanosPerSecond) :
    HederaTransactionId.parse (encode (transactionIdFields payerNum seconds nanos)) =
      some ⟨some ⟨int64 seconds, nanos.toNat⟩, some (entityOf payerNum.toNat), false⟩ := by
  have payer := length_entityFields payerNum
  have validStart := length_validStartFields seconds nanos
  have fits : ∀ field ∈ transactionIdFields payerNum seconds nanos, field.Fits := by
    simp [transactionIdFields, Field.Fits, Value.Fits]
    omega
  rw [HederaTransactionId.parse,
    parseAs_encode fits (by simp [transactionIdFields, Value.wireType])]
  simp [transactionIdFields, embedded, contents, scalar, numbers,
    parse_validStartFields seconds nanosSmall, parse_entityFields payerSmall]

theorem parse_accountAmountFields {accountNum : BitVec 64} (small : accountNum ≤ maxEntityNum)
    (amount : BitVec 64) :
    HederaAccountAmount.parse (encode (accountAmountFields accountNum amount)) =
      some ⟨some (entityOf accountNum.toNat), amount.toInt, false⟩ := by
  have account := length_entityFields accountNum
  have fits : ∀ field ∈ accountAmountFields accountNum amount, field.Fits := by
    simp [accountAmountFields, Field.Fits, Value.Fits]
    omega
  rw [HederaAccountAmount.parse,
    parseAs_encode fits (by simp [accountAmountFields, Value.wireType])]
  simp [accountAmountFields, embedded, contents, scalar, numbers, parse_entityFields small,
    sint64_zigzag]

theorem parse_duration (seconds : BitVec 32) :
    parseHederaDuration (encode [⟨1, .varint (seconds.setWidth 64)⟩]) =
      some (seconds.toNat : ℤ) := by
  have same : (seconds.setWidth 64).toNat = seconds.toNat :=
    BitVec.toNat_setWidth_of_le (by decide)
  have number : int64 (seconds.setWidth 64) = seconds.toNat := by
    rw [int64_of_lt, same]
    rw [same]
    exact Nat.lt_trans seconds.isLt (by decide)
  rw [parseHederaDuration, parseAs_encode (by simp [Field.Fits, Value.Fits])
    (by simp [Value.wireType]), ← number]
  rfl

theorem fits_transferEntriesFields (number : ℕ) (isNumber : 0 < number ∧ number < 2 ^ 29)
    (request : HederaTransferRequest) :
    ∀ field ∈ transferEntriesFields number request,
      field.Fits ∧ (field.number, field.value.wireType) = (number, 2) := by
  have sender := length_accountAmountFields request.senderNum (-request.amount)
  have receiver := length_accountAmountFields request.receiverNum request.amount
  rw [transferEntriesFields]
  split
  · simp [Field.Fits, Value.Fits, Value.wireType, isNumber]
    omega
  · simp [Field.Fits, Value.Fits, Value.wireType, isNumber]
    omega

theorem contents_tokenTransfersFields (request : HederaTransferRequest) :
    contents 1 (tokenTransfersFields request) =
      [encode (entityFields request.tokenNum)] := by
  rw [tokenTransfersFields, transferEntriesFields]
  split <;> rfl

section Readable

variable {request : HederaTransferRequest} (writable : Writable request)
include writable

theorem toInt_credit :
    request.amount.toInt = request.amount.toNat :=
  int64_of_lt (Nat.lt_succ_of_le writable.amount_le)

theorem toInt_debit :
    (-request.amount).toInt = -(request.amount.toNat : ℤ) := by
  have least : request.amount ≠ BitVec.intMin 64 := by
    intro same
    have small := writable.amount_le
    rw [same] at small
    exact absurd small (by decide)
  rw [BitVec.toInt_neg_of_ne_intMin least, toInt_credit writable]

/-- The debit and the credit are read in the order of the accounts. -/
theorem repeated_transferEntriesFields (number : ℕ) :
    repeated HederaAccountAmount.parse number (transferEntriesFields number request) =
      some (entriesOf request.senderNum.toNat request.receiverNum.toNat request.amount.toNat) := by
  have readSender := parse_accountAmountFields writable.senderNum_le (-request.amount)
  have readReceiver := parse_accountAmountFields writable.receiverNum_le request.amount
  rw [toInt_debit writable] at readSender
  rw [toInt_credit writable] at readReceiver
  have order : (request.senderNum.toNat : ℤ) < request.receiverNum.toNat ↔
      request.senderNum < request.receiverNum := by
    rw [Int.ofNat_lt, BitVec.lt_def]
  rw [transferEntriesFields, entriesOf]
  by_cases first : request.senderNum < request.receiverNum
  · simp [repeated, contents, order, first, readSender, readReceiver]
  · simp [repeated, contents, order, first, readSender, readReceiver]

theorem parseList_transferEntriesFields :
    HederaAccountAmount.parseList (encode (transferEntriesFields 1 request)) =
      some (entriesOf request.senderNum.toNat request.receiverNum.toNat request.amount.toNat) := by
  have fields := fits_transferEntriesFields 1 (by decide) request
  rw [HederaAccountAmount.parseList, parseAs_encode (fun field listed => (fields field listed).1)
    fun field listed => List.mem_singleton.mpr (fields field listed).2]
  exact repeated_transferEntriesFields writable 1

theorem parse_tokenTransfersFields :
    HederaTokenTransfers.parse (encode (tokenTransfersFields request)) =
      some ⟨some (entityOf request.tokenNum.toNat),
        entriesOf request.senderNum.toNat request.receiverNum.toNat request.amount.toNat⟩ := by
  have fields := fits_transferEntriesFields 2 (by decide) request
  have token := length_entityFields request.tokenNum
  have readEntries : repeated HederaAccountAmount.parse 2 (tokenTransfersFields request) = _ :=
    repeated_transferEntriesFields writable 2
  rw [HederaTokenTransfers.parse, parseAs_encode]
  · simp [embedded, contents_tokenTransfersFields, parse_entityFields writable.tokenNum_le,
      readEntries]
  · refine List.forall_mem_cons.mpr ⟨?_, fun field listed => (fields field listed).1⟩
    exact ⟨⟨Nat.one_pos, Nat.one_lt_two_pow (by decide)⟩, Nat.lt_of_le_of_lt token (by decide)⟩
  · refine List.forall_mem_cons.mpr ⟨List.mem_cons_self .., fun field listed => ?_⟩
    rw [(fields field listed).2]
    decide

theorem parse_cryptoTransferFields :
    HederaCryptoTransfer.parse (encode (cryptoTransferFields request)) =
      some (transferOf request.senderNum.toNat request.receiverNum.toNat request.tokenNum.toNat
        request.amount.toNat) := by
  have isNative : (request.tokenNum.toNat : ℤ) = 0 ↔ request.tokenNum = 0 := by
    rw [Int.natCast_eq_zero, ← BitVec.toNat_inj]
    rfl
  have entries := length_transferEntriesFields 1 request
  have tokenTransfers := length_tokenTransfersFields request
  have noTransfers : HederaAccountAmount.parseList [] = some [] := rfl
  rw [HederaCryptoTransfer.parse, parseAs_encode, cryptoTransferFields, transferOf]
  · simp only [isNative]
    split
    · simp [embedded, repeated, contents, parseList_transferEntriesFields writable]
    · simp [embedded, repeated, contents, noTransfers, parse_tokenTransfersFields writable]
  · rw [cryptoTransferFields]
    split <;> simp [Field.Fits, Value.Fits] <;> omega
  · rw [cryptoTransferFields]
    split <;> simp [Value.wireType]

/-- The body for a writable request, with the valid start as the network reads it. -/
theorem parse_transactionBodyFields :
    HederaTransactionBody.parse (encode (transactionBodyFields request)) = some {
      transactionId := some ⟨some ⟨int64 request.validStartSeconds,
        request.validStartNanos.toNat⟩, some (entityOf request.payerNum.toNat), false⟩
      nodeAccountId := some (entityOf request.nodeAccountNum.toNat)
      transactionFee := request.maxTransactionFee.toNat
      transactionValidDuration := some (request.validDurationSeconds.toNat : ℤ)
      memo := []
      cryptoTransfer := some (transferOf request.senderNum.toNat request.receiverNum.toNat
        request.tokenNum.toNat request.amount.toNat) } := by
  have id := length_transactionIdFields request.payerNum request.validStartSeconds
    request.validStartNanos
  have node := length_entityFields request.nodeAccountNum
  have transfer := length_cryptoTransferFields request
  have duration : (encode [⟨1,
      .varint (request.validDurationSeconds.setWidth 64)⟩]).length ≤ 20 := length_encode_le _
  have fits : ∀ field ∈ transactionBodyFields request, field.Fits := by
    simp [transactionBodyFields, Field.Fits, Value.Fits]
    omega
  rw [HederaTransactionBody.parse,
    parseAs_encode fits (by simp [transactionBodyFields, Value.wireType])]
  simp [transactionBodyFields, embedded, contents, scalar, numbers, text,
    parse_transactionIdFields writable.payerNum_le writable.validStartNanos_lt,
    parse_entityFields writable.nodeAccountNum_le, parse_duration,
    parse_cryptoTransferFields writable]

end Readable

/-! A body determines the request it is written for. -/

theorem entriesOf_inj {sender receiver amount sender' receiver' amount' : ℤ}
    (positive : 0 < amount) (positive' : 0 < amount')
    (same : entriesOf sender receiver amount = entriesOf sender' receiver' amount') :
    sender = sender' ∧ receiver = receiver' ∧ amount = amount' := by
  simp only [entriesOf, entityOf] at same
  -- An entry is the debit exactly if its amount is negative, so the orders agree.
  split at same
  · split at same
    · simp only [List.cons.injEq, HederaAccountAmount.mk.injEq, Option.some.injEq,
        HederaEntity.mk.injEq] at same
      omega
    · simp only [List.cons.injEq, HederaAccountAmount.mk.injEq] at same
      omega
  · split at same
    · simp only [List.cons.injEq, HederaAccountAmount.mk.injEq] at same
      omega
    · simp only [List.cons.injEq, HederaAccountAmount.mk.injEq, Option.some.injEq,
        HederaEntity.mk.injEq] at same
      omega

theorem transferOf_inj {sender receiver token amount sender' receiver' token' amount' : ℤ}
    (positive : 0 < amount) (positive' : 0 < amount')
    (same : transferOf sender receiver token amount = transferOf sender' receiver' token' amount') :
    sender = sender' ∧ receiver = receiver' ∧ token = token' ∧ amount = amount' := by
  simp only [transferOf] at same
  split at same
  next native =>
    split at same
    next native' =>
      simp only [HederaCryptoTransfer.mk.injEq, Option.some.injEq] at same
      obtain ⟨senders, receivers, amounts⟩ := entriesOf_inj positive positive' same.1
      exact ⟨senders, receivers, native.trans native'.symm, amounts⟩
    next => simp only [HederaCryptoTransfer.mk.injEq, List.nil_eq, reduceCtorEq, and_false] at same
  next =>
    split at same
    next => simp only [HederaCryptoTransfer.mk.injEq, reduceCtorEq, and_false] at same
    next =>
      simp only [HederaCryptoTransfer.mk.injEq, List.cons.injEq, HederaTokenTransfers.mk.injEq,
        Option.some.injEq, entityOf, HederaEntity.mk.injEq, true_and, and_true] at same
      obtain ⟨tokens, entries⟩ := same
      obtain ⟨senders, receivers, amounts⟩ := entriesOf_inj positive positive' entries
      exact ⟨senders, receivers, tokens, amounts⟩

theorem transactionBodyFields_inj {request request' : HederaTransferRequest}
    (writable : Writable request) (writable' : Writable request')
    (same : encode (transactionBodyFields request) =
      encode (transactionBodyFields request')) : request = request' := by
  have positive : 0 < (request.amount.toNat : ℤ) := by
    exact_mod_cast toNat_pos writable.amount_ne_zero
  have positive' : 0 < (request'.amount.toNat : ℤ) := by
    exact_mod_cast toNat_pos writable'.amount_ne_zero
  have parsed := parse_transactionBodyFields writable
  rw [same, parse_transactionBodyFields writable'] at parsed
  simp only [entityOf, Option.some.injEq, HederaTransactionBody.mk.injEq,
    HederaTransactionId.mk.injEq, HederaTimestamp.mk.injEq, HederaEntity.mk.injEq, and_true,
    true_and, Int.natCast_inj] at parsed
  obtain ⟨⟨⟨seconds, nanos⟩, payer⟩, node, fee, duration, transfer⟩ := parsed
  obtain ⟨sender, receiver, token, amount⟩ := transferOf_inj positive' positive transfer
  cases request
  cases request'
  simp only [HederaTransferRequest.mk.injEq]
  exact ⟨(BitVec.eq_of_toNat_eq payer).symm,
    (BitVec.eq_of_toNat_eq (Int.natCast_inj.mp sender)).symm,
    (BitVec.eq_of_toNat_eq (Int.natCast_inj.mp receiver)).symm,
    (BitVec.eq_of_toNat_eq (Int.natCast_inj.mp amount)).symm,
    (BitVec.eq_of_toNat_eq (Int.natCast_inj.mp token)).symm,
    (BitVec.eq_of_toNat_eq node).symm, (BitVec.eq_of_toInt_eq seconds).symm,
    (BitVec.eq_of_toNat_eq nanos).symm, (BitVec.eq_of_toNat_eq duration).symm,
    (BitVec.eq_of_toNat_eq fee).symm⟩

/-! ## Built requests -/

/-- The body that a request asks for. -/
def requestedBody (depository : Bytes) (params : BuildPayloadParams) (data : HederaRequestData)
    (nanos : ℕ) : HederaTransactionBody where
  transactionId := some ⟨some ⟨data.validStartSeconds.toNat, nanos⟩,
    some (entityOf data.payerNum.toNat), false⟩
  nodeAccountId := some (entityOf data.nodeAccountNum.toNat)
  transactionFee := data.maxTransactionFee.toNat
  transactionValidDuration := some (data.validDurationSeconds.toNat : ℤ)
  memo := []
  cryptoTransfer := some (transferOf (numOf depository) (numOf params.receiver)
    (numOf params.currency) params.amount.toNat)

variable {depository : Bytes} {params : BuildPayloadParams} {data : HederaRequestData}
variable {request : HederaTransferRequest}

/-- The body for a built request differs from the one asked for in the valid start at most. -/
theorem Builds.parse_transactionBody (builds : Builds depository params data request) :
    HederaTransactionBody.parse (encode (transactionBodyFields request)) = some {
      requestedBody depository params data request.validStartNanos.toNat with
      transactionId := some ⟨some ⟨int64 data.validStartSeconds,
        request.validStartNanos.toNat⟩, some (entityOf data.payerNum.toNat), false⟩ } := by
  rw [parse_transactionBodyFields builds.writable, builds.payerNum, builds.senderNum,
    builds.receiverNum, builds.amount, builds.tokenNum, builds.nodeAccountNum,
    builds.validStartSeconds, builds.validDurationSeconds, builds.maxTransactionFee]
  rfl

/-- Two readings of the seconds agree below `2 ^ 63`. -/
theorem int64_eq_toNat_iff {value : BitVec 64} :
    int64 value = value.toNat ↔ value.toNat < 2 ^ 63 := by
  constructor
  · intro same
    rw [← int64_nonneg_iff, same]
    exact Int.natCast_nonneg _
  · exact int64_of_lt

end HederaVmPayloadBuilder

open HederaVmPayloadBuilder in
/-- The body for a built payload can be read in full, and it reads as what was requested exactly
if the valid start is below `2 ^ 63` seconds. -/
theorem hedera_body_means_request (keccak256 : Bytes → Bytes32) (builder : HederaVmPayloadBuilder)
    (depository : Bytes) (params : BuildPayloadParams) (payload : Bytes)
    (built : buildPayload keccak256 builder depository params = .ok payload) :
    ∃ (data : HederaRequestData) (request : HederaTransferRequest) (bytes : Bytes)
        (body : HederaTransactionBody),
      Abi.decodeAs HederaRequestData.type HederaRequestData.ofValue params.data = some data ∧
      Abi.decodeAs HederaTransferRequest.type HederaTransferRequest.ofValue payload =
        some request ∧
      transactionBody request = .ok bytes ∧
      HederaTransactionBody.parse bytes = some body ∧
      ((∃ nanos < 10 ^ 9, body = requestedBody depository params data nanos) ↔
        data.validStartSeconds.toNat < 2 ^ 63) := by
  simp only [buildPayload, bind_eq_ok, pure_eq_ok] at built
  obtain ⟨request, isRequest, rfl⟩ := built
  obtain ⟨data, builds⟩ := buildRequest_ok keccak256 isRequest
  refine ⟨data, request, _, _, builds.isData, request.decodeAs_encode,
    transactionBody_eq builds.writable, builds.parse_transactionBody, ?_⟩
  rw [← int64_eq_toNat_iff]
  constructor
  · rintro ⟨nanos, _, same⟩
    have ids := congrArg HederaTransactionBody.transactionId same
    simp only [requestedBody, Option.some.injEq, HederaTransactionId.mk.injEq,
      HederaTimestamp.mk.injEq] at ids
    exact ids.1.1
  · intro same
    refine ⟨request.validStartNanos.toNat, builds.writable.validStartNanos_lt, ?_⟩
    rw [same]
    rfl

/-! A transfer of HBAR, with a valid start in 2023 and with one that is not read as such. -/

namespace SampleHedera

open HederaVmPayloadBuilder

def builder : HederaVmPayloadBuilder := ⟨456858, by decide⟩

def account (num : UInt8) : Bytes := List.replicate 19 0 ++ [num]

def data (seconds : BitVec 64) : HederaRequestData := ⟨1001, 3, seconds, 120, 1000000⟩

def params (seconds : BitVec 64) : BuildPayloadParams where
  currency := account 0
  amount := 250
  receiver := account 9
  nonce := 5
  data := Abi.encode [(data seconds).toValue]

/-- The payload for a valid start. -/
def payload (seconds : BitVec 64) : Bytes :=
  ((buildPayload Abi.sampleHash builder (account 8) (params seconds)).toOption).getD []

/-- The first valid start that is not an `int64`. -/
def late : BitVec 64 := 0x8000000000000000

end SampleHedera

open SampleHedera HederaVmPayloadBuilder in
theorem hedera_body_means_request_sample :
    ∃ request bytes body,
      Abi.decodeAs HederaTransferRequest.type HederaTransferRequest.ofValue (payload 1700000000) =
        some request ∧
      transactionBody request = .ok bytes ∧
      HederaTransactionBody.parse bytes = some body ∧
      ∃ nanos < 10 ^ 9, body = requestedBody (account 8) (params 1700000000) (data 1700000000)
        nanos := by
  obtain ⟨data', request, bytes, body, isData, isRequest, writes, reads, means⟩ :=
    hedera_body_means_request Abi.sampleHash builder (account 8) (params 1700000000)
      (payload 1700000000) (by decide +kernel)
  have isData' : Abi.decodeAs HederaRequestData.type HederaRequestData.ofValue
      (params 1700000000).data = some (data 1700000000) := by decide +kernel
  cases isData.symm.trans isData'
  exact ⟨request, bytes, body, isRequest, writes, reads, means.mpr (by decide)⟩

open SampleHedera HederaVmPayloadBuilder in
/-- A valid start of `2 ^ 63` seconds is accepted and reads as `-2 ^ 63`. -/
theorem hedera_body_before_epoch :
    buildPayload Abi.sampleHash builder (account 8) (params late) = .ok (payload late) ∧
    ∃ request bytes body,
      Abi.decodeAs HederaTransferRequest.type HederaTransferRequest.ofValue (payload late) =
        some request ∧
      request.validStartSeconds = late ∧ late.toNat = 2 ^ 63 ∧
      transactionBody request = .ok bytes ∧
      HederaTransactionBody.parse bytes = some body ∧
      (body.transactionId.bind HederaTransactionId.transactionValidStart).map
        HederaTimestamp.seconds = some (-2 ^ 63) := by
  have built : buildPayload Abi.sampleHash builder (account 8) (params late) =
      .ok (payload late) := by decide +kernel
  have written := built
  simp only [buildPayload, bind_eq_ok, pure_eq_ok] at written
  obtain ⟨request, isRequest, isPayload⟩ := written
  obtain ⟨data', builds⟩ := buildRequest_ok Abi.sampleHash isRequest
  have isData : Abi.decodeAs HederaRequestData.type HederaRequestData.ofValue
      (params late).data = some (data late) := by decide +kernel
  cases builds.isData.symm.trans isData
  refine ⟨built, request, _, _, ?_, builds.validStartSeconds, by decide,
    transactionBody_eq builds.writable, builds.parse_transactionBody, ?_⟩
  · rw [← isPayload, request.decodeAs_encode]
  · have seconds : int64 late = -2 ^ 63 := by decide
    exact congrArg some seconds

end RelaySettlement
