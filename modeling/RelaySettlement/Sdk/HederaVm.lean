import RelaySettlement.Js.Text
import RelaySettlement.PayloadBuilder.HederaBody

/-!
# The SDK's Hedera withdrawals

`hederaVmCodec` decodes the payloads of the builder into texts, `0.0.x` for an account or a
token and decimal numbers else, and reads the texts back when a withdrawal is encoded or its
transaction body is serialized.  The SDK has a serializer of its own, on whole numbers of any
size.

Texts are the byte strings they are encoded as.  A function that throws returns `none`.
-/

open Evm

namespace RelaySettlement

/-! ## Entity ids -/

structure HederaEntityId where
  shard : ℕ
  realm : ℕ
  num : ℕ
  deriving DecidableEq

inductive HederaAddress where
  | entityId (entityId : HederaEntityId)
  | evmAlias (address : Bytes)
  deriving DecidableEq

/-- `HEDERA_ENTITY_COMPONENT_MAX`. -/
def hederaEntityComponentMax : ℕ := 2 ^ 63 - 1

/-- `parseHederaEntityId` without a network, where an id with a checksum is refused. -/
def parseHederaEntityId (value : Bytes) : Option HederaEntityId :=
  match value.splitOn 46 with
  | [shard, realm, num] => do
      let shard ← Js.readCanonical shard
      let realm ← Js.readCanonical realm
      let num ← Js.readCanonical num
      if shard ≤ hederaEntityComponentMax ∧ realm ≤ hederaEntityComponentMax ∧
          num ≤ hederaEntityComponentMax then
        return ⟨shard, realm, num⟩
      else none
  | _ => none

def formatHederaEntityId (entityId : HederaEntityId) : Bytes :=
  Text.decimal entityId.shard ++ [46] ++ Text.decimal entityId.realm ++ [46] ++
    Text.decimal entityId.num

/-- The bytes of 40 hexadecimal digits. -/
def readAddressDigits (digits : Bytes) : Option Bytes :=
  if digits.length = 40 then Js.readHex digits else none

/-- The bytes of a text that matches `EVM_ADDRESS_REGEX`. -/
def parseEvmAddressBytes (value : Bytes) : Option Bytes :=
  readAddressDigits (if [48, 120] <+: value then value.drop 2 else value)

/-- `fromEvmAddressBytes`: an address that starts with 12 zeros is an entity id. -/
def fromEvmAddressBytes (bytes : Bytes) : Option HederaAddress :=
  if ∀ byte ∈ bytes.take 12, byte = 0 then
    let num := Abi.readBigEndian (bytes.drop 12)
    if num ≤ hederaEntityComponentMax then some (.entityId ⟨0, 0, num⟩) else none
  else some (.evmAlias (Abi.utf8 "0x" ++ Text.hex bytes))

/-- The parts of a text that matches `HEDERA_PREFIXED_EVM_ADDRESS_REGEX`. -/
def parsePrefixedAddress (value : Bytes) : Option (ℕ × ℕ × Bytes) :=
  match value.splitOn 46 with
  | [shard, realm, digits] => do
      return (← Js.readCanonical shard, ← Js.readCanonical realm, ← readAddressDigits digits)
  | _ => none

def parseHederaAddress (value : Bytes) : Option HederaAddress :=
  match parseEvmAddressBytes value with
  | some bytes => fromEvmAddressBytes bytes
  | none =>
      match parsePrefixedAddress value with
      | some (shard, realm, bytes) =>
          if shard = 0 ∧ realm = 0 then fromEvmAddressBytes bytes else none
      | none => (parseHederaEntityId value).map .entityId

namespace HederaVmCodec

/-! ## Withdrawals -/

structure Withdrawal where
  payer : Bytes
  sender : Bytes
  receiver : Bytes
  amount : Bytes
  token : Bytes
  nodeAccount : Bytes
  validStart : Bytes
  validDurationSeconds : ℤ
  maxTransactionFee : Bytes
  deriving DecidableEq

/-- The numeric form of a withdrawal. -/
structure TransferRequest where
  payerNum : ℕ
  senderNum : ℕ
  receiverNum : ℕ
  amount : ℤ
  tokenNum : ℕ
  nodeAccountNum : ℕ
  validStartSeconds : ℕ
  validStartNanos : ℕ
  validDurationSeconds : ℤ
  maxTransactionFee : ℤ

def toEntityNum (value : Bytes) : Option ℕ := do
  match ← parseHederaAddress value with
  | .entityId entityId => return entityId.num
  | .evmAlias _ => none

def fromEntityNum (num : ℕ) : Bytes := formatHederaEntityId ⟨0, 0, num⟩

/-- The seconds and nanoseconds of a text that matches `HEDERA_TIMESTAMP_REGEX`. -/
def parseTimestamp (value : Bytes) : Option (ℕ × ℕ) :=
  match value.splitOn 46 with
  | [seconds, nanos] => do
      let seconds ← Js.readCanonical seconds
      if nanos.length = 9 ∧ ∀ character ∈ nanos, Text.IsDigit character then
        return (seconds, Text.readDecimal nanos)
      else none
  | _ => none

def toTransferRequest (withdrawal : Withdrawal) : Option TransferRequest := do
  let (validStartSeconds, validStartNanos) ← parseTimestamp withdrawal.validStart
  return {
    payerNum := ← toEntityNum withdrawal.payer
    senderNum := ← toEntityNum withdrawal.sender
    receiverNum := ← toEntityNum withdrawal.receiver
    amount := ← Js.bigInt withdrawal.amount
    tokenNum := ← toEntityNum withdrawal.token
    nodeAccountNum := ← toEntityNum withdrawal.nodeAccount
    validStartSeconds := validStartSeconds
    validStartNanos := validStartNanos
    validDurationSeconds := withdrawal.validDurationSeconds
    maxTransactionFee := ← Js.bigInt withdrawal.maxTransactionFee }

/-! ## The codec -/

/-- `fromAbi`. -/
def fromAbi (request : HederaTransferRequest) : Withdrawal where
  payer := fromEntityNum request.payerNum.toNat
  sender := fromEntityNum request.senderNum.toNat
  receiver := fromEntityNum request.receiverNum.toNat
  amount := Text.decimal request.amount.toNat
  token := fromEntityNum request.tokenNum.toNat
  nodeAccount := fromEntityNum request.nodeAccountNum.toNat
  validStart := Text.decimal request.validStartSeconds.toNat ++ [46] ++
    Js.padStart 9 48 (Text.decimal request.validStartNanos.toNat)
  validDurationSeconds := request.validDurationSeconds.toNat
  maxTransactionFee := Text.decimal request.maxTransactionFee.toNat

/-- `toAbi`, with the ranges that the encoder checks. -/
def toAbi (withdrawal : Withdrawal) : Option HederaTransferRequest := do
  let request ← toTransferRequest withdrawal
  return {
    payerNum := ← Js.toUint 64 request.payerNum
    senderNum := ← Js.toUint 64 request.senderNum
    receiverNum := ← Js.toUint 64 request.receiverNum
    amount := ← Js.toUint 64 request.amount
    tokenNum := ← Js.toUint 64 request.tokenNum
    nodeAccountNum := ← Js.toUint 64 request.nodeAccountNum
    validStartSeconds := ← Js.toUint 64 request.validStartSeconds
    validStartNanos := ← Js.toUint 32 request.validStartNanos
    validDurationSeconds := ← Js.toUint 32 request.validDurationSeconds
    maxTransactionFee := ← Js.toUint 64 request.maxTransactionFee }

def encode (withdrawal : Withdrawal) : Option Bytes := do
  let request ← toAbi withdrawal
  return Abi.encode [request.toValue]

def decode (encodedWithdrawal : Bytes) : Option Withdrawal :=
  (Abi.readAs HederaTransferRequest.type HederaTransferRequest.ofValue encodedWithdrawal).map
    fromAbi

/-! ## The serializer -/

/-- The loop of `varint`.  A number has no more groups of seven bits than it has bits. -/
def varintLoop : ℕ → ℕ → Bytes
  | 0, remaining => [UInt8.ofNat remaining]
  | room + 1, remaining =>
      if 0x80 ≤ remaining then
        (UInt8.ofNat (remaining &&& 0x7f) ||| 0x80) :: varintLoop room (remaining >>> 7)
      else [UInt8.ofNat remaining]

/-- `varint`.  The loop leaves a negative number as it is. -/
def varint : ℤ → Bytes
  | .ofNat value => varintLoop value.log2 value
  | .negSucc value => [UInt8.ofBitVec (BitVec.ofInt 8 (.negSucc value))]

def tag (fieldNumber wireType : ℕ) : Bytes := [UInt8.ofNat (fieldNumber <<< 3 ||| wireType)]

def varintField (fieldNumber : ℕ) (value : ℤ) : Bytes := tag fieldNumber 0 ++ varint value

def zigzag (value : ℤ) : ℤ := if value < 0 then -2 * value - 1 else 2 * value

def sint64Field (fieldNumber : ℕ) (value : ℤ) : Bytes := varintField fieldNumber (zigzag value)

def embedded (fieldNumber : ℕ) (message : Bytes) : Bytes :=
  tag fieldNumber 2 ++ varint message.length ++ message

def entity (num : ℕ) : Bytes := varintField 1 0 ++ varintField 2 0 ++ varintField 3 num

def accountAmount (accountNum : ℕ) (amount : ℤ) : Bytes :=
  embedded 1 (entity accountNum) ++ sint64Field 2 amount ++ varintField 3 0

def transferEntries (senderNum receiverNum : ℕ) (amount : ℤ) (fieldNumber : ℕ) : Bytes :=
  let senderEntry := embedded fieldNumber (accountAmount senderNum (-amount))
  let receiverEntry := embedded fieldNumber (accountAmount receiverNum amount)
  if senderNum < receiverNum then senderEntry ++ receiverEntry else receiverEntry ++ senderEntry

def cryptoTransfer (request : TransferRequest) : Bytes :=
  if request.tokenNum = 0 then
    embedded 1 (transferEntries request.senderNum request.receiverNum request.amount 1)
  else
    embedded 1 [] ++
      embedded 2 (embedded 1 (entity request.tokenNum) ++
        transferEntries request.senderNum request.receiverNum request.amount 2)

/-- What `getHederaVmTransactionBody` writes for the numeric form of a withdrawal. -/
def serialize (request : TransferRequest) : Bytes :=
  embedded 1 (embedded 1 (varintField 1 request.validStartSeconds ++
      varintField 2 request.validStartNanos) ++
      embedded 2 (entity request.payerNum) ++ varintField 3 0) ++
    embedded 2 (entity request.nodeAccountNum) ++
    varintField 3 request.maxTransactionFee ++
    embedded 4 (varintField 1 request.validDurationSeconds) ++
    embedded 6 [] ++
    embedded 14 (cryptoTransfer request)

def getHederaVmTransactionBody (withdrawal : Withdrawal) : Option Bytes := do
  let request ← toTransferRequest withdrawal
  return serialize request

/-! ## Texts are read back -/

theorem splitOn_entityId (num : ℕ) :
    (fromEntityNum num).splitOn 46 = [Text.decimal 0, Text.decimal 0, Text.decimal num] := by
  have absent : ∀ value, 46 ∉ Text.decimal value := by
    intro value
    exact Text.point_notMem fun _ => Text.isDigit_of_mem_decimal
  rw [fromEntityNum, formatHederaEntityId, List.append_assoc, List.append_assoc, List.append_assoc,
    List.singleton_append, List.splitOn_append_cons_self_of_not_mem (absent 0),
    List.singleton_append, Text.splitOn_between (absent 0) (absent num)]

theorem length_decimal_le_of_le {num : ℕ} (small : num ≤ hederaEntityComponentMax) :
    (Text.decimal num).length ≤ 19 :=
  Text.length_decimal_le (by decide) (Nat.lt_of_le_of_lt small (by decide))

/-- An entity id is not mistaken for an address, as it is too short for one. -/
theorem parseHederaAddress_fromEntityNum {num : ℕ} (small : num ≤ hederaEntityComponentMax) :
    parseHederaAddress (fromEntityNum num) = some (.entityId ⟨0, 0, num⟩) := by
  have short := length_decimal_le_of_le small
  have length : (fromEntityNum num).length = 4 + (Text.decimal num).length := by
    simp only [fromEntityNum, formatHederaEntityId, List.length_append]
    rfl
  have noAddress : parseEvmAddressBytes (fromEntityNum num) = none := by
    rw [parseEvmAddressBytes, readAddressDigits, if_neg]
    split
    · rw [List.length_drop]
      omega
    · omega
  have noDigits : readAddressDigits (Text.decimal num) = none := by
    rw [readAddressDigits, if_neg]
    omega
  have noParts : parsePrefixedAddress (fromEntityNum num) = none := by
    simp [parsePrefixedAddress, splitOn_entityId, Js.readCanonical_decimal, noDigits]
  have bounds : 0 ≤ hederaEntityComponentMax ∧ 0 ≤ hederaEntityComponentMax ∧
      num ≤ hederaEntityComponentMax := ⟨Nat.zero_le _, Nat.zero_le _, small⟩
  simp only [parseHederaAddress, noAddress, noParts, parseHederaEntityId, splitOn_entityId,
    Js.readCanonical_decimal, some_bind, if_pos bounds]
  rfl

theorem toEntityNum_fromEntityNum {num : ℕ} (small : num ≤ hederaEntityComponentMax) :
    toEntityNum (fromEntityNum num) = some num := by
  rw [toEntityNum, parseHederaAddress_fromEntityNum small]
  rfl

theorem parseTimestamp_text (seconds : ℕ) {nanos : ℕ} (small : nanos < 10 ^ 9) :
    parseTimestamp (Text.decimal seconds ++ [46] ++ Js.padStart 9 48 (Text.decimal nanos)) =
      some (seconds, nanos) := by
  have padded : Js.padStart 9 48 (Text.decimal nanos) = Text.fixedDecimal 9 nanos := by
    rw [Js.fixedDecimal_eq]
    exact Js.padStart_numeral (by decide) (by decide) small
  have digits : ∀ character ∈ Text.fixedDecimal 9 nanos, Text.IsDigit character :=
    fun _ => Text.isDigit_of_mem_fixedDecimal
  have split : (Text.decimal seconds ++ 46 :: Text.fixedDecimal 9 nanos).splitOn 46 =
      [Text.decimal seconds, Text.fixedDecimal 9 nanos] :=
    Text.splitOn_between (Text.point_notMem fun _ => Text.isDigit_of_mem_decimal)
      (Text.point_notMem digits)
  have value : Text.readDecimal (Text.fixedDecimal 9 nanos) = nanos := by
    have read := Text.readDecimal_append_fixedDecimal [] 9 nanos
    rw [Nat.mod_eq_of_lt small] at read
    simpa [Text.readDecimal] using read
  rw [padded, List.append_assoc, List.singleton_append, parseTimestamp, split]
  simp [Js.readCanonical_decimal, if_pos (And.intro (Text.length_fixedDecimal 9 nanos) digits),
    value]

open HederaVmPayloadBuilder

/-- The numbers of a request. -/
def numbers (request : HederaTransferRequest) : TransferRequest where
  payerNum := request.payerNum.toNat
  senderNum := request.senderNum.toNat
  receiverNum := request.receiverNum.toNat
  amount := request.amount.toNat
  tokenNum := request.tokenNum.toNat
  nodeAccountNum := request.nodeAccountNum.toNat
  validStartSeconds := request.validStartSeconds.toNat
  validStartNanos := request.validStartNanos.toNat
  validDurationSeconds := request.validDurationSeconds.toNat
  maxTransactionFee := request.maxTransactionFee.toNat

section Writable

variable {request : HederaTransferRequest}

theorem toTransferRequest_fromAbi (writable : Writable request) :
    toTransferRequest (fromAbi request) = some (numbers request) := by
  have max : maxEntityNum.toNat = hederaEntityComponentMax := by decide
  have small : ∀ {num : BitVec 64}, num ≤ maxEntityNum →
      toEntityNum (fromEntityNum num.toNat) = some num.toNat := by
    intro num le
    exact toEntityNum_fromEntityNum (max ▸ BitVec.le_def.mp le)
  have second : nanosPerSecond.toNat = 10 ^ 9 := by decide
  have nanos : request.validStartNanos.toNat < 10 ^ 9 :=
    second ▸ BitVec.lt_def.mp writable.validStartNanos_lt
  have timestamp := parseTimestamp_text request.validStartSeconds.toNat nanos
  simp only [toTransferRequest, fromAbi, timestamp, small writable.payerNum_le,
    small writable.senderNum_le, small writable.receiverNum_le, small writable.tokenNum_le,
    small writable.nodeAccountNum_le, Js.bigInt_decimal, some_bind]
  rfl

theorem toAbi_fromAbi (writable : Writable request) : toAbi (fromAbi request) = some request := by
  simp [toAbi, toTransferRequest_fromAbi writable, numbers, Js.toUint_toNat]

/-! ## The two serializers -/

theorem varintLoop_eq {room digits value : ℕ} (fits : value < 128 ^ (room + 1))
    (fits' : value < 128 ^ (digits + 1)) :
    varintLoop room value = Wire.varint (digits + 1) value := by
  induction room generalizing digits value with
  | zero =>
      rw [zero_add, pow_one] at fits
      rw [varintLoop, Wire.varint_of_lt digits fits]
  | succ room ih =>
      rw [varintLoop, Wire.varint]
      by_cases small : value < 128
      · rw [if_neg (Nat.not_le.mpr small), if_pos small]
      · have smaller : value >>> 7 = value / 128 := Nat.shiftRight_eq_div_pow value 7
        have low : value &&& 0x7f = value % 128 := Nat.and_two_pow_sub_one_eq_mod value 7
        have marked : ∀ digit < 128,
            UInt8.ofNat digit ||| 0x80 = UInt8.ofNat (digit + 128) := by
          decide
        rw [if_pos (Nat.not_lt.mp small), if_neg small, smaller, low,
          marked _ (Nat.mod_lt _ (by decide))]
        cases digits with
        | zero => exact absurd (by simpa using fits') small
        | succ digits =>
            rw [ih]
            · apply Nat.div_lt_of_lt_mul
              rwa [← Nat.pow_succ']
            · apply Nat.div_lt_of_lt_mul
              rwa [← Nat.pow_succ']

theorem varint_natCast {value : ℕ} (small : value < 2 ^ 64) :
    varint value = Wire.varint 10 value := by
  apply varintLoop_eq
  · apply Nat.lt_of_lt_of_le Nat.lt_log2_self
    exact Nat.pow_le_pow_left (by decide) _
  · exact Nat.lt_of_lt_of_le small (by decide)

variable {fieldNumber : ℕ}

theorem tag_eq {wireType : ℕ} (small : fieldNumber ≤ 15) (isType : wireType < 8) :
    tag fieldNumber wireType = Wire.varint 10 (8 * fieldNumber + wireType) := by
  have bits : fieldNumber <<< 3 ||| wireType = 8 * fieldNumber + wireType := by
    rw [← Nat.shiftLeft_add_eq_or_of_lt isType, Nat.shiftLeft_eq]
    omega
  rw [tag, bits, Wire.varint_of_lt 9 (by omega)]

theorem varintField_eq (small : fieldNumber ≤ 15) (value : BitVec 64) :
    varintField fieldNumber value.toNat = Wire.encode [⟨fieldNumber, .varint value⟩] := by
  rw [varintField, tag_eq small (by decide), varint_natCast value.isLt, Wire.encode_singleton]
  rfl

theorem embedded_eq (small : fieldNumber ≤ 15) {message : Bytes} (short : message.length < 2 ^ 64) :
    embedded fieldNumber message = Wire.encode [⟨fieldNumber, .delimited message⟩] := by
  rw [embedded, tag_eq small (by decide), varint_natCast short, List.append_assoc,
    Wire.encode_singleton]
  rfl

/-- Both write a signed number alike. -/
theorem zigzag_toInt (value : BitVec 64) : zigzag value.toInt = (Wire.zigzag value).toNat := by
  have bound := value.isLt
  have doubled : (value <<< 1).toNat = 2 * value.toNat % 2 ^ 64 := by
    rw [BitVec.toNat_shiftLeft, Nat.shiftLeft_eq, Nat.mul_comm]
  rw [Wire.zigzag, Wire.sshiftRight_last, zigzag, BitVec.toInt_eq_msb_cond]
  cases sign : value.msb with
  | false =>
      have small := BitVec.toNat_lt_of_msb_false sign
      have unchanged : value <<< 1 ^^^ (0 : BitVec 64) = value <<< 1 := BitVec.xor_zero
      simp only [Bool.false_eq_true, if_false, unchanged, doubled]
      rw [if_neg (by omega)]
      omega
  | true =>
      have large := BitVec.le_toNat_of_msb_true sign
      simp only [if_true, BitVec.xor_allOnes, BitVec.toNat_not, doubled]
      rw [if_pos (by omega)]
      omega

theorem entity_eq (num : BitVec 64) : entity num.toNat = Wire.encode (entityFields num) := by
  have zero : ((0 : BitVec 64).toNat : ℤ) = 0 := rfl
  simp (disch := decide) only [entity, ← zero, varintField_eq, ← Wire.encode_append]
  rfl

theorem accountAmount_eq (accountNum amount : BitVec 64) :
    accountAmount accountNum.toNat amount.toInt =
      Wire.encode (accountAmountFields accountNum amount) := by
  have account := length_entityFields accountNum
  have zero : ((0 : BitVec 64).toNat : ℤ) = 0 := rfl
  simp (disch := first | decide | omega) only [accountAmount, sint64Field, zigzag_toInt, entity_eq,
    ← zero, varintField_eq, embedded_eq, ← Wire.encode_append]
  rfl

theorem transferEntries_eq (writable : Writable request) (small : fieldNumber ≤ 15) :
    transferEntries request.senderNum.toNat request.receiverNum.toNat request.amount.toNat
        fieldNumber =
      Wire.encode (transferEntriesFields fieldNumber request) := by
  have sender := length_accountAmountFields request.senderNum (-request.amount)
  have receiver := length_accountAmountFields request.receiverNum request.amount
  simp only [transferEntries, transferEntriesFields, BitVec.lt_def]
  rw [← toInt_debit writable, ← toInt_credit writable]
  simp (disch := omega) only [accountAmount_eq, embedded_eq, ← Wire.encode_append]
  split <;> rfl

theorem cryptoTransfer_eq (writable : Writable request) :
    cryptoTransfer (numbers request) = Wire.encode (cryptoTransferFields request) := by
  have entries := length_transferEntriesFields 1 request
  have num := length_entityFields request.tokenNum
  have tokenTransfers := length_tokenTransfersFields request
  have isTokenTransfers : Wire.encode [⟨1, .delimited (Wire.encode
      (entityFields request.tokenNum))⟩] ++ Wire.encode (transferEntriesFields 2 request) =
        Wire.encode (tokenTransfersFields request) := (Wire.encode_append ..).symm
  have isNative : request.tokenNum.toNat = 0 ↔ request.tokenNum = 0 := by
    rw [← BitVec.toNat_inj]
    rfl
  simp only [cryptoTransfer, numbers, cryptoTransferFields, isNative]
  split
  · simp (disch := omega) only [transferEntries_eq writable, embedded_eq]
  · simp (disch := first | decide | omega) [transferEntries_eq writable, entity_eq, embedded_eq,
      isTokenTransfers, ← Wire.encode_append]

theorem varintField_narrow (small : fieldNumber ≤ 15) (value : BitVec 32) :
    varintField fieldNumber value.toNat =
      Wire.encode [⟨fieldNumber, .varint (value.setWidth 64)⟩] := by
  rw [← varintField_eq small, BitVec.toNat_setWidth_of_le (by decide)]

theorem transactionId_eq (payerNum seconds : BitVec 64) (nanos : BitVec 32) :
    embedded 1 (varintField 1 seconds.toNat ++ varintField 2 nanos.toNat) ++
        embedded 2 (entity payerNum.toNat) ++ varintField 3 0 =
      Wire.encode (transactionIdFields payerNum seconds nanos) := by
  have payer := length_entityFields payerNum
  have validStart := length_validStartFields seconds nanos
  have isValidStart : Wire.encode [⟨1, .varint seconds⟩] ++
      Wire.encode [⟨2, .varint (nanos.setWidth 64)⟩] =
        Wire.encode (validStartFields seconds nanos) := (Wire.encode_append ..).symm
  have zero : ((0 : BitVec 64).toNat : ℤ) = 0 := rfl
  simp (disch := first | decide | omega) only [← zero, varintField_eq, varintField_narrow,
    isValidStart, embedded_eq, entity_eq, ← Wire.encode_append]
  rfl

/-- The SDK writes the fields that the builder writes. -/
theorem serialize_eq (writable : Writable request) :
    serialize (numbers request) = Wire.encode (transactionBodyFields request) := by
  have id := length_transactionIdFields request.payerNum request.validStartSeconds
    request.validStartNanos
  have node := length_entityFields request.nodeAccountNum
  have transfer := length_cryptoTransferFields request
  have duration : (Wire.encode [⟨1,
      .varint (request.validDurationSeconds.setWidth 64)⟩]).length ≤ 20 := Wire.length_encode_le _
  rw [serialize, cryptoTransfer_eq writable]
  simp only [numbers]
  rw [transactionId_eq]
  simp (disch := first | decide | omega) only [entity_eq, varintField_eq, varintField_narrow,
    embedded_eq]
  simp only [← Wire.encode_append]
  rfl

end Writable

end HederaVmCodec

/-! ## The SDK and the builder -/

open HederaVmPayloadBuilder in
/-- For a built payload the SDK serializes the body that the builder has signed, and encodes
what it decoded to the same payload.  Payloads that differ have bodies that differ. -/
theorem hedera_sdk_serializes_body (keccak256 : Bytes → Bytes32) (builder : HederaVmPayloadBuilder)
    (depository : Bytes) (params : BuildPayloadParams) (payload : Bytes)
    (built : buildPayload keccak256 builder depository params = .ok payload) :
    ∃ (request : HederaTransferRequest) (withdrawal : HederaVmCodec.Withdrawal) (body : Bytes),
      Abi.decodeAs HederaTransferRequest.type HederaTransferRequest.ofValue payload =
        some request ∧
      transactionBody request = .ok body ∧
      HederaVmCodec.decode payload = some withdrawal ∧
      HederaVmCodec.getHederaVmTransactionBody withdrawal = some body ∧
      HederaVmCodec.encode withdrawal = some payload ∧
      ∀ (builder' : HederaVmPayloadBuilder) (depository' : Bytes) (params' : BuildPayloadParams)
          (payload' : Bytes) (request' : HederaTransferRequest),
        buildPayload keccak256 builder' depository' params' = .ok payload' →
        Abi.decodeAs HederaTransferRequest.type HederaTransferRequest.ofValue payload' =
          some request' →
        request' ≠ request → transactionBody request' ≠ .ok body := by
  simp only [buildPayload, bind_eq_ok, pure_eq_ok] at built
  obtain ⟨request, isRequest, rfl⟩ := built
  obtain ⟨data, builds⟩ := buildRequest_ok keccak256 isRequest
  refine ⟨request, HederaVmCodec.fromAbi request, _, request.decodeAs_encode,
    transactionBody_eq builds.writable, ?_, ?_, ?_, ?_⟩
  · rw [HederaVmCodec.decode, Abi.readAs_of_decodeAs request.decodeAs_encode]
    rfl
  · rw [HederaVmCodec.getHederaVmTransactionBody,
      HederaVmCodec.toTransferRequest_fromAbi builds.writable,
      ← HederaVmCodec.serialize_eq builds.writable]
    rfl
  · rw [HederaVmCodec.encode, HederaVmCodec.toAbi_fromAbi builds.writable]
    rfl
  · intro builder' depository' params' payload' request' built' decoded different same
    simp only [buildPayload, bind_eq_ok, pure_eq_ok] at built'
    obtain ⟨_, isRequest', rfl⟩ := built'
    cases (HederaTransferRequest.decodeAs_encode _).symm.trans decoded
    obtain ⟨_, builds'⟩ := buildRequest_ok keccak256 isRequest'
    rw [transactionBody_eq builds'.writable] at same
    exact different (transactionBodyFields_inj builds'.writable builds.writable
      (Except.ok.inj same))

open SampleHedera HederaVmPayloadBuilder in
theorem hedera_sdk_serializes_body_sample :
    ∃ (request : HederaTransferRequest) (withdrawal : HederaVmCodec.Withdrawal) (body : Bytes),
      transactionBody request = .ok body ∧
      HederaVmCodec.decode (payload 1700000000) = some withdrawal ∧
      HederaVmCodec.getHederaVmTransactionBody withdrawal = some body ∧
      HederaVmCodec.encode withdrawal = some (payload 1700000000) := by
  obtain ⟨request, withdrawal, body, _, writes, decodes, serializes, encodes, _⟩ :=
    hedera_sdk_serializes_body Abi.sampleHash builder (account 8) (params 1700000000)
      (payload 1700000000) (by decide +kernel)
  exact ⟨request, withdrawal, body, writes, decodes, serializes, encodes⟩

end RelaySettlement
