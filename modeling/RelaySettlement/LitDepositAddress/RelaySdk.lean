import RelaySettlement.Allocator.Core
import RelaySettlement.Js.Check
import RelaySettlement.LitDepositAddress.Types

/-!
# Hashes of triggers, orders and derivation fields

The actions recompute the hash of a trigger and the id of an order, and derive the path of a
deposit wallet from its derivation fields.  The ABI and EIP-712 encodings are those of `viem`,
which gets byte strings and addresses as texts.

How `viem` reads such a text is a parameter, and only `0x` with an even number of digits behind
it is documented.  Numbers go through `BigInt` and must fit their type.  A function that throws
returns `none`.
-/

open Evm

namespace RelaySettlement.LitDepositAddress

open Js

/-- The text of an address in lower case. -/
def addressText (account : Address) : Bytes := writeHex (Abi.bigEndian 20 account.toNat)

/-- What the actions use of `viem`: `checksumAddress` of an address in lower case, the ABI
encodings of a text as `bytes`, with its length, as `bytes32` and as `address`, and `toBytes`. -/
structure Viem where
  checksumAddress : Bytes → Bytes
  encodeBytes : Bytes → Option Bytes
  encodeBytes32 : Bytes → Option Bytes
  encodeAddress : Bytes → Option Bytes
  toBytes : Bytes → Option Bytes

/-- What is documented of it, for hexadecimal text behind `0x`.  A checksum only changes the case
of digits, and a text that is encoded as an address is one. -/
structure Viem.Correct (viem : Viem) : Prop where
  toLowerCase_checksumAddress : ∀ account : Address,
    Text.toLowerCase (viem.checksumAddress (addressText account)) = addressText account
  readMarked_checksumAddress : ∀ account : Address,
    readMarked (viem.checksumAddress (addressText account)) =
      some (Abi.bigEndian 20 account.toNat)
  encodeBytes : ∀ text data, readMarked text = some data →
    viem.encodeBytes text = some (Abi.bigEndian 32 data.length ++ Abi.padRight data)
  encodeBytes32 : ∀ text encoded, text.length = 66 →
    (viem.encodeBytes32 text = some encoded ↔ readMarked text = some encoded)
  encodeAddress : ∀ account : Address,
    viem.encodeAddress (viem.checksumAddress (addressText account)) =
      some (Abi.word (account.setWidth 256))
  exists_of_encodeAddress : ∀ text encoded, viem.encodeAddress text = some encoded →
    ∃ account : Address, readMarked text = some (Abi.bigEndian 20 account.toNat) ∧
      encoded = Abi.word (account.setWidth 256)
  toBytes : ∀ text data, readMarked text = some data → viem.toBytes text = some data

/-! ## Encodings -/

/-- The encoding of an unsigned integer, which may be given as a number or as a text. -/
def encodeUint (width : ℕ) (value : Scalar) : Option Bytes := do
  let n ← value.bigInt
  let encoded ← toUint width n
  return Abi.bigEndian 32 encoded.toNat

theorem encodeUint_eq_some {width : ℕ} {value : Scalar} {encoded : Bytes} :
    encodeUint width value = some encoded ↔
      ∃ n : BitVec width, value.bigInt = some (n.toNat : ℤ) ∧
        encoded = Abi.bigEndian 32 n.toNat := by
  simp only [encodeUint, bind_eq_some, toUint_eq_some, Option.pure_def, Option.some_inj]
  constructor
  · rintro ⟨_, isNumber, n, rfl, rfl⟩
    exact ⟨n, isNumber, rfl⟩
  · rintro ⟨n, isNumber, rfl⟩
    exact ⟨n.toNat, isNumber, n, rfl, rfl⟩

/-- Members of a tuple are dynamic or not. -/
def encodeString (text : Bytes) : Bool × Bytes :=
  (true, Abi.bigEndian 32 text.length ++ Abi.padRight text)

def encodeTuple (members : List (Bool × Bytes)) : Bool × Bytes :=
  (members.any (·.1), Abi.layout members)

def encodeArray (elements : List (Bool × Bytes)) : Bool × Bytes :=
  (true, Abi.bigEndian 32 elements.length ++ Abi.layout elements)

section Hashes

variable (keccak : Bytes → Bytes32) (viem : Viem)

/-! ## Triggers -/

def encodeInput (input : DepositAddressTriggerInput) : Option (Bool × Bytes) := do
  return encodeTuple [
    encodeString input.vmType,
    encodeString input.chainId,
    (true, ← viem.encodeBytes input.currency),
    (false, ← encodeUint 256 input.amount)]

def encodeDerivationFields (derivationFields : DepositAddressTriggerDerivationFields) :
    Option (Bool × Bytes) := do
  return encodeTuple [
    encodeString derivationFields.inputVmType,
    encodeString derivationFields.outputVmType,
    encodeString derivationFields.outputChainId,
    (true, ← viem.encodeBytes derivationFields.outputCurrency),
    (true, ← viem.encodeBytes derivationFields.outputRecipient),
    (false, ← viem.encodeAddress derivationFields.solver),
    (false, ← viem.encodeAddress derivationFields.pricingOracle),
    (true, ← viem.encodeBytes derivationFields.depositor),
    (true, ← viem.encodeBytes derivationFields.refundRecipient),
    (false, ← encodeUint 256 derivationFields.priceImpactBps),
    (false, ← encodeUint 256 derivationFields.salt)]

def encodeCurrency (currency : DepositAddressTriggerCurrency) : Option (Bool × Bytes) := do
  return encodeTuple [
    encodeString currency.chainId,
    (true, ← viem.encodeBytes currency.currency)]

def encodePrice (price : DepositAddressTriggerPrice) : Option (Bool × Bytes) := do
  return encodeTuple [
    (false, ← encodeUint 256 price.usdPrice),
    (false, ← encodeUint 8 price.usdPriceDecimals),
    (false, ← encodeUint 8 price.currencyDecimals),
    (false, ← encodeUint 256 price.publishTime),
    (false, ← encodeUint 256 price.expiration)]

def getDepositAddressTriggerHash (trigger : DepositAddressTrigger) : Option Bytes32 := do
  let input ← encodeInput viem trigger.input
  let derivationFields ← encodeDerivationFields viem trigger.derivationFields
  let orderId ← viem.encodeBytes32 trigger.orderId
  let nonce ← encodeUint 256 trigger.nonce
  let currencies ← trigger.currencies.mapM (encodeCurrency viem)
  let prices ← trigger.prices.mapM encodePrice
  let extraData ← viem.encodeBytes trigger.extraData
  return keccak (Abi.layout [input, derivationFields, (false, orderId), (false, nonce),
    encodeArray currencies, encodeArray prices, (true, extraData)])

/-! ## Paths -/

def pathSegments : ℕ := 8

/-- Four bytes each, without their top bit. -/
def bytes32ToIndexes (hash : Bytes32) : List ℕ :=
  (List.range pathSegments).map fun i =>
    Abi.readBigEndian (((Abi.word hash).drop (4 * i)).take 4) % 2 ^ 31

def derivationFieldsToIndexes (derivationFields : DepositAddressTriggerDerivationFields) :
    Option (List ℕ) := do
  let encoded ← encodeDerivationFields viem derivationFields
  return bytes32ToIndexes (keccak (Abi.layout [encoded]))

/-! ## Orders -/

/-! The structs of an order, with their members. -/

def orderType : String :=
  "Order(string version,string solverChainId,address solver,uint256 salt," ++
    "Input[] inputs,Output output,Fee[] fees)"

def inputType : String := "Input(InputPayment payment,InputRefund[] refunds)"

def inputPaymentType : String :=
  "InputPayment(string chainId,bytes currency,uint256 amount,uint256 weight)"

def inputRefundType : String :=
  "InputRefund(string chainId,bytes recipient,bytes currency,uint256 minimumAmount," ++
    "uint32 deadline,bytes extraData)"

def outputType : String :=
  "Output(string chainId,OutputPayment[] payments,uint32 deadline,bytes[] calls,bytes extraData)"

def outputPaymentType : String :=
  "OutputPayment(bytes recipient,bytes currency,uint256 minimumAmount,uint256 expectedAmount)"

def feeType : String :=
  "Fee(string recipientChainId,bytes recipient,string currencyChainId,bytes currency," ++
    "uint256 amount)"

/-- `hashStruct`: the type, followed by the types it names in alphabetical order, and one word for
each member. -/
def hashStruct (type : String) (members : List Bytes) : Bytes32 :=
  keccak (Abi.word (keccak (Abi.utf8 type)) ++ members.flatten)

def hashArray (elements : List Bytes) : Bytes := Abi.word (keccak elements.flatten)

def hashString (text : Bytes) : Bytes := Abi.word (keccak text)

def hashBytes (text : Bytes) : Option Bytes := do
  return Abi.word (keccak (← viem.toBytes text))

def hashInputPayment (payment : InputPayment) : Option Bytes := do
  return Abi.word (hashStruct keccak inputPaymentType [
    hashString keccak payment.chainId,
    ← hashBytes keccak viem payment.currency,
    ← encodeUint 256 payment.amount,
    ← encodeUint 256 payment.weight])

def hashInputRefund (refund : InputRefund) : Option Bytes := do
  return Abi.word (hashStruct keccak inputRefundType [
    hashString keccak refund.chainId,
    ← hashBytes keccak viem refund.recipient,
    ← hashBytes keccak viem refund.currency,
    ← encodeUint 256 refund.minimumAmount,
    ← encodeUint 32 refund.deadline,
    ← hashBytes keccak viem refund.extraData])

def hashInput (input : Input) : Option Bytes := do
  return Abi.word (hashStruct keccak (inputType ++ inputPaymentType ++ inputRefundType) [
    ← hashInputPayment keccak viem input.payment,
    hashArray keccak (← input.refunds.mapM (hashInputRefund keccak viem))])

def hashOutputPayment (payment : OutputPayment) : Option Bytes := do
  return Abi.word (hashStruct keccak outputPaymentType [
    ← hashBytes keccak viem payment.recipient,
    ← hashBytes keccak viem payment.currency,
    ← encodeUint 256 payment.minimumAmount,
    ← encodeUint 256 payment.expectedAmount])

def hashOutput (output : Output) : Option Bytes := do
  return Abi.word (hashStruct keccak (outputType ++ outputPaymentType) [
    hashString keccak output.chainId,
    hashArray keccak (← output.payments.mapM (hashOutputPayment keccak viem)),
    ← encodeUint 32 output.deadline,
    hashArray keccak (← output.calls.mapM (hashBytes keccak viem)),
    ← hashBytes keccak viem output.extraData])

def hashFee (fee : Fee) : Option Bytes := do
  return Abi.word (hashStruct keccak feeType [
    hashString keccak fee.recipientChainId,
    ← hashBytes keccak viem fee.recipient,
    hashString keccak fee.currencyChainId,
    ← hashBytes keccak viem fee.currency,
    ← encodeUint 256 fee.amount])

def getOrderId (order : Order) : Option Bytes32 := do
  return hashStruct keccak (orderType ++ feeType ++ inputType ++ inputPaymentType ++
    inputRefundType ++ outputType ++ outputPaymentType) [
    hashString keccak order.version,
    hashString keccak order.solverChainId,
    ← viem.encodeAddress order.solver,
    ← encodeUint 256 order.salt,
    hashArray keccak (← order.inputs.mapM (hashInput keccak viem)),
    ← hashOutput keccak viem order.output,
    hashArray keccak (← order.fees.mapM (hashFee keccak viem))]

/-! ## Addresses -/

/-- The account that a text of an address stands for. -/
def readAddress (text : Bytes) : Option Address := do
  let data ← readMarked text
  if data.length = 20 then return BitVec.ofNat 160 (Abi.readBigEndian data) else none

def getAddress (text : Bytes) : Option Bytes :=
  (readAddress text).map fun account => viem.checksumAddress (addressText account)

/-- The address that stands on the hub for an address of a chain. -/
def generateAddress (chainId address : Bytes) : Option Bytes := do
  let data ← viem.toBytes address
  getAddress viem (addressText (Utils.generateAddress keccak chainId data))

end Hashes

/-! ## What hashing a trigger or an order requires -/

/-- The integers of a price. -/
structure PriceValues where
  usdPrice : U256
  usdPriceDecimals : BitVec 8
  currencyDecimals : BitVec 8
  publishTime : U256
  expiration : U256

/-- The fields of a price, given as numbers or texts, stand for integers. -/
structure DepositAddressTriggerPrice.Denotes (price : DepositAddressTriggerPrice)
    (values : PriceValues) : Prop where
  usdPrice : price.usdPrice.bigInt = some (values.usdPrice.toNat : ℤ)
  usdPriceDecimals : price.usdPriceDecimals.bigInt = some (values.usdPriceDecimals.toNat : ℤ)
  currencyDecimals : price.currencyDecimals.bigInt = some (values.currencyDecimals.toNat : ℤ)
  publishTime : price.publishTime.bigInt = some (values.publishTime.toNat : ℤ)
  expiration : price.expiration.bigInt = some (values.expiration.toNat : ℤ)

variable {price : DepositAddressTriggerPrice}

theorem DepositAddressTriggerPrice.Denotes.unique {values values' : PriceValues}
    (denotes : price.Denotes values) (denotes' : price.Denotes values') : values = values' := by
  have same {width : ℕ} {scalar : Scalar} {n n' : BitVec width}
      (is : scalar.bigInt = some (n.toNat : ℤ)) (is' : scalar.bigInt = some (n'.toNat : ℤ)) :
      n = n' :=
    BitVec.eq_of_toNat_eq (Int.ofNat.inj (Option.some.inj (is.symm.trans is')))
  cases values
  cases values'
  rw [PriceValues.mk.injEq]
  exact ⟨same denotes.usdPrice denotes'.usdPrice,
    same denotes.usdPriceDecimals denotes'.usdPriceDecimals,
    same denotes.currencyDecimals denotes'.currencyDecimals,
    same denotes.publishTime denotes'.publishTime, same denotes.expiration denotes'.expiration⟩

theorem denotes_of_encodePrice {encoded : Bool × Bytes}
    (isEncoded : encodePrice price = some encoded) : ∃ values, price.Denotes values := by
  simp only [encodePrice, bind_eq_some, encodeUint_eq_some] at isEncoded
  obtain ⟨_, ⟨usdPrice, isUsdPrice, _⟩, _, ⟨usdPriceDecimals, isUsdPriceDecimals, _⟩, _,
    ⟨currencyDecimals, isCurrencyDecimals, _⟩, _, ⟨publishTime, isPublishTime, _⟩, _,
    ⟨expiration, isExpiration, _⟩, _⟩ := isEncoded
  exact ⟨⟨usdPrice, usdPriceDecimals, currencyDecimals, publishTime, expiration⟩,
    ⟨isUsdPrice, isUsdPriceDecimals, isCurrencyDecimals, isPublishTime, isExpiration⟩⟩

section Encodings

variable {keccak : Bytes → Bytes32} {viem : Viem}

/-- A trigger that has a hash: the texts and numbers in it that the checks use again. -/
theorem encodings_of_triggerHash {trigger : DepositAddressTrigger} {hash : Bytes32}
    (isHash : getDepositAddressTriggerHash keccak viem trigger = some hash) :
    (∃ encoded, viem.encodeBytes32 trigger.orderId = some encoded) ∧
      (∃ encoded, viem.encodeAddress trigger.derivationFields.solver = some encoded) ∧
      (∃ amount : U256, trigger.input.amount.bigInt = some (amount.toNat : ℤ)) ∧
      (∃ bps : U256, trigger.derivationFields.priceImpactBps.bigInt = some (bps.toNat : ℤ)) ∧
      ∀ price ∈ trigger.prices, ∃ values, price.Denotes values := by
  simp only [getDepositAddressTriggerHash, bind_eq_some] at isHash
  obtain ⟨_, isInput, _, isDerivationFields, orderId, isOrderId, _, _, _, _, prices, isPrices,
    _⟩ := isHash
  simp only [encodeInput, bind_eq_some, encodeUint_eq_some] at isInput
  simp only [encodeDerivationFields, bind_eq_some, encodeUint_eq_some] at isDerivationFields
  obtain ⟨_, _, _, ⟨amount, isAmount, _⟩, _⟩ := isInput
  obtain ⟨_, _, _, _, solver, isSolver, _, _, _, _, _, _, _, ⟨bps, isBps, _⟩, _⟩ :=
    isDerivationFields
  refine ⟨⟨orderId, isOrderId⟩, ⟨solver, isSolver⟩, ⟨amount, isAmount⟩, ⟨bps, isBps⟩, ?_⟩
  intro price listed
  obtain ⟨_, isPrice⟩ := forall_of_mapM isPrices price listed
  exact denotes_of_encodePrice isPrice

section OrderId

variable {order : Order} {orderId : Bytes32}
variable (isOrderId : getOrderId keccak viem order = some orderId)

include isOrderId

theorem encodeAddress_of_orderId :
    ∃ encoded, viem.encodeAddress order.solver = some encoded := by
  simp only [getOrderId, bind_eq_some] at isOrderId
  obtain ⟨encoded, isEncoded, _⟩ := isOrderId
  exact ⟨encoded, isEncoded⟩

theorem minimumAmount_of_orderId {payment : OutputPayment}
    (listed : payment ∈ order.output.payments) :
    ∃ amount : U256, payment.minimumAmount.bigInt = some (amount.toNat : ℤ) := by
  simp only [getOrderId, bind_eq_some] at isOrderId
  obtain ⟨_, _, _, _, _, _, _, isOutput, _⟩ := isOrderId
  simp only [hashOutput, bind_eq_some] at isOutput
  obtain ⟨_, isPayments, _⟩ := isOutput
  obtain ⟨_, isPayment⟩ := forall_of_mapM isPayments payment listed
  simp only [hashOutputPayment, bind_eq_some, encodeUint_eq_some] at isPayment
  obtain ⟨_, _, _, _, _, ⟨amount, isAmount, _⟩, _⟩ := isPayment
  exact ⟨amount, isAmount⟩

end OrderId

end Encodings

/-! ## Addresses as texts -/

theorem addressText_injective : Function.Injective addressText := by
  intro account account' same
  exact (Abi.bigEndian_toNat_inj (by decide)).mp (writeHex_inj same)

theorem readAddress_eq_some {text : Bytes} {account : Address} :
    readAddress text = some account ↔
      readMarked text = some (Abi.bigEndian 20 account.toNat) := by
  rw [readAddress, bind_eq_some]
  constructor
  · rintro ⟨data, isData, isAccount⟩
    obtain ⟨length, ⟨⟩⟩ := Option.ite_none_right_eq_some.mp isAccount
    have bound : Abi.readBigEndian data < 2 ^ 160 := by
      have bound := Abi.readBigEndian_lt data
      rwa [length] at bound
    rw [isData, BitVec.toNat_ofNat, Nat.mod_eq_of_lt bound, ← length, Abi.bigEndian_readBigEndian]
  · intro isData
    refine ⟨_, isData, ?_⟩
    have back : Abi.readBigEndian (Abi.bigEndian 20 account.toNat) = account.toNat := by
      rw [Abi.readBigEndian_bigEndian]
      exact Nat.mod_eq_of_lt account.isLt
    rw [if_pos (Abi.length_bigEndian 20 _), back, BitVec.ofNat_toNat, BitVec.setWidth_eq]
    rfl

theorem readAddress_addressText (account : Address) :
    readAddress (addressText account) = some account :=
  readAddress_eq_some.mpr (readMarked_writeHex _)

theorem toLowerCase_of_readAddress {text : Bytes} {account : Address}
    (read : readAddress text = some account) : Text.toLowerCase text = addressText account :=
  toLowerCase_of_readMarked (readAddress_eq_some.mp read)

section Correct

variable {viem : Viem} (correct : viem.Correct)

include correct

theorem checksumAddress_injective :
    Function.Injective fun account => viem.checksumAddress (addressText account) := by
  intro account account' same
  apply addressText_injective
  rw [← correct.toLowerCase_checksumAddress account, ← correct.toLowerCase_checksumAddress account']
  exact congrArg _ same

theorem readAddress_checksumAddress (account : Address) :
    readAddress (viem.checksumAddress (addressText account)) = some account :=
  readAddress_eq_some.mpr (correct.readMarked_checksumAddress account)

end Correct

end RelaySettlement.LitDepositAddress
