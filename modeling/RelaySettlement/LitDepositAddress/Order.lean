import RelaySettlement.LitDepositAddress.Attestation

/-!
# Orders of triggers

An order fits a trigger if it moves the deposited amount to the recipient of the derivation fields
at a price that is not too far from the attested one.  Its id must be the one in the trigger, and
its solver must have signed that.

The price check reads the fields of the trigger again and does not use what was hashed.
-/

open Evm

namespace RelaySettlement

namespace LitDepositAddress

open Js

/-! ## The checks -/

/-- The only element of a list. -/
def single {α : Type} : List α → Option α
  | [value] => some value
  | _ => none

@[simp] theorem single_eq_some {α : Type} {values : List α} {value : α} :
    single values = some value ↔ values = [value] := by
  constructor
  · intro isValue
    unfold single at isValue
    split at isValue
    next => rw [Option.some.inj isValue]
    next => cases isValue
  · rintro rfl
    rfl

/-- `10n ** exponent`, which throws if the exponent is negative. -/
def powerOfTen (exponent : ℤ) : Option ℤ :=
  if exponent < 0 then none else some (10 ^ exponent.toNat)

/-- The price under the first entry for a currency. -/
def findPrice (trigger : DepositAddressTrigger) (chainId currency : Bytes) :
    Option DepositAddressTriggerPrice := do
  let i ← trigger.currencies.findIdx? fun entry => decide (entry.chainId = chainId ∧
    Text.toLowerCase entry.currency = Text.toLowerCase currency)
  trigger.prices[i]?

def checkRefund (trigger : DepositAddressTrigger) (orderRefund : InputRefund) : Option Unit := do
  ensure (orderRefund.chainId = trigger.input.chainId)
  ensure (Text.toLowerCase orderRefund.currency = Text.toLowerCase trigger.input.currency)
  ensure (Text.toLowerCase orderRefund.recipient =
    Text.toLowerCase trigger.derivationFields.refundRecipient)

/-- The input of the order and its refunds. -/
def checkInput (trigger : DepositAddressTrigger) (input : Input) : Option Unit := do
  let orderInput := input.payment
  ensure (orderInput.weight = .string (Abi.utf8 "1"))
  ensure (orderInput.chainId = trigger.input.chainId)
  ensure (Text.toLowerCase orderInput.currency = Text.toLowerCase trigger.input.currency)
  ensure (orderInput.amount = trigger.input.amount)
  ensure (1 ≤ input.refunds.length)
  input.refunds.forM (checkRefund trigger)

/-- The output of the order, which is returned. -/
def checkOutput (trigger : DepositAddressTrigger) (output : Output) : Option OutputPayment := do
  let orderOutput ← single output.payments
  ensure (output.calls.length = 0)
  ensure (output.chainId = trigger.derivationFields.outputChainId)
  ensure (Text.toLowerCase orderOutput.currency =
    Text.toLowerCase trigger.derivationFields.outputCurrency)
  ensure (Text.toLowerCase orderOutput.recipient =
    Text.toLowerCase trigger.derivationFields.outputRecipient)
  return orderOutput

def checkPriceImpact (nowSeconds : ℕ) (trigger : DepositAddressTrigger)
    (orderOutput : OutputPayment) : Option Unit := do
  let inputPrice ← findPrice trigger trigger.input.chainId trigger.input.currency
  let outputPrice ← findPrice trigger trigger.derivationFields.outputChainId
    trigger.derivationFields.outputCurrency
  let inputExpiration ← inputPrice.expiration.bigInt
  ensure ((nowSeconds : ℤ) < inputExpiration)
  let outputExpiration ← outputPrice.expiration.bigInt
  ensure ((nowSeconds : ℤ) < outputExpiration)
  let inputUsdScaled := (← trigger.input.amount.bigInt) * (← inputPrice.usdPrice.bigInt) *
    (← powerOfTen (← outputPrice.usdPriceDecimals.bigIntAdd outputPrice.currencyDecimals))
  let outputUsdScaled := (← orderOutput.minimumAmount.bigInt) * (← outputPrice.usdPrice.bigInt) *
    (← powerOfTen (← inputPrice.usdPriceDecimals.bigIntAdd inputPrice.currencyDecimals))
  let priceImpactBps ← trigger.derivationFields.priceImpactBps.bigInt
  ensure (priceImpactBps ≤ 10000)
  ensure (inputUsdScaled * (10000 - priceImpactBps) ≤ outputUsdScaled * 10000)

section Verify

variable (keccak : Bytes → Bytes32) (viem : Viem) (secp256k1 : Secp256k1)

/-- The id of the order and its signature, and the solver of the derivation fields. -/
def checkSolver (trigger : DepositAddressTrigger) (order : Order) (orderSignature : Bytes) :
    Option Unit := do
  let recomputedOrderId ← getOrderId keccak viem order
  ensure (Text.toLowerCase (writeHex (Abi.word recomputedOrderId)) =
    Text.toLowerCase trigger.orderId)
  let recovered ← recoverPersonalSignAddress keccak viem secp256k1 trigger.orderId orderSignature
  ensure (Text.toLowerCase recovered = Text.toLowerCase order.solver)
  let expectedVirtual ← generateAddress keccak viem order.solverChainId order.solver
  ensure (Text.toLowerCase expectedVirtual = Text.toLowerCase trigger.derivationFields.solver)

def verifyOrderData (nowSeconds : ℕ) (trigger : DepositAddressTrigger) (order : Order)
    (orderSignature : Bytes) : Option Unit := do
  let input ← single order.inputs
  checkInput trigger input
  let orderOutput ← checkOutput trigger order.output
  checkPriceImpact nowSeconds trigger orderOutput
  checkSolver keccak viem secp256k1 trigger order orderSignature

end Verify

/-! ## What an accepted order is -/

/-- The order moves what the trigger says. -/
structure OrderMatches (trigger : DepositAddressTrigger) (order : Order) (input : Input)
    (output : OutputPayment) : Prop where
  inputs : order.inputs = [input]
  weight : input.payment.weight = .string (Abi.utf8 "1")
  inputChainId : input.payment.chainId = trigger.input.chainId
  inputCurrency : Text.toLowerCase input.payment.currency =
    Text.toLowerCase trigger.input.currency
  amount : input.payment.amount = trigger.input.amount
  refunds : input.refunds ≠ []
  refund : ∀ refund ∈ input.refunds, refund.chainId = trigger.input.chainId ∧
    Text.toLowerCase refund.currency = Text.toLowerCase trigger.input.currency ∧
    Text.toLowerCase refund.recipient =
      Text.toLowerCase trigger.derivationFields.refundRecipient
  payments : order.output.payments = [output]
  calls : order.output.calls = []
  outputChainId : order.output.chainId = trigger.derivationFields.outputChainId
  outputCurrency : Text.toLowerCase output.currency =
    Text.toLowerCase trigger.derivationFields.outputCurrency
  outputRecipient : Text.toLowerCase output.recipient =
    Text.toLowerCase trigger.derivationFields.outputRecipient

section Spec

variable {keccak : Bytes → Bytes32} {viem : Viem} {secp256k1 : Secp256k1} {nowSeconds : ℕ}
variable {trigger : DepositAddressTrigger} {order : Order} {orderSignature : Bytes}

/-- The parts of the check. -/
theorem verifyOrderData_eq_some :
    verifyOrderData keccak viem secp256k1 nowSeconds trigger order orderSignature = some () ↔
      ∃ input output, OrderMatches trigger order input output ∧
        checkPriceImpact nowSeconds trigger output = some () ∧
        checkSolver keccak viem secp256k1 trigger order orderSignature = some () := by
  simp only [verifyOrderData, checkInput, checkRefund, checkOutput, bind_eq_some, exists_unit,
    single_eq_some, ensure_eq_some, forM_eq_some, Option.pure_def, Option.some_inj,
    List.length_eq_zero_iff, Nat.one_le_iff_ne_zero, Ne]
  constructor
  · rintro ⟨input, inputs, ⟨weight, chainId, currency, amount, nonempty, refund⟩, _,
      ⟨output, payments, calls, outputChainId, outputCurrency, outputRecipient, rfl⟩, priceImpact,
      solver⟩
    exact ⟨input, output, ⟨inputs, weight, chainId, currency, amount, nonempty, refund, payments,
      calls, outputChainId, outputCurrency, outputRecipient⟩, priceImpact, solver⟩
  · rintro ⟨input, output, fits, priceImpact, solver⟩
    exact ⟨input, fits.inputs, ⟨fits.weight, fits.inputChainId, fits.inputCurrency, fits.amount,
      fits.refunds, fits.refund⟩, output, ⟨output, fits.payments, fits.calls, fits.outputChainId,
      fits.outputCurrency, fits.outputRecipient, rfl⟩, priceImpact, solver⟩

/-- The id of the order is the one of the trigger, its solver has signed it, and the solver of the
derivation fields is the alias of that solver on the hub. -/
theorem signed_of_checkSolver {signed : Address → Bytes32 → ℕ × ℕ × ℕ → Prop}
    (correct : viem.Correct) (sound : secp256k1.Sound keccak signed) {triggerHash : Bytes32}
    (isHash : getDepositAddressTriggerHash keccak viem trigger = some triggerHash)
    (checked : checkSolver keccak viem secp256k1 trigger order orderSignature = some ()) :
    ∃ solver orderId, readAddress order.solver = some solver ∧
      getOrderId keccak viem order = some orderId ∧
      readMarked trigger.orderId = some (Abi.word orderId) ∧
      readAddress trigger.derivationFields.solver = some (Utils.generateAddress keccak
        order.solverChainId (Abi.bigEndian 20 solver.toNat)) ∧
      ∃ numbers, readSignature orderSignature = some numbers ∧
        signed solver (personalDigest keccak (Abi.word orderId)) numbers := by
  simp only [checkSolver, bind_eq_some, ensure_eq_some] at checked
  obtain ⟨orderId, isOrderId, _, sameId, recovered, isRecovered, _, sameSolver, virtual, isVirtual,
    sameVirtual⟩ := checked
  obtain ⟨_, isEncodedSolver⟩ := encodeAddress_of_orderId isOrderId
  obtain ⟨solver, isSolver, _⟩ := correct.exists_of_encodeAddress _ _ isEncodedSolver
  obtain ⟨⟨_, isEncodedId⟩, ⟨_, isEncodedAlias⟩, _⟩ := encodings_of_triggerHash isHash
  obtain ⟨account, isAlias, _⟩ := correct.exists_of_encodeAddress _ _ isEncodedAlias
  have isAccount := readAddress_eq_some.mpr isSolver
  -- The texts of the two ids differ at most in the case of their digits.
  rw [toLowerCase_writeHex] at sameId
  have length : trigger.orderId.length = 66 := by
    have lengths := congrArg List.length sameId
    rw [Text.length_toLowerCase] at lengths
    rw [← lengths, writeHex, List.length_cons, List.length_cons, Text.length_hex, Abi.word,
      Abi.length_bigEndian]
  have isRead := (correct.encodeBytes32 _ _ length).mp isEncodedId
  rw [toLowerCase_of_readMarked isRead] at sameId
  cases writeHex_inj sameId
  refine ⟨solver, orderId, isAccount, isOrderId, isRead, ?_, ?_⟩
  · simp only [generateAddress, correct.toBytes _ _ isSolver, some_bind, getAddress,
      readAddress_addressText, Option.map_some, Option.some_inj] at isVirtual
    rw [← isVirtual, correct.toLowerCase_checksumAddress,
      toLowerCase_of_readAddress (readAddress_eq_some.mpr isAlias)] at sameVirtual
    rw [addressText_injective sameVirtual]
    exact readAddress_eq_some.mpr isAlias
  · exact signed_of_recoverPersonalSignAddress correct sound isRead isRecovered sameSolver
      isAccount

end Spec

/-! ## The price impact -/

theorem powerOfTen_natCast (exponent : ℕ) : powerOfTen exponent = some (10 ^ exponent) := by
  rw [powerOfTen, if_neg (Int.not_lt.mpr (Int.natCast_nonneg _)), Int.toNat_natCast]

theorem mem_prices_of_findPrice {trigger : DepositAddressTrigger} {chainId currency : Bytes}
    {price : DepositAddressTriggerPrice}
    (found : findPrice trigger chainId currency = some price) : price ∈ trigger.prices := by
  rw [findPrice, bind_eq_some] at found
  obtain ⟨i, _, isPrice⟩ := found
  exact List.mem_of_getElem? isPrice

/-- The value of the output is at least that of the input, less the price impact, for the
integers in the trigger and in the order.  Both prices are still valid. -/
def PriceImpactHolds (nowSeconds : ℕ) (trigger : DepositAddressTrigger) (order : Order) : Prop :=
  ∃ (output : OutputPayment) (amount minimumAmount priceImpactBps : U256)
    (inputPrice outputPrice : DepositAddressTriggerPrice) (input' output' : PriceValues),
    order.output.payments = [output] ∧
    trigger.input.amount.bigInt = some (amount.toNat : ℤ) ∧
    output.minimumAmount.bigInt = some (minimumAmount.toNat : ℤ) ∧
    trigger.derivationFields.priceImpactBps.bigInt = some (priceImpactBps.toNat : ℤ) ∧
    findPrice trigger trigger.input.chainId trigger.input.currency = some inputPrice ∧
    findPrice trigger trigger.derivationFields.outputChainId
      trigger.derivationFields.outputCurrency = some outputPrice ∧
    inputPrice.Denotes input' ∧ outputPrice.Denotes output' ∧
    nowSeconds < input'.expiration.toNat ∧ nowSeconds < output'.expiration.toNat ∧
    priceImpactBps.toNat ≤ 10000 ∧
    (amount.toNat : ℚ) * input'.usdPrice.toNat /
          10 ^ (input'.usdPriceDecimals.toNat + input'.currencyDecimals.toNat) *
        ((10000 - priceImpactBps.toNat) / 10000) ≤
      (minimumAmount.toNat : ℚ) * output'.usdPrice.toNat /
        10 ^ (output'.usdPriceDecimals.toNat + output'.currencyDecimals.toNat)

/-- The check for a given reading of the fields. -/
theorem checkPriceImpact_eq_some {nowSeconds : ℕ} {trigger : DepositAddressTrigger}
    {output : OutputPayment} {inputPrice outputPrice : DepositAddressTriggerPrice}
    {input' output' : PriceValues} {amount minimumAmount bps : ℤ} {inputScale outputScale : ℕ}
    (isInput : findPrice trigger trigger.input.chainId trigger.input.currency = some inputPrice)
    (isOutput : findPrice trigger trigger.derivationFields.outputChainId
      trigger.derivationFields.outputCurrency = some outputPrice)
    (inputDenotes : inputPrice.Denotes input') (outputDenotes : outputPrice.Denotes output')
    (isAmount : trigger.input.amount.bigInt = some amount)
    (isMinimumAmount : output.minimumAmount.bigInt = some minimumAmount)
    (isBps : trigger.derivationFields.priceImpactBps.bigInt = some bps)
    (isInputScale : inputPrice.usdPriceDecimals.bigIntAdd inputPrice.currencyDecimals =
      some (inputScale : ℤ))
    (isOutputScale : outputPrice.usdPriceDecimals.bigIntAdd outputPrice.currencyDecimals =
      some (outputScale : ℤ)) :
    checkPriceImpact nowSeconds trigger output = some () ↔
      nowSeconds < input'.expiration.toNat ∧ nowSeconds < output'.expiration.toNat ∧
        bps ≤ 10000 ∧
        amount * input'.usdPrice.toNat * 10 ^ outputScale * (10000 - bps) ≤
          minimumAmount * output'.usdPrice.toNat * 10 ^ inputScale * 10000 := by
  simp only [checkPriceImpact, isInput, isOutput, inputDenotes.expiration, outputDenotes.expiration,
    inputDenotes.usdPrice, outputDenotes.usdPrice, isAmount, isMinimumAmount, isBps, isInputScale,
    isOutputScale, powerOfTen_natCast, Option.bind_eq_bind, Option.bind_some,
    Option.bind_eq_some_iff, ensure_eq_some, Nat.cast_lt, exists_const]

/-- The comparison of the source, in which each side is scaled by the decimals of the other. -/
theorem ratio_le_of_scaled_le {input output factor : ℤ} {m n k : ℕ} (positive : 0 ≤ input)
    (nonnegative : 0 ≤ factor) (atLeast : n ≤ k)
    (scaled : input * 10 ^ k * factor ≤ output * 10 ^ m * 10000) :
    (input : ℚ) / 10 ^ m * (factor / 10000) ≤ (output : ℚ) / 10 ^ n := by
  have shorter : input * 10 ^ n * factor ≤ output * 10 ^ m * 10000 :=
    le_trans (mul_le_mul_of_nonneg_right (mul_le_mul_of_nonneg_left
      (pow_le_pow_right₀ (by decide) atLeast) positive) nonnegative) scaled
  have rational : (input : ℚ) * 10 ^ n * factor ≤ output * 10 ^ m * 10000 := by
    exact_mod_cast shorter
  rw [div_mul_div_comm, div_le_div_iff₀ (by positivity) (by positivity)]
  calc (input : ℚ) * factor * 10 ^ n = input * 10 ^ n * factor := by ring
    _ ≤ output * 10 ^ m * 10000 := rational
    _ = output * (10 ^ m * 10000) := by ring

/-- The check is right if the decimals of the input price are numbers.  Texts among those of the
output price only make it stricter. -/
theorem priceImpactHolds_of_numbers {keccak : Bytes → Bytes32} {viem : Viem}
    {secp256k1 : Secp256k1} {nowSeconds : ℕ} {trigger : DepositAddressTrigger} {order : Order}
    {orderSignature : Bytes} {triggerHash : Bytes32}
    (isHash : getDepositAddressTriggerHash keccak viem trigger = some triggerHash)
    (accepted : verifyOrderData keccak viem secp256k1 nowSeconds trigger order orderSignature =
      some ())
    (decimal : ∀ price ∈ trigger.prices,
      price.usdPriceDecimals.IsDecimal ∧ price.currencyDecimals.IsDecimal)
    (numbers : ∀ price,
      findPrice trigger trigger.input.chainId trigger.input.currency = some price →
      price.usdPriceDecimals.kind = .number ∧ price.currencyDecimals.kind = .number) :
    PriceImpactHolds nowSeconds trigger order := by
  obtain ⟨_, output, fits, priceImpact, solver⟩ := verifyOrderData_eq_some.mp accepted
  obtain ⟨_, _, ⟨amount, isAmount⟩, ⟨bps, isBps⟩, prices⟩ := encodings_of_triggerHash isHash
  rw [checkSolver, bind_eq_some] at solver
  obtain ⟨_, isOrderId, _⟩ := solver
  obtain ⟨minimumAmount, isMinimumAmount⟩ := minimumAmount_of_orderId isOrderId
    (fits.payments ▸ List.mem_singleton_self output)
  have parts := priceImpact
  rw [checkPriceImpact, bind_eq_some] at parts
  obtain ⟨inputPrice, isInput, parts⟩ := parts
  obtain ⟨outputPrice, isOutput, _⟩ := bind_eq_some.mp parts
  obtain ⟨input', inputDenotes⟩ := prices inputPrice (mem_prices_of_findPrice isInput)
  obtain ⟨output', outputDenotes⟩ := prices outputPrice (mem_prices_of_findPrice isOutput)
  have small (decimals : BitVec 8) : decimals.toNat < 2 ^ 52 :=
    decimals.isLt.trans (by decide)
  have isInputScale : inputPrice.usdPriceDecimals.bigIntAdd inputPrice.currencyDecimals =
      some ((input'.usdPriceDecimals.toNat + input'.currencyDecimals.toNat : ℕ) : ℤ) := by
    rw [Scalar.bigIntAdd_of_kind (numbers inputPrice isInput).1 (numbers inputPrice isInput).2
      (small _) (small _) inputDenotes.usdPriceDecimals inputDenotes.currencyDecimals]
  obtain ⟨usdDecimal, currencyDecimal⟩ :=
    decimal outputPrice (mem_prices_of_findPrice isOutput)
  obtain ⟨outputScale, isOutputScale, atLeast⟩ := Scalar.le_bigIntAdd usdDecimal currencyDecimal
    (small _) (small _) outputDenotes.usdPriceDecimals outputDenotes.currencyDecimals
  obtain ⟨inputValid, outputValid, bounded, scaled⟩ := (checkPriceImpact_eq_some isInput isOutput
    inputDenotes outputDenotes isAmount isMinimumAmount isBps isInputScale isOutputScale).mp
    priceImpact
  refine ⟨output, amount, minimumAmount, bps, inputPrice, outputPrice, input', output',
    fits.payments, isAmount, isMinimumAmount, isBps, isInput, isOutput, inputDenotes,
    outputDenotes, inputValid, outputValid, Int.ofNat_le.mp bounded, ?_⟩
  have ratio := ratio_le_of_scaled_le (by positivity) (Int.sub_nonneg_of_le bounded) atLeast
    scaled
  push_cast at ratio
  exact ratio

/-! ## Decimals that are texts -/

namespace SampleDeposit

/-- A stand-in for the hash function: a public key is hashed to its number. -/
def keccak : Bytes → Bytes32
  | 1 :: number => BitVec.ofNat 256 (Abi.readBigEndian number)
  | _ => 7

def viem : Viem where
  checksumAddress := id
  encodeBytes := fun text => (readMarked text).map fun data =>
    Abi.bigEndian 32 data.length ++ Abi.padRight data
  encodeBytes32 := readMarked
  encodeAddress := fun text => (readAddress text).map fun account =>
    Abi.word (account.setWidth 256)
  toBytes := readMarked

/-- A signature holds the account and the digest. -/
def signature (account : ℕ) (digest : Bytes32) : Bytes :=
  writeHex (Abi.bigEndian 32 account ++ Abi.word digest ++ [27])

def secp256k1 : Secp256k1 where
  recoverPublicKey := fun r s _ digest =>
    if s = digest.toNat then some (4 :: 1 :: Abi.bigEndian 32 r) else none

theorem zero_small : 0 < 2 ^ 53 := by decide

theorem one_small : 1 < 2 ^ 53 := by decide

def config : Config where
  depositAddressManagerAddress := addressText 80
  hubEvmChainId := Number.ofNat 1 one_small
  allowedOracles := [addressText 10, addressText 11, addressText 12]
  oracleSignatureThreshold := 2

def orderId : Bytes := writeHex (Abi.word 7)

/-- A deposit of 20 units of the native currency. -/
def base : DepositAddressTrigger where
  input := {
    vmType := Abi.utf8 "ethereum-vm"
    chainId := Abi.utf8 "a"
    currency := addressText 0
    amount := .string (Abi.utf8 "20") }
  derivationFields := {
    inputVmType := Abi.utf8 "ethereum-vm"
    outputVmType := Abi.utf8 "ethereum-vm"
    outputChainId := Abi.utf8 "b"
    outputCurrency := Abi.utf8 "0x"
    outputRecipient := Abi.utf8 "0x"
    solver := addressText 7
    pricingOracle := addressText 81
    depositor := addressText 30
    refundRecipient := Abi.utf8 "0x"
    priceImpactBps := .string (Abi.utf8 "0")
    salt := .string (Abi.utf8 "0") }
  orderId := orderId
  nonce := .string (Abi.utf8 "0")
  currencies := [⟨Abi.utf8 "a", addressText 0⟩, ⟨Abi.utf8 "b", Abi.utf8 "0x"⟩]
  prices := []
  extraData := Abi.utf8 "0x"

/-- A price of 1, valid up to time 100. -/
def price (usdPriceDecimals currencyDecimals : Scalar) : DepositAddressTriggerPrice where
  usdPrice := .string (Text.decimal 1)
  usdPriceDecimals := usdPriceDecimals
  currencyDecimals := currencyDecimals
  publishTime := .string (Text.decimal 0)
  expiration := .string (Text.decimal 100)

/-- The input has one decimal and the output none. -/
def trigger (usdKind currencyKind : Scalar.Kind) : DepositAddressTrigger :=
  { base with prices := [
    price (.ofKind usdKind 1 one_small) (.ofKind currencyKind 0 zero_small),
    price (.ofKind .number 0 zero_small) (.ofKind .number 0 zero_small)] }

def attestation : DepositAddressTriggerAttestation where
  chainId := .number (Number.ofNat 1 one_small)
  depositAddressManager := addressText 80
  inputDepository := addressText 90
  triggerHash := writeHex (Abi.word 7)
  signatures := [⟨addressText 10, signature 10 7⟩, ⟨addressText 11, signature 11 7⟩]

def input : Input where
  payment := ⟨Abi.utf8 "a", addressText 0, .string (Abi.utf8 "20"), .string (Abi.utf8 "1")⟩
  refunds := [⟨Abi.utf8 "a", Abi.utf8 "0x", addressText 0, .string (Abi.utf8 "0"),
    .number (Number.ofNat 0 (by decide)), Abi.utf8 "0x"⟩]

def output (minimumAmount : ℕ) : OutputPayment :=
  ⟨Abi.utf8 "0x", Abi.utf8 "0x", .string (Text.decimal minimumAmount), .string (Abi.utf8 "0")⟩

/-- The order of account 5. -/
def order (minimumAmount : ℕ) : Order where
  version := Abi.utf8 "v1"
  solverChainId := Abi.utf8 "b"
  solver := addressText 5
  salt := .string (Abi.utf8 "0")
  inputs := [input]
  output := {
    chainId := Abi.utf8 "b"
    payments := [output minimumAmount]
    calls := []
    deadline := .number (Number.ofNat 0 (by decide))
    extraData := Abi.utf8 "0x" }
  fees := []

theorem attested (usdKind currencyKind : Scalar.Kind) :
    verifyDepositAddressTriggerAttestation keccak viem secp256k1 config
      (trigger usdKind currencyKind) attestation = some () := by
  have isHash : getDepositAddressTriggerHash keccak viem (trigger usdKind currencyKind) =
      some 7 := by
    cases usdKind <;> cases currencyKind <;> decide +kernel
  rw [verifyDepositAddressTriggerAttestation, isHash]
  decide +kernel

/-- The numbers of the trigger, and the positions of its two currencies. -/
theorem base_evaluates :
    base.input.amount.bigInt = some 20 ∧ base.derivationFields.priceImpactBps.bigInt = some 0 ∧
    base.currencies.findIdx? (fun entry => decide (entry.chainId = base.input.chainId ∧
      Text.toLowerCase entry.currency = Text.toLowerCase base.input.currency)) = some 0 ∧
    base.currencies.findIdx? (fun entry =>
      decide (entry.chainId = base.derivationFields.outputChainId ∧
        Text.toLowerCase entry.currency =
          Text.toLowerCase base.derivationFields.outputCurrency)) = some 1 := by
  decide +kernel

theorem price_denotes {usdPriceDecimals currencyDecimals : Scalar} {m n : BitVec 8}
    (isUsd : usdPriceDecimals.bigInt = some (m.toNat : ℤ))
    (isCurrency : currencyDecimals.bigInt = some (n.toNat : ℤ)) :
    (price usdPriceDecimals currencyDecimals).Denotes ⟨1, m, n, 0, 100⟩ := by
  constructor
  · exact bigInt_decimal 1
  · exact isUsd
  · exact isCurrency
  · exact bigInt_decimal 0
  · exact bigInt_decimal 100

section Kinds

variable (usdKind currencyKind : Scalar.Kind)

theorem inputPrice_denotes : (price (.ofKind usdKind 1 (by decide))
    (.ofKind currencyKind 0 (by decide))).Denotes ⟨1, 1, 0, 0, 100⟩ :=
  price_denotes (Scalar.bigInt_ofKind _ _) (Scalar.bigInt_ofKind _ _)

theorem outputPrice_denotes : (price (.ofKind .number 0 (by decide))
    (.ofKind .number 0 (by decide))).Denotes ⟨1, 0, 0, 0, 100⟩ :=
  price_denotes (Scalar.bigInt_ofKind _ _) (Scalar.bigInt_ofKind _ _)

theorem findPrice_input : findPrice (trigger usdKind currencyKind) base.input.chainId
    base.input.currency = some (price (.ofKind usdKind 1 (by decide))
      (.ofKind currencyKind 0 (by decide))) := by
  rw [findPrice, trigger, base_evaluates.2.2.1]
  rfl

theorem findPrice_output : findPrice (trigger usdKind currencyKind)
    base.derivationFields.outputChainId base.derivationFields.outputCurrency =
      some (price (.ofKind .number 0 (by decide)) (.ofKind .number 0 (by decide))) := by
  rw [findPrice, trigger, base_evaluates.2.2.2]
  rfl

/-- Decimals that are concatenated make the scale of the input price large enough. -/
theorem accepted (others : ¬ (usdKind = .number ∧ currencyKind = .number)) :
    verifyOrderData keccak viem secp256k1 50 (trigger usdKind currencyKind) (order 1)
      (signature 5 7) = some () := by
  cases usdKind <;> cases currencyKind
  case number.number => exact absurd ⟨rfl, rfl⟩ others
  all_goals decide +kernel

theorem accepted_numbers :
    verifyOrderData keccak viem secp256k1 50 (trigger .number .number) (order 2)
      (signature 5 7) = some () := by
  decide +kernel

/-- One unit is not the value of 20 units of which ten make one. -/
theorem not_priceImpactHolds : ¬ PriceImpactHolds 50 (trigger usdKind currencyKind) (order 1) := by
  rintro ⟨_, amount, minimumAmount, bps, _, _, _, _, isPayment, isAmount, isMinimumAmount, isBps,
    isInput, isOutput, inputDenotes, outputDenotes, _, _, _, ratio⟩
  cases isPayment
  cases (findPrice_input usdKind currencyKind).symm.trans isInput
  cases (findPrice_output usdKind currencyKind).symm.trans isOutput
  cases inputDenotes.unique (inputPrice_denotes usdKind currencyKind)
  cases outputDenotes.unique outputPrice_denotes
  have amountIs : amount.toNat = 20 :=
    Int.ofNat.inj (Option.some.inj (isAmount.symm.trans base_evaluates.1))
  have bpsIs : bps.toNat = 0 :=
    Int.ofNat.inj (Option.some.inj (isBps.symm.trans base_evaluates.2.1))
  have minimumAmountIs : minimumAmount.toNat = 1 :=
    Int.ofNat.inj (Option.some.inj (isMinimumAmount.symm.trans (bigInt_decimal 1)))
  rw [amountIs, bpsIs, minimumAmountIs] at ratio
  have value : ((20 : ℕ) : ℚ) * (1 : ℕ) / 10 ^ (1 + 0) * ((10000 - (0 : ℕ)) / 10000) ≤
      ((1 : ℕ) : ℚ) * (1 : ℕ) / 10 ^ (0 + 0) := ratio
  norm_num at value

theorem decimals_isDecimal : ∀ price ∈ (trigger usdKind currencyKind).prices,
    price.usdPriceDecimals.IsDecimal ∧ price.currencyDecimals.IsDecimal := by
  intro price listed
  simp only [trigger, List.mem_cons, List.not_mem_nil, or_false] at listed
  rcases listed with rfl | rfl
  · exact ⟨Scalar.isDecimal_ofKind usdKind _, Scalar.isDecimal_ofKind currencyKind _⟩
  · exact ⟨Scalar.isDecimal_ofKind .number _, Scalar.isDecimal_ofKind .number _⟩

theorem inputPrice_kind (price : DepositAddressTriggerPrice)
    (found : findPrice (trigger usdKind currencyKind) (trigger usdKind currencyKind).input.chainId
      (trigger usdKind currencyKind).input.currency = some price) :
    price.usdPriceDecimals.kind = usdKind ∧ price.currencyDecimals.kind = currencyKind := by
  cases (findPrice_input usdKind currencyKind).symm.trans found
  exact ⟨Scalar.kind_ofKind _ _, Scalar.kind_ofKind _ _⟩

end Kinds

end SampleDeposit

end LitDepositAddress

open LitDepositAddress

/-- The price impact of an accepted order is bounded whenever the decimals of the input price are
JSON numbers, and in no other form they may be given in: as texts, they are concatenated. -/
theorem price_impact_holds_iff_decimals_numbers (usdKind currencyKind : Js.Scalar.Kind) :
    (∀ (keccak : Bytes → Bytes32) (viem : Viem) (secp256k1 : Secp256k1) (config : Config)
      (nowSeconds : ℕ) (trigger : DepositAddressTrigger)
      (attestation : DepositAddressTriggerAttestation) (order : Order) (orderSignature : Bytes),
      verifyDepositAddressTriggerAttestation keccak viem secp256k1 config trigger attestation =
        some () →
      verifyOrderData keccak viem secp256k1 nowSeconds trigger order orderSignature = some () →
      (∀ price ∈ trigger.prices,
        price.usdPriceDecimals.IsDecimal ∧ price.currencyDecimals.IsDecimal) →
      (∀ price, findPrice trigger trigger.input.chainId trigger.input.currency = some price →
        price.usdPriceDecimals.kind = usdKind ∧ price.currencyDecimals.kind = currencyKind) →
      PriceImpactHolds nowSeconds trigger order) ↔
      usdKind = .number ∧ currencyKind = .number := by
  constructor
  · intro holds
    by_contra others
    apply SampleDeposit.not_priceImpactHolds usdKind currencyKind
    apply holds _ _ _ _ _ _ _ _ _ (SampleDeposit.attested usdKind currencyKind)
      (SampleDeposit.accepted usdKind currencyKind others)
      (SampleDeposit.decimals_isDecimal usdKind currencyKind)
      (SampleDeposit.inputPrice_kind usdKind currencyKind)
  · rintro ⟨rfl, rfl⟩
    intro keccak viem secp256k1 config nowSeconds trigger attestation order orderSignature attested
      accepted decimal numbers
    rw [verifyDepositAddressTriggerAttestation, bind_eq_some] at attested
    obtain ⟨triggerHash, isHash, _⟩ := attested
    exact priceImpactHolds_of_numbers isHash accepted decimal numbers

open SampleDeposit in
theorem price_impact_holds_iff_decimals_numbers_sample :
    PriceImpactHolds 50 (trigger .number .number) (order 2) := by
  exact (price_impact_holds_iff_decimals_numbers .number .number).mpr ⟨rfl, rfl⟩ _ _ _ _ _ _ _ _ _
    (attested .number .number) accepted_numbers
    (decimals_isDecimal .number .number) (inputPrice_kind .number .number)

open SampleDeposit in
/-- With the decimals `"1"` and `"0"` the input is scaled by `10 ^ 10` and not by `10`. -/
theorem price_impact_exceeded_with_text_decimals :
    verifyDepositAddressTriggerAttestation keccak viem secp256k1 config (trigger .string .string)
        attestation = some () ∧
      verifyOrderData keccak viem secp256k1 50 (trigger .string .string) (order 1)
        (signature 5 7) = some () ∧
      (∀ price ∈ (trigger .string .string).prices,
        price.usdPriceDecimals.IsDecimal ∧ price.currencyDecimals.IsDecimal) ∧
      ¬ PriceImpactHolds 50 (trigger .string .string) (order 1) := by
  exact ⟨attested .string .string, accepted .string .string (by decide),
    decimals_isDecimal .string .string, not_priceImpactHolds .string .string⟩

end RelaySettlement
