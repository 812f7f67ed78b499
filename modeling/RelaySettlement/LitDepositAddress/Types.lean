import RelaySettlement.Js.Json

/-!
# Requests to the deposit-address actions

A request comes from the caller as JSON, and the actions take the fields of the objects as they
find them.  Fields that are texts in the declared types are byte strings here.  A field that is
turned into a number may be a JSON number or a text, whichever it is declared as, because nothing
checks that before it is used.
-/

open Evm

namespace RelaySettlement.LitDepositAddress

open Js

/-- The families of virtual machines, one bundle each. -/
inductive VmType where
  | ethereumVm
  | bitcoinVm
  | solanaVm
  | hyperliquidVm
  | tonVm
  | tronVm
deriving DecidableEq

def VmType.name : VmType → Bytes
  | .ethereumVm => Abi.utf8 "ethereum-vm"
  | .bitcoinVm => Abi.utf8 "bitcoin-vm"
  | .solanaVm => Abi.utf8 "solana-vm"
  | .hyperliquidVm => Abi.utf8 "hyperliquid-vm"
  | .tonVm => Abi.utf8 "ton-vm"
  | .tronVm => Abi.utf8 "tron-vm"

structure AccountInfo where
  vmType : VmType
  accountPath : Bytes
  publicKey : Bytes
  extendedPublicKey : Bytes

structure WalletInfo where
  vmType : VmType
  indexes : List ℕ
  path : Bytes
  address : Bytes
  publicKey : Bytes
deriving DecidableEq

/-! ## Triggers -/

structure DepositAddressTriggerInput where
  vmType : Bytes
  chainId : Bytes
  currency : Bytes
  amount : Scalar
deriving DecidableEq

def DepositAddressTriggerInput.ofJson (json : Json) : Option DepositAddressTriggerInput := do
  return {
    vmType := ← json.field "vmType" Json.text
    chainId := ← json.field "chainId" Json.text
    currency := ← json.field "currency" Json.text
    amount := ← json.field "amount" Json.scalar }

structure DepositAddressTriggerDerivationFields where
  inputVmType : Bytes
  outputVmType : Bytes
  outputChainId : Bytes
  outputCurrency : Bytes
  outputRecipient : Bytes
  solver : Bytes
  pricingOracle : Bytes
  depositor : Bytes
  refundRecipient : Bytes
  priceImpactBps : Scalar
  salt : Scalar
deriving DecidableEq

def DepositAddressTriggerDerivationFields.ofJson (json : Json) :
    Option DepositAddressTriggerDerivationFields := do
  return {
    inputVmType := ← json.field "inputVmType" Json.text
    outputVmType := ← json.field "outputVmType" Json.text
    outputChainId := ← json.field "outputChainId" Json.text
    outputCurrency := ← json.field "outputCurrency" Json.text
    outputRecipient := ← json.field "outputRecipient" Json.text
    solver := ← json.field "solver" Json.text
    pricingOracle := ← json.field "pricingOracle" Json.text
    depositor := ← json.field "depositor" Json.text
    refundRecipient := ← json.field "refundRecipient" Json.text
    priceImpactBps := ← json.field "priceImpactBps" Json.scalar
    salt := ← json.field "salt" Json.scalar }

structure DepositAddressTriggerCurrency where
  chainId : Bytes
  currency : Bytes
deriving DecidableEq

def DepositAddressTriggerCurrency.ofJson (json : Json) :
    Option DepositAddressTriggerCurrency := do
  return {
    chainId := ← json.field "chainId" Json.text
    currency := ← json.field "currency" Json.text }

structure DepositAddressTriggerPrice where
  usdPrice : Scalar
  usdPriceDecimals : Scalar
  currencyDecimals : Scalar
  publishTime : Scalar
  expiration : Scalar
deriving DecidableEq

def DepositAddressTriggerPrice.ofJson (json : Json) : Option DepositAddressTriggerPrice := do
  return {
    usdPrice := ← json.field "usdPrice" Json.scalar
    usdPriceDecimals := ← json.field "usdPriceDecimals" Json.scalar
    currencyDecimals := ← json.field "currencyDecimals" Json.scalar
    publishTime := ← json.field "publishTime" Json.scalar
    expiration := ← json.field "expiration" Json.scalar }

structure DepositAddressTrigger where
  input : DepositAddressTriggerInput
  derivationFields : DepositAddressTriggerDerivationFields
  orderId : Bytes
  nonce : Scalar
  currencies : List DepositAddressTriggerCurrency
  prices : List DepositAddressTriggerPrice
  extraData : Bytes
deriving DecidableEq

def DepositAddressTrigger.ofJson (json : Json) : Option DepositAddressTrigger := do
  return {
    input := ← json.field "input" DepositAddressTriggerInput.ofJson
    derivationFields :=
      ← json.field "derivationFields" DepositAddressTriggerDerivationFields.ofJson
    orderId := ← json.field "orderId" Json.text
    nonce := ← json.field "nonce" Json.scalar
    currencies := ← json.field "currencies" (Json.list DepositAddressTriggerCurrency.ofJson)
    prices := ← json.field "prices" (Json.list DepositAddressTriggerPrice.ofJson)
    extraData := ← json.field "extraData" Json.text }

/-! ## Attestations -/

structure DepositAddressTriggerSignature where
  oracleSigner : Bytes
  signature : Bytes
deriving DecidableEq

def DepositAddressTriggerSignature.ofJson (json : Json) :
    Option DepositAddressTriggerSignature := do
  return {
    oracleSigner := ← json.field "oracleSigner" Json.text
    signature := ← json.field "signature" Json.text }

structure DepositAddressTriggerAttestation where
  chainId : Scalar
  depositAddressManager : Bytes
  inputDepository : Bytes
  triggerHash : Bytes
  signatures : List DepositAddressTriggerSignature
deriving DecidableEq

def DepositAddressTriggerAttestation.ofJson (json : Json) :
    Option DepositAddressTriggerAttestation := do
  return {
    chainId := ← json.field "chainId" Json.scalar
    depositAddressManager := ← json.field "depositAddressManager" Json.text
    inputDepository := ← json.field "inputDepository" Json.text
    triggerHash := ← json.field "triggerHash" Json.text
    signatures := ← json.field "signatures" (Json.list DepositAddressTriggerSignature.ofJson) }

/-! ## Orders -/

structure InputPayment where
  chainId : Bytes
  currency : Bytes
  amount : Scalar
  weight : Scalar
deriving DecidableEq

def InputPayment.ofJson (json : Json) : Option InputPayment := do
  return {
    chainId := ← json.field "chainId" Json.text
    currency := ← json.field "currency" Json.text
    amount := ← json.field "amount" Json.scalar
    weight := ← json.field "weight" Json.scalar }

structure InputRefund where
  chainId : Bytes
  recipient : Bytes
  currency : Bytes
  minimumAmount : Scalar
  deadline : Scalar
  extraData : Bytes
deriving DecidableEq

def InputRefund.ofJson (json : Json) : Option InputRefund := do
  return {
    chainId := ← json.field "chainId" Json.text
    recipient := ← json.field "recipient" Json.text
    currency := ← json.field "currency" Json.text
    minimumAmount := ← json.field "minimumAmount" Json.scalar
    deadline := ← json.field "deadline" Json.scalar
    extraData := ← json.field "extraData" Json.text }

structure Input where
  payment : InputPayment
  refunds : List InputRefund
deriving DecidableEq

def Input.ofJson (json : Json) : Option Input := do
  return {
    payment := ← json.field "payment" InputPayment.ofJson
    refunds := ← json.field "refunds" (Json.list InputRefund.ofJson) }

structure OutputPayment where
  recipient : Bytes
  currency : Bytes
  minimumAmount : Scalar
  expectedAmount : Scalar
deriving DecidableEq

def OutputPayment.ofJson (json : Json) : Option OutputPayment := do
  return {
    recipient := ← json.field "recipient" Json.text
    currency := ← json.field "currency" Json.text
    minimumAmount := ← json.field "minimumAmount" Json.scalar
    expectedAmount := ← json.field "expectedAmount" Json.scalar }

structure Output where
  chainId : Bytes
  payments : List OutputPayment
  calls : List Bytes
  deadline : Scalar
  extraData : Bytes
deriving DecidableEq

def Output.ofJson (json : Json) : Option Output := do
  return {
    chainId := ← json.field "chainId" Json.text
    payments := ← json.field "payments" (Json.list OutputPayment.ofJson)
    calls := ← json.field "calls" (Json.list Json.text)
    deadline := ← json.field "deadline" Json.scalar
    extraData := ← json.field "extraData" Json.text }

structure Fee where
  recipientChainId : Bytes
  recipient : Bytes
  currencyChainId : Bytes
  currency : Bytes
  amount : Scalar
deriving DecidableEq

def Fee.ofJson (json : Json) : Option Fee := do
  return {
    recipientChainId := ← json.field "recipientChainId" Json.text
    recipient := ← json.field "recipient" Json.text
    currencyChainId := ← json.field "currencyChainId" Json.text
    currency := ← json.field "currency" Json.text
    amount := ← json.field "amount" Json.scalar }

structure Order where
  version : Bytes
  solverChainId : Bytes
  solver : Bytes
  salt : Scalar
  inputs : List Input
  output : Output
  fees : List Fee
deriving DecidableEq

def Order.ofJson (json : Json) : Option Order := do
  return {
    version := ← json.field "version" Json.text
    solverChainId := ← json.field "solverChainId" Json.text
    solver := ← json.field "solver" Json.text
    salt := ← json.field "salt" Json.scalar
    inputs := ← json.field "inputs" (Json.list Input.ofJson)
    output := ← json.field "output" Output.ofJson
    fees := ← json.field "fees" (Json.list Fee.ofJson) }

/-! ## Requests -/

structure ActionParams (Tx : Type) where
  pkpId : Bytes
  action : Bytes
  vmType : Option Bytes
  derivationFields : Option DepositAddressTriggerDerivationFields
  trigger : Option DepositAddressTrigger
  attestation : Option DepositAddressTriggerAttestation
  order : Option Order
  orderSignature : Option Bytes
  requestSignature : Option Bytes
  transactions : Option (List Tx)
deriving DecidableEq

def ActionParams.ofJson {Tx : Type} (transaction : Json → Option Tx) (json : Json) :
    Option (ActionParams Tx) := do
  return {
    pkpId := ← json.field "pkpId" Json.text
    action := ← json.field "action" Json.text
    vmType := ← json.optional "vmType" Json.text
    derivationFields :=
      ← json.optional "derivationFields" DepositAddressTriggerDerivationFields.ofJson
    trigger := ← json.optional "trigger" DepositAddressTrigger.ofJson
    attestation := ← json.optional "attestation" DepositAddressTriggerAttestation.ofJson
    order := ← json.optional "order" Order.ofJson
    orderSignature := ← json.optional "orderSignature" Json.text
    requestSignature := ← json.optional "requestSignature" Json.text
    transactions := ← json.optional "transactions" (Json.list transaction) }

/-- A request whose fields have their declared types. -/
structure Request {Tx : Type} (transaction : Json → Option Tx) where
  body : Json
  params : ActionParams Tx
  typed : ActionParams.ofJson transaction body = some params

end RelaySettlement.LitDepositAddress
