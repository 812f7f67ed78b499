import RelaySettlement.LitDepositAddress.Action

/-!
# Deposits on EVM chains

The wallet deriver of the bundle for EVM chains.  Its policy reads the unsigned transactions of a
batch and compares them with the calls that deposit into the depository: `depositNative`, or
`approve` and `depositErc20`.

Transactions are parsed and serialized by viem, which is a parameter.
-/

open Evm

namespace RelaySettlement.LitDepositAddress

open Js

/-! ## Addresses -/

def encodeEthereumAddress (address : Bytes) : Option Bytes := do
  let encoded ← hexToBytes address
  ensure (encoded.length = 20)
  return encoded

def decodeEthereumAddress (encoded : Bytes) : Option Bytes := do
  ensure (encoded.length = 20)
  return writeHex encoded

def encodeEthereumAddressToHex (address : Bytes) : Option Bytes := do
  return writeHex (← encodeEthereumAddress address)

def normalizeEthereumAddressHex (encodedHex : Bytes) : Option Bytes := do
  let address ← decodeEthereumAddress (← hexToBytes encodedHex)
  return Text.toLowerCase (← encodeEthereumAddressToHex address)

namespace EthereumVm

/-! ## Transactions -/

structure EthereumVmTransaction where
  unsignedTransaction : Bytes
deriving DecidableEq

def EthereumVmTransaction.ofJson (json : Json) : Option EthereumVmTransaction := do
  return { unsignedTransaction := ← json.field "unsignedTransaction" Json.text }

structure EthereumVmSignedTransaction where
  rawTransaction : Bytes
  transactionHash : Bytes
deriving DecidableEq

inductive TransactionType where
  | legacy
  | eip2930
  | eip1559
  | eip4844
  | eip7702
deriving DecidableEq

/-- A transaction as viem shows it: its target `to` and its data as texts, and no field that is
empty.  `Rest` is what the deriver only passes on: the nonce, the gas, the fees and the access
list. -/
structure ParsedTransaction (Rest : Type) where
  type : TransactionType
  chainId : Option ℕ
  target : Option Bytes
  value : Option ℕ
  data : Option Bytes
  rest : Rest

inductive EvmSignature where
  | legacy (r s : Bytes) (v : ℤ)
  | typed (r s : Bytes) (yParity : ℕ)

/-- What viem does with EVM transactions. -/
structure TransactionCodec (Rest : Type) where
  parseTransaction : Bytes → Option (ParsedTransaction Rest)
  serializeTransaction : ParsedTransaction Rest → EvmSignature → Option Bytes

/-! ## The policy -/

def zeroAddress : Bytes := Abi.utf8 "0x0000000000000000000000000000000000000000"

def depositNativeSelector : Bytes := Abi.utf8 "0x49290c1c"

def erc20ApproveSelector : Bytes := Abi.utf8 "0x095ea7b3"

def depositErc20Selector : Bytes := Abi.utf8 "0xe8017952"

def wordHexLen : ℕ := 64

/-- The characters of an argument, behind `0x` and the selector. -/
def wordAt (data : Bytes) (index : ℕ) : Bytes :=
  (data.drop (2 + 8 + index * wordHexLen)).take wordHexLen

def decodeAddressArg (data : Bytes) (index : ℕ) : Bytes :=
  Abi.utf8 "0x" ++ Text.toLowerCase ((wordAt data index).drop 24)

def decodeUint256Arg (data : Bytes) (index : ℕ) : Option ℤ :=
  bigInt (Abi.utf8 "0x" ++ wordAt data index)

def decodeBytes32Arg (data : Bytes) (index : ℕ) : Bytes :=
  Abi.utf8 "0x" ++ Text.toLowerCase (wordAt data index)

section Policy

variable {Rest : Type}

def assertZeroValue (parsed : ParsedTransaction Rest) : Option Unit :=
  ensure (parsed.value.getD 0 = 0)

/-- The transaction goes to an address. -/
def assertTo (parsed : ParsedTransaction Rest) (expectedTo : Bytes) : Option Unit := do
  let target ← parsed.target
  ensure (Text.toLowerCase (← encodeEthereumAddressToHex target) = expectedTo)

/-- The data of a transaction with the given selector and number of arguments. -/
def callData (parsed : ParsedTransaction Rest) (selector : Bytes) (arguments : ℕ) :
    Option Bytes := do
  let data := parsed.data.getD (Abi.utf8 "0x")
  ensure (selector <+: Text.toLowerCase data)
  ensure (data.length = 2 + 8 + arguments * wordHexLen)
  return data

/-- An argument is the address that a text names. -/
def assertAddressArg (data : Bytes) (index : ℕ) (expected : Bytes) : Option Unit := do
  let actual ← encodeEthereumAddressToHex (decodeAddressArg data index)
  ensure (Text.toLowerCase actual = (← normalizeEthereumAddressHex expected))

def assertUint256Arg (data : Bytes) (index : ℕ) (expected : ℤ) : Option Unit := do
  ensure ((← decodeUint256Arg data index) = expected)

def assertBytes32Arg (data : Bytes) (index : ℕ) (expected : Bytes) : Option Unit :=
  ensure (Text.toLowerCase (decodeBytes32Arg data index) = Text.toLowerCase expected)

variable (codec : TransactionCodec Rest) (trigger : DepositAddressTrigger)
  (attestation : DepositAddressTriggerAttestation)

def verifyNativeDeposit : List EthereumVmTransaction → Option Unit
  | [transaction] => do
      let parsed ← codec.parseTransaction transaction.unsignedTransaction
      assertTo parsed (← normalizeEthereumAddressHex attestation.inputDepository)
      let expectedAmount ← trigger.input.amount.bigInt
      ensure ((parsed.value.getD 0 : ℤ) = expectedAmount)
      let data ← callData parsed depositNativeSelector 2
      assertAddressArg data 0 trigger.derivationFields.depositor
      assertBytes32Arg data 1 trigger.orderId
  | _ => none

def verifyErc20Deposit : List EthereumVmTransaction → Option Unit
  | [approve, deposit] => do
      let expectedAmount ← trigger.input.amount.bigInt
      let approveTx ← codec.parseTransaction approve.unsignedTransaction
      assertZeroValue approveTx
      assertTo approveTx (← normalizeEthereumAddressHex trigger.input.currency)
      let approveData ← callData approveTx erc20ApproveSelector 2
      assertAddressArg approveData 0 attestation.inputDepository
      assertUint256Arg approveData 1 expectedAmount
      let depositTx ← codec.parseTransaction deposit.unsignedTransaction
      assertZeroValue depositTx
      assertTo depositTx (← normalizeEthereumAddressHex attestation.inputDepository)
      let depositData ← callData depositTx depositErc20Selector 4
      assertAddressArg depositData 0 trigger.derivationFields.depositor
      assertAddressArg depositData 1 trigger.input.currency
      assertUint256Arg depositData 2 expectedAmount
      assertBytes32Arg depositData 3 trigger.orderId
  | _ => none

def verifyTransactions (transactions : List EthereumVmTransaction) : Option Unit := do
  if (← normalizeEthereumAddressHex trigger.input.currency) = zeroAddress then
    verifyNativeDeposit codec trigger attestation transactions
  else verifyErc20Deposit codec trigger attestation transactions

end Policy

/-! ## Signing -/

/-- What `@noble/curves` does with keys on secp256k1: the uncompressed form of a public key, and
a signature over a digest, which is the recovery bit, `r` and `s`. -/
structure Secp256k1Keys where
  toUncompressed : Bytes → Option Bytes
  sign : (digest privateKey : Bytes) → Option Bytes

/-- `r`, `s` and `v`. -/
def signEvmDigest (keys : Secp256k1Keys) (digest privateKey : Bytes) : Option Bytes := do
  let signature ← keys.sign digest privateKey
  return signature.drop 1 ++ [if signature.headD 0 = 0 then 27 else 28]

/-- `BigInt(35 + chainId * 2 + yParity)`, with numbers that are rounded. -/
def eip155Value (chainId yParity : ℕ) : Option ℤ := do
  let doubled ← toDouble (chainId * 2)
  let shifted ← toDouble (35 + doubled)
  let value ← toDouble (shifted + yParity)
  if value.den = 1 then return value.num else none

def buildSignature {Rest : Type} (parsed : ParsedTransaction Rest) (signature : Bytes) :
    Option EvmSignature := do
  let r := writeHex (signature.take 32)
  let s := writeHex ((signature.drop 32).take 32)
  let yParity := if signature.getD 64 0 = 27 then 0 else 1
  if parsed.type = .legacy then
    let chainId ← parsed.chainId
    return .legacy r s (← eip155Value chainId yParity)
  else return .typed r s yParity

section Deriver

variable {Node Rest : Type} (keccak : Bytes → Bytes32) (codec : TransactionCodec Rest)
  (tree : KeyTree Node) (keys : Secp256k1Keys)

def signTransactionWithKey (privateKey : Bytes) (transaction : EthereumVmTransaction) :
    Option EthereumVmSignedTransaction := do
  let parsed ← codec.parseTransaction transaction.unsignedTransaction
  let digest := Abi.word (keccak (← hexToBytes transaction.unsignedTransaction))
  let signature ← signEvmDigest keys digest privateKey
  let rawTransaction ← codec.serializeTransaction parsed (← buildSignature parsed signature)
  let transactionHash := keccak (← hexToBytes rawTransaction)
  return ⟨rawTransaction, writeHex (Abi.word transactionHash)⟩

def walletFromNode (indexes : List ℕ) (childNode : Node) : Option WalletInfo := do
  let uncompressed ← keys.toUncompressed (tree.compressedPublicKeyBytes childNode)
  return {
    vmType := .ethereumVm
    indexes := indexes
    path := path "m/44'/60'/0'/0" indexes
    address := writeHex ((Abi.word (keccak (uncompressed.drop 1))).drop 12)
    publicKey := tree.compressedPublicKey childNode }

def walletDeriver :
    VmWalletDeriver Node EthereumVmTransaction EthereumVmSignedTransaction where
  deriveAccountNode :=
    tree.deriveAccountNode .ethereumVm ["bip32:44'", "bip32:60'", "bip32:0'", "bip32:0"]
  deriveChildNode := tree.deriveChildNode
  privateKeyBytes := tree.privateKeyBytes
  accountFromNode := fun node => some (tree.accountFromNode .ethereumVm "m/44'/60'/0'/0" node)
  walletFromNode := walletFromNode keccak tree keys
  verifyTransactions := verifyTransactions codec
  signTransactionWithKey := signTransactionWithKey keccak codec keys

end Deriver

end EthereumVm

end RelaySettlement.LitDepositAddress
