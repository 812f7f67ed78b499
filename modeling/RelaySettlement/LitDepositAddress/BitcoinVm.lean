import RelaySettlement.LitDepositAddress.Action
import RelaySettlement.Sdk.BitcoinAddress

/-!
# Deposits on Bitcoin

The wallet deriver of the bundle for Bitcoin.  Its policy parses the unsigned transaction, sums up
what it pays to the depository, and looks for the order id and the depositor in an `OP_RETURN`
output.  The digests to sign come with the request and are compared with those of the transaction.

The hash functions, the codecs behind addresses and the decoder of texts are parameters.
-/

open Evm

namespace RelaySettlement.LitDepositAddress

open Js

namespace BitcoinVm

structure BitcoinVmTransaction where
  unsignedTransaction : Bytes
  inputValues : List Scalar
  sighashes : List Bytes
deriving DecidableEq

def BitcoinVmTransaction.ofJson (json : Json) : Option BitcoinVmTransaction := do
  return {
    unsignedTransaction := ← json.field "unsignedTransaction" Json.text
    inputValues := ← json.field "inputValues" (Json.list Json.scalar)
    sighashes := ← json.field "sighashes" (Json.list Json.text) }

structure BitcoinVmSignedTransaction where
  signatures : List Bytes
deriving DecidableEq

/-- What the deriver takes as given. -/
structure BitcoinRuntime where
  sha256 : Bytes → Bytes32
  hash160 : Bytes → BitVec 160
  libraries : BitcoinAddress.Libraries
  /-- `new TextDecoder().decode`. -/
  decodeText : Bytes → Bytes

/-! ## Parsing -/

structure TxInput where
  txid : Bytes
  index : ℕ
  sequence : ℕ
deriving DecidableEq

structure TxOutput where
  value : ℕ
  script : Bytes
deriving DecidableEq

structure ParsedTx where
  version : ℕ
  inputs : List TxInput
  outputs : List TxOutput
  locktime : ℕ
deriving DecidableEq

/-! The methods of `Reader`: `bytesN` is `Reader.bytes`. -/

def readU8 : Reader ℕ := do
  return (← Reader.byte).toNat

def readU32 : Reader ℕ := do
  return bytesToNumberLE (← Reader.bytes 4)

def readU64 : Reader ℕ := do
  return bytesToNumberLE (← Reader.bytes 8)

/-- `Number.MAX_SAFE_INTEGER`. -/
def maxSafeInteger : ℕ := 2 ^ 53 - 1

def readVarInt : Reader ℕ := do
  let first ← readU8
  if first < 0xfd then return first
  else if first = 0xfd then return bytesToNumberLE (← Reader.bytes 2)
  else if first = 0xfe then readU32
  else
    let value ← readU64
    if value ≤ maxSafeInteger then return value else failure

/-- `Array.from` with a length, which must be one of an array. -/
def arrayFrom {α : Type} (length : ℕ) (reader : Reader α) : Reader (List α) :=
  if length < 2 ^ 32 then reader.replicate length else failure

def readInput : Reader TxInput := do
  let txid ← Reader.bytes 32
  let index ← readU32
  let _ ← Reader.bytes (← readVarInt)
  let sequence ← readU32
  return ⟨txid, index, sequence⟩

def readOutput : Reader TxOutput := do
  let value ← readU64
  let script ← Reader.bytes (← readVarInt)
  return ⟨value, script⟩

/-- A witness, which must be empty. -/
def readWitness : Reader Unit := do
  if (← readVarInt) = 0 then return () else failure

/-- The number of inputs, and whether there is a marker of witnesses before it. -/
def readInputCount : Reader (ℕ × Bool) := do
  let inputCount ← readVarInt
  if inputCount = 0 then
    if (← readU8) = 1 then return (← readVarInt, true) else failure
  else return (inputCount, false)

def readTx : Reader ParsedTx := do
  let version ← readU32
  let (inputCount, hasWitness) ← readInputCount
  if inputCount = 0 then failure
  else
    let inputs ← arrayFrom inputCount readInput
    let outputCount ← readVarInt
    if outputCount = 0 then failure
    else
      let outputs ← arrayFrom outputCount readOutput
      let _ ← readWitness.replicate (if hasWitness then inputCount else 0)
      let locktime ← readU32
      return ⟨version, inputs, outputs, locktime⟩

def parseTx (rawHex : Bytes) : Option ParsedTx := do
  readTx.whole (← hexToBytes rawHex)

/-! ## Digests -/

def u32le (n : ℕ) : Bytes :=
  (List.range 4).map fun i => UInt8.ofNat ((n >>> (8 * i)) &&& 0xff)

/-- The low bytes of a number in two's complement. -/
def u64le (n : ℤ) : Bytes :=
  (List.range 8).map fun i : ℕ => UInt8.ofNat ((n >>> (8 * i : ℕ)) % 256).toNat

def varInt (v : ℕ) : Bytes :=
  if v < 0xfd then [UInt8.ofNat v]
  else if v ≤ 0xffff then [0xfd, UInt8.ofNat (v &&& 0xff), UInt8.ofNat ((v >>> 8) &&& 0xff)]
  else if v ≤ 0xffffffff then 0xfe :: u32le v
  else 0xff :: u64le v

def TxInput.outpoint (input : TxInput) : Bytes := input.txid ++ u32le input.index

def script (bytes : Bytes) : Bytes := varInt bytes.length ++ bytes

def TxOutput.output (o : TxOutput) : Bytes := u64le o.value ++ BitcoinVm.script o.script

section Digests

variable (bitcoin : BitcoinRuntime)

def hash256 (bytes : Bytes) : Bytes32 := bitcoin.sha256 (Abi.word (bitcoin.sha256 bytes))

def p2wpkhCode (pubkey : Bytes) : Bytes :=
  [0x76, 0xa9, 0x14] ++ Abi.bigEndian 20 (bitcoin.hash160 pubkey).toNat ++ [0x88, 0xac]

/-- `SIGHASH_ALL`. -/
def sighashAll : ℕ := 1

/-- The input exists. -/
def sighash (tx : ParsedTx) (inputIndex : ℕ) (pubkey : Bytes) (value : ℤ) : Option Bytes := do
  let input ← tx.inputs[inputIndex]?
  return Abi.word (hash256 bitcoin (u32le tx.version ++
    Abi.word (hash256 bitcoin (tx.inputs.flatMap TxInput.outpoint)) ++
    Abi.word (hash256 bitcoin (tx.inputs.flatMap fun i => u32le i.sequence)) ++ input.outpoint ++
    script (p2wpkhCode bitcoin pubkey) ++ u64le value ++ u32le input.sequence ++
    Abi.word (hash256 bitcoin (tx.outputs.flatMap TxOutput.output)) ++ u32le tx.locktime ++
    u32le sighashAll))

end Digests

/-! ## The policy -/

def addressScripts (encodedHex : Bytes) : Option (List Bytes) := do
  let encoded ← hexToBytes encodedHex
  let payload := encoded.drop 1
  if encoded.head? = some 0xff then
    if payload.length = 21 ∧ payload.head? = some 0x00 then
      return [[0x76, 0xa9, 0x14] ++ payload.drop 1 ++ [0x88, 0xac]]
    else if payload.length = 21 ∧ payload.head? = some 0x05 then
      return [[0xa9, 0x14] ++ payload.drop 1 ++ [0x87]]
    else none
  else
    let version := (encoded.headD 0).toNat
    ensure (3 ≤ encoded.length ∧ version ≤ 16)
    let versionOp := if version = 0 then 0x00 else 0x50 + version
    return [[UInt8.ofNat versionOp, UInt8.ofNat payload.length] ++ payload]

/-- What is pushed behind `OP_RETURN`: a push may end early. -/
def opReturnData (scriptBytes : Bytes) : Option Bytes :=
  if scriptBytes.head? ≠ some 0x6a ∨ scriptBytes.length < 2 then none
  else
    let op := (scriptBytes.getD 1 0).toNat
    if op ≤ 75 then some ((scriptBytes.drop 2).take op)
    else if op = 0x4c then some ((scriptBytes.drop 3).take (scriptBytes.getD 2 0).toNat)
    else none

def assertCounts (tx : ParsedTx) (data : BitcoinVmTransaction) : Option Unit := do
  ensure (data.sighashes.length = tx.inputs.length)
  ensure (data.inputValues.length = tx.inputs.length)

section Deriver

variable (bitcoin : BitcoinRuntime)

def opReturn (scriptBytes : Bytes) : Option Bytes :=
  (opReturnData scriptBytes).map bitcoin.decodeText

def encodeBitcoinAddressToHex (address : Bytes) : Option Bytes := do
  return writeHex (← BitcoinAddress.encodeBitcoinAddress bitcoin.libraries address)

def normalizeBitcoinAddressHex (encodedHex : Bytes) : Option Bytes := do
  let address ← BitcoinAddress.decodeBitcoinAddress bitcoin.libraries (← hexToBytes encodedHex)
  return Text.toLowerCase (← encodeBitcoinAddressToHex bitcoin address)

/-- `BTC_NATIVE`. -/
def btcNative : Option Bytes := do
  return Text.toLowerCase (← encodeBitcoinAddressToHex bitcoin
    (Abi.utf8 "bc1qqqqqqqqqqqqqqqqqqqqqqqqqqqqqqqqmql8k8"))

def assertBitcoinDepositTransaction (trigger : DepositAddressTrigger)
    (attestation : DepositAddressTriggerAttestation) (data : BitcoinVmTransaction) :
    Option Unit := do
  ensure ((← normalizeBitcoinAddressHex bitcoin trigger.input.currency) = (← btcNative bitcoin))
  let tx ← parseTx data.unsignedTransaction
  assertCounts tx data
  let expectedAmount ← trigger.input.amount.bigInt
  let scripts ← addressScripts attestation.inputDepository
  let refunds ← addressScripts trigger.derivationFields.refundRecipient
  let actualAmount : ℕ := tx.outputs.foldl
    (fun sum o => sum + if o.script ∈ scripts then o.value else 0) 0
  ensure ((actualAmount : ℤ) = expectedAmount)
  ensure (∀ o ∈ tx.outputs,
    o.script ∈ scripts ∨ opReturn bitcoin o.script ≠ none ∨ o.script ∈ refunds)
  let metadata ← (tx.outputs.filterMap fun o => opReturn bitcoin o.script).find?
    fun text => trigger.orderId <+: text
  ensure (metadata ≠ [])
  let depositor ← depositorTag metadata
  let encodedDepositor := Text.toLowerCase (← encodeBitcoinAddressToHex bitcoin depositor)
  ensure (encodedDepositor = Text.toLowerCase trigger.derivationFields.depositor)

def verifyTransactions (trigger : DepositAddressTrigger)
    (attestation : DepositAddressTriggerAttestation) : List BitcoinVmTransaction → Option Unit
  | [transaction] => assertBitcoinDepositTransaction bitcoin trigger attestation transaction
  | _ => none

/-! ## Signing -/

def signableBitcoinDigests (data : BitcoinVmTransaction) (pubkey : Bytes) :
    Option (List Bytes) := do
  let tx ← parseTx data.unsignedTransaction
  assertCounts tx data
  (List.range tx.inputs.length).mapM fun i => do
    let actual ← hexToBytes (← data.sighashes[i]?)
    ensure (actual.length = 32)
    let value ← (← data.inputValues[i]?).bigInt
    ensure (actual = (← sighash bitcoin tx i pubkey value))
    return actual

/-- What `@noble/curves` does: the compressed public key, and a compact signature over a
digest. -/
structure Secp256k1Keys where
  getPublicKey : (privateKey : Bytes) → Option Bytes
  sign : (digest privateKey : Bytes) → Option Bytes

def signTransactionWithKey (keys : Secp256k1Keys) (privateKey : Bytes)
    (transaction : BitcoinVmTransaction) : Option BitcoinVmSignedTransaction := do
  ensure (transaction.sighashes.length ≠ 0)
  let publicKey ← keys.getPublicKey privateKey
  let digests ← signableBitcoinDigests bitcoin transaction publicKey
  let signatures ← digests.mapM fun digest => do
    return writeHex (← keys.sign digest privateKey)
  return ⟨signatures⟩

end Deriver

end BitcoinVm

end RelaySettlement.LitDepositAddress
