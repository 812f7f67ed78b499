import RelaySettlement.LitDepositAddress.Ed25519

/-!
# Deposits on Solana

The wallet deriver of the bundle for Solana.  Its policy parses a compiled message with a parser of
its own and accepts one instruction of the depository program, `deposit_native` or
`deposit_token`.  The deposit wallet signs in the last signer slot.

Base64 and base58 are parameters.
-/

open Evm

namespace RelaySettlement.LitDepositAddress

open Js

namespace SolanaVm

structure SolanaVmTransaction where
  message : Bytes
deriving DecidableEq

def SolanaVmTransaction.ofJson (json : Json) : Option SolanaVmTransaction := do
  return { message := ← json.field "message" Json.text }

structure SolanaVmSignedTransaction where
  signature : Bytes
  rawTransaction : Bytes
deriving DecidableEq

/-- What the deriver takes from the runtime. -/
structure SolanaRuntime where
  base64ToBytes : Bytes → Option Bytes
  bytesToBase64 : Bytes → Bytes

/-! ## The parser of compiled messages -/

structure ParsedSolanaInstruction where
  programIdIndex : ℕ
  accountIndexes : List ℕ
  data : Bytes

structure ParsedSolanaMessage where
  numRequiredSignatures : ℕ
  staticAccountKeys : List Bytes
  instructions : List ParsedSolanaInstruction

/-- The methods of `ByteReader`: `read(n)` is `Reader.bytes n`. -/
def readByte : Reader ℕ := do
  return (← Reader.byte).toNat

/-- Seven bits in each of the first two bytes, and two in the third. -/
def readShortU16 : Reader ℕ := do
  let first ← readByte
  if first &&& 0x80 = 0 then return first &&& 0x7f
  else
    let second ← readByte
    let value := (first &&& 0x7f) ||| ((second &&& 0x7f) <<< 7)
    if second &&& 0x80 = 0 then return value
    else
      let third ← readByte
      if third &&& 0xfc = 0 then return value ||| (third <<< 14) else failure

/-- The marker of a versioned message. -/
def readVersion (versioned : Bool) : Reader Unit :=
  if versioned then do
    let version := (← readByte) &&& 0x7f
    if version = 0 then return () else failure
  else return ()

def readInstruction : Reader ParsedSolanaInstruction := do
  let programIdIndex ← readByte
  let numIxAccounts ← readShortU16
  let accountIndexes ← readByte.replicate numIxAccounts
  let dataLen ← readShortU16
  let data ← Reader.bytes dataLen
  return ⟨programIdIndex, accountIndexes, data⟩

/-- From the header on. -/
def readMessage : Reader ParsedSolanaMessage := do
  let numRequiredSignatures ← readByte
  let _ ← Reader.bytes 2
  let numAccounts ← readShortU16
  let staticAccountKeys ← (Reader.bytes 32).replicate numAccounts
  let _ ← Reader.bytes 32
  let numInstructions ← readShortU16
  let instructions ← readInstruction.replicate numInstructions
  return ⟨numRequiredSignatures, staticAccountKeys, instructions⟩

/-- Bytes behind the instructions are ignored. -/
def parseSolanaCompiledMessage (bytes : Bytes) : Option ParsedSolanaMessage := do
  ensure (bytes.length ≠ 0)
  let versioned := decide ((bytes.headD 0).toNat &&& 0x80 ≠ 0)
  let (_, bytes) ← (readVersion versioned).run bytes
  let (message, _) ← readMessage.run bytes
  return message

/-! ## The policy -/

def depositNativeDiscriminator : Bytes := [0x0d, 0x9e, 0x0d, 0xdf, 0x5f, 0xd5, 0x1c, 0x06]

def depositTokenDiscriminator : Bytes := [0x0b, 0x9c, 0x60, 0xda, 0x27, 0xa3, 0xb4, 0x13]

/-- `ANCHOR_SENDER_INDEX`. -/
def anchorSenderIndex : ℕ := 1

/-- `MAX_REQUIRED_SIGNATURES`. -/
def maxRequiredSignatures : ℕ := 2

/-- `DEPOSIT_ARGS_LEN`. -/
def depositArgsLen : ℕ := 8 + 8 + 32

def resolveStaticKey (parsed : ParsedSolanaMessage) (index : ℕ) : Option Bytes :=
  parsed.staticAccountKeys[index]?

/-- The static key of an account of an instruction. -/
def assertAccount (parsed : ParsedSolanaMessage) (ix : ParsedSolanaInstruction) (index : ℕ)
    (expected : Bytes) : Option Unit := do
  let slot ← ix.accountIndexes[index]?
  ensure ((← resolveStaticKey parsed slot) = expected)

/-- The arguments of a deposit, and the number of its accounts. -/
def assertDeposit (ix : ParsedSolanaInstruction) (discriminator : Bytes) (accountCount : ℕ)
    (expectedAmount : ℤ) (expectedOrderId : Bytes) : Option Unit := do
  ensure (ix.data.length = depositArgsLen)
  ensure (ix.data.take 8 = discriminator)
  ensure (ix.accountIndexes.length = accountCount)
  ensure ((bytesToNumberLE ((ix.data.drop 8).take 8) : ℤ) = expectedAmount)
  ensure ((ix.data.drop 16).take 32 = expectedOrderId)

def verifyDepositNative (parsed : ParsedSolanaMessage) (ix : ParsedSolanaInstruction)
    (expectedDepositor : Bytes) (expectedAmount : ℤ) (expectedOrderId : Bytes) :
    Option Unit := do
  assertDeposit ix depositNativeDiscriminator 5 expectedAmount expectedOrderId
  assertAccount parsed ix 2 expectedDepositor

def verifyDepositToken (parsed : ParsedSolanaMessage) (ix : ParsedSolanaInstruction)
    (expectedDepositor : Bytes) (expectedAmount : ℤ) (expectedOrderId expectedMint : Bytes) :
    Option Unit := do
  assertDeposit ix depositTokenDiscriminator 10 expectedAmount expectedOrderId
  assertAccount parsed ix 2 expectedDepositor
  assertAccount parsed ix 4 expectedMint

section Deriver

variable {Point : Type} [AddCommGroup Point] (solana : SolanaRuntime) (curve : Ed25519 Point)

/-- The checks of a parsed message. -/
def verifyMessage (trigger : DepositAddressTrigger)
    (attestation : DepositAddressTriggerAttestation) (parsed : ParsedSolanaMessage) :
    Option Unit := do
  ensure (1 ≤ parsed.numRequiredSignatures ∧
    parsed.numRequiredSignatures ≤ maxRequiredSignatures)
  match parsed.instructions with
  | [ix] =>
      ensure (ix.accountIndexes[anchorSenderIndex]? = some (parsed.numRequiredSignatures - 1))
      let expectedProgram ← hex32Bytes attestation.inputDepository
      ensure ((← resolveStaticKey parsed ix.programIdIndex) = expectedProgram)
      let expectedDepositor ← hex32Bytes trigger.derivationFields.depositor
      let expectedAmount ← trigger.input.amount.bigInt
      let expectedOrderId ← hex32Bytes trigger.orderId
      let currencyBytes ← hex32Bytes trigger.input.currency
      if ∀ byte ∈ currencyBytes, byte = 0 then
        verifyDepositNative parsed ix expectedDepositor expectedAmount expectedOrderId
      else
        verifyDepositToken parsed ix expectedDepositor expectedAmount expectedOrderId
          currencyBytes
  | _ => none

def verifyTransactions (trigger : DepositAddressTrigger)
    (attestation : DepositAddressTriggerAttestation) : List SolanaVmTransaction → Option Unit
  | [transaction] => do
      let parsed ← parseSolanaCompiledMessage (← solana.base64ToBytes transaction.message)
      verifyMessage trigger attestation parsed
  | _ => none

/-! ## Signing -/

/-- `target.set(source, offset)`. -/
def setBytes (target source : Bytes) (offset : ℕ) : Option Bytes := do
  ensure (offset + source.length ≤ target.length)
  return target.take offset ++ source ++ target.drop (offset + source.length)

def signTransactionWithKey (privateKey : Bytes) (transaction : SolanaVmTransaction) :
    Option SolanaVmSignedTransaction := do
  let messageBytes ← solana.base64ToBytes transaction.message
  ensure (messageBytes.length ≠ 0)
  let parsed ← parseSolanaCompiledMessage messageBytes
  ensure (1 ≤ parsed.numRequiredSignatures ∧
    parsed.numRequiredSignatures ≤ maxRequiredSignatures)
  let walletSlot := parsed.numRequiredSignatures - 1
  let walletPubkey ← curve.getPublicKey privateKey
  ensure (parsed.staticAccountKeys[walletSlot]? = some walletPubkey)
  let signature ← curve.signEd25519Bip32 messageBytes privateKey
  let sigs ← setBytes (List.replicate (parsed.numRequiredSignatures * 64) 0) signature
    (walletSlot * 64)
  let rawTransaction := [UInt8.ofNat parsed.numRequiredSignatures] ++ sigs ++ messageBytes
  return ⟨writeHex signature, solana.bytesToBase64 rawTransaction⟩

end Deriver

end SolanaVm

end RelaySettlement.LitDepositAddress
