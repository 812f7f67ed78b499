import RelaySettlement.LitDepositAddress.Ed25519
import RelaySettlement.LitDepositAddress.Slice

/-!
# Deposits on TON

The wallet deriver of the bundle for TON.  A deposit wallet is a Wallet V5R1 contract.  The policy
accepts one transfer to the depository with the order id in a comment, and the deriver builds the
request that the wallet checks, signs its hash and wraps it into an external message.

Base64, the code of the wallet and the format of bags of cells are parameters.
-/

open Evm

namespace RelaySettlement.LitDepositAddress

open Js

namespace TonVm

structure TonVmTransaction where
  /-- The field `to`. -/
  target : Bytes
  amount : Scalar
  comment : Bytes
  bounce : Bool
  seqno : Number
  validUntil : Number
  sendMode : Number
deriving DecidableEq

def TonVmTransaction.ofJson (json : Json) : Option TonVmTransaction := do
  return {
    target := ← json.field "to" Json.text
    amount := ← json.field "amount" Json.scalar
    comment := ← json.field "comment" Json.text
    bounce := ← json.field "bounce" Json.flag
    seqno := ← json.field "seqno" Json.numeric
    validUntil := ← json.field "validUntil" Json.numeric
    sendMode := ← json.field "sendMode" Json.numeric }

structure TonVmSignedTransaction where
  signature : Bytes
  signingHash : Bytes
  externalMessage : Bytes
deriving DecidableEq

/-- What the deriver takes as given. -/
structure TonRuntime where
  sha256 : Bytes → Bytes32
  codeCell : Cell
  toBoc : Cell → Bytes
  base64ToBytes : Bytes → Option Bytes
  bytesToBase64 : Bytes → Bytes

/-! ## Addresses -/

/-- CRC16/XMODEM. -/
def crc16 (data : Bytes) : BitVec 16 :=
  data.foldl (fun crc byte =>
    Nat.iterate (fun crc => if crc.msb then crc <<< 1 ^^^ 0x1021 else crc <<< 1) 8
      (crc ^^^ BitVec.ofNat 16 byte.toNat <<< 8)) 0

/-- The workchain, without its sign, and the hash of a text that matches `RAW_ADDRESS_RE`. -/
def rawAddress (text : Bytes) : Option (ℕ × Bytes) := do
  let number := text.takeWhile (· ≠ 58)
  let workchain ← readDigits 10 (if [45] <+: number then number.drop 1 else number)
  let digits := text.drop (number.length + 1)
  ensure (digits.length = 64)
  return (workchain, ← readHex digits)

def decodeFriendly (ton : TonRuntime) (address : Bytes) : Option Bytes := do
  let normalized := address.map fun character =>
    if character = 45 then 43 else if character = 95 then 47 else character
  let bytes ← ton.base64ToBytes normalized
  ensure (bytes.length = 36)
  let payload := bytes.take 34
  ensure ((crc16 payload).toNat = Abi.readBigEndian (bytes.drop 34))
  ensure (payload[1]? = some 0)
  return payload.drop 2

def encodeTonAddress (ton : TonRuntime) (address : Bytes) : Option Bytes :=
  match rawAddress (trim address) with
  | some (workchain, hash) => do
      ensure (workchain = 0)
      return hash
  | none => decodeFriendly ton (trim address)

/-! ## The wallet -/

/-- `TON_NETWORK_GLOBAL_ID`. -/
def tonNetworkGlobalId : ℤ := -239

/-- `AUTH_SIGNED_EXTERNAL`. -/
def authSignedExternal : ℕ := 0x7369676e

/-- `ACTION_SEND_MSG`. -/
def actionSendMsg : ℕ := 0x0ec3c86d

/-- `SEND_MODE_IGNORE_ERRORS`. -/
def sendModeIgnoreErrors : BitVec 32 := 2

/-- `SEND_MODE_CARRY_ALL`. -/
def sendModeCarryAll : BitVec 32 := 0b11000000

/-- For workchain 0 and subwallet 0 in the source. -/
def walletIdV5R1 (networkGlobalId : ℤ) (workchain : ℤ) (subwallet : ℕ) : ℕ :=
  let context := (1#32 <<< 31) ||| ((BitVec.ofInt 32 workchain &&& 0xff) <<< 23) |||
    (BitVec.ofNat 32 subwallet &&& 0x7fff)
  (BitVec.ofInt 32 networkGlobalId ^^^ context).toNat

/-- The id of the deposit wallets. -/
def walletId : ℕ := walletIdV5R1 tonNetworkGlobalId 0 0

def dataCell (publicKey : Bytes) : Option Cell := do
  ensure (publicKey.length = 32)
  let builder := Builder.empty.storeBit true
  let builder ← builder.storeUint 0 32
  let builder ← builder.storeUint walletId 32
  let builder := (builder.storeBuffer publicKey).storeBit false
  builder.endCell

def walletStateInit (codeCell : Cell) (publicKey : Bytes) : Option Cell := do
  let builder := (Builder.empty.storeBit false).storeBit false
  let builder ← builder.storeMaybeRef codeCell
  let builder ← builder.storeMaybeRef (← dataCell publicKey)
  (builder.storeBit false).endCell

def walletAddressHash (ton : TonRuntime) (publicKey : Bytes) : Option Bytes := do
  let stateInit ← walletStateInit ton.codeCell publicKey
  return Abi.word (stateInit.hash ton.sha256)

/-! ## Messages -/

/-- Bytes that do not fit spill into references.  `fuel` bounds the number of cells. -/
def writeSnakeString : (fuel : ℕ) → Builder → Bytes → Option Builder
  | 0, _, _ => none
  | fuel + 1, builder, bytes => do
      let available := builder.availableBits / 8
      let builder := builder.storeBuffer (bytes.take available)
      let rest := bytes.drop available
      if 0 < rest.length then
        let child ← writeSnakeString fuel Builder.empty rest
        builder.storeRef (← child.endCell)
      else return builder

def commentBody (text : Bytes) : Option Cell := do
  let builder ← Builder.empty.storeUint 0 32
  let builder ← writeSnakeString (text.length + 1) builder text
  builder.endCell

def internalMessage (destHash : Bytes) (amount : ℤ) (bounce : Bool) (body : Cell) :
    Option Cell := do
  let builder := (((Builder.empty.storeBit false).storeBit true).storeBit bounce).storeBit false
  let builder ← builder.storeAddressNone
  let builder ← builder.storeAddressInt 0 destHash
  let builder ← builder.storeCoins amount
  let builder := builder.storeBit false
  let builder ← builder.storeCoins 0
  let builder ← builder.storeCoins 0
  let builder ← builder.storeUint 0 64
  let builder ← builder.storeUint 0 32
  let builder := (builder.storeBit false).storeBit true
  let builder ← builder.storeRef body
  builder.endCell

/-- The mode that is written. -/
def signingMode (sendMode : Number) : ℕ :=
  ((sendMode.toInt32 ||| sendModeIgnoreErrors) &&& 0xff).toNat

/-- The list of the one action. -/
def outList (sendMode : Number) (message : Cell) : Option Cell := do
  let builder ← Builder.empty.storeRef (← Builder.empty.endCell)
  let builder ← builder.storeUint actionSendMsg 32
  let builder ← builder.storeUint (signingMode sendMode) 8
  let builder ← builder.storeRef message
  builder.endCell

/-- `seqno === 0`. -/
def IsDeploy (seqno : Number) : Prop := seqno.value = some 0

instance (seqno : Number) : Decidable (IsDeploy seqno) :=
  inferInstanceAs (Decidable (seqno.value = some 0))

def signingRequest (walletId : ℕ) (seqno validUntil sendMode : Number) (message : Cell) :
    Option Builder := do
  let outList ← outList sendMode message
  let builder ← Builder.empty.storeUint authSignedExternal 32
  let builder ← builder.storeUint walletId 32
  let builder ← (if IsDeploy seqno then builder.storeUint 0xffffffff 32
    else do builder.storeUint (← validUntil.bigInt) 32)
  let builder ← builder.storeUint (← seqno.bigInt) 32
  let builder ← (builder.storeBit true).storeRef outList
  return builder.storeBit false

def signedRequestWithSignature (request : Builder) (signature : Bytes) : Option Cell := do
  let builder ← Builder.empty.storeBuilder request
  (builder.storeBuffer signature).endCell

def externalMessage (addressHash : Bytes) (stateInit : Option Cell) (body : Cell) :
    Option Cell := do
  let builder ← Builder.empty.storeUint 0b10 2
  let builder ← builder.storeAddressNone
  let builder ← builder.storeAddressInt 0 addressHash
  let builder ← builder.storeCoins 0
  let builder ← (match stateInit with
    | some stateInit => ((builder.storeBit true).storeBit true).storeRef stateInit
    | none => some (builder.storeBit false))
  let builder ← (builder.storeBit true).storeRef body
  builder.endCell

def sendModeCarriesAll (sendMode : Number) : Bool := sendMode.toInt32 &&& sendModeCarryAll ≠ 0

/-! ## The deriver -/

section Deriver

variable {Point : Type} [AddCommGroup Point] (ton : TonRuntime) (curve : Ed25519 Point)

def verifyTransactions (trigger : DepositAddressTrigger)
    (attestation : DepositAddressTriggerAttestation) : List TonVmTransaction → Option Unit
  | [tx] => do
      let currency ← hexToBytes trigger.input.currency
      ensure (currency.length = 32 ∧ ∀ byte ∈ currency, byte = 0)
      ensure (tx.bounce = false)
      let expectedDepository ← hex32Bytes attestation.inputDepository
      ensure ((← encodeTonAddress ton tx.target) = expectedDepository)
      let expectedAmount ← trigger.input.amount.bigInt
      ensure ((← tx.amount.bigInt) = expectedAmount)
      ensure (sendModeCarriesAll tx.sendMode = false)
      ensure (trigger.orderId <+: tx.comment)
      let depositor ← depositorTag tx.comment
      let expectedDepositor ← hex32Bytes trigger.derivationFields.depositor
      ensure ((← encodeTonAddress ton depositor) = expectedDepositor)
  | _ => none

/-- The request that is signed for a transaction. -/
def requestOf (transaction : TonVmTransaction) : Option Builder := do
  let message ← internalMessage (← encodeTonAddress ton transaction.target)
    (← transaction.amount.bigInt) transaction.bounce (← commentBody transaction.comment)
  signingRequest walletId transaction.seqno transaction.validUntil transaction.sendMode message

/-- The external message around a signed request. -/
def externalOf (publicKey signature : Bytes) (transaction : TonVmTransaction) (request : Builder) :
    Option Cell := do
  let addressHash ← walletAddressHash ton publicKey
  let body ← signedRequestWithSignature request signature
  let stateInit ← (if IsDeploy transaction.seqno then
    (walletStateInit ton.codeCell publicKey).map some else some none)
  externalMessage addressHash stateInit body

def signTransactionWithKey (privateKey : Bytes) (transaction : TonVmTransaction) :
    Option TonVmSignedTransaction := do
  let publicKey ← curve.getPublicKey privateKey
  let request ← requestOf ton transaction
  let signingHash := Abi.word ((← request.endCell).hash ton.sha256)
  let signature ← curve.signEd25519Bip32 signingHash privateKey
  let external ← externalOf ton publicKey signature transaction request
  return ⟨writeHex signature, writeHex signingHash, ton.bytesToBase64 (ton.toBoc external)⟩

end Deriver

end TonVm

end RelaySettlement.LitDepositAddress
