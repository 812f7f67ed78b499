import RelaySettlement.Evm.Abi
import RelaySettlement.Evm.Run
import RelaySettlement.Evm.SwapRemove

/-!
# RelayOracleMultisig

The EIP-1271 wallet in whose name the oracle signs.  The owner manages the signers, kept
both as a mapping and as an array, and the threshold.  A signature is a concatenation of
65-byte blocks, one for each of the first `threshold` signers in the order of their
addresses; anything after those blocks is ignored.

Recovering a signer is OpenZeppelin's `ECDSA.tryRecover`, a parameter.  `setOwner` stands
for every way the ownership can change.
-/

open Evm

namespace RelaySettlement

/-- The multisig's storage. -/
structure OracleMultisig where
  owner : Address
  isSigner : Address → Bool
  signers : List Address
  threshold : U256

namespace OracleMultisig

inductive Error where
  | ownableInvalidOwner (owner : Address)
  | ownableUnauthorizedAccount (account : Address)
  | invalidThreshold (threshold : U256) (signerCount : ℕ)
  | signerAlreadyExists (signer : Address)
  | signerDoesNotExist (signer : Address)
  | invalidSignerAddress
  | cannotRemoveLastSigner
  deriving DecidableEq

/-- `ECDSA.tryRecover` of a digest, `v`, `r` and `s`; `none` is any of its errors. -/
abbrev TryRecover := Bytes32 → UInt8 → Bytes32 → Bytes32 → Option Address

/-! ## Management -/

/-- The checks and writes that the constructor and `addSigner` share. -/
def pushSigner (signer : Address) (multisig : OracleMultisig) :
    Except Error OracleMultisig := do
  require (signer ≠ 0) .invalidSignerAddress
  require (multisig.isSigner signer = false) (.signerAlreadyExists signer)
  return { multisig with
    isSigner := set multisig.isSigner signer true
    signers := multisig.signers ++ [signer] }

/-- `constructor`.  `Ownable` rejects the zero owner first. -/
def create (owner : Address) (signers : List Address) (threshold : U256) :
    Except Error OracleMultisig := do
  require (owner ≠ 0) (.ownableInvalidOwner owner)
  require (signers.length ≠ 0) (.invalidThreshold threshold 0)
  require (threshold ≠ 0 ∧ threshold.toNat ≤ signers.length)
    (.invalidThreshold threshold signers.length)
  let multisig ← signers.foldlM (fun multisig signer => pushSigner signer multisig)
    ⟨owner, fun _ => false, [], 0⟩
  return { multisig with threshold := threshold }

def onlyOwner (sender : Address) (multisig : OracleMultisig) : Except Error Unit :=
  require (sender = multisig.owner) (.ownableUnauthorizedAccount sender)

def addSigner (sender signer : Address) (multisig : OracleMultisig) :
    Except Error OracleMultisig := do
  onlyOwner sender multisig
  pushSigner signer multisig

def removeSigner (sender signer : Address) (multisig : OracleMultisig) :
    Except Error OracleMultisig := do
  onlyOwner sender multisig
  require (multisig.isSigner signer = true) (.signerDoesNotExist signer)
  require (multisig.signers.length ≠ 1) .cannotRemoveLastSigner
  require (multisig.threshold.toNat ≤ multisig.signers.length - 1)
    (.invalidThreshold multisig.threshold (multisig.signers.length - 1))
  return { multisig with
    isSigner := set multisig.isSigner signer false
    signers := swapRemove multisig.signers signer }

def setThreshold (sender : Address) (threshold : U256) (multisig : OracleMultisig) :
    Except Error OracleMultisig := do
  onlyOwner sender multisig
  require (threshold ≠ 0 ∧ threshold.toNat ≤ multisig.signers.length)
    (.invalidThreshold threshold multisig.signers.length)
  return { multisig with threshold := threshold }

/-- The calls that change the multisig. -/
inductive Call where
  | addSigner (sender signer : Address)
  | removeSigner (sender signer : Address)
  | setThreshold (sender : Address) (threshold : U256)
  | setOwner (owner : Address)

def step : Call → OracleMultisig → Except Error OracleMultisig
  | .addSigner sender signer => addSigner sender signer
  | .removeSigner sender signer => removeSigner sender signer
  | .setThreshold sender threshold => setThreshold sender threshold
  | .setOwner owner => fun multisig => .ok { multisig with owner := owner }

/-! ## Validation -/

/-- `_EIP1271_MAGIC_VALUE`. -/
def magicValue : BitVec 32 := 0x1626ba7e

/-- The length of one signature. -/
def blockLength : ℕ := 65

/-- The signature that starts at `65 * i`. -/
def signatureBlock (signatures : Bytes) (i : ℕ) : Bytes :=
  (signatures.drop (blockLength * i)).take blockLength

/-- Recover the signer of one block, laid out as `r`, `s` and `v`. -/
def recoverBlock (tryRecover : TryRecover) (digest : Bytes32) (block : Bytes) :
    Option Address :=
  let r := BitVec.ofNat 256 (Abi.readBigEndian (block.take 32))
  let s := BitVec.ofNat 256 (Abi.readBigEndian ((block.drop 32).take 32))
  let v := block.getD 64 0
  tryRecover digest v r s

/-- The loop of `_validateSignatures` over the block indices that remain. -/
def validateBlocks (tryRecover : TryRecover) (multisig : OracleMultisig) (digest : Bytes32)
    (signatures : Bytes) : List ℕ → Address → Bool
  | [], _ => true
  | i :: rest, lastSigner =>
      match recoverBlock tryRecover digest (signatureBlock signatures i) with
      | none => false
      | some signer =>
          if signer ≤ lastSigner then false
          else if multisig.isSigner signer = false then false
          else validateBlocks tryRecover multisig digest signatures rest signer

/-- `_validateSignatures`. -/
def validateSignatures (tryRecover : TryRecover) (multisig : OracleMultisig)
    (digest : Bytes32) (signatures : Bytes) : Bool :=
  if signatures.length / blockLength < multisig.threshold.toNat then false
  else validateBlocks tryRecover multisig digest signatures
    (List.range multisig.threshold.toNat) 0

def isValidSignature (tryRecover : TryRecover) (multisig : OracleMultisig)
    (digest : Bytes32) (signature : Bytes) : BitVec 32 :=
  if validateSignatures tryRecover multisig digest signature then magicValue else 0

end OracleMultisig

end RelaySettlement
