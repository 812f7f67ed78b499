import RelaySettlement.Hub.Core

/-!
# RelayAllocator

The allocator turns a hub balance into a withdrawal on another chain: it burns
the amount from the spender's alias, has the payload builder of the chain and
depository build the payload, and stores the payload with the hashes to be
signed.  A stored payload is also what marks a request as processed.

Payload builders and the oracle multisig are called through view functions, so
they are parameters that read the world and cannot change it.
`RelayHub.burn` never returns `false`, so the guard on its result is left out.
-/

open Evm

namespace RelaySettlement

/-! ## Identifiers -/

namespace Utils

variable (keccak256 : Bytes → Bytes32)

def generateTokenId (chainId token : Bytes) : U256 := keccak256 (chainId ++ token)

/-- The low 160 bits of the hash. -/
def generateAddress (chainId account : Bytes) : Address :=
  (keccak256 (chainId ++ account)).setWidth 160

end Utils

/-- A withdraw request.  Chain ids are strings, kept as their bytes. -/
structure WithdrawRequest where
  chainId : Bytes
  depository : Bytes
  currency : Bytes
  amount : U256
  spenderChainId : Bytes
  spender : Bytes
  receiver : Bytes
  data : Bytes
  nonce : Bytes32
  deriving DecidableEq

structure BuildPayloadParams where
  currency : Bytes
  amount : U256
  receiver : Bytes
  nonce : U256
  data : Bytes

/-- The allocator's storage. -/
structure Allocator where
  owner : Address
  payloadBuilders : Bytes → Bytes → Address
  payloads : Bytes32 → Bytes
  hashesToSign : Bytes32 → ℕ → Bytes32
  usedNonces : Bytes32 → Bytes32 → Bool
  suspended : Address → Bool

/-- The hub and the allocator over it. -/
structure AllocatorWorld where
  hub : Hub
  allocator : Allocator

/-- What the allocator takes from its surroundings. -/
structure AllocatorEnv (χ : Type) where
  hub : Hub.Env
  self : Address
  oracleMultisig : Address
  domainSeparator : Bytes32
  tryRecover : Bytes32 → Bytes → Option Address
  isValidSignatureNow : χ → AllocatorWorld → Address → Bytes32 → Bytes → Bool
  buildPayload : χ → AllocatorWorld → Address → Bytes → Bytes → BuildPayloadParams →
    Option Bytes
  hashesToSign : χ → AllocatorWorld → Address → Bytes → Bytes → Bytes →
    Option (List Bytes32)

namespace Allocator

/-- What an allocator call reverts with. -/
inductive Error where
  | callerIsNotApproved (account : Address)
  | noPayloadBuilder (chainId depository : Bytes)
  | withdrawRequestAlreadyProcessed (withdrawRequestHash : Bytes32)
  | spenderSuspended (spender : Address)
  | emptyPayload
  | ownableUnauthorizedAccount (account : Address)
  | builderReverted (builder : Address)
  | hub (error : Hub.Error)
  deriving DecidableEq

/-- The allocator right after deployment. -/
def empty (owner : Address) : Allocator where
  owner := owner
  payloadBuilders := fun _ _ => 0
  payloads := fun _ => []
  hashesToSign := fun _ _ => 0
  usedNonces := fun _ _ => false
  suspended := fun _ => false

variable {χ : Type} (env : AllocatorEnv χ) (ctx : Ctx χ)

/-! ## Administration -/

/-- The `onlyOwner` modifier. -/
def onlyOwner (change : Allocator → Allocator) (world : AllocatorWorld) :
    Except Error AllocatorWorld := do
  require (world.allocator.owner = ctx.sender) (.ownableUnauthorizedAccount ctx.sender)
  return { world with allocator := change world.allocator }

def setPayloadBuilder (chainId depository : Bytes) (builder : Address) :
    AllocatorWorld → Except Error AllocatorWorld :=
  onlyOwner ctx fun allocator =>
    { allocator with
      payloadBuilders := set₂ allocator.payloadBuilders chainId depository builder }

def suspend (spender : Address) : AllocatorWorld → Except Error AllocatorWorld :=
  onlyOwner ctx fun allocator =>
    { allocator with suspended := set allocator.suspended spender true }

def unsuspend (spender : Address) : AllocatorWorld → Except Error AllocatorWorld :=
  onlyOwner ctx fun allocator =>
    { allocator with suspended := set allocator.suspended spender false }

/-! ## Withdraw requests -/

/-- `address(bytes20(spender))` for a spender of 20 bytes. -/
def spenderAddress (spender : Bytes) : Option Address :=
  if spender.length = 20 then some (BitVec.ofNat 160 (Abi.readBigEndian spender)) else none

/-- The hub account a request is paid from. -/
def spenderAlias (params : WithdrawRequest) : Address :=
  Utils.generateAddress env.hub.keccak256 params.spenderChainId params.spender

/-- The hub token a request burns. -/
def tokenId (params : WithdrawRequest) : U256 :=
  Utils.generateTokenId env.hub.keccak256 params.chainId params.currency

/-- `keccak256(abi.encode(params))`. -/
def withdrawRequestHash (params : WithdrawRequest) : Bytes32 :=
  env.hub.keccak256 (Abi.encode [.tuple [
    .bytes params.chainId, .bytes params.depository, .bytes params.currency,
    .word params.amount, .bytes params.spenderChainId, .bytes params.spender,
    .bytes params.receiver, .bytes params.data, .word params.nonce]])

/-- `PAYLOAD_TYPEHASH`. -/
def payloadTypehash : Bytes32 :=
  env.hub.keccak256 (Abi.utf8
    "WithdrawRequest(string chainId,bytes depository,bytes currency,uint256 amount,string spenderChainId,bytes spender,bytes receiver,bytes data,bytes32 nonce)")

/-- `_withdrawRequestDigest`. -/
def withdrawRequestDigest (params : WithdrawRequest) : Bytes32 :=
  let keccak256 := env.hub.keccak256
  Abi.hashTypedData keccak256 env.domainSeparator (keccak256 (Abi.encode [
    .word (payloadTypehash env), .word (keccak256 params.chainId),
    .word (keccak256 params.depository), .word (keccak256 params.currency),
    .word params.amount, .word (keccak256 params.spenderChainId),
    .word (keccak256 params.spender), .word (keccak256 params.receiver),
    .word (keccak256 params.data), .word params.nonce]))

/-- Whether the caller is the spender itself or an operator for its alias. -/
def callerAuthorized (params : WithdrawRequest) (world : AllocatorWorld) : Bool :=
  spenderAddress params.spender == some ctx.sender ||
    world.hub.isOperator (spenderAlias env params) ctx.sender

/-- Whether a signature is the spender's, by recovery for a spender of 20 bytes
or by the oracle multisig. -/
def signatureMatches (params : WithdrawRequest) (signature : Bytes)
    (world : AllocatorWorld) : Bool :=
  let digest := withdrawRequestDigest env params
  let recovered := match spenderAddress params.spender with
    | some signer => env.tryRecover digest signature == some signer
    | none => false
  recovered || env.isValidSignatureNow ctx.rest world env.oracleMultisig digest signature

/-- `consumeSpenderSignature`: whether the signature authorises the request, and
the world with the nonce consumed if it does. -/
def consumeSpenderSignature (params : WithdrawRequest) (signature : Bytes)
    (world : AllocatorWorld) : Bool × AllocatorWorld :=
  let allocator := world.allocator
  let spenderKey := env.hub.keccak256 params.spender
  if signature = [] then
    (false, world)
  else if allocator.usedNonces spenderKey params.nonce then
    (false, world)
  else if signatureMatches env ctx params signature world then
    (true, { world with
      allocator := { allocator with
        usedNonces := set₂ allocator.usedNonces spenderKey params.nonce true } })
  else
    (false, world)

/-- The authorisation part of `_submitWithdrawRequest`: a signature is consumed only
when the caller has no authority of its own. -/
def authorize (params : WithdrawRequest) (signature : Bytes) (world : AllocatorWorld) :
    Except Error AllocatorWorld :=
  if callerAuthorized env ctx params world then
    return world
  else do
    let consumed := consumeSpenderSignature env ctx params signature world
    require (consumed.1 = true) (.callerIsNotApproved ctx.sender)
    return consumed.2

/-- The loop that stores the hashes to be signed. -/
def storeHashes (withdrawRequestHash : Bytes32) :
    ℕ → List Bytes32 → (Bytes32 → ℕ → Bytes32) → Bytes32 → ℕ → Bytes32
  | _, [], stored => stored
  | i, hash :: hashes, stored =>
      storeHashes withdrawRequestHash (i + 1) hashes (set₂ stored withdrawRequestHash i hash)

/-- `_buildPayload`. -/
def buildPayload (builder : Address) (params : WithdrawRequest) (world : AllocatorWorld) :
    Except Error Bytes :=
  orRevert
    (env.buildPayload ctx.rest world builder params.chainId params.depository
      ⟨params.currency, params.amount, params.receiver, params.nonce, params.data⟩)
    (.builderReverted builder)

/-- `_submitWithdrawRequest`, which returns the hash of the request. -/
def internalSubmitWithdrawRequest (params : WithdrawRequest) (signature : Bytes)
    (world : AllocatorWorld) : Except Error (Bytes32 × AllocatorWorld) := do
  let builder := world.allocator.payloadBuilders params.chainId params.depository
  require (builder ≠ 0) (.noPayloadBuilder params.chainId params.depository)
  let spenderAlias := spenderAlias env params
  require (world.allocator.suspended spenderAlias = false) (.spenderSuspended spenderAlias)
  let world ← authorize env ctx params signature world
  let hash := withdrawRequestHash env params
  require (world.allocator.payloads hash = []) (.withdrawRequestAlreadyProcessed hash)
  let payload ← buildPayload env ctx builder params world
  require (payload ≠ []) .emptyPayload
  let world := { world with
    allocator := { world.allocator with
      payloads := set world.allocator.payloads hash payload } }
  let hub ← bubble .hub
    (world.hub.burn ⟨env.self, ctx.timestamp⟩ spenderAlias (tokenId env params) params.amount)
  let world := { world with hub := hub }
  let hashes ← orRevert
    (env.hashesToSign ctx.rest world builder params.chainId params.depository payload)
    (.builderReverted builder)
  return (hash, { world with
    allocator := { world.allocator with
      hashesToSign := storeHashes hash 0 hashes world.allocator.hashesToSign } })

def submitWithdrawRequest (params : WithdrawRequest) (world : AllocatorWorld) :
    Except Error (Bytes32 × AllocatorWorld) :=
  internalSubmitWithdrawRequest env ctx params [] world

def submitWithdrawRequestWithSignature (params : WithdrawRequest) (signature : Bytes)
    (world : AllocatorWorld) : Except Error (Bytes32 × AllocatorWorld) :=
  internalSubmitWithdrawRequest env ctx params signature world

end Allocator

/-! ## The allocator system -/

/-- The allocator's functions with their arguments.  `setOwner` stands for any
transfer or renunciation of the ownership. -/
inductive AllocatorCall where
  | submitWithdrawRequest (params : WithdrawRequest)
  | submitWithdrawRequestWithSignature (params : WithdrawRequest) (signature : Bytes)
  | setPayloadBuilder (chainId depository : Bytes) (builder : Address)
  | suspend (spender : Address)
  | unsuspend (spender : Address)
  | setOwner (owner : Address)

/-- A call to the allocator, or a call of anybody to the hub or to a view. -/
inductive AllocatorSystemCall (χ : Type) where
  | allocator (ctx : Ctx χ) (call : AllocatorCall)
  | ledger (call : LedgerCall)

/-- What a call of the system reverts with. -/
inductive AllocatorSystemError where
  | allocator (error : Allocator.Error)
  | ledger (error : ERC20View.Error)

namespace AllocatorWorld

variable {χ : Type} (env : AllocatorEnv χ)

/-- Execute one allocator function. -/
def exec (ctx : Ctx χ) (call : AllocatorCall) (world : AllocatorWorld) :
    Except Allocator.Error AllocatorWorld :=
  match call with
  | .submitWithdrawRequest params =>
      Prod.snd <$> Allocator.submitWithdrawRequest env ctx params world
  | .submitWithdrawRequestWithSignature params signature =>
      Prod.snd <$> Allocator.submitWithdrawRequestWithSignature env ctx params signature world
  | .setPayloadBuilder chainId depository builder =>
      Allocator.setPayloadBuilder ctx chainId depository builder world
  | .suspend spender => Allocator.suspend ctx spender world
  | .unsuspend spender => Allocator.unsuspend ctx spender world
  | .setOwner owner =>
      return { world with allocator := { world.allocator with owner := owner } }

/-- One step of the allocator system. -/
def step (call : AllocatorSystemCall χ) (world : AllocatorWorld) :
    Except AllocatorSystemError AllocatorWorld :=
  match call with
  | .allocator ctx call => bubble .allocator (exec env ctx call world)
  | .ledger call => do
      let hub ← bubble .ledger (world.hub.step env.hub call)
      return { world with hub := hub }

end AllocatorWorld

end RelaySettlement
