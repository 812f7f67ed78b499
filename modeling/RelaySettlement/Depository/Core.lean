import RelaySettlement.Evm.Abi

/-!
# RelayDepository and RelayGatewayDepository

A depository executes the call lists its allocator has signed.  Neither contract has a
reentrancy guard: a called contract may call `execute` again, on any depository and with
any arguments, before it returns or reverts.  The depositories of both kinds therefore
live in one world, and what happens during a call is part of the call.

Every execution and every call is recorded in the world it leaves, and a revert drops the
records with everything else.  Deposits and the configuration of USDC touch nothing that
`execute` reads, so they count as calls to other contracts.  `setOwner` stands for every
way the ownership can change.
-/

open Evm

namespace RelaySettlement

/-- The storage of a depository of either kind. -/
structure Depository where
  owner : Address
  allocator : Address
  callRequests : Bytes32 → Bool

namespace Depository

/-- One call of a request; `target` is the source's `to`. -/
structure Call where
  target : Address
  data : Bytes
  value : U256
  allowFailure : Bool
  deriving DecidableEq

structure CallResult where
  success : Bool
  returnData : Bytes

inductive Error where
  | unauthorized
  | addressCannotBeZero
  | invalidSignature
  | callRequestExpired
  | callRequestAlreadyUsed
  | callFailed (returnData : Bytes)
  | transferSpecHashAlreadyUsed (transferSpecHash : Bytes32)
  | invalidGatewayAttestation (transferSpecHash : Bytes32)
  | invalidGatewayAttestationEncoding
  | gatewayAttestationSetsNotSupported
  | gatewayAttestationTransferSpecMismatch (expectedTransferSpecHash : Bytes32)
      (actualTransferSpecHash : Bytes32)
  | reverted (returnData : Bytes)
  deriving DecidableEq

section Hashing

variable (keccak256 : Bytes → Bytes32)

/-- `_CALL_TYPEHASH`. -/
def callTypehash : Bytes32 :=
  keccak256 (Abi.utf8 "Call(address to,bytes data,uint256 value,bool allowFailure)")

/-- What one round of the loop of `_hashCallRequest` hashes. -/
def encodeCall (call : Call) : Bytes :=
  Abi.encode [
    .word (callTypehash keccak256), .address call.target, .word (keccak256 call.data),
    .word call.value, .bool call.allowFailure]

/-- `abi.encodePacked(callHashes)`. -/
def packCallHashes (calls : List Call) : Bytes :=
  (calls.map fun call => keccak256 (encodeCall keccak256 call)).flatMap Abi.word

end Hashing

end Depository

/-! ## Requests -/

namespace RelayDepository

structure CallRequest where
  calls : List Depository.Call
  nonce : U256
  expiration : U256
  deriving DecidableEq

variable (keccak256 : Bytes → Bytes32)

/-- `_CALL_REQUEST_TYPEHASH`. -/
def callRequestTypehash : Bytes32 :=
  keccak256 (Abi.utf8
    "CallRequest(Call[] calls,uint256 nonce,uint256 expiration)Call(address to,bytes data,uint256 value,bool allowFailure)")

/-- What the struct hash of a request is taken of. -/
def encodeCallRequest (request : CallRequest) : Bytes :=
  Abi.encode [
    .word (callRequestTypehash keccak256),
    .word (keccak256 (Depository.packCallHashes keccak256 request.calls)),
    .word request.nonce, .word request.expiration]

/-- `_hashCallRequest`: the struct hash and the digest of a request. -/
def hashCallRequest (chainId : U256) (self : Address) (request : CallRequest) :
    Bytes32 × Bytes32 :=
  let structHash := keccak256 (encodeCallRequest keccak256 request)
  (structHash, Abi.hashTypedData keccak256
    (Abi.domainSeparator keccak256 "RelayDepository" "1" chainId self) structHash)

end RelayDepository

namespace RelayGatewayDepository

structure CallRequest where
  transferSpecHash : Bytes32
  calls : List Depository.Call
  nonce : U256
  expiration : U256
  deriving DecidableEq

variable (keccak256 : Bytes → Bytes32)

/-- `_CALL_REQUEST_TYPEHASH`. -/
def callRequestTypehash : Bytes32 :=
  keccak256 (Abi.utf8
    "CallRequest(bytes32 transferSpecHash,Call[] calls,uint256 nonce,uint256 expiration)Call(address to,bytes data,uint256 value,bool allowFailure)")

/-- What the struct hash of a request is taken of. -/
def encodeCallRequest (request : CallRequest) : Bytes :=
  Abi.encode [
    .word (callRequestTypehash keccak256), .word request.transferSpecHash,
    .word (keccak256 (Depository.packCallHashes keccak256 request.calls)),
    .word request.nonce, .word request.expiration]

/-- `_hashCallRequest`: the struct hash and the digest of a request. -/
def hashCallRequest (chainId : U256) (self : Address) (request : CallRequest) :
    Bytes32 × Bytes32 :=
  let structHash := keccak256 (encodeCallRequest keccak256 request)
  (structHash, Abi.hashTypedData keccak256
    (Abi.domainSeparator keccak256 "RelayGatewayDepository" "1" chainId self) structHash)

/-- `_GATEWAY_ATTESTATION_MAGIC`. -/
def gatewayAttestationMagic : ℕ := 0xff6fb334

/-- `_GATEWAY_ATTESTATION_SET_MAGIC`. -/
def gatewayAttestationSetMagic : ℕ := 0x1e12db71

/-- `_GATEWAY_ATTESTATION_HEADER_LENGTH`. -/
def gatewayAttestationHeaderLength : ℕ := 40

/-- `_validateGatewayAttestation`. -/
def validateGatewayAttestation (payload : Bytes) (expectedTransferSpecHash : Bytes32) :
    Except Depository.Error Unit := do
  require (gatewayAttestationHeaderLength ≤ payload.length) .invalidGatewayAttestationEncoding
  let magic := Abi.readBigEndian (payload.take 4)
  require (magic ≠ gatewayAttestationSetMagic) .gatewayAttestationSetsNotSupported
  require (magic = gatewayAttestationMagic) .invalidGatewayAttestationEncoding
  let transferSpecLength := Abi.readBigEndian ((payload.drop 36).take 4)
  require (payload.length = gatewayAttestationHeaderLength + transferSpecLength)
    .invalidGatewayAttestationEncoding
  let actualTransferSpecHash := keccak256 (payload.drop gatewayAttestationHeaderLength)
  require (actualTransferSpecHash = expectedTransferSpecHash)
    (.gatewayAttestationTransferSpecMismatch expectedTransferSpecHash actualTransferSpecHash)

end RelayGatewayDepository

/-! ## The world -/

/-- The depository of a kind at an address. -/
inductive DepositoryAt where
  | relay (self : Address)
  | gateway (self : Address)
  deriving DecidableEq

/-- A request to a depository of either kind. -/
inductive DepositoryRequest where
  | relay (request : RelayDepository.CallRequest)
  | gateway (request : RelayGatewayDepository.CallRequest)
  deriving DecidableEq

namespace DepositoryRequest

def calls : DepositoryRequest → List Depository.Call
  | .relay request => request.calls
  | .gateway request => request.calls

def expiration : DepositoryRequest → U256
  | .relay request => request.expiration
  | .gateway request => request.expiration

end DepositoryRequest

/-- An execution that got past its checks, with what they were made on: `allocator` is the
allocator in force and `rest` the state of all other contracts at that time. -/
structure DepositoryExecution (χ : Type) where
  depository : DepositoryAt
  request : DepositoryRequest
  structHash : Bytes32
  digest : Bytes32
  timestamp : U256
  allocator : Address
  signature : Bytes
  rest : χ

/-- A call a depository made for a request that it executes. -/
structure CallMade where
  depository : DepositoryAt
  structHash : Bytes32
  call : Depository.Call
  success : Bool
  deriving DecidableEq

/-- The depositories, with the executions and the calls so far, oldest first. -/
structure DepositoryWorld (χ : Type) where
  depositories : DepositoryAt → Depository
  executions : List (DepositoryExecution χ)
  calls : List CallMade

/-- What the depositories take from their surroundings. -/
structure DepositoryEnv (χ : Type) where
  keccak256 : Bytes → Bytes32
  chainId : U256
  isValidSignatureNow : χ → Address → Bytes32 → Bytes → Bool

/-- How a called contract behaves: what happens to the depositories before the call ends,
whether it returns, and its data.  A reverted call undoes what happened during it. -/
structure Outcome (χ : Type) where
  during : DepositoryWorld χ → DepositoryWorld χ
  success : Bool
  returnData : Bytes

variable {χ : Type}

namespace Outcome

/-- An account without code. -/
def idle : Outcome χ := ⟨id, true, []⟩

/-- The world after the call. -/
def after (outcome : Outcome χ) (world : DepositoryWorld χ) : DepositoryWorld χ :=
  if outcome.success then outcome.during world else world

end Outcome

namespace DepositoryWorld

/-- `callRequests[structHash] = true`. -/
def markUsed (execution : DepositoryExecution χ) (world : DepositoryWorld χ) :
    DepositoryWorld χ :=
  let depository := world.depositories execution.depository
  { world with
    depositories := set world.depositories execution.depository
      { depository with
        callRequests := set depository.callRequests execution.structHash true }
    executions := world.executions ++ [execution] }

/-- `_executeCalls`, with the outcome of each call. -/
def executeCalls (self : DepositoryAt) (id : Bytes32) :
    List Depository.Call → List (Outcome χ) → DepositoryWorld χ →
      Except Depository.Error (List Depository.CallResult × DepositoryWorld χ)
  | [], _, world => return ([], world)
  | call :: calls, outcomes, world => do
      let outcome := outcomes.headD .idle
      let world := outcome.after world
      require (outcome.success = true ∨ call.allowFailure = true)
        (.callFailed outcome.returnData)
      let world := { world with
        calls := world.calls ++ [⟨self, id, call, outcome.success⟩] }
      let (results, world) ← executeCalls self id calls outcomes.tail world
      return (⟨outcome.success, outcome.returnData⟩ :: results, world)

variable (env : DepositoryEnv χ) (timestamp : U256)

/-- `RelayDepository.execute`. -/
def execute (self : Address) (request : RelayDepository.CallRequest) (signature : Bytes)
    (rest : χ) (outcomes : List (Outcome χ)) (world : DepositoryWorld χ) :
    Except Depository.Error (List Depository.CallResult × DepositoryWorld χ) := do
  let (structHash, eip712Hash) :=
    RelayDepository.hashCallRequest env.keccak256 env.chainId self request
  let depository := world.depositories (.relay self)
  require (¬ request.expiration < timestamp) .callRequestExpired
  require (env.isValidSignatureNow rest depository.allocator eip712Hash signature = true)
    .invalidSignature
  require (depository.callRequests structHash = false) .callRequestAlreadyUsed
  let world := world.markUsed ⟨.relay self, .relay request, structHash, eip712Hash, timestamp,
    depository.allocator, signature, rest⟩
  executeCalls (.relay self) structHash request.calls outcomes world

/-- `RelayGatewayDepository.execute`.  `usedBefore` and `usedAfter` are what the minter
answers to `isTransferSpecHashUsed` before and after `gatewayMint`, if it does. -/
def gatewayExecute (self : Address) (request : RelayGatewayDepository.CallRequest)
    (signature attestationPayload : Bytes) (rest : χ) (usedBefore usedAfter : Option Bool)
    (mint : Outcome χ) (outcomes : List (Outcome χ)) (world : DepositoryWorld χ) :
    Except Depository.Error (List Depository.CallResult × DepositoryWorld χ) := do
  let (structHash, eip712Hash) :=
    RelayGatewayDepository.hashCallRequest env.keccak256 env.chainId self request
  let depository := world.depositories (.gateway self)
  require (¬ request.expiration < timestamp) .callRequestExpired
  require (env.isValidSignatureNow rest depository.allocator eip712Hash signature = true)
    .invalidSignature
  RelayGatewayDepository.validateGatewayAttestation env.keccak256 attestationPayload
    request.transferSpecHash
  require (depository.callRequests structHash = false) .callRequestAlreadyUsed
  let used ← orRevert usedBefore (.reverted [])
  require (used = false) (.transferSpecHashAlreadyUsed request.transferSpecHash)
  let world := world.markUsed ⟨.gateway self, .gateway request, structHash, eip712Hash,
    timestamp, depository.allocator, signature, rest⟩
  require (mint.success = true) (.reverted mint.returnData)
  let world := mint.after world
  let used ← orRevert usedAfter (.reverted [])
  require (used = true) (.invalidGatewayAttestation request.transferSpecHash)
  executeCalls (.gateway self) structHash request.calls outcomes world

/-- `setAllocator` of both kinds. -/
def setAllocator (depository : DepositoryAt) (sender allocator : Address)
    (world : DepositoryWorld χ) : Except Depository.Error (DepositoryWorld χ) := do
  require (sender = (world.depositories depository).owner) .unauthorized
  require (allocator ≠ 0) .addressCannotBeZero
  return { world with
    depositories := set world.depositories depository
      { world.depositories depository with allocator := allocator } }

def setOwner (depository : DepositoryAt) (owner : Address) (world : DepositoryWorld χ) :
    DepositoryWorld χ :=
  { world with
    depositories := set world.depositories depository
      { world.depositories depository with owner := owner } }

end DepositoryWorld

/-! ## Events -/

mutual
/-- What can happen to the depositories; `call` is a call to any other contract. -/
inductive DepositoryEvent (χ : Type) where
  | execute (self : Address) (request : RelayDepository.CallRequest) (signature : Bytes)
      (rest : χ) (callees : List (Callee χ))
  | gatewayExecute (self : Address) (request : RelayGatewayDepository.CallRequest)
      (signature attestationPayload : Bytes) (rest : χ) (usedBefore usedAfter : Option Bool)
      (mint : Callee χ) (callees : List (Callee χ))
  | setAllocator (depository : DepositoryAt) (sender allocator : Address)
  | setOwner (depository : DepositoryAt) (owner : Address)
  | call (callee : Callee χ)

/-- A called contract, with the events it causes before it returns or reverts. -/
inductive Callee (χ : Type) where
  | callee (during : List (DepositoryEvent χ)) (success : Bool) (returnData : Bytes)
end

def Callee.success : Callee χ → Bool
  | .callee _ success _ => success

section Events

variable (env : DepositoryEnv χ) (timestamp : U256)

mutual
/-- One event.  All events of a transaction happen at one time. -/
def DepositoryEvent.step :
    DepositoryEvent χ → DepositoryWorld χ → Except Depository.Error (DepositoryWorld χ)
  | .execute self request signature rest callees, world => do
      let (_, world) ← world.execute env timestamp self request signature rest
        (Callee.outcomes callees)
      return world
  | .gatewayExecute self request signature attestationPayload rest usedBefore usedAfter mint
      callees, world => do
      let (_, world) ← world.gatewayExecute env timestamp self request signature
        attestationPayload rest usedBefore usedAfter mint.outcome (Callee.outcomes callees)
      return world
  | .setAllocator depository sender allocator, world =>
      world.setAllocator depository sender allocator
  | .setOwner depository owner, world => return world.setOwner depository owner
  | .call callee, world => do
      let outcome := callee.outcome
      require (outcome.success = true) (.reverted outcome.returnData)
      return outcome.after world

/-- A list of events, each of which may revert. -/
def DepositoryEvent.runAll :
    List (DepositoryEvent χ) → DepositoryWorld χ → DepositoryWorld χ
  | [], world => world
  | event :: events, world =>
      match event.step world with
      | .ok next => DepositoryEvent.runAll events next
      | .error _ => DepositoryEvent.runAll events world

def Callee.outcome : Callee χ → Outcome χ
  | .callee during success returnData =>
      ⟨DepositoryEvent.runAll during, success, returnData⟩

def Callee.outcomes : List (Callee χ) → List (Outcome χ)
  | [] => []
  | callee :: callees => callee.outcome :: Callee.outcomes callees
end

end Events

/-- A transaction: an event at a time. -/
structure DepositoryTransaction (χ : Type) where
  timestamp : U256
  event : DepositoryEvent χ

/-- One transaction. -/
def DepositoryTransaction.step (env : DepositoryEnv χ) (transaction : DepositoryTransaction χ)
    (world : DepositoryWorld χ) : Except Depository.Error (DepositoryWorld χ) :=
  transaction.event.step env transaction.timestamp world

end RelaySettlement
