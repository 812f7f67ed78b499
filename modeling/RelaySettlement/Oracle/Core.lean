import RelaySettlement.Hub.Core
import RelaySettlement.Oracle.Store

/-!
# RelayOracleV2

An oracle contract executes lists of encoded actions that an authorised oracle
signed: mints, burns and transfers on the hub, and rate-limited fast mints.  The
model covers any number of oracle contracts over one hub and one idempotency
store, together with the rate limiters and fee calculators they may call.

Contracts whose code is configured and not fixed are parameters: what a source
answers, whether a signature is valid, and what a fee calculator or a rate
limiter returns and does to the state `μ` of those modules.
-/

open Evm

namespace RelaySettlement

namespace Oracle

/-- The oracle's access-control roles. -/
inductive Role where
  | admin
  | oracle
  deriving DecidableEq

inductive ActionType where
  | mint
  | burn
  | transfer
  | fastMint
  deriving DecidableEq

/-- The enumeration's value as the first byte of an action. -/
def ActionType.code : ActionType → BitVec 8
  | .mint => 0
  | .burn => 1
  | .transfer => 2
  | .fastMint => 3

structure Execution where
  idempotencyKey : Bytes32
  actions : List Bytes

structure FeeResult where
  currency : U256
  amount : U256
  recipient : Address
  payer : Address

/-- A freshly declared `FeeResult memory`. -/
def FeeResult.zero : FeeResult := ⟨0, 0, 0, 0⟩

/-- What an oracle call reverts with. -/
inductive Error where
  | zeroAddress
  | alreadyExecuted (idempotencyKey : Bytes32)
  | unauthorizedOracle (oracle : Address)
  | invalidSignature (oracle : Address)
  | invalidActionType (actionType : BitVec 8)
  | rateLimiterNotAllowed (rateLimiter : Address)
  | feeCalculatorNotAllowed (feeCalculator : Address)
  | fastMintRejected
  | lengthMismatch
  | accessControlUnauthorizedAccount (account : Address) (role : Role)
  | invalidEncoding
  | moduleReverted (target : Address)
  | store (error : IdempotencyStore.Error)
  | hub (error : Hub.Error)
  deriving DecidableEq

end Oracle

/-- The storage of one oracle contract. -/
structure Oracle where
  hasRole : Oracle.Role → Address → Bool
  isRateLimiter : Address → Bool
  isFeeCalculator : Address → Bool

/-- The hub, the store, every oracle contract by its address, and the state of
the rate limiters and fee calculators. -/
structure OracleWorld (μ : Type) where
  hub : Hub
  store : IdempotencyStore
  oracles : Address → Oracle
  modules : μ

/-- The code the oracles call but do not contain. -/
structure OracleEnv (χ μ : Type) where
  hub : Hub.Env
  storeAddress : Address
  domainSeparator : Address → Bytes32
  hasCode : χ → Address → Bool
  isValidSignatureNow : χ → OracleWorld μ → Address → Bytes32 → Bytes → Bool
  sourceIsExecuted : χ → OracleWorld μ → Address → Bytes32 → Option Bool
  calculateFee : Ctx χ → OracleWorld μ → Address → U256 → U256 → Bytes →
    Option (Oracle.FeeResult × μ)
  consume : Ctx χ → OracleWorld μ → Address → U256 → U256 → Bytes → Option (Bool × μ)

namespace Oracle

variable {χ μ : Type} (env : OracleEnv χ μ) (self : Address) (ctx : Ctx χ)

/-- The message of a call the oracle contract makes. -/
def outgoing : Ctx χ := { ctx with sender := self }

/-! ## The store and the hub, as the oracle calls them -/

/-- What the store's sources answer in a world. -/
def sources (world : OracleWorld μ) : Address → Bytes32 → Option Bool :=
  env.sourceIsExecuted ctx.rest world

/-- `_isExecuted`. -/
def isExecuted (idempotencyKey : Bytes32) (world : OracleWorld μ) : Except Error Bool :=
  bubble .store (world.store.isExecuted (sources env ctx world) idempotencyKey)

/-- `IDEMPOTENCY_STORE.markExecuted`. -/
def markExecuted (idempotencyKey : Bytes32) (world : OracleWorld μ) :
    Except Error (OracleWorld μ) := do
  let store ← bubble .store
    (world.store.markExecuted (sources env ctx world) (outgoing self ctx).toMsg idempotencyKey)
  return { world with store := store }

/-- `HUB.mint`, `HUB.burn` or `HUB.transferFrom`, called for a non-zero amount
only. -/
def callHub (amount : U256) (call : Hub → Except Hub.Error Hub) (world : OracleWorld μ) :
    Except Error (OracleWorld μ) :=
  if amount = 0 then
    return world
  else do
    let hub ← bubble .hub (call world.hub)
    return { world with hub := hub }

/-! ## Actions -/

/-- The fee part of `_executeFastMint`; a zero calculator charges nothing. -/
def fastMintFee (feeCalculator : Address) (hubTokenId amount : U256)
    (feeCalculatorData : Bytes) (world : OracleWorld μ) :
    Except Error (FeeResult × OracleWorld μ) :=
  if feeCalculator ≠ 0 then do
    require ((world.oracles self).isFeeCalculator feeCalculator = true)
      (.feeCalculatorNotAllowed feeCalculator)
    let (fee, modules) ← orRevert
      (env.calculateFee (outgoing self ctx) world feeCalculator hubTokenId amount
        feeCalculatorData)
      (.moduleReverted feeCalculator)
    return (fee, { world with modules := modules })
  else
    return (FeeResult.zero, world)

/-- The rate limiting of `_executeFastMint`; a zero limiter opts out. -/
def fastMintRateLimit (rateLimiter : Address) (hubTokenId amount : U256)
    (rateLimiterData : Bytes) (world : OracleWorld μ) : Except Error (OracleWorld μ) :=
  if rateLimiter ≠ 0 then do
    require ((world.oracles self).isRateLimiter rateLimiter = true)
      (.rateLimiterNotAllowed rateLimiter)
    let (consumed, modules) ← orRevert
      (env.consume (outgoing self ctx) world rateLimiter hubTokenId amount rateLimiterData)
      (.moduleReverted rateLimiter)
    require (consumed = true) .fastMintRejected
    return { world with modules := modules }
  else
    return world

/-- `_executeFastMint`. -/
def executeFastMint (action : Bytes) (world : OracleWorld μ) :
    Except Error (OracleWorld μ) := do
  let hubToAddress ← orRevert (Abi.readUInt 160 action 1) .invalidEncoding
  let hubTokenId ← orRevert (Abi.readUInt 256 action 2) .invalidEncoding
  let amount ← orRevert (Abi.readUInt 256 action 3) .invalidEncoding
  let feeCalculator ← orRevert (Abi.readUInt 160 action 4) .invalidEncoding
  let feeCalculatorData ← orRevert (Abi.readBytes action 5) .invalidEncoding
  let rateLimiter ← orRevert (Abi.readUInt 160 action 6) .invalidEncoding
  let rateLimiterData ← orRevert (Abi.readBytes action 7) .invalidEncoding
  let (fee, world) ←
    fastMintFee env self ctx feeCalculator hubTokenId amount feeCalculatorData world
  let world ← fastMintRateLimit env self ctx rateLimiter hubTokenId amount rateLimiterData world
  let msg := (outgoing self ctx).toMsg
  let world ← callHub fee.amount
    (·.transferFrom msg fee.payer fee.recipient fee.currency fee.amount) world
  callHub amount (·.mint env.hub msg hubToAddress hubTokenId amount) world

/-- `_executeAction`: an action without an amount does nothing. -/
def executeAction (action : Bytes) (world : OracleWorld μ) :
    Except Error (OracleWorld μ) := do
  let msg := (outgoing self ctx).toMsg
  let actionType ← orRevert (Abi.readUInt 8 action 0) .invalidEncoding
  if actionType = ActionType.mint.code then
    let hubToAddress ← orRevert (Abi.readUInt 160 action 1) .invalidEncoding
    let hubTokenId ← orRevert (Abi.readUInt 256 action 2) .invalidEncoding
    let amount ← orRevert (Abi.readUInt 256 action 3) .invalidEncoding
    callHub amount (·.mint env.hub msg hubToAddress hubTokenId amount) world
  else if actionType = ActionType.burn.code then
    let hubFromAddress ← orRevert (Abi.readUInt 160 action 1) .invalidEncoding
    let hubTokenId ← orRevert (Abi.readUInt 256 action 2) .invalidEncoding
    let amount ← orRevert (Abi.readUInt 256 action 3) .invalidEncoding
    callHub amount (·.burn msg hubFromAddress hubTokenId amount) world
  else if actionType = ActionType.transfer.code then
    let hubFromAddress ← orRevert (Abi.readUInt 160 action 1) .invalidEncoding
    let hubToAddress ← orRevert (Abi.readUInt 160 action 2) .invalidEncoding
    let hubTokenId ← orRevert (Abi.readUInt 256 action 3) .invalidEncoding
    let amount ← orRevert (Abi.readUInt 256 action 4) .invalidEncoding
    callHub amount (·.transferFrom msg hubFromAddress hubToAddress hubTokenId amount) world
  else if actionType = ActionType.fastMint.code then
    executeFastMint env self ctx action world
  else
    .error (.invalidActionType actionType)

/-- The loop over the actions of an execution. -/
def executeActions : List Bytes → OracleWorld μ → Except Error (OracleWorld μ)
  | [], world => return world
  | action :: actions, world => do
      let world ← executeAction env self ctx action world
      executeActions actions world

/-! ## Executions -/

/-- `_EXECUTION_TYPEHASH`. -/
def executionTypehash : Bytes32 :=
  env.hub.keccak256 (Abi.utf8 "Execution(bytes32 idempotencyKey,bytes[] actions)")

/-- `_hashExecution`. -/
def hashExecution (execution : Execution) : Bytes32 :=
  let keccak256 := env.hub.keccak256
  let actionHashes := execution.actions.map keccak256
  let structHash := keccak256 (Abi.encode [
    .word (executionTypehash env), .word execution.idempotencyKey,
    .word (keccak256 (actionHashes.flatMap Abi.word))])
  Abi.hashTypedData keccak256 (env.domainSeparator self) structHash

/-- `_execute`: the key is marked before the actions run. -/
def internalExecute (execution : Execution) (oracleMultisig : Address) (signature : Bytes)
    (world : OracleWorld μ) : Except Error (OracleWorld μ) := do
  require ((world.oracles self).hasRole .oracle oracleMultisig = true)
    (.unauthorizedOracle oracleMultisig)
  let digest := hashExecution env self execution
  require (env.isValidSignatureNow ctx.rest world oracleMultisig digest signature = true)
    (.invalidSignature oracleMultisig)
  let world ← markExecuted env self ctx execution.idempotencyKey world
  executeActions env self ctx execution.actions world

def execute (execution : Execution) (oracle : Address) (signature : Bytes)
    (world : OracleWorld μ) : Except Error (OracleWorld μ) := do
  let executed ← isExecuted env ctx execution.idempotencyKey world
  require (executed = false) (.alreadyExecuted execution.idempotencyKey)
  internalExecute env self ctx execution oracle signature world

/-- The loop of `executeMultiple`.  Each entry is a call of the contract to
itself, so a revert inside undoes everything the entry did. -/
def executeEach (oracle : Address) :
    List (Execution × Bytes) → OracleWorld μ → Except Error (OracleWorld μ)
  | [], world => return world
  | (execution, signature) :: entries, world => do
      if ← isExecuted env ctx execution.idempotencyKey world then
        executeEach oracle entries world
      else
        match execute env self (outgoing self ctx) execution oracle signature world with
        | .ok next => executeEach oracle entries next
        | .error _ => executeEach oracle entries world

def executeMultiple (executions : List Execution) (oracle : Address)
    (signatures : List Bytes) (world : OracleWorld μ) : Except Error (OracleWorld μ) := do
  require (executions.length = signatures.length) .lengthMismatch
  executeEach env self ctx oracle (executions.zip signatures) world

/-! ## Administration -/

/-- An administrator's change of the contract's own storage. -/
def administer (change : Oracle → Except Error Oracle) (world : OracleWorld μ) :
    Except Error (OracleWorld μ) := do
  let oracle := world.oracles self
  require (oracle.hasRole .admin ctx.sender = true)
    (.accessControlUnauthorizedAccount ctx.sender .admin)
  let changed ← change oracle
  return { world with oracles := set world.oracles self changed }

def addRateLimiter (rateLimiter : Address) : OracleWorld μ → Except Error (OracleWorld μ) :=
  administer self ctx fun oracle => do
    require (rateLimiter ≠ 0) .zeroAddress
    return { oracle with isRateLimiter := set oracle.isRateLimiter rateLimiter true }

def removeRateLimiter (rateLimiter : Address) :
    OracleWorld μ → Except Error (OracleWorld μ) :=
  administer self ctx fun oracle =>
    return { oracle with isRateLimiter := set oracle.isRateLimiter rateLimiter false }

def addFeeCalculator (feeCalculator : Address) :
    OracleWorld μ → Except Error (OracleWorld μ) :=
  administer self ctx fun oracle => do
    require (feeCalculator ≠ 0) .zeroAddress
    return { oracle with isFeeCalculator := set oracle.isFeeCalculator feeCalculator true }

def removeFeeCalculator (feeCalculator : Address) :
    OracleWorld μ → Except Error (OracleWorld μ) :=
  administer self ctx fun oracle =>
    return { oracle with isFeeCalculator := set oracle.isFeeCalculator feeCalculator false }

/-- Any grant, revocation or renunciation of a role. -/
def setRole (role : Role) (account : Address) (granted : Bool) (world : OracleWorld μ) :
    Except Error (OracleWorld μ) :=
  let oracle := world.oracles self
  return { world with
    oracles := set world.oracles self
      { oracle with hasRole := set₂ oracle.hasRole role account granted } }

end Oracle

/-! ## The oracle system -/

/-- The oracle's functions with their arguments. -/
inductive OracleCall where
  | execute (execution : Oracle.Execution) (oracle : Address) (signature : Bytes)
  | executeMultiple (executions : List Oracle.Execution) (oracle : Address)
      (signatures : List Bytes)
  | addRateLimiter (rateLimiter : Address)
  | removeRateLimiter (rateLimiter : Address)
  | addFeeCalculator (feeCalculator : Address)
  | removeFeeCalculator (feeCalculator : Address)
  | setRole (role : Oracle.Role) (account : Address) (granted : Bool)

/-- The store's functions with their arguments. -/
inductive StoreCall where
  | addSource (source : Address)
  | markExecuted (idempotencyKey : Bytes32)
  | setRole (role : IdempotencyStore.Role) (account : Address) (granted : Bool)

/-- A call to an oracle or to the store, or activity of others: a call to the hub
or to a view, or anything that changes the modules. -/
inductive OracleSystemCall (χ μ : Type) where
  | oracle (self : Address) (ctx : Ctx χ) (call : OracleCall)
  | store (ctx : Ctx χ) (call : StoreCall)
  | ledger (call : LedgerCall)
  | modules (change : μ → μ)

/-- What a call of the system reverts with. -/
inductive OracleSystemError where
  | oracle (error : Oracle.Error)
  | store (error : IdempotencyStore.Error)
  | ledger (error : ERC20View.Error)

namespace OracleWorld

variable {χ μ : Type} (env : OracleEnv χ μ)

/-- Execute one oracle function. -/
def execOracle (self : Address) (ctx : Ctx χ) (call : OracleCall) :
    OracleWorld μ → Except Oracle.Error (OracleWorld μ) :=
  match call with
  | .execute execution oracle signature =>
      Oracle.execute env self ctx execution oracle signature
  | .executeMultiple executions oracle signatures =>
      Oracle.executeMultiple env self ctx executions oracle signatures
  | .addRateLimiter rateLimiter => Oracle.addRateLimiter self ctx rateLimiter
  | .removeRateLimiter rateLimiter => Oracle.removeRateLimiter self ctx rateLimiter
  | .addFeeCalculator feeCalculator => Oracle.addFeeCalculator self ctx feeCalculator
  | .removeFeeCalculator feeCalculator => Oracle.removeFeeCalculator self ctx feeCalculator
  | .setRole role account granted => Oracle.setRole self role account granted

/-- Execute one store function. -/
def execStore (ctx : Ctx χ) (call : StoreCall) (world : OracleWorld μ) :
    Except IdempotencyStore.Error IdempotencyStore :=
  let ask := Oracle.sources env ctx world
  match call with
  | .addSource source =>
      world.store.addSource ask env.storeAddress (env.hasCode ctx.rest) ctx.toMsg source
  | .markExecuted idempotencyKey => world.store.markExecuted ask ctx.toMsg idempotencyKey
  | .setRole role account granted =>
      return { world.store with hasRole := set₂ world.store.hasRole role account granted }

/-- One step of the oracle system. -/
def step (call : OracleSystemCall χ μ) (world : OracleWorld μ) :
    Except OracleSystemError (OracleWorld μ) :=
  match call with
  | .oracle self ctx call => bubble .oracle (execOracle env self ctx call world)
  | .store ctx call => do
      let store ← bubble .store (execStore env ctx call world)
      return { world with store := store }
  | .ledger call => do
      let hub ← bubble .ledger (world.hub.step env.hub call)
      return { world with hub := hub }
  | .modules change => return { world with modules := change world.modules }

end OracleWorld

end RelaySettlement
