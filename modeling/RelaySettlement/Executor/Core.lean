import RelaySettlement.Allocator.Core
import RelaySettlement.Evm.Run

/-!
# RelayExecutor

An execution pulls an order's whole balance of the input token, charges the
order's fees once, hands its balance of the input token to a resolver chosen by
the solver, runs the resolver, and withdraws its balance of the output token
through the allocator.

A resolver is arbitrary code.  The guard of `execute` keeps it from entering the
executor, so all it can do is act on the rest of the system: its run is a list of
calls, each of which may revert, together with a new state of the contracts
outside the model.  Hub transfers never return `false`, so the guards on their
results are left out.
-/

open Evm

namespace RelaySettlement

/-- A fee in the input currency. -/
structure Fee where
  recipient : Address
  amount : U256

/-- An oracle-signed execute and withdraw request. -/
structure ExecuteAndWithdrawRequest where
  inChainId : Bytes
  inCurrency : Bytes
  outChainId : Bytes
  outCurrency : Bytes
  outAmountMinimum : U256
  depository : Bytes
  orderAddress : Address
  receiver : Bytes
  data : Bytes
  fees : List Fee
  nonce : Bytes32
  deadline : U256

namespace Executor

/-- The executor's access-control roles. -/
inductive Role where
  | admin
  | oracle
  deriving DecidableEq

/-- What an execution reverts with. -/
inductive Error where
  | unauthorizedOracle (oracle : Address)
  | invalidSignature (oracle : Address)
  | emptyOrderBalance (orderAddress : Address) (tokenId : U256)
  | insufficientMinimumAmount (tokenId balance outAmountMinimum : U256)
  | requestAlreadyExecuted (digest : Bytes32)
  | requestExpired (deadline : U256)
  | resolverReverted (callResolver : Address)
  | hub (error : Hub.Error)
  | allocator (error : Allocator.Error)
  deriving DecidableEq

end Executor

/-- The executor's storage. -/
structure Executor where
  hasRole : Executor.Role → Address → Bool
  orderAddressByWithdrawRequestHash : Bytes32 → Address
  usedRequests : Bytes32 → Bool
  feesChargedByOrderAddress : Address → Bool

/-- The hub, the allocator and the executor. -/
structure ExecutorWorld extends AllocatorWorld where
  executor : Executor

/-- The executor right after deployment, with some role table. -/
def Executor.empty (roles : Executor.Role → Address → Bool) : Executor where
  hasRole := roles
  orderAddressByWithdrawRequestHash := fun _ => 0
  usedRequests := fun _ => false
  feesChargedByOrderAddress := fun _ => false

/-- What others may do while no execution is at work, and what a resolver may do
while one is. -/
inductive Activity (χ : Type) where
  | settlement (call : AllocatorSystemCall χ)
  | setRole (role : Executor.Role) (account : Address) (granted : Bool)

/-- What the executor takes from its surroundings. -/
structure ExecutorEnv (χ : Type) where
  allocator : AllocatorEnv χ
  self : Address
  domainSeparator : Bytes32
  isValidSignatureNow : χ → ExecutorWorld → Address → Bytes32 → Bytes → Bool
  resolve : Ctx χ → ExecutorWorld → Address → ExecuteAndWithdrawRequest → Bool → Bytes →
    Option (List (Activity χ) × χ)

/-- The arguments of one call of `execute`. -/
structure ExecuteCall (χ : Type) where
  ctx : Ctx χ
  request : ExecuteAndWithdrawRequest
  callResolver : Address
  callResolverData : Bytes
  oracle : Address
  signature : Bytes

/-- One step of activity around the executor. -/
def Activity.step {χ : Type} (env : ExecutorEnv χ) (activity : Activity χ)
    (world : ExecutorWorld) : Except AllocatorSystemError ExecutorWorld :=
  match activity with
  | .settlement call => do
      let settled ← AllocatorWorld.step env.allocator call world.toAllocatorWorld
      return { world with toAllocatorWorld := settled }
  | .setRole role account granted =>
      return { world with
        executor := { world.executor with
          hasRole := set₂ world.executor.hasRole role account granted } }

namespace Executor

/-- What an execution went through.  `execute` returns the hash only; the worlds
between its steps are what statements about one execution speak of. -/
structure Settlement where
  orderBalance : U256
  feesCharged : Bool
  netInput : U256
  withdrawAmount : U256
  withdrawRequestHash : Bytes32
  pulled : ExecutorWorld
  charged : ExecutorWorld
  handed : ExecutorWorld
  resolved : ExecutorWorld
  funded : ExecutorWorld
  after : ExecutorWorld

variable {χ : Type} (env : ExecutorEnv χ) (ctx : Ctx χ)

/-! ## Identifiers -/

/-- The hub token of a request's input currency. -/
def tokenIn (request : ExecuteAndWithdrawRequest) : U256 :=
  Utils.generateTokenId env.allocator.hub.keccak256 request.inChainId request.inCurrency

/-- The hub token of a request's output currency. -/
def tokenOut (request : ExecuteAndWithdrawRequest) : U256 :=
  Utils.generateTokenId env.allocator.hub.keccak256 request.outChainId request.outCurrency

/-- `_SPENDER_CHAIN_ID`. -/
def spenderChainId : Bytes := Abi.utf8 "relay"

/-- `abi.encodePacked(address(this))`. -/
def packedSelf : Bytes := Abi.bigEndian 20 env.self.toNat

/-- The executor's own spender alias. -/
def spenderAlias : Address :=
  Utils.generateAddress env.allocator.hub.keccak256 spenderChainId (packedSelf env)

/-- `_FEE_TYPEHASH`. -/
def feeTypehash : Bytes32 :=
  env.allocator.hub.keccak256 (Abi.utf8 "Fee(address recipient,uint256 amount)")

/-- `_hashFees`. -/
def hashFees (fees : List Fee) : Bytes32 :=
  let keccak256 := env.allocator.hub.keccak256
  keccak256 (fees.flatMap fun fee => Abi.word (keccak256 (Abi.encode [
    .word (feeTypehash env), .address fee.recipient, .word fee.amount])))

/-- `_EXECUTE_AND_WITHDRAW_REQUEST_TYPEHASH`. -/
def requestTypehash : Bytes32 :=
  env.allocator.hub.keccak256 (Abi.utf8
    "ExecuteAndWithdrawRequest(string inChainId,bytes inCurrency,string outChainId,bytes outCurrency,uint256 outAmountMinimum,bytes depository,address orderAddress,bytes receiver,bytes data,Fee[] fees,bytes32 nonce,uint256 deadline)Fee(address recipient,uint256 amount)")

/-- `_executeAndWithdrawRequestDigest`. -/
def requestDigest (request : ExecuteAndWithdrawRequest) : Bytes32 :=
  let keccak256 := env.allocator.hub.keccak256
  Abi.hashTypedData keccak256 env.domainSeparator (keccak256 (Abi.encode [
    .word (requestTypehash env), .word (keccak256 request.inChainId),
    .word (keccak256 request.inCurrency), .word (keccak256 request.outChainId),
    .word (keccak256 request.outCurrency), .word request.outAmountMinimum,
    .word (keccak256 request.depository), .address request.orderAddress,
    .word (keccak256 request.receiver), .word (keccak256 request.data),
    .word (hashFees env request.fees), .word request.nonce, .word request.deadline]))

/-- The allocator request an execution submits. -/
def withdrawRequest (request : ExecuteAndWithdrawRequest) (withdrawAmount : U256) :
    WithdrawRequest where
  chainId := request.outChainId
  depository := request.depository
  currency := request.outCurrency
  amount := withdrawAmount
  spenderChainId := spenderChainId
  spender := packedSelf env
  receiver := request.receiver
  data := request.data
  nonce := request.nonce

/-! ## The steps of an execution -/

/-- `_validateRequest`. -/
def validateRequest (request : ExecuteAndWithdrawRequest) (oracleMultisig : Address)
    (signature : Bytes) (world : ExecutorWorld) : Except Error ExecutorWorld := do
  require (world.executor.hasRole .oracle oracleMultisig = true)
    (.unauthorizedOracle oracleMultisig)
  require (ctx.timestamp ≤ request.deadline) (.requestExpired request.deadline)
  let digest := requestDigest env request
  require (world.executor.usedRequests digest = false) (.requestAlreadyExecuted digest)
  let world := { world with
    executor := { world.executor with
      usedRequests := set world.executor.usedRequests digest true } }
  require (env.isValidSignatureNow ctx.rest world oracleMultisig digest signature = true)
    (.invalidSignature oracleMultisig)
  return world

/-- `HUB.transfer`, called by the executor. -/
def hubTransfer (receiver : Address) (tokenId amount : U256) (world : ExecutorWorld) :
    Except Error ExecutorWorld := do
  let hub ← bubble .hub
    (world.hub.transfer ⟨env.self, ctx.timestamp⟩ receiver tokenId amount)
  return { world with hub := hub }

/-- `_pullOrderFunds`. -/
def pullOrderFunds (orderAddress : Address) (tokenId : U256) (world : ExecutorWorld) :
    Except Error (U256 × ExecutorWorld) := do
  let orderBalance := world.hub.balanceOf orderAddress tokenId
  require (orderBalance ≠ 0) (.emptyOrderBalance orderAddress tokenId)
  let hub ← bubble .hub (world.hub.transferFrom ⟨env.self, ctx.timestamp⟩ orderAddress
    env.self tokenId orderBalance)
  return (orderBalance, { world with hub := hub })

/-- The loop of `_chargeFees`. -/
def payFees (tokenId : U256) : List Fee → ExecutorWorld → Except Error ExecutorWorld
  | [], world => return world
  | fee :: fees, world => do
      let world ← hubTransfer env ctx fee.recipient tokenId fee.amount world
      payFees tokenId fees world

/-- `_chargeFees`: an order address is charged once. -/
def chargeFees (orderAddress : Address) (tokenId : U256) (fees : List Fee)
    (world : ExecutorWorld) : Except Error (Bool × ExecutorWorld) :=
  if world.executor.feesChargedByOrderAddress orderAddress then
    return (false, world)
  else do
    let world := { world with
      executor := { world.executor with
        feesChargedByOrderAddress :=
          set world.executor.feesChargedByOrderAddress orderAddress true } }
    let world ← payFees env ctx tokenId fees world
    return (true, world)

/-- The first half of `_runCalls`: the executor's whole balance of the input token
goes to the resolver. -/
def handInput (callResolver : Address) (tokenInId : U256) (world : ExecutorWorld) :
    Except Error (U256 × ExecutorWorld) := do
  let netInput := world.hub.balanceOf env.self tokenInId
  if netInput = 0 then
    return (netInput, world)
  else
    let world ← hubTransfer env ctx callResolver tokenInId netInput world
    return (netInput, world)

/-- The second half of `_runCalls`: the resolver runs. -/
def runResolver (callResolver : Address) (callResolverData : Bytes)
    (request : ExecuteAndWithdrawRequest) (feesCharged : Bool) (world : ExecutorWorld) :
    Except Error (χ × ExecutorWorld) := do
  -- the executor has no function that answers a resolver call
  require (callResolver ≠ env.self) (.resolverReverted callResolver)
  let (activities, rest) ← orRevert
    (env.resolve { ctx with sender := env.self } world callResolver request feesCharged
      callResolverData)
    (.resolverReverted callResolver)
  return (rest, run (Activity.step env) activities world)

/-- `ALLOCATOR.submitWithdrawRequest`, called by the executor. -/
def submitWithdrawRequest (params : WithdrawRequest) (world : ExecutorWorld) :
    Except Error (Bytes32 × ExecutorWorld) := do
  let (hash, settled) ← bubble .allocator
    (Allocator.submitWithdrawRequest env.allocator { ctx with sender := env.self } params
      world.toAllocatorWorld)
  return (hash, { world with toAllocatorWorld := settled })

/-- `execute`. -/
def execute (call : ExecuteCall χ) (world : ExecutorWorld) : Except Error Settlement := do
  let request := call.request
  let world ← validateRequest env call.ctx request call.oracle call.signature world
  let tokenInId := tokenIn env request
  let (orderBalance, pulled) ←
    pullOrderFunds env call.ctx request.orderAddress tokenInId world
  let (feesCharged, charged) ←
    chargeFees env call.ctx request.orderAddress tokenInId request.fees pulled
  let (netInput, handed) ← handInput env call.ctx call.callResolver tokenInId charged
  let (rest, resolved) ← runResolver env call.ctx call.callResolver call.callResolverData
    request feesCharged handed
  -- `_finalizeWithdraw`
  let ctx := { call.ctx with rest := rest }
  let tokenOutId := tokenOut env request
  let withdrawAmount := resolved.hub.balanceOf env.self tokenOutId
  require (request.outAmountMinimum ≤ withdrawAmount)
    (.insufficientMinimumAmount tokenOutId withdrawAmount request.outAmountMinimum)
  let funded ← hubTransfer env ctx (spenderAlias env) tokenOutId withdrawAmount resolved
  let (hash, submitted) ←
    submitWithdrawRequest env ctx (withdrawRequest env request withdrawAmount) funded
  let after := { submitted with
    executor := { submitted.executor with
      orderAddressByWithdrawRequestHash :=
        set submitted.executor.orderAddressByWithdrawRequestHash hash request.orderAddress } }
  return ⟨orderBalance, feesCharged, netInput, withdrawAmount, hash, pulled, charged, handed,
    resolved, funded, after⟩

end Executor

/-! ## The executor system -/

/-- A call of `execute`, or other activity around the executor. -/
inductive ExecutorSystemCall (χ : Type) where
  | execute (call : ExecuteCall χ)
  | activity (activity : Activity χ)

/-- What a call of the system reverts with. -/
inductive ExecutorSystemError where
  | executor (error : Executor.Error)
  | activity (error : AllocatorSystemError)

/-- One step of the executor system. -/
def ExecutorWorld.step {χ : Type} (env : ExecutorEnv χ) (call : ExecutorSystemCall χ)
    (world : ExecutorWorld) : Except ExecutorSystemError ExecutorWorld :=
  match call with
  | .execute call =>
      bubble .executor (Executor.Settlement.after <$> Executor.execute env call world)
  | .activity activity => bubble .activity (activity.step env world)

end RelaySettlement
