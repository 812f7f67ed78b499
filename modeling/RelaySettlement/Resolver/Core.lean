import RelaySettlement.Executor.Core
import RelaySettlement.Pool.Core

/-!
# PoolDrawResolver and its sandbox

The resolver settles an order by an ordered list of draw legs against funding pools.
Fixed legs draw an exact amount before the request's own calls run; shortfall legs top
the resolver's holding of a token up to a target, or return what exceeds it, after them.
Solver calls run in a sandbox without privileges.

The funding pools are those of `Pool.Core`.  Tokens move exactly what is transferred and
call nobody; a token may still refuse a transfer.  Solver calls are arbitrary code: a
parameter answers each with a new world or a revert.
-/

open Evm

namespace RelaySettlement

/-- A solver-supplied call, run by the sandbox. -/
structure Call where
  target : Address
  data : Bytes
  deriving DecidableEq

/-- One draw against a pool account inside an order settlement. -/
structure DrawLeg where
  pool : Address
  account : Address
  kind : DrawLegKind
  tokenIn : Address
  tokenOut : Address
  amount : U256
  amountOutMinimum : U256
  calls : List Call
  deriving DecidableEq

/-- The token a leg draws and credits. -/
def DrawLeg.token (leg : DrawLeg) : Address :=
  match leg.kind with
  | .fixed => leg.tokenIn
  | .shortfallToTarget => leg.tokenOut

/-- The committed plan of a pool-funded order. -/
structure Execution where
  legs : List DrawLeg
  calls : List Call
  salt : Bytes32
  deriving DecidableEq

/-- A leg with its authorization and its position in the plan. -/
structure PlannedLeg where
  leg : DrawLeg
  authorization : Bytes
  legIndex : ℕ

/-- Token balances by token and holder, the storage of every funding pool, the
reentrancy guards of the resolver and of the pools, and the state of all other
contracts. -/
structure ResolverWorld (χ : Type) where
  balanceOf : Address → Address → U256
  pools : Address → Pool
  entered : Address → Bool
  rest : χ

/-- What the resolver takes from its surroundings.  `pool` says which addresses are
funding pools, `transferable` which transfers a token accepts, and `solverCall` what a
call of the sandbox does. -/
structure ResolverEnv (χ : Type) where
  executor : ExecutorEnv χ
  self : Address
  sandbox : Address
  pool : Address → Option (PoolEnv χ)
  erc20Views : χ → U256 → Address
  transferable : χ → Address → Address → Address → U256 → Bool
  solverCall : Call → ResolverWorld χ → Except Bytes (ResolverWorld χ)
  executor_ne_self : executor.self ≠ self
  pool_ne_self : ∀ address, (pool address).isSome → address ≠ self
  pool_ne_executor : ∀ address, (pool address).isSome → address ≠ executor.self

namespace Resolver

/-- What an execution of the resolver reverts with. -/
inductive Error where
  | zeroAddress
  | unauthorizedExecutor (caller : Address)
  | payloadCommitmentMismatch (expected actual : Bytes32)
  | tokenBalanceDecreased (token : Address) (before after : U256)
  | insufficientDrawLegOutput (token : Address) (amount minimum : U256)
  | shortfallTokenMismatch (tokenIn tokenOut : Address)
  | missingTokenView (tokenId : U256)
  | misorderedDrawLegs (index : ℕ)
  | authorizationCountMismatch (legs authorizations : ℕ)
  | unauthorizedCaller (caller : Address)
  | callFailed (index : ℕ) (target : Address) (reason : Bytes)
  | malformedData
  | reentrantCall
  | transferFailed (token : Address)
  | notAPool (address : Address)
  | pool (error : Pool.Error)
  deriving DecidableEq

/-! ## Payloads -/

/-- A solver call of the payload. -/
def decodeCall : Abi.Decoder Call := fun data position => do
  let target ← (Abi.Decoder.uint 160).static 0 data position
  let callData ← Abi.Decoder.bytes.dynamic 1 data position
  return ⟨target, callData⟩

/-- A leg kind; a number without a kind reverts. -/
def decodeKind : Abi.Decoder DrawLegKind := fun data position => do
  match ← Abi.Decoder.word data position with
  | 0 => return .fixed
  | 1 => return .shortfallToTarget
  | _ => none

/-- A leg of the payload. -/
def decodeDrawLeg : Abi.Decoder DrawLeg := fun data position => do
  let pool ← (Abi.Decoder.uint 160).static 0 data position
  let account ← (Abi.Decoder.uint 160).static 1 data position
  let kind ← decodeKind.static 2 data position
  let tokenIn ← (Abi.Decoder.uint 160).static 3 data position
  let tokenOut ← (Abi.Decoder.uint 160).static 4 data position
  let amount ← (Abi.Decoder.uint 256).static 5 data position
  let amountOutMinimum ← (Abi.Decoder.uint 256).static 6 data position
  let calls ← decodeCall.array.dynamic 7 data position
  return ⟨pool, account, kind, tokenIn, tokenOut, amount, amountOutMinimum, calls⟩

/-- The struct `Execution`. -/
def decodePlan : Abi.Decoder Execution := fun data position => do
  let legs ← decodeDrawLeg.array.dynamic 0 data position
  let calls ← decodeCall.array.dynamic 1 data position
  let salt ← (Abi.Decoder.uint 256).static 2 data position
  return ⟨legs, calls, salt⟩

/-- `abi.decode(data, (bytes, bytes[]))`. -/
def decodeData (data : Bytes) : Option (Bytes × List Bytes) := do
  let executionData ← Abi.Decoder.bytes.dynamic 0 data 0
  let authorizations ← Abi.Decoder.bytes.array.dynamic 1 data 0
  return (executionData, authorizations)

/-- `abi.decode(executionData, (Execution))`. -/
def decodeExecution (executionData : Bytes) : Option Execution :=
  decodePlan.dynamic 0 executionData 0

variable {χ : Type} (env : ResolverEnv χ)

/-! ## Tokens -/

/-- An ERC-20 transfer. -/
def transfer (token source target : Address) (amount : U256) (world : ResolverWorld χ) :
    Except Error (ResolverWorld χ) := do
  require (env.transferable world.rest token source target amount = true)
    (.transferFailed token)
  require (amount ≤ world.balanceOf token source) (.transferFailed token)
  let debited := set₂ world.balanceOf token source (world.balanceOf token source - amount)
  let received ← checkedAdd (.transferFailed token) (debited token target) amount
  return { world with balanceOf := set₂ debited token target received }

/-- Transfer a whole balance, unless it is empty. -/
def transferAll (token source target : Address) (world : ResolverWorld χ) :
    Except Error (ResolverWorld χ) :=
  let balance := world.balanceOf token source
  if balance ≠ 0 then transfer env token source target balance world else return world

/-- `_sweep`. -/
def sweep (token recipient : Address) : ResolverWorld χ → Except Error (ResolverWorld χ) :=
  transferAll env token env.self recipient

/-- `_fundSandbox`. -/
def fundSandbox (token : Address) : ResolverWorld χ → Except Error (ResolverWorld χ) :=
  transferAll env token env.self env.sandbox

/-- `_requestTokenView`. -/
def requestTokenView (chainId currency : Bytes) (world : ResolverWorld χ) :
    Except Error Address := do
  let tokenId :=
    Utils.generateTokenId env.executor.allocator.hub.keccak256 chainId currency
  let token := env.erc20Views world.rest tokenId
  require (token ≠ 0) (.missingTokenView tokenId)
  return token

/-- `_increase`. -/
def increase (token : Address) (before after : U256) : Except Error U256 := do
  require (before ≤ after) (.tokenBalanceDecreased token before after)
  return after - before

/-! ## The sandbox -/

namespace Sandbox

/-- The calls of `run`. -/
def runCalls : ℕ → List Call → ResolverWorld χ → Except Error (ResolverWorld χ)
  | _, [], world => return world
  | index, call :: calls, world => do
      let world ← bubble (.callFailed index call.target) (env.solverCall call world)
      runCalls (index + 1) calls world

/-- The sweeps of `run`. -/
def returnBalances (recipient : Address) :
    List Address → ResolverWorld χ → Except Error (ResolverWorld χ)
  | [], world => return world
  | token :: tokens, world => do
      let world ← transferAll env token env.sandbox recipient world
      returnBalances recipient tokens world

/-- `run`.  The sandbox belongs to the resolver that deployed it. -/
def run (caller : Address) (calls : List Call) (returnTokens : List Address)
    (recipient : Address) (world : ResolverWorld χ) : Except Error (ResolverWorld χ) := do
  require (caller = env.self) (.unauthorizedCaller caller)
  let world ← runCalls env 0 calls world
  returnBalances env recipient returnTokens world

end Sandbox

/-- `_runInSandbox`. -/
def runInSandbox (calls : List Call) (inToken outToken : Address) :
    ResolverWorld χ → Except Error (ResolverWorld χ) :=
  Sandbox.run env env.self calls
    (if inToken = outToken then [inToken] else [inToken, outToken]) env.self

/-- `_runRequestCalls`. -/
def runRequestCalls (request : ExecuteAndWithdrawRequest) (calls : List Call)
    (world : ResolverWorld χ) : Except Error (ResolverWorld χ) := do
  let inToken ← requestTokenView env request.inChainId request.inCurrency world
  let outToken ← requestTokenView env request.outChainId request.outCurrency world
  let world ← fundSandbox env inToken world
  runInSandbox env calls inToken outToken world

/-- `_sweepRequestTokens`. -/
def sweepRequestTokens (request : ExecuteAndWithdrawRequest) (recipient : Address)
    (world : ResolverWorld χ) : Except Error (ResolverWorld χ) := do
  let tokenIn ← requestTokenView env request.inChainId request.inCurrency world
  let tokenOut ← requestTokenView env request.outChainId request.outCurrency world
  let world ← sweep env tokenIn recipient world
  if tokenOut ≠ tokenIn then sweep env tokenOut recipient world else return world

/-! ## Draw legs -/

/-- The stretch of an execution in which solver calls run. -/
structure Conversion (χ : Type) where
  before : ResolverWorld χ
  after : ResolverWorld χ

/-- What a leg went through, with the amounts its event reports. -/
structure LegSettlement (χ : Type) where
  leg : DrawLeg
  amountDrawn : U256
  amountCredited : U256
  before : ResolverWorld χ
  conversion : Conversion χ
  after : ResolverWorld χ

section Legs

variable (timestamp : U256) (orderAddress : Address) (requestHash : Bytes32)

/-- A call of the resolver on a funding pool; the pool sees its own holdings only. -/
def callPool (address : Address) (call : PoolCall) (moved : ℕ)
    (during : List (PoolEvent χ)) (world : ResolverWorld χ) :
    Except Error (ResolverWorld χ) := do
  let poolEnv ← orRevert (env.pool address) (.notAPool address)
  let after ← bubble .pool
    (PoolEvent.step poolEnv (.call ⟨⟨env.self, timestamp⟩, world.rest⟩ call true moved during)
      ⟨world.pools address, world.entered address, fun token => world.balanceOf token address,
        []⟩)
  return { world with
    pools := set world.pools address after.pool
    entered := set world.entered address after.entered }

/-- `_debitPool`: the pool books the draw and pays it to the resolver. -/
def debitPool (leg : PlannedLeg) (amount : U256) (world : ResolverWorld χ) :
    Except Error (ResolverWorld χ) := do
  let draw : DrawRequest :=
    ⟨leg.leg.account, leg.leg.token, amount, orderAddress, requestHash,
      BitVec.ofNat 256 leg.legIndex, leg.leg.kind⟩
  let world ← callPool env timestamp leg.leg.pool (.debit draw leg.authorization)
    amount.toNat [] world
  transfer env leg.leg.token leg.leg.pool env.self amount world

/-- `_creditPool`: the pool pulls the amount from the resolver and books what arrived. -/
def creditPool (leg : DrawLeg) (amount : U256) (world : ResolverWorld χ) :
    Except Error (ResolverWorld χ) := do
  let world ← callPool env timestamp leg.pool
    (.credit leg.account leg.token amount requestHash leg.kind) 0
    [.deliver leg.token amount.toNat] world
  transfer env leg.token env.self leg.pool amount world

/-- Credit an amount, unless it is zero. -/
def returnToPool (leg : DrawLeg) (amount : U256) (world : ResolverWorld χ) :
    Except Error (ResolverWorld χ) :=
  if amount ≠ 0 then creditPool env timestamp requestHash leg amount world else return world

/-- Hand drawn funds to the sandbox and run conversion calls there. -/
def convert (calls : List Call) (inToken outToken : Address) (amount : U256)
    (world : ResolverWorld χ) : Except Error (ResolverWorld χ) := do
  let world ← transfer env inToken env.self env.sandbox amount world
  runInSandbox env calls inToken outToken world

/-- The conversion of a fixed leg. -/
def convertDrawn (leg : DrawLeg) (amountDrawn : U256) (world : ResolverWorld χ) :
    Except Error (ResolverWorld χ) :=
  if leg.calls.length ≠ 0 then
    convert env leg.calls leg.tokenIn leg.tokenOut amountDrawn world
  else return world

/-- The conversion of a shortfall leg. -/
def convertReceived (leg : DrawLeg) (balance : U256) (world : ResolverWorld χ) :
    Except Error (ResolverWorld χ) :=
  if leg.calls.length ≠ 0 then do
    let received ← increase leg.tokenOut balance (world.balanceOf leg.tokenOut env.self)
    convert env leg.calls leg.tokenOut leg.tokenOut received world
  else return world

/-- What a fixed leg returns: unspent input, when the output is another token. -/
def unspentInput (leg : DrawLeg) (inputBefore : U256) (world : ResolverWorld χ) : U256 :=
  let inputAfterCalls := world.balanceOf leg.tokenIn env.self
  if leg.tokenIn ≠ leg.tokenOut ∧ inputBefore < inputAfterCalls then
    inputAfterCalls - inputBefore
  else 0

/-- `_runFixedLeg`. -/
def runFixedLeg (planned : PlannedLeg) (world : ResolverWorld χ) :
    Except Error (LegSettlement χ) := do
  let leg := planned.leg
  let inputBefore := world.balanceOf leg.tokenIn env.self
  let outputBefore := world.balanceOf leg.tokenOut env.self
  let funded ← debitPool env timestamp orderAddress requestHash planned leg.amount world
  let amountDrawn ← increase leg.tokenIn inputBefore (funded.balanceOf leg.tokenIn env.self)
  let converted ← convertDrawn env leg amountDrawn funded
  let amountProduced ←
    increase leg.tokenOut outputBefore (converted.balanceOf leg.tokenOut env.self)
  require (leg.amountOutMinimum ≤ amountProduced)
    (.insufficientDrawLegOutput leg.tokenOut amountProduced leg.amountOutMinimum)
  let amountCredited := unspentInput env leg inputBefore converted
  let after ← returnToPool env timestamp requestHash leg amountCredited converted
  return ⟨leg, amountDrawn, amountCredited, world, ⟨funded, converted⟩, after⟩

/-- The first half of `_runShortfallLeg`: draw what is missing. -/
def topUp (planned : PlannedLeg) (world : ResolverWorld χ) :
    Except Error (U256 × Conversion χ) :=
  let leg := planned.leg
  let balance := world.balanceOf leg.tokenOut env.self
  if balance < leg.amount then do
    let amountDrawn := leg.amount - balance
    let funded ← debitPool env timestamp orderAddress requestHash planned amountDrawn world
    let converted ← convertReceived env leg balance funded
    let balance := converted.balanceOf leg.tokenOut env.self
    require (leg.amount ≤ balance)
      (.insufficientDrawLegOutput leg.tokenOut balance leg.amount)
    return (amountDrawn, ⟨funded, converted⟩)
  else return (0, ⟨world, world⟩)

/-- `_runShortfallLeg`. -/
def runShortfallLeg (planned : PlannedLeg) (world : ResolverWorld χ) :
    Except Error (LegSettlement χ) := do
  let leg := planned.leg
  require (leg.tokenIn = leg.tokenOut) (.shortfallTokenMismatch leg.tokenIn leg.tokenOut)
  let (amountDrawn, conversion) ←
    topUp env timestamp orderAddress requestHash planned world
  let amountCredited := conversion.after.balanceOf leg.tokenOut env.self - leg.amount
  let after ← returnToPool env timestamp requestHash leg amountCredited conversion.after
  return ⟨leg, amountDrawn, amountCredited, world, conversion, after⟩

/-- `_runDrawLeg`. -/
def runDrawLeg (planned : PlannedLeg) (world : ResolverWorld χ) :
    Except Error (LegSettlement χ) := do
  require (planned.leg.pool ≠ 0) .zeroAddress
  match planned.leg.kind with
  | .fixed => runFixedLeg env timestamp orderAddress requestHash planned world
  | .shortfallToTarget => runShortfallLeg env timestamp orderAddress requestHash planned world

/-- The first loop of `execute`: settle legs up to the first that is not fixed. -/
def runFixedLegs : List PlannedLeg → ResolverWorld χ →
    Except Error (List (LegSettlement χ) × List PlannedLeg × ResolverWorld χ)
  | [], world => return ([], [], world)
  | planned :: legs, world =>
      if planned.leg.kind = .fixed then do
        let settled ← runDrawLeg env timestamp orderAddress requestHash planned world
        let (others, remaining, world) ← runFixedLegs legs settled.after
        return (settled :: others, remaining, world)
      else return ([], planned :: legs, world)

/-- The second loop of `execute`: settle the other legs, none of which may be fixed. -/
def runShortfallLegs : List PlannedLeg → ResolverWorld χ →
    Except Error (List (LegSettlement χ) × ResolverWorld χ)
  | [], world => return ([], world)
  | planned :: legs, world => do
      require (planned.leg.kind ≠ .fixed) (.misorderedDrawLegs planned.legIndex)
      let settled ← runDrawLeg env timestamp orderAddress requestHash planned world
      let (others, world) ← runShortfallLegs legs settled.after
      return (settled :: others, world)

end Legs

/-! ## Execution -/

/-- What an execution went through. -/
structure Resolution (χ : Type) where
  fixedLegs : List (LegSettlement χ)
  requestCalls : Conversion χ
  shortfallLegs : List (LegSettlement χ)
  settled : ResolverWorld χ
  after : ResolverWorld χ

/-- The legs of a plan with their authorizations and positions. -/
def plan (legs : List DrawLeg) (authorizations : List Bytes) : List PlannedLeg :=
  (legs.zip authorizations).zipIdx.map fun ((leg, authorization), legIndex) =>
    ⟨leg, authorization, legIndex⟩

/-- `_requirePayloadCommitment`. -/
def requirePayloadCommitment (request : ExecuteAndWithdrawRequest) (executionData : Bytes) :
    Except Error Unit :=
  let keccak256 := env.executor.allocator.hub.keccak256
  let actual := keccak256
    (Abi.bigEndian 20 env.self.toNat ++ Abi.word (keccak256 executionData))
  require (request.nonce = actual) (.payloadCommitmentMismatch request.nonce actual)

/-- `execute`.  Fixed legs draw whether or not fees were charged. -/
def execute (msg : Msg) (request : ExecuteAndWithdrawRequest) (_feesCharged : Bool)
    (data : Bytes) (world : ResolverWorld χ) : Except Error (Resolution χ) := do
  require (world.entered env.self = false) .reentrantCall
  let world := { world with entered := set world.entered env.self true }
  require (msg.sender = env.executor.self) (.unauthorizedExecutor msg.sender)
  let (executionData, authorizations) ← orRevert (decodeData data) .malformedData
  requirePayloadCommitment env request executionData
  let execution ← orRevert (decodeExecution executionData) .malformedData
  require (authorizations.length = execution.legs.length)
    (.authorizationCountMismatch execution.legs.length authorizations.length)
  let requestHash := Executor.requestDigest env.executor request
  let (fixedLegs, remaining, called) ← runFixedLegs env msg.timestamp request.orderAddress
    requestHash (plan execution.legs authorizations) world
  let converted ← runRequestCalls env request execution.calls called
  let (shortfallLegs, settled) ← runShortfallLegs env msg.timestamp request.orderAddress
    requestHash remaining converted
  let swept ← sweepRequestTokens env request msg.sender settled
  let after := { swept with entered := set swept.entered env.self false }
  return ⟨fixedLegs, ⟨called, converted⟩, shortfallLegs, settled, after⟩

end Resolver

/-- One call of the resolver's `execute`. -/
structure ResolverCall where
  msg : Msg
  request : ExecuteAndWithdrawRequest
  feesCharged : Bool
  data : Bytes

/-- One step of the resolver. -/
def ResolverWorld.step {χ : Type} (env : ResolverEnv χ) (call : ResolverCall)
    (world : ResolverWorld χ) : Except Resolver.Error (ResolverWorld χ) :=
  Resolver.Resolution.after <$>
    Resolver.execute env call.msg call.request call.feesCharged call.data world

end RelaySettlement
