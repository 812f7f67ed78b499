import RelaySettlement.Evm.Abi
import RelaySettlement.Evm.Run

/-!
# RelayFundingPool

The pool holds ERC-20 tokens for accounts.  An account sets a config per token that
bounds what resolvers may draw, and an authoriser that signs off each order.

The model has two levels.  `Pool.write` is the pool as a machine of storage writes:
for each function, the checks and writes between its external calls.  `PoolWorld` is
the contract itself, with the reentrancy guard, the pool's token balances and the
calls into token code.  A token is arbitrary code: while it runs, anybody may call
the pool again and tokens may arrive.  Every write the contract makes is appended to
`writes`, at the moment it is made.
-/

open Evm

namespace RelaySettlement

inductive DrawLegKind where
  | fixed
  | shortfallToTarget
  deriving DecidableEq

structure SponsorshipConfig where
  perOrderCap : U256
  budget : U256
  authorizer : Address
  expiry : BitVec 64

structure DrawRequest where
  account : Address
  token : Address
  amount : U256
  orderAddress : Address
  requestHash : Bytes32
  legIndex : U256
  kind : DrawLegKind

structure PoolWithdrawal where
  account : Address
  token : Address
  amount : U256
  recipient : Address
  nonce : U256
  deadline : U256

structure SponsorshipConfigUpdate where
  account : Address
  token : Address
  authorizer : Address
  perOrderCap : U256
  budget : U256
  expiry : BitVec 64
  nonce : U256
  deadline : U256

structure SponsorshipResolverUpdate where
  account : Address
  resolver : Address
  allowed : Bool
  nonce : U256
  deadline : U256

namespace Pool

/-- The pool's access-control roles. -/
inductive Role where
  | admin
  | withdrawer
  | resolver
  deriving DecidableEq

/-- What a pool call reverts with. -/
inductive Error where
  | zeroAddress
  | zeroAmount
  | insufficientBalance (account token : Address) (amount balance : U256)
  | withdrawalExpired (deadline : U256)
  | withdrawalNonceUsed (account : Address) (nonce : U256)
  | invalidWithdrawal (account : Address)
  | sponsorshipUpdateExpired (deadline : U256)
  | sponsorshipNonceUsed (account : Address) (nonce : U256)
  | invalidSponsorshipUpdate (account : Address)
  | resolverNotAllowed (account resolver : Address)
  | alreadyDrawn (orderAddress account : Address) (legIndex : U256)
  | sponsorshipConfigExpired (account token : Address) (expiry : BitVec 64)
  | noAuthorizer (account token : Address)
  | invalidDrawAuthorization (account authorizer orderAddress : Address)
  | perOrderCapExceeded (account token : Address) (orderTotal cap : U256)
  | budgetExceeded (account token : Address) (amount budget : U256)
  | accessControlUnauthorizedAccount (account : Address) (role : Role)
  | enforcedPause
  | expectedPause
  | reentrantCall
  | transferFailed (token : Address)
  | arithmeticPanic
  deriving DecidableEq

end Pool

/-- The pool's storage. -/
structure Pool where
  hasRole : Pool.Role → Address → Bool
  paused : Bool
  balances : Address → Address → U256
  usedWithdrawalNonces : Address → U256 → Bool
  usedSponsorshipNonces : Address → U256 → Bool
  sponsorshipConfig : Address → Address → SponsorshipConfig
  sponsorshipResolvers : Address → Address → Bool
  drawRecords : Address → Address → U256 → Bool
  orderDraws : Address → Address → Address → U256

/-- What the pool takes from its surroundings. -/
structure PoolEnv (χ : Type) where
  keccak256 : Bytes → Bytes32
  domainSeparator : Bytes32
  isValidSignatureNow : χ → Pool → Address → Bytes32 → Bytes → Bool

namespace Pool

/-- The pool right after deployment, with some role table. -/
def empty (roles : Role → Address → Bool) : Pool where
  hasRole := roles
  paused := false
  balances := fun _ _ => 0
  usedWithdrawalNonces := fun _ _ => false
  usedSponsorshipNonces := fun _ _ => false
  sponsorshipConfig := fun _ _ => ⟨0, 0, 0, 0⟩
  sponsorshipResolvers := fun _ _ => false
  drawRecords := fun _ _ _ => false
  orderDraws := fun _ _ _ => 0

variable {χ : Type} (env : PoolEnv χ) (ctx : Ctx χ)

/-! ## Modifiers and digests -/

/-- The `onlyRole` modifier. -/
def onlyRole (role : Role) (pool : Pool) : Except Error Unit :=
  require (pool.hasRole role ctx.sender = true)
    (.accessControlUnauthorizedAccount ctx.sender role)

/-- The `whenNotPaused` modifier. -/
def whenNotPaused (pool : Pool) : Except Error Unit :=
  require (pool.paused = false) .enforcedPause

/-- `_requireAddress`. -/
def requireAddress (value : Address) : Except Error Unit := require (value ≠ 0) .zeroAddress

/-- `_requireAmount`. -/
def requireAmount (amount : U256) : Except Error Unit := require (amount ≠ 0) .zeroAmount

/-- The digest of a typed message with the given type and members. -/
def typedDigest (type : String) (members : List Abi.Value) : Bytes32 :=
  Abi.hashTypedData env.keccak256 env.domainSeparator
    (env.keccak256 (Abi.encode (.word (env.keccak256 (Abi.utf8 type)) :: members)))

/-- `_hashWithdrawal`. -/
def hashWithdrawal (withdrawal : PoolWithdrawal) : Bytes32 :=
  typedDigest env
    "PoolWithdrawal(address account,address token,uint256 amount,address recipient,uint256 nonce,uint256 deadline)"
    [.address withdrawal.account, .address withdrawal.token, .word withdrawal.amount,
      .address withdrawal.recipient, .word withdrawal.nonce, .word withdrawal.deadline]

/-- `_hashSponsorshipConfigUpdate`. -/
def hashSponsorshipConfigUpdate (update : SponsorshipConfigUpdate) : Bytes32 :=
  typedDigest env
    "SponsorshipConfigUpdate(address account,address token,address authorizer,uint256 perOrderCap,uint256 budget,uint64 expiry,uint256 nonce,uint256 deadline)"
    [.address update.account, .address update.token, .address update.authorizer,
      .word update.perOrderCap, .word update.budget, .word (update.expiry.setWidth 256),
      .word update.nonce, .word update.deadline]

/-- `_hashDrawAuthorization`. -/
def hashDrawAuthorization (account orderAddress : Address) : Bytes32 :=
  typedDigest env "DrawAuthorization(address account,address orderAddress)"
    [.address account, .address orderAddress]

/-- `_hashSponsorshipResolverUpdate`. -/
def hashSponsorshipResolverUpdate (update : SponsorshipResolverUpdate) : Bytes32 :=
  typedDigest env
    "SponsorshipResolverUpdate(address account,address resolver,bool allowed,uint256 nonce,uint256 deadline)"
    [.address update.account, .address update.resolver,
      .word (if update.allowed then 1 else 0), .word update.nonce, .word update.deadline]

/-! ## Storage writes -/

/-- `balances[account][token] += received`. -/
def deposit (account token : Address) (received : U256) (pool : Pool) : Except Error Pool := do
  let credited ← checkedAdd .arithmeticPanic (pool.balances account token) received
  return { pool with balances := set₂ pool.balances account token credited }

/-- The deduction of `_payOut` and of `debit`. -/
def deduct (account token : Address) (amount : U256) (pool : Pool) : Except Error Pool := do
  let balance := pool.balances account token
  require (amount ≤ balance) (.insufficientBalance account token amount balance)
  return { pool with balances := set₂ pool.balances account token (balance - amount) }

/-- `_setSponsorshipConfig`. -/
def internalSetSponsorshipConfig (account token : Address) (config : SponsorshipConfig)
    (pool : Pool) : Except Error Pool := do
  requireAddress token
  return { pool with
    sponsorshipConfig := set₂ pool.sponsorshipConfig account token config }

/-- `_setSponsorshipResolver`. -/
def internalSetSponsorshipResolver (account resolver : Address) (allowed : Bool)
    (pool : Pool) : Except Error Pool := do
  requireAddress resolver
  return { pool with
    sponsorshipResolvers := set₂ pool.sponsorshipResolvers account resolver allowed }

/-- `_useSponsorshipNonce`. -/
def useSponsorshipNonce (account : Address) (nonce deadline : U256) (pool : Pool) :
    Except Error Pool := do
  require (ctx.timestamp ≤ deadline) (.sponsorshipUpdateExpired deadline)
  require (pool.usedSponsorshipNonces account nonce = false)
    (.sponsorshipNonceUsed account nonce)
  return { pool with
    usedSponsorshipNonces := set₂ pool.usedSponsorshipNonces account nonce true }

/-- `setSponsorshipConfig` with a signed update. -/
def setSponsorshipConfigSigned (update : SponsorshipConfigUpdate) (signature : Bytes)
    (pool : Pool) : Except Error Pool := do
  requireAddress update.account
  let pool ← pool.useSponsorshipNonce ctx update.account update.nonce update.deadline
  require (env.isValidSignatureNow ctx.rest pool update.account
    (hashSponsorshipConfigUpdate env update) signature = true)
    (.invalidSponsorshipUpdate update.account)
  pool.internalSetSponsorshipConfig update.account update.token
    ⟨update.perOrderCap, update.budget, update.authorizer, update.expiry⟩

/-- `setSponsorshipResolver` with a signed update. -/
def setSponsorshipResolverSigned (update : SponsorshipResolverUpdate) (signature : Bytes)
    (pool : Pool) : Except Error Pool := do
  requireAddress update.account
  let pool ← pool.useSponsorshipNonce ctx update.account update.nonce update.deadline
  require (env.isValidSignatureNow ctx.rest pool update.account
    (hashSponsorshipResolverUpdate env update) signature = true)
    (.invalidSponsorshipUpdate update.account)
  pool.internalSetSponsorshipResolver update.account update.resolver update.allowed

/-- `_requireDrawAuthorization`. -/
def requireDrawAuthorization (authorizer account token orderAddress : Address)
    (authorization : Bytes) (pool : Pool) : Except Error Unit := do
  require (authorizer ≠ 0) (.noAuthorizer account token)
  require (env.isValidSignatureNow ctx.rest pool authorizer
    (hashDrawAuthorization env account orderAddress) authorization = true)
    (.invalidDrawAuthorization account authorizer orderAddress)

/-- The budget part of `debit`; an unlimited budget is not lowered. -/
def spendBudget (account token : Address) (amount : U256) (pool : Pool) :
    Except Error Pool :=
  let config := pool.sponsorshipConfig account token
  if config.budget = U256.max then
    return pool
  else do
    require (amount ≤ config.budget) (.budgetExceeded account token amount config.budget)
    return { pool with
      sponsorshipConfig := set₂ pool.sponsorshipConfig account token
        { config with budget := config.budget - amount } }

/-- The body of `debit` up to the transfer. -/
def bookDebit (draw : DrawRequest) (authorization : Bytes) (pool : Pool) :
    Except Error Pool := do
  requireAddress draw.account
  requireAddress draw.token
  requireAddress draw.orderAddress
  requireAmount draw.amount
  require (pool.sponsorshipResolvers draw.account ctx.sender = true)
    (.resolverNotAllowed draw.account ctx.sender)
  require (pool.drawRecords draw.orderAddress draw.account draw.legIndex = false)
    (.alreadyDrawn draw.orderAddress draw.account draw.legIndex)
  let config := pool.sponsorshipConfig draw.account draw.token
  require (config.expiry ≠ 0 → ctx.timestamp ≤ config.expiry.setWidth 256)
    (.sponsorshipConfigExpired draw.account draw.token config.expiry)
  pool.requireDrawAuthorization env ctx config.authorizer draw.account draw.token
    draw.orderAddress authorization
  let orderTotal ← checkedAdd .arithmeticPanic
    (pool.orderDraws draw.orderAddress draw.account draw.token) draw.amount
  require (orderTotal ≤ config.perOrderCap)
    (.perOrderCapExceeded draw.account draw.token orderTotal config.perOrderCap)
  let pool ← pool.spendBudget draw.account draw.token draw.amount
  let pool ← pool.deduct draw.account draw.token draw.amount
  return { pool with
    drawRecords := set₃ pool.drawRecords draw.orderAddress draw.account draw.legIndex true
    orderDraws := set₃ pool.orderDraws draw.orderAddress draw.account draw.token orderTotal }

/-- The body of `withdraw` up to the transfer. -/
def bookWithdraw (token : Address) (amount : U256) (recipient : Address) (pool : Pool) :
    Except Error Pool := do
  requireAddress recipient
  requireAddress token
  requireAmount amount
  pool.deduct ctx.sender token amount

/-- The body of `withdraw` with a signed withdrawal up to the transfer. -/
def bookWithdrawSigned (withdrawal : PoolWithdrawal) (signature : Bytes) (pool : Pool) :
    Except Error Pool := do
  requireAddress withdrawal.account
  requireAddress withdrawal.recipient
  require (ctx.timestamp ≤ withdrawal.deadline) (.withdrawalExpired withdrawal.deadline)
  require (pool.usedWithdrawalNonces withdrawal.account withdrawal.nonce = false)
    (.withdrawalNonceUsed withdrawal.account withdrawal.nonce)
  require (env.isValidSignatureNow ctx.rest pool withdrawal.account
    (hashWithdrawal env withdrawal) signature = true)
    (.invalidWithdrawal withdrawal.account)
  let pool := { pool with
    usedWithdrawalNonces :=
      set₂ pool.usedWithdrawalNonces withdrawal.account withdrawal.nonce true }
  requireAddress withdrawal.token
  requireAmount withdrawal.amount
  pool.deduct withdrawal.account withdrawal.token withdrawal.amount

/-- `_pause` and `_unpause`. -/
def setPaused (paused : Bool) (pool : Pool) : Except Error Pool := do
  require (pool.paused ≠ paused) (if paused then .enforcedPause else .expectedPause)
  return { pool with paused := paused }

end Pool

/-- The writes of the pool.  `setRole` stands for any grant, revocation or renunciation
of a role. -/
inductive PoolWrite (χ : Type) where
  | deposit (account token : Address) (received : U256)
  | debit (ctx : Ctx χ) (draw : DrawRequest) (authorization : Bytes)
  | withdraw (ctx : Ctx χ) (token : Address) (amount : U256) (recipient : Address)
  | withdrawSigned (ctx : Ctx χ) (withdrawal : PoolWithdrawal) (signature : Bytes)
  | setConfig (ctx : Ctx χ) (token : Address) (config : SponsorshipConfig)
  | setConfigSigned (ctx : Ctx χ) (update : SponsorshipConfigUpdate) (signature : Bytes)
  | setResolver (ctx : Ctx χ) (resolver : Address) (allowed : Bool)
  | setResolverSigned (ctx : Ctx χ) (update : SponsorshipResolverUpdate)
      (signature : Bytes)
  | setPaused (paused : Bool)
  | setRole (role : Pool.Role) (account : Address) (granted : Bool)

/-- One write of the pool. -/
def Pool.write {χ : Type} (env : PoolEnv χ) (write : PoolWrite χ) (pool : Pool) :
    Except Pool.Error Pool :=
  match write with
  | .deposit account token received => pool.deposit account token received
  | .debit ctx draw authorization => pool.bookDebit env ctx draw authorization
  | .withdraw ctx token amount recipient => pool.bookWithdraw ctx token amount recipient
  | .withdrawSigned ctx withdrawal signature =>
      pool.bookWithdrawSigned env ctx withdrawal signature
  | .setConfig ctx token config => pool.internalSetSponsorshipConfig ctx.sender token config
  | .setConfigSigned ctx update signature =>
      pool.setSponsorshipConfigSigned env ctx update signature
  | .setResolver ctx resolver allowed =>
      pool.internalSetSponsorshipResolver ctx.sender resolver allowed
  | .setResolverSigned ctx update signature =>
      pool.setSponsorshipResolverSigned env ctx update signature
  | .setPaused paused => pool.setPaused paused
  | .setRole role account granted =>
      return { pool with hasRole := set₂ pool.hasRole role account granted }

/-! ## The contract -/

/-- The pool's storage and guard, its balance of every token, and the writes made so
far. -/
structure PoolWorld (χ : Type) where
  pool : Pool
  entered : Bool
  held : Address → U256
  writes : List (PoolWrite χ)

/-- A freshly deployed pool.  Tokens may have been sent to its address before. -/
def PoolWorld.deployed (χ : Type) (roles : Pool.Role → Address → Bool)
    (held : Address → U256) : PoolWorld χ where
  pool := Pool.empty roles
  entered := false
  held := held
  writes := []

/-- What token code does when the pool calls it: whether the call succeeds, how much an
outgoing transfer takes from the pool at most, and what happens while it runs. -/
structure TokenCall (χ : Type) where
  succeeds : Bool
  moved : ℕ
  during : PoolWorld χ → PoolWorld χ

/-- The pool's functions with their arguments. -/
inductive PoolCall where
  | depositFor (account token : Address) (amount : U256)
  | credit (account token : Address) (amount : U256) (requestHash : Bytes32)
      (kind : DrawLegKind)
  | debit (draw : DrawRequest) (authorization : Bytes)
  | withdraw (token : Address) (amount : U256) (recipient : Address)
  | withdrawSigned (withdrawal : PoolWithdrawal) (signature : Bytes)
  | setSponsorshipConfig (token : Address) (config : SponsorshipConfig)
  | setSponsorshipConfigSigned (update : SponsorshipConfigUpdate) (signature : Bytes)
  | setSponsorshipResolver (resolver : Address) (allowed : Bool)
  | setSponsorshipResolverSigned (update : SponsorshipResolverUpdate) (signature : Bytes)
  | pause
  | unpause
  | setRole (role : Pool.Role) (account : Address) (granted : Bool)

namespace PoolWorld

variable {χ : Type} (env : PoolEnv χ) (ctx : Ctx χ) (tokenCall : TokenCall χ)

/-- Make a write and remember it. -/
def record (write : PoolWrite χ) (world : PoolWorld χ) : Except Pool.Error (PoolWorld χ) := do
  let pool ← world.pool.write env write
  return { world with pool := pool, writes := world.writes ++ [write] }

/-- The `nonReentrant` modifier around a function body. -/
def nonReentrant (body : PoolWorld χ → Except Pool.Error (PoolWorld χ))
    (world : PoolWorld χ) : Except Pool.Error (PoolWorld χ) := do
  require (world.entered = false) .reentrantCall
  let world ← body { world with entered := true }
  return { world with entered := false }

/-- Tokens arrive at the pool. -/
def deliver (token : Address) (amount : ℕ) (world : PoolWorld χ) :
    Except Pool.Error (PoolWorld χ) := do
  let balance := (world.held token).toNat + amount
  require (balance < 2 ^ 256) (.transferFailed token)
  return { world with held := set world.held token (BitVec.ofNat 256 balance) }

/-- `safeTransfer` out of the pool: the token lowers the pool's balance by at most the
amount. -/
def safeTransfer (token : Address) (amount : U256) (world : PoolWorld χ) :
    Except Pool.Error (PoolWorld χ) := do
  let balance := (world.held token).toNat - min tokenCall.moved amount.toNat
  -- only guarded functions read the pool's balance, so nobody sees in which order the
  -- token moves funds and calls others
  let world := tokenCall.during
    { world with held := set world.held token (BitVec.ofNat 256 balance) }
  require (tokenCall.succeeds = true) (.transferFailed token)
  return world

/-- `_receive`: the increase of the pool's balance over `safeTransferFrom`, which may
deliver any amount. -/
def receive (token : Address) (amount : U256) (world : PoolWorld χ) :
    Except Pool.Error (U256 × PoolWorld χ) := do
  Pool.requireAddress token
  Pool.requireAmount amount
  let before := world.held token
  let world := tokenCall.during world
  require (tokenCall.succeeds = true) (.transferFailed token)
  let received ← checkedSub .arithmeticPanic (world.held token) before
  Pool.requireAmount received
  return (received, world)

/-- The common body of `depositFor` and `credit`. -/
def depositReceived (account token : Address) (amount : U256) :
    PoolWorld χ → Except Pool.Error (PoolWorld χ) :=
  nonReentrant fun world => do
    Pool.requireAddress account
    let (received, world) ← receive tokenCall token amount world
    record env (.deposit account token received) world

def depositFor (account token : Address) (amount : U256) (world : PoolWorld χ) :
    Except Pool.Error (PoolWorld χ) := do
  world.pool.whenNotPaused
  depositReceived env tokenCall account token amount world

def credit (account token : Address) (amount : U256) (world : PoolWorld χ) :
    Except Pool.Error (PoolWorld χ) := do
  world.pool.onlyRole ctx .resolver
  world.pool.whenNotPaused
  depositReceived env tokenCall account token amount world

/-- Make a write and then pay tokens out. -/
def recordAndPay (write : PoolWrite χ) (token : Address) (amount : U256) :
    PoolWorld χ → Except Pool.Error (PoolWorld χ) :=
  nonReentrant fun world => do
    let world ← record env write world
    safeTransfer tokenCall token amount world

def debit (draw : DrawRequest) (authorization : Bytes) (world : PoolWorld χ) :
    Except Pool.Error (PoolWorld χ) := do
  world.pool.onlyRole ctx .resolver
  world.pool.whenNotPaused
  recordAndPay env tokenCall (.debit ctx draw authorization) draw.token draw.amount world

def withdraw (token : Address) (amount : U256) (recipient : Address) (world : PoolWorld χ) :
    Except Pool.Error (PoolWorld χ) := do
  world.pool.onlyRole ctx .withdrawer
  recordAndPay env tokenCall (.withdraw ctx token amount recipient) token amount world

def withdrawSigned (withdrawal : PoolWithdrawal) (signature : Bytes) :
    PoolWorld χ → Except Pool.Error (PoolWorld χ) :=
  recordAndPay env tokenCall (.withdrawSigned ctx withdrawal signature) withdrawal.token
    withdrawal.amount

/-- `pause` and `unpause`. -/
def setPaused (paused : Bool) (world : PoolWorld χ) : Except Pool.Error (PoolWorld χ) := do
  world.pool.onlyRole ctx .admin
  record env (.setPaused paused) world

/-- Execute one pool function. -/
def exec (call : PoolCall) : PoolWorld χ → Except Pool.Error (PoolWorld χ) :=
  match call with
  | .depositFor account token amount => depositFor env tokenCall account token amount
  | .credit account token amount _ _ => credit env ctx tokenCall account token amount
  | .debit draw authorization => debit env ctx tokenCall draw authorization
  | .withdraw token amount recipient => withdraw env ctx tokenCall token amount recipient
  | .withdrawSigned withdrawal signature =>
      withdrawSigned env ctx tokenCall withdrawal signature
  | .setSponsorshipConfig token config => record env (.setConfig ctx token config)
  | .setSponsorshipConfigSigned update signature =>
      record env (.setConfigSigned ctx update signature)
  | .setSponsorshipResolver resolver allowed => record env (.setResolver ctx resolver allowed)
  | .setSponsorshipResolverSigned update signature =>
      record env (.setResolverSigned ctx update signature)
  | .pause => setPaused env ctx true
  | .unpause => setPaused env ctx false
  | .setRole role account granted => record env (.setRole role account granted)

end PoolWorld

/-- What may happen to the pool: tokens arrive, or somebody calls it.  A call comes with
the behaviour of the token it transfers, which includes the events that happen while the
token's code runs. -/
inductive PoolEvent (χ : Type) where
  | deliver (token : Address) (amount : ℕ)
  | call (ctx : Ctx χ) (call : PoolCall) (succeeds : Bool) (moved : ℕ)
      (during : List (PoolEvent χ))

mutual
/-- One event. -/
def PoolEvent.step {χ : Type} (env : PoolEnv χ) :
    PoolEvent χ → PoolWorld χ → Except Pool.Error (PoolWorld χ)
  | .deliver token amount, world => world.deliver token amount
  | .call ctx request succeeds moved during, world =>
      PoolWorld.exec env ctx ⟨succeeds, moved, PoolEvent.runAll env during⟩ request world

/-- A list of events, each of which may revert. -/
def PoolEvent.runAll {χ : Type} (env : PoolEnv χ) :
    List (PoolEvent χ) → PoolWorld χ → PoolWorld χ
  | [], world => world
  | event :: events, world =>
      match PoolEvent.step env event world with
      | .ok next => PoolEvent.runAll env events next
      | .error _ => PoolEvent.runAll env events world
end

theorem PoolEvent.runAll_eq_run {χ : Type} (env : PoolEnv χ) (events : List (PoolEvent χ))
    (world : PoolWorld χ) :
    PoolEvent.runAll env events world = run (PoolEvent.step env) events world := by
  induction events generalizing world with
  | nil => rw [PoolEvent.runAll, run_nil]
  | cons event events ih =>
      rw [run_cons]
      cases outcome : PoolEvent.step env event world with
      | error error => simp only [PoolEvent.runAll, outcome, attempt_error outcome, ih]
      | ok next => simp only [PoolEvent.runAll, outcome, attempt_ok outcome, ih]

end RelaySettlement
