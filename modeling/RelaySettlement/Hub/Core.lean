import RelaySettlement.Evm.Abi

/-!
# RelayHub and ERC20View

The hub is an ERC-6909 ledger: balances, supplies and allowances per token id.
Every id that was ever minted has an `ERC20View`, a stateless ERC-20 facade that
forwards to the hub and that the hub trusts for its own id.  Both contracts are
modelled over the hub's storage, the view functions acting on it with the view
as the hub's caller.

Every hub function that returns a flag returns `true`, so the model keeps only
the state and the revert.  Events are left out; the calls the hub makes to a view
to have it emit one are kept, since they revert when the view does not exist.
-/

open Evm

namespace RelaySettlement

/-- The hub's access-control roles. -/
inductive Hub.Role where
  | operator
  | editor
  | admin
  deriving DecidableEq

/-- What a hub call reverts with. -/
inductive Hub.Error where
  | onlyERC20ViewCanCallApproveFor (caller expectedERC20View : Address)
  | permitDeadlineExpired
  | invalidPermitSignature
  | invalidPermitOwner
  | accessControlUnauthorizedAccount (account : Address) (role : Hub.Role)
  | ecdsaInvalidSignature
  | callToNonContract (target : Address)
  | arithmeticPanic
  deriving DecidableEq

/-- The hub's storage.  `created` counts the contracts the hub has deployed,
which determines the address of the next one. -/
structure Hub where
  hasRole : Hub.Role → Address → Bool
  operatorApproval : Address → Address → Bool
  balanceOf : Address → U256 → U256
  allowance : Address → Address → U256 → U256
  totalSupply : U256 → U256
  nonces : Address → U256
  erc20Views : U256 → Address
  created : ℕ

/-- What the hub takes from its surroundings: the hash function, its EIP-712
domain, signature recovery, and the addresses of the contracts it deploys. -/
structure Hub.Env where
  keccak256 : Bytes → Bytes32
  domainSeparator : Bytes32
  recover : Bytes32 → UInt8 → Bytes32 → Bytes32 → Option Address
  createAddress : ℕ → Address

namespace Hub

/-- The hub right after deployment, with some initial role table. -/
def empty (roles : Role → Address → Bool) : Hub where
  hasRole := roles
  operatorApproval := fun _ _ => false
  balanceOf := fun _ _ => 0
  allowance := fun _ _ _ => 0
  totalSupply := fun _ => 0
  nonces := fun _ => 0
  erc20Views := fun _ => 0
  created := 0

/-! ## Operators and views -/

/-- `isOperator`: a role holder is an operator for every account. -/
def isOperator (hub : Hub) (account operator : Address) : Bool :=
  hub.hasRole .operator operator || hub.operatorApproval account operator

/-- The `onlyRole` modifier. -/
def onlyRole (hub : Hub) (msg : Msg) (role : Role) : Except Error Unit :=
  require (hub.hasRole role msg.sender = true)
    (.accessControlUnauthorizedAccount msg.sender role)

/-- `_setOperatorFor`. -/
def internalSetOperatorFor (account operator : Address) (approved : Bool)
    (hub : Hub) : Hub :=
  { hub with operatorApproval := set₂ hub.operatorApproval account operator approved }

def setOperatorFor (msg : Msg) (account operator : Address) (approved : Bool)
    (hub : Hub) : Except Error Hub := do
  hub.onlyRole msg .operator
  return hub.internalSetOperatorFor account operator approved

def setOperator (msg : Msg) (operator : Address) (approved : Bool) (hub : Hub) :
    Except Error Hub :=
  return hub.internalSetOperatorFor msg.sender operator approved

/-- Ask the view of `id` to emit an event, unless it is the caller.  A deployed
view always returns; the zero address has no code, and calling it reverts. -/
def callView (hub : Hub) (msg : Msg) (id : U256) : Except Error Unit :=
  let view := hub.erc20Views id
  require (msg.sender ≠ view → view ≠ 0) (.callToNonContract view)

/-- `_emitERC20ViewEvent`. -/
def emitERC20ViewEvent (hub : Hub) (msg : Msg) (id : U256) : Except Error Unit :=
  hub.callView msg id

/-- `_emitERC20ViewApprovalEvent`. -/
def emitERC20ViewApprovalEvent (hub : Hub) (msg : Msg) (id : U256) :
    Except Error Unit :=
  hub.callView msg id

/-- `_createERC20View`: at most one view per id. -/
def createERC20View (env : Env) (id : U256) (hub : Hub) : Hub :=
  if hub.erc20Views id ≠ 0 then
    hub
  else
    { hub with
      erc20Views := set hub.erc20Views id (env.createAddress hub.created)
      created := hub.created + 1 }

/-! ## Transfers -/

/-- The two balance writes of `transfer` and `transferFrom`.  The receiver's
entry is read after the sender's was written, so the two may be the same. -/
def moveBalance (sender receiver : Address) (id amount : U256) (hub : Hub) :
    Except Error Hub := do
  let debited ← checkedSub .arithmeticPanic (hub.balanceOf sender id) amount
  let balances := set₂ hub.balanceOf sender id debited
  let credited ← checkedAdd .arithmeticPanic (balances receiver id) amount
  return { hub with balanceOf := set₂ balances receiver id credited }

def transfer (msg : Msg) (receiver : Address) (id amount : U256) (hub : Hub) :
    Except Error Hub := do
  let hub ← hub.moveBalance msg.sender receiver id amount
  hub.emitERC20ViewEvent msg id
  return hub

/-- Whether `transferFrom` draws on the caller's allowance: not for the owner,
not for an operator, and not for the view of the id. -/
def NeedsAllowance (hub : Hub) (msg : Msg) (sender : Address) (id : U256) : Prop :=
  msg.sender ≠ sender ∧ hub.isOperator sender msg.sender = false ∧
    hub.erc20Views id ≠ msg.sender

instance (hub : Hub) (msg : Msg) (sender : Address) (id : U256) :
    Decidable (hub.NeedsAllowance msg sender id) :=
  inferInstanceAs (Decidable (_ ∧ _ ∧ _))

/-- The allowance part of `transferFrom`.  A maximal allowance is not spent. -/
def spendAllowance (msg : Msg) (sender : Address) (id amount : U256) (hub : Hub) :
    Except Error Hub :=
  if hub.NeedsAllowance msg sender id then
    let allowed := hub.allowance sender msg.sender id
    if allowed ≠ U256.max then do
      let remaining ← checkedSub .arithmeticPanic allowed amount
      return { hub with
        allowance := set₃ hub.allowance sender msg.sender id remaining }
    else
      return hub
  else
    return hub

def transferFrom (msg : Msg) (sender receiver : Address) (id amount : U256)
    (hub : Hub) : Except Error Hub := do
  let hub ← hub.spendAllowance msg sender id amount
  let hub ← hub.moveBalance sender receiver id amount
  hub.emitERC20ViewEvent msg id
  return hub

/-! ## Approvals -/

def approve (msg : Msg) (spender : Address) (id amount : U256) (hub : Hub) :
    Except Error Hub := do
  hub.emitERC20ViewApprovalEvent msg id
  return { hub with allowance := set₃ hub.allowance msg.sender spender id amount }

/-- `approveFor`: only the view of the id may set an allowance for its owner. -/
def approveFor (msg : Msg) (owner spender : Address) (id amount : U256)
    (hub : Hub) : Except Error Hub := do
  require (hub.erc20Views id = msg.sender)
    (.onlyERC20ViewCanCallApproveFor msg.sender (hub.erc20Views id))
  return { hub with allowance := set₃ hub.allowance owner spender id amount }

/-- `PERMIT_TYPEHASH`. -/
def permitTypehash (env : Env) : Bytes32 :=
  env.keccak256 (Abi.utf8
    "Permit(address owner,address spender,uint256 tokenId,uint256 value,uint256 nonce,uint256 deadline)")

/-- The digest a permit must be signed over. -/
def permitDigest (env : Env) (owner spender : Address)
    (tokenId value nonce deadline : U256) : Bytes32 :=
  Abi.hashTypedData env.keccak256 env.domainSeparator (env.keccak256 (Abi.encode [
    .word (permitTypehash env), .address owner, .address spender,
    .word tokenId, .word value, .word nonce, .word deadline]))

def permit (env : Env) (msg : Msg) (owner spender : Address)
    (tokenId value deadline : U256) (v : UInt8) (r s : Bytes32) (hub : Hub) :
    Except Error Hub := do
  require (owner ≠ 0) .invalidPermitOwner
  require (msg.timestamp ≤ deadline) .permitDeadlineExpired
  let ownerNonce := hub.nonces owner
  let digest := permitDigest env owner spender tokenId value ownerNonce deadline
  let signer ← orRevert (env.recover digest v r s) .ecdsaInvalidSignature
  require (signer = owner) .invalidPermitSignature
  let nextNonce ← checkedAdd .arithmeticPanic ownerNonce 1
  hub.emitERC20ViewApprovalEvent msg tokenId
  return { hub with
    nonces := set hub.nonces owner nextNonce
    allowance := set₃ hub.allowance owner spender tokenId value }

/-! ## Supply -/

/-- The view creation inside `_mint`, skipped once the id has a supply. -/
def ensureERC20View (env : Env) (id : U256) (hub : Hub) : Hub :=
  if hub.totalSupply id = 0 then hub.createERC20View env id else hub

/-- `_mint`: the balance is written first, then the view is created for an id
without supply, and the supply is written last. -/
def internalMint (env : Env) (msg : Msg) (receiver : Address) (id amount : U256)
    (hub : Hub) : Except Error Hub := do
  let credited ← checkedAdd .arithmeticPanic (hub.balanceOf receiver id) amount
  let hub := { hub with balanceOf := set₂ hub.balanceOf receiver id credited }
  let hub := hub.ensureERC20View env id
  let supply ← checkedAdd .arithmeticPanic (hub.totalSupply id) amount
  let hub := { hub with totalSupply := set hub.totalSupply id supply }
  hub.emitERC20ViewEvent msg id
  return hub

def mint (env : Env) (msg : Msg) (receiver : Address) (id amount : U256)
    (hub : Hub) : Except Error Hub := do
  hub.onlyRole msg .operator
  hub.internalMint env msg receiver id amount

/-- `_burn`. -/
def internalBurn (msg : Msg) (sender : Address) (id amount : U256) (hub : Hub) :
    Except Error Hub := do
  let debited ← checkedSub .arithmeticPanic (hub.balanceOf sender id) amount
  let supply ← checkedSub .arithmeticPanic (hub.totalSupply id) amount
  hub.emitERC20ViewEvent msg id
  return { hub with
    balanceOf := set₂ hub.balanceOf sender id debited
    totalSupply := set hub.totalSupply id supply }

def burn (msg : Msg) (sender : Address) (id amount : U256) (hub : Hub) :
    Except Error Hub := do
  hub.onlyRole msg .operator
  hub.internalBurn msg sender id amount

end Hub

/-! ## ERC20View -/

/-- What a call to a view reverts with.  `noView` is a call to an id that has no
view, which no contract answers. -/
inductive ERC20View.Error where
  | insufficientAllowance (spender : Address) (allowance needed : U256)
  | hub (error : Hub.Error)
  | noView (id : U256)
  deriving DecidableEq

namespace ERC20View

/-- The message the hub receives when the view of `tokenId` calls it. -/
def forward (hub : Hub) (tokenId : U256) (msg : Msg) : Msg :=
  { msg with sender := hub.erc20Views tokenId }

def approve (tokenId : U256) (msg : Msg) (spender : Address) (value : U256)
    (hub : Hub) : Except Error Hub :=
  bubble .hub
    (hub.approveFor (forward hub tokenId msg) msg.sender spender tokenId value)

def transfer (tokenId : U256) (msg : Msg) (receiver : Address) (value : U256)
    (hub : Hub) : Except Error Hub :=
  bubble .hub (hub.transferFrom (forward hub tokenId msg) msg.sender receiver tokenId value)

/-- The allowance check of the view's `transferFrom`, which writes the reduced
allowance back through `approveFor`. -/
def spendAllowance (tokenId : U256) (msg : Msg) (owner : Address) (value : U256)
    (hub : Hub) : Except Error Hub :=
  if msg.sender ≠ owner then
    let currentAllowance := hub.allowance owner msg.sender tokenId
    if currentAllowance < U256.max then do
      require (value ≤ currentAllowance)
        (.insufficientAllowance msg.sender currentAllowance value)
      bubble .hub (hub.approveFor (forward hub tokenId msg) owner msg.sender tokenId
        (currentAllowance - value))
    else
      return hub
  else
    return hub

def transferFrom (tokenId : U256) (msg : Msg) (owner receiver : Address) (value : U256)
    (hub : Hub) : Except Error Hub := do
  let hub ← spendAllowance tokenId msg owner value hub
  bubble .hub (hub.transferFrom (forward hub tokenId msg) owner receiver tokenId value)

end ERC20View

/-! ## The ledger system -/

/-- The hub's state-changing functions with their arguments.  `setRole` stands
for any grant, revocation or renunciation of a role. -/
inductive HubCall where
  | setRole (role : Hub.Role) (account : Address) (granted : Bool)
  | setOperatorFor (account operator : Address) (approved : Bool)
  | setOperator (operator : Address) (approved : Bool)
  | transfer (receiver : Address) (id amount : U256)
  | transferFrom (sender receiver : Address) (id amount : U256)
  | approve (spender : Address) (id amount : U256)
  | approveFor (owner spender : Address) (id amount : U256)
  | permit (owner spender : Address) (tokenId value deadline : U256)
      (v : UInt8) (r s : Bytes32)
  | mint (receiver : Address) (id amount : U256)
  | burn (sender : Address) (id amount : U256)

/-- The view's state-changing functions with their arguments. -/
inductive ViewCall where
  | approve (spender : Address) (value : U256)
  | transfer (receiver : Address) (value : U256)
  | transferFrom (owner receiver : Address) (value : U256)

/-- A call to the hub, or to the view of some id. -/
inductive LedgerCall where
  | hub (msg : Msg) (call : HubCall)
  | view (msg : Msg) (tokenId : U256) (call : ViewCall)

/-- The account that makes the call. -/
def LedgerCall.sender : LedgerCall → Address
  | .hub msg _ => msg.sender
  | .view msg _ _ => msg.sender

namespace Hub

/-- Execute one hub function. -/
def execHub (env : Env) (msg : Msg) (call : HubCall) (hub : Hub) :
    Except Error Hub :=
  match call with
  | .setRole role account granted =>
      return { hub with hasRole := set₂ hub.hasRole role account granted }
  | .setOperatorFor account operator approved =>
      hub.setOperatorFor msg account operator approved
  | .setOperator operator approved => hub.setOperator msg operator approved
  | .transfer receiver id amount => hub.transfer msg receiver id amount
  | .transferFrom sender receiver id amount =>
      hub.transferFrom msg sender receiver id amount
  | .approve spender id amount => hub.approve msg spender id amount
  | .approveFor owner spender id amount => hub.approveFor msg owner spender id amount
  | .permit owner spender tokenId value deadline v r s =>
      hub.permit env msg owner spender tokenId value deadline v r s
  | .mint receiver id amount => hub.mint env msg receiver id amount
  | .burn sender id amount => hub.burn msg sender id amount

/-- Execute one view function on the view's hub. -/
def execView (msg : Msg) (tokenId : U256) (call : ViewCall) (hub : Hub) :
    Except ERC20View.Error Hub := do
  require (hub.erc20Views tokenId ≠ 0) (.noView tokenId)
  match call with
  | .approve spender value => ERC20View.approve tokenId msg spender value hub
  | .transfer receiver value => ERC20View.transfer tokenId msg receiver value hub
  | .transferFrom owner receiver value =>
      ERC20View.transferFrom tokenId msg owner receiver value hub

/-- One step of the ledger system. -/
def step (env : Env) (call : LedgerCall) (hub : Hub) : Except ERC20View.Error Hub :=
  match call with
  | .hub msg call => bubble .hub (hub.execHub env msg call)
  | .view msg tokenId call => hub.execView msg tokenId call

end Hub

end RelaySettlement
