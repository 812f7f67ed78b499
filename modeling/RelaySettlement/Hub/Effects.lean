import RelaySettlement.Hub.Core
import RelaySettlement.Evm.Book

/-!
# What a ledger call changes

Every successful call of the ledger system does one of four things to the
balances and supplies, and one of three things to the allowances.  The
theorem `step_effects` says which; the results about whole runs rest on it and
never look into a hub function again.
-/

open Evm

namespace RelaySettlement

/-- The balances of one token id as a book of account. -/
def Hub.book (hub : Hub) (id : U256) : Address → ℕ :=
  fun account => (hub.balanceOf account id).toNat

@[simp] theorem Hub.book_apply (hub : Hub) (id : U256) (account : Address) :
    hub.book id account = (hub.balanceOf account id).toNat := rfl

/-- The balances after an amount of one token went from one account to another, which
may be the same. -/
def Hub.Moved (source target : Address) (id amount : U256) (before after : Hub) : Prop :=
  ∀ account other,
    (after.balanceOf account other).toNat +
        (if source = account ∧ id = other then amount.toNat else 0) =
      (before.balanceOf account other).toNat +
        (if target = account ∧ id = other then amount.toNat else 0)

/-- The effect of a call on balances and supplies. -/
inductive BookEffect where
  | none
  | move (source target : Address) (id amount : U256)
  | mint (receiver : Address) (id amount : U256)
  | burn (sender : Address) (id amount : U256)

namespace BookEffect

/-- The token id an effect is about. -/
def tokenId : BookEffect → Option U256
  | .none => Option.none
  | .move _ _ id _ => some id
  | .mint _ id _ => some id
  | .burn _ id _ => some id

/-- The amount an effect adds to the supply of an id. -/
def minted (id : U256) : BookEffect → ℕ
  | .mint _ other amount => if other = id then amount.toNat else 0
  | _ => 0

/-- The amount an effect removes from the supply of an id. -/
def burned (id : U256) : BookEffect → ℕ
  | .burn _ other amount => if other = id then amount.toNat else 0
  | _ => 0

/-- What the effect does at its own id. -/
def AppliesAt : BookEffect → Hub → Hub → Prop
  | .none, _, _ => True
  | .move source target id amount, before, after =>
      amount.toNat ≤ before.book id source ∧
        after.book id = Book.move (before.book id) source target amount.toNat ∧
        after.totalSupply id = before.totalSupply id
  | .mint receiver id amount, before, after =>
      after.book id = Book.post (before.book id) receiver amount.toNat ∧
        (after.totalSupply id).toNat = (before.totalSupply id).toNat + amount.toNat
  | .burn sender id amount, before, after =>
      amount.toNat ≤ before.book id sender ∧
        after.book id = Book.take (before.book id) sender amount.toNat ∧
        (after.totalSupply id).toNat + amount.toNat = (before.totalSupply id).toNat

/-- The effect happened between two hub states, and no other id was touched. -/
structure Applies (effect : BookEffect) (before after : Hub) : Prop where
  here : effect.AppliesAt before after
  elsewhere : ∀ other, effect.tokenId ≠ some other →
    after.book other = before.book other ∧
      after.totalSupply other = before.totalSupply other

/-- A state with the same balances and supplies. -/
theorem applies_none {before after : Hub} (balances : after.balanceOf = before.balanceOf)
    (supplies : after.totalSupply = before.totalSupply) :
    BookEffect.none.Applies before after where
  here := trivial
  elsewhere := fun other _ => by
    refine ⟨?_, by rw [supplies]⟩
    funext holder
    simp [balances]

/-- An effect only looks at balances and supplies. -/
theorem Applies.congr {effect : BookEffect} {before before' after after' : Hub}
    (applies : effect.Applies before after)
    (balances : before'.balanceOf = before.balanceOf)
    (supplies : before'.totalSupply = before.totalSupply)
    (balances' : after'.balanceOf = after.balanceOf)
    (supplies' : after'.totalSupply = after.totalSupply) :
    effect.Applies before' after' := by
  have bookBefore : before'.book = before.book := by
    funext id account
    simp [balances]
  have bookAfter : after'.book = after.book := by
    funext id account
    simp [balances']
  obtain ⟨here, elsewhere⟩ := applies
  constructor
  · cases effect with
    | none => trivial
    | _ => simpa only [AppliesAt, bookBefore, bookAfter, supplies, supplies'] using here
  · simpa only [bookBefore, bookAfter, supplies, supplies'] using elsewhere

/-- A move at one balance: what leaves the source and what reaches the target. -/
theorem Applies.moved {source target : Address} {id amount : U256}
    {before after : Hub} (applies : (move source target id amount).Applies before after) :
    Hub.Moved source target id amount before after := by
  intro account other
  by_cases sameId : id = other
  · subst sameId
    obtain ⟨covered, moved, _⟩ := applies.here
    have entry := congrFun moved account
    simp only [Hub.book_apply, Book.move, Book.post, Book.take, set_apply] at covered entry
    simp only [and_true, eq_comm (b := account)]
    split_ifs at entry ⊢ <;> simp_all
  · have balance := congrFun (applies.elsewhere other (by simpa [tokenId] using sameId)).1 account
    simp only [Hub.book_apply] at balance
    simp [sameId, balance]

/-- A burn at one balance. -/
theorem Applies.burn_balance {sender : Address} {id amount : U256} {before after : Hub}
    (applies : (burn sender id amount).Applies before after) (account : Address)
    (other : U256) :
    (after.balanceOf account other).toNat +
        (if sender = account ∧ id = other then amount.toNat else 0) =
      (before.balanceOf account other).toNat := by
  by_cases sameId : id = other
  · subst sameId
    obtain ⟨covered, taken, _⟩ := applies.here
    have entry := congrFun taken account
    simp only [Hub.book_apply, Book.take, set_apply] at covered entry
    simp only [and_true, eq_comm (b := account)]
    split_ifs at entry ⊢ <;> simp_all
  · have balance := congrFun (applies.elsewhere other (by simpa [tokenId] using sameId)).1 account
    simp only [Hub.book_apply] at balance
    simp [sameId, balance]

end BookEffect

/-- The effect of a call on the allowances. -/
inductive AllowanceEffect where
  | none
  | set (owner spender : Address) (id value : U256)
  | spend (owner spender : Address) (id amount : U256)

/-- The effect happened between two hub states.  Spending needs a sufficient
allowance and lowers it, except for a maximal one, which stays. -/
def AllowanceEffect.Applies : AllowanceEffect → Hub → Hub → Prop
  | .none, before, after => after.allowance = before.allowance
  | .set owner spender id value, before, after =>
      after.allowance = set₃ before.allowance owner spender id value
  | .spend owner spender id amount, before, after =>
      let allowed := before.allowance owner spender id
      if allowed = U256.max then
        after.allowance = before.allowance
      else
        ∃ remaining : U256, allowed.toNat = amount.toNat + remaining.toNat ∧
          after.allowance = set₃ before.allowance owner spender id remaining

/-! ## One function at a time -/

namespace Hub

variable {env : Env} {msg : Msg} {hub after : Hub}
variable {sender receiver owner spender account operator : Address}
variable {id amount value tokenId deadline : U256}

theorem moveBalance_ok (ok : hub.moveBalance sender receiver id amount = .ok after) :
    ∃ balances, after = { hub with balanceOf := balances } ∧
      (BookEffect.move sender receiver id amount).Applies hub after := by
  simp only [moveBalance, bind_eq_ok, checkedSub_eq_ok, checkedAdd_eq_ok, pure_eq_ok]
    at ok
  obtain ⟨debited, enough, credited, sum, rfl⟩ := ok
  refine ⟨_, rfl, ⟨?_, ?_, rfl⟩, ?_⟩
  · simp only [book_apply]
    omega
  · funext holder
    simp only [set₂_apply, and_true] at sum
    simp only [book_apply, set₂_apply, and_true, Book.move, Book.post, Book.take, set_apply]
    -- the receiver may be the sender, whose entry was already lowered
    split_ifs with isReceiver isSender isSender
    · subst isSender
      simp only [if_true] at sum
      omega
    · simp only [if_neg isSender] at sum
      omega
    · omega
    · rfl
  · intro other different
    have otherId : other ≠ id := fun same => different (by rw [same]; rfl)
    constructor
    · funext holder
      simp [otherId]
    · rfl

theorem spendAllowance_ok (ok : hub.spendAllowance msg sender id amount = .ok after) :
    ∃ allowances, after = { hub with allowance := allowances } ∧
      (if hub.NeedsAllowance msg sender id then
        AllowanceEffect.spend sender msg.sender id amount
      else .none).Applies hub after := by
  unfold spendAllowance at ok
  by_cases needed : hub.NeedsAllowance msg sender id
  · simp only [if_pos needed] at ok ⊢
    by_cases unlimited : hub.allowance sender msg.sender id = U256.max
    · simp only [ne_eq, unlimited, not_true, if_false, pure_eq_ok] at ok
      subst ok
      refine ⟨_, rfl, ?_⟩
      simp only [AllowanceEffect.Applies, if_pos unlimited]
    · simp only [ne_eq, unlimited, not_false_iff, if_true, bind_eq_ok, checkedSub_eq_ok,
        pure_eq_ok] at ok
      obtain ⟨remaining, enough, rfl⟩ := ok
      refine ⟨_, rfl, ?_⟩
      simp only [AllowanceEffect.Applies, if_neg unlimited]
      exact ⟨remaining, enough, rfl⟩
  · simp only [if_neg needed, pure_eq_ok] at ok ⊢
    subst ok
    exact ⟨_, rfl, rfl⟩

theorem transfer_ok (ok : hub.transfer msg receiver id amount = .ok after) :
    ∃ balances, after = { hub with balanceOf := balances } ∧
      (BookEffect.move msg.sender receiver id amount).Applies hub after := by
  simp only [transfer, bind_eq_ok, pure_eq_ok] at ok
  obtain ⟨moved, move, _, _, rfl⟩ := ok
  exact moveBalance_ok move

/-- `transferFrom` moves the amount and spends the caller's allowance, except
where the caller needs none. -/
theorem transferFrom_ok (ok : hub.transferFrom msg sender receiver id amount = .ok after) :
    ∃ balances allowances,
      after = { hub with balanceOf := balances, allowance := allowances } ∧
      (BookEffect.move sender receiver id amount).Applies hub after ∧
      (if hub.NeedsAllowance msg sender id then
        AllowanceEffect.spend sender msg.sender id amount
      else .none).Applies hub after := by
  simp only [transferFrom, bind_eq_ok, pure_eq_ok] at ok
  obtain ⟨spent, spend, moved, move, _, _, rfl⟩ := ok
  obtain ⟨allowances, rfl, allowanceEffect⟩ := spendAllowance_ok spend
  obtain ⟨balances, rfl, bookEffect⟩ := moveBalance_ok move
  refine ⟨balances, allowances, rfl, bookEffect.congr rfl rfl rfl rfl, ?_⟩
  split_ifs at allowanceEffect ⊢ with needed
  · exact allowanceEffect
  · exact allowanceEffect

theorem approve_ok (ok : hub.approve msg spender id amount = .ok after) :
    after = { hub with allowance := set₃ hub.allowance msg.sender spender id amount } := by
  simp only [approve, bind_eq_ok, pure_eq_ok] at ok
  obtain ⟨_, _, rfl⟩ := ok
  rfl

theorem approveFor_ok (ok : hub.approveFor msg owner spender id amount = .ok after) :
    hub.erc20Views id = msg.sender ∧
      after = { hub with allowance := set₃ hub.allowance owner spender id amount } := by
  simp only [approveFor, bind_eq_ok, require_eq_ok, pure_eq_ok] at ok
  obtain ⟨_, isView, rfl⟩ := ok
  exact ⟨isView, rfl⟩

/-- A permit that goes through was signed by its owner over the owner's current
nonce. -/
theorem permit_ok {v : UInt8} {r s : Bytes32}
    (ok : hub.permit env msg owner spender tokenId value deadline v r s = .ok after) :
    env.recover (permitDigest env owner spender tokenId value (hub.nonces owner) deadline)
        v r s = some owner ∧
      ∃ nonces, after = { hub with
        nonces := nonces
        allowance := set₃ hub.allowance owner spender tokenId value } := by
  simp only [permit, bind_eq_ok, require_eq_ok, orRevert_eq_ok, pure_eq_ok] at ok
  obtain ⟨_, _, _, _, signer, recovered, _, isOwner, _, _, _, _, rfl⟩ := ok
  subst isOwner
  exact ⟨recovered, _, rfl⟩

/-- Creating a view only changes the view registry. -/
theorem ensureERC20View_eq (env : Env) (id : U256) (hub : Hub) :
    ∃ views created, hub.ensureERC20View env id =
      { hub with erc20Views := views, created := created } := by
  unfold ensureERC20View createERC20View
  split
  · split
    · exact ⟨_, _, rfl⟩
    · exact ⟨_, _, rfl⟩
  · exact ⟨_, _, rfl⟩

theorem mint_ok (ok : hub.mint env msg receiver id amount = .ok after) :
    (BookEffect.mint receiver id amount).Applies hub after ∧
      after.allowance = hub.allowance := by
  simp only [mint, internalMint, bind_eq_ok, pure_eq_ok, checkedAdd_eq_ok] at ok
  obtain ⟨_, _, credited, sum, supply, supplySum, _, _, rfl⟩ := ok
  obtain ⟨views, created, ensured⟩ := ensureERC20View_eq env id
    { hub with balanceOf := set₂ hub.balanceOf receiver id credited }
  rw [ensured] at supplySum ⊢
  refine ⟨⟨⟨?_, ?_⟩, ?_⟩, rfl⟩
  · funext holder
    simp only [book_apply, set₂_apply, and_true, Book.post, set_apply]
    split_ifs with isReceiver
    · exact sum
    · rfl
  · simpa using supplySum
  · intro other different
    have otherId : other ≠ id := fun same => different (by rw [same]; rfl)
    constructor
    · funext holder
      simp [otherId]
    · simp [otherId]

theorem burn_ok (ok : hub.burn msg sender id amount = .ok after) :
    (BookEffect.burn sender id amount).Applies hub after ∧
      after.allowance = hub.allowance := by
  simp only [burn, internalBurn, bind_eq_ok, pure_eq_ok, checkedSub_eq_ok] at ok
  obtain ⟨_, _, debited, enough, supply, supplyEnough, _, _, rfl⟩ := ok
  refine ⟨⟨⟨?_, ?_, ?_⟩, ?_⟩, rfl⟩
  · simp only [book_apply]
    omega
  · funext holder
    simp only [book_apply, set₂_apply, and_true, Book.take, set_apply]
    split_ifs with isSender
    · omega
    · rfl
  · simp only [set_apply, if_true]
    omega
  · intro other different
    have otherId : other ≠ id := fun same => different (by rw [same]; rfl)
    constructor
    · funext holder
      simp [otherId]
    · simp [otherId]

end Hub

/-! ## The view's functions -/

namespace ERC20View

variable {msg : Msg} {hub after : Hub} {tokenId value : U256}
variable {owner receiver spender : Address}

/-- The hub never asks the view of an id for an allowance of that id. -/
theorem forward_needs_none (hub : Hub) (tokenId : U256) (msg : Msg) (owner : Address) :
    ¬ hub.NeedsAllowance (forward hub tokenId msg) owner tokenId :=
  fun needed => needed.2.2 rfl

/-- A transfer the view passes on moves the amount and spends no allowance. -/
theorem forwarded_transferFrom_ok
    (ok : hub.transferFrom (forward hub tokenId msg) owner receiver tokenId value =
      .ok after) :
    ∃ balances, after = { hub with balanceOf := balances } ∧
      (BookEffect.move owner receiver tokenId value).Applies hub after := by
  obtain ⟨balances, allowances, frame, bookEffect, allowanceEffect⟩ :=
    Hub.transferFrom_ok ok
  rw [if_neg (forward_needs_none hub tokenId msg owner)] at allowanceEffect
  rw [frame] at allowanceEffect
  simp only [AllowanceEffect.Applies] at allowanceEffect
  rw [allowanceEffect] at frame
  exact ⟨balances, frame, bookEffect⟩

theorem spendAllowance_ok (ok : spendAllowance tokenId msg owner value hub = .ok after) :
    ∃ allowances, after = { hub with allowance := allowances } ∧
      (if msg.sender = owner then AllowanceEffect.none
      else .spend owner msg.sender tokenId value).Applies hub after := by
  unfold spendAllowance at ok
  by_cases isOwner : msg.sender = owner
  · simp only [ne_eq, isOwner, not_true, if_false, pure_eq_ok] at ok
    subst ok
    exact ⟨_, rfl, by simp [isOwner, AllowanceEffect.Applies]⟩
  simp only [ne_eq, isOwner, not_false_iff, if_true] at ok
  simp only [if_neg isOwner, AllowanceEffect.Applies]
  by_cases limited : hub.allowance owner msg.sender tokenId < U256.max
  · simp only [limited, if_true, bind_eq_ok, require_eq_ok, bubble_eq_ok] at ok
    obtain ⟨_, enough, approved⟩ := ok
    obtain ⟨_, rfl⟩ := Hub.approveFor_ok approved
    have notMax : hub.allowance owner msg.sender tokenId ≠ U256.max := by
      intro isMax
      rw [isMax] at limited
      exact absurd limited (BitVec.lt_irrefl _)
    refine ⟨_, rfl, ?_⟩
    rw [if_neg notMax]
    refine ⟨_, ?_, rfl⟩
    rw [BitVec.toNat_sub_of_le enough]
    exact (Nat.add_sub_cancel' (BitVec.le_def.mp enough)).symm
  · simp only [limited, if_false, pure_eq_ok] at ok
    subst ok
    have isMax : hub.allowance owner msg.sender tokenId = U256.max := by
      apply BitVec.eq_of_toNat_eq
      have atLeast := BitVec.le_def.mp (BitVec.not_lt.mp limited)
      have atMost := toNat_le_max (hub.allowance owner msg.sender tokenId)
      rw [toNat_max] at atLeast ⊢
      omega
    exact ⟨_, rfl, by rw [if_pos isMax]⟩

theorem transferFrom_ok
    (ok : transferFrom tokenId msg owner receiver value hub = .ok after) :
    (BookEffect.move owner receiver tokenId value).Applies hub after ∧
      (if msg.sender = owner then AllowanceEffect.none
      else .spend owner msg.sender tokenId value).Applies hub after := by
  simp only [transferFrom, bind_eq_ok, bubble_eq_ok] at ok
  obtain ⟨spent, spend, forwarded⟩ := ok
  obtain ⟨allowances, rfl, allowanceEffect⟩ := spendAllowance_ok spend
  obtain ⟨balances, rfl, bookEffect⟩ := forwarded_transferFrom_ok forwarded
  refine ⟨bookEffect.congr rfl rfl rfl rfl, ?_⟩
  split_ifs at allowanceEffect ⊢ with isOwner
  · exact allowanceEffect
  · exact allowanceEffect

end ERC20View

/-! ## One step of the system -/

/-- The effect of a call on balances and supplies, read off its arguments. -/
def LedgerCall.bookEffect : LedgerCall → BookEffect
  | .hub msg (.transfer receiver id amount) => .move msg.sender receiver id amount
  | .hub _ (.transferFrom sender receiver id amount) => .move sender receiver id amount
  | .hub _ (.mint receiver id amount) => .mint receiver id amount
  | .hub _ (.burn sender id amount) => .burn sender id amount
  | .hub _ _ => .none
  | .view msg id (.transfer receiver value) => .move msg.sender receiver id value
  | .view _ id (.transferFrom owner receiver value) => .move owner receiver id value
  | .view _ _ (.approve _ _) => .none

/-- The effect of a call on the allowances.  Whether `transferFrom` spends one
depends on who is an operator or a view. -/
def LedgerCall.allowanceEffect (hub : Hub) : LedgerCall → AllowanceEffect
  | .hub msg (.transferFrom sender _ id amount) =>
      if hub.NeedsAllowance msg sender id then .spend sender msg.sender id amount
      else .none
  | .hub msg (.approve spender id amount) => .set msg.sender spender id amount
  | .hub _ (.approveFor owner spender id amount) => .set owner spender id amount
  | .hub _ (.permit owner spender tokenId value _ _ _ _) =>
      .set owner spender tokenId value
  | .hub _ _ => .none
  | .view msg id (.approve spender value) => .set msg.sender spender id value
  | .view msg id (.transferFrom owner _ value) =>
      if msg.sender = owner then .none else .spend owner msg.sender id value
  | .view _ _ (.transfer _ _) => .none

namespace Hub

variable {env : Env} {hub after : Hub}

/-- What one successful call does to balances, supplies and allowances. -/
theorem step_effects (call : LedgerCall) (ok : step env call hub = .ok after) :
    call.bookEffect.Applies hub after ∧ (call.allowanceEffect hub).Applies hub after := by
  cases call with
  | hub msg call =>
      simp only [step, bubble_eq_ok] at ok
      cases call with
      | setRole role account granted =>
          simp only [execHub, pure_eq_ok] at ok
          subst ok
          exact ⟨BookEffect.applies_none rfl rfl, rfl⟩
      | setOperatorFor account operator approved =>
          simp only [execHub, setOperatorFor, bind_eq_ok, pure_eq_ok] at ok
          obtain ⟨_, _, rfl⟩ := ok
          exact ⟨BookEffect.applies_none rfl rfl, rfl⟩
      | setOperator operator approved =>
          simp only [execHub, setOperator, pure_eq_ok] at ok
          subst ok
          exact ⟨BookEffect.applies_none rfl rfl, rfl⟩
      | transfer receiver id amount =>
          obtain ⟨balances, rfl, bookEffect⟩ := transfer_ok ok
          exact ⟨bookEffect, rfl⟩
      | transferFrom sender receiver id amount =>
          obtain ⟨_, _, _, bookEffect, allowanceEffect⟩ := transferFrom_ok ok
          exact ⟨bookEffect, allowanceEffect⟩
      | approve spender id amount =>
          obtain rfl := approve_ok ok
          exact ⟨BookEffect.applies_none rfl rfl, rfl⟩
      | approveFor owner spender id amount =>
          obtain ⟨_, rfl⟩ := approveFor_ok ok
          exact ⟨BookEffect.applies_none rfl rfl, rfl⟩
      | permit owner spender tokenId value deadline v r s =>
          obtain ⟨_, _, rfl⟩ := permit_ok ok
          exact ⟨BookEffect.applies_none rfl rfl, rfl⟩
      | mint receiver id amount => exact mint_ok ok
      | burn sender id amount => exact burn_ok ok
  | view msg tokenId call =>
      simp only [step, execView, bind_eq_ok, require_eq_ok] at ok
      obtain ⟨_, _, ok⟩ := ok
      cases call with
      | approve spender value =>
          simp only [ERC20View.approve, bubble_eq_ok] at ok
          obtain ⟨_, rfl⟩ := approveFor_ok ok
          exact ⟨BookEffect.applies_none rfl rfl, rfl⟩
      | transfer receiver value =>
          simp only [ERC20View.transfer, bubble_eq_ok] at ok
          obtain ⟨balances, rfl, bookEffect⟩ := ERC20View.forwarded_transferFrom_ok ok
          exact ⟨bookEffect, rfl⟩
      | transferFrom owner receiver value => exact ERC20View.transferFrom_ok ok

end Hub

end RelaySettlement
