import RelaySettlement.Resolver.Core
import RelaySettlement.Pool.Events

/-!
# What a draw leg changes

The token balances of the resolver and of the executor and the pool balance of the
leg's account, before and after a leg.  Solver code is arbitrary, so each change is
stated net of what happened while the leg's own calls ran.
-/

open Evm

namespace RelaySettlement

/-- What a holder has of a token. -/
def ResolverWorld.holding {χ : Type} (world : ResolverWorld χ) (token holder : Address) : ℤ :=
  (world.balanceOf token holder).toNat

/-- What a pool owes an account in a token. -/
def ResolverWorld.poolBalance {χ : Type} (world : ResolverWorld χ)
    (pool account token : Address) : ℤ :=
  ((world.pools pool).balances account token).toNat

namespace Resolver

/-- The net change of a holding while solver calls ran. -/
def Conversion.gained {χ : Type} (conversion : Conversion χ) (token holder : Address) : ℤ :=
  conversion.after.holding token holder - conversion.before.holding token holder

/-- The net change of a pool balance while solver calls ran. -/
def Conversion.deposited {χ : Type} (conversion : Conversion χ)
    (pool account token : Address) : ℤ :=
  conversion.after.poolBalance pool account token -
    conversion.before.poolBalance pool account token

variable {χ : Type} {env : ResolverEnv χ} {world after : ResolverWorld χ}

/-! ## Transfers -/

/-- An amount of a token went from one holder to another, who may be the same. -/
structure Transfers (token source target : Address) (amount : U256)
    (before after : ResolverWorld χ) : Prop where
  pools : after.pools = before.pools
  holding : ∀ other holder,
    after.holding other holder = before.holding other holder +
      (if other = token ∧ holder = target then (amount.toNat : ℤ) else 0) -
      (if other = token ∧ holder = source then (amount.toNat : ℤ) else 0)

namespace Transfers

variable {token source target : Address} {amount : U256} {before : ResolverWorld χ}

theorem bystander (transfers : Transfers token source target amount before after)
    {holder : Address} (notSource : holder ≠ source) (notTarget : holder ≠ target)
    (other : Address) : after.holding other holder = before.holding other holder := by
  rw [transfers.holding]
  simp [notSource, notTarget]

theorem atTarget (transfers : Transfers token source target amount before after)
    (different : target ≠ source) (other : Address) :
    after.holding other target =
      before.holding other target + if other = token then (amount.toNat : ℤ) else 0 := by
  rw [transfers.holding]
  simp [different]

theorem atSource (transfers : Transfers token source target amount before after)
    (different : source ≠ target) (other : Address) :
    after.holding other source =
      before.holding other source - if other = token then (amount.toNat : ℤ) else 0 := by
  rw [transfers.holding]
  simp [different]

end Transfers

theorem transfer_ok {token source target : Address} {amount : U256}
    (ok : transfer env token source target amount world = .ok after) :
    Transfers token source target amount world after := by
  simp only [transfer, bind_eq_ok, require_eq_ok, checkedAdd_eq_ok, pure_eq_ok] at ok
  obtain ⟨_, _, _, covered, received, sum, rfl⟩ := ok
  refine ⟨rfl, ?_⟩
  intro other holder
  have enough := BitVec.le_def.mp covered
  simp only [ResolverWorld.holding, set₂_apply, true_and] at sum ⊢
  by_cases same : other = token
  · subst same
    by_cases atTarget : holder = target
    · subst atTarget
      by_cases atSource : holder = source
      · subst atSource
        simp only [and_self, if_true, BitVec.toNat_sub_of_le covered] at sum ⊢
        omega
      · simp only [atSource, and_self, and_false, if_true, if_false] at sum ⊢
        omega
    · by_cases atSource : holder = source
      · subst atSource
        simp only [atTarget, and_self, and_false, if_true, if_false,
          BitVec.toNat_sub_of_le covered]
        omega
      · simp only [atTarget, atSource, and_false, if_false]
        omega
  · simp only [same, false_and, if_false]
    omega

theorem transferAll_ok {token source target : Address}
    (ok : transferAll env token source target world = .ok after) :
    Transfers token source target (world.balanceOf token source) world after := by
  by_cases empty : world.balanceOf token source = 0
  · simp only [transferAll, empty, ne_eq, not_true, if_false, pure_eq_ok] at ok
    subst ok
    refine ⟨rfl, ?_⟩
    intro other holder
    rw [empty]
    simp
  · simp only [transferAll, ne_eq, empty, not_false_eq_true, if_true] at ok
    exact transfer_ok ok

/-! ## Pool calls -/

section Pools

variable {timestamp : U256} {orderAddress : Address} {requestHash : Bytes32}

/-- A draw or a credit between a pool and the resolver: the pool balance of the account
changes by `booked`, and the token is moved accordingly. -/
structure Settles (env : ResolverEnv χ) (leg : DrawLeg) (booked : ℤ)
    (before after : ResolverWorld χ) : Prop where
  pool : after.poolBalance leg.pool leg.account leg.token =
    before.poolBalance leg.pool leg.account leg.token + booked
  resolver : ∀ token, after.holding token env.self =
    before.holding token env.self - if token = leg.token then booked else 0
  executor : ∀ token,
    after.holding token env.executor.self = before.holding token env.executor.self

variable {during : List (PoolEvent χ)}

theorem callPool_ok {address : Address} {call : PoolCall} {moved : ℕ}
    (ok : callPool env timestamp address call moved during world = .ok after) :
    ∃ poolEnv poolAfter, env.pool address = some poolEnv ∧
      PoolEvent.step poolEnv
        (.call ⟨⟨env.self, timestamp⟩, world.rest⟩ call true moved during)
        ⟨world.pools address, world.entered address,
          fun token => world.balanceOf token address, []⟩ = .ok poolAfter ∧
      after.balanceOf = world.balanceOf ∧
      after.pools = set world.pools address poolAfter.pool := by
  simp only [callPool, bind_eq_ok, orRevert_eq_ok, bubble_eq_ok, pure_eq_ok] at ok
  obtain ⟨poolEnv, isPool, poolAfter, steps, rfl⟩ := ok
  exact ⟨poolEnv, poolAfter, isPool, steps, rfl, rfl⟩

/-- A pool call by itself moves no token. -/
theorem callPool_holding {address : Address} {call : PoolCall} {moved : ℕ}
    (ok : callPool env timestamp address call moved during world = .ok after)
    (token holder : Address) : after.holding token holder = world.holding token holder := by
  obtain ⟨_, _, _, _, balances, _⟩ := callPool_ok ok
  rw [ResolverWorld.holding, ResolverWorld.holding, balances]

theorem debitPool_settles {planned : PlannedLeg} {amount : U256}
    (ok : debitPool env timestamp orderAddress requestHash planned amount world =
      .ok after) :
    Settles env planned.leg (-amount.toNat) world after := by
  simp only [debitPool, bind_eq_ok] at ok
  obtain ⟨booked, calls, pays⟩ := ok
  have transfers := transfer_ok pays
  obtain ⟨poolEnv, poolAfter, isPool, steps, _, pools⟩ := callPool_ok calls
  have known : (env.pool planned.leg.pool).isSome := by rw [isPool]; rfl
  have debits := PoolEvent.debit_ok steps
  constructor
  · obtain ⟨_, _, _, _, written⟩ := debits.writes
    have covered := BitVec.le_def.mp debits.covered
    have lowered := BitVec.toNat_sub_of_le debits.covered
    simp only [ResolverWorld.poolBalance, transfers.pools, pools, set_apply, if_true, written,
      set₂_apply, and_self]
    dsimp only at covered lowered
    omega
  · intro token
    rw [transfers.atTarget (env.pool_ne_self _ known).symm, callPool_holding calls]
    split <;> omega
  · intro token
    rw [transfers.bystander (env.pool_ne_executor _ known).symm env.executor_ne_self,
      callPool_holding calls]

theorem creditPool_settles {leg : DrawLeg} {amount : U256}
    (ok : creditPool env timestamp requestHash leg amount world = .ok after) :
    Settles env leg amount.toNat world after := by
  simp only [creditPool, bind_eq_ok] at ok
  obtain ⟨booked, calls, pays⟩ := ok
  have transfers := transfer_ok pays
  obtain ⟨poolEnv, poolAfter, isPool, steps, _, pools⟩ := callPool_ok calls
  have known : (env.pool leg.pool).isSome := by rw [isPool]; rfl
  constructor
  · obtain ⟨credited, sum, written⟩ := Pool.deposit_ok (PoolEvent.credit_ok steps)
    simp only [ResolverWorld.poolBalance, transfers.pools, pools, set_apply, if_true, written,
      set₂_apply, and_self, sum]
    omega
  · intro token
    rw [transfers.atSource (env.pool_ne_self _ known).symm, callPool_holding calls]
  · intro token
    rw [transfers.bystander env.executor_ne_self (env.pool_ne_executor _ known).symm,
      callPool_holding calls]

theorem returnToPool_settles {leg : DrawLeg} {amount : U256}
    (ok : returnToPool env timestamp requestHash leg amount world = .ok after) :
    Settles env leg amount.toNat world after := by
  by_cases nothing : amount = 0
  · simp only [returnToPool, nothing, ne_eq, not_true, if_false, pure_eq_ok] at ok
    subst ok
    constructor
    · simp [nothing]
    · simp [nothing]
    · intro token
      rfl
  · simp only [returnToPool, ne_eq, nothing, not_false_eq_true, if_true] at ok
    exact creditPool_settles ok

end Pools

/-! ## One leg -/

/-- What the pool balance of a leg's account and the holdings of the resolver and the
executor changed by, and the holding a shortfall leg ends with. -/
structure LegSettlement.Accounts (env : ResolverEnv χ) (settlement : LegSettlement χ) :
    Prop where
  pool : settlement.after.poolBalance settlement.leg.pool settlement.leg.account
      settlement.leg.token =
    settlement.before.poolBalance settlement.leg.pool settlement.leg.account
        settlement.leg.token -
      settlement.amountDrawn.toNat + settlement.amountCredited.toNat +
      settlement.conversion.deposited settlement.leg.pool settlement.leg.account
        settlement.leg.token
  resolver : ∀ token, settlement.after.holding token env.self =
    settlement.before.holding token env.self +
      (if token = settlement.leg.token then
        (settlement.amountDrawn.toNat - settlement.amountCredited.toNat : ℤ) else 0) +
      settlement.conversion.gained token env.self
  executor : ∀ token, settlement.after.holding token env.executor.self =
    settlement.before.holding token env.executor.self +
      settlement.conversion.gained token env.executor.self
  target : settlement.leg.kind = .shortfallToTarget →
    settlement.after.holding settlement.leg.tokenOut env.self = settlement.leg.amount.toNat

/-- A leg that draws, converts and credits changes balances accordingly. -/
theorem LegSettlement.accounts_of {settlement : LegSettlement χ}
    (drawn : Settles env settlement.leg (-settlement.amountDrawn.toNat) settlement.before
      settlement.conversion.before)
    (credited : Settles env settlement.leg settlement.amountCredited.toNat
      settlement.conversion.after settlement.after)
    (target : settlement.leg.kind = .shortfallToTarget →
      settlement.after.holding settlement.leg.tokenOut env.self =
        settlement.leg.amount.toNat) :
    settlement.Accounts env where
  pool := by
    rw [credited.pool, Conversion.deposited, drawn.pool]
    omega
  resolver := by
    intro token
    rw [credited.resolver, Conversion.gained, drawn.resolver]
    split <;> omega
  executor := by
    intro token
    rw [credited.executor, Conversion.gained, drawn.executor]
    omega
  target := target

section Legs

variable {timestamp : U256} {orderAddress : Address} {requestHash : Bytes32}
  {planned : PlannedLeg} {settlement : LegSettlement χ}

theorem increase_ok {token : Address} {before balance amount : U256}
    (ok : increase token before balance = .ok amount) :
    balance.toNat = before.toNat + amount.toNat := by
  simp only [increase, bind_eq_ok, require_eq_ok, pure_eq_ok] at ok
  obtain ⟨_, grown, rfl⟩ := ok
  have bounds := BitVec.le_def.mp grown
  rw [BitVec.toNat_sub_of_le grown]
  omega

theorem runFixedLeg_accounts (isFixed : planned.leg.kind = .fixed)
    (ok : runFixedLeg env timestamp orderAddress requestHash planned world =
      .ok settlement) :
    settlement.leg = planned.leg ∧ settlement.before = world ∧ settlement.Accounts env := by
  simp only [runFixedLeg, bind_eq_ok, require_eq_ok, pure_eq_ok] at ok
  obtain ⟨funded, draws, amountDrawn, measured, converted, _, _, _, _, _, after, returns,
    rfl⟩ := ok
  refine ⟨rfl, rfl, LegSettlement.accounts_of ?_ (returnToPool_settles returns) ?_⟩
  · -- the measured draw is the amount asked for, since the token moves exactly
    have settles := debitPool_settles draws
    have token : planned.leg.token = planned.leg.tokenIn := by
      rw [DrawLeg.token, isFixed]
    have received := settles.resolver planned.leg.tokenIn
    rw [if_pos token.symm, ResolverWorld.holding, ResolverWorld.holding,
      increase_ok measured] at received
    have exact : amountDrawn = planned.leg.amount := BitVec.eq_of_toNat_eq (by omega)
    rw [exact]
    exact settles
  · intro isShortfall
    rw [isFixed] at isShortfall
    cases isShortfall

/-- Topping up draws what is missing and leaves at least the target. -/
theorem topUp_ok {amountDrawn : U256} {conversion : Conversion χ}
    (ok : topUp env timestamp orderAddress requestHash planned world =
      .ok (amountDrawn, conversion)) :
    Settles env planned.leg (-amountDrawn.toNat) world conversion.before ∧
      planned.leg.amount ≤ conversion.after.balanceOf planned.leg.tokenOut env.self := by
  by_cases missing : world.balanceOf planned.leg.tokenOut env.self < planned.leg.amount
  · simp only [topUp, if_pos missing, bind_eq_ok, require_eq_ok, pure_eq_ok,
      Prod.mk.injEq] at ok
    obtain ⟨funded, draws, converted, _, _, reached, rfl, rfl⟩ := ok
    exact ⟨debitPool_settles draws, reached⟩
  · simp only [topUp, if_neg missing, pure_eq_ok, Prod.mk.injEq] at ok
    obtain ⟨rfl, rfl⟩ := ok
    refine ⟨⟨?_, ?_, ?_⟩, BitVec.not_lt.mp missing⟩
    · simp
    · simp
    · intro token
      rfl

theorem runShortfallLeg_accounts (isShortfall : planned.leg.kind = .shortfallToTarget)
    (ok : runShortfallLeg env timestamp orderAddress requestHash planned world =
      .ok settlement) :
    settlement.leg = planned.leg ∧ settlement.before = world ∧ settlement.Accounts env := by
  simp only [runShortfallLeg, bind_eq_ok, require_eq_ok, pure_eq_ok] at ok
  obtain ⟨_, _, ⟨amountDrawn, conversion⟩, tops, after, returns, rfl⟩ := ok
  obtain ⟨drawn, reached⟩ := topUp_ok tops
  have credited := returnToPool_settles returns
  refine ⟨rfl, rfl, LegSettlement.accounts_of drawn credited ?_⟩
  intro _
  have token : planned.leg.token = planned.leg.tokenOut := by
    rw [DrawLeg.token, isShortfall]
  have kept := credited.resolver planned.leg.tokenOut
  have bounds := BitVec.le_def.mp reached
  rw [if_pos token.symm, BitVec.toNat_sub_of_le reached] at kept
  simp only [ResolverWorld.holding] at kept ⊢
  omega

/-- Every leg that goes through settles its own plan, from the world it is given. -/
theorem runDrawLeg_accounts
    (ok : runDrawLeg env timestamp orderAddress requestHash planned world = .ok settlement) :
    settlement.leg = planned.leg ∧ settlement.before = world ∧ settlement.Accounts env := by
  simp only [runDrawLeg, bind_eq_ok] at ok
  obtain ⟨_, _, runs⟩ := ok
  cases kind : planned.leg.kind with
  | fixed =>
      simp only [kind] at runs
      exact runFixedLeg_accounts kind runs
  | shortfallToTarget =>
      simp only [kind] at runs
      exact runShortfallLeg_accounts kind runs

end Legs

end Resolver

end RelaySettlement
