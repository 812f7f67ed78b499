import RelaySettlement.Pool.Core
import RelaySettlement.Evm.Book
import RelaySettlement.Evm.Limit
import RelaySettlement.Evm.Registry

/-!
# What a pool write changes

For every write of the pool: the conditions under which it is made, its effect on the
account balances, and which of the single-use records and limits it touches.  Results
about whole runs rest on these lemmas and never look into a pool function again.
-/

open Evm

namespace RelaySettlement

namespace Pool

variable {χ : Type} {env : PoolEnv χ} {ctx : Ctx χ} {pool after : Pool}

/-- The balances of one token as a book of account. -/
def book (pool : Pool) (token : Address) : Address → ℕ :=
  fun account => (pool.balances account token).toNat

@[simp] theorem book_apply (pool : Pool) (token account : Address) :
    pool.book token account = (pool.balances account token).toNat := rfl

/-! ## Inversion of the functions -/

variable {account token : Address}

theorem deposit_ok {received : U256} (ok : pool.deposit account token received = .ok after) :
    ∃ credited, credited.toNat = (pool.balances account token).toNat + received.toNat ∧
      after = { pool with balances := set₂ pool.balances account token credited } := by
  simp only [deposit, bind_eq_ok, checkedAdd_eq_ok, pure_eq_ok] at ok
  obtain ⟨credited, sum, rfl⟩ := ok
  exact ⟨credited, sum, rfl⟩

variable {amount : U256}

theorem deduct_ok (ok : pool.deduct account token amount = .ok after) :
    amount ≤ pool.balances account token ∧
      after = { pool with
        balances := set₂ pool.balances account token
          (pool.balances account token - amount) } := by
  simp only [deduct, bind_eq_ok, require_eq_ok, pure_eq_ok] at ok
  obtain ⟨_, covered, rfl⟩ := ok
  exact ⟨covered, rfl⟩

theorem internalSetSponsorshipConfig_ok {config : SponsorshipConfig}
    (ok : pool.internalSetSponsorshipConfig account token config = .ok after) :
    after = { pool with
      sponsorshipConfig := set₂ pool.sponsorshipConfig account token config } := by
  simp only [internalSetSponsorshipConfig, bind_eq_ok, pure_eq_ok] at ok
  obtain ⟨_, _, rfl⟩ := ok
  rfl

theorem internalSetSponsorshipResolver_ok {resolver : Address} {allowed : Bool}
    (ok : pool.internalSetSponsorshipResolver account resolver allowed = .ok after) :
    after = { pool with
      sponsorshipResolvers := set₂ pool.sponsorshipResolvers account resolver allowed } := by
  simp only [internalSetSponsorshipResolver, bind_eq_ok, pure_eq_ok] at ok
  obtain ⟨_, _, rfl⟩ := ok
  rfl

theorem useSponsorshipNonce_ok {nonce deadline : U256}
    (ok : pool.useSponsorshipNonce ctx account nonce deadline = .ok after) :
    pool.usedSponsorshipNonces account nonce = false ∧
      after = { pool with
        usedSponsorshipNonces := set₂ pool.usedSponsorshipNonces account nonce true } := by
  simp only [useSponsorshipNonce, bind_eq_ok, require_eq_ok, pure_eq_ok] at ok
  obtain ⟨_, _, _, fresh, rfl⟩ := ok
  exact ⟨fresh, rfl⟩

/-- A draw lowers the budget of its account and token, unless it is unlimited, and
no other budget. -/
theorem spendBudget_ok (ok : pool.spendBudget account token amount = .ok after) :
    ∃ configs, after = { pool with sponsorshipConfig := configs } ∧
      ∀ account' token', LimitStep none
        (if account = account' ∧ token = token' then amount.toNat else 0)
        (pool.sponsorshipConfig account' token').budget
        (configs account' token').budget := by
  by_cases unlimited : (pool.sponsorshipConfig account token).budget = U256.max
  · simp only [spendBudget, if_pos unlimited, pure_eq_ok] at ok
    refine ⟨pool.sponsorshipConfig, ok.symm, ?_⟩
    intro account' token'
    by_cases here : account = account' ∧ token = token'
    · obtain ⟨rfl, rfl⟩ := here
      simp [LimitStep, unlimited]
    · rw [if_neg here]
      exact LimitStep.unchanged rfl
  · simp only [spendBudget, if_neg unlimited, bind_eq_ok, require_eq_ok, pure_eq_ok] at ok
    obtain ⟨_, covered, rfl⟩ := ok
    refine ⟨_, rfl, ?_⟩
    intro account' token'
    by_cases here : account = account' ∧ token = token'
    · obtain ⟨rfl, rfl⟩ := here
      have amounts := BitVec.le_def.mp covered
      simp only [LimitStep, and_self, if_true, if_neg unlimited, set₂_apply,
        BitVec.toNat_sub_of_le covered]
      omega
    · rw [if_neg here, set₂_of_ne _ _ here]
      exact LimitStep.unchanged rfl

/-- What a draw requires of the pool, and what it writes. -/
structure Debits (env : PoolEnv χ) (ctx : Ctx χ) (draw : DrawRequest)
    (authorization : Bytes) (before after : Pool) : Prop where
  allowed : before.sponsorshipResolvers draw.account ctx.sender = true
  undrawn : before.drawRecords draw.orderAddress draw.account draw.legIndex = false
  unexpired : (before.sponsorshipConfig draw.account draw.token).expiry ≠ 0 →
    ctx.timestamp ≤ (before.sponsorshipConfig draw.account draw.token).expiry.setWidth 256
  authorizerSet : (before.sponsorshipConfig draw.account draw.token).authorizer ≠ 0
  authorized : env.isValidSignatureNow ctx.rest before
    (before.sponsorshipConfig draw.account draw.token).authorizer
    (hashDrawAuthorization env draw.account draw.orderAddress) authorization = true
  capped : (before.orderDraws draw.orderAddress draw.account draw.token).toNat +
      draw.amount.toNat ≤
    (before.sponsorshipConfig draw.account draw.token).perOrderCap.toNat
  covered : draw.amount ≤ before.balances draw.account draw.token
  writes : ∃ configs orderTotal,
    (∀ account token, LimitStep none
      (if draw.account = account ∧ draw.token = token then draw.amount.toNat else 0)
      (before.sponsorshipConfig account token).budget (configs account token).budget) ∧
    orderTotal.toNat = (before.orderDraws draw.orderAddress draw.account draw.token).toNat +
      draw.amount.toNat ∧
    after = { before with
      balances := set₂ before.balances draw.account draw.token
        (before.balances draw.account draw.token - draw.amount)
      sponsorshipConfig := configs
      drawRecords :=
        set₃ before.drawRecords draw.orderAddress draw.account draw.legIndex true
      orderDraws :=
        set₃ before.orderDraws draw.orderAddress draw.account draw.token orderTotal }

theorem bookDebit_ok {draw : DrawRequest} {authorization : Bytes}
    (ok : pool.bookDebit env ctx draw authorization = .ok after) :
    Debits env ctx draw authorization pool after := by
  simp only [bookDebit, requireDrawAuthorization, bind_eq_ok, require_eq_ok,
    checkedAdd_eq_ok, pure_eq_ok] at ok
  obtain ⟨_, _, _, _, _, _, _, _, _, allowed, _, undrawn, _, unexpired, _,
    ⟨_, authorizerSet, authorized⟩, orderTotal, sum, _, capped, spent, budgeted, deducted,
    deduction, rfl⟩ := ok
  obtain ⟨configs, rfl, limits⟩ := spendBudget_ok budgeted
  obtain ⟨covered, rfl⟩ := deduct_ok deduction
  exact {
    allowed, undrawn, unexpired, authorizerSet, authorized, covered
    capped := sum ▸ BitVec.le_def.mp capped
    writes := ⟨configs, orderTotal, limits, sum, rfl⟩ }

/-- What each write requires, and the state it leaves. -/
inductive Written (env : PoolEnv χ) (pool : Pool) : PoolWrite χ → Pool → Prop
  | deposit {account token : Address} {received credited : U256}
      (sum : credited.toNat = (pool.balances account token).toNat + received.toNat) :
      Written env pool (.deposit account token received)
        { pool with balances := set₂ pool.balances account token credited }
  | debit {ctx : Ctx χ} {draw : DrawRequest} {authorization : Bytes} {after : Pool}
      (debits : Debits env ctx draw authorization pool after) :
      Written env pool (.debit ctx draw authorization) after
  | withdraw {ctx : Ctx χ} {token : Address} {amount : U256} {recipient : Address}
      (covered : amount ≤ pool.balances ctx.sender token) :
      Written env pool (.withdraw ctx token amount recipient)
        { pool with
          balances := set₂ pool.balances ctx.sender token
            (pool.balances ctx.sender token - amount) }
  | withdrawSigned {ctx : Ctx χ} {withdrawal : PoolWithdrawal} {signature : Bytes}
      (fresh : pool.usedWithdrawalNonces withdrawal.account withdrawal.nonce = false)
      (signed : env.isValidSignatureNow ctx.rest pool withdrawal.account
        (hashWithdrawal env withdrawal) signature = true)
      (covered : withdrawal.amount ≤ pool.balances withdrawal.account withdrawal.token) :
      Written env pool (.withdrawSigned ctx withdrawal signature)
        { pool with
          usedWithdrawalNonces :=
            set₂ pool.usedWithdrawalNonces withdrawal.account withdrawal.nonce true
          balances := set₂ pool.balances withdrawal.account withdrawal.token
            (pool.balances withdrawal.account withdrawal.token - withdrawal.amount) }
  | setConfig {ctx : Ctx χ} {token : Address} {config : SponsorshipConfig} :
      Written env pool (.setConfig ctx token config)
        { pool with
          sponsorshipConfig := set₂ pool.sponsorshipConfig ctx.sender token config }
  | setConfigSigned {ctx : Ctx χ} {update : SponsorshipConfigUpdate} {signature : Bytes}
      (fresh : pool.usedSponsorshipNonces update.account update.nonce = false) :
      Written env pool (.setConfigSigned ctx update signature)
        { pool with
          usedSponsorshipNonces :=
            set₂ pool.usedSponsorshipNonces update.account update.nonce true
          sponsorshipConfig := set₂ pool.sponsorshipConfig update.account update.token
            ⟨update.perOrderCap, update.budget, update.authorizer, update.expiry⟩ }
  | setResolver {ctx : Ctx χ} {resolver : Address} {allowed : Bool} :
      Written env pool (.setResolver ctx resolver allowed)
        { pool with
          sponsorshipResolvers :=
            set₂ pool.sponsorshipResolvers ctx.sender resolver allowed }
  | setResolverSigned {ctx : Ctx χ} {update : SponsorshipResolverUpdate} {signature : Bytes}
      (fresh : pool.usedSponsorshipNonces update.account update.nonce = false) :
      Written env pool (.setResolverSigned ctx update signature)
        { pool with
          usedSponsorshipNonces :=
            set₂ pool.usedSponsorshipNonces update.account update.nonce true
          sponsorshipResolvers := set₂ pool.sponsorshipResolvers update.account
            update.resolver update.allowed }
  | setPaused {paused : Bool} :
      Written env pool (.setPaused paused) { pool with paused := paused }
  | setRole {role : Role} {account : Address} {granted : Bool} :
      Written env pool (.setRole role account granted)
        { pool with hasRole := set₂ pool.hasRole role account granted }

/-- Every successful write is one of these. -/
theorem write_written {write : PoolWrite χ} (ok : pool.write env write = .ok after) :
    Written env pool write after := by
  cases write with
  | deposit account token received =>
      obtain ⟨credited, sum, rfl⟩ := deposit_ok ok
      exact .deposit sum
  | debit ctx draw authorization => exact .debit (bookDebit_ok ok)
  | withdraw ctx token amount recipient =>
      simp only [write, bookWithdraw, bind_eq_ok] at ok
      obtain ⟨_, _, _, _, _, _, deducted⟩ := ok
      obtain ⟨covered, rfl⟩ := deduct_ok deducted
      exact .withdraw covered
  | withdrawSigned ctx withdrawal signature =>
      simp only [write, bookWithdrawSigned, bind_eq_ok, require_eq_ok] at ok
      obtain ⟨_, _, _, _, _, _, _, fresh, _, signed, _, _, _, _, deducted⟩ := ok
      obtain ⟨covered, rfl⟩ := deduct_ok deducted
      exact .withdrawSigned fresh signed covered
  | setConfig ctx token config =>
      obtain rfl := internalSetSponsorshipConfig_ok ok
      exact .setConfig
  | setConfigSigned ctx update signature =>
      simp only [write, setSponsorshipConfigSigned, bind_eq_ok, require_eq_ok] at ok
      obtain ⟨_, _, _, nonce, _, _, written⟩ := ok
      obtain ⟨fresh, rfl⟩ := useSponsorshipNonce_ok nonce
      obtain rfl := internalSetSponsorshipConfig_ok written
      exact .setConfigSigned fresh
  | setResolver ctx resolver allowed =>
      obtain rfl := internalSetSponsorshipResolver_ok ok
      exact .setResolver
  | setResolverSigned ctx update signature =>
      simp only [write, setSponsorshipResolverSigned, bind_eq_ok, require_eq_ok] at ok
      obtain ⟨_, _, _, nonce, _, _, written⟩ := ok
      obtain ⟨fresh, rfl⟩ := useSponsorshipNonce_ok nonce
      obtain rfl := internalSetSponsorshipResolver_ok written
      exact .setResolverSigned fresh
  | setPaused paused =>
      simp only [write, setPaused, bind_eq_ok, pure_eq_ok] at ok
      obtain ⟨_, _, rfl⟩ := ok
      exact .setPaused
  | setRole role account granted =>
      simp only [write, pure_eq_ok] at ok
      subst ok
      exact .setRole

end Pool

/-! ## Balances -/

/-- The effect of a write on the balances. -/
inductive PoolEffect where
  | none
  | post (account token : Address) (amount : U256)
  | take (account token : Address) (amount : U256)

/-- The effect happened between two states of the pool. -/
def PoolEffect.Applies (before after : Pool) : PoolEffect → Prop
  | .none => after.balances = before.balances
  | .post account token amount => ∀ other,
      after.book other =
        if other = token then Book.post (before.book other) account amount.toNat
        else before.book other
  | .take account token amount =>
      amount.toNat ≤ before.book token account ∧ ∀ other,
        after.book other =
          if other = token then Book.take (before.book other) account amount.toNat
          else before.book other

/-- The effect a write has. -/
def PoolWrite.effect {χ : Type} : PoolWrite χ → PoolEffect
  | .deposit account token received => .post account token received
  | .debit _ draw _ => .take draw.account draw.token draw.amount
  | .withdraw ctx token amount _ => .take ctx.sender token amount
  | .withdrawSigned _ withdrawal _ =>
      .take withdrawal.account withdrawal.token withdrawal.amount
  | _ => .none

namespace Pool

variable {χ : Type} {env : PoolEnv χ} {pool after : Pool}

/-- Overwriting one balance overwrites one entry of one book. -/
theorem book_set₂ {account token : Address} {value : U256}
    (written : after.balances = set₂ pool.balances account token value) (other : Address) :
    after.book other =
      if other = token then set (pool.book other) account value.toNat
      else pool.book other := by
  funext holder
  simp only [book_apply, written, set₂_apply]
  by_cases sameToken : other = token
  · by_cases sameHolder : holder = account
    · simp [sameToken, sameHolder]
    · simp [sameToken, sameHolder]
  · simp [sameToken]

theorem take_applies {account token : Address} {amount : U256}
    (covered : amount ≤ pool.balances account token)
    (written : after.balances =
      set₂ pool.balances account token (pool.balances account token - amount)) :
    (PoolEffect.take account token amount).Applies pool after := by
  refine ⟨BitVec.le_def.mp covered, ?_⟩
  intro other
  rw [book_set₂ written, BitVec.toNat_sub_of_le covered]
  split
  next sameToken => subst sameToken; rfl
  next => rfl

theorem Written.applies {write : PoolWrite χ} (written : Written env pool write after) :
    write.effect.Applies pool after := by
  cases written with
  | deposit sum =>
      intro other
      rw [book_set₂ rfl, sum]
      split
      next sameToken => subst sameToken; rfl
      next => rfl
  | debit debits =>
      obtain ⟨_, _, _, _, rfl⟩ := debits.writes
      exact take_applies debits.covered rfl
  | withdraw covered => exact take_applies covered rfl
  | withdrawSigned fresh signed covered => exact take_applies covered rfl
  | _ => rfl

end Pool

end RelaySettlement
