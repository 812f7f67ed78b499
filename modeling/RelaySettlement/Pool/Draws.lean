import RelaySettlement.Pool.Events

/-!
# Draw bounds and account isolation

Six guards with different keys bound what may be drawn from an account: the draw
record of an order's leg, the cap per order, the budget of the config in force, the
resolver allowlist, the authoriser's signature, and the nonces of signed messages.
The results below are about the writes recorded in a run, in the order they were made.
-/

open Evm

namespace RelaySettlement

/-! ## What the statement speaks about -/

namespace PoolWrite

variable {χ : Type}

/-- The draw record a write uses. -/
def drawRecord : PoolWrite χ → List (Address × Address × U256)
  | .debit _ draw _ => [(draw.orderAddress, draw.account, draw.legIndex)]
  | _ => []

/-- The withdrawal nonce a write uses. -/
def withdrawalNonce : PoolWrite χ → List (Address × U256)
  | .withdrawSigned _ withdrawal _ => [(withdrawal.account, withdrawal.nonce)]
  | _ => []

/-- The sponsorship nonce a write uses, for a config or a resolver update. -/
def sponsorshipNonce : PoolWrite χ → List (Address × U256)
  | .setConfigSigned _ update _ => [(update.account, update.nonce)]
  | .setResolverSigned _ update _ => [(update.account, update.nonce)]
  | _ => []

/-- What a write draws from an account in a token for an order. -/
def drawnFor (orderAddress account token : Address) : PoolWrite χ → ℕ
  | .debit _ draw _ =>
      if draw.orderAddress = orderAddress ∧ draw.account = account ∧ draw.token = token then
        draw.amount.toNat
      else 0
  | _ => 0

/-- What a write draws from an account in a token. -/
def drawnFrom (account token : Address) : PoolWrite χ → ℕ
  | .debit _ draw _ =>
      if draw.account = account ∧ draw.token = token then draw.amount.toNat else 0
  | _ => 0

/-- The budget to which a write sets the config of an account and a token. -/
def setsBudget (account token : Address) : PoolWrite χ → Option U256
  | .setConfig ctx token' config =>
      if ctx.sender = account ∧ token' = token then some config.budget else none
  | .setConfigSigned _ update _ =>
      if update.account = account ∧ update.token = token then some update.budget else none
  | _ => none

/-- A draw is made by a resolver with the role that the account has allowlisted, not
after the expiry of the account's config, and with a signature of the config's nonzero
authoriser over the account and the order. -/
def DrawAuthorized (env : PoolEnv χ) (pool : Pool) : PoolWrite χ → Prop
  | .debit ctx draw authorization =>
      let config := pool.sponsorshipConfig draw.account draw.token
      pool.hasRole .resolver ctx.sender = true ∧
        pool.sponsorshipResolvers draw.account ctx.sender = true ∧
        (config.expiry = 0 ∨ ctx.timestamp.toNat ≤ config.expiry.toNat) ∧
        config.authorizer ≠ 0 ∧
        env.isValidSignatureNow ctx.rest pool config.authorizer
          (Pool.hashDrawAuthorization env draw.account draw.orderAddress) authorization = true
  | _ => True

/-- The write is an authorised draw from the account, the account's own withdrawal with
the withdrawer role, or a withdrawal the account has signed. -/
def Spends (env : PoolEnv χ) (pool : Pool) (account token : Address) : PoolWrite χ → Prop
  | .debit ctx draw authorization =>
      draw.account = account ∧ draw.token = token ∧
        DrawAuthorized env pool (.debit ctx draw authorization)
  | .withdraw ctx token' _ _ =>
      ctx.sender = account ∧ token' = token ∧ pool.hasRole .withdrawer account = true
  | .withdrawSigned ctx withdrawal signature =>
      withdrawal.account = account ∧ withdrawal.token = token ∧
        env.isValidSignatureNow ctx.rest pool account
          (Pool.hashWithdrawal env withdrawal) signature = true
  | _ => False

end PoolWrite

/-! ## One write -/

namespace Pool

/-- The draw records, keyed by order, account and leg. -/
def drawnLegs (pool : Pool) (key : Address × Address × U256) : Bool :=
  pool.drawRecords key.1 key.2.1 key.2.2

/-- The used withdrawal nonces, keyed by account and nonce. -/
def withdrawalNonces (pool : Pool) (key : Address × U256) : Bool :=
  pool.usedWithdrawalNonces key.1 key.2

/-- The used sponsorship nonces, keyed by account and nonce. -/
def sponsorshipNonces (pool : Pool) (key : Address × U256) : Bool :=
  pool.usedSponsorshipNonces key.1 key.2

namespace Written

variable {χ : Type} {env : PoolEnv χ} {pool after : Pool} {write : PoolWrite χ}

theorem registers_drawRecord (written : Written env pool write after) :
    Registers (fun pool key => drawnLegs pool key = true) pool after write.drawRecord := by
  cases written with
  | debit debits =>
      obtain ⟨_, _, _, _, rfl⟩ := debits.writes
      apply Registers.flag drawnLegs
      · exact debits.undrawn
      · rintro ⟨orderAddress, account, legIndex⟩
        simp [drawnLegs, set₃_apply]
  | _ => exact Registers.unchanged rfl

theorem registers_withdrawalNonce (written : Written env pool write after) :
    Registers (fun pool key => withdrawalNonces pool key = true) pool after
      write.withdrawalNonce := by
  cases written with
  | withdrawSigned fresh signed covered =>
      apply Registers.flag withdrawalNonces
      · exact fresh
      · rintro ⟨account, nonce⟩
        simp [withdrawalNonces, set₂_apply]
  | debit debits =>
      obtain ⟨_, _, _, _, rfl⟩ := debits.writes
      exact Registers.unchanged rfl
  | _ => exact Registers.unchanged rfl

theorem registers_sponsorshipNonce (written : Written env pool write after) :
    Registers (fun pool key => sponsorshipNonces pool key = true) pool after
      write.sponsorshipNonce := by
  cases written with
  | setConfigSigned fresh | setResolverSigned fresh =>
      apply Registers.flag sponsorshipNonces
      · exact fresh
      · rintro ⟨account, nonce⟩
        simp [sponsorshipNonces, set₂_apply]
  | debit debits =>
      obtain ⟨_, _, _, _, rfl⟩ := debits.writes
      exact Registers.unchanged rfl
  | _ => exact Registers.unchanged rfl

/-- A write adds what it draws for an order to the order's total. -/
theorem orderDraws (written : Written env pool write after)
    (orderAddress account token : Address) :
    (after.orderDraws orderAddress account token).toNat + 0 =
      (pool.orderDraws orderAddress account token).toNat +
        write.drawnFor orderAddress account token := by
  cases written with
  | @debit ctx draw authorization _ debits =>
      obtain ⟨_, orderTotal, _, sum, rfl⟩ := debits.writes
      simp only [PoolWrite.drawnFor]
      by_cases here : draw.orderAddress = orderAddress ∧ draw.account = account ∧
          draw.token = token
      · obtain ⟨rfl, rfl, rfl⟩ := here
        simp [set₃_apply, sum]
      · rw [if_neg here, set₃_of_ne _ _ here]
  | _ => rfl

/-- A write sets and lowers the budget of an account and a token as it says. -/
theorem budget (written : Written env pool write after) (account token : Address) :
    LimitStep (write.setsBudget account token) (write.drawnFrom account token)
      (pool.sponsorshipConfig account token).budget
      (after.sponsorshipConfig account token).budget := by
  have sets : ∀ (account' token' : Address) (config : SponsorshipConfig),
      LimitStep
        (if account' = account ∧ token' = token then some config.budget else none) 0
        (pool.sponsorshipConfig account token).budget
        (set₂ pool.sponsorshipConfig account' token' config account token).budget := by
    intro account' token' config
    by_cases here : account' = account ∧ token' = token
    · obtain ⟨rfl, rfl⟩ := here
      simp [set₂_apply, LimitStep]
    · rw [if_neg here, set₂_of_ne _ _ here]
      exact LimitStep.unchanged rfl
  cases written with
  | debit debits =>
      obtain ⟨_, _, limits, _, rfl⟩ := debits.writes
      exact limits account token
  | @setConfig ctx token' config => exact sets ctx.sender token' config
  | @setConfigSigned ctx update _ fresh =>
      exact sets update.account update.token
        ⟨update.perOrderCap, update.budget, update.authorizer, update.expiry⟩
  | _ => exact LimitStep.unchanged rfl

theorem drawAuthorized (written : Written env pool write after)
    (permitted : write.Permitted pool) : write.DrawAuthorized env pool := by
  cases written with
  | @debit ctx draw authorization _ debits =>
      refine ⟨permitted.1, debits.allowed, ?_, debits.authorizerSet, debits.authorized⟩
      by_cases never : (pool.sponsorshipConfig draw.account draw.token).expiry = 0
      · exact .inl never
      · have notAfter := BitVec.le_def.mp (debits.unexpired never)
        rw [BitVec.toNat_setWidth_of_le (by decide)] at notAfter
        exact .inr notAfter
  | _ => trivial

/-- An entry of the balances that is overwritten and becomes smaller is the entry of the
account and token that the write is about. -/
theorem lowered_entry {account token account' token' : Address} {value : U256}
    (lower : set₂ pool.balances account' token' value account token <
      pool.balances account token) : account' = account ∧ token' = token := by
  by_contra elsewhere
  rw [set₂_of_ne _ _ elsewhere] at lower
  exact absurd lower (BitVec.lt_irrefl _)

/-- A balance is lowered only by an authorised draw or by a withdrawal of its account. -/
theorem spends (written : Written env pool write after) (permitted : write.Permitted pool)
    {account token : Address}
    (lower : after.balances account token < pool.balances account token) :
    write.Spends env pool account token := by
  cases written with
  | debit debits =>
      have authorized := drawAuthorized (.debit debits) permitted
      obtain ⟨_, _, _, _, rfl⟩ := debits.writes
      obtain ⟨rfl, rfl⟩ := lowered_entry lower
      exact ⟨rfl, rfl, authorized⟩
  | withdraw covered =>
      obtain ⟨rfl, rfl⟩ := lowered_entry lower
      exact ⟨rfl, rfl, permitted⟩
  | withdrawSigned fresh signed covered =>
      obtain ⟨rfl, rfl⟩ := lowered_entry lower
      exact ⟨rfl, rfl, signed⟩
  | @deposit account' token' received credited sum =>
      obtain ⟨rfl, rfl⟩ := lowered_entry lower
      have less := BitVec.lt_def.mp lower
      simp only [set₂_apply, and_self, if_true, sum] at less
      omega
  | _ => exact absurd lower (BitVec.lt_irrefl _)

end Written

end Pool

/-! ## Whole runs -/

section Runs

variable {χ : Type} {env : PoolEnv χ} {writes : List (PoolWrite χ)} {pool : Pool}
  {earlier later : List (Transition Pool (PoolWrite χ))} {success : Transition Pool (PoolWrite χ)}

/-- The keys that the writes of a run use are used once each, if every write only uses
unmarked keys and marks them. -/
theorem Pool.keys_nodup {α : Type} (marked : Pool → α → Prop) (keys : PoolWrite χ → List α)
    (registers : ∀ {write before after}, Pool.Written env before write after →
      Registers marked before after (keys write)) (writes : List (PoolWrite χ))
    (pool : Pool) :
    ((trace (Pool.write env) writes pool).flatMap fun success => keys success.call).Nodup :=
  (run_registers (Pool.write env) (fun _ _ => True) (fun write _ => keys write)
    (fun _ _ _ _ ok => registers (Pool.write_written ok)) writes pool
    (along_trivial writes pool)).nodup

/-- The draws recorded for an order add up. -/
theorem Pool.run_orderDraws (env : PoolEnv χ) (writes : List (PoolWrite χ)) (pool : Pool)
    (orderAddress account token : Address) :
    ((run (Pool.write env) writes pool).orderDraws orderAddress account token).toNat =
      (pool.orderDraws orderAddress account token).toNat +
        ((trace (Pool.write env) writes pool).map fun success =>
          success.call.drawnFor orderAddress account token).sum := by
  have added : ∀ write before after, Pool.write env write before = .ok after →
      (after.orderDraws orderAddress account token).toNat + 0 =
        (before.orderDraws orderAddress account token).toNat +
          write.drawnFor orderAddress account token :=
    fun _ _ _ ok => (Pool.write_written ok).orderDraws orderAddress account token
  have measured := run_measure
    (fun pool : Pool => (pool.orderDraws orderAddress account token).toNat)
    (fun write => write.drawnFor orderAddress account token) (fun _ => 0) added writes pool
  simpa using measured

/-- When a write is made, the draws recorded for an order are those of the writes before
it. -/
theorem Pool.trace_orderDraws
    (split : trace (Pool.write env) writes pool = earlier ++ success :: later)
    (orderAddress account token : Address) :
    (success.pre.orderDraws orderAddress account token).toNat =
      (pool.orderDraws orderAddress account token).toNat +
        (earlier.map fun success =>
          success.call.drawnFor orderAddress account token).sum := by
  obtain ⟨initial, traced, reached⟩ := trace_at split
  rw [← traced, ← reached]
  exact Pool.run_orderDraws env initial pool orderAddress account token

theorem Pool.trace_written (member : success ∈ trace (Pool.write env) writes pool) :
    Pool.Written env success.pre success.call success.post :=
  Pool.write_written (mem_trace member)

/-- No draw takes the sum drawn for its order beyond the cap in force. -/
theorem Pool.trace_capped
    (split : trace (Pool.write env) writes pool = earlier ++ success :: later)
    {ctx : Ctx χ} {draw : DrawRequest} {authorization : Bytes}
    (isDraw : success.call = .debit ctx draw authorization) :
    (pool.orderDraws draw.orderAddress draw.account draw.token).toNat +
        ((earlier ++ [success]).map fun success =>
          success.call.drawnFor draw.orderAddress draw.account draw.token).sum ≤
      (success.pre.sponsorshipConfig draw.account draw.token).perOrderCap.toNat := by
  have member : success ∈ trace (Pool.write env) writes pool := by
    rw [split]
    exact List.mem_append_right _ (List.mem_cons_self ..)
  have written := Pool.trace_written member
  have before := Pool.trace_orderDraws split draw.orderAddress draw.account draw.token
  rw [isDraw] at written
  cases written with
  | debit debits =>
      have capped := debits.capped
      have drawn : success.call.drawnFor draw.orderAddress draw.account draw.token =
          draw.amount.toNat := by
        rw [isDraw, PoolWrite.drawnFor, if_pos ⟨rfl, rfl, rfl⟩]
      rw [List.map_append, List.sum_append, List.map_singleton, List.sum_singleton, drawn]
      omega

end Runs

/-- The recorded writes of a run lead from the storage at deployment to the storage at
the end, and each was permitted when it was made. -/
theorem PoolWorld.run_records {χ : Type} (env : PoolEnv χ) (events : List (PoolEvent χ))
    (world : PoolWorld χ) : Records env world (run (PoolEvent.step env) events world) := by
  apply run_invariant (Records env world) _ events world (Records.unchanged rfl rfl)
  intro event before after records ok
  exact records.trans (PoolEvent.step_happens ok).records

/-- Over every run of pool calls by anybody, with tokens that run arbitrary code when
called, the writes the pool makes are bounded as follows.  Each leg of an order is drawn
from an account at most once.  The draws recorded for an order are the sum of its draws,
and no draw takes this sum beyond the cap in force.  After a limited budget is set and
before the next setting, the draws stay within it.  Each draw is authorised.  A balance
is lowered only by such a draw or by a withdrawal of its account.  Each withdrawal nonce
is used at most once, and so is each sponsorship nonce. -/
theorem pool_draw_bounds {χ : Type} (env : PoolEnv χ) (roles : Pool.Role → Address → Bool)
    (held : Address → U256) (events : List (PoolEvent χ)) :
    let world := run (PoolEvent.step env) events (PoolWorld.deployed χ roles held)
    let successes := trace (Pool.write env) world.writes (Pool.empty roles)
    (successes.map Transition.call = world.writes ∧
      run (Pool.write env) world.writes (Pool.empty roles) = world.pool) ∧
    (successes.flatMap fun success => success.call.drawRecord).Nodup ∧
    (∀ orderAddress account token,
      (world.pool.orderDraws orderAddress account token).toNat =
          (successes.map fun success =>
            success.call.drawnFor orderAddress account token).sum ∧
        ∀ earlier success later, successes = earlier ++ success :: later →
          (success.pre.orderDraws orderAddress account token).toNat =
            (earlier.map fun success =>
              success.call.drawnFor orderAddress account token).sum) ∧
    (∀ earlier success later, successes = earlier ++ success :: later →
      ∀ ctx draw authorization, success.call = .debit ctx draw authorization →
        ((earlier ++ [success]).map fun success =>
            success.call.drawnFor draw.orderAddress draw.account draw.token).sum ≤
          (success.pre.sponsorshipConfig draw.account draw.token).perOrderCap.toNat) ∧
    (∀ account token earlier setting window later budget,
      successes = earlier ++ setting :: (window ++ later) →
      setting.call.setsBudget account token = some budget → budget ≠ U256.max →
      (∀ success ∈ window, success.call.setsBudget account token = none) →
      (window.map fun success => success.call.drawnFrom account token).sum ≤
        budget.toNat) ∧
    (∀ success ∈ successes, success.call.DrawAuthorized env success.pre) ∧
    (∀ success ∈ successes, ∀ account token,
      success.post.balances account token < success.pre.balances account token →
      success.call.Spends env success.pre account token) ∧
    (successes.flatMap fun success => success.call.withdrawalNonce).Nodup ∧
    (successes.flatMap fun success => success.call.sponsorshipNonce).Nodup := by
  intro world successes
  obtain ⟨writes, appended, reached, all, permitted⟩ :=
    PoolWorld.run_records env events (PoolWorld.deployed χ roles held)
  obtain rfl : world.writes = writes := appended
  have reached : run (Pool.write env) world.writes (Pool.empty roles) = world.pool := reached
  have noDraws : ∀ orderAddress account token,
      ((Pool.empty roles).orderDraws orderAddress account token).toNat = 0 :=
    fun _ _ _ => rfl
  refine ⟨⟨all, reached⟩, ?_, ?_, ?_, ?_, ?_, ?_, ?_, ?_⟩
  · exact Pool.keys_nodup _ _ (fun written => written.registers_drawRecord) _ _
  · intro orderAddress account token
    constructor
    · have total := Pool.run_orderDraws env world.writes (Pool.empty roles) orderAddress account
        token
      rwa [noDraws, Nat.zero_add, reached] at total
    · intro earlier success later split
      have before := Pool.trace_orderDraws split orderAddress account token
      rwa [noDraws, Nat.zero_add] at before
  · intro earlier success later split ctx draw authorization isDraw
    have capped := Pool.trace_capped split isDraw
    rwa [noDraws, Nat.zero_add] at capped
  · intro account token earlier setting window later budget split sets limited unset
    have limits : ∀ write before after, True → Pool.write env write before = .ok after →
        LimitStep (write.setsBudget account token) (write.drawnFrom account token)
          (before.sponsorshipConfig account token).budget
          (after.sponsorshipConfig account token).budget :=
      fun _ _ _ _ ok => (Pool.write_written ok).budget account token
    exact spent_within_setting limits (along_trivial _ _) Grant.initial_accounts split sets
      limited unset
  · intro success member
    exact (Pool.trace_written member).drawAuthorized (permitted success member)
  · intro success member account token lower
    exact (Pool.trace_written member).spends (permitted success member) lower
  · exact Pool.keys_nodup _ _ (fun written => written.registers_withdrawalNonce) _ _
  · exact Pool.keys_nodup _ _ (fun written => written.registers_sponsorshipNonce) _ _

end RelaySettlement
