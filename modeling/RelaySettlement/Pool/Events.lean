import RelaySettlement.Pool.Writes

/-!
# What happens to the pool in one event

Inside a guarded function the pool calls token code, and whatever that code does can
only reach the pool's unguarded functions: it is `Quiet`.  So each event is quiet, or
books a deposit after such a section, or books a payment before one.  `step_happens`
says so once, together with the writes that were made on the way.
-/

open Evm

namespace RelaySettlement

/-- The permission a write needs, as checked by the modifiers of its function. -/
def PoolWrite.Permitted {χ : Type} (pool : Pool) : PoolWrite χ → Prop
  | .debit ctx _ _ => pool.hasRole .resolver ctx.sender = true ∧ pool.paused = false
  | .withdraw ctx _ _ _ => pool.hasRole .withdrawer ctx.sender = true
  | _ => True

namespace PoolWorld

variable {χ : Type} {env : PoolEnv χ}

/-- The storage of one world is reached from that of another by the writes recorded in
between, each of which succeeded and was permitted. -/
def Records (env : PoolEnv χ) (before after : PoolWorld χ) : Prop :=
  ∃ writes, after.writes = before.writes ++ writes ∧
    run (Pool.write env) writes before.pool = after.pool ∧
    (trace (Pool.write env) writes before.pool).map Transition.call = writes ∧
    ∀ success ∈ trace (Pool.write env) writes before.pool,
      success.call.Permitted success.pre

namespace Records

variable {first second third : PoolWorld χ}

theorem unchanged (pool : second.pool = first.pool) (writes : second.writes = first.writes) :
    Records env first second := by
  refine ⟨[], ?_, pool.symm, rfl, ?_⟩
  · rw [writes, List.append_nil]
  · intro success member
    cases member

theorem trans (here : Records env first second) (later : Records env second third) :
    Records env first third := by
  obtain ⟨writes, appended, reached, all, permitted⟩ := here
  obtain ⟨writes', appended', reached', all', permitted'⟩ := later
  rw [← reached] at reached' all' permitted'
  refine ⟨writes ++ writes', ?_, ?_, ?_, ?_⟩
  · rw [appended', appended, List.append_assoc]
  · rw [run_append, reached']
  · rw [trace_append, List.map_append, all, all']
  · intro success member
    rw [trace_append] at member
    rcases List.mem_append.mp member with member | member
    · exact permitted success member
    · exact permitted' success member

end Records

variable {world next : PoolWorld χ}

variable {write : PoolWrite χ}

theorem record_ok (ok : record env write world = .ok next) :
    ∃ pool, world.pool.write env write = .ok pool ∧
      next = { world with pool := pool, writes := world.writes ++ [write] } := by
  simp only [record, bind_eq_ok, pure_eq_ok] at ok
  obtain ⟨pool, written, rfl⟩ := ok
  exact ⟨pool, written, rfl⟩

theorem record_records (ok : record env write world = .ok next)
    (permitted : write.Permitted world.pool) : Records env world next := by
  obtain ⟨pool, written, rfl⟩ := record_ok ok
  refine ⟨[write], rfl, attempt_ok written, ?_, ?_⟩
  · simp [trace, written]
  · simpa only [trace, written, List.mem_singleton, forall_eq] using permitted

/-! ## Quiet sections -/

/-- No balance changes and no token leaves the pool. -/
structure Quiet (env : PoolEnv χ) (before after : PoolWorld χ) : Prop where
  entered : after.entered = before.entered
  balances : after.pool.balances = before.pool.balances
  held : ∀ token, (before.held token).toNat ≤ (after.held token).toNat
  records : Records env before after

namespace Quiet

variable {first second third : PoolWorld χ}

theorem refl (world : PoolWorld χ) : Quiet env world world where
  entered := rfl
  balances := rfl
  held := fun _ => Nat.le_refl _
  records := Records.unchanged rfl rfl

theorem trans (here : Quiet env first second) (later : Quiet env second third) :
    Quiet env first third where
  entered := later.entered.trans here.entered
  balances := later.balances.trans here.balances
  held := fun token => (here.held token).trans (later.held token)
  records := here.records.trans later.records

end Quiet

/-- A permitted write without an effect on balances is quiet. -/
theorem record_quiet (ok : record env write world = .ok next) (effect : write.effect = .none)
    (permitted : write.Permitted world.pool) : Quiet env world next := by
  have records := record_records ok permitted
  obtain ⟨pool, written, rfl⟩ := record_ok ok
  have applies := (Pool.write_written written).applies
  rw [effect] at applies
  exact ⟨rfl, applies, fun _ => Nat.le_refl _, records⟩

theorem deliver_quiet {token : Address} {amount : ℕ}
    (ok : world.deliver token amount = .ok next) : Quiet env world next := by
  simp only [deliver, bind_eq_ok, require_eq_ok, pure_eq_ok] at ok
  obtain ⟨_, fits, rfl⟩ := ok
  refine ⟨rfl, rfl, ?_, Records.unchanged rfl rfl⟩
  intro other
  simp only [set_apply]
  by_cases same : other = token
  · rw [if_pos same, BitVec.toNat_ofNat, Nat.mod_eq_of_lt fits, same]
    exact Nat.le_add_right _ _
  · rw [if_neg same]

theorem nonReentrant_ok {body : PoolWorld χ → Except Pool.Error (PoolWorld χ)}
    (ok : nonReentrant body world = .ok next) :
    world.entered = false ∧ ∃ inside, body { world with entered := true } = .ok inside ∧
      next = { inside with entered := false } := by
  simp only [nonReentrant, bind_eq_ok, require_eq_ok, pure_eq_ok] at ok
  obtain ⟨_, notEntered, inside, done, rfl⟩ := ok
  exact ⟨notEntered, inside, done, rfl⟩

end PoolWorld

open PoolWorld

section Entered

variable {χ : Type} {env : PoolEnv χ} {world next : PoolWorld χ}

/-- While a guarded function runs, the guarded functions revert and the others do not
touch balances. -/
theorem PoolEvent.step_quiet {event : PoolEvent χ} (entered : world.entered = true)
    (ok : event.step env world = .ok next) : Quiet env world next := by
  have guarded : ∀ {body}, nonReentrant body world = .ok next → Quiet env world next := by
    intro body done
    rw [(nonReentrant_ok done).1] at entered
    cases entered
  cases event with
  | deliver token amount =>
      simp only [PoolEvent.step] at ok
      exact deliver_quiet ok
  | call ctx request succeeds moved during =>
      simp only [PoolEvent.step] at ok
      cases request with
      | depositFor account token amount =>
          simp only [exec, depositFor, bind_eq_ok] at ok
          obtain ⟨_, _, done⟩ := ok
          exact guarded done
      | credit account token amount requestHash kind =>
          simp only [exec, credit, bind_eq_ok] at ok
          obtain ⟨_, _, _, _, done⟩ := ok
          exact guarded done
      | debit draw authorization =>
          simp only [exec, debit, bind_eq_ok] at ok
          obtain ⟨_, _, _, _, done⟩ := ok
          exact guarded done
      | withdraw token amount recipient =>
          simp only [exec, withdraw, bind_eq_ok] at ok
          obtain ⟨_, _, done⟩ := ok
          exact guarded done
      | withdrawSigned withdrawal signature =>
          simp only [exec, withdrawSigned, recordAndPay] at ok
          exact guarded ok
      | pause | unpause =>
          simp only [exec, setPaused, bind_eq_ok] at ok
          obtain ⟨_, _, done⟩ := ok
          exact record_quiet done rfl trivial
      | _ => exact record_quiet ok rfl trivial

/-- Whatever happens while a guarded function runs is quiet. -/
theorem PoolEvent.runAll_quiet (events : List (PoolEvent χ)) (entered : world.entered = true) :
    Quiet env world (PoolEvent.runAll env events world) := by
  rw [PoolEvent.runAll_eq_run]
  apply run_invariant (Quiet env world) _ events world (Quiet.refl world)
  intro event state after quiet ok
  exact quiet.trans (PoolEvent.step_quiet (quiet.entered.trans entered) ok)

end Entered

/-! ## One event -/

/-- What an event does: it is quiet; or tokens arrive in a quiet section and are booked
as a deposit; or a payment is booked, paid out, and a quiet section follows. -/
inductive PoolWorld.Happens {χ : Type} (env : PoolEnv χ) (world next : PoolWorld χ) : Prop
  | quiet (quiet : Quiet env world next)
  | deposits {account token : Address} {received : U256} {inside booked : PoolWorld χ}
      (during : Quiet env { world with entered := true } inside)
      (arrived : (inside.held token).toNat = (world.held token).toNat + received.toNat)
      (books : record env (.deposit account token received) inside = .ok booked)
      (leaves : next = { booked with entered := false })
  | pays {write : PoolWrite χ} {account token : Address} {amount remaining : U256}
      {booked paid : PoolWorld χ}
      (effect : write.effect = .take account token amount)
      (permitted : write.Permitted world.pool)
      (books : record env write { world with entered := true } = .ok booked)
      (lowered : (booked.held token).toNat ≤ remaining.toNat + amount.toNat)
      (during : Quiet env { booked with held := set booked.held token remaining } paid)
      (leaves : next = { paid with entered := false })

namespace PoolWorld

variable {χ : Type} {env : PoolEnv χ} {tokenCall : TokenCall χ} {world next : PoolWorld χ}

theorem depositReceived_happens {account token : Address} {amount : U256}
    (quiet : ∀ world, world.entered = true → Quiet env world (tokenCall.during world))
    (ok : depositReceived env tokenCall account token amount world = .ok next) :
    Happens env world next := by
  obtain ⟨_, booked, body, leaves⟩ := nonReentrant_ok ok
  simp only [receive, bind_eq_ok, require_eq_ok, checkedSub_eq_ok, pure_eq_ok] at body
  obtain ⟨_, _, ⟨received, inside⟩, arrives, books⟩ := body
  obtain ⟨_, _, _, _, _, _, difference, arrived, _, _, same⟩ := arrives
  obtain ⟨rfl, rfl⟩ := Prod.mk.inj same
  exact .deposits (quiet _ rfl) arrived books leaves

theorem recordAndPay_happens {write : PoolWrite χ} {account token : Address} {amount : U256}
    (quiet : ∀ world, world.entered = true → Quiet env world (tokenCall.during world))
    (ok : recordAndPay env tokenCall write token amount world = .ok next)
    (effect : write.effect = .take account token amount)
    (permitted : write.Permitted world.pool) : Happens env world next := by
  obtain ⟨_, paid, body, leaves⟩ := nonReentrant_ok ok
  simp only [safeTransfer, bind_eq_ok, require_eq_ok, pure_eq_ok] at body
  obtain ⟨booked, books, _, _, rfl⟩ := body
  have entered : booked.entered = true := by
    obtain ⟨pool, _, rfl⟩ := record_ok books
    rfl
  refine .pays effect permitted books ?_ (quiet _ entered) leaves
  have bound := (booked.held token).isLt
  rw [BitVec.toNat_ofNat, Nat.mod_eq_of_lt (by omega)]
  omega

theorem exec_happens {ctx : Ctx χ} {call : PoolCall}
    (quiet : ∀ world, world.entered = true → Quiet env world (tokenCall.during world))
    (ok : exec env ctx tokenCall call world = .ok next) : Happens env world next := by
  cases call with
  | depositFor account token amount =>
      simp only [exec, depositFor, bind_eq_ok] at ok
      obtain ⟨_, _, done⟩ := ok
      exact depositReceived_happens quiet done
  | credit account token amount requestHash kind =>
      simp only [exec, credit, bind_eq_ok] at ok
      obtain ⟨_, _, _, _, done⟩ := ok
      exact depositReceived_happens quiet done
  | debit draw authorization =>
      simp only [exec, debit, Pool.onlyRole, Pool.whenNotPaused, bind_eq_ok,
        require_eq_ok] at ok
      obtain ⟨_, role, _, notPaused, done⟩ := ok
      exact recordAndPay_happens quiet done rfl ⟨role, notPaused⟩
  | withdraw token amount recipient =>
      simp only [exec, withdraw, Pool.onlyRole, bind_eq_ok, require_eq_ok] at ok
      obtain ⟨_, role, done⟩ := ok
      exact recordAndPay_happens quiet done rfl role
  | withdrawSigned withdrawal signature =>
      exact recordAndPay_happens quiet ok rfl trivial
  | pause | unpause =>
      simp only [exec, setPaused, bind_eq_ok] at ok
      obtain ⟨_, _, done⟩ := ok
      exact .quiet (record_quiet done rfl trivial)
  | _ => exact .quiet (record_quiet ok rfl trivial)

end PoolWorld

variable {χ : Type} {env : PoolEnv χ} {world next : PoolWorld χ}

theorem PoolEvent.step_happens {event : PoolEvent χ}
    (ok : event.step env world = .ok next) : Happens env world next := by
  cases event with
  | deliver token amount =>
      simp only [PoolEvent.step] at ok
      exact .quiet (deliver_quiet ok)
  | call ctx request succeeds moved during =>
      simp only [PoolEvent.step] at ok
      apply exec_happens _ ok
      intro inner entered
      exact PoolEvent.runAll_quiet during entered

/-! ## Calls on a token that moves exactly what it is asked to -/

/-- A draw that goes through has been booked. -/
theorem PoolEvent.debit_ok {ctx : Ctx χ} {draw : DrawRequest} {authorization : Bytes}
    {moved : ℕ}
    (ok : PoolEvent.step env (.call ctx (.debit draw authorization) true moved []) world =
      .ok next) :
    Pool.Debits env ctx draw authorization world.pool next.pool := by
  simp only [PoolEvent.step, exec, debit, bind_eq_ok] at ok
  obtain ⟨_, _, _, _, done⟩ := ok
  obtain ⟨_, paid, body, rfl⟩ := nonReentrant_ok done
  simp only [safeTransfer, bind_eq_ok, pure_eq_ok, PoolEvent.runAll] at body
  obtain ⟨booked, books, _, _, rfl⟩ := body
  obtain ⟨pool, written, rfl⟩ := record_ok books
  exact Pool.bookDebit_ok written

/-- A credit whose amount arrives in full is booked in full. -/
theorem PoolEvent.credit_ok {ctx : Ctx χ} {account token : Address} {amount : U256}
    {requestHash : Bytes32} {kind : DrawLegKind}
    (ok : PoolEvent.step env (.call ctx (.credit account token amount requestHash kind) true 0
      [.deliver token amount.toNat]) world = .ok next) :
    world.pool.deposit account token amount = .ok next.pool := by
  simp only [PoolEvent.step, exec, credit, bind_eq_ok] at ok
  obtain ⟨_, _, _, _, done⟩ := ok
  obtain ⟨_, booked, body, rfl⟩ := nonReentrant_ok done
  simp only [receive, Pool.requireAmount, bind_eq_ok, require_eq_ok, checkedSub_eq_ok,
    pure_eq_ok] at body
  obtain ⟨_, _, ⟨received, inside⟩, arrives, books⟩ := body
  obtain ⟨_, _, _, _, _, _, difference, arrived, _, nonzero, same⟩ := arrives
  obtain ⟨rfl, rfl⟩ := Prod.mk.inj same
  obtain ⟨pool, written, rfl⟩ := record_ok books
  simp only [PoolEvent.runAll, PoolEvent.step] at arrived written
  cases outcome : PoolWorld.deliver token amount.toNat { world with entered := true } with
  | error error =>
      -- nothing arrived, which the pool does not accept
      simp only [outcome] at arrived
      exact absurd (BitVec.eq_of_toNat_eq (Nat.left_eq_add.mp arrived)) nonzero
  | ok delivered =>
      simp only [outcome] at arrived written
      simp only [PoolWorld.deliver, bind_eq_ok, require_eq_ok, pure_eq_ok] at outcome
      obtain ⟨_, fits, rfl⟩ := outcome
      simp only [set_apply, if_true, BitVec.toNat_ofNat, Nat.mod_eq_of_lt fits] at arrived
      obtain rfl : amount = difference :=
        BitVec.eq_of_toNat_eq (Nat.add_left_cancel arrived)
      exact written

/-- The storage changes by recorded writes only. -/
theorem PoolWorld.Happens.records (happens : Happens env world next) :
    Records env world next := by
  cases happens with
  | quiet quiet => exact quiet.records
  | deposits during arrived books leaves =>
      subst leaves
      have opened : Records env world { world with entered := true } :=
        Records.unchanged rfl rfl
      have booked := record_records books trivial
      exact (opened.trans (during.records.trans booked)).trans (Records.unchanged rfl rfl)
  | pays effect permitted books lowered during leaves =>
      subst leaves
      have opened : Records env world { world with entered := true } :=
        Records.unchanged rfl rfl
      have booked := record_records books permitted
      have transferred := Records.trans (Records.unchanged rfl rfl) during.records
      exact (opened.trans (booked.trans transferred)).trans (Records.unchanged rfl rfl)

end RelaySettlement
