import RelaySettlement.Executor.Settlement

/-!
# Settlement over whole runs

Whatever resolvers do, an oracle authorisation is used once and in time, an order
is charged once, a withdrawal is exactly what the executor holds when the resolver
returns, and the record of which order a withdrawal belongs to stays.
-/

open Evm

namespace RelaySettlement

variable {χ : Type} {env : ExecutorEnv χ}

namespace Executor

variable {call : ExecuteCall χ} {before : ExecutorWorld} {settlement : Settlement}

/-- The steps before the resolver do not touch the alias's balance of the output
token: either the two tokens differ, or none of the pull, the fees to be charged and
the hand-over involves the alias. -/
def LeavesAlias (env : ExecutorEnv χ) (call : ExecuteCall χ) (before : ExecutorWorld) :
    Prop :=
  tokenIn env call.request ≠ tokenOut env call.request ∨
    call.request.orderAddress ≠ spenderAlias env ∧
      (before.executor.feesChargedByOrderAddress call.request.orderAddress = true ∨
        ∀ fee ∈ call.request.fees, fee.recipient ≠ spenderAlias env) ∧
      call.callResolver ≠ spenderAlias env

/-- What an execution withdraws. -/
structure Withdraws (env : ExecutorEnv χ) (call : ExecuteCall χ) (before : ExecutorWorld)
    (settlement : Settlement) : Prop where
  amount : settlement.withdrawAmount =
    settlement.resolved.hub.balanceOf env.self (tokenOut env call.request)
  minimum : call.request.outAmountMinimum ≤ settlement.withdrawAmount
  burned : ∃ timestamp, settlement.funded.hub.burn ⟨env.allocator.self, timestamp⟩
    (spenderAlias env) (tokenOut env call.request) settlement.withdrawAmount =
      .ok settlement.after.hub
  executorEmpty : settlement.after.hub.balanceOf env.self (tokenOut env call.request) = 0
  aliasNeutral : spenderAlias env ≠ env.self →
    settlement.after.hub.balanceOf (spenderAlias env) (tokenOut env call.request) =
      settlement.resolved.hub.balanceOf (spenderAlias env) (tokenOut env call.request)
  aliasBefore : spenderAlias env ≠ env.self → LeavesAlias env call before →
    settlement.handed.hub.balanceOf (spenderAlias env) (tokenOut env call.request) =
      before.hub.balanceOf (spenderAlias env) (tokenOut env call.request)

theorem feesTo_eq_zero {account : Address} {fees : List Fee}
    (others : ∀ fee ∈ fees, fee.recipient ≠ account) : feesTo account fees = 0 := by
  induction fees with
  | nil => rfl
  | cons fee fees ih =>
      simp only [List.mem_cons, forall_eq_or_imp] at others
      have rest := ih others.2
      simp only [feesTo, List.map_cons, List.sum_cons] at rest ⊢
      simp [others.1, rest]

/-- Up to the resolver the alias's balance of the output token stays as it was. -/
theorem Settles.aliasBefore (settles : Settles env call before settlement)
    (different : spenderAlias env ≠ env.self) (leaves : LeavesAlias env call before) :
    settlement.handed.hub.balanceOf (spenderAlias env) (tokenOut env call.request) =
      before.hub.balanceOf (spenderAlias env) (tokenOut env call.request) := by
  apply BitVec.eq_of_toNat_eq
  have pulled := settles.pulled (spenderAlias env) (tokenOut env call.request)
  have handed := settles.handed (spenderAlias env) (tokenOut env call.request)
  have charged :
      (settlement.charged.hub.balanceOf (spenderAlias env) (tokenOut env call.request)).toNat =
        (settlement.pulled.hub.balanceOf (spenderAlias env)
          (tokenOut env call.request)).toNat := by
    have chargedCase := settles.charged
    split at chargedCase
    · rw [chargedCase.2]
    next notYet =>
      have paid := chargedCase.2 (spenderAlias env) (tokenOut env call.request)
      simp only [different.symm, false_and, if_false, Nat.add_zero] at paid
      rcases leaves with tokens | ⟨_, already | recipients, _⟩
      · simpa [tokens] using paid
      · exact absurd already notYet
      · simpa [feesTo_eq_zero recipients] using paid
  rcases leaves with tokens | ⟨notOrder, _, notResolver⟩
  · simp only [tokens, and_false, if_false, Nat.add_zero] at pulled handed
    omega
  · simp only [notOrder, notResolver, different.symm, false_and, if_false,
      Nat.add_zero] at pulled handed
    omega

theorem Settles.withdraws (settles : Settles env call before settlement) :
    Withdraws env call before settlement := by
  obtain ⟨ctx, accepts⟩ := settles.accepted
  have burned : settlement.funded.hub.burn ⟨env.allocator.self, ctx.timestamp⟩
      (spenderAlias env) (tokenOut env call.request) settlement.withdrawAmount =
        .ok settlement.after.hub := accepts.burned
  have burnEffect := (Hub.burn_ok burned).1
  refine ⟨settles.withdrawAmount, settles.minimum, ⟨_, burned⟩, ?_, ?_, settles.aliasBefore⟩
  · apply BitVec.eq_of_toNat_eq
    have funded := settles.funded env.self (tokenOut env call.request)
    have burnt := burnEffect.burn_balance env.self (tokenOut env call.request)
    rw [← settles.withdrawAmount] at funded
    simp only [and_self, if_true, and_true] at funded burnt
    -- the alias is burned from, so it does not matter whether it is the executor
    change _ = 0
    split_ifs at funded burnt <;> omega
  · intro different
    apply BitVec.eq_of_toNat_eq
    have funded := settles.funded (spenderAlias env) (tokenOut env call.request)
    have burnt := burnEffect.burn_balance (spenderAlias env) (tokenOut env call.request)
    simp only [and_self, if_true, different.symm, false_and, if_false] at funded burnt
    omega

end Executor

/-! ## One call of the system -/

namespace ExecutorSystemCall

/-- The digest a call of `execute` uses up. -/
def digest (env : ExecutorEnv χ) : ExecutorSystemCall χ → Option Bytes32
  | .execute call => some (Executor.requestDigest env call.request)
  | .activity _ => none

/-- The order address a call of `execute` charges fees for: one that was not charged
before. -/
def chargedOrder (world : ExecutorWorld) : ExecutorSystemCall χ → Option Address
  | .execute call =>
      if world.executor.feesChargedByOrderAddress call.request.orderAddress then none
      else some call.request.orderAddress
  | .activity _ => none

end ExecutorSystemCall

namespace ExecutorWorld

/-- Whether an authorisation is used up. -/
def Used (world : ExecutorWorld) (digest : Bytes32) : Prop :=
  world.executor.usedRequests digest = true

/-- Whether an order address was charged. -/
def Charged (world : ExecutorWorld) (orderAddress : Address) : Prop :=
  world.executor.feesChargedByOrderAddress orderAddress = true

/-- A withdrawal is accepted and recorded for an order address. -/
def Records (hash : Bytes32) (orderAddress : Address) (world : ExecutorWorld) : Prop :=
  world.toAllocatorWorld.Processed hash ∧
    world.executor.orderAddressByWithdrawRequestHash hash = orderAddress

variable {call : ExecuteCall χ} {systemCall : ExecutorSystemCall χ}
variable {before after : ExecutorWorld}

theorem step_registers_digest (ok : step env systemCall before = .ok after) :
    Registers Used before after (systemCall.digest env).toList := by
  cases systemCall with
  | execute call =>
      obtain ⟨settlement, _, rfl, settles⟩ := step_execute ok
      apply Registers.flag fun (world : ExecutorWorld) digest =>
        world.executor.usedRequests digest
      · exact settles.unused
      · intro other
        rw [settles.usedRequests, set_apply]
  | activity activity =>
      apply Registers.unchanged
      funext digest
      simp only [Used, (step_activity ok).usedRequests]

theorem step_registers_order (ok : step env systemCall before = .ok after) :
    Registers Charged before after (systemCall.chargedOrder before).toList := by
  cases systemCall with
  | execute call =>
      obtain ⟨settlement, _, rfl, settles⟩ := step_execute ok
      by_cases already : before.executor.feesChargedByOrderAddress call.request.orderAddress
      · simp only [ExecutorSystemCall.chargedOrder, already, if_true]
        apply Registers.unchanged
        funext account
        simp only [Charged, settles.feesCharged, eq_iff_iff, or_iff_left_iff_imp]
        rintro rfl
        exact already
      · simp only [ExecutorSystemCall.chargedOrder, already, Bool.false_eq_true, if_false]
        exact Registers.single already settles.feesCharged
  | activity activity =>
      apply Registers.unchanged
      funext account
      simp only [Charged, (step_activity ok).feesCharged]

/-- No later call overwrites the order address recorded for a withdrawal. -/
theorem step_records {hash : Bytes32} {orderAddress : Address}
    (ok : step env systemCall before = .ok after)
    (records : Records hash orderAddress before) : Records hash orderAddress after := by
  cases systemCall with
  | execute call =>
      obtain ⟨settlement, _, rfl, settles⟩ := step_execute ok
      obtain ⟨ctx, accepts⟩ := settles.accepted
      obtain ⟨payload, _, stored⟩ := accepts.payload
      have processed := settles.processed hash records.1
      -- the allocator only accepts a hash without a payload
      have different : hash ≠ settlement.withdrawRequestHash := by
        rw [settles.hash]
        rintro rfl
        exact processed accepts.unprocessed
      constructor
      · rw [AllocatorWorld.Processed, stored, set_apply, ← settles.hash, if_neg different]
        exact processed
      · rw [settles.orderAddress, set_apply, if_neg different]
        exact records.2
  | activity activity =>
      have keeps := step_activity ok
      exact ⟨keeps.processed hash records.1, by rw [keeps.orderAddress]; exact records.2⟩

/-- An execution records the order address of its withdrawal. -/
theorem settles_records {settlement : Executor.Settlement}
    (settles : Executor.Settles env call before settlement) :
    Records settlement.withdrawRequestHash call.request.orderAddress settlement.after := by
  obtain ⟨ctx, accepts⟩ := settles.accepted
  obtain ⟨payload, nonempty, stored⟩ := accepts.payload
  constructor
  · rw [AllocatorWorld.Processed, stored, set_apply, ← settles.hash, if_pos rfl]
    exact nonempty
  · rw [settles.orderAddress, set_apply, if_pos rfl]

end ExecutorWorld

/-! ## Whole runs -/

/-- Over every run of executions, with any requests, resolvers and signatures and with
any activity in between: (1) an authorisation digest is used by at most one execution,
and not after its deadline; (2) an order address is charged fees by at most one
execution, and no fee moves in the others; (3) every execution burns, from the
executor's alias and through the allocator, exactly what the executor holds of the
output token when the resolver returns, which is at least the signed minimum, leaves the
executor without output tokens and the alias as it was when the resolver returned; up to
the resolver the alias is as it was before unless the order, a fee or the resolver itself
is the alias; (4) the order address recorded for a withdrawal is still recorded at the
end; and (5) a reverting call changes nothing. -/
theorem executor_settlement (env : ExecutorEnv χ) (start : ExecutorWorld)
    (calls : List (ExecutorSystemCall χ)) :
    let step := ExecutorWorld.step env
    let final := run step calls start
    let successes := trace step calls start
    (successes.filterMap fun success => success.call.digest env).Nodup ∧
      (successes.filterMap fun success => success.call.chargedOrder success.pre).Nodup ∧
      (∀ success ∈ successes, ∀ call, success.call = .execute call →
        ∃ settlement, Executor.execute env call success.pre = .ok settlement ∧
          settlement.after = success.post ∧
          call.ctx.timestamp ≤ call.request.deadline ∧
          (success.call.chargedOrder success.pre = none →
            settlement.charged.hub = settlement.pulled.hub) ∧
          Executor.Withdraws env call success.pre settlement ∧
          final.executor.orderAddressByWithdrawRequestHash settlement.withdrawRequestHash =
            call.request.orderAddress) ∧
      ∀ call world error, step call world = .error error → attempt step call world = world := by
  intro step final successes
  refine ⟨?_, ?_, ?_, fun _ _ _ => attempt_error⟩
  · have registered := run_registers step (fun _ _ => True)
      (fun call _ => (call.digest env).toList)
      (fun _ _ _ _ ok => ExecutorWorld.step_registers_digest ok)
      calls start (along_trivial calls start)
    rw [← List.filterMap_eq_flatMap_toList] at registered
    exact registered.nodup
  · have registered := run_registers step (fun _ _ => True)
      (fun call world => (call.chargedOrder world).toList)
      (fun _ _ _ _ ok => ExecutorWorld.step_registers_order ok)
      calls start (along_trivial calls start)
    rw [← List.filterMap_eq_flatMap_toList] at registered
    exact registered.nodup
  · intro success member call isExecute
    have ok := mem_trace member
    rw [isExecute] at ok
    obtain ⟨settlement, executed, isAfter, settles⟩ := ExecutorWorld.step_execute ok
    refine ⟨settlement, executed, isAfter, settles.inTime, ?_, settles.withdraws, ?_⟩
    · intro uncharged
      have chargedCase := settles.charged
      rw [isExecute] at uncharged
      by_cases already :
          success.pre.executor.feesChargedByOrderAddress call.request.orderAddress
      · rw [if_pos already] at chargedCase
        exact chargedCase.2
      · simp [ExecutorSystemCall.chargedOrder, already] at uncharged
    · obtain ⟨later, ends⟩ := mem_trace_later member
      have recorded : ExecutorWorld.Records settlement.withdrawRequestHash
          call.request.orderAddress (run step later success.post) := by
        apply run_invariant _ (fun _ _ _ records ok => ExecutorWorld.step_records ok records)
        rw [← isAfter]
        exact ExecutorWorld.settles_records settles
      rw [ends] at recorded
      exact recorded.2

/-- An order that asks for its own input token and pays a fee to the executor's alias. -/
def SampleOrders.aliasFee : ExecuteCall Unit :=
  order 201 [7] [⟨Executor.spenderAlias surroundings, 10⟩] [40, 0]

open SampleOrders in
/-- The alias may end up with more output tokens than before although the resolver sent
it none. -/
theorem executor_alias_gains_fee :
    ∃ settlement,
      Executor.execute surroundings aliasFee start = .ok settlement ∧
      settlement.resolved.hub.balanceOf (Executor.spenderAlias surroundings)
          (Executor.tokenOut surroundings aliasFee.request) =
        settlement.handed.hub.balanceOf (Executor.spenderAlias surroundings)
          (Executor.tokenOut surroundings aliasFee.request) ∧
      settlement.after.hub.balanceOf (Executor.spenderAlias surroundings)
          (Executor.tokenOut surroundings aliasFee.request) ≠
        start.hub.balanceOf (Executor.spenderAlias surroundings)
          (Executor.tokenOut surroundings aliasFee.request) := by
  have computed :
      (fun settlement : Executor.Settlement =>
        let aliasBalance (world : ExecutorWorld) :=
          world.hub.balanceOf (Executor.spenderAlias surroundings)
            (Executor.tokenOut surroundings aliasFee.request)
        (aliasBalance settlement.handed, aliasBalance settlement.resolved,
          aliasBalance settlement.after, aliasBalance start)) <$>
        Executor.execute surroundings aliasFee start = .ok (10, 10, 10, 0) := by
    decide +kernel
  simp only [map_eq_ok, Prod.mk.injEq] at computed
  obtain ⟨settlement, executed, handed, resolved, after, before⟩ := computed
  refine ⟨settlement, executed, ?_, ?_⟩
  · rw [resolved, handed]
  · rw [after, before]
    decide

end RelaySettlement
