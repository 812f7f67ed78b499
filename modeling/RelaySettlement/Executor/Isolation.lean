import RelaySettlement.Executor.Settlement

/-!
# Order isolation

The executor hands its whole balance of the input token to the resolver and
withdraws its whole balance of the output token, whatever those balances stem from.
An execution works with the tokens of its own order alone when the executor holds
none of the two tokens beforehand; nothing in the executor establishes that, and a
resolver that returns unspent input breaks it for the next order.
-/

open Evm

namespace RelaySettlement

variable {χ : Type} {env : ExecutorEnv χ}

namespace Executor

/-- Before the execution the executor holds none of the request's tokens, and no fee
that is still to be charged pays the executor itself. -/
def StartsEmpty (env : ExecutorEnv χ) (world : ExecutorWorld) (call : ExecuteCall χ) : Prop :=
  world.hub.balanceOf env.self (tokenIn env call.request) = 0 ∧
    world.hub.balanceOf env.self (tokenOut env call.request) = 0 ∧
    (world.executor.feesChargedByOrderAddress call.request.orderAddress = true ∨
      feesTo env.self call.request.fees = 0)

/-- What an execution charges in fees. -/
def chargedFees (call : ExecuteCall χ) (settlement : Settlement) : ℕ :=
  if settlement.feesCharged then feesTotal call.request.fees else 0

/-- The execution works with its own order's tokens only: the resolver gets what was
pulled from the order address less the fees charged, and since the executor holds none
of the output token when the resolver starts, everything withdrawn was delivered during
the resolver's run. -/
structure Isolated (env : ExecutorEnv χ) (call : ExecuteCall χ) (before : ExecutorWorld)
    (settlement : Settlement) : Prop where
  input : settlement.netInput.toNat + chargedFees call settlement =
    (before.hub.balanceOf call.request.orderAddress (tokenIn env call.request)).toNat
  nothingKept : settlement.handed.hub.balanceOf env.self (tokenOut env call.request) = 0
  output : settlement.withdrawAmount =
    settlement.resolved.hub.balanceOf env.self (tokenOut env call.request)

variable {call : ExecuteCall χ} {before : ExecutorWorld} {settlement : Settlement}

/-- Charging fees takes exactly the fees from the executor and leaves its other tokens
alone. -/
theorem Settles.charged_self (settles : Settles env call before settlement)
    (empty : StartsEmpty env before call) (id : U256) :
    (settlement.charged.hub.balanceOf env.self id).toNat +
        (if tokenIn env call.request = id then chargedFees call settlement else 0) =
      (settlement.pulled.hub.balanceOf env.self id).toNat := by
  have chargedCase := settles.charged
  split at chargedCase
  next already =>
    simp [chargedFees, chargedCase.1, chargedCase.2]
  next notYet =>
    obtain ⟨isCharged, paid⟩ := chargedCase
    have noneToSelf := empty.2.2.resolve_left notYet
    have balance := paid env.self id
    simpa [chargedFees, isCharged, noneToSelf] using balance

/-- An execution that starts empty is isolated. -/
theorem Settles.isolated (settles : Settles env call before settlement)
    (empty : StartsEmpty env before call) : Isolated env call before settlement := by
  -- an execution of the executor's own balance would find nothing to pull
  have notSelf : call.request.orderAddress ≠ env.self := by
    intro isSelf
    apply settles.nonempty
    rw [settles.orderBalance, isSelf]
    exact empty.1
  have pulled := settles.pulled env.self (tokenIn env call.request)
  have chargedIn := settles.charged_self empty (tokenIn env call.request)
  simp only [notSelf, false_and, if_false, and_self, if_true, empty.1] at pulled chargedIn
  refine ⟨?_, ?_, settles.withdrawAmount⟩
  · rw [settles.netInput, chargedIn, ← settles.orderBalance]
    simpa using pulled
  · apply BitVec.eq_of_toNat_eq
    change _ = 0
    have handed := settles.handed env.self (tokenOut env call.request)
    by_cases sameToken : tokenIn env call.request = tokenOut env call.request
    · rw [← sameToken] at handed ⊢
      simp only [and_self, if_true, settles.notSelf, false_and, if_false,
        settles.netInput] at handed
      omega
    · have pulledOut := settles.pulled env.self (tokenOut env call.request)
      have chargedOut := settles.charged_self empty (tokenOut env call.request)
      simp only [sameToken, and_false, if_false, Nat.add_zero, empty.2.1]
        at handed pulledOut chargedOut
      rw [handed, chargedOut, pulledOut]
      rfl

end Executor

/-- Every execution of a run starts empty. -/
def ExecutorWorld.ExecutionsStartEmpty (env : ExecutorEnv χ) (world : ExecutorWorld) :
    ExecutorSystemCall χ → Prop
  | .execute call => Executor.StartsEmpty env world call
  | .activity _ => True

/-- In every run whose executions all start empty, every execution hands to its
resolver what it pulled from its own order less the fees it charged, and withdraws only
what arrived while its own resolver ran. -/
theorem executor_isolation (env : ExecutorEnv χ) (start : ExecutorWorld)
    (calls : List (ExecutorSystemCall χ))
    (along : Along (ExecutorWorld.step env) (ExecutorWorld.ExecutionsStartEmpty env) calls
      start) :
    ∀ success ∈ trace (ExecutorWorld.step env) calls start, ∀ call,
      success.call = .execute call →
      ∃ settlement, Executor.execute env call success.pre = .ok settlement ∧
        settlement.after = success.post ∧
        Executor.Isolated env call success.pre settlement := by
  intro success member call isExecute
  obtain ⟨_, empty, ok⟩ := mem_trace_along (ExecutorWorld.ExecutionsStartEmpty env)
    (fun _ => True) (fun _ _ _ _ _ _ => trivial) calls start along trivial success member
  rw [isExecute] at empty ok
  obtain ⟨settlement, executed, isAfter, settles⟩ := ExecutorWorld.step_execute ok
  exact ⟨settlement, executed, isAfter, settles.isolated empty⟩

namespace SampleOrders

/-- The first order's resolver sends 10 of its input back to the executor. -/
def first : ExecuteCall Unit := order 201 [8] [] [10, 20]

/-- The first order with a resolver that keeps its whole input. -/
def spending : ExecuteCall Unit := order 201 [8] [] [0, 20]

def second : ExecuteCall Unit := order 202 [8] [] [0, 20]

end SampleOrders

open SampleOrders in
theorem executor_isolation_sample :
    ∃ settlement settlement',
      Executor.execute surroundings spending start = .ok settlement ∧
      Executor.Isolated surroundings spending start settlement ∧
      Executor.execute surroundings second settlement.after = .ok settlement' ∧
      Executor.Isolated surroundings second settlement.after settlement' := by
  have computed : (do
      let settlement ← Executor.execute surroundings spending start
      let _ ← Executor.execute surroundings second settlement.after
      return (settlement.after.hub.balanceOf 90 (Executor.tokenIn surroundings second.request),
        settlement.after.hub.balanceOf 90 (Executor.tokenOut surroundings second.request))) =
      .ok (0, 0) := by
    decide +kernel
  simp only [bind_eq_ok, pure_eq_ok, Prod.mk.injEq] at computed
  obtain ⟨next, executed, last, executed', noInput, noOutput⟩ := computed
  have ok : ExecutorWorld.step surroundings (.execute spending) start = .ok next.after := by
    simp [ExecutorWorld.step, bubble, executed]
  have ok' : ExecutorWorld.step surroundings (.execute second) next.after =
      .ok last.after := by
    simp [ExecutorWorld.step, bubble, executed']
  have along : Along (ExecutorWorld.step surroundings)
      (ExecutorWorld.ExecutionsStartEmpty surroundings) [.execute spending, .execute second]
      start := by
    refine ⟨⟨by decide +kernel, by decide +kernel, .inr rfl⟩, ?_, trivial⟩
    rw [attempt_ok ok]
    exact ⟨noInput, noOutput, .inr rfl⟩
  have traced : trace (ExecutorWorld.step surroundings)
      [.execute spending, .execute second] start =
        [⟨start, .execute spending, next.after⟩,
          ⟨next.after, .execute second, last.after⟩] := by
    rw [trace_ok ok, trace_ok ok', trace]
  obtain ⟨settlement, isSettlement, isNext, isolated⟩ :=
    executor_isolation surroundings start _ along ⟨start, _, next.after⟩ (by simp [traced])
      spending rfl
  obtain ⟨settlement', isSettlement', _, isolated'⟩ :=
    executor_isolation surroundings start _ along ⟨next.after, _, last.after⟩
      (by simp [traced]) second rfl
  simp only at isNext isSettlement' isolated'
  rw [← isNext] at isSettlement' isolated'
  exact ⟨settlement, settlement', isSettlement, isolated, isSettlement', isolated'⟩

/-- Starting with an executor that holds nothing, the unspent input of a first order is
handed to the resolver of a second one. -/
theorem executor_isolation_fails :
    (∀ id, SampleOrders.start.hub.balanceOf SampleOrders.surroundings.self id = 0) ∧
      ∃ first second,
        Executor.execute SampleOrders.surroundings SampleOrders.first SampleOrders.start =
          .ok first ∧
        Executor.execute SampleOrders.surroundings SampleOrders.second first.after =
          .ok second ∧
        second.netInput.toNat + Executor.chargedFees SampleOrders.second second ≠
          (first.after.hub.balanceOf SampleOrders.second.request.orderAddress
            (Executor.tokenIn SampleOrders.surroundings
              SampleOrders.second.request)).toNat := by
  refine ⟨fun id => rfl, ?_⟩
  have computed :
      (do
        let first ← Executor.execute SampleOrders.surroundings SampleOrders.first
          SampleOrders.start
        let second ← Executor.execute SampleOrders.surroundings SampleOrders.second
          first.after
        return (second.netInput.toNat + Executor.chargedFees SampleOrders.second second,
          (first.after.hub.balanceOf SampleOrders.second.request.orderAddress
            (Executor.tokenIn SampleOrders.surroundings
              SampleOrders.second.request)).toNat)) =
        (.ok (40, 30) : Except Executor.Error (ℕ × ℕ)) := by
    decide +kernel
  simp only [bind_eq_ok, pure_eq_ok, Prod.mk.injEq] at computed
  obtain ⟨first, executed, second, executed', handed, pulled⟩ := computed
  refine ⟨first, second, executed, executed', ?_⟩
  rw [handed, pulled]
  decide

end RelaySettlement
