import RelaySettlement.Executor.Core
import RelaySettlement.Allocator.Requests

/-!
# What an execution does

Each step of `execute` has its own lemma, and `Settles` collects them: the amounts
that moved between the worlds of a settlement, and what the execution leaves in the
storage of the executor and of the allocator.
-/

open Evm

namespace RelaySettlement

variable {χ : Type} {env : ExecutorEnv χ}

/-! ## Activity around the executor -/

namespace Activity

variable {activity : Activity χ} {before after : ExecutorWorld}

/-- The part of the executor's storage that only executions write. -/
structure KeepsExecutor (before after : ExecutorWorld) : Prop where
  usedRequests : after.executor.usedRequests = before.executor.usedRequests
  feesCharged : after.executor.feesChargedByOrderAddress =
    before.executor.feesChargedByOrderAddress
  orderAddress : after.executor.orderAddressByWithdrawRequestHash =
    before.executor.orderAddressByWithdrawRequestHash
  processed : ∀ hash, before.toAllocatorWorld.Processed hash →
    after.toAllocatorWorld.Processed hash

theorem KeepsExecutor.refl (world : ExecutorWorld) : KeepsExecutor world world :=
  ⟨rfl, rfl, rfl, fun _ processed => processed⟩

theorem KeepsExecutor.trans {middle : ExecutorWorld} (first : KeepsExecutor before middle)
    (second : KeepsExecutor middle after) : KeepsExecutor before after where
  usedRequests := second.usedRequests.trans first.usedRequests
  feesCharged := second.feesCharged.trans first.feesCharged
  orderAddress := second.orderAddress.trans first.orderAddress
  processed := fun hash processed => second.processed hash (first.processed hash processed)

/-- Activity leaves the executor's records alone, and no payload disappears. -/
theorem step_keeps (ok : activity.step env before = .ok after) :
    KeepsExecutor before after := by
  cases activity with
  | settlement call =>
      simp only [step, bind_eq_ok, pure_eq_ok] at ok
      obtain ⟨settled, ok, rfl⟩ := ok
      refine ⟨rfl, rfl, rfl, ?_⟩
      intro hash processed
      have kept := AllocatorWorld.step_keeps_processed processed ok ⟨rfl, rfl⟩
      simpa only [AllocatorWorld.Processed, kept.1] using processed
  | setRole role account granted =>
      simp only [step, pure_eq_ok] at ok
      subst ok
      exact ⟨rfl, rfl, rfl, fun _ processed => processed⟩

theorem run_keeps (env : ExecutorEnv χ) (activities : List (Activity χ)) (world : ExecutorWorld) :
    KeepsExecutor world (run (step env) activities world) :=
  run_invariant (KeepsExecutor world)
    (fun _ _ _ kept ok => kept.trans (step_keeps ok)) activities world (KeepsExecutor.refl world)

end Activity

/-! ## The steps of an execution -/

namespace Executor

variable {ctx : Ctx χ} {world after : ExecutorWorld}

variable {tokenId : U256}

theorem hubTransfer_ok {receiver : Address} {amount : U256}
    (ok : hubTransfer env ctx receiver tokenId amount world = .ok after) :
    ∃ hub, after = { world with hub := hub } ∧
      Hub.Moved env.self receiver tokenId amount world.hub hub := by
  simp only [hubTransfer, bind_eq_ok, bubble_eq_ok, pure_eq_ok] at ok
  obtain ⟨hub, transferred, rfl⟩ := ok
  obtain ⟨_, _, effect⟩ := Hub.transfer_ok transferred
  exact ⟨hub, rfl, effect.moved⟩

theorem pullOrderFunds_ok {orderAddress : Address} {orderBalance : U256}
    (ok : pullOrderFunds env ctx orderAddress tokenId world = .ok (orderBalance, after)) :
    orderBalance = world.hub.balanceOf orderAddress tokenId ∧ orderBalance ≠ 0 ∧
      ∃ hub, after = { world with hub := hub } ∧
        Hub.Moved orderAddress env.self tokenId orderBalance world.hub hub := by
  simp only [pullOrderFunds, bind_eq_ok, require_eq_ok, bubble_eq_ok, pure_eq_ok,
    Prod.mk.injEq] at ok
  obtain ⟨_, nonempty, hub, transferred, rfl, rfl⟩ := ok
  obtain ⟨_, _, _, effect, _⟩ := Hub.transferFrom_ok transferred
  exact ⟨rfl, nonempty, hub, rfl, effect.moved⟩

/-- What a list of fees pays in total. -/
def feesTotal (fees : List Fee) : ℕ := (fees.map fun fee => fee.amount.toNat).sum

/-- What a list of fees pays to one account. -/
def feesTo (account : Address) (fees : List Fee) : ℕ :=
  (fees.map fun fee => if fee.recipient = account then fee.amount.toNat else 0).sum

/-- The balances after a list of fees was paid from one account. -/
def FeesPaid (payer : Address) (tokenId : U256) (fees : List Fee) (before after : Hub) :
    Prop :=
  ∀ account id,
    (after.balanceOf account id).toNat +
        (if payer = account ∧ tokenId = id then feesTotal fees else 0) =
      (before.balanceOf account id).toNat +
        (if tokenId = id then feesTo account fees else 0)

theorem payFees_ok {fees : List Fee} (ok : payFees env ctx tokenId fees world = .ok after) :
    ∃ hub, after = { world with hub := hub } ∧
      FeesPaid env.self tokenId fees world.hub hub := by
  induction fees generalizing world with
  | nil =>
      simp only [payFees, pure_eq_ok] at ok
      refine ⟨_, ok.symm, ?_⟩
      intro account id
      simp [feesTotal, feesTo]
  | cons fee fees ih =>
      simp only [payFees, bind_eq_ok] at ok
      obtain ⟨next, first, rest⟩ := ok
      obtain ⟨hub, rfl, moved⟩ := hubTransfer_ok first
      obtain ⟨hub', rfl, paid⟩ := ih rest
      refine ⟨hub', rfl, ?_⟩
      intro account id
      have here := moved account id
      have later := paid account id
      simp only [feesTotal, feesTo, List.map_cons, List.sum_cons] at later ⊢
      by_cases sameId : tokenId = id
      · simp only [sameId, and_true, if_true] at here later ⊢
        split_ifs at here later ⊢ <;> omega
      · simp only [sameId, and_false, if_false] at here later ⊢
        omega

/-- Charging fees marks the order address, and pays the fees unless it was marked
before. -/
theorem chargeFees_ok {orderAddress : Address} {fees : List Fee} {feesCharged : Bool}
    (ok : chargeFees env ctx orderAddress tokenId fees world = .ok (feesCharged, after)) :
    ∃ hub charged, after = { world with
        hub := hub
        executor := { world.executor with feesChargedByOrderAddress := charged } } ∧
      (∀ account, charged account = true ↔
        world.executor.feesChargedByOrderAddress account = true ∨ account = orderAddress) ∧
      if world.executor.feesChargedByOrderAddress orderAddress then
        feesCharged = false ∧ hub = world.hub
      else
        feesCharged = true ∧ FeesPaid env.self tokenId fees world.hub hub := by
  unfold chargeFees at ok
  by_cases already : world.executor.feesChargedByOrderAddress orderAddress
  · simp only [already, if_true, pure_eq_ok, Prod.mk.injEq] at ok ⊢
    obtain ⟨rfl, rfl⟩ := ok
    refine ⟨_, _, rfl, ?_, rfl, rfl⟩
    intro account
    constructor
    · exact Or.inl
    · rintro (charged | rfl)
      · exact charged
      · exact already
  · simp only [already, Bool.false_eq_true, if_false, bind_eq_ok, pure_eq_ok,
      Prod.mk.injEq] at ok ⊢
    obtain ⟨charged, paid, rfl, rfl⟩ := ok
    obtain ⟨hub, rfl, feesPaid⟩ := payFees_ok paid
    refine ⟨hub, _, rfl, ?_, rfl, feesPaid⟩
    intro account
    simp only [set_apply]
    split <;> simp [*]

theorem handInput_ok {callResolver : Address} {tokenInId netInput : U256}
    (ok : handInput env ctx callResolver tokenInId world = .ok (netInput, after)) :
    netInput = world.hub.balanceOf env.self tokenInId ∧
      ∃ hub, after = { world with hub := hub } ∧
        Hub.Moved env.self callResolver tokenInId netInput world.hub hub := by
  unfold handInput at ok
  by_cases nothing : world.hub.balanceOf env.self tokenInId = 0
  · simp only [nothing, if_true, pure_eq_ok, Prod.mk.injEq] at ok
    obtain ⟨rfl, rfl⟩ := ok
    refine ⟨nothing.symm, _, rfl, ?_⟩
    intro account id
    simp
  · simp only [nothing, if_false, bind_eq_ok, pure_eq_ok, Prod.mk.injEq] at ok
    obtain ⟨next, transferred, rfl, rfl⟩ := ok
    obtain ⟨hub, rfl, moved⟩ := hubTransfer_ok transferred
    exact ⟨rfl, hub, rfl, moved⟩

/-! ## The whole execution -/

/-- What a successful execution did, from the world before it to its settlement. -/
structure Settles (env : ExecutorEnv χ) (call : ExecuteCall χ) (before : ExecutorWorld)
    (settlement : Settlement) : Prop where
  inTime : call.ctx.timestamp ≤ call.request.deadline
  unused : before.executor.usedRequests (requestDigest env call.request) = false
  orderBalance : settlement.orderBalance =
    before.hub.balanceOf call.request.orderAddress (tokenIn env call.request)
  nonempty : settlement.orderBalance ≠ 0
  pulled : Hub.Moved call.request.orderAddress env.self (tokenIn env call.request)
    settlement.orderBalance before.hub settlement.pulled.hub
  charged : if before.executor.feesChargedByOrderAddress call.request.orderAddress then
      settlement.feesCharged = false ∧ settlement.charged.hub = settlement.pulled.hub
    else
      settlement.feesCharged = true ∧ FeesPaid env.self (tokenIn env call.request)
        call.request.fees settlement.pulled.hub settlement.charged.hub
  netInput : settlement.netInput =
    settlement.charged.hub.balanceOf env.self (tokenIn env call.request)
  handed : Hub.Moved env.self call.callResolver (tokenIn env call.request)
    settlement.netInput settlement.charged.hub settlement.handed.hub
  notSelf : call.callResolver ≠ env.self
  resolved : ∃ activities,
    settlement.resolved = run (Activity.step env) activities settlement.handed
  withdrawAmount : settlement.withdrawAmount =
    settlement.resolved.hub.balanceOf env.self (tokenOut env call.request)
  minimum : call.request.outAmountMinimum ≤ settlement.withdrawAmount
  funded : Hub.Moved env.self (spenderAlias env) (tokenOut env call.request)
    settlement.withdrawAmount settlement.resolved.hub settlement.funded.hub
  hash : settlement.withdrawRequestHash = Allocator.withdrawRequestHash env.allocator
    (withdrawRequest env call.request settlement.withdrawAmount)
  accepted : ∃ ctx, Allocator.Accepts env.allocator ctx
    (withdrawRequest env call.request settlement.withdrawAmount)
    settlement.funded.toAllocatorWorld settlement.after.toAllocatorWorld
  processed : ∀ hash, before.toAllocatorWorld.Processed hash →
    settlement.funded.toAllocatorWorld.Processed hash
  usedRequests : settlement.after.executor.usedRequests =
    set before.executor.usedRequests (requestDigest env call.request) true
  feesCharged : ∀ account,
    settlement.after.executor.feesChargedByOrderAddress account = true ↔
      before.executor.feesChargedByOrderAddress account = true ∨
        account = call.request.orderAddress
  orderAddress : settlement.after.executor.orderAddressByWithdrawRequestHash =
    set before.executor.orderAddressByWithdrawRequestHash settlement.withdrawRequestHash
      call.request.orderAddress

theorem submitWithdrawRequest_ok {params : WithdrawRequest} {hash : Bytes32}
    (ok : submitWithdrawRequest env ctx params world = .ok (hash, after)) :
    hash = Allocator.withdrawRequestHash env.allocator params ∧
      ∃ settled, after = { world with toAllocatorWorld := settled } ∧
        Allocator.Accepts env.allocator { ctx with sender := env.self } params
          world.toAllocatorWorld settled := by
  simp only [submitWithdrawRequest, bind_eq_ok, bubble_eq_ok, pure_eq_ok,
    Prod.mk.injEq] at ok
  obtain ⟨⟨hash', settled⟩, submitted, rfl, rfl⟩ := ok
  obtain ⟨isHash, accepts⟩ := Allocator.submit_ok submitted
  exact ⟨isHash, settled, rfl, accepts⟩

theorem execute_ok {call : ExecuteCall χ} {before : ExecutorWorld} {settlement : Settlement}
    (ok : execute env call before = .ok settlement) : Settles env call before settlement := by
  simp only [execute, bind_eq_ok, require_eq_ok, pure_eq_ok] at ok
  obtain ⟨validated, validate, ⟨orderBalance, pulled⟩, pull, ⟨feesCharged, charged⟩, charge,
    ⟨netInput, handed⟩, hand, ⟨rest, resolved⟩, resolve, _, minimum, funded, fund,
    ⟨hash, submitted⟩, submit, rfl⟩ := ok
  simp only [validateRequest, bind_eq_ok, require_eq_ok, pure_eq_ok] at validate
  obtain ⟨_, _, _, inTime, _, unused, _, _, rfl⟩ := validate
  obtain ⟨isBalance, nonempty, hub, rfl, pulledMove⟩ := pullOrderFunds_ok pull
  obtain ⟨feesHub, marks, rfl, marked, chargedCase⟩ := chargeFees_ok charge
  obtain ⟨isNet, handedHub, rfl, handedMove⟩ := handInput_ok hand
  simp only [runResolver, bind_eq_ok, require_eq_ok, orRevert_eq_ok, pure_eq_ok,
    Prod.mk.injEq] at resolve
  obtain ⟨_, notSelf, ⟨activities, rest'⟩, _, rfl, rfl⟩ := resolve
  have kept := Activity.run_keeps env activities
    ({ before with
      hub := handedHub
      executor := { before.executor with
        usedRequests :=
          set before.executor.usedRequests (requestDigest env call.request) true
        feesChargedByOrderAddress := marks } } : ExecutorWorld)
  obtain ⟨fundedHub, rfl, fundedMove⟩ := hubTransfer_ok fund
  obtain ⟨isHash, settled, rfl, accepts⟩ := submitWithdrawRequest_ok submit
  exact {
    inTime := inTime
    unused := unused
    orderBalance := isBalance
    nonempty := nonempty
    pulled := pulledMove
    charged := chargedCase
    netInput := isNet
    handed := handedMove
    notSelf := notSelf
    resolved := ⟨activities, rfl⟩
    withdrawAmount := rfl
    minimum := minimum
    funded := fundedMove
    hash := isHash
    accepted := ⟨_, accepts⟩
    processed := kept.processed
    usedRequests := kept.usedRequests
    feesCharged := by
      intro account
      exact (iff_of_eq (congrArg (· account = true) kept.feesCharged)).trans (marked account)
    orderAddress := by
      exact congrArg (fun records => set records hash call.request.orderAddress)
        kept.orderAddress }

end Executor

/-! ## One call of the system -/

namespace ExecutorWorld

variable {call : ExecuteCall χ} {before after : ExecutorWorld}

theorem step_execute (ok : step env (.execute call) before = .ok after) :
    ∃ settlement, Executor.execute env call before = .ok settlement ∧
      settlement.after = after ∧ Executor.Settles env call before settlement := by
  simp only [step, bubble_eq_ok, map_eq_ok] at ok
  obtain ⟨settlement, executed, isAfter⟩ := ok
  exact ⟨settlement, executed, isAfter, Executor.execute_ok executed⟩

theorem step_activity {activity : Activity χ}
    (ok : step env (.activity activity) before = .ok after) :
    Activity.KeepsExecutor before after := by
  simp only [step, bubble_eq_ok] at ok
  exact Activity.step_keeps ok

end ExecutorWorld

/-! ## A small deployment -/

namespace SampleOrders

/-- The executor lives at 90.  A resolver sends back the amounts of the input and of the
output token that the first two bytes of its data name. -/
def surroundings : ExecutorEnv Unit where
  allocator := SampleRequests.surroundings
  self := 90
  domainSeparator := 0
  isValidSignatureNow := fun _ _ _ _ _ => true
  resolve := fun ctx _ callResolver request _ data =>
    let send (chainId currency : Bytes) (amount : UInt8) : Activity Unit :=
      .settlement (.ledger (.hub ⟨callResolver, ctx.timestamp⟩ (.transfer 90
        (Utils.generateTokenId Abi.sampleHash chainId currency)
        (BitVec.ofNat 256 amount.toNat))))
    some ([send request.inChainId request.inCurrency (data.getD 0 0),
      send request.outChainId request.outCurrency (data.getD 1 0)], ())

/-- Executor and allocator are operators of the hub; 9 is an oracle. -/
def fresh : ExecutorWorld where
  hub := Hub.empty fun _ account => account == 80 || account == 90 || account == 1
  allocator := Allocator.empty 1
  executor := Executor.empty fun _ account => account == 9

/-- Two orders hold token 263, and the resolver at 70 holds token 264. -/
def setup : List (ExecutorSystemCall Unit) :=
  [.activity (.settlement (.ledger (.hub ⟨1, 0⟩ (.mint 201 263 50)))),
    .activity (.settlement (.ledger (.hub ⟨1, 0⟩ (.mint 202 263 30)))),
    .activity (.settlement (.ledger (.hub ⟨1, 0⟩ (.mint 70 264 100)))),
    .activity (.settlement (.allocator ⟨⟨1, 0⟩, ()⟩ (.setPayloadBuilder [] [2] 60)))]

def start : ExecutorWorld := run (ExecutorWorld.step surroundings) setup fresh

/-- An order that turns token 263 into at least 20 of a currency, resolved at 70. -/
def order (orderAddress : Address) (outCurrency : Bytes) (fees : List Fee)
    (returned : Bytes) : ExecuteCall Unit where
  ctx := ⟨⟨5, 0⟩, ()⟩
  request :=
    { inChainId := []
      inCurrency := [7]
      outChainId := []
      outCurrency := outCurrency
      outAmountMinimum := 20
      depository := [2]
      orderAddress := orderAddress
      receiver := [6]
      data := []
      fees := fees
      nonce := orderAddress.setWidth 256
      deadline := 1000 }
  callResolver := 70
  callResolverData := returned
  oracle := 9
  signature := []

end SampleOrders

end RelaySettlement
