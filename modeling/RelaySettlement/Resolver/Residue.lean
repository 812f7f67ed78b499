import RelaySettlement.Resolver.ExactOutput

/-!
# What an execution leaves in the resolver

The final sweep empties the resolver of the request's two tokens.  Of any other token the
resolver keeps what its legs drew and did not credit, and what solver code paid it: a
fixed leg keeps its output, a shortfall leg its target.  The input of a fixed leg that
produces another token goes back to the pool account as far as it was not spent.
-/

open Evm

namespace RelaySettlement

theorem ResolverWorld.holding_nonneg {χ : Type} (world : ResolverWorld χ)
    (token holder : Address) : 0 ≤ world.holding token holder :=
  Int.natCast_nonneg _

theorem ResolverWorld.holding_eq_zero {χ : Type} {world : ResolverWorld χ}
    {token holder : Address} :
    world.holding token holder = 0 ↔ world.balanceOf token holder = 0 := by
  rw [ResolverWorld.holding, Int.natCast_eq_zero, ← BitVec.toNat_inj]
  rfl

namespace Resolver

variable {χ : Type} {env : ResolverEnv χ}

/-! ## The sweep -/

/-- Handing over a whole balance leaves nothing of that token, and every other token as
it was. -/
theorem transferAll_source {token source target : Address}
    {world after : ResolverWorld χ} (different : source ≠ target)
    (ok : transferAll env token source target world = .ok after) (other : Address) :
    after.holding other source =
      if other = token then 0 else world.holding other source := by
  have transfers := transferAll_ok ok
  rw [transfers.atSource different]
  by_cases same : other = token
  · rw [if_pos same, if_pos same, same, ResolverWorld.holding]
    omega
  · rw [if_neg same, if_neg same]
    omega

/-- After the sweep the resolver has nothing of the request's tokens, and what it had of
every other token. -/
theorem sweepRequestTokens_source {request : ExecuteAndWithdrawRequest}
    {settled swept : ResolverWorld χ}
    (ok : sweepRequestTokens env request env.executor.self settled = .ok swept)
    (token : Address) :
    swept.holding token env.self =
      if token = env.erc20Views settled.rest (Executor.tokenIn env.executor request) ∨
          token = env.erc20Views settled.rest (Executor.tokenOut env.executor request) then 0
      else settled.holding token env.self := by
  simp only [sweepRequestTokens, requestTokenView, bind_eq_ok, pure_eq_ok] at ok
  obtain ⟨tokenIn, ⟨_, _, isIn⟩, tokenOut, ⟨_, _, isOut⟩, afterIn, sweepsIn, sweepsOut⟩ := ok
  rw [Executor.tokenIn, Executor.tokenOut, isIn, isOut]
  have input := transferAll_source env.executor_ne_self.symm sweepsIn token
  by_cases same : tokenOut = tokenIn
  · simp only [same, ne_eq, not_true, if_false, pure_eq_ok] at sweepsOut
    subst sweepsOut
    rw [input, same]
    simp
  · simp only [ne_eq, same, not_false_eq_true, if_true] at sweepsOut
    have output := transferAll_source env.executor_ne_self.symm sweepsOut token
    rw [output, input]
    by_cases isOutput : token = tokenOut
    · rw [if_pos isOutput, if_pos (Or.inr isOutput)]
    · rw [if_neg isOutput]
      simp [isOutput]

/-! ## The legs -/

section Legs

variable {timestamp : U256} {orderAddress : Address} {requestHash : Bytes32}
  {legs : List PlannedLeg} {settlements : List (LegSettlement χ)}
  {first last : ResolverWorld χ}

theorem LegsSettle.runs
    (settle : LegsSettle env timestamp orderAddress requestHash legs settlements first last) :
    ∀ settlement ∈ settlements, ∃ planned,
      runDrawLeg env timestamp orderAddress requestHash planned settlement.before =
        .ok settlement := by
  induction settle with
  | nil world =>
      intro settlement member
      cases member
  | cons here later ih =>
      intro settlement member
      rcases List.mem_cons.mp member with rfl | member
      · obtain ⟨_, begins, _⟩ := runDrawLeg_accounts here
        rw [begins]
        exact ⟨_, here⟩
      · exact ih settlement member

/-- What no leg raises is not raised by all of them. -/
theorem LegsSettle.not_raised (measure : ResolverWorld χ → ℤ)
    (settle : LegsSettle env timestamp orderAddress requestHash legs settlements first last)
    (each : ∀ settlement ∈ settlements,
      measure settlement.after ≤ measure settlement.before) :
    measure last ≤ measure first := by
  induction settle with
  | nil world => exact le_refl _
  | cons here later ih =>
      simp only [List.mem_cons, forall_eq_or_imp] at each
      obtain ⟨_, begins, _⟩ := runDrawLeg_accounts here
      rw [← begins]
      exact (ih each.2).trans each.1

/-- A leg that draws one token and produces another does not raise the resolver's holding
of the token it draws, whatever its solver calls do. -/
theorem runDrawLeg_input {planned : PlannedLeg} {world : ResolverWorld χ}
    {settlement : LegSettlement χ} (crosses : settlement.leg.tokenIn ≠ settlement.leg.tokenOut)
    (ok : runDrawLeg env timestamp orderAddress requestHash planned world = .ok settlement) :
    settlement.after.holding settlement.leg.tokenIn env.self ≤
      settlement.before.holding settlement.leg.tokenIn env.self := by
  obtain ⟨isLeg, isBefore, _⟩ := runDrawLeg_accounts ok
  rw [isLeg] at crosses ⊢
  rw [isBefore]
  simp only [runDrawLeg, bind_eq_ok] at ok
  obtain ⟨_, _, runs⟩ := ok
  cases kind : planned.leg.kind with
  | shortfallToTarget =>
      simp only [kind, runShortfallLeg, bind_eq_ok, require_eq_ok] at runs
      exact absurd runs.choose_spec.1 crosses
  | fixed =>
      simp only [kind, runFixedLeg, bind_eq_ok, require_eq_ok, pure_eq_ok] at runs
      obtain ⟨_, _, _, _, converted, _, _, _, _, _, after, returns, rfl⟩ := runs
      have credited := (returnToPool_settles returns).resolver planned.leg.tokenIn
      have isDrawn : planned.leg.tokenIn = planned.leg.token := by
        rw [DrawLeg.token, kind]
      rw [if_pos isDrawn, unspentInput] at credited
      by_cases unspent : world.balanceOf planned.leg.tokenIn env.self <
          converted.balanceOf planned.leg.tokenIn env.self
      · have grown := BitVec.lt_def.mp unspent
        rw [if_pos ⟨crosses, unspent⟩, BitVec.toNat_sub_of_le (BitVec.le_of_lt unspent)] at credited
        simp only [ResolverWorld.holding] at credited ⊢
        omega
      · have kept := BitVec.le_def.mp (BitVec.not_lt.mp unspent)
        rw [if_neg (fun both => unspent both.2)] at credited
        simp only [ResolverWorld.holding] at credited ⊢
        omega

end Legs

/-! ## One execution -/

/-- What a leg drew of a token and did not credit. -/
def LegSettlement.kept (settlement : LegSettlement χ) (token : Address) : ℤ :=
  if token = settlement.leg.token then
    settlement.amountDrawn.toNat - settlement.amountCredited.toNat
  else 0

namespace Resolves

variable {call : ResolverCall} {execution : Execution} {fixed shortfall : List PlannedLeg}
  {before : ResolverWorld χ} {resolution : Resolution χ}
variable (resolves : Resolves env call execution fixed shortfall before resolution)

include resolves

/-- Until the sweep, the resolver collects what its legs keep and what solver code pays. -/
theorem resolver_collects (token : Address) :
    resolution.settled.holding token env.self =
      before.holding token env.self +
        (resolution.legs.map fun settlement => settlement.kept token).sum +
        (resolution.conversions.map fun conversion => conversion.gained token env.self).sum := by
  have collects : ∀ settlement ∈ resolution.legs,
      settlement.after.holding token env.self = settlement.before.holding token env.self +
        (settlement.kept token + settlement.conversion.gained token env.self) := by
    intro settlement member
    rw [(resolves.accounts settlement member).resolver token, LegSettlement.kept]
    omega
  rw [resolves.sum_gains env.self token _ collects, List.sum_map_add]
  simp only [Resolution.legs, Resolution.conversions, List.map_append, List.map_cons,
    List.map_map, List.sum_append, List.sum_cons, Function.comp_def]
  omega

/-- A token that no leg produces is not collected, if solver code pays it to the resolver
only while a leg that draws it converts it. -/
theorem resolver_not_raised {token : Address}
    (unproduced : ∀ settlement ∈ resolution.legs, settlement.leg.tokenOut ≠ token)
    (legsUnpaid : ∀ settlement ∈ resolution.legs, settlement.leg.tokenIn ≠ token →
      settlement.conversion.gained token env.self = 0)
    (unpaid : resolution.requestCalls.gained token env.self = 0) :
    resolution.settled.holding token env.self ≤ before.holding token env.self := by
  have each : ∀ settlement ∈ resolution.legs,
      (∃ world planned, runDrawLeg env call.msg.timestamp call.request.orderAddress
        (Executor.requestDigest env.executor call.request) planned world = .ok settlement) →
      settlement.after.holding token env.self ≤ settlement.before.holding token env.self := by
    rintro settlement member ⟨world, planned, runs⟩
    have produces := unproduced settlement member
    by_cases draws : settlement.leg.tokenIn = token
    · rw [← draws] at produces ⊢
      exact runDrawLeg_input produces.symm runs
    · have elsewhere : token ≠ settlement.leg.token := by
        rw [DrawLeg.token]
        cases settlement.leg.kind with
        | fixed => exact Ne.symm draws
        | shortfallToTarget => exact produces.symm
      have change := (resolves.accounts settlement member).resolver token
      rw [if_neg elsewhere, legsUnpaid settlement member draws] at change
      omega
  have first := resolves.fixedLegs.not_raised (fun world => world.holding token env.self)
    fun settlement member => each settlement (List.mem_append_left _ member)
      ⟨_, resolves.fixedLegs.runs settlement member⟩
  have second := resolves.shortfallLegs.not_raised (fun world => world.holding token env.self)
    fun settlement member => each settlement (List.mem_append_right _ member)
      ⟨_, resolves.shortfallLegs.runs settlement member⟩
  have opened : ({ before with entered := set before.entered env.self true } :
      ResolverWorld χ).holding token env.self = before.holding token env.self := rfl
  rw [Conversion.gained] at unpaid
  omega

end Resolves

end Resolver

open Resolver

/-- After every successful execution the resolver holds none of the request's input and
output token.  Of any other token it holds what it held before, plus what its legs drew
and did not credit, plus what solver code paid it.  In particular it is left without a
token of which it had nothing, if no leg produces that token and solver code pays it to
the resolver only in the conversions of legs that draw it. -/
theorem pool_draw_residue {χ : Type} (env : ResolverEnv χ) (call : ResolverCall)
    (before : ResolverWorld χ) (resolution : Resolution χ)
    (ok : execute env call.msg call.request call.feesCharged call.data before =
      .ok resolution) :
    let inToken := env.erc20Views resolution.settled.rest
      (Executor.tokenIn env.executor call.request)
    let outToken := env.erc20Views resolution.settled.rest
      (Executor.tokenOut env.executor call.request)
    resolution.after.balanceOf inToken env.self = 0 ∧
    resolution.after.balanceOf outToken env.self = 0 ∧
    ∀ token, token ≠ inToken → token ≠ outToken →
      resolution.after.holding token env.self =
          before.holding token env.self +
            (resolution.legs.map fun settlement => settlement.kept token).sum +
            (resolution.conversions.map fun conversion =>
              conversion.gained token env.self).sum ∧
      (before.balanceOf token env.self = 0 →
        (∀ settlement ∈ resolution.legs, settlement.leg.tokenOut ≠ token) →
        (∀ settlement ∈ resolution.legs, settlement.leg.tokenIn ≠ token →
          settlement.conversion.gained token env.self = 0) →
        resolution.requestCalls.gained token env.self = 0 →
        resolution.after.balanceOf token env.self = 0) := by
  intro inToken outToken
  obtain ⟨_, _, _, _, _, _, _, _, resolves⟩ := execute_ok ok
  obtain ⟨swept, sweeps, isAfter⟩ := resolves.swept
  have emptied := sweepRequestTokens_source sweeps
  refine ⟨?_, ?_, ?_⟩
  · rw [← ResolverWorld.holding_eq_zero, isAfter]
    exact (emptied inToken).trans (if_pos (Or.inl rfl))
  · rw [← ResolverWorld.holding_eq_zero, isAfter]
    exact (emptied outToken).trans (if_pos (Or.inr rfl))
  · intro token notIn notOut
    have left : resolution.after.holding token env.self =
        resolution.settled.holding token env.self := by
      rw [isAfter]
      exact (emptied token).trans (if_neg (not_or.mpr ⟨notIn, notOut⟩))
    constructor
    · rw [left]
      exact resolves.resolver_collects token
    · intro nothing unproduced legsUnpaid unpaid
      have notRaised := resolves.resolver_not_raised unproduced legsUnpaid unpaid
      rw [ResolverWorld.holding_eq_zero.mpr nothing] at notRaised
      rw [← ResolverWorld.holding_eq_zero, left]
      exact le_antisymm notRaised (ResolverWorld.holding_nonneg _ _ _)

/-- In the sample execution nothing of the request's tokens is left. -/
theorem pool_draw_residue_sample :
    ∃ resolution,
      execute SampleDraws.surroundings ⟨90, 0⟩ SampleDraws.request true SampleDraws.data
        SampleDraws.start = .ok resolution ∧
      resolution.after.balanceOf 307 70 = 0 ∧ resolution.after.balanceOf 308 70 = 0 := by
  obtain ⟨resolution, ok, _⟩ := map_eq_ok.mp SampleDraws.outcome
  have residue := pool_draw_residue SampleDraws.surroundings
    ⟨⟨90, 0⟩, SampleDraws.request, true, SampleDraws.data⟩ SampleDraws.start resolution ok
  have inToken : SampleDraws.surroundings.erc20Views ()
      (Executor.tokenIn SampleOrders.surroundings SampleDraws.request) = 307 := by
    decide +kernel
  have outToken : SampleDraws.surroundings.erc20Views ()
      (Executor.tokenOut SampleOrders.surroundings SampleDraws.request) = 308 := by
    decide +kernel
  refine ⟨resolution, ok, ?_, ?_⟩
  · rw [← inToken]
    exact residue.1
  · rw [← outToken]
    exact residue.2.1

/-- The resolver starts with nothing and is left with the 7 of token 309 that the second
leg tops it up to. -/
theorem pool_draw_strands_target :
    (∀ token, SampleDraws.start.balanceOf token 70 = 0) ∧
      (∀ token, SampleDraws.start.balanceOf token 71 = 0) ∧
      ∃ resolution,
        execute SampleDraws.surroundings ⟨90, 0⟩ SampleDraws.request true SampleDraws.data
          SampleDraws.start = .ok resolution ∧
        (∃ settlement ∈ resolution.legs, settlement.leg.tokenOut = 309) ∧
        resolution.after.balanceOf 309 70 = 7 := by
  obtain ⟨resolution, ok, facts⟩ := map_eq_ok.mp SampleDraws.outcome
  simp only [Prod.mk.injEq] at facts
  refine ⟨fun _ => rfl, fun _ => rfl, resolution, ok, ?_, facts.2.2⟩
  have member : (309 : Address) ∈
      resolution.legs.map fun settlement => settlement.leg.tokenOut := by
    rw [facts.1]
    decide
  exact List.mem_map.mp member

end RelaySettlement
