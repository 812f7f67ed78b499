import RelaySettlement.Executor.Settlement
import RelaySettlement.Resolver.Legs

/-!
# Exact output

A shortfall leg leaves the resolver with exactly its target of the leg's token.  So when
the resolver sweeps the output token to the executor, the executor receives the target of
the last shortfall leg on that token, whatever the solver calls before that leg produced.
Solver code can also pay the executor itself, and code that runs after that leg can pay
the resolver; both come on top.
-/

open Evm

namespace RelaySettlement

namespace Resolver

variable {χ : Type}

/-- Legs are settled one after the other, each from the world the one before it left. -/
inductive LegsSettle (env : ResolverEnv χ) (timestamp : U256) (orderAddress : Address)
    (requestHash : Bytes32) :
    List PlannedLeg → List (LegSettlement χ) → ResolverWorld χ → ResolverWorld χ → Prop
  | nil (world : ResolverWorld χ) :
      LegsSettle env timestamp orderAddress requestHash [] [] world world
  | cons {planned : PlannedLeg} {legs : List PlannedLeg} {settlement : LegSettlement χ}
      {settlements : List (LegSettlement χ)} {world last : ResolverWorld χ}
      (here : runDrawLeg env timestamp orderAddress requestHash planned world =
        .ok settlement)
      (later : LegsSettle env timestamp orderAddress requestHash legs settlements
        settlement.after last) :
      LegsSettle env timestamp orderAddress requestHash (planned :: legs)
        (settlement :: settlements) world last

section Legs

variable {env : ResolverEnv χ} {timestamp : U256} {orderAddress : Address}
  {requestHash : Bytes32} {legs : List PlannedLeg} {settlements : List (LegSettlement χ)}
  {first last : ResolverWorld χ}

namespace LegsSettle

section

variable (settle : LegsSettle env timestamp orderAddress requestHash legs settlements first last)

include settle

theorem accounts :
    ∀ settlement ∈ settlements, settlement.Accounts env := by
  induction settle with
  | nil world =>
      intro settlement member
      cases member
  | cons here later ih =>
      intro settlement member
      rcases List.mem_cons.mp member with rfl | member
      · exact (runDrawLeg_accounts here).2.2
      · exact ih settlement member

theorem legs_eq :
    settlements.map LegSettlement.leg = legs.map PlannedLeg.leg := by
  induction settle with
  | nil world => rfl
  | cons here later ih =>
      rw [List.map_cons, List.map_cons, ih, (runDrawLeg_accounts here).1]

theorem kinds {kind : DrawLegKind}
    (planned : ∀ planned ∈ legs, planned.leg.kind = kind) :
    ∀ settlement ∈ settlements, settlement.leg.kind = kind := by
  induction settle with
  | nil world =>
      intro settlement member
      cases member
  | cons here later ih =>
      simp only [List.mem_cons, forall_eq_or_imp] at planned ⊢
      rw [(runDrawLeg_accounts here).1]
      exact ⟨planned.1, ih planned.2⟩

/-- A quantity that each leg changes by its gain is changed by the sum of the gains. -/
theorem sum_gains (measure : ResolverWorld χ → ℤ) (gain : LegSettlement χ → ℤ)
    (each : ∀ settlement ∈ settlements,
      measure settlement.after = measure settlement.before + gain settlement) :
    measure last = measure first + (settlements.map gain).sum := by
  induction settle with
  | nil world => simp
  | cons here later ih =>
      simp only [List.mem_cons, forall_eq_or_imp] at each
      obtain ⟨_, begins, _⟩ := runDrawLeg_accounts here
      rw [ih each.2, each.1, begins, List.map_cons, List.sum_cons]
      omega

end

/-- The legs after a given one start from the world it leaves. -/
theorem after_leg {earlier later : List (LegSettlement χ)} {settlement : LegSettlement χ}
    (settle : LegsSettle env timestamp orderAddress requestHash legs
      (earlier ++ settlement :: later) first last) :
    ∃ rest, LegsSettle env timestamp orderAddress requestHash rest later settlement.after
      last := by
  induction earlier generalizing legs first with
  | nil =>
      cases settle with
      | cons here rest => exact ⟨_, rest⟩
  | cons head tail ih =>
      cases settle with
      | cons here rest => exact ih rest

end LegsSettle

/-- The first loop settles a fixed part of the plan. -/
theorem runFixedLegs_ok {remaining : List PlannedLeg}
    (ok : runFixedLegs env timestamp orderAddress requestHash legs first =
      .ok (settlements, remaining, last)) :
    ∃ initial, legs = initial ++ remaining ∧
      (∀ planned ∈ initial, planned.leg.kind = .fixed) ∧
      LegsSettle env timestamp orderAddress requestHash initial settlements first last := by
  induction legs generalizing settlements first with
  | nil =>
      simp only [runFixedLegs, pure_eq_ok, Prod.mk.injEq] at ok
      obtain ⟨rfl, rfl, rfl⟩ := ok
      exact ⟨[], rfl, by simp, .nil first⟩
  | cons planned legs ih =>
      by_cases isFixed : planned.leg.kind = .fixed
      · simp only [runFixedLegs, if_pos isFixed, bind_eq_ok, pure_eq_ok, Prod.mk.injEq] at ok
        obtain ⟨settled, here, ⟨others, remaining', last'⟩, rest, rfl, rfl, rfl⟩ := ok
        obtain ⟨initial, rfl, fixed, settle⟩ := ih rest
        refine ⟨planned :: initial, rfl, ?_, .cons here settle⟩
        intro other member
        rcases List.mem_cons.mp member with rfl | member
        · exact isFixed
        · exact fixed other member
      · simp only [runFixedLegs, if_neg isFixed, pure_eq_ok, Prod.mk.injEq] at ok
        obtain ⟨rfl, rfl, rfl⟩ := ok
        exact ⟨[], rfl, by simp, .nil first⟩

/-- The second loop settles what is left, and reverts at a fixed leg. -/
theorem runShortfallLegs_ok
    (ok : runShortfallLegs env timestamp orderAddress requestHash legs first =
      .ok (settlements, last)) :
    (∀ planned ∈ legs, planned.leg.kind = .shortfallToTarget) ∧
      LegsSettle env timestamp orderAddress requestHash legs settlements first last := by
  induction legs generalizing settlements first with
  | nil =>
      simp only [runShortfallLegs, pure_eq_ok, Prod.mk.injEq] at ok
      obtain ⟨rfl, rfl⟩ := ok
      exact ⟨by simp, .nil first⟩
  | cons planned legs ih =>
      simp only [runShortfallLegs, bind_eq_ok, require_eq_ok, pure_eq_ok, Prod.mk.injEq] at ok
      obtain ⟨_, notFixed, settled, here, ⟨others, last'⟩, rest, rfl, rfl⟩ := ok
      obtain ⟨shortfall, settle⟩ := ih rest
      refine ⟨?_, .cons here settle⟩
      intro other member
      rcases List.mem_cons.mp member with rfl | member
      · cases kind : other.leg.kind with
        | fixed => exact absurd kind notFixed
        | shortfallToTarget => rfl
      · exact shortfall other member

end Legs

/-! ## One execution -/

namespace Resolution

/-- All settled legs, in the order of the plan. -/
def legs (resolution : Resolution χ) : List (LegSettlement χ) :=
  resolution.fixedLegs ++ resolution.shortfallLegs

/-- All stretches in which solver calls ran. -/
def conversions (resolution : Resolution χ) : List (Conversion χ) :=
  resolution.fixedLegs.map LegSettlement.conversion ++
    resolution.requestCalls :: resolution.shortfallLegs.map LegSettlement.conversion

end Resolution

/-- Every leg of a plan that is split into fixed and shortfall legs, the request's calls
between the two, and the sweep to the executor succeeded, one after the other. -/
structure Resolves (env : ResolverEnv χ) (call : ResolverCall) (execution : Execution)
    (fixed shortfall : List PlannedLeg) (before : ResolverWorld χ)
    (resolution : Resolution χ) : Prop where
  fixedKinds : ∀ planned ∈ fixed, planned.leg.kind = .fixed
  shortfallKinds : ∀ planned ∈ shortfall, planned.leg.kind = .shortfallToTarget
  fixedLegs : LegsSettle env call.msg.timestamp call.request.orderAddress
    (Executor.requestDigest env.executor call.request) fixed resolution.fixedLegs
    { before with entered := set before.entered env.self true }
    resolution.requestCalls.before
  requestCalls : runRequestCalls env call.request execution.calls
    resolution.requestCalls.before = .ok resolution.requestCalls.after
  shortfallLegs : LegsSettle env call.msg.timestamp call.request.orderAddress
    (Executor.requestDigest env.executor call.request) shortfall resolution.shortfallLegs
    resolution.requestCalls.after resolution.settled
  swept : ∃ swept,
    sweepRequestTokens env call.request env.executor.self resolution.settled = .ok swept ∧
      resolution.after = { swept with entered := set swept.entered env.self false }

variable {env : ResolverEnv χ} {call : ResolverCall} {before : ResolverWorld χ}
  {resolution : Resolution χ}

theorem plan_legs {legs : List DrawLeg} {authorizations : List Bytes}
    (sameLength : authorizations.length = legs.length) :
    (plan legs authorizations).map PlannedLeg.leg = legs := by
  have projects : (PlannedLeg.leg ∘ fun entry : (DrawLeg × Bytes) × ℕ =>
      (⟨entry.1.1, entry.1.2, entry.2⟩ : PlannedLeg)) = Prod.fst ∘ Prod.fst := rfl
  rw [plan, List.map_map, projects, ← List.map_map, List.zipIdx_map_fst,
    List.map_fst_zip (by omega)]

theorem execute_ok
    (ok : execute env call.msg call.request call.feesCharged call.data before =
      .ok resolution) :
    ∃ executionData authorizations execution fixed shortfall,
      decodeData call.data = some (executionData, authorizations) ∧
      decodeExecution executionData = some execution ∧
      (fixed ++ shortfall).map PlannedLeg.leg = execution.legs ∧
      Resolves env call execution fixed shortfall before resolution := by
  simp only [execute, bind_eq_ok, require_eq_ok, orRevert_eq_ok, pure_eq_ok] at ok
  obtain ⟨_, _, _, isExecutor, ⟨executionData, authorizations⟩, decoded, _, _, execution,
    isPlan, _, sameLength, ⟨fixedLegs, remaining, called⟩, runsFixed, converted, runsCalls,
    ⟨shortfallLegs, settled⟩, runsShortfall, swept, sweeps, rfl⟩ := ok
  obtain ⟨fixed, split, fixedKinds, settlesFixed⟩ := runFixedLegs_ok runsFixed
  obtain ⟨shortfallKinds, settlesShortfall⟩ := runShortfallLegs_ok runsShortfall
  rw [isExecutor] at sweeps
  refine ⟨executionData, authorizations, execution, fixed, remaining, decoded, isPlan, ?_, ?_⟩
  · rw [← split]
    exact plan_legs sameLength
  · exact ⟨fixedKinds, shortfallKinds, settlesFixed, runsCalls, settlesShortfall, swept,
      sweeps, rfl⟩

/-- The sweep leaves the executor with what it and the resolver had of the output token. -/
theorem sweepRequestTokens_output {request : ExecuteAndWithdrawRequest}
    {settled swept : ResolverWorld χ}
    (ok : sweepRequestTokens env request env.executor.self settled = .ok swept) :
    let outToken := env.erc20Views settled.rest (Executor.tokenOut env.executor request)
    swept.holding outToken env.executor.self =
      settled.holding outToken env.executor.self + settled.holding outToken env.self := by
  intro outToken
  simp only [sweepRequestTokens, requestTokenView, bind_eq_ok, pure_eq_ok] at ok
  obtain ⟨tokenIn, _, tokenOut, ⟨_, _, isOut⟩, afterIn, sweepsIn, sweepsOut⟩ := ok
  obtain rfl : outToken = tokenOut := isOut
  have first := transferAll_ok sweepsIn
  have input := first.atTarget env.executor_ne_self outToken
  by_cases same : outToken = tokenIn
  · simp only [same, ne_eq, not_true, if_false, pure_eq_ok] at sweepsOut
    subst sweepsOut
    rw [if_pos same] at input
    rw [input, same]
    rfl
  · simp only [ne_eq, same, not_false_eq_true, if_true] at sweepsOut
    have second := transferAll_ok sweepsOut
    have output := second.atTarget env.executor_ne_self outToken
    have kept := first.atSource env.executor_ne_self.symm outToken
    rw [if_neg same] at input kept
    rw [if_pos rfl] at output
    rw [output, input, ← ResolverWorld.holding, kept]
    omega

namespace Resolves

variable {execution : Execution} {fixed shortfall : List PlannedLeg}
variable (resolves : Resolves env call execution fixed shortfall before resolution)

include resolves

theorem accounts :
    ∀ settlement ∈ resolution.legs, settlement.Accounts env := by
  intro settlement member
  rcases List.mem_append.mp member with member | member
  · exact resolves.fixedLegs.accounts settlement member
  · exact resolves.shortfallLegs.accounts settlement member

theorem legs_eq :
    resolution.legs.map LegSettlement.leg = (fixed ++ shortfall).map PlannedLeg.leg := by
  rw [Resolution.legs, List.map_append, List.map_append, resolves.fixedLegs.legs_eq,
    resolves.shortfallLegs.legs_eq]

/-- Until the sweep, an account gains what the legs and the request's calls bring it. -/
theorem sum_gains (account token : Address) (gain : LegSettlement χ → ℤ)
    (each : ∀ settlement ∈ resolution.legs, settlement.after.holding token account =
      settlement.before.holding token account + gain settlement) :
    resolution.settled.holding token account = before.holding token account +
      (resolution.legs.map gain).sum + resolution.requestCalls.gained token account := by
  have first := resolves.fixedLegs.sum_gains (fun world => world.holding token account) gain
    fun settlement member => each settlement (List.mem_append_left _ member)
  have second := resolves.shortfallLegs.sum_gains (fun world => world.holding token account) gain
    fun settlement member => each settlement (List.mem_append_right _ member)
  have opened : ({ before with entered := set before.entered env.self true } :
      ResolverWorld χ).holding token account = before.holding token account := rfl
  rw [Conversion.gained, Resolution.legs, List.map_append, List.sum_append]
  omega

/-- Until the sweep, only solver code changes what the executor has. -/
theorem executor_settled (token : Address) :
    resolution.settled.holding token env.executor.self =
      before.holding token env.executor.self +
        (resolution.conversions.map fun conversion =>
          conversion.gained token env.executor.self).sum := by
  rw [resolves.sum_gains env.executor.self token _ fun settlement member =>
    (resolves.accounts settlement member).executor token]
  simp only [Resolution.legs, Resolution.conversions, List.map_append, List.map_cons,
    List.map_map, List.sum_append, List.sum_cons, Function.comp_def]
  omega

variable {earlier later : List (LegSettlement χ)} {settlement : LegSettlement χ}

/-- After the last shortfall leg on a token, only solver code changes what the resolver
has of it. -/
theorem resolver_settled {token : Address}
    (split : resolution.shortfallLegs = earlier ++ settlement :: later)
    (onToken : settlement.leg.tokenOut = token)
    (isLast : ∀ other ∈ later, other.leg.tokenOut ≠ token) :
    resolution.settled.holding token env.self = settlement.leg.amount.toNat +
      (later.map fun other => other.conversion.gained token env.self).sum := by
  have settle := resolves.shortfallLegs
  rw [split] at settle
  have kinds := settle.kinds resolves.shortfallKinds
  have accounts := settle.accounts
  have reached := (accounts settlement (by simp)).target (kinds settlement (by simp))
  obtain ⟨rest, afterwards⟩ := settle.after_leg
  have kept := afterwards.sum_gains (fun world => world.holding token env.self)
    (fun other => other.conversion.gained token env.self) (by
      intro other member
      have inLegs : other ∈ earlier ++ settlement :: later := by simp [member]
      have otherToken : token ≠ other.leg.token := by
        rw [DrawLeg.token, kinds other inLegs]
        exact (isLast other member).symm
      have change := (accounts other inLegs).resolver token
      rwa [if_neg otherToken, Int.add_zero] at change)
  rw [onToken] at reached
  rw [kept, reached]

/-- The last shortfall leg of a plan on a token stands among the shortfall legs. -/
theorem split_shortfall (split : resolution.legs = earlier ++ settlement :: later)
    (isShortfall : settlement.leg.kind = .shortfallToTarget) :
    ∃ earlier', resolution.shortfallLegs = earlier' ++ settlement :: later := by
  rcases List.append_eq_append_iff.mp split with ⟨middle, _, rest⟩ | ⟨middle, fixedSplit, rest⟩
  · exact ⟨middle, rest⟩
  · cases middle with
    | nil => exact ⟨[], rest.symm⟩
    | cons head tail =>
        -- otherwise the leg would be among the fixed ones
        obtain ⟨rfl, _⟩ := List.cons.inj rest
        have isFixed := resolves.fixedLegs.kinds resolves.fixedKinds settlement
          (by rw [fixedSplit]; simp)
        rw [isShortfall] at isFixed
        cases isFixed

end Resolves

end Resolver

open Resolver

/-- For every successful execution: the executor's balance of the request's output token
rises by the target of the last shortfall leg on that token, plus what solver code itself
paid the executor, plus what the solver code of later legs paid the resolver; for every
leg, what was drawn less what was credited is the change of the resolver's holding of the
leg's token, and of the pool balance of its account, net of the leg's solver calls; and
every fixed leg, the request's calls, every shortfall leg and the sweep succeeded in this
order.  Otherwise nothing changes. -/
theorem pool_draw_exact_output {χ : Type} (env : ResolverEnv χ) (call : ResolverCall)
    (before : ResolverWorld χ) :
    (∀ resolution,
      execute env call.msg call.request call.feesCharged call.data before =
        .ok resolution →
      let outToken := env.erc20Views resolution.settled.rest
        (Executor.tokenOut env.executor call.request)
      (∀ earlier settlement later, resolution.legs = earlier ++ settlement :: later →
        settlement.leg.kind = .shortfallToTarget → settlement.leg.tokenOut = outToken →
        (∀ other ∈ later, other.leg.kind = .shortfallToTarget →
          other.leg.tokenOut ≠ outToken) →
        resolution.after.holding outToken env.executor.self -
            before.holding outToken env.executor.self =
          settlement.leg.amount.toNat +
            (resolution.conversions.map fun conversion =>
              conversion.gained outToken env.executor.self).sum +
            (later.map fun other => other.conversion.gained outToken env.self).sum) ∧
      (∀ settlement ∈ resolution.legs,
        (settlement.amountDrawn.toNat - settlement.amountCredited.toNat : ℤ) =
            settlement.after.holding settlement.leg.token env.self -
              settlement.before.holding settlement.leg.token env.self -
              settlement.conversion.gained settlement.leg.token env.self ∧
          (settlement.amountDrawn.toNat - settlement.amountCredited.toNat : ℤ) =
            settlement.before.poolBalance settlement.leg.pool settlement.leg.account
                settlement.leg.token -
              settlement.after.poolBalance settlement.leg.pool settlement.leg.account
                settlement.leg.token +
              settlement.conversion.deposited settlement.leg.pool settlement.leg.account
                settlement.leg.token) ∧
      ∃ executionData authorizations execution fixed shortfall,
        decodeData call.data = some (executionData, authorizations) ∧
        decodeExecution executionData = some execution ∧
        (fixed ++ shortfall).map PlannedLeg.leg = execution.legs ∧
        resolution.legs.map LegSettlement.leg = execution.legs ∧
        Resolves env call execution fixed shortfall before resolution) ∧
    ∀ error,
      execute env call.msg call.request call.feesCharged call.data before = .error error →
      attempt (ResolverWorld.step env) call before = before := by
  constructor
  · intro resolution ok outToken
    obtain ⟨executionData, authorizations, execution, fixed, shortfall, decoded, isPlan, legs,
      resolves⟩ := execute_ok ok
    refine ⟨?_, ?_, executionData, authorizations, execution, fixed, shortfall, decoded,
      isPlan, legs, resolves.legs_eq.trans legs, resolves⟩
    · intro earlier settlement later split isShortfall onOutput isLast
      obtain ⟨earlier', splitShortfall⟩ := resolves.split_shortfall split isShortfall
      have laterKinds : ∀ other ∈ later, other.leg.tokenOut ≠ outToken := by
        intro other member
        apply isLast other member
        exact resolves.shortfallLegs.kinds resolves.shortfallKinds other
          (by rw [splitShortfall]; simp [member])
      have executor := resolves.executor_settled outToken
      have resolver := resolves.resolver_settled splitShortfall onOutput laterKinds
      obtain ⟨swept, sweeps, isAfter⟩ := resolves.swept
      have output := sweepRequestTokens_output sweeps
      have closed : resolution.after.holding outToken env.executor.self =
          swept.holding outToken env.executor.self := by
        rw [isAfter]
        rfl
      rw [closed, output, executor, resolver]
      omega
    · intro settlement member
      have accounts := resolves.accounts settlement member
      have resolver := accounts.resolver settlement.leg.token
      have pool := accounts.pool
      rw [if_pos rfl] at resolver
      constructor <;> omega
  · intro error reverted
    have stepReverts : ResolverWorld.step env call before = .error error := by
      rw [ResolverWorld.step, reverted]
      rfl
    exact attempt_error stepReverts

namespace SampleDraws

/-- A contract at 50 pays token 308 to the account that the first byte names. -/
def solverCall (call : Call) (world : ResolverWorld Unit) :
    Except Bytes (ResolverWorld Unit) :=
  let recipient := BitVec.ofNat 160 (call.data.getD 0 0).toNat
  let amount := BitVec.ofNat 256 (call.data.getD 1 0).toNat
  let debited := set₂ world.balanceOf 308 call.target (world.balanceOf 308 call.target - amount)
  .ok { world with balanceOf := set₂ debited 308 recipient (debited 308 recipient + amount) }

/-- The first leg guarantees 100 of the output token 308.  The request's calls pay the
executor 5 of it, and the calls of the second leg pay the resolver 3. -/
def execution : Execution where
  legs :=
    [⟨60, 40, .shortfallToTarget, 308, 308, 100, 0, []⟩,
      ⟨60, 40, .shortfallToTarget, 309, 309, 7, 0, [⟨50, [70, 3]⟩]⟩]
  calls := [⟨50, [90, 5]⟩]
  salt := 0

/-- A solver call as an ABI value. -/
def callValue (call : Call) : Abi.Value := .tuple [.address call.target, .bytes call.data]

/-- A shortfall leg as an ABI value. -/
def legValue (leg : DrawLeg) : Abi.Value :=
  .tuple [.address leg.pool, .address leg.account, .word 1, .address leg.tokenIn,
    .address leg.tokenOut, .word leg.amount, .word leg.amountOutMinimum,
    .array (leg.calls.map callValue)]

/-- The encoded plan. -/
def executionData : Bytes :=
  Abi.encode [.tuple [.array (execution.legs.map legValue),
    .array (execution.calls.map callValue), .word execution.salt]]

/-- The payload: the plan and an authorization for each leg. -/
def data : Bytes := Abi.encode [.bytes executionData, .array [.bytes [], .bytes []]]

/-- The resolver at 70 serves the executor at 90; the view of token `n` is `44 + n`. -/
def surroundings : ResolverEnv Unit where
  executor := SampleOrders.surroundings
  self := 70
  sandbox := 71
  pool := fun address =>
    if address = 60 then some ⟨Abi.sampleHash, 0, fun _ _ _ _ _ => true⟩ else none
  erc20Views := fun _ tokenId => 44 + tokenId.setWidth 160
  transferable := fun _ _ _ _ _ => true
  solverCall := solverCall
  executor_ne_self := by decide
  pool_ne_self := by
    intro address isPool same
    subst same
    exact absurd isPool (by decide)
  pool_ne_executor := by
    intro address isPool same
    subst same
    exact absurd isPool (by decide)

/-- An order that turns token 263 into token 264 and commits to the plan. -/
def request : ExecuteAndWithdrawRequest :=
  { (SampleOrders.order 201 [8] [] []).request with
    nonce := Abi.sampleHash
      (Abi.bigEndian 20 70 ++ Abi.word (Abi.sampleHash executionData)) }

/-- Account 40 of the pool at 60 sponsors the resolver without limits. -/
def start : ResolverWorld Unit where
  balanceOf := fun _ holder => if holder = 60 ∨ holder = 50 then 1000 else 0
  pools := fun _ =>
    { Pool.empty fun _ _ => true with
      balances := fun _ _ => 500
      sponsorshipConfig := fun _ _ => ⟨U256.max, U256.max, 41, 0⟩
      sponsorshipResolvers := fun _ _ => true }
  entered := fun _ => false
  rest := ()

/-- Both legs settle; the executor receives 108 of the output token, and the resolver is
left with 7 of the other one. -/
theorem outcome :
    (fun resolution : Resolution Unit =>
      (resolution.legs.map fun settlement => settlement.leg.tokenOut,
        resolution.after.balanceOf 308 90, resolution.after.balanceOf 309 70)) <$>
      execute surroundings ⟨90, 0⟩ request true data start = .ok ([308, 309], 108, 7) := by
  decide +kernel

end SampleDraws

/-- The plan guarantees 100 of the output token 308, and the executor receives 108. -/
theorem pool_draw_output_exceeds_target :
    SampleDraws.surroundings.erc20Views ()
        (Executor.tokenOut SampleOrders.surroundings SampleDraws.request) = 308 ∧
      decodeData SampleDraws.data = some (SampleDraws.executionData, [[], []]) ∧
      decodeExecution SampleDraws.executionData = some SampleDraws.execution ∧
      SampleDraws.execution.legs.map (fun leg => (leg.kind, leg.tokenOut, leg.amount)) =
        [(.shortfallToTarget, 308, 100), (.shortfallToTarget, 309, 7)] ∧
      ∃ resolution,
        execute SampleDraws.surroundings ⟨90, 0⟩ SampleDraws.request true SampleDraws.data
          SampleDraws.start = .ok resolution ∧
        SampleDraws.start.balanceOf 308 90 = 0 ∧
        resolution.after.balanceOf 308 90 = 108 := by
  obtain ⟨resolution, ok, facts⟩ := map_eq_ok.mp SampleDraws.outcome
  simp only [Prod.mk.injEq] at facts
  exact ⟨by decide +kernel, by decide +kernel, by decide +kernel, rfl, resolution, ok, rfl,
    facts.2.1⟩

end RelaySettlement
