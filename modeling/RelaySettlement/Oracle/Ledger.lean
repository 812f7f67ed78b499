import RelaySettlement.Hub.Conservation
import RelaySettlement.Oracle.ExactlyOnce

/-!
# The tokens behind the executions

Around the oracles the hub only changes by calls to it: those that others make, and those that the
actions of completed executions ask for.  So the supply of a token is what these actions mint less
what they burn, up to what others mint and burn themselves.
-/

open Evm

namespace RelaySettlement

/-- The amount by which a call raises the supply of an id. -/
def HubCall.issued (id : U256) : HubCall → ℤ
  | .mint _ token amount => if token = id then amount.toNat else 0
  | .burn _ token amount => if token = id then -amount.toNat else 0
  | _ => 0

/-- The amount by which a call to the hub or a view raises the supply of an id: a view only moves
tokens. -/
def LedgerCall.issued (id : U256) : LedgerCall → ℤ
  | .hub _ call => call.issued id
  | .view .. => 0

theorem LedgerCall.issued_eq (id : U256) (call : LedgerCall) :
    call.issued id = call.bookEffect.minted id - call.bookEffect.burned id := by
  cases call with
  | hub msg call =>
      cases call <;> simp [issued, HubCall.issued, bookEffect, BookEffect.minted, BookEffect.burned]
      split <;> simp
  | view msg token call => cases call <;> rfl

namespace Hub

variable {env : Env} {kind : LedgerCall → Prop} {id : U256}

/-- Successful calls of one kind lead from one hub to another. -/
abbrev Reaches (env : Env) (kind : LedgerCall → Prop) : Hub → Hub → Prop :=
  Relation.ReflTransGen fun before after => ∃ call, kind call ∧ step env call before = .ok after

theorem Reaches.conserved {before after : Hub} (reaches : Reaches env kind before after)
    (conserved : before.Conserved) : after.Conserved := by
  induction reaches with
  | refl => exact conserved
  | tail _ called ih =>
      obtain ⟨call, _, ok⟩ := called
      exact (step_effects call ok).1.conserved ih

/-- Successful calls of one kind lead from one hub to another, and together raise the supply of an
id by some amount. -/
structure Leads (env : Env) (kind : LedgerCall → Prop) (id : U256) (issued : ℤ)
    (before after : Hub) : Prop where
  reaches : Reaches env kind before after
  supply : ((after.totalSupply id).toNat : ℤ) = (before.totalSupply id).toNat + issued

theorem Leads.refl (hub : Hub) : Leads env kind id 0 hub hub := ⟨.refl, (add_zero _).symm⟩

theorem Leads.single {call : LedgerCall} {before after : Hub} (made : kind call)
    (ok : step env call before = .ok after) :
    Leads env kind id (call.issued id) before after := by
  refine ⟨.single ⟨call, made, ok⟩, ?_⟩
  have supply := ((step_effects call ok).1.supply_total id).1
  rw [call.issued_eq]
  omega

theorem Leads.trans {issued issued' : ℤ} {first second third : Hub}
    (here : Leads env kind id issued first second)
    (later : Leads env kind id issued' second third) :
    Leads env kind id (issued + issued') first third := by
  refine ⟨here.reaches.trans later.reaches, ?_⟩
  rw [later.supply, here.supply, add_assoc]

theorem Leads.linked {σ κ : Type} {view : σ → Hub} (issued : Transition σ κ → ℤ)
    {transitions : List (Transition σ κ)} {first last : σ}
    (linked : Linked view transitions first last)
    (leads : ∀ transition ∈ transitions,
      Leads env kind id (issued transition) (view transition.pre) (view transition.post)) :
    Leads env kind id (transitions.map issued).sum (view first) (view last) := by
  induction transitions generalizing first with
  | nil => exact linked ▸ .refl _
  | cons transition transitions ih =>
      rw [List.forall_mem_cons] at leads
      rw [linked.1, List.map_cons, List.sum_cons]
      exact leads.1.trans (ih linked.2 leads.2)

end Hub

variable {χ μ : Type} {env : OracleEnv χ μ}

namespace Oracle

/-- The call to the hub that an action asks for. -/
def hubCall (action : Bytes) : Option HubCall := do
  let actionType ← Abi.readUInt 8 action 0
  let first ← Abi.readUInt 160 action 1
  if actionType = ActionType.transfer.code then
    return .transferFrom first (← Abi.readUInt 160 action 2) (← Abi.readUInt 256 action 3)
      (← Abi.readUInt 256 action 4)
  let id ← Abi.readUInt 256 action 2
  let amount ← Abi.readUInt 256 action 3
  if actionType = ActionType.burn.code then
    return .burn first id amount
  if actionType = ActionType.mint.code ∨ actionType = ActionType.fastMint.code then
    return .mint first id amount
  none

/-- In a world, an action leads to the call that it asks for, and a fast mint to the transfer of
the fee that its calculator answers there. -/
def Makes (env : OracleEnv χ μ) (self : Address) (ctx : Ctx χ) (world : OracleWorld μ)
    (action : Bytes) (call : HubCall) : Prop :=
  hubCall action = some call ∨ Abi.readUInt 8 action 0 = some ActionType.fastMint.code ∧
    ∃ id amount calculator data fee after, Abi.readUInt 256 action 2 = some id ∧
      Abi.readUInt 256 action 3 = some amount ∧ Abi.readUInt 160 action 4 = some calculator ∧
      Abi.readBytes action 5 = some data ∧
      fastMintFee env self ctx calculator id amount data world = .ok (fee, after) ∧
      call = .transferFrom fee.payer fee.recipient fee.currency fee.amount

/-- One of the actions, executed after the earlier ones in a world, leads to the call. -/
def ActionsMake (env : OracleEnv χ μ) (self : Address) (ctx : Ctx χ) (actions : List Bytes)
    (world : OracleWorld μ) (call : HubCall) : Prop :=
  ∃ earlier action later before, actions = earlier ++ action :: later ∧
    executeActions env self ctx earlier world = .ok before ∧
      Makes env self ctx before action call

/-- The amount by which the actions of an execution raise the supply of an id. -/
def issued (id : U256) (actions : List Bytes) : ℤ :=
  ((actions.filterMap hubCall).map (HubCall.issued id)).sum

variable {self : Address} {ctx : Ctx χ} {world after : OracleWorld μ} {kind : LedgerCall → Prop}
  {id : U256}

/-- A call without an amount is left out, which makes no difference to the supply. -/
theorem callHub_leads (call : HubCall) {amount : U256}
    (made : kind (.hub (outgoing self ctx).toMsg call)) (zero : amount = 0 → call.issued id = 0)
    (ok : callHub amount (·.execHub env.hub (outgoing self ctx).toMsg call) world = .ok after) :
    Hub.Leads env.hub kind id (call.issued id) world.hub after.hub := by
  unfold callHub at ok
  split at ok
  next nothing =>
    cases ok
    rw [zero nothing]
    exact .refl _
  · simp only [bind_eq_ok, bubble_eq_ok, pure_eq_ok] at ok
    obtain ⟨hub, called, rfl⟩ := ok
    exact .single made (bubble_eq_ok.mpr called)

theorem executeAction_leads {action : Bytes}
    (makes : ∀ call, Makes env self ctx world action call →
      kind (.hub (outgoing self ctx).toMsg call))
    (ok : executeAction env self ctx action world = .ok after) :
    Hub.Leads env.hub kind id (issued id [action]) world.hub after.hub := by
  have asks {call : HubCall} (isCall : hubCall action = some call) :
      issued id [action] = call.issued id := by
    simp [issued, isCall]
  simp only [executeAction, bind_eq_ok, orRevert_eq_ok] at ok
  obtain ⟨_, isType, ok⟩ := ok
  split_ifs at ok with isMint isBurn isTransfer isFastMint
  all_goals simp only [executeFastMint, bind_eq_ok, orRevert_eq_ok] at ok
  · obtain ⟨receiver, first, token, second, amount, third, called⟩ := ok
    have isCall : hubCall action = some (.mint receiver token amount) := by
      simp [hubCall, isType, isMint, first, second, third, ActionType.code]
    rw [asks isCall]
    apply callHub_leads _ (makes _ (.inl isCall)) _ called
    rintro rfl
    exact ite_self 0
  · obtain ⟨sender, first, token, second, amount, third, called⟩ := ok
    have isCall : hubCall action = some (.burn sender token amount) := by
      simp [hubCall, isType, isBurn, first, second, third, ActionType.code]
    rw [asks isCall]
    apply callHub_leads _ (makes _ (.inl isCall)) _ called
    rintro rfl
    exact ite_self 0
  · obtain ⟨sender, first, receiver, second, token, third, amount, fourth, called⟩ := ok
    have isCall : hubCall action = some (.transferFrom sender receiver token amount) := by
      simp [hubCall, isType, isTransfer, first, second, third, fourth]
    rw [asks isCall]
    exact callHub_leads _ (makes _ (.inl isCall)) (fun _ => rfl) called
  · obtain ⟨receiver, first, token, second, amount, third, _, fourth, _, fifth, _, _, _, _, ⟨_, _⟩,
      fee, _, limit, _, pay, mint⟩ := ok
    have asksFee := makes _ (.inr ⟨isFastMint ▸ isType, _, _, _, _, _, _, second, third, fourth,
      fifth, fee, rfl⟩)
    obtain ⟨_, rfl⟩ := fastMintFee_frame fee
    obtain ⟨_, rfl⟩ := fastMintRateLimit_frame limit
    -- the fee is paid first, and moves tokens only
    have isCall : hubCall action = some (.mint receiver token amount) := by
      simp [hubCall, isType, isFastMint, first, second, third, ActionType.code]
    rw [asks isCall, ← zero_add (HubCall.issued _ _)]
    apply (callHub_leads _ asksFee (fun _ => rfl) pay).trans
    apply callHub_leads _ (makes _ (.inl isCall)) _ mint
    rintro rfl
    exact ite_self 0

theorem executeActions_leads {actions : List Bytes}
    (makes : ∀ call, ActionsMake env self ctx actions world call →
      kind (.hub (outgoing self ctx).toMsg call))
    (ok : executeActions env self ctx actions world = .ok after) :
    Hub.Leads env.hub kind id (issued id actions) world.hub after.hub := by
  induction actions generalizing world with
  | nil =>
      cases ok
      exact .refl _
  | cons action actions ih =>
      simp only [executeActions, bind_eq_ok] at ok
      obtain ⟨next, here, later⟩ := ok
      have split : issued id (action :: actions) = issued id [action] + issued id actions := by
        simp only [issued, ← List.sum_append, ← List.map_append, ← List.filterMap_append]
        rfl
      rw [split]
      refine (executeAction_leads ?_ here).trans (ih ?_ later)
      · intro call made
        exact makes call ⟨[], action, actions, world, rfl, rfl, made⟩
      · rintro call ⟨earlier, other, rest, before, rfl, reached, made⟩
        refine makes call ⟨action :: earlier, other, rest, before, rfl, ?_, made⟩
        exact bind_eq_ok.mpr ⟨next, here, reached⟩

end Oracle

namespace OracleWorld

/-- The calls to the hub behind a run: those that others make, and those that oracle contracts make
for the actions of completed executions, in the worlds that these executions went through. -/
def Makes (env : OracleEnv χ μ) (calls : List (OracleSystemCall χ μ)) (start : OracleWorld μ)
    (made : LedgerCall) : Prop :=
  .ledger made ∈ calls ∨ ∃ completion ∈ completed env calls start,
    completion.call.Completes env completion.pre completion.post ∧
      ∃ call, Oracle.ActionsMake env completion.call.self completion.call.ctx
          completion.call.execution.actions (completion.call.marked completion.pre) call ∧
        made = .hub ⟨completion.call.self, completion.call.ctx.timestamp⟩ call

/-- The amount by which a successful call raises the supply of an id. -/
def issued (env : OracleEnv χ μ) (id : U256)
    (success : Transition (OracleWorld μ) (OracleSystemCall χ μ)) : ℤ :=
  match success.call with
  | .ledger made => made.issued id
  | call => ((completions env call success.pre).map fun completion =>
      Oracle.issued id completion.call.execution.actions).sum

theorem run_leads (env : OracleEnv χ μ) (calls : List (OracleSystemCall χ μ))
    (start : OracleWorld μ) (id : U256) :
    Hub.Leads env.hub (Makes env calls start) id
      ((trace (step env) calls start).map (issued env id)).sum
      start.hub (run (step env) calls start).hub := by
  apply Hub.Leads.linked _ (trace_linked OracleWorld.hub calls start)
  intro ⟨pre, call, post⟩ member
  have ok := mem_trace member
  cases call with
  | oracle self ctx call =>
      -- a batch leaves the hub as submitting its entries one by one does
      have same : post.hub = _ :=
        congrArg Prod.fst ((step_submits ok trivial).2 fun outside => outside)
      rw [same]
      apply Hub.Leads.linked _ (trace_linked OracleWorld.hub _ pre)
      intro completion completes
      have completed := Submission.execute_ok (mem_trace completes)
      apply Oracle.executeActions_leads _ completed.applied
      intro call makes
      exact .inr ⟨completion, List.mem_flatMap.mpr ⟨_, member, completes⟩, completed, call, makes,
        rfl⟩
  | store ctx call =>
      simp only [step, bind_eq_ok, pure_eq_ok] at ok
      obtain ⟨_, _, rfl⟩ := ok
      exact .refl _
  | ledger call =>
      simp only [step, bind_eq_ok, bubble_eq_ok, pure_eq_ok] at ok
      obtain ⟨_, ok, rfl⟩ := ok
      exact .single (.inl (call_mem_of_mem_trace member)) ok
  | modules change =>
      simp only [step, pure_eq_ok] at ok
      subst ok
      exact .refl _

end OracleWorld

/-- Over every run of the oracle system, whatever the executions, signatures and modules, the hub
only changes by successful calls to it.  Each of them is made by others, or it is made by an oracle
contract for an action of an execution that completed, and then the action asks for it, or it is
the transfer of the fee that the calculator of a fast mint answered when the execution got to it. -/
theorem oracle_refines_ledger (env : OracleEnv χ μ) (start : OracleWorld μ)
    (calls : List (OracleSystemCall χ μ)) :
    Hub.Reaches env.hub (OracleWorld.Makes env calls start) start.hub
      (run (OracleWorld.step env) calls start).hub :=
  (OracleWorld.run_leads env calls start 0).reaches

/-- Over every run of the oracle system from an empty hub, the balances of each id add up to its
supply, and the supply is what the actions of completed executions and the calls of others mint,
less what they burn. -/
theorem oracle_supply (env : OracleEnv χ μ) (world : OracleWorld μ)
    (roles : Hub.Role → Address → Bool) (calls : List (OracleSystemCall χ μ)) (id : U256) :
    let start := { world with hub := Hub.empty roles }
    let hub := (run (OracleWorld.step env) calls start).hub
    ∑ account, (hub.balanceOf account id).toNat = (hub.totalSupply id).toNat ∧
      ((hub.totalSupply id).toNat : ℤ) =
        ((trace (OracleWorld.step env) calls start).map (OracleWorld.issued env id)).sum := by
  intro start hub
  obtain ⟨reaches, supply⟩ := OracleWorld.run_leads env calls start id
  have conserved : hub.Conserved := reaches.conserved (Hub.empty_conserved roles)
  refine ⟨?_, supply.trans (zero_add _)⟩
  rw [← conserved id, Book.total_eq_sum]
  simp only [Hub.book_apply]

end RelaySettlement
