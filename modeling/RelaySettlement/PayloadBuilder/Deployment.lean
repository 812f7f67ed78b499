import RelaySettlement.Allocator.Requests
import RelaySettlement.PayloadBuilder.EthereumVm

/-!
# The allocator over a deployed payload builder

What a run of the allocator stores and burns for a request, in terms of the two views of the
builder that is deployed where the request is sent.
-/

open Evm

namespace RelaySettlement

/-- The views of a payload builder, which revert with `none`. -/
structure BuilderViews where
  buildPayload : HubChain → Bytes → Bytes → BuildPayloadParams → Option Bytes
  hashesToSign : HubChain → Bytes → Bytes → Bytes → Option (List Bytes32)

variable {χ : Type}

/-- The contract at an address is the builder with the given views; `chainOf` is what views
read in the context of a call. -/
structure AllocatorEnv.Deployed (env : AllocatorEnv χ) (chainOf : χ → HubChain)
    (builder : Address) (views : BuilderViews) : Prop where
  buildPayload : ∀ rest world chainId depository params,
    env.buildPayload rest world builder chainId depository params =
      views.buildPayload (chainOf rest) chainId depository params
  hashesToSign : ∀ rest world chainId depository payload,
    env.hashesToSign rest world builder chainId depository payload =
      views.hashesToSign (chainOf rest) chainId depository payload

namespace AllocatorWorld

/-- In a run a call is accepted that submits a request, in some context, through the builder
at an address. -/
structure AcceptedThrough (env : AllocatorEnv χ) (start : AllocatorWorld)
    (calls : List (AllocatorSystemCall χ)) (builder : Address)
    (success : Transition AllocatorWorld (AllocatorSystemCall χ)) (ctx : Ctx χ)
    (params : WithdrawRequest) : Prop where
  member : success ∈ trace (step env) calls start
  submits : success.call.submission = some (ctx, params)
  through : Allocator.builderOf params success.pre = builder

/-- What an accepted request gets: the payload the builder built for it and the hashes it
gave for the payload, as they are stored at the end of the run, for the burn of the
amount. -/
structure Delivers (env : AllocatorEnv χ) (chain : HubChain) (views : BuilderViews)
    (success : Transition AllocatorWorld (AllocatorSystemCall χ)) (ctx : Ctx χ)
    (params : WithdrawRequest) (final : AllocatorWorld) (hashes : List Bytes32) : Prop where
  built : views.buildPayload chain params.chainId params.depository
    (Allocator.buildParams params) =
      some (final.allocator.payloads (Allocator.withdrawRequestHash env params))
  hashed : views.hashesToSign chain params.chainId params.depository
    (final.allocator.payloads (Allocator.withdrawRequestHash env params)) = some hashes
  hashes : ∀ index hash, hashes[index]? = some hash →
    final.allocator.hashesToSign (Allocator.withdrawRequestHash env params) index = hash
  burned : success.pre.hub.burn ⟨env.self, ctx.timestamp⟩ (Allocator.spenderAlias env params)
    (Allocator.tokenId env params) params.amount = .ok success.post.hub

theorem AcceptedThrough.delivers {env : AllocatorEnv χ} {start : AllocatorWorld}
    {calls : List (AllocatorSystemCall χ)} {builder : Address}
    {success : Transition AllocatorWorld (AllocatorSystemCall χ)} {ctx : Ctx χ}
    {params : WithdrawRequest} {chainOf : χ → HubChain} {views : BuilderViews}
    (accepted : AcceptedThrough env start calls builder success ctx params)
    (deployed : env.Deployed chainOf builder views) :
    ∃ hashes, Delivers env (chainOf ctx.rest) views success ctx params
      (run (step env) calls start) hashes := by
  obtain ⟨member, submits, rfl⟩ := accepted
  have ok := mem_trace member
  have accepts := step_accepts ok submits
  obtain ⟨payload, hashes, stores⟩ := step_stores ok submits
  obtain ⟨_, built⟩ := stores.built
  obtain ⟨_, hashed⟩ := stores.hashed
  obtain ⟨later, isFinal⟩ := mem_trace_later member
  have nonempty : success.post.allocator.payloads (Allocator.withdrawRequestHash env params) ≠
      [] := by
    obtain ⟨stored, nonempty, isStored⟩ := accepts.payload
    rw [isStored, set_apply, if_pos rfl]
    exact nonempty
  obtain ⟨keptPayload, keptHashes⟩ := run_keeps_processed env later nonempty
  rw [isFinal, stores.payload] at keptPayload
  rw [isFinal] at keptHashes
  refine ⟨hashes, ?_, ?_, ?_, accepts.burned⟩
  · rw [keptPayload, ← deployed.buildPayload]
    exact built
  · rw [keptPayload, ← deployed.hashesToSign]
    exact hashed
  · intro index hash listed
    rw [keptHashes]
    exact stores.hashes index hash listed

end AllocatorWorld

/-! An allocator that everybody has funds with, over one builder. -/

namespace SampleAllocator

def surroundings (views : BuilderViews) : AllocatorEnv HubChain :=
  { SampleRequests.environment HubChain with
    buildPayload := fun chain _ _ => views.buildPayload chain
    hashesToSign := fun chain _ _ => views.hashesToSign chain }

theorem deployed (views : BuilderViews) : (surroundings views).Deployed id 20 views where
  buildPayload := fun _ _ _ _ _ => rfl
  hashesToSign := fun _ _ _ _ _ => rfl

def start : AllocatorWorld where
  hub := { Hub.empty (fun _ account => account == 80) with
    balanceOf := fun _ _ => 1000
    totalSupply := fun _ => 10000
    erc20Views := fun _ => 9 }
  allocator := { Allocator.empty 1 with payloadBuilders := fun _ _ => 20 }

/-- The spender submits a request itself. -/
def context (chain : HubChain) (params : WithdrawRequest) : Ctx HubChain :=
  ⟨⟨BitVec.ofNat 160 (Abi.readBigEndian params.spender), 0⟩, chain⟩

/-- Submissions, each with what views read at the time. -/
def calls (submissions : List (HubChain × WithdrawRequest)) :
    List (AllocatorSystemCall HubChain) :=
  submissions.map fun (chain, params) =>
    .allocator (context chain params) (.submitWithdrawRequest params)

/-- The payload that is kept for a request. -/
def payloadOf (views : BuilderViews) (submissions : List (HubChain × WithdrawRequest))
    (params : WithdrawRequest) : Bytes :=
  (run (AllocatorWorld.step (surroundings views)) (calls submissions) start).allocator.payloads
    (Allocator.withdrawRequestHash (surroundings views) params)

/-- The accepted requests, with their builders. -/
def accepted (views : BuilderViews) (submissions : List (HubChain × WithdrawRequest)) :
    List (WithdrawRequest × Address) :=
  (trace (AllocatorWorld.step (surroundings views)) (calls submissions) start).filterMap
    fun success => success.call.request.map fun params =>
      (params, Allocator.builderOf params success.pre)

theorem exists_accepted {views : BuilderViews}
    {submissions : List (HubChain × WithdrawRequest)} {requests : List (WithdrawRequest × Address)}
    {params : WithdrawRequest} (ran : accepted views submissions = requests)
    (listed : (params, 20) ∈ requests) :
    ∃ success chain, (chain, params) ∈ submissions ∧
      AllocatorWorld.AcceptedThrough (surroundings views) start (calls submissions) 20 success
        (context chain params) params := by
  rw [← ran] at listed
  obtain ⟨success, member, isAccepted⟩ := List.mem_filterMap.mp listed
  obtain ⟨params', requests, same⟩ := Option.map_eq_some_iff.mp isAccepted
  obtain ⟨rfl, through⟩ := Prod.mk.inj same
  obtain ⟨⟨chain, params⟩, isSubmission, isCall⟩ :=
    List.mem_map.mp (call_mem_of_mem_trace member)
  rw [← isCall] at requests
  cases requests
  exact ⟨success, chain, isSubmission, member, by rw [← isCall]; rfl, through⟩

end SampleAllocator

end RelaySettlement
