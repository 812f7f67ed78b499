import RelaySettlement.PayloadBuilder.Deployment

/-!
# Token ids and aliases

Both identifiers hash a chain id and a second byte string without a mark between them, so
they stand for the concatenation and not for the pair.  Without a collision two pairs share
an identifier exactly if they are one string that is cut at two places.
-/

open Evm

namespace RelaySettlement

namespace Utils

/-- Two pairs are one string, cut at two places: some bytes at the end of one chain id are
the first bytes of the other pair's second part. -/
def Regroups (chainId rest chainId' rest' : Bytes) : Prop :=
  ∃ moved ≠ [], (chainId' = chainId ++ moved ∧ rest = moved ++ rest') ∨
    (chainId = chainId' ++ moved ∧ rest' = moved ++ rest)

/-- The low 160 bits of the hash have no collision among some inputs. -/
def NoAliasCollision (keccak256 : Bytes → Bytes32) (inputs : List Bytes) : Prop :=
  ∀ first ∈ inputs, ∀ second ∈ inputs,
    (keccak256 first).setWidth 160 = (keccak256 second).setWidth 160 → first = second

instance (keccak256 : Bytes → Bytes32) (inputs : List Bytes) :
    Decidable (NoAliasCollision keccak256 inputs) :=
  inferInstanceAs (Decidable (∀ first ∈ inputs, ∀ second ∈ inputs,
    (keccak256 first).setWidth 160 = (keccak256 second).setWidth 160 → first = second))

variable {keccak256 : Bytes → Bytes32} {chainId rest chainId' rest' : Bytes}

theorem append_eq_iff :
    chainId ++ rest = chainId' ++ rest' ↔
      (chainId = chainId' ∧ rest = rest') ∨ Regroups chainId rest chainId' rest' := by
  rw [List.append_eq_append_iff]
  constructor
  · rintro (⟨moved, longer, split⟩ | ⟨moved, longer, split⟩)
    · rcases moved.eq_nil_or_concat with rfl | ⟨_, _, rfl⟩
      · exact .inl ⟨by simpa using longer.symm, by simpa using split⟩
      · exact .inr ⟨_, by simp, .inl ⟨longer, split⟩⟩
    · rcases moved.eq_nil_or_concat with rfl | ⟨_, _, rfl⟩
      · exact .inl ⟨by simpa using longer, by simpa using split.symm⟩
      · exact .inr ⟨_, by simp, .inr ⟨longer, split⟩⟩
  · rintro (⟨rfl, rfl⟩ | ⟨moved, _, shorter | longer⟩)
    · exact .inl ⟨[], by simp⟩
    · exact .inl ⟨moved, shorter⟩
    · exact .inr ⟨moved, longer⟩

theorem Regroups.chainId_ne (regroups : Regroups chainId rest chainId' rest') :
    chainId.length ≠ chainId'.length := by
  obtain ⟨moved, nonempty, ⟨rfl, _⟩ | ⟨rfl, _⟩⟩ := regroups <;>
    simp [nonempty]

/-- A pair is determined up to regrouping by anything that is determined by the
concatenation. -/
theorem pair_eq_iff_not_regroups {identifiers : Prop}
    (concatenations : identifiers ↔ chainId ++ rest = chainId' ++ rest') :
    (identifiers → chainId = chainId' ∧ rest = rest') ↔
      ¬ Regroups chainId rest chainId' rest' := by
  rw [concatenations, append_eq_iff]
  constructor
  · intro injective regroups
    obtain ⟨rfl, _⟩ := injective (.inr regroups)
    exact regroups.chainId_ne rfl
  · rintro separate (same | regroups)
    · exact same
    · exact absurd regroups separate

theorem generateTokenId_eq_iff
    (noCollision : Abi.NoCollision keccak256 [chainId ++ rest, chainId' ++ rest']) :
    generateTokenId keccak256 chainId rest = generateTokenId keccak256 chainId' rest' ↔
      chainId ++ rest = chainId' ++ rest' := by
  constructor
  · exact noCollision _ (by simp) _ (by simp)
  · intro same
    rw [generateTokenId, generateTokenId, same]

/-- On one chain a token id stands for the currency. -/
theorem generateTokenId_eq_iff_of_chainId {currency currency' : Bytes}
    (noCollision : Abi.NoCollision keccak256 [chainId ++ currency, chainId ++ currency']) :
    generateTokenId keccak256 chainId currency = generateTokenId keccak256 chainId currency' ↔
      currency = currency' := by
  rw [generateTokenId_eq_iff noCollision]
  exact List.append_cancel_left_eq chainId currency currency' ▸ Iff.rfl

theorem generateAddress_eq_iff
    (noCollision : NoAliasCollision keccak256 [chainId ++ rest, chainId' ++ rest']) :
    generateAddress keccak256 chainId rest = generateAddress keccak256 chainId' rest' ↔
      chainId ++ rest = chainId' ++ rest' := by
  constructor
  · exact noCollision _ (by simp) _ (by simp)
  · intro same
    rw [generateAddress, generateAddress, same]

end Utils

open Utils in
/-- Two pairs with one token id or alias are equal exactly if they are not one string cut at
two places.  In every run of the allocator a request that is accepted because its spender is
the caller burns from the alias of its spender, which is the alias of a spender on another
chain id exactly if the two are one string cut at two places. -/
theorem identifiers_separate {χ : Type} (env : AllocatorEnv χ) (start : AllocatorWorld)
    (calls : List (AllocatorSystemCall χ)) :
    let keccak256 := env.hub.keccak256
    (∀ chainId token chainId' token' : Bytes,
      Abi.NoCollision keccak256 [chainId ++ token, chainId' ++ token'] →
        ((generateTokenId keccak256 chainId token =
            generateTokenId keccak256 chainId' token' → chainId = chainId' ∧ token = token') ↔
          ¬ Regroups chainId token chainId' token')) ∧
      (∀ chainId account chainId' account' : Bytes,
        NoAliasCollision keccak256 [chainId ++ account, chainId' ++ account'] →
          ((generateAddress keccak256 chainId account =
              generateAddress keccak256 chainId' account' →
                chainId = chainId' ∧ account = account') ↔
            ¬ Regroups chainId account chainId' account')) ∧
      ∀ success ∈ trace (AllocatorWorld.step env) calls start, ∀ ctx params,
        success.call.submission = some (ctx, params) →
        Allocator.spenderAddress params.spender = some ctx.sender →
          success.pre.hub.burn ⟨env.self, ctx.timestamp⟩
            (generateAddress keccak256 params.spenderChainId params.spender)
            (Allocator.tokenId env params) params.amount = .ok success.post.hub ∧
          ∀ chainId spender : Bytes, chainId ≠ params.spenderChainId →
            NoAliasCollision keccak256
              [params.spenderChainId ++ params.spender, chainId ++ spender] →
              (generateAddress keccak256 params.spenderChainId params.spender ≠
                  generateAddress keccak256 chainId spender ↔
                ¬ Regroups params.spenderChainId params.spender chainId spender) := by
  intro keccak256
  refine ⟨?_, ?_, ?_⟩
  · intro chainId token chainId' token' noCollision
    exact pair_eq_iff_not_regroups (generateTokenId_eq_iff noCollision)
  · intro chainId account chainId' account' noCollision
    exact pair_eq_iff_not_regroups (generateAddress_eq_iff noCollision)
  · intro success member ctx params submits _
    refine ⟨(AllocatorWorld.step_accepts (mem_trace member) submits).burned, ?_⟩
    intro chainId spender different noCollision
    rw [← pair_eq_iff_not_regroups (generateAddress_eq_iff noCollision)]
    constructor
    · intro separate same
      exact absurd same separate
    · intro injective same
      exact different (injective same).1.symm

/-! A chain id that takes in the first byte of another spender. -/

namespace SampleIdentifiers

open SampleAllocator

def views : BuilderViews := ⟨fun _ _ _ _ => some [1], fun _ _ _ _ => some []⟩

def chain : HubChain := ⟨3, 1000, fun _ _ => none, fun _ _ => 0⟩

def account : Bytes := List.replicate 19 0 ++ [5]

/-- The owner is known under 21 bytes on the chain `tron`. -/
def owner : Bytes := 0x41 :: account

/-- Account 5 withdraws for its 20 bytes on a chain `tronA`. -/
def params : WithdrawRequest :=
  { SampleRequests.params with spenderChainId := Abi.utf8 "tronA", spender := account }

def final : AllocatorWorld :=
  run (AllocatorWorld.step (surroundings views)) (calls [(chain, params)]) start

theorem accepted_params : accepted views [(chain, params)] = [(params, 20)] := by
  decide +kernel

end SampleIdentifiers

open SampleIdentifiers SampleAllocator in
theorem identifiers_separate_sample :
    Allocator.spenderAddress params.spender = some 5 ∧
      Utils.generateAddress Abi.sampleHash params.spenderChainId params.spender ≠
        Utils.generateAddress Abi.sampleHash (Abi.utf8 "base0") account := by
  refine ⟨by decide +kernel, ?_⟩
  obtain ⟨success, chain', listed, through⟩ := exists_accepted accepted_params
    (List.mem_singleton_self _)
  cases List.mem_singleton.mp listed
  have separate := ((identifiers_separate (surroundings views) start
    (calls [(chain, params)])).2.2 success through.member _ params through.submits
    (by decide +kernel)).2 (Abi.utf8 "base0") account (by decide +kernel) (by decide +kernel)
  apply separate.mpr
  intro regroups
  exact regroups.chainId_ne (by decide +kernel)

open SampleIdentifiers SampleAllocator in
/-- The pairs `(a, b1)` and `(ab, 1)` have one token id, whatever the hash function.  A
request for a spender of 20 bytes that its account submits is accepted, and burns from the
alias of a spender of 21 bytes on a shorter chain id, again whatever the hash function. -/
theorem identifiers_regrouped :
    (∀ keccak256 : Bytes → Bytes32,
      Utils.generateTokenId keccak256 [97] [98, 1] =
        Utils.generateTokenId keccak256 [97, 98] [1] ∧
      Utils.generateAddress keccak256 params.spenderChainId params.spender =
        Utils.generateAddress keccak256 (Abi.utf8 "tron") owner) ∧
    params.spenderChainId ≠ Abi.utf8 "tron" ∧
    Allocator.spenderAddress params.spender = some (context chain params).sender ∧
    accepted views [(chain, params)] = [(params, 20)] ∧
    start.hub.balanceOf (Utils.generateAddress Abi.sampleHash (Abi.utf8 "tron") owner)
        (Allocator.tokenId (surroundings views) params) = 1000 ∧
      final.hub.balanceOf
        (Utils.generateAddress Abi.sampleHash (Abi.utf8 "tron") owner)
        (Allocator.tokenId (surroundings views) params) = 960 := by
  have strings : params.spenderChainId ++ params.spender = Abi.utf8 "tron" ++ owner := by
    decide +kernel
  refine ⟨?_, by decide +kernel, by decide +kernel, accepted_params, by decide +kernel,
    by decide +kernel⟩
  intro keccak256
  refine ⟨rfl, ?_⟩
  rw [Utils.generateAddress, Utils.generateAddress, strings]

end RelaySettlement
