import RelaySettlement.Allocator.Core
import RelaySettlement.Hub.Effects
import RelaySettlement.Evm.Registry

/-!
# Withdraw requests are processed once

`Accepts` says everything an accepted request does: it burns its amount from the
alias of its spender, stores a payload under a hash that had none, and consumes
the nonce when it came in through a signature.  Whole runs follow from it, since
no other call touches payloads, hashes or nonces.
-/

open Evm

namespace RelaySettlement

variable {χ : Type} {env : AllocatorEnv χ}

/-! ## One request -/

namespace Allocator

/-- Everything an accepted request did to the world. -/
structure Accepts (env : AllocatorEnv χ) (ctx : Ctx χ) (params : WithdrawRequest)
    (before after : AllocatorWorld) : Prop where
  unsuspended : before.allocator.suspended (spenderAlias env params) = false
  unprocessed : before.allocator.payloads (withdrawRequestHash env params) = []
  payload : ∃ payload, payload ≠ [] ∧ after.allocator.payloads =
    set before.allocator.payloads (withdrawRequestHash env params) payload
  hashes : ∀ other, other ≠ withdrawRequestHash env params →
    after.allocator.hashesToSign other = before.allocator.hashesToSign other
  burned : before.hub.burn ⟨env.self, ctx.timestamp⟩ (spenderAlias env params)
    (tokenId env params) params.amount = .ok after.hub
  nonce : if callerAuthorized env ctx params before then
      after.allocator.usedNonces = before.allocator.usedNonces
    else
      before.allocator.usedNonces (env.hub.keccak256 params.spender) params.nonce = false ∧
        after.allocator.usedNonces = set₂ before.allocator.usedNonces
          (env.hub.keccak256 params.spender) params.nonce true

theorem storeHashes_other {hash other : Bytes32} (different : other ≠ hash) (i : ℕ)
    (hashes : List Bytes32) (stored : Bytes32 → ℕ → Bytes32) :
    storeHashes hash i hashes stored other = stored other := by
  induction hashes generalizing i stored with
  | nil => rfl
  | cons head hashes ih =>
      rw [storeHashes, ih]
      funext index
      simp [different]

theorem storeHashes_below {index i : ℕ} (below : index < i) (hash : Bytes32)
    (hashes : List Bytes32) (stored : Bytes32 → ℕ → Bytes32) :
    storeHashes hash i hashes stored hash index = stored hash index := by
  induction hashes generalizing i stored with
  | nil => rfl
  | cons head hashes ih =>
      rw [storeHashes, ih (Nat.lt_succ_of_lt below), set₂_apply, if_neg]
      rintro ⟨_, rfl⟩
      exact Nat.lt_irrefl _ below

/-- The hashes stored from an index on are read back. -/
theorem storeHashes_same {hash stored' : Bytes32} {i index : ℕ} {hashes : List Bytes32}
    {stored : Bytes32 → ℕ → Bytes32} (listed : hashes[index]? = some stored') :
    storeHashes hash i hashes stored hash (i + index) = stored' := by
  induction hashes generalizing i stored index with
  | nil => cases listed
  | cons head hashes ih =>
      rw [storeHashes]
      cases index with
      | zero =>
          have kept := storeHashes_below (Nat.lt_succ_self i) hash hashes
            (set₂ stored hash i head)
          rw [set₂_apply, if_pos ⟨rfl, rfl⟩] at kept
          exact kept.trans (Option.some.inj listed)
      | succ index =>
          rw [Nat.add_comm index 1, ← Nat.add_assoc]
          exact ih listed

variable {ctx : Ctx χ} {params : WithdrawRequest} {signature : Bytes} {hash : Bytes32}
variable {before after : AllocatorWorld}

/-- A signature that authorises a request consumes an unused nonce, and changes
nothing else. -/
theorem consumeSpenderSignature_true
    (matched : (consumeSpenderSignature env ctx params signature before).1 = true) :
    before.allocator.usedNonces (env.hub.keccak256 params.spender) params.nonce = false ∧
      (consumeSpenderSignature env ctx params signature before).2 = { before with
        allocator := { before.allocator with
          usedNonces := set₂ before.allocator.usedNonces
            (env.hub.keccak256 params.spender) params.nonce true } } := by
  simp only [consumeSpenderSignature] at matched ⊢
  by_cases unsigned : signature = []
  · simp [unsigned] at matched
  by_cases used : before.allocator.usedNonces (env.hub.keccak256 params.spender) params.nonce
  · simp [unsigned, used] at matched
  by_cases matching : signatureMatches env ctx params signature before
  · simp [unsigned, used, matching]
  · simp [unsigned, used, matching] at matched

/-- An authorised request either comes from the spender or an operator, or has
consumed its nonce. -/
theorem authorize_ok (ok : authorize env ctx params signature before = .ok after) :
    ∃ nonces, after = { before with
        allocator := { before.allocator with usedNonces := nonces } } ∧
      if callerAuthorized env ctx params before then nonces = before.allocator.usedNonces
      else
        before.allocator.usedNonces (env.hub.keccak256 params.spender) params.nonce = false ∧
          nonces = set₂ before.allocator.usedNonces
            (env.hub.keccak256 params.spender) params.nonce true := by
  unfold authorize at ok
  by_cases direct : callerAuthorized env ctx params before
  · simp only [direct, if_true, pure_eq_ok] at ok ⊢
    exact ⟨_, ok.symm, rfl⟩
  · simp only [direct, Bool.false_eq_true, if_false, bind_eq_ok, require_eq_ok, pure_eq_ok]
      at ok ⊢
    obtain ⟨_, matched, rfl⟩ := ok
    obtain ⟨unused, consumed⟩ := consumeSpenderSignature_true matched
    exact ⟨_, consumed, unused, rfl⟩

theorem submit_ok
    (ok : internalSubmitWithdrawRequest env ctx params signature before = .ok (hash, after)) :
    hash = withdrawRequestHash env params ∧ Accepts env ctx params before after := by
  simp only [internalSubmitWithdrawRequest, bind_eq_ok, require_eq_ok, bubble_eq_ok,
    pure_eq_ok, Prod.mk.injEq] at ok
  obtain ⟨_, _, _, unsuspended, world, authorized, _, unprocessed, payload, _, _, nonempty,
    hub, burned, hashes, _, isHash, rfl⟩ := ok
  obtain ⟨nonces, rfl, nonce⟩ := authorize_ok authorized
  refine ⟨isHash.symm, unsuspended, unprocessed, ⟨payload, nonempty, rfl⟩, ?_, burned, nonce⟩
  intro other different
  exact storeHashes_other different 0 hashes _

/-- The parameters a request gives its payload builder. -/
def buildParams (params : WithdrawRequest) : BuildPayloadParams :=
  ⟨params.currency, params.amount, params.receiver, params.nonce, params.data⟩

/-- The payload builder of a request. -/
def builderOf (params : WithdrawRequest) (world : AllocatorWorld) : Address :=
  world.allocator.payloadBuilders params.chainId params.depository

/-- An accepted request stored the payload its builder built, and the hashes the builder
gave for it. -/
structure Stores (env : AllocatorEnv χ) (ctx : Ctx χ) (params : WithdrawRequest)
    (before after : AllocatorWorld) (payload : Bytes) (hashes : List Bytes32) : Prop where
  built : ∃ world, env.buildPayload ctx.rest world (builderOf params before) params.chainId
    params.depository (buildParams params) = some payload
  hashed : ∃ world, env.hashesToSign ctx.rest world (builderOf params before) params.chainId
    params.depository payload = some hashes
  payload : after.allocator.payloads (withdrawRequestHash env params) = payload
  hashes : ∀ index hash, hashes[index]? = some hash →
    after.allocator.hashesToSign (withdrawRequestHash env params) index = hash

theorem submit_stores
    (ok : internalSubmitWithdrawRequest env ctx params signature before = .ok (hash, after)) :
    ∃ payload hashes, Stores env ctx params before after payload hashes := by
  simp only [internalSubmitWithdrawRequest, buildPayload, bind_eq_ok, require_eq_ok,
    bubble_eq_ok, orRevert_eq_ok, pure_eq_ok, Prod.mk.injEq] at ok
  obtain ⟨_, _, _, _, world, authorized, _, _, payload, built, _, _, hub, _, hashes, hashed, _,
    rfl⟩ := ok
  refine ⟨payload, hashes, ⟨_, built⟩, ⟨_, hashed⟩, ?_, ?_⟩
  · simp [set_apply]
  · intro index hash listed
    have same : storeHashes (withdrawRequestHash env params) 0 hashes
        world.allocator.hashesToSign (withdrawRequestHash env params) (0 + index) = hash :=
      storeHashes_same listed
    rwa [Nat.zero_add] at same

end Allocator

/-! ## One call of the system -/

namespace AllocatorSystemCall

/-- The request a call submits, with the context it is submitted in. -/
def submission : AllocatorSystemCall χ → Option (Ctx χ × WithdrawRequest)
  | .allocator ctx (.submitWithdrawRequest params) => some (ctx, params)
  | .allocator ctx (.submitWithdrawRequestWithSignature params _) => some (ctx, params)
  | _ => none

/-- The request a call submits. -/
def request (call : AllocatorSystemCall χ) : Option WithdrawRequest :=
  call.submission.map Prod.snd

/-- The request a call submits through the signature path: neither the spender nor
an operator makes the call. -/
def signedRequest (env : AllocatorEnv χ) (world : AllocatorWorld)
    (call : AllocatorSystemCall χ) : Option WithdrawRequest :=
  call.submission.bind fun (ctx, params) =>
    if Allocator.callerAuthorized env ctx params world then none else some params

end AllocatorSystemCall

namespace AllocatorWorld

/-- The amount of one token the allocator takes from one account in a successful
call to it. -/
def burnedByAllocator (account : Address) (id : U256)
    (success : Transition AllocatorWorld (AllocatorSystemCall χ)) : ℕ :=
  match success.call with
  | .allocator _ _ =>
      (success.pre.hub.balanceOf account id).toNat -
        (success.post.hub.balanceOf account id).toNat
  | .ledger _ => 0

/-- No payload, hash or nonce differs. -/
structure KeepsRequests (before after : AllocatorWorld) : Prop where
  payloads : after.allocator.payloads = before.allocator.payloads
  hashesToSign : after.allocator.hashesToSign = before.allocator.hashesToSign
  usedNonces : after.allocator.usedNonces = before.allocator.usedNonces

variable {call : AllocatorSystemCall χ} {before after : AllocatorWorld}

/-- A successful call that submits a request is a submission that returned. -/
theorem step_submits {ctx : Ctx χ} {params : WithdrawRequest}
    (ok : step env call before = .ok after) (submits : call.submission = some (ctx, params)) :
    ∃ signature hash, Allocator.internalSubmitWithdrawRequest env ctx params signature before =
      .ok (hash, after) := by
  cases call with
  | ledger call => cases submits
  | allocator ctx' call =>
      simp only [step, bubble_eq_ok] at ok
      cases call with
      | submitWithdrawRequest params' =>
          cases submits
          simp only [exec, map_eq_ok] at ok
          obtain ⟨result, accepted, rfl⟩ := ok
          exact ⟨[], result.1, accepted⟩
      | submitWithdrawRequestWithSignature params' signature =>
          cases submits
          simp only [exec, map_eq_ok] at ok
          obtain ⟨result, accepted, rfl⟩ := ok
          exact ⟨signature, result.1, accepted⟩
      | setPayloadBuilder | suspend | unsuspend | setOwner => cases submits

/-- A successful call that submits a request accepts it. -/
theorem step_accepts {ctx : Ctx χ} {params : WithdrawRequest}
    (ok : step env call before = .ok after) (submits : call.submission = some (ctx, params)) :
    Allocator.Accepts env ctx params before after := by
  obtain ⟨signature, hash, accepted⟩ := step_submits ok submits
  exact (Allocator.submit_ok accepted).2

/-- A successful call that submits a request stores its payload and hashes. -/
theorem step_stores {ctx : Ctx χ} {params : WithdrawRequest}
    (ok : step env call before = .ok after) (submits : call.submission = some (ctx, params)) :
    ∃ payload hashes, Allocator.Stores env ctx params before after payload hashes := by
  obtain ⟨signature, hash, accepted⟩ := step_submits ok submits
  exact Allocator.submit_stores accepted

/-- Every other successful call keeps the requests, and a call to the allocator
keeps the hub too. -/
theorem step_keeps (ok : step env call before = .ok after)
    (submitsNone : call.submission = none) :
    KeepsRequests before after ∧
      ∀ ctx inner, call = .allocator ctx inner → after.hub = before.hub := by
  cases call with
  | ledger call =>
      simp only [step, bind_eq_ok, pure_eq_ok] at ok
      obtain ⟨hub, _, rfl⟩ := ok
      exact ⟨⟨rfl, rfl, rfl⟩, fun _ _ isAllocator => by cases isAllocator⟩
  | allocator ctx' call =>
      simp only [step, bubble_eq_ok] at ok
      cases call with
      | submitWithdrawRequest params => cases submitsNone
      | submitWithdrawRequestWithSignature params signature => cases submitsNone
      | setOwner owner =>
          simp only [exec, pure_eq_ok] at ok
          subst ok
          exact ⟨⟨rfl, rfl, rfl⟩, fun _ _ _ => rfl⟩
      | setPayloadBuilder | suspend | unsuspend =>
          simp only [exec, Allocator.setPayloadBuilder, Allocator.suspend,
            Allocator.unsuspend, Allocator.onlyOwner, bind_eq_ok, pure_eq_ok] at ok
          obtain ⟨_, _, rfl⟩ := ok
          exact ⟨⟨rfl, rfl, rfl⟩, fun _ _ _ => rfl⟩

/-- Whether a payload is stored for a hash. -/
def Processed (world : AllocatorWorld) (hash : Bytes32) : Prop :=
  world.allocator.payloads hash ≠ []

/-- Whether a nonce is used up for a spender. -/
def NonceUsed (world : AllocatorWorld) (key : Bytes32 × Bytes32) : Prop :=
  world.allocator.usedNonces key.1 key.2 = true

/-- A call registers the hash of the request it submits. -/
theorem step_registers_hash (ok : step env call before = .ok after) :
    Registers Processed before after
      (call.request.toList.map (Allocator.withdrawRequestHash env)) := by
  cases submits : call.submission with
  | none =>
      have payloads := (step_keeps ok submits).1.payloads
      simp only [AllocatorSystemCall.request, submits]
      apply Registers.unchanged
      funext hash
      simp only [Processed, payloads]
  | some submission =>
      obtain ⟨ctx, params⟩ := submission
      have accepts := step_accepts ok submits
      obtain ⟨payload, nonempty, stored⟩ := accepts.payload
      simp only [AllocatorSystemCall.request, submits]
      apply Registers.single
      · simpa [Processed] using accepts.unprocessed
      · intro other
        simp only [Processed, stored, set_apply]
        split <;> simp [*]

/-- The key under which a request's nonce is kept. -/
def nonceKey (env : AllocatorEnv χ) (params : WithdrawRequest) : Bytes32 × Bytes32 :=
  (env.hub.keccak256 params.spender, params.nonce)

/-- A call registers the nonce of the request it submits through a signature. -/
theorem step_registers_nonce (ok : step env call before = .ok after) :
    Registers NonceUsed before after
      ((call.signedRequest env before).toList.map (nonceKey env)) := by
  cases submits : call.submission with
  | none =>
      have nonces := (step_keeps ok submits).1.usedNonces
      simp only [AllocatorSystemCall.signedRequest, submits]
      apply Registers.unchanged
      funext key
      simp only [NonceUsed, nonces]
  | some submission =>
      obtain ⟨ctx, params⟩ := submission
      have nonce := (step_accepts ok submits).nonce
      by_cases direct : Allocator.callerAuthorized env ctx params before
      · simp only [direct, if_true] at nonce
        simp only [AllocatorSystemCall.signedRequest, submits, Option.bind_some, direct,
          if_true]
        apply Registers.unchanged
        funext key
        simp only [NonceUsed, nonce]
      · simp only [direct, Bool.false_eq_true, if_false] at nonce
        simp only [AllocatorSystemCall.signedRequest, submits, Option.bind_some, direct,
          Bool.false_eq_true, if_false]
        apply Registers.flag fun (world : AllocatorWorld) (key : Bytes32 × Bytes32) =>
          world.allocator.usedNonces key.1 key.2
        · exact nonce.1
        · rintro ⟨spenderKey, nonce'⟩
          simp [nonceKey, nonce.2, set₂_apply]

/-- A stored payload and the hashes stored with it stay. -/
theorem step_keeps_processed {hash : Bytes32} {payload : Bytes} {hashes : ℕ → Bytes32}
    (nonempty : payload ≠ []) (ok : step env call before = .ok after)
    (stored : before.allocator.payloads hash = payload ∧
      before.allocator.hashesToSign hash = hashes) :
    after.allocator.payloads hash = payload ∧ after.allocator.hashesToSign hash = hashes := by
  cases submits : call.submission with
  | none =>
      have keeps := (step_keeps ok submits).1
      rwa [keeps.payloads, keeps.hashesToSign]
  | some submission =>
      obtain ⟨ctx, params⟩ := submission
      have accepts := step_accepts ok submits
      have different : hash ≠ Allocator.withdrawRequestHash env params := by
        rintro rfl
        exact nonempty (stored.1.symm.trans accepts.unprocessed)
      obtain ⟨newPayload, _, written⟩ := accepts.payload
      rw [written, set_apply, if_neg different, accepts.hashes hash different]
      exact stored

theorem run_keeps_processed (env : AllocatorEnv χ) (calls : List (AllocatorSystemCall χ))
    {world : AllocatorWorld} {hash : Bytes32} (nonempty : world.allocator.payloads hash ≠ []) :
    (run (step env) calls world).allocator.payloads hash = world.allocator.payloads hash ∧
      (run (step env) calls world).allocator.hashesToSign hash =
        world.allocator.hashesToSign hash :=
  run_invariant
    (fun later => later.allocator.payloads hash = world.allocator.payloads hash ∧
      later.allocator.hashesToSign hash = world.allocator.hashesToSign hash)
    (fun _ _ _ stored ok => step_keeps_processed nonempty ok stored) calls world ⟨rfl, rfl⟩

/-- What the allocator takes from an account in one call is the amount of the
request it accepts, if the request is about that account and token. -/
theorem step_burns (account : Address) (id : U256)
    (ok : step env call before = .ok after) :
    burnedByAllocator account id ⟨before, call, after⟩ =
      ((call.request.map fun params =>
        if Allocator.spenderAlias env params = account ∧ Allocator.tokenId env params = id
        then params.amount.toNat else 0).getD 0) := by
  cases call with
  | ledger call => rfl
  | allocator ctx call =>
      cases submits : (AllocatorSystemCall.allocator ctx call).submission with
      | none =>
          have hub := (step_keeps ok submits).2 ctx call rfl
          simp [burnedByAllocator, AllocatorSystemCall.request, submits, hub]
      | some submission =>
          obtain ⟨ctx', params⟩ := submission
          have burn := (Hub.burn_ok (step_accepts ok submits).burned).1
          have balance := burn.burn_balance account id
          simp only [burnedByAllocator, AllocatorSystemCall.request, submits, Option.map_some,
            Option.getD_some]
          omega

end AllocatorWorld

/-! ## Whole runs -/

/-- Over every run of allocator calls from a fresh allocator, interleaved with any
activity on the hub: each request hash is accepted at most once and has a payload
exactly if it was accepted; a payload and its hashes never change once stored; what
the allocator burned from an account is what the accepted requests of that account
ask for; a nonce of a spender serves at most one request through the signature path;
no request of a suspended alias is accepted; and a rejected call changes nothing. -/
theorem allocator_exactly_once (env : AllocatorEnv χ) (start : AllocatorWorld)
    (owner : Address) (fresh : start.allocator = Allocator.empty owner)
    (calls : List (AllocatorSystemCall χ)) :
    let step := AllocatorWorld.step env
    let final := run step calls start
    let successes := trace step calls start
    let accepted := successes.filterMap fun success => success.call.request
    let signed := successes.filterMap fun success =>
      success.call.signedRequest env success.pre
    let hashes := accepted.map (Allocator.withdrawRequestHash env)
    hashes.Nodup ∧
      (∀ hash, final.allocator.payloads hash ≠ [] ↔ hash ∈ hashes) ∧
      (∀ first second hash, calls = first ++ second →
        let earlier := run step first start
        earlier.allocator.payloads hash ≠ [] →
        final.allocator.payloads hash = earlier.allocator.payloads hash ∧
          final.allocator.hashesToSign hash = earlier.allocator.hashesToSign hash) ∧
      (∀ account id,
        (successes.map (AllocatorWorld.burnedByAllocator account id)).sum =
          (accepted.map fun params =>
            if Allocator.spenderAlias env params = account ∧
              Allocator.tokenId env params = id
            then params.amount.toNat else 0).sum) ∧
      (signed.map fun params => (params.spender, params.nonce)).Nodup ∧
      (∀ success ∈ successes, ∀ params, success.call.request = some params →
        success.pre.allocator.suspended (Allocator.spenderAlias env params) = false) ∧
      ∀ call world error, step call world = .error error → attempt step call world = world := by
  intro step final successes accepted signed hashes
  have registers : Registers AllocatorWorld.Processed start final hashes := by
    have registered := run_registers step (fun _ _ => True)
      (fun call _ => call.request.toList.map (Allocator.withdrawRequestHash env))
      (fun _ _ _ _ ok => AllocatorWorld.step_registers_hash ok)
      calls start (along_trivial calls start)
    rwa [← List.map_flatMap, ← List.filterMap_eq_flatMap_toList] at registered
  have registersNonces : Registers AllocatorWorld.NonceUsed start final
      (signed.map (AllocatorWorld.nonceKey env)) := by
    have registered := run_registers step (fun _ _ => True)
      (fun call world => (call.signedRequest env world).toList.map
        (AllocatorWorld.nonceKey env))
      (fun _ _ _ _ ok => AllocatorWorld.step_registers_nonce ok)
      calls start (along_trivial calls start)
    rwa [← List.map_flatMap, ← List.filterMap_eq_flatMap_toList] at registered
  refine ⟨registers.nodup, ?_, ?_, ?_, ?_, ?_, fun _ _ _ => attempt_error⟩
  · intro hash
    have unprocessed : ¬ start.Processed hash := by
      simp [AllocatorWorld.Processed, fresh, Allocator.empty]
    have marks := registers.marks hash
    rwa [or_iff_right unprocessed] at marks
  · intro first second hash split earlier nonempty
    have later : final = run step second earlier := by
      simp only [final, earlier, split, run_append]
    rw [later]
    exact AllocatorWorld.run_keeps_processed env second nonempty
  · intro account id
    rw [sum_filterMap]
    apply congrArg List.sum
    apply List.map_congr_left
    intro success member
    exact AllocatorWorld.step_burns account id (mem_trace member)
  · -- the nonce keys are images of the pairs of spender and nonce
    have nodup := registersNonces.nodup
    have image : signed.map (AllocatorWorld.nonceKey env) =
        (signed.map fun params => (params.spender, params.nonce)).map
          fun pair => (env.hub.keccak256 pair.1, pair.2) := by
      simp [AllocatorWorld.nonceKey]
    rw [image] at nodup
    exact nodup.of_map
  · intro success member params requested
    obtain ⟨⟨ctx, params'⟩, submits, rfl⟩ := Option.map_eq_some_iff.mp requested
    exact (AllocatorWorld.step_accepts (mem_trace member) submits).unsuspended

namespace SampleRequests

/-- The allocator lives at 80; its builders return the currency they are given. -/
def environment (χ : Type) : AllocatorEnv χ where
  hub := ⟨Abi.sampleHash, 0, fun _ _ _ _ => none, fun index => BitVec.ofNat 160 (100 + index)⟩
  self := 80
  oracleMultisig := 81
  domainSeparator := 0
  tryRecover := fun _ _ => none
  isValidSignatureNow := fun _ _ _ _ _ => false
  buildPayload := fun _ _ _ _ _ params => some params.currency
  hashesToSign := fun _ _ _ _ _ payload => some [Abi.sampleHash payload]

def surroundings : AllocatorEnv Unit := environment Unit

/-- The allocator and account 1 are operators of the hub. -/
def start : AllocatorWorld :=
  ⟨Hub.empty fun _ account => account == 80 || account == 1, Allocator.empty 1⟩

/-- Account 5 withdraws 40 of a currency. -/
def params : WithdrawRequest where
  chainId := [1]
  depository := [2]
  currency := [3]
  amount := 40
  spenderChainId := [4]
  spender := List.replicate 19 0 ++ [5]
  receiver := [6]
  data := []
  nonce := 7

/-- The alias is funded, the builder set, and the request submitted twice, the
second time after the builder was replaced. -/
def calls : List (AllocatorSystemCall Unit) :=
  [.ledger (.hub ⟨1, 0⟩ (.mint (Allocator.spenderAlias surroundings params)
      (Allocator.tokenId surroundings params) 100)),
    .allocator ⟨⟨1, 0⟩, ()⟩ (.setPayloadBuilder [1] [2] 60),
    .allocator ⟨⟨5, 0⟩, ()⟩ (.submitWithdrawRequest params),
    .allocator ⟨⟨1, 0⟩, ()⟩ (.setPayloadBuilder [1] [2] 61),
    .allocator ⟨⟨5, 0⟩, ()⟩ (.submitWithdrawRequest params)]

end SampleRequests

theorem allocator_exactly_once_sample :
    (trace (AllocatorWorld.step SampleRequests.surroundings) SampleRequests.calls
        SampleRequests.start).filterMap (fun success => success.call.request) =
      [SampleRequests.params] ∧
    ∀ hash, (run (AllocatorWorld.step SampleRequests.surroundings) SampleRequests.calls
        SampleRequests.start).allocator.payloads hash ≠ [] ↔
      hash ∈ [Allocator.withdrawRequestHash SampleRequests.surroundings
        SampleRequests.params] := by
  have accepted :
      (trace (AllocatorWorld.step SampleRequests.surroundings) SampleRequests.calls
        SampleRequests.start).filterMap (fun success => success.call.request) =
      [SampleRequests.params] := by
    decide +kernel
  have stored := (allocator_exactly_once SampleRequests.surroundings SampleRequests.start 1
    rfl SampleRequests.calls).2.1
  rw [accepted] at stored
  exact ⟨accepted, stored⟩

end RelaySettlement
