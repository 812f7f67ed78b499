import RelaySettlement.PayloadBuilder.Deployment
import RelaySettlement.PayloadBuilder.Signing

/-!
# Which burns have a payout of their own

A withdraw request burns under a hash of all its nine fields, but the payload builders see
neither the spender nor its chain.  In a run of the allocator, requests that a builder tells
apart get disjoint hashes to sign, and requests that differ in the spender at most share one.
-/

open Evm

namespace RelaySettlement

/-! ## The allocator with its builders -/

/-- What is deployed at the address of a payload builder. -/
inductive BuilderContract where
  | ethereumVm (config : Address)
  | gatewayVm (config gasPayer : Address)

namespace BuilderContract

open PayloadBuilder GatewayVmPayloadBuilder

section Views

variable (keccak256 : Bytes → Bytes32) (destinations : Destinations)
variable (chain : HubChain) (self : Address)

def buildPayload (contract : BuilderContract) (chainId depository : Bytes)
    (params : BuildPayloadParams) : Except Error Bytes :=
  match contract with
  | .ethereumVm config =>
      EthereumVmPayloadBuilder.buildPayload keccak256 chain ⟨self, config⟩ chainId depository
        params
  | .gatewayVm config gasPayer =>
      GatewayVmPayloadBuilder.buildPayload keccak256 destinations chain
        ⟨self, config, gasPayer⟩ chainId depository params

def hashesToSign (contract : BuilderContract) (chainId depository payload : Bytes) :
    Except Error (List Bytes32) :=
  match contract with
  | .ethereumVm config =>
      EthereumVmPayloadBuilder.hashesToSign keccak256 chain ⟨self, config⟩ chainId depository
        payload
  | .gatewayVm config gasPayer =>
      GatewayVmPayloadBuilder.hashesToSign keccak256 destinations chain
        ⟨self, config, gasPayer⟩ payload

def views (contract : BuilderContract) : BuilderViews where
  buildPayload := fun chain chainId depository params =>
    (contract.buildPayload keccak256 destinations chain self chainId depository params).toOption
  hashesToSign := fun chain chainId depository payload =>
    (contract.hashesToSign keccak256 destinations chain self chainId depository payload).toOption

/-- What is hashed from a request to its hashes to sign. -/
def inputs (contract : BuilderContract) (chainId depository : Bytes)
    (params : BuildPayloadParams) : Except Error (List Bytes) :=
  match contract with
  | .ethereumVm config =>
      EthereumVmPayloadBuilder.inputs keccak256 chain ⟨self, config⟩ chainId depository params
  | .gatewayVm config gasPayer =>
      GatewayVmPayloadBuilder.inputs keccak256 destinations chain ⟨self, config, gasPayer⟩
        chainId depository params

end Views

/-- How many hashes are signed for a payload. -/
def hashCount : BuilderContract → ℕ
  | .ethereumVm _ => 1
  | .gatewayVm _ _ => 2

/-- Whether the builder tells two requests apart that are submitted in the given blocks: it
sees a field in which they differ, or puts the block into the nonce. -/
def Distinguishes (contract : BuilderContract) (block block' : U256)
    (params params' : WithdrawRequest) : Prop :=
  ¬ params.SameButSpender params' ∨
    match contract with
    | .ethereumVm _ => block ≠ block'
    | .gatewayVm _ _ => False

variable {keccak256 : Bytes → Bytes32} {destinations : Destinations}
variable {chain chain' : HubChain} {self : Address} {contract : BuilderContract}
variable {params params' : WithdrawRequest} {hashes hashes' : List Bytes32}

/-- The payload of a request and the hashes to sign, as a builder computes them. -/
structure Signs (keccak256 : Bytes → Bytes32)
    (destinations : Destinations) (chain : HubChain) (builder : Address)
    (contract : BuilderContract) (params : WithdrawRequest) (payload : Bytes)
    (hashes : List Bytes32) : Prop where
  built : contract.buildPayload keccak256 destinations chain builder params.chainId
    params.depository (Allocator.buildParams params) = .ok payload
  hashed : contract.hashesToSign keccak256 destinations chain builder params.chainId
    params.depository payload = .ok hashes

theorem Signs.length {payload : Bytes}
    (signs : Signs keccak256 destinations chain self contract params payload hashes) :
    hashes.length = contract.hashCount := by
  obtain ⟨built, hashed⟩ := signs
  cases contract with
  | ethereumVm config =>
      obtain ⟨_, _, rfl, _⟩ :=
        EthereumVmPayloadBuilder.hashesToSign_of_buildPayload built hashed
      rfl
  | gatewayVm config gasPayer =>
      obtain ⟨_, _, _, _, _, rfl, _⟩ :=
        hashesToSign_of_buildPayload built hashed
      rfl

/-- Requests that a builder tells apart share no hash to sign. -/
theorem Signs.disjoint {payload payload' : Bytes}
    (signs : Signs keccak256 destinations chain self contract params payload hashes)
    (signs' : Signs keccak256 destinations chain' self contract params' payload' hashes')
    (decodable : params.Decodable) (decodable' : params'.Decodable)
    (noCollision : Abi.NoCollision keccak256
      (((contract.inputs keccak256 destinations chain self params.chainId params.depository
        (Allocator.buildParams params)).toOption.getD []) ++
      ((contract.inputs keccak256 destinations chain' self params'.chainId params'.depository
        (Allocator.buildParams params')).toOption.getD [])))
    (distinguishes : contract.Distinguishes chain.blockNumber chain'.blockNumber params
      params') : hashes.Disjoint hashes' := by
  intro hash shared shared'
  obtain ⟨built, hashed⟩ := signs
  obtain ⟨built', hashed'⟩ := signs'
  cases contract with
  | ethereumVm config =>
      have same := EthereumVmPayloadBuilder.encodeNonce_eq_of_shared built hashed built' hashed'
        noCollision shared shared'
      obtain ⟨front, sameButSpender⟩ := WithdrawRequest.values_inj
        [chain.blockNumber, self.setWidth 256] [chain'.blockNumber, self.setWidth 256]
        decodable decodable' (Nat.le_refl 2) rfl same
      rcases distinguishes with different | different
      · exact different sameButSpender
      · exact different (List.cons.inj front).1
  | gatewayVm config gasPayer =>
      have same := encodeSalt_eq_of_shared built hashed built' hashed'
        noCollision shared shared'
      rcases distinguishes with different | impossible
      · exact different (WithdrawRequest.values_inj [self.setWidth 256] [self.setWidth 256]
          decodable decodable' (Nat.le_succ 1) rfl same).2
      · exact impossible

/-- Whether the builder reads the same of the chain in two blocks, as far as the hash it
gives first depends on it. -/
def SameView (contract : BuilderContract) (chain chain' : HubChain) : Prop :=
  match contract with
  | .ethereumVm config =>
      chain.blockNumber = chain'.blockNumber ∧ chain.timestamp = chain'.timestamp ∧
        chain.configValues config = chain'.configValues config
  | .gatewayVm config _ => chain.configValues config = chain'.configValues config

/-- Requests that differ in the spender at most share their first hash to sign, whatever the
hash function. -/
theorem Signs.shares {payload payload' : Bytes}
    (signs : Signs keccak256 destinations chain self contract params payload hashes)
    (signs' : Signs keccak256 destinations chain' self contract params' payload' hashes')
    (same : params.SameButSpender params') (view : contract.SameView chain chain') :
    ∃ hash, hash ∈ hashes ∧ hash ∈ hashes' := by
  obtain ⟨built, hashed⟩ := signs
  obtain ⟨built', hashed'⟩ := signs'
  obtain ⟨chainIds, depositories, seen⟩ := same.seen
  rw [chainIds, depositories, seen] at built'
  rw [chainIds, depositories] at hashed'
  cases contract with
  | ethereumVm config =>
      obtain ⟨block, timestamp, settings⟩ := view
      cases built.symm.trans ((EthereumVmPayloadBuilder.buildPayload_congr ⟨self, config⟩ block
        timestamp settings).trans built')
      cases hashed.symm.trans ((EthereumVmPayloadBuilder.hashesToSign_congr ⟨self, config⟩
        settings).trans hashed')
      obtain ⟨_, _, rfl, _⟩ :=
        EthereumVmPayloadBuilder.hashesToSign_of_buildPayload built hashed
      exact ⟨_, List.mem_cons_self, List.mem_cons_self⟩
  | gatewayVm config gasPayer =>
      obtain ⟨_, _, _, isPayload, _, rfl, _⟩ :=
        hashesToSign_of_buildPayload built hashed
      obtain ⟨_, _, _, isPayload', _, rfl, _⟩ :=
        hashesToSign_of_buildPayload built' hashed'
      have intents := burnIntent_eq ⟨self, config, gasPayer⟩ view
        isPayload isPayload'
      rw [intents]
      exact ⟨_, List.mem_cons_self, List.mem_cons_self⟩

end BuilderContract

/-- The builders and destination builders of the hub chain, with their immutables. -/
structure Deployments where
  builders : Address → Option BuilderContract
  destinationConfigs : Address → Option Address

def Deployments.destinations (deployments : Deployments) :
    GatewayVmPayloadBuilder.Destinations :=
  fun address => (deployments.destinationConfigs address).map fun config => ⟨address, config⟩

section Runs

variable {χ : Type} (base : AllocatorEnv χ) (chainOf : χ → HubChain)
variable (deployments : Deployments)

/-- The surroundings of an allocator whose payload builders are deployed; what stands at
other addresses is left as it is. -/
def AllocatorEnv.withBuilders : AllocatorEnv χ :=
  { base with
    buildPayload := fun rest world builder chainId depository params =>
      match deployments.builders builder with
      | some contract =>
          (contract.buildPayload base.hub.keccak256 deployments.destinations (chainOf rest)
            builder chainId depository params).toOption
      | none => base.buildPayload rest world builder chainId depository params
    hashesToSign := fun rest world builder chainId depository payload =>
      match deployments.builders builder with
      | some contract =>
          (contract.hashesToSign base.hub.keccak256 deployments.destinations (chainOf rest)
            builder chainId depository payload).toOption
      | none => base.hashesToSign rest world builder chainId depository payload }

/-- What a success hashed on the way to the hashes it stored. -/
def AllocatorWorld.payoutInputs
    (success : Transition AllocatorWorld (AllocatorSystemCall χ)) : List Bytes :=
  match success.call.submission with
  | some (ctx, params) =>
      let builder := Allocator.builderOf params success.pre
      match deployments.builders builder with
      | some contract =>
          (contract.inputs base.hub.keccak256 deployments.destinations (chainOf ctx.rest)
            builder params.chainId params.depository
            (Allocator.buildParams params)).toOption.getD []
      | none => []
  | none => []

/-- The hashes to sign that are stored for a request. -/
def Allocator.signingHashes (allocator : Allocator) (count : ℕ) (hash : Bytes32) :
    List Bytes32 :=
  (List.range count).map (allocator.hashesToSign hash)

theorem Allocator.signingHashes_eq {allocator : Allocator} {hash : Bytes32}
    {hashes : List Bytes32}
    (stored : ∀ index value, hashes[index]? = some value →
      allocator.hashesToSign hash index = value) :
    allocator.signingHashes hashes.length hash = hashes := by
  apply List.ext_getElem
  · simp [signingHashes]
  · intro index _ below
    simp only [signingHashes, List.getElem_map, List.getElem_range]
    exact stored index _ (List.getElem?_eq_getElem below)

variable {base chainOf deployments} {calls : List (AllocatorSystemCall χ)}
variable {start : AllocatorWorld} {success : Transition AllocatorWorld (AllocatorSystemCall χ)}
variable {ctx : Ctx χ} {params : WithdrawRequest} {builder : Address}
variable {contract : BuilderContract}

theorem AllocatorEnv.withBuilders_deployed
    (deployed : deployments.builders builder = some contract) :
    (base.withBuilders chainOf deployments).Deployed chainOf builder
      (contract.views base.hub.keccak256 deployments.destinations builder) := by
  constructor <;> simp [withBuilders, deployed, BuilderContract.views]

namespace AllocatorWorld.AcceptedThrough

variable (accepted : AcceptedThrough (base.withBuilders chainOf deployments) start calls builder
    success ctx params) (deployed : deployments.builders builder = some contract)

include accepted deployed

/-- Whatever a request stored in a run is there at its end: the payload of the builder and
the hashes to sign for it. -/
theorem signs :
    let env := base.withBuilders chainOf deployments
    let final := (run (step env) calls start).allocator
    let hash := Allocator.withdrawRequestHash env params
    contract.Signs base.hub.keccak256 deployments.destinations (chainOf ctx.rest) builder
      params (final.payloads hash) (final.signingHashes contract.hashCount hash) := by
  intro env final hash
  obtain ⟨hashes, delivers⟩ := accepted.delivers (AllocatorEnv.withBuilders_deployed deployed)
  have signs : contract.Signs base.hub.keccak256 deployments.destinations (chainOf ctx.rest)
      builder params (final.payloads hash) hashes :=
    ⟨toOption_eq_some.mp delivers.built, toOption_eq_some.mp delivers.hashed⟩
  rw [← signs.length, Allocator.signingHashes_eq delivers.hashes]
  exact signs

/-- Accepted requests that differ in the spender at most share a hash to sign, whatever the
hash function. -/
theorem shares {success' : Transition AllocatorWorld (AllocatorSystemCall χ)} {ctx' : Ctx χ}
    {params' : WithdrawRequest}
    (accepted' : AcceptedThrough (base.withBuilders chainOf deployments) start calls builder
      success' ctx' params')
    (same : params.SameButSpender params')
    (view : contract.SameView (chainOf ctx.rest) (chainOf ctx'.rest)) :
    let env := base.withBuilders chainOf deployments
    let final := (run (step env) calls start).allocator
    ¬ (final.signingHashes contract.hashCount
        (Allocator.withdrawRequestHash env params)).Disjoint
      (final.signingHashes contract.hashCount
        (Allocator.withdrawRequestHash env params')) := by
  intro env final disjoint
  obtain ⟨hash, shared, shared'⟩ :=
    (accepted.signs deployed).shares (accepted'.signs deployed) same view
  exact disjoint shared shared'

theorem inputs_subset :
    (contract.inputs base.hub.keccak256 deployments.destinations (chainOf ctx.rest) builder
        params.chainId params.depository (Allocator.buildParams params)).toOption.getD [] ⊆
      (trace (step (base.withBuilders chainOf deployments)) calls start).flatMap
        (payoutInputs base chainOf deployments) := by
  intro input hashed
  apply List.mem_flatMap.mpr
  refine ⟨success, accepted.member, ?_⟩
  simpa only [payoutInputs, accepted.submits, accepted.through, deployed] using hashed

end AllocatorWorld.AcceptedThrough

end Runs

/-- Over every run of allocator calls with `EthereumVmPayloadBuilder`s and
`GatewayVmPayloadBuilder`s among the builders, and a hash function without a collision among
what the successes hash: for any two accepted requests of one such builder that differ in
more than the spender, or go to an `EthereumVmPayloadBuilder` in different blocks, what the
allocator stores in the end are the hashes the builder gave for the stored payload, and no
hash of the one is a hash of the other. -/
theorem payouts_disjoint {χ : Type} (base : AllocatorEnv χ) (chainOf : χ → HubChain)
    (deployments : Deployments) (start : AllocatorWorld)
    (calls : List (AllocatorSystemCall χ))
    (noCollision : Abi.NoCollision base.hub.keccak256
      ((trace (AllocatorWorld.step (base.withBuilders chainOf deployments)) calls
        start).flatMap (AllocatorWorld.payoutInputs base chainOf deployments))) :
    let env := base.withBuilders chainOf deployments
    let final := (run (AllocatorWorld.step env) calls start).allocator
    let successes := trace (AllocatorWorld.step env) calls start
    ∀ first ∈ successes, ∀ second ∈ successes, ∀ ctx params ctx' params' builder contract,
      first.call.submission = some (ctx, params) →
      second.call.submission = some (ctx', params') →
      Allocator.builderOf params first.pre = builder →
      Allocator.builderOf params' second.pre = builder →
      deployments.builders builder = some contract →
      params.Decodable → params'.Decodable →
      contract.Distinguishes (chainOf ctx.rest).blockNumber (chainOf ctx'.rest).blockNumber
        params params' →
      let hashes := final.signingHashes contract.hashCount
        (Allocator.withdrawRequestHash env params)
      let hashes' := final.signingHashes contract.hashCount
        (Allocator.withdrawRequestHash env params')
      contract.hashesToSign base.hub.keccak256 deployments.destinations (chainOf ctx.rest)
          builder params.chainId params.depository
          (final.payloads (Allocator.withdrawRequestHash env params)) = .ok hashes ∧
        contract.hashesToSign base.hub.keccak256 deployments.destinations
          (chainOf ctx'.rest) builder params'.chainId params'.depository
          (final.payloads (Allocator.withdrawRequestHash env params')) = .ok hashes' ∧
        hashes.Disjoint hashes' := by
  intro env final successes first member second member' ctx params ctx' params' builder
    contract submits submits' isBuilder isBuilder' deployed decodable decodable' distinguishes
    hashes hashes'
  have accepted : AllocatorWorld.AcceptedThrough env start calls builder first ctx params :=
    ⟨member, submits, isBuilder⟩
  have accepted' : AllocatorWorld.AcceptedThrough env start calls builder second ctx' params' :=
    ⟨member', submits', isBuilder'⟩
  have signs := accepted.signs deployed
  have signs' := accepted'.signs deployed
  refine ⟨signs.hashed, signs'.hashed, ?_⟩
  apply signs.disjoint signs' decodable decodable' _ distinguishes
  apply noCollision.of_subset
  apply List.append_subset.mpr
  exact ⟨accepted.inputs_subset deployed, accepted'.inputs_subset deployed⟩

open SampleRequests (start)

namespace SampleBurns

open PayloadBuilder

/-- Every setting is 22, which is also where the destination builder is deployed, and gas
is paid for. -/
def chain (blockNumber : U256) : HubChain where
  blockNumber := blockNumber
  timestamp := 1000
  configValues := fun _ _ => some 22
  gasPayments := fun _ _ => 100

def deployments : Deployments where
  builders := fun address =>
    if address = 20 then some (.ethereumVm 21)
    else if address = 23 then some (.gatewayVm 21 24)
    else none
  destinationConfigs := fun address => if address = 22 then some 21 else none

abbrev surroundings : AllocatorEnv HubChain := SampleRequests.environment HubChain

abbrev env : AllocatorEnv HubChain := surroundings.withBuilders id deployments

def account (last : UInt8) : Bytes := List.replicate 19 0 ++ [last]

/-- A withdrawal to account 31 through the depository at 50. -/
def direct (spender : UInt8) (nonce : Bytes32) : WithdrawRequest :=
  { SampleRequests.params with
    depository := account 50
    currency := account 0
    spender := account spender
    receiver := account 31
    nonce := nonce }

/-- The same through Gateway and the depository at 51. -/
def gateway (spender : UInt8) (nonce : Bytes32) : WithdrawRequest :=
  { direct spender nonce with
    depository := account 51
    data := Abi.encode [.tuple [.address 70, .bytes [1], .word 9, .bytes []]] }

def submit (blockNumber : U256) (params : WithdrawRequest) : AllocatorSystemCall HubChain :=
  .allocator ⟨⟨BitVec.ofNat 160 (Abi.readBigEndian params.spender), 0⟩, chain blockNumber⟩
    (.submitWithdrawRequest params)

def fund (spender : UInt8) : AllocatorSystemCall HubChain :=
  .ledger (.hub ⟨1, 0⟩ (.mint (Allocator.spenderAlias env (direct spender 0))
    (Allocator.tokenId env (direct spender 0)) 1000))

/-- Submissions in the given blocks, after accounts 5 and 6 are funded and the builders
are set. -/
def calls (submissions : List (U256 × WithdrawRequest)) : List (AllocatorSystemCall HubChain) :=
  [fund 5, fund 6,
    .allocator ⟨⟨1, 0⟩, chain 3⟩ (.setPayloadBuilder [1] (account 50) 20),
    .allocator ⟨⟨1, 0⟩, chain 3⟩ (.setPayloadBuilder [1] (account 51) 23)] ++
  submissions.map fun (block, params) => submit block params

/-- Both accounts withdraw the same in one block, and account 5 once more with another
nonce. -/
def directs : List (U256 × WithdrawRequest) :=
  [(3, direct 5 7), (3, direct 6 7), (3, direct 5 8)]

/-- Both accounts withdraw the same through Gateway, in two blocks. -/
def gateways : List (U256 × WithdrawRequest) := [(3, gateway 5 7), (4, gateway 6 7)]

def successes (submissions : List (U256 × WithdrawRequest)) :
    List (Transition AllocatorWorld (AllocatorSystemCall HubChain)) :=
  trace (AllocatorWorld.step env) (calls submissions) start

def final (submissions : List (U256 × WithdrawRequest)) : AllocatorWorld :=
  run (AllocatorWorld.step env) (calls submissions) start

/-- The block, the request and the builder of an accepted submission. -/
def accepted (success : Transition AllocatorWorld (AllocatorSystemCall HubChain)) :
    Option (U256 × WithdrawRequest × Address) :=
  success.call.submission.map fun (ctx, params) =>
    (ctx.rest.blockNumber, params, Allocator.builderOf params success.pre)

def hashOf (params : WithdrawRequest) : Bytes32 := Allocator.withdrawRequestHash env params

theorem exists_of_accepted {submissions : List (U256 × WithdrawRequest)}
    {accepteds : List (U256 × WithdrawRequest × Address)}
    (isAccepteds : (successes submissions).filterMap accepted = accepteds) {block : U256}
    {params : WithdrawRequest} {builder : Address}
    (listed : (block, params, builder) ∈ accepteds) :
    ∃ success ctx, ctx.rest = chain block ∧
      AllocatorWorld.AcceptedThrough env start (calls submissions) builder success ctx params := by
  rw [← isAccepteds] at listed
  obtain ⟨success, member, isAccepted⟩ := List.mem_filterMap.mp listed
  obtain ⟨⟨ctx, params'⟩, submits, same⟩ := Option.map_eq_some_iff.mp isAccepted
  cases same
  refine ⟨success, ctx, ?_, member, submits, rfl⟩
  have called := call_mem_of_mem_trace member
  generalize success.call = call at called submits
  simp only [calls, List.mem_append, List.mem_cons, List.not_mem_nil, or_false,
    List.mem_map] at called
  rcases called with (rfl | rfl | rfl | rfl) | ⟨⟨block, params⟩, _, rfl⟩
  all_goals cases submits
  rfl

theorem accepted_directs : (successes directs).filterMap accepted =
    [(3, direct 5 7, 20), (3, direct 6 7, 20), (3, direct 5 8, 20)] := by
  decide +kernel

theorem noCollision_directs : Abi.NoCollision Abi.sampleHash
    ((successes directs).flatMap (AllocatorWorld.payoutInputs surroundings id deployments)) := by
  decide +kernel

theorem accepted_gateways : (successes gateways).filterMap accepted =
    [(3, gateway 5 7, 23), (4, gateway 6 7, 23)] := by
  decide +kernel

theorem decodable_direct (spender : UInt8) (nonce : Bytes32) :
    (direct spender nonce).Decodable := by
  constructor <;> simp [direct, account, SampleRequests.params]

end SampleBurns

open SampleBurns in
theorem payouts_disjoint_sample :
    ((final directs).allocator.signingHashes 1 (hashOf (direct 5 7))).Disjoint
      ((final directs).allocator.signingHashes 1 (hashOf (direct 5 8))) := by
  obtain ⟨first, ctx, _, member, submits, isBuilder⟩ :=
    exists_of_accepted accepted_directs List.mem_cons_self
  obtain ⟨second, ctx', _, member', submits', isBuilder'⟩ :=
    exists_of_accepted accepted_directs
      (List.mem_cons_of_mem _ (List.mem_cons_of_mem _ List.mem_cons_self))
  exact (payouts_disjoint surroundings id deployments start (calls directs)
    noCollision_directs first member second member' ctx (direct 5 7) ctx' (direct 5 8) 20
    (.ethereumVm 21) submits submits' isBuilder isBuilder' rfl (decodable_direct 5 7)
    (decodable_direct 5 8) (.inl (by decide))).2.2

open SampleBurns in
/-- Requests of two spenders that are the same otherwise are accepted under different hashes
and share a hash to sign: two burns with one payout.  With `EthereumVmPayloadBuilder` it
takes one block, with `GatewayVmPayloadBuilder` any two.  That a hash is shared does not
depend on the hash function, see `AllocatorWorld.AcceptedThrough.shares`. -/
theorem payouts_shared :
    ((successes directs).filterMap accepted =
        [(3, direct 5 7, 20), (3, direct 6 7, 20), (3, direct 5 8, 20)] ∧
      Abi.NoCollision Abi.sampleHash ((successes directs).flatMap
        (AllocatorWorld.payoutInputs surroundings id deployments)) ∧
      hashOf (direct 5 7) ≠ hashOf (direct 6 7) ∧
      ¬ ((final directs).allocator.signingHashes 1 (hashOf (direct 5 7))).Disjoint
        ((final directs).allocator.signingHashes 1 (hashOf (direct 6 7)))) ∧
    (successes gateways).filterMap accepted =
        [(3, gateway 5 7, 23), (4, gateway 6 7, 23)] ∧
      hashOf (gateway 5 7) ≠ hashOf (gateway 6 7) ∧
      ¬ ((final gateways).allocator.signingHashes 2 (hashOf (gateway 5 7))).Disjoint
        ((final gateways).allocator.signingHashes 2 (hashOf (gateway 6 7))) := by
  refine ⟨⟨accepted_directs, noCollision_directs, by decide +kernel, ?_⟩, accepted_gateways,
    by decide +kernel, ?_⟩
  · obtain ⟨first, ctx, isChain, accepted⟩ :=
      exists_of_accepted accepted_directs List.mem_cons_self
    obtain ⟨second, ctx', isChain', accepted'⟩ :=
      exists_of_accepted accepted_directs (List.mem_cons_of_mem _ List.mem_cons_self)
    have view : (BuilderContract.ethereumVm 21).SameView (id ctx.rest) (id ctx'.rest) := by
      rw [isChain, isChain']
      exact ⟨rfl, rfl, rfl⟩
    have shared := accepted.shares rfl accepted' rfl view
    exact shared
  · obtain ⟨first, ctx, isChain, accepted⟩ :=
      exists_of_accepted accepted_gateways List.mem_cons_self
    obtain ⟨second, ctx', isChain', accepted'⟩ :=
      exists_of_accepted accepted_gateways (List.mem_cons_of_mem _ List.mem_cons_self)
    -- the settings are the same in every block
    have view : (BuilderContract.gatewayVm 21 24).SameView (id ctx.rest) (id ctx'.rest) := by
      rw [isChain, isChain']
      rfl
    have shared := accepted.shares rfl accepted' rfl view
    exact shared

end RelaySettlement
