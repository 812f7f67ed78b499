import RelaySettlement.PayloadBuilder.Digest
import RelaySettlement.PayloadBuilder.Gateway
import RelaySettlement.Allocator.Requests

/-!
# From a hash to sign back to the request

`EthereumVmPayloadBuilder` derives the nonce of a payout from the block and the request as
far as it sees it, `GatewayVmPayloadBuilder` the salt of the transfer spec from the request
alone.  Every hash to sign is bound to the nonce or the salt, so without a collision a hash
shared by two payloads goes back to one nonce or one salt, and to all the builder sees of
the two requests.
-/

open Evm

namespace RelaySettlement

/-! ## What the builders see of a request -/

namespace WithdrawRequest

/-- The calldata decoder accepts no longer byte strings. -/
structure Decodable (params : WithdrawRequest) : Prop where
  chainId : params.chainId.length < 2 ^ 64
  depository : params.depository.length < 2 ^ 64
  currency : params.currency.length < 2 ^ 64
  receiver : params.receiver.length < 2 ^ 64
  data : params.data.length < 2 ^ 64

/-- Requests that differ in the spender at most. -/
def SameButSpender (params other : WithdrawRequest) : Prop :=
  { params with spenderChainId := other.spenderChainId, spender := other.spender } = other

instance (params other : WithdrawRequest) : Decidable (params.SameButSpender other) :=
  inferInstanceAs (Decidable (_ = other))

/-- What a builder hashes of a request, after some words of its own. -/
def values (front : List U256) (params : WithdrawRequest) : List Abi.Value :=
  front.map .word ++
    [.bytes params.chainId, .bytes params.depository, (Allocator.buildParams params).toValue]

def types (front : ℕ) : List Abi.Ty :=
  List.replicate front (.uint 256) ++
    [.bytes, .bytes, .tuple [.bytes, .uint 256, .bytes, .uint 256, .bytes]]

variable {params params' : WithdrawRequest}

theorem Decodable.typed (decodable : params.Decodable) (front : List U256) :
    Abi.HaveTypes (params.values front) (types front.length) := by
  induction front with
  | nil =>
      exact .cons (.bytes decodable.chainId) (.cons (.bytes decodable.depository)
        (.cons (.tuple (.cons (.bytes decodable.currency) (.cons (Abi.hasType_word _)
          (.cons (.bytes decodable.receiver) (.cons (Abi.hasType_word _)
            (.cons (.bytes decodable.data) .nil)))))) .nil))
  | cons value front ih => exact .cons (Abi.hasType_word value) ih

theorem Decodable.length_lt (decodable : params.Decodable) {front : List U256}
    (few : front.length ≤ 2) :
    (Abi.encode (params.values front)).length < 2 ^ 256 := by
  obtain ⟨chainId, depository, currency, receiver, data⟩ := decodable
  have chainIdSize := Abi.Value.size_bytes_le params.chainId
  have depositorySize := Abi.Value.size_bytes_le params.depository
  have currencySize := Abi.Value.size_bytes_le params.currency
  have receiverSize := Abi.Value.size_bytes_le params.receiver
  have dataSize := Abi.Value.size_bytes_le params.data
  have paramsSize : (Allocator.buildParams params).toValue.size ≤ 5 * (2 ^ 64 + 94) := by
    refine Nat.le_trans (Abi.Value.size_tuple_le (2 ^ 64 + 62) ?_) (by simp)
    simp only [Allocator.buildParams, List.forall_mem_cons, Abi.Value.size_word]
    exact ⟨by omega, by omega, by omega, by omega, by omega, List.forall_mem_nil _⟩
  have sizes : ∀ value ∈ params.values front, value.size ≤ 5 * (2 ^ 64 + 94) := by
    simp only [values, List.forall_mem_append, List.forall_mem_map, List.forall_mem_cons,
      Abi.Value.size_word]
    exact ⟨fun _ _ => by omega, by omega, by omega, paramsSize, List.forall_mem_nil _⟩
  have length := Abi.length_layout_le sizes
  rw [values, List.length_append, List.length_map] at length
  simp only [List.length_cons, List.length_nil] at length
  rw [values, Abi.encode]
  omega

/-- What a builder hashes determines all it sees of a request. -/
theorem values_inj (front front' : List U256) (decodable : params.Decodable)
    (decodable' : params'.Decodable) (few : front.length ≤ 2)
    (lengths : front.length = front'.length)
    (same : Abi.encode (params.values front) = Abi.encode (params'.values front')) :
    front = front' ∧ params.SameButSpender params' := by
  have typed' := decodable'.typed front'
  rw [← lengths] at typed'
  have values := Abi.encode_inj (decodable.typed front) typed' (decodable.length_lt few) same
  obtain ⟨words, rest⟩ := List.append_inj values (by simpa using lengths)
  refine ⟨List.map_injective_iff.mpr (fun _ _ => Abi.Value.word.inj) words, ?_⟩
  simp only [Allocator.buildParams, BuildPayloadParams.toValue, List.cons.injEq,
    Abi.Value.bytes.injEq, Abi.Value.tuple.injEq, Abi.Value.word.injEq, and_true] at rest
  obtain ⟨chainId, depository, currency, amount, receiver, nonce, data⟩ := rest
  cases params
  cases params'
  simp_all [SameButSpender]

theorem SameButSpender.seen (same : params.SameButSpender params') :
    params'.chainId = params.chainId ∧ params'.depository = params.depository ∧
      Allocator.buildParams params' = Allocator.buildParams params := by
  rw [← same]
  exact ⟨rfl, rfl, rfl⟩

end WithdrawRequest

/-! ## EthereumVmPayloadBuilder -/

namespace EthereumVmPayloadBuilder

open PayloadBuilder

/-- What is hashed from a request to its hash to sign. -/
def inputs (keccak256 : Bytes → Bytes32) (chain : HubChain)
    (builder : EthereumVmPayloadBuilder) (chainId depository : Bytes)
    (params : BuildPayloadParams) : Except Error (List Bytes) := do
  let request ← buildRequest keccak256 chain builder chainId depository params
  let evmChainId ← getConfigValue (values chain builder) (getEvmChainIdKey keccak256 chainId)
  return [encodeNonce chain builder chainId depository params] ++
    Abi.digestInputs keccak256
      (Abi.domainSeparator keccak256 "RelayDepository" "1" evmChainId (bytes20 depository))
      (encodedRequest keccak256 request)

variable {keccak256 : Bytes → Bytes32} {chain chain' : HubChain}
variable {builder : EthereumVmPayloadBuilder} {chainId depository chainId' depository' : Bytes}
variable {params params' : BuildPayloadParams} {payload payload' : Bytes}
variable {hashes hashes' : List Bytes32}

/-- A payload has one hash to sign, the digest of a request with the computed nonce. -/
theorem hashesToSign_of_buildPayload
    (built : builder.buildPayload keccak256 chain chainId depository params = .ok payload)
    (signed : builder.hashesToSign keccak256 chain chainId depository payload = .ok hashes) :
    ∃ request domainSeparator,
      hashes = [Abi.hashTypedData keccak256 domainSeparator
        (keccak256 (encodedRequest keccak256 request))] ∧
      request.nonce = computeNonce keccak256 chain builder chainId depository params ∧
      builder.inputs keccak256 chain chainId depository params =
        .ok ([builder.encodeNonce chain chainId depository params] ++
          Abi.digestInputs keccak256 domainSeparator (encodedRequest keccak256 request)) := by
  simp only [buildPayload, bind_eq_ok, pure_eq_ok] at built
  obtain ⟨request, isRequest, rfl⟩ := built
  have ok := signed
  simp only [hashesToSign, bind_eq_ok, require_eq_ok] at ok
  obtain ⟨_, length, evmChainId, configured, _⟩ := ok
  rw [hashesToSign_eq (buildRequest_built isRequest) length (orRevert_eq_ok.mp configured)]
    at signed
  cases signed
  refine ⟨request, _, rfl, ?_, ?_⟩
  · simp only [buildRequest, bind_eq_ok, pure_eq_ok] at isRequest
    obtain ⟨_, _, _, _, _, _, _, _, _, _, rfl⟩ := isRequest
    rfl
  · rw [EthereumVmPayloadBuilder.inputs, isRequest, ok_bind, configured, ok_bind]
    rfl

/-- Without a collision a shared hash comes from one nonce. -/
theorem encodeNonce_eq_of_shared
    (built : builder.buildPayload keccak256 chain chainId depository params = .ok payload)
    (signed : builder.hashesToSign keccak256 chain chainId depository payload = .ok hashes)
    (built' : builder.buildPayload keccak256 chain' chainId' depository' params' =
      .ok payload')
    (signed' : builder.hashesToSign keccak256 chain' chainId' depository' payload' =
      .ok hashes')
    (noCollision : Abi.NoCollision keccak256
      ((builder.inputs keccak256 chain chainId depository params).toOption.getD [] ++
        (builder.inputs keccak256 chain' chainId' depository' params').toOption.getD []))
    {hash : Bytes32} (shared : hash ∈ hashes) (shared' : hash ∈ hashes') :
    builder.encodeNonce chain chainId depository params =
      builder.encodeNonce chain' chainId' depository' params' := by
  obtain ⟨request, domainSeparator, rfl, nonce, hashed⟩ :=
    hashesToSign_of_buildPayload built signed
  obtain ⟨request', domainSeparator', rfl, nonce', hashed'⟩ :=
    hashesToSign_of_buildPayload built' signed'
  rw [hashed, hashed'] at noCollision
  have same := (List.mem_singleton.mp shared).symm.trans (List.mem_singleton.mp shared')
  have encodings := (Abi.eq_of_hashTypedData_eq noCollision.seconds same).2
  have words := Abi.encode_words_inj
    [callRequestTypehash keccak256, keccak256 (packedCalls keccak256 request.calls),
      request.nonce, request.expiration]
    [callRequestTypehash keccak256, keccak256 (packedCalls keccak256 request'.calls),
      request'.nonce, request'.expiration] encodings
  simp only [List.cons.injEq, and_true] at words
  have sameNonce := words.2.2.1
  rw [nonce, nonce'] at sameNonce
  exact noCollision.firsts _ List.mem_cons_self _ (List.mem_cons_of_mem _ List.mem_cons_self)
    sameNonce

/-- The payload depends on the block, the settings and what the builder sees of the
request. -/
theorem buildPayload_congr (builder : EthereumVmPayloadBuilder)
    (block : chain.blockNumber = chain'.blockNumber)
    (timestamp : chain.timestamp = chain'.timestamp)
    (settings : builder.values chain = builder.values chain') :
    builder.buildPayload keccak256 chain chainId depository params =
      builder.buildPayload keccak256 chain' chainId depository params := by
  have routing : builder.decodeRoutedWithdrawalData keccak256 chain chainId depository =
      builder.decodeRoutedWithdrawalData keccak256 chain' chainId depository := by
    funext data
    simp only [decodeRoutedWithdrawalData, settings]
  simp [buildPayload, buildRequest, computeNonce, encodeNonce, block, timestamp, settings, routing]

theorem hashesToSign_congr (builder : EthereumVmPayloadBuilder)
    (settings : builder.values chain = builder.values chain') :
    builder.hashesToSign keccak256 chain chainId depository payload =
      builder.hashesToSign keccak256 chain' chainId depository payload := by
  simp only [hashesToSign, settings]

end EthereumVmPayloadBuilder

/-! ## GatewayVmPayloadBuilder -/

namespace CircleGatewayCodec

variable {keccak256 : Bytes → Bytes32} {spec spec' : TransferSpec}

/-- The packed form of a transfer spec determines its salt. -/
theorem salt_eq_of_packed (same : packTransferSpec spec = packTransferSpec spec') :
    spec.salt = spec'.salt := by
  simp only [packTransferSpec] at same
  have second := (List.append_inj same (by simp [Abi.word])).2
  have fixed := (List.append_inj second (by simp [Abi.word])).1
  have words := (List.append_inj fixed (by simp [Abi.word])).1
  exact Abi.word_inj (List.append_inj words (by simp [Abi.word])).2

/-- So does its typed encoding. -/
theorem salt_eq_of_typed
    (same : encodeTransferSpecTypedData keccak256 spec =
      encodeTransferSpecTypedData keccak256 spec') : spec.salt = spec'.salt := by
  have firstLength (spec : TransferSpec) := Abi.length_encode_words
    [transferSpecTypehash, spec.version.setWidth 256, spec.sourceDomain.setWidth 256,
      spec.destinationDomain.setWidth 256, spec.sourceContract, spec.destinationContract,
      spec.sourceToken, spec.destinationToken]
  have second := (List.append_inj same ((firstLength spec).trans (firstLength spec').symm)).2
  have words := Abi.encode_words_inj
    [spec.sourceDepositor, spec.destinationRecipient, spec.sourceSigner,
      spec.destinationCaller, spec.value, spec.salt, keccak256 spec.hookData]
    [spec'.sourceDepositor, spec'.destinationRecipient, spec'.sourceSigner,
      spec'.destinationCaller, spec'.value, spec'.salt, keccak256 spec'.hookData] second
  simp only [List.cons.injEq] at words
  exact words.2.2.2.2.2.1

theorem length_encodeBurnIntentTypedData (intent : BurnIntent) :
    (encodeBurnIntentTypedData keccak256 intent).length = 128 :=
  Abi.length_encode_words [burnIntentTypehash, intent.maxBlockHeight, intent.maxFee,
    keccak256 (encodeTransferSpecTypedData keccak256 intent.spec)]

/-- The typed encoding of an intent determines the hash of its transfer spec. -/
theorem specHash_eq_of_typed {intent intent' : BurnIntent}
    (same : encodeBurnIntentTypedData keccak256 intent =
      encodeBurnIntentTypedData keccak256 intent') :
    keccak256 (encodeTransferSpecTypedData keccak256 intent.spec) =
      keccak256 (encodeTransferSpecTypedData keccak256 intent'.spec) := by
  have words := Abi.encode_words_inj
    [burnIntentTypehash, intent.maxBlockHeight, intent.maxFee,
      keccak256 (encodeTransferSpecTypedData keccak256 intent.spec)]
    [burnIntentTypehash, intent'.maxBlockHeight, intent'.maxFee,
      keccak256 (encodeTransferSpecTypedData keccak256 intent'.spec)] same
  simp only [List.cons.injEq, and_true] at words
  exact words.2.2.2

end CircleGatewayCodec

theorem TransferSpec.ofValue_toValue (spec : TransferSpec) :
    TransferSpec.ofValue spec.toValue = some spec := by
  have narrowed (value : BitVec 32) : (value.setWidth 256).setWidth 32 = value := by
    rw [BitVec.setWidth_setWidth_of_le _ (by decide), BitVec.setWidth_eq]
  cases spec
  simp [TransferSpec.toValue, TransferSpec.ofValue, narrowed]

namespace GatewayVmPayload

theorem ofValue_toValue (payload : GatewayVmPayload) :
    ofValue payload.toValue = some payload := by
  simp [toValue, ofValue, BurnIntent.toValue, BurnIntent.ofValue, TransferSpec.ofValue_toValue]

variable {payload : GatewayVmPayload}

theorem typed (chainId : payload.destinationChainId.length < 2 ^ 64)
    (execution : payload.executionPayload.length < 2 ^ 64)
    (hookData : payload.burnIntent.spec.hookData = []) :
    Abi.HasType payload.toValue type := by
  have spec : Abi.HasType payload.burnIntent.spec.toValue TransferSpec.type := by
    apply Abi.HasType.tuple
    refine .cons (Abi.hasType_widen (by decide) _) (.cons (Abi.hasType_widen (by decide) _)
      (.cons (Abi.hasType_widen (by decide) _) ?_))
    iterate 10 refine .cons (Abi.hasType_word _) ?_
    exact .cons (.bytes (by simp [hookData])) .nil
  exact .tuple (.cons (.bytes chainId) (.cons (.bytes execution) (.cons
    (.tuple (.cons (Abi.hasType_word _) (.cons (Abi.hasType_word _) (.cons spec .nil)))) .nil)))

theorem length_encode_lt (chainId : payload.destinationChainId.length < 2 ^ 64)
    (execution : payload.executionPayload.length < 2 ^ 64)
    (hookData : payload.burnIntent.spec.hookData = []) :
    (Abi.encode [payload.toValue]).length < 2 ^ 256 := by
  have chainIdSize := Abi.Value.size_bytes_le payload.destinationChainId
  have executionSize := Abi.Value.size_bytes_le payload.executionPayload
  have spec : payload.burnIntent.spec.toValue.size ≤ 1330 := by
    have hookSize := Abi.Value.size_bytes_le payload.burnIntent.spec.hookData
    rw [hookData, List.length_nil] at hookSize
    refine Nat.le_trans (Abi.Value.size_tuple_le 63 ?_) (by simp)
    simp [Abi.Value.size_word, hookData, hookSize]
  have intent : payload.burnIntent.toValue.size ≤ 4086 := by
    refine Nat.le_trans (Abi.Value.size_tuple_le 1330 ?_) (by simp)
    simp [Abi.Value.size_word, spec]
  have size : payload.toValue.size ≤ 3 * (2 ^ 64 + 94) := by
    refine Nat.le_trans (Abi.Value.size_tuple_le (2 ^ 64 + 62) ?_) (by simp)
    simp only [List.forall_mem_cons]
    exact ⟨by omega, by omega, by omega, List.forall_mem_nil _⟩
  have length := Abi.length_encode_single_le size
  omega

/-- Whatever is decoded from a payload is what was encoded. -/
theorem eq_of_decodeAs {decoded : GatewayVmPayload}
    (chainId : payload.destinationChainId.length < 2 ^ 64)
    (execution : payload.executionPayload.length < 2 ^ 64)
    (hookData : payload.burnIntent.spec.hookData = [])
    (isDecoded : Abi.decodeAs type ofValue (Abi.encode [payload.toValue]) = some decoded) :
    decoded = payload := by
  have same := Abi.ofValue_of_decodeAs (typed chainId execution hookData)
    (length_encode_lt chainId execution hookData) isDecoded
  rw [ofValue_toValue] at same
  exact (Option.some.inj same).symm

end GatewayVmPayload

namespace GatewayVmPayloadBuilder

open PayloadBuilder GatewayEthereumVmDestinationPayloadBuilder

abbrev ExecutionRequest := GatewayEthereumVmDestinationPayloadBuilder.CallRequest

section Inputs

variable (keccak256 : Bytes → Bytes32) (destinations : Destinations) (chain : HubChain)
variable (builder : GatewayVmPayloadBuilder)

/-- What is hashed for the digest of the execution payload. -/
def executionInputs (payload : GatewayVmPayload) : Except Error (List Bytes) := do
  let destinationDepository ← getConfigValue (values chain builder)
    (getDestinationDepositoryKey keccak256 payload.destinationChainId)
  let destinationBuilder ← getDestinationBuilder keccak256 chain builder
    payload.destinationChainId
  let destinationBuilder ← destination destinations destinationBuilder
  let evmChainId ← getConfigValue (destinationBuilder.values chain)
    (getEvmChainIdKey keccak256 payload.destinationChainId)
  let request ← orRevert
    (Abi.decodeAs CallRequest.type CallRequest.ofValue payload.executionPayload)
    .abiDecodingFailed
  return Abi.digestInputs keccak256
    (Abi.domainSeparator keccak256 "RelayGatewayDepository" "1" evmChainId
      (depositoryAddress (Abi.word destinationDepository)))
    (encodedRequest keccak256 request)

/-- What is hashed from a request to the transfer spec. -/
def specInputs (chainId depository : Bytes) (params : BuildPayloadParams)
    (spec : TransferSpec) : List Bytes :=
  [encodeSalt builder chainId depository params,
    CircleGatewayCodec.encodeTransferSpecTypedData keccak256 spec,
    CircleGatewayCodec.packTransferSpec spec]

/-- What is hashed for the digest of the burn intent. -/
def burnInputs (intent : BurnIntent) : List Bytes :=
  Abi.digestInputs keccak256 CircleGatewayCodec.gatewayWalletDomainSeparator
    (CircleGatewayCodec.encodeBurnIntentTypedData keccak256 intent)

/-- What is hashed from a request to its hashes to sign. -/
def inputs (chainId depository : Bytes) (params : BuildPayloadParams) :
    Except Error (List Bytes) := do
  let payload ← buildGatewayPayload keccak256 destinations chain builder chainId depository
    params
  let execution ← executionInputs keccak256 destinations chain builder payload
  return specInputs keccak256 builder chainId depository params payload.burnIntent.spec ++
    (burnInputs keccak256 payload.burnIntent ++ execution)

end Inputs

variable {keccak256 : Bytes → Bytes32} {destinations : Destinations}
variable {chain chain' : HubChain} {builder : GatewayVmPayloadBuilder}
variable {chainId depository chainId' depository' : Bytes}
variable {params params' : BuildPayloadParams} {payload payload' : Bytes}
variable {hashes hashes' : List Bytes32}

/-- A payload: its burn intent has the salt of the request, and its execution payload
encodes a request that is bound to the transfer spec of the intent. -/
structure Builds (keccak256 : Bytes → Bytes32) (builder : GatewayVmPayloadBuilder)
    (chainId depository : Bytes) (params : BuildPayloadParams) (payload : GatewayVmPayload)
    (request : ExecutionRequest) : Prop where
  salt : payload.burnIntent.spec.salt =
    keccak256 (encodeSalt builder chainId depository params)
  hookData : payload.burnIntent.spec.hookData = []
  spec : request.transferSpecHash =
    keccak256 (CircleGatewayCodec.packTransferSpec payload.burnIntent.spec)
  execution : payload.executionPayload = Abi.encode [request.toValue]
  calls : PayloadBuilder.Built request.calls
  destination : payload.destinationChainId.length < 2 ^ 64

theorem buildBurnIntent_ok {data : GatewayVmPayloadData} {routing : GatewayVmRoutingData}
    {salt : Bytes32} {intent : BurnIntent}
    (ok : buildBurnIntent keccak256 destinations chain builder chainId data routing params
      salt = .ok intent) :
    intent.spec.salt = salt ∧ intent.spec.hookData = [] := by
  simp only [buildBurnIntent, bind_eq_ok, pure_eq_ok] at ok
  obtain ⟨_, _, _, _, _, _, _, _, _, _, rfl⟩ := ok
  exact ⟨rfl, rfl⟩

theorem buildExecutionPayload_ok {destinationBuilder : Address}
    {transferSpecHash destinationToken : Bytes32} {data : GatewayVmPayloadData}
    {execution : Bytes}
    (ok : buildExecutionPayload keccak256 destinations chain destinationBuilder
      transferSpecHash destinationToken depository data params = .ok execution) :
    ∃ request : ExecutionRequest, execution = Abi.encode [request.toValue] ∧
      PayloadBuilder.Built request.calls ∧ request.transferSpecHash = transferSpecHash := by
  simp only [buildExecutionPayload,
    GatewayEthereumVmDestinationPayloadBuilder.buildExecutionPayload, bind_eq_ok,
    pure_eq_ok] at ok
  obtain ⟨_, _, _, _, _, _, request, isRequest, rfl⟩ := ok
  obtain ⟨built, spec⟩ := buildRequest_built isRequest
  exact ⟨request, rfl, built, spec⟩

/-- Data that was decoded names its chain by a short string. -/
theorem destinationChainId_lt {data : Bytes} {decoded : GatewayVmPayloadData}
    (isDecoded : Abi.decodeAs GatewayVmPayloadData.type GatewayVmPayloadData.ofValue data =
      some decoded) : decoded.destinationChainId.length < 2 ^ 64 := by
  obtain ⟨value, typed, ofValue⟩ := Abi.exists_of_decodeAs isDecoded
  cases typed with
  | tuple typed =>
      rcases typed with _ | ⟨⟨_⟩, _ | ⟨_ | short, _ | ⟨⟨_⟩, _ | ⟨_ | _, ⟨⟩⟩⟩⟩⟩
      cases ofValue
      exact short

theorem buildGatewayPayload_ok {payload : GatewayVmPayload}
    (ok : buildGatewayPayload keccak256 destinations chain builder chainId depository params =
      .ok payload) :
    ∃ request, Builds keccak256 builder chainId depository params payload request := by
  simp only [buildGatewayPayload, CircleGatewayCodec.hashTransferSpec,
    CircleGatewayCodec.encodeTransferSpec, bind_eq_ok, require_eq_ok, orRevert_eq_ok,
    pure_eq_ok] at ok
  obtain ⟨_, _, _, _, _, _, _, _, data, isData, _, _, _, _, _, _, _, _, _, _, _, _, intent,
    isIntent, _, _, specHash, ⟨_, ⟨_, _, rfl⟩, rfl⟩, execution, isExecution, rfl⟩ := ok
  obtain ⟨salt, hookData⟩ := buildBurnIntent_ok isIntent
  obtain ⟨request, isPayload, calls, spec⟩ := buildExecutionPayload_ok isExecution
  exact ⟨request, salt, hookData, spec, isPayload, calls, destinationChainId_lt isData⟩

/-- A payload has two hashes to sign: the digest of a burn intent, and the digest of a
request that is bound to its transfer spec. -/
theorem hashesToSign_of_buildPayload
    (built : builder.buildPayload keccak256 destinations chain chainId depository params =
      .ok payload)
    (signed : builder.hashesToSign keccak256 destinations chain payload = .ok hashes) :
    ∃ gatewayPayload request domainSeparator,
      builder.buildGatewayPayload keccak256 destinations chain chainId depository params =
        .ok gatewayPayload ∧
      Builds keccak256 builder chainId depository params gatewayPayload request ∧
      hashes = [CircleGatewayCodec.hashBurnIntent keccak256 gatewayPayload.burnIntent,
        Abi.hashTypedData keccak256 domainSeparator (keccak256
          (encodedRequest keccak256 request))] ∧
      builder.inputs keccak256 destinations chain chainId depository params =
        .ok (specInputs keccak256 builder chainId depository params
            gatewayPayload.burnIntent.spec ++
          (burnInputs keccak256 gatewayPayload.burnIntent ++
            Abi.digestInputs keccak256 domainSeparator
              (encodedRequest keccak256 request))) := by
  simp only [buildPayload, bind_eq_ok, pure_eq_ok] at built
  obtain ⟨gatewayPayload, isPayload, rfl⟩ := built
  obtain ⟨request, builds⟩ := buildGatewayPayload_ok isPayload
  have length := length_payload builds.calls
  rw [← builds.execution] at length
  simp only [hashesToSign, bind_eq_ok, orRevert_eq_ok, pure_eq_ok] at signed
  obtain ⟨decoded, isDecoded, destinationDepository, depositorySet, address, builderSet,
    destinationBuilder, deployed, executionHash, isHash, rfl⟩ := signed
  have same := GatewayVmPayload.eq_of_decodeAs builds.destination (by omega) builds.hookData
    isDecoded
  subst same
  have ok := isHash
  simp only [hashExecutionPayload, bind_eq_ok] at ok
  obtain ⟨evmChainId, configured, _⟩ := ok
  have decodes := decode_payload builds.calls
  rw [builds.execution, hashExecutionPayload_eq
    builds.calls (orRevert_eq_ok.mp configured)] at isHash
  cases isHash
  refine ⟨decoded, request, _, isPayload, builds, rfl, ?_⟩
  rw [GatewayVmPayloadBuilder.inputs, isPayload, ok_bind, executionInputs, depositorySet,
    ok_bind, builderSet, ok_bind, deployed, ok_bind, configured, ok_bind, builds.execution,
    decodes]
  rfl

/-- The encoding of a request determines the transfer spec it is bound to. -/
theorem transferSpecHash_eq_of_encoded {request request' : ExecutionRequest}
    (same : encodedRequest keccak256 request = encodedRequest keccak256 request') :
    request.transferSpecHash = request'.transferSpecHash := by
  have words := Abi.encode_words_inj
    [callRequestTypehash keccak256,
      request.transferSpecHash, keccak256 (packedCalls keccak256 request.calls),
      request.nonce, request.expiration]
    [callRequestTypehash keccak256,
      request'.transferSpecHash, keccak256 (packedCalls keccak256 request'.calls),
      request'.nonce, request'.expiration] same
  simp only [List.cons.injEq] at words
  exact words.2.1

/-- A burn intent and a request never share a digest: their encodings differ in length. -/
theorem hashBurnIntent_ne {intent : BurnIntent} {request : ExecutionRequest}
    {domainSeparator : Bytes32}
    (noCollision : Abi.NoCollision keccak256 (burnInputs keccak256 intent ++
      Abi.digestInputs keccak256 domainSeparator
        (encodedRequest keccak256 request))) :
    CircleGatewayCodec.hashBurnIntent keccak256 intent ≠
      Abi.hashTypedData keccak256 domainSeparator (keccak256
        (encodedRequest keccak256 request)) := by
  intro same
  have encodings := (Abi.eq_of_hashTypedData_eq noCollision same).2
  have requestLength := Abi.length_encode_words
    [callRequestTypehash keccak256,
      request.transferSpecHash, keccak256 (packedCalls keccak256 request.calls),
      request.nonce, request.expiration]
  have lengths := congrArg List.length encodings
  rw [CircleGatewayCodec.length_encodeBurnIntentTypedData] at lengths
  exact absurd (lengths.trans requestLength) (by simp)

/-- Without a collision a shared hash comes from one salt: both hashes are bound to the
transfer spec. -/
theorem encodeSalt_eq_of_shared
    (built : builder.buildPayload keccak256 destinations chain chainId depository params =
      .ok payload)
    (signed : builder.hashesToSign keccak256 destinations chain payload = .ok hashes)
    (built' : builder.buildPayload keccak256 destinations chain' chainId' depository' params' =
      .ok payload')
    (signed' : builder.hashesToSign keccak256 destinations chain' payload' = .ok hashes')
    (noCollision : Abi.NoCollision keccak256
      ((builder.inputs keccak256 destinations chain chainId depository params).toOption.getD [] ++
        (builder.inputs keccak256 destinations chain' chainId' depository'
          params').toOption.getD []))
    {hash : Bytes32} (shared : hash ∈ hashes) (shared' : hash ∈ hashes') :
    builder.encodeSalt chainId depository params =
      builder.encodeSalt chainId' depository' params' := by
  obtain ⟨payload, request, domainSeparator, _, builds, rfl, hashed⟩ :=
    hashesToSign_of_buildPayload built signed
  obtain ⟨payload', request', domainSeparator', _, builds', rfl, hashed'⟩ :=
    hashesToSign_of_buildPayload built' signed'
  rw [hashed, hashed'] at noCollision
  have specs := noCollision.firsts
  have digests := noCollision.seconds
  have salts (same : payload.burnIntent.spec.salt = payload'.burnIntent.spec.salt) :
      builder.encodeSalt chainId depository params =
        builder.encodeSalt chainId' depository' params' := by
    rw [builds.salt, builds'.salt] at same
    exact specs _ (by simp [specInputs]) _ (by simp [specInputs]) same
  simp only [List.mem_cons, List.not_mem_nil, or_false] at shared shared'
  rcases shared with rfl | rfl
  · rcases shared' with burns | crossed
    · have encodings := (Abi.eq_of_hashTypedData_eq digests.firsts burns).2
      apply salts
      apply CircleGatewayCodec.salt_eq_of_typed
      exact specs _ (by simp [specInputs]) _ (by simp [specInputs])
        (CircleGatewayCodec.specHash_eq_of_typed encodings)
    · exact absurd crossed (hashBurnIntent_ne digests.crossed)
  · rcases shared' with crossed | executions
    · exact absurd crossed.symm (hashBurnIntent_ne digests.symm.crossed)
    · have encodings := (Abi.eq_of_hashTypedData_eq digests.seconds executions).2
      apply salts
      apply CircleGatewayCodec.salt_eq_of_packed
      apply specs _ (by simp [specInputs]) _ (by simp [specInputs])
      rw [← builds.spec, ← builds'.spec]
      exact transferSpecHash_eq_of_encoded encodings

/-- The burn intent depends on the settings and on what the builder sees of the request,
not on the block. -/
theorem burnIntent_eq (builder : GatewayVmPayloadBuilder) {payload payload' : GatewayVmPayload}
    (settings : builder.values chain = builder.values chain')
    (ok : builder.buildGatewayPayload keccak256 destinations chain chainId depository params =
      .ok payload)
    (ok' : builder.buildGatewayPayload keccak256 destinations chain' chainId depository
      params = .ok payload') : payload.burnIntent = payload'.burnIntent := by
  have builders : getDestinationBuilder keccak256 chain builder =
      getDestinationBuilder keccak256 chain' builder := by
    funext destinationChainId
    simp only [getDestinationBuilder, settings]
  have intents : buildBurnIntent keccak256 destinations chain builder =
      buildBurnIntent keccak256 destinations chain' builder := by
    funext sourceChainId data routing params salt
    simp only [buildBurnIntent, settings]
  simp only [buildGatewayPayload, settings, builders, intents, bind_eq_ok, require_eq_ok,
    orRevert_eq_ok, pure_eq_ok] at ok ok'
  obtain ⟨_, _, _, _, _, _, _, _, data, isData, _, _, source, isSource, domain, isDomain, _, _,
    address, isAddress, recipient, isRecipient, intent, isIntent, _, _, _, _, _, _, rfl⟩ := ok
  obtain ⟨_, _, _, _, _, _, _, _, data', isData', _, _, source', isSource', domain', isDomain',
    _, _, address', isAddress', recipient', isRecipient', intent', isIntent', _, _, _, _, _, _,
    rfl⟩ := ok'
  cases isData.symm.trans isData'
  cases isSource.symm.trans isSource'
  cases isDomain.symm.trans isDomain'
  cases isAddress.symm.trans isAddress'
  cases isRecipient.symm.trans isRecipient'
  cases isIntent.symm.trans isIntent'
  rfl

end GatewayVmPayloadBuilder

end RelaySettlement
