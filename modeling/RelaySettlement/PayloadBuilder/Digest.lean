import RelaySettlement.PayloadBuilder.EthereumVm
import RelaySettlement.Depository.Core

/-!
# The builders' digests are the depositories' digests

The builders hash calls with a commitment column, the depositories calls with their
calldata.  A call and its executable form hash alike when the calldata has the hash the
call commits to, so the digests of a request and of its executable form agree; and as long
as the hash function has no collision among what is hashed, nothing else has that digest.
Between the two lies the payload, which the builder encodes and later decodes again.
-/

open Evm

namespace RelaySettlement

/-! ## Calls -/

namespace PayloadBuilder

namespace Call

variable (keccak256 : Bytes → Bytes32)

/-- The hash of the calldata that a call stands for. -/
def commitment (call : Call) : Bytes32 :=
  if call.dataHash = 0 then keccak256 call.data else call.dataHash

/-- A call with a commitment has no calldata. -/
def Unambiguous (call : Call) : Prop := call.dataHash ≠ 0 → call.data = []

/-- An executable call does what a call stands for, with calldata of the committed hash. -/
structure Matches (call : Call) (executable : Depository.Call) : Prop where
  target : executable.target = call.target
  calldata : keccak256 executable.data = call.commitment keccak256
  value : executable.value = call.value
  allowFailure : executable.allowFailure = call.allowFailure

/-- The call without the commitment column, and with the given calldata if it has a
commitment. -/
def executable (calldata : Bytes) (call : Call) : Depository.Call :=
  ⟨call.target, if call.dataHash = 0 then call.data else calldata, call.value,
    call.allowFailure⟩

end Call

variable {keccak256 : Bytes → Bytes32}

theorem Call.matches_executable {calldata : Bytes} {call : Call}
    (committed : call.dataHash ≠ 0 → keccak256 calldata = call.dataHash) :
    call.Matches keccak256 (call.executable calldata) where
  target := rfl
  calldata := by
    rw [Call.executable, Call.commitment]
    split
    · rfl
    next commits => exact committed commits
  value := rfl
  allowFailure := rfl

variable (keccak256) in
/-- What is hashed for a call. -/
abbrev encodedCall (call : Call) : Bytes :=
  encodeCall keccak256 call (call.commitment keccak256)

theorem hashCalls_eq {calls : List Call} (unambiguous : ∀ call ∈ calls, call.Unambiguous) :
    hashCalls keccak256 calls =
      .ok (calls.map fun call => keccak256 (encodedCall keccak256 call)) := by
  induction calls with
  | nil => rfl
  | cons call calls ih =>
      rw [List.forall_mem_cons] at unambiguous
      have dataHash : callDataHash keccak256 call = .ok (call.commitment keccak256) := by
        rw [callDataHash, Call.commitment]
        split
        · rfl
        next commits =>
          rw [unambiguous.1 commits, require_pos List.length_nil]
          rfl
      rw [hashCalls, dataHash, ok_bind, ih unambiguous.2]
      rfl

theorem boolWord_inj {flag flag' : Bool}
    (same : (if flag then 1 else 0 : U256) = if flag' then 1 else 0) : flag = flag' := by
  cases flag <;> cases flag' <;> simp_all

/-- Calls and their executable forms are encoded alike, and only they are. -/
theorem encodeCall_eq_iff {call : Call} {executable : Depository.Call} :
    Depository.encodeCall keccak256 executable = encodedCall keccak256 call ↔
      call.Matches keccak256 executable := by
  constructor
  · intro same
    have words := Abi.encode_words_inj
      [Depository.callTypehash keccak256, executable.target.setWidth 256,
        keccak256 executable.data, executable.value, if executable.allowFailure then 1 else 0]
      [callTypehash keccak256, call.target.setWidth 256, call.commitment keccak256,
        call.value, if call.allowFailure then 1 else 0] same
    simp only [List.cons.injEq, and_true] at words
    obtain ⟨_, target, calldata, value, allowFailure⟩ := words
    exact ⟨widen_inj (by decide) target, calldata, value, boolWord_inj allowFailure⟩
  · rintro ⟨target, calldata, value, allowFailure⟩
    rw [Depository.encodeCall, target, calldata, value, allowFailure]
    rfl

variable (keccak256) in
/-- The hashes of the calls, side by side. -/
abbrev packedCalls (calls : List Call) : Bytes :=
  (calls.map fun call => keccak256 (encodedCall keccak256 call)).flatMap Abi.word

theorem packCallHashes_eq {calls : List Call} {executables : List Depository.Call}
    (matching : List.Forall₂ (Call.Matches keccak256) calls executables) :
    Depository.packCallHashes keccak256 executables = packedCalls keccak256 calls := by
  rw [Depository.packCallHashes, packedCalls]
  congr 1
  induction matching with
  | nil => rfl
  | cons first _ ih => rw [List.map_cons, List.map_cons, encodeCall_eq_iff.mpr first, ih]

/-- What is hashed for a list of calls. -/
def hashedCalls (keccak256 : Bytes → Bytes32) (calls : List Call) : List Bytes :=
  packedCalls keccak256 calls :: calls.map (encodedCall keccak256)

end PayloadBuilder

/-- What is hashed for a list of executable calls. -/
def Depository.hashedCalls (keccak256 : Bytes → Bytes32) (calls : List Depository.Call) :
    List Bytes :=
  Depository.packCallHashes keccak256 calls :: calls.map (Depository.encodeCall keccak256)

namespace PayloadBuilder

variable {keccak256 : Bytes → Bytes32}

variable {calls : List Call}

/-- Without a collision only executable forms of the calls have their hash. -/
theorem matches_of_hash_eq {calls : List Call} {executables : List Depository.Call}
    (noCollision : Abi.NoCollision keccak256
      (hashedCalls keccak256 calls ++ Depository.hashedCalls keccak256 executables))
    (same : keccak256 (Depository.packCallHashes keccak256 executables) =
      keccak256 (packedCalls keccak256 calls)) :
    List.Forall₂ (Call.Matches keccak256) calls executables := by
  have packed := noCollision _ (by simp [Depository.hashedCalls]) _ (by simp [hashedCalls]) same
  have hashes := Abi.flatMap_word_inj packed
  have encodings : ∀ call ∈ calls, ∀ executable ∈ executables,
      keccak256 (Depository.encodeCall keccak256 executable) =
        keccak256 (encodedCall keccak256 call) → call.Matches keccak256 executable := by
    intro call member executable member' sameHash
    apply encodeCall_eq_iff.mp
    apply noCollision _ _ _ _ sameHash
    · simp only [Depository.hashedCalls, List.mem_append, List.mem_cons, List.mem_map]
      exact .inr (.inr ⟨executable, member', rfl⟩)
    · simp only [hashedCalls, List.mem_append, List.mem_cons, List.mem_map]
      exact .inl (.inr ⟨call, member, rfl⟩)
  clear noCollision same packed
  induction executables generalizing calls with
  | nil =>
      rw [List.map_nil, List.nil_eq, List.map_eq_nil_iff] at hashes
      subst hashes
      exact .nil
  | cons executable executables ih =>
      cases calls with
      | nil => cases hashes
      | cons call calls =>
          simp only [List.map_cons, List.cons.injEq] at hashes
          refine .cons (encodings call List.mem_cons_self executable List.mem_cons_self
            hashes.1) (ih hashes.2 ?_)
          intro other member executable' member'
          exact encodings other (List.mem_cons_of_mem _ member) executable'
            (List.mem_cons_of_mem _ member')

/-- Without a collision only the encoding of the same words has a digest, and only executable
forms of the calls have the hash among them. -/
theorem words_of_digest_eq {domainSeparator : Bytes32} {executables : List Depository.Call}
    (words words' : List U256)
    (noCollision : Abi.NoCollision keccak256
      (Abi.digestInputs keccak256 domainSeparator (Abi.encode (words.map .word)) ++
          hashedCalls keccak256 calls ++
        (Abi.digestInputs keccak256 domainSeparator (Abi.encode (words'.map .word)) ++
          Depository.hashedCalls keccak256 executables)))
    (same : Abi.hashTypedData keccak256 domainSeparator
        (keccak256 (Abi.encode (words'.map .word))) =
      Abi.hashTypedData keccak256 domainSeparator (keccak256 (Abi.encode (words.map .word)))) :
    words' = words ∧
      (keccak256 (Depository.packCallHashes keccak256 executables) =
          keccak256 (packedCalls keccak256 calls) →
        List.Forall₂ (Call.Matches keccak256) calls executables) :=
  ⟨Abi.encode_words_inj _ _ (Abi.eq_of_hashTypedData_eq noCollision.firsts same.symm).2.symm,
    matches_of_hash_eq noCollision.seconds⟩

/-! ## Payloads -/

theorem Call.ofValue_toValue (call : Call) : Call.ofValue call.toValue = some call := by
  cases call with
  | mk target data dataHash value allowFailure =>
      rw [Call.toValue, Call.ofValue]
      have narrowed : (target.setWidth 256).setWidth 160 = target := by
        rw [BitVec.setWidth_setWidth_of_le _ (by decide), BitVec.setWidth_eq]
      cases allowFailure <;> simp [narrowed]

/-- The calls of a payload: few, short, and with either calldata or a commitment. -/
structure Built (calls : List Call) : Prop where
  few : calls.length ≤ 2
  short : ∀ call ∈ calls, call.data.length ≤ 68
  unambiguous : ∀ call ∈ calls, call.Unambiguous

theorem length_encodeTransfer (receiver : Address) (amount : U256) :
    (encodeTransfer keccak256 receiver amount).length = 68 := by
  have words := Abi.length_encode_words [receiver.setWidth 256, amount]
  rw [encodeTransfer, List.length_append, Abi.length_bigEndian]
  exact congrArg (4 + ·) words

theorem withRouted_built {transfer : Call} {data : Bytes}
    {decode : Bytes → Except Error RoutedWithdrawalData} (uncommitted : transfer.dataHash = 0)
    (short : transfer.data.length ≤ 68) (ok : withRouted transfer data decode = .ok calls) :
    Built calls := by
  have transferUnambiguous : transfer.Unambiguous := fun commits => absurd uncommitted commits
  rw [withRouted] at ok
  split at ok
  · cases ok
    exact ⟨Nat.le_succ 1, by simpa using short, by simpa using transferUnambiguous⟩
  · simp only [bind_eq_ok, pure_eq_ok] at ok
    obtain ⟨routed, _, rfl⟩ := ok
    refine ⟨Nat.le_refl 2, ?_, ?_⟩
    · simpa using short
    · simp only [List.forall_mem_cons]
      exact ⟨transferUnambiguous, fun _ => rfl, List.forall_mem_nil _⟩

theorem Built.typed (built : Built calls) :
    Abi.HasType (.array (calls.map Call.toValue)) (.array Call.type) := by
  have few := built.few
  apply Abi.HasType.array
  · rw [List.length_map]
    omega
  · apply Abi.HaveTypes.replicate
    rw [List.forall_mem_map]
    intro call member
    have short := built.short call member
    exact .tuple (.cons (Abi.hasType_address _) (.cons (.bytes (by omega))
      (.cons (Abi.hasType_word _) (.cons (Abi.hasType_word _)
        (.cons (Abi.hasType_bool _) .nil)))))

theorem Built.size_le (built : Built calls) :
    (Abi.Value.array (calls.map Call.toValue)).size ≤ 1726 := by
  have callSize : ∀ call ∈ calls, call.toValue.size ≤ 815 := by
    intro call member
    have short := built.short call member
    have size := Abi.Value.size_bytes_le call.data
    refine Nat.le_trans (Abi.Value.size_tuple_le 131 ?_) (by simp)
    simp only [List.forall_mem_cons, Abi.Value.size_word]
    exact ⟨by omega, by omega, by omega, by omega, by omega, List.forall_mem_nil _⟩
  have few := built.few
  have size := Abi.Value.size_array_le 815 (List.forall_mem_map.mpr callSize)
  rw [List.length_map] at size
  omega

/-- The calls of `request.executable` match. -/
theorem matches_executables {calldata : Bytes}
    (committed : ∀ call ∈ calls, call.dataHash ≠ 0 → keccak256 calldata = call.dataHash) :
    List.Forall₂ (Call.Matches keccak256) calls (calls.map (Call.executable calldata)) := by
  induction calls with
  | nil => exact .nil
  | cons call calls ih =>
      rw [List.forall_mem_cons] at committed
      exact .cons (Call.matches_executable committed.1) (ih committed.2)

end PayloadBuilder

/-! ## Requests -/

/-- What is hashed for the digest of a request. -/
def RelayDepository.hashed (keccak256 : Bytes → Bytes32) (domainSeparator : Bytes32)
    (request : RelayDepository.CallRequest) : List Bytes :=
  Abi.digestInputs keccak256 domainSeparator
      (RelayDepository.encodeCallRequest keccak256 request) ++
    Depository.hashedCalls keccak256 request.calls

/-- What is hashed for the digest of a request. -/
def RelayGatewayDepository.hashed (keccak256 : Bytes → Bytes32) (domainSeparator : Bytes32)
    (request : RelayGatewayDepository.CallRequest) : List Bytes :=
  Abi.digestInputs keccak256 domainSeparator
      (RelayGatewayDepository.encodeCallRequest keccak256 request) ++
    Depository.hashedCalls keccak256 request.calls

namespace EthereumVmPayloadBuilder

open PayloadBuilder

section Encoding

variable (keccak256 : Bytes → Bytes32)

/-- The struct encoding of a request whose calls are unambiguous. -/
abbrev encodedRequest (request : CallRequest) : Bytes :=
  encodeCallRequest keccak256 request
    (request.calls.map fun call => keccak256 (encodedCall keccak256 call))

/-- What is hashed for the digest of a request. -/
def hashed (domainSeparator : Bytes32) (request : CallRequest) : List Bytes :=
  Abi.digestInputs keccak256 domainSeparator (encodedRequest keccak256 request) ++
    hashedCalls keccak256 request.calls

/-- The request without the commitment column, and with the given calldata for the calls
that have a commitment. -/
def CallRequest.executable (calldata : Bytes) (request : CallRequest) :
    RelayDepository.CallRequest :=
  ⟨request.calls.map (Call.executable calldata), request.nonce, request.expiration⟩

end Encoding

variable {keccak256 : Bytes → Bytes32} {chain : HubChain} {builder : EthereumVmPayloadBuilder}
variable {request : CallRequest}

theorem buildRequest_built {chainId depository : Bytes} {params : BuildPayloadParams}
    (ok : buildRequest keccak256 chain builder chainId depository params = .ok request) :
    Built request.calls := by
  simp only [buildRequest, bind_eq_ok, pure_eq_ok] at ok
  obtain ⟨_, _, _, _, _, _, calls, routed, _, _, rfl⟩ := ok
  apply withRouted_built _ _ routed
  · rw [transferCall]
    split <;> rfl
  · rw [transferCall]
    split
    · exact Nat.zero_le _
    · exact (length_encodeTransfer _ _).le

/-- A payload is decoded to the request it was built from. -/
theorem decode_payload (built : Built request.calls) :
    Abi.decodeAs CallRequest.type CallRequest.ofValue (Abi.encode [request.toValue]) =
      some request := by
  have typed : Abi.HasType request.toValue CallRequest.type :=
    .tuple (.cons built.typed (.cons (Abi.hasType_word _) (.cons (Abi.hasType_word _) .nil)))
  rw [CallRequest.toValue, CallRequest.type, Abi.decodeAs_encode_tuple typed (by simp),
    CallRequest.ofValue, Abi.mapM_ofValue Call.ofValue_toValue, Option.map_some]
  simpa [Abi.Value.size_word] using built.size_le.trans (by decide)

/-- The hash to sign for a payload. -/
theorem hashesToSign_eq {chainId depository : Bytes} {evmChainId : U256}
    (built : Built request.calls) (length : depository.length = 20)
    (configured : builder.values chain (getEvmChainIdKey keccak256 chainId) =
      some evmChainId) :
    builder.hashesToSign keccak256 chain chainId depository (Abi.encode [request.toValue]) =
      .ok [Abi.hashTypedData keccak256
        (Abi.domainSeparator keccak256 "RelayDepository" "1" evmChainId (bytes20 depository))
        (keccak256 (encodedRequest keccak256 request))] := by
  rw [hashesToSign, require_pos length, ok_bind, getConfigValue, configured,
    decode_payload built]
  simp only [orRevert, ok_bind, hashCallRequest, hashCalls_eq built.unambiguous]
  rfl

end EthereumVmPayloadBuilder

namespace GatewayEthereumVmDestinationPayloadBuilder

open PayloadBuilder

section Encoding

variable (keccak256 : Bytes → Bytes32)

/-- The struct encoding of a request whose calls are unambiguous. -/
abbrev encodedRequest (request : CallRequest) : Bytes :=
  encodeCallRequest keccak256 request
    (request.calls.map fun call => keccak256 (encodedCall keccak256 call))

/-- What is hashed for the digest of a request. -/
def hashed (domainSeparator : Bytes32) (request : CallRequest) : List Bytes :=
  Abi.digestInputs keccak256 domainSeparator (encodedRequest keccak256 request) ++
    hashedCalls keccak256 request.calls

/-- The request without the commitment column, and with the given calldata for the calls
that have a commitment. -/
def CallRequest.executable (calldata : Bytes) (request : CallRequest) :
    RelayGatewayDepository.CallRequest :=
  ⟨request.transferSpecHash, request.calls.map (Call.executable calldata), request.nonce,
    request.expiration⟩

end Encoding

variable {keccak256 : Bytes → Bytes32} {chain : HubChain}
variable {builder : GatewayEthereumVmDestinationPayloadBuilder} {request : CallRequest}

theorem buildRequest_built {params : GatewayExecutionParams}
    (ok : buildRequest keccak256 chain builder params = .ok request) :
    Built request.calls ∧ request.transferSpecHash = params.transferSpecHash := by
  simp only [buildRequest, bind_eq_ok, pure_eq_ok] at ok
  obtain ⟨_, _, calls, routed, rfl⟩ := ok
  exact ⟨withRouted_built rfl (length_encodeTransfer _ _).le routed, rfl⟩

theorem length_payload (built : Built request.calls) :
    (Abi.encode [request.toValue]).length ≤ 7064 := by
  have size := built.size_le
  have requestSize : request.toValue.size ≤ 7032 := by
    refine Nat.le_trans (Abi.Value.size_tuple_le 1726 ?_) (by simp)
    simp only [List.forall_mem_cons, Abi.Value.size_word]
    exact ⟨by omega, size, by omega, by omega, List.forall_mem_nil _⟩
  exact Abi.length_encode_single_le requestSize

/-- A payload is decoded to the request it was built from. -/
theorem decode_payload (built : Built request.calls) :
    Abi.decodeAs CallRequest.type CallRequest.ofValue (Abi.encode [request.toValue]) =
      some request := by
  have typed : Abi.HasType request.toValue CallRequest.type :=
    .tuple (.cons (Abi.hasType_word _) (.cons built.typed (.cons (Abi.hasType_word _)
      (.cons (Abi.hasType_word _) .nil))))
  rw [Abi.decodeAs_encode typed ((length_payload built).trans (by simp [Abi.Decoder.limit])),
    CallRequest.toValue, CallRequest.ofValue, Abi.mapM_ofValue Call.ofValue_toValue,
    Option.map_some]

/-- The hash to sign for a payload. -/
theorem hashExecutionPayload_eq {destinationChainId depository : Bytes} {evmChainId : U256}
    (built : Built request.calls)
    (configured : builder.values chain (getEvmChainIdKey keccak256 destinationChainId) =
      some evmChainId) :
    builder.hashExecutionPayload keccak256 chain destinationChainId depository
        (Abi.encode [request.toValue]) =
      .ok (Abi.hashTypedData keccak256
        (Abi.domainSeparator keccak256 "RelayGatewayDepository" "1" evmChainId
          (depositoryAddress depository))
        (keccak256 (encodedRequest keccak256 request))) := by
  rw [hashExecutionPayload, getConfigValue, configured, decode_payload built]
  simp only [orRevert, ok_bind, hashCalls_eq built.unambiguous]
  rfl

end GatewayEthereumVmDestinationPayloadBuilder

/-! ## The digests -/

open PayloadBuilder GatewayEthereumVmDestinationPayloadBuilder in
/-- For every payload that `EthereumVmPayloadBuilder.buildPayload` returns, `hashesToSign`
returns one hash for a depository of 20 bytes on a configured chain.  It is the digest that
the `RelayDepository` at that address on that chain computes for the decoded request
without the commitment column, with any calldata that has the committed hash; and a request
with that digest has the same nonce, expiration and calls, up to calldata of the same hash.
The same holds for the payloads of `GatewayEthereumVmDestinationPayloadBuilder`, whose
requests also carry the hash of the transfer spec, and `RelayGatewayDepository`.  Each
converse is stated for a hash function without a collision among what is hashed for the two
requests. -/
theorem evm_digests_agree (keccak256 : Bytes → Bytes32) (chain later : HubChain) :
    (∀ (builder : EthereumVmPayloadBuilder) (chainId depository : Bytes)
        (params : BuildPayloadParams) (payload : Bytes),
      builder.buildPayload keccak256 chain chainId depository params = .ok payload →
      ∃ request, Abi.decodeAs EthereumVmPayloadBuilder.CallRequest.type
          EthereumVmPayloadBuilder.CallRequest.ofValue payload = some request ∧
        ∀ evmChainId, depository.length = 20 →
          builder.values later (getEvmChainIdKey keccak256 chainId) = some evmChainId →
          ∃ hash, builder.hashesToSign keccak256 later chainId depository payload =
              .ok [hash] ∧
            (∀ calldata,
              (∀ call ∈ request.calls, call.dataHash ≠ 0 →
                keccak256 calldata = call.dataHash) →
              (RelayDepository.hashCallRequest keccak256 evmChainId (bytes20 depository)
                (request.executable calldata)).2 = hash) ∧
            ∀ other,
              Abi.NoCollision keccak256
                (let domainSeparator := Abi.domainSeparator keccak256 "RelayDepository" "1"
                  evmChainId (bytes20 depository)
                EthereumVmPayloadBuilder.hashed keccak256 domainSeparator request ++
                  RelayDepository.hashed keccak256 domainSeparator other) →
              (RelayDepository.hashCallRequest keccak256 evmChainId (bytes20 depository)
                other).2 = hash →
              List.Forall₂ (Call.Matches keccak256) request.calls other.calls ∧
                other.nonce = request.nonce ∧ other.expiration = request.expiration) ∧
    ∀ (builder : GatewayEthereumVmDestinationPayloadBuilder)
        (params : GatewayExecutionParams) (payload : Bytes),
      builder.buildExecutionPayload keccak256 chain params = .ok payload →
      ∃ request, Abi.decodeAs GatewayEthereumVmDestinationPayloadBuilder.CallRequest.type
          GatewayEthereumVmDestinationPayloadBuilder.CallRequest.ofValue payload =
            some request ∧
        request.transferSpecHash = params.transferSpecHash ∧
        ∀ destinationChainId depository evmChainId,
          builder.values later (getEvmChainIdKey keccak256 destinationChainId) =
            some evmChainId →
          let self :=
            GatewayEthereumVmDestinationPayloadBuilder.depositoryAddress depository
          ∃ hash, builder.hashExecutionPayload keccak256 later destinationChainId depository
              payload = .ok hash ∧
            (∀ calldata,
              (∀ call ∈ request.calls, call.dataHash ≠ 0 →
                keccak256 calldata = call.dataHash) →
              (RelayGatewayDepository.hashCallRequest keccak256 evmChainId self
                (request.executable calldata)).2 = hash) ∧
            ∀ other,
              Abi.NoCollision keccak256
                (let domainSeparator := Abi.domainSeparator keccak256
                  "RelayGatewayDepository" "1" evmChainId self
                GatewayEthereumVmDestinationPayloadBuilder.hashed keccak256 domainSeparator
                    request ++
                  RelayGatewayDepository.hashed keccak256 domainSeparator other) →
              (RelayGatewayDepository.hashCallRequest keccak256 evmChainId self other).2 =
                hash →
              other.transferSpecHash = request.transferSpecHash ∧
                List.Forall₂ (Call.Matches keccak256) request.calls other.calls ∧
                other.nonce = request.nonce ∧ other.expiration = request.expiration := by
  constructor
  · intro builder chainId depository params payload ok
    simp only [EthereumVmPayloadBuilder.buildPayload, bind_eq_ok, pure_eq_ok] at ok
    obtain ⟨request, isRequest, rfl⟩ := ok
    have built := EthereumVmPayloadBuilder.buildRequest_built isRequest
    have decoded := EthereumVmPayloadBuilder.decode_payload built
    refine ⟨request, decoded, ?_⟩
    intro evmChainId length configured
    refine ⟨_, EthereumVmPayloadBuilder.hashesToSign_eq built length configured, ?_, ?_⟩
    · intro calldata committed
      have packed := packCallHashes_eq (matches_executables committed)
      simp only [RelayDepository.hashCallRequest, RelayDepository.encodeCallRequest,
        EthereumVmPayloadBuilder.CallRequest.executable, packed]
      rfl
    · intro other noCollision same
      obtain ⟨words, matching⟩ := words_of_digest_eq
        [EthereumVmPayloadBuilder.callRequestTypehash keccak256,
          keccak256 (packedCalls keccak256 request.calls), request.nonce, request.expiration]
        [RelayDepository.callRequestTypehash keccak256,
          keccak256 (Depository.packCallHashes keccak256 other.calls), other.nonce,
          other.expiration] noCollision same
      simp only [List.cons.injEq, and_true] at words
      exact ⟨matching words.2.1, words.2.2⟩
  · intro builder params payload ok
    simp only [buildExecutionPayload, bind_eq_ok, pure_eq_ok] at ok
    obtain ⟨request, isRequest, rfl⟩ := ok
    obtain ⟨built, spec⟩ := buildRequest_built isRequest
    have decoded := decode_payload built
    refine ⟨request, decoded, spec, ?_⟩
    intro destinationChainId depository evmChainId configured self
    refine ⟨_, hashExecutionPayload_eq built configured, ?_, ?_⟩
    · intro calldata committed
      have packed := packCallHashes_eq (matches_executables committed)
      simp only [RelayGatewayDepository.hashCallRequest,
        RelayGatewayDepository.encodeCallRequest, CallRequest.executable, packed]
      rfl
    · intro other noCollision same
      obtain ⟨words, matching⟩ := words_of_digest_eq
        [callRequestTypehash keccak256, request.transferSpecHash,
          keccak256 (packedCalls keccak256 request.calls), request.nonce, request.expiration]
        [RelayGatewayDepository.callRequestTypehash keccak256, other.transferSpecHash,
          keccak256 (Depository.packCallHashes keccak256 other.calls), other.nonce,
          other.expiration] noCollision same
      simp only [List.cons.injEq, and_true] at words
      exact ⟨words.2.1, matching words.2.2.1, words.2.2.2⟩

namespace SampleDigest

open PayloadBuilder

/-- Requests expire after 600 seconds, the chain of the depository has the id 10, and every
router is allowed. -/
def chain : HubChain where
  blockNumber := 3
  timestamp := 1000
  configValues := fun _ key =>
    if key = getExpirationKey Abi.sampleHash then some 600
    else if key = getEvmChainIdKey Abi.sampleHash [1] then some 10
    else some 1
  gasPayments := fun _ _ => 0

def account (last : UInt8) : Bytes := List.replicate 19 0 ++ [last]

def calldata : Bytes := [7, 7]

def routedData : Bytes := Abi.encode [.word 1, .address 40, .word (Abi.sampleHash calldata)]

def builder : EthereumVmPayloadBuilder := ⟨20, 21⟩

/-- A routed withdrawal of a token. -/
def params : BuildPayloadParams := ⟨account 30, 500, account 31, 1, routedData⟩

def payload : Bytes :=
  (builder.buildPayload Abi.sampleHash chain [1] (account 50) params).toOption.getD []

def request : EthereumVmPayloadBuilder.CallRequest :=
  ⟨[⟨30, encodeTransfer Abi.sampleHash 31 500, 0, 0, false⟩,
      ⟨40, [], Abi.sampleHash calldata, 0, false⟩],
    builder.computeNonce Abi.sampleHash chain [1] (account 50) params, 1600⟩

def destination : GatewayEthereumVmDestinationPayloadBuilder := ⟨22, 21⟩

/-- A direct withdrawal through Gateway. -/
def executionParams : GatewayExecutionParams :=
  ⟨[1], 60, 30, account 51, account 31, 500, 1, 1600, []⟩

def executionPayload : Bytes :=
  (destination.buildExecutionPayload Abi.sampleHash chain executionParams).toOption.getD []

def executionRequest : GatewayEthereumVmDestinationPayloadBuilder.CallRequest :=
  ⟨60, [⟨30, encodeTransfer Abi.sampleHash 31 500, 0, 0, false⟩],
    destination.computeNonce Abi.sampleHash chain executionParams, 1600⟩

end SampleDigest

open SampleDigest PayloadBuilder in
theorem evm_digests_agree_sample :
    (∃ hash, builder.hashesToSign Abi.sampleHash chain [1] (account 50) payload = .ok [hash] ∧
      (RelayDepository.hashCallRequest Abi.sampleHash 10 50 (request.executable calldata)).2 =
        hash ∧
      List.Forall₂ (Call.Matches Abi.sampleHash) request.calls
        (request.executable calldata).calls) ∧
    ∃ hash, destination.hashExecutionPayload Abi.sampleHash chain [1] (account 51)
        executionPayload = .ok hash ∧
      (RelayGatewayDepository.hashCallRequest Abi.sampleHash 10 51
        (executionRequest.executable [])).2 = hash ∧
      List.Forall₂ (Call.Matches Abi.sampleHash) executionRequest.calls
        (executionRequest.executable []).calls := by
  obtain ⟨direct, gateway⟩ := evm_digests_agree Abi.sampleHash chain chain
  constructor
  · obtain ⟨decoded, isDecoded, digests⟩ :=
      direct builder [1] (account 50) params payload (by decide +kernel)
    have isRequest : decoded = request :=
      Option.some.inj (isDecoded.symm.trans (by decide +kernel))
    subst isRequest
    obtain ⟨hash, isHash, agrees, converse⟩ := digests 10 rfl (by decide +kernel)
    have same := agrees calldata (by decide +kernel)
    exact ⟨hash, isHash, same, (converse _ (by decide +kernel) same).1⟩
  · obtain ⟨decoded, isDecoded, _, digests⟩ :=
      gateway destination executionParams executionPayload (by decide +kernel)
    have isRequest : decoded = executionRequest :=
      Option.some.inj (isDecoded.symm.trans (by decide +kernel))
    subst isRequest
    obtain ⟨hash, isHash, agrees, converse⟩ := digests [1] (account 51) 10 (by decide +kernel)
    have same := agrees [] (by decide +kernel)
    exact ⟨hash, isHash, same, (converse _ (by decide +kernel) same).2.1⟩

end RelaySettlement
