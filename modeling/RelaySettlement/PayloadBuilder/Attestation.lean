import RelaySettlement.Evm.Eip712
import RelaySettlement.Evm.Keccak
import RelaySettlement.PayloadBuilder.Signing

/-!
# Attestations of a transfer spec

The burn intent that is signed for the source side and the call request that is signed for
the destination name one transfer spec, the first by its typed hash and the second by the
hash of its packed form.  The depository accepts the one attestation that carries this
packed form.
-/

open Evm

namespace RelaySettlement

/-! ## The two encodings of a transfer spec -/

/-- The members of a transfer spec in the order of their declaration. -/
def TransferSpec.members (spec : TransferSpec) : Eip712.Struct :=
  [("version", .uint 32 spec.version), ("sourceDomain", .uint 32 spec.sourceDomain),
    ("destinationDomain", .uint 32 spec.destinationDomain),
    ("sourceContract", .bytes32 spec.sourceContract),
    ("destinationContract", .bytes32 spec.destinationContract),
    ("sourceToken", .bytes32 spec.sourceToken),
    ("destinationToken", .bytes32 spec.destinationToken),
    ("sourceDepositor", .bytes32 spec.sourceDepositor),
    ("destinationRecipient", .bytes32 spec.destinationRecipient),
    ("sourceSigner", .bytes32 spec.sourceSigner),
    ("destinationCaller", .bytes32 spec.destinationCaller), ("value", .uint 256 spec.value),
    ("salt", .bytes32 spec.salt), ("hookData", .bytes spec.hookData)]

namespace CircleGatewayCodec

/-- The literal in the codec is the hash of the type. -/
theorem keccak256_encodeType (spec : TransferSpec) :
    Keccak.keccak256 (Eip712.encodeType "TransferSpec" spec.members) = transferSpecTypehash := by
  -- the type does not depend on the values
  change Keccak.keccak256 (Eip712.encodeType "TransferSpec"
    (TransferSpec.members ⟨0, 0, 0, 0, 0, 0, 0, 0, 0, 0, 0, 0, 0, []⟩)) = _
  decide +kernel

def hashTransferSpecTypedData (keccak256 : Bytes → Bytes32) (spec : TransferSpec) : Bytes32 :=
  keccak256 (encodeTransferSpecTypedData keccak256 spec)

variable {keccak256 : Bytes → Bytes32} {spec spec' : TransferSpec}

/-- The typed encoding, which the codec puts together from two parts, is that of the
struct. -/
theorem encodeTransferSpecTypedData_eq (spec : TransferSpec) :
    encodeTransferSpecTypedData keccak256 spec =
      Abi.word transferSpecTypehash ++ Eip712.encodeData keccak256 spec.members := by
  have header := Abi.encode_words [transferSpecTypehash, spec.version.setWidth 256,
    spec.sourceDomain.setWidth 256, spec.destinationDomain.setWidth 256, spec.sourceContract,
    spec.destinationContract, spec.sourceToken, spec.destinationToken]
  have footer := Abi.encode_words [spec.sourceDepositor, spec.destinationRecipient,
    spec.sourceSigner, spec.destinationCaller, spec.value, spec.salt, keccak256 spec.hookData]
  simp only [List.map_cons, List.map_nil] at header footer
  rw [encodeTransferSpecTypedData, header, footer]
  simp [TransferSpec.members, Eip712.encodeData, Eip712.Member.encode]

theorem hashTransferSpecTypedData_eq
    (typehash : keccak256 (Eip712.encodeType "TransferSpec" spec.members) =
      transferSpecTypehash) :
    hashTransferSpecTypedData keccak256 spec =
      Eip712.hashStruct keccak256 "TransferSpec" spec.members := by
  rw [hashTransferSpecTypedData, encodeTransferSpecTypedData_eq, Eip712.hashStruct,
    typehash]

/-- All members but the last have a fixed width, so the packed form can be taken apart from
the front. -/
theorem packTransferSpec_inj (same : packTransferSpec spec = packTransferSpec spec') :
    spec = spec' := by
  simp only [packTransferSpec, Abi.word, List.append_assoc, Abi.bigEndian_append_inj,
    Abi.bigEndian_toNat_inj (show 32 ≤ 8 * 4 by decide),
    Abi.bigEndian_toNat_inj (show 256 ≤ 8 * 32 by decide), true_and] at same
  obtain ⟨version, source, destination, sourceContract, destinationContract, sourceToken,
    destinationToken, depositor, recipient, signer, caller, value, salt, _, hookData⟩ := same
  cases spec
  cases spec'
  rw [TransferSpec.mk.injEq]
  exact ⟨version, source, destination, sourceContract, destinationContract, sourceToken,
    destinationToken, depositor, recipient, signer, caller, value, salt, hookData⟩

theorem length_packTransferSpec (spec : TransferSpec) :
    (packTransferSpec spec).length = 340 + spec.hookData.length := by
  simp only [packTransferSpec, Abi.word, List.length_append, Abi.length_bigEndian]
  omega

theorem encodeTransferSpec_eq_ok {encoded : Bytes} :
    encodeTransferSpec spec = .ok encoded ↔
      spec.hookData.length < 2 ^ 32 ∧ packTransferSpec spec = encoded := by
  simp only [encodeTransferSpec, bind_eq_ok, require_eq_ok, pure_eq_ok]
  constructor
  · rintro ⟨_, short, same⟩
    exact ⟨short, same⟩
  · rintro ⟨short, same⟩
    exact ⟨(), short, same⟩

end CircleGatewayCodec

/-! ## What the depository accepts -/

namespace RelayGatewayDepository

/-- An attestation: the magic, 32 bytes the depository does not look at, and a transfer spec
with its length. -/
def packAttestation (metadata spec : Bytes) : Bytes :=
  Abi.bigEndian 4 gatewayAttestationMagic ++ metadata ++ Abi.bigEndian 4 spec.length ++ spec

variable {keccak256 : Bytes → Bytes32} {payload : Bytes} {transferSpecHash : Bytes32}

theorem validateGatewayAttestation_eq_ok :
    validateGatewayAttestation keccak256 payload transferSpecHash = .ok () ↔
      40 ≤ payload.length ∧ Abi.readBigEndian (payload.take 4) = gatewayAttestationMagic ∧
      payload.length = 40 + Abi.readBigEndian ((payload.drop 36).take 4) ∧
      keccak256 (payload.drop 40) = transferSpecHash := by
  simp only [validateGatewayAttestation, bind_eq_ok, require_eq_ok]
  simp only [gatewayAttestationHeaderLength]
  constructor
  · rintro ⟨_, long, _, _, _, magic, _, length, hash⟩
    exact ⟨long, magic, length, hash⟩
  · rintro ⟨long, magic, length, hash⟩
    exact ⟨(), long, (), by rw [magic]; decide, (), magic, (), length, hash⟩

/-- The fields an attestation is read as determine it up to the bytes in between. -/
theorem eq_packAttestation (long : 40 ≤ payload.length)
    (magic : Abi.readBigEndian (payload.take 4) = gatewayAttestationMagic)
    (length : payload.length = 40 + Abi.readBigEndian ((payload.drop 36).take 4)) :
    payload = packAttestation ((payload.drop 4).take 32) (payload.drop 40) := by
  have front : Abi.bigEndian 4 gatewayAttestationMagic = payload.take 4 := by
    have bytes := Abi.bigEndian_readBigEndian (payload.take 4)
    rwa [List.length_take_of_le (by omega), magic] at bytes
  have size : Abi.bigEndian 4 (payload.drop 40).length = (payload.drop 36).take 4 := by
    have bytes := Abi.bigEndian_readBigEndian ((payload.drop 36).take 4)
    have rest : (payload.drop 40).length = Abi.readBigEndian ((payload.drop 36).take 4) := by
      rw [List.length_drop]
      omega
    rwa [List.length_take_of_le (by rw [List.length_drop]; omega), ← rest] at bytes
  have second : (payload.drop 4).drop 32 = payload.drop 36 := by rw [List.drop_drop]
  have third : (payload.drop 36).drop 4 = payload.drop 40 := by rw [List.drop_drop]
  rw [packAttestation, front, size, List.append_assoc, List.append_assoc, ← third,
    List.take_append_drop, ← second, List.take_append_drop, List.take_append_drop]

/-- An attestation that was put together is accepted for the hash of its transfer spec. -/
theorem validateGatewayAttestation_packAttestation {metadata spec : Bytes}
    (fixed : metadata.length = 32) (short : spec.length < 2 ^ 32)
    (hash : keccak256 spec = transferSpecHash) :
    validateGatewayAttestation keccak256 (packAttestation metadata spec) transferSpecHash =
      .ok () := by
  have magic : (packAttestation metadata spec).take 4 =
      Abi.bigEndian 4 gatewayAttestationMagic := by
    rw [packAttestation, List.append_assoc, List.append_assoc, List.take_left' (by simp)]
  have size : ((packAttestation metadata spec).drop 36).take 4 =
      Abi.bigEndian 4 spec.length := by
    rw [packAttestation, List.append_assoc, List.drop_left' (by simp [fixed]),
      List.take_left' (by simp)]
  have rest : (packAttestation metadata spec).drop 40 = spec := by
    rw [packAttestation, List.drop_left' (by simp [fixed])]
  rw [validateGatewayAttestation_eq_ok, magic, size, rest, Abi.readBigEndian_bigEndian,
    Abi.readBigEndian_bigEndian, Nat.mod_eq_of_lt (show spec.length < 256 ^ 4 from short)]
  have length : (packAttestation metadata spec).length = 40 + spec.length := by
    simp only [packAttestation, List.length_append, Abi.length_bigEndian, fixed]
  exact ⟨by omega, by decide, length, hash⟩

/-- Without a collision the depository accepts for the hash of a transfer spec the
attestations of this transfer spec, and no others. -/
theorem validateGatewayAttestation_iff {spec : Bytes} (short : spec.length < 2 ^ 32)
    (noCollision : Abi.NoCollision keccak256 [payload.drop 40, spec]) :
    validateGatewayAttestation keccak256 payload (keccak256 spec) = .ok () ↔
      ∃ metadata : Bytes, metadata.length = 32 ∧ payload = packAttestation metadata spec := by
  constructor
  · intro accepted
    obtain ⟨long, magic, length, hash⟩ := validateGatewayAttestation_eq_ok.mp accepted
    have same : payload.drop 40 = spec :=
      noCollision _ (by simp) _ (by simp) hash
    have packed := eq_packAttestation long magic length
    rw [same] at packed
    refine ⟨_, ?_, packed⟩
    rw [List.length_take_of_le (by rw [List.length_drop]; omega)]
  · rintro ⟨metadata, fixed, rfl⟩
    exact validateGatewayAttestation_packAttestation fixed short rfl

end RelayGatewayDepository

/-! ## The built payloads -/

namespace GatewayVmPayloadBuilder

open GatewayEthereumVmDestinationPayloadBuilder

variable {keccak256 : Bytes → Bytes32} {destinations : Destinations} {chain : HubChain}
variable {builder : GatewayVmPayloadBuilder} {chainId depository : Bytes}
variable {params : BuildPayloadParams} {payload : Bytes}

/-- What `buildPayload` encodes, and the request that its execution payload is read as. -/
theorem buildPayload_ok
    (built : builder.buildPayload keccak256 destinations chain chainId depository params =
      .ok payload) :
    ∃ gatewayPayload request,
      builder.buildGatewayPayload keccak256 destinations chain chainId depository params =
        .ok gatewayPayload ∧
      Builds keccak256 builder chainId depository params gatewayPayload request ∧
      payload = Abi.encode [gatewayPayload.toValue] ∧
      (∀ decoded, Abi.decodeAs GatewayVmPayload.type GatewayVmPayload.ofValue payload =
        some decoded → decoded = gatewayPayload) ∧
      Abi.decodeAs CallRequest.type
        CallRequest.ofValue
        gatewayPayload.executionPayload = some request := by
  simp only [buildPayload, bind_eq_ok, pure_eq_ok] at built
  obtain ⟨gatewayPayload, isPayload, rfl⟩ := built
  obtain ⟨request, builds⟩ := buildGatewayPayload_ok isPayload
  have length := length_payload builds.calls
  rw [← builds.execution] at length
  refine ⟨gatewayPayload, request, isPayload, builds, rfl, ?_, ?_⟩
  · intro decoded isDecoded
    exact GatewayVmPayload.eq_of_decodeAs builds.destination (by omega) builds.hookData isDecoded
  · rw [builds.execution]
    exact decode_payload builds.calls

end GatewayVmPayloadBuilder

section Binding

open CircleGatewayCodec RelayGatewayDepository

/-- An attestation is accepted for a built payload exactly if it carries the transfer spec of
the payload's burn intent, both encodings of a transfer spec cover all of it, and the typed
one is the standard one. -/
theorem attestation_binds (keccak256 : Bytes → Bytes32)
    (typehash : ∀ spec : TransferSpec,
      keccak256 (Eip712.encodeType "TransferSpec" spec.members) = transferSpecTypehash) :
    (∀ (destinations : GatewayVmPayloadBuilder.Destinations) (chain : HubChain)
        (builder : GatewayVmPayloadBuilder) (chainId depository : Bytes)
        (params : BuildPayloadParams) (payload : Bytes),
      builder.buildPayload keccak256 destinations chain chainId depository params =
          .ok payload →
        ∃ gatewayPayload request spec,
          payload = Abi.encode [gatewayPayload.toValue] ∧
          (∀ decoded, Abi.decodeAs GatewayVmPayload.type GatewayVmPayload.ofValue payload =
            some decoded → decoded = gatewayPayload) ∧
          Abi.decodeAs GatewayEthereumVmDestinationPayloadBuilder.CallRequest.type
            GatewayEthereumVmDestinationPayloadBuilder.CallRequest.ofValue
            gatewayPayload.executionPayload = some request ∧
          encodeTransferSpec gatewayPayload.burnIntent.spec = .ok spec ∧
          ∀ attestation : Bytes, Abi.NoCollision keccak256 [attestation.drop 40, spec] →
            (validateGatewayAttestation keccak256 attestation request.transferSpecHash =
                .ok () ↔
              ∃ metadata : Bytes, metadata.length = 32 ∧
                attestation = Abi.bigEndian 4 gatewayAttestationMagic ++ metadata ++
                  Abi.bigEndian 4 spec.length ++ spec)) ∧
    (∀ spec spec' : TransferSpec, spec.hookData.length < 2 ^ 32 →
      spec'.hookData.length < 2 ^ 32 →
      encodeTransferSpec spec = encodeTransferSpec spec' → spec = spec') ∧
    (∀ spec : TransferSpec, hashTransferSpecTypedData keccak256 spec =
      Eip712.hashStruct keccak256 "TransferSpec" spec.members) := by
  refine ⟨?_, ?_, ?_⟩
  · intro destinations chain builder chainId depository params payload built
    obtain ⟨gatewayPayload, request, _, builds, encoded, decodes, executes⟩ :=
      GatewayVmPayloadBuilder.buildPayload_ok built
    have noHook : gatewayPayload.burnIntent.spec.hookData.length = 0 := by
      rw [builds.hookData, List.length_nil]
    have isSpec := encodeTransferSpec_eq_ok.mpr
      ⟨show gatewayPayload.burnIntent.spec.hookData.length < 2 ^ 32 by omega, rfl⟩
    refine ⟨gatewayPayload, request, _, encoded, decodes, executes, isSpec, ?_⟩
    intro attestation noCollision
    rw [builds.spec]
    apply validateGatewayAttestation_iff _ noCollision
    rw [length_packTransferSpec, noHook]
    decide
  · intro spec spec' short short' same
    have packed := encodeTransferSpec_eq_ok.mpr ⟨short, rfl⟩
    rw [same] at packed
    exact (packTransferSpec_inj (encodeTransferSpec_eq_ok.mp packed).2).symm
  · intro spec
    exact hashTransferSpecTypedData_eq (typehash spec)

/-! A withdrawal under the hash function of the chain. -/

namespace SampleAttestation

def chain : HubChain where
  blockNumber := 5
  timestamp := 1000
  configValues := fun _ _ => some 1
  gasPayments := fun _ _ => 30

def builder : GatewayVmPayloadBuilder := ⟨20, 21, 22⟩

def destinations : GatewayVmPayloadBuilder.Destinations := fun _ => some ⟨23, 24⟩

def params : BuildPayloadParams :=
  ⟨List.replicate 20 0, 500, List.replicate 20 9, 1,
    Abi.encode [.tuple [.address 30, .bytes [98], .word 70, .bytes []]]⟩

end SampleAttestation

open SampleAttestation in
theorem attestation_binds_sample :
    ∃ (payload : Bytes) (gatewayPayload : GatewayVmPayload)
      (request : GatewayVmPayloadBuilder.ExecutionRequest) (spec : Bytes),
      builder.buildPayload Keccak.keccak256 destinations chain [97] [1] params = .ok payload ∧
      payload = Abi.encode [gatewayPayload.toValue] ∧
      Abi.decodeAs GatewayEthereumVmDestinationPayloadBuilder.CallRequest.type
        GatewayEthereumVmDestinationPayloadBuilder.CallRequest.ofValue
        gatewayPayload.executionPayload = some request ∧
      encodeTransferSpec gatewayPayload.burnIntent.spec = .ok spec ∧
      validateGatewayAttestation Keccak.keccak256
        (packAttestation (List.replicate 32 7) spec) request.transferSpecHash = .ok () := by
  have succeeds : (builder.buildPayload Keccak.keccak256 destinations chain [97] [1]
      params).toOption.isSome := by decide +kernel
  obtain ⟨payload, built⟩ := exists_ok succeeds
  obtain ⟨gatewayPayload, request, spec, encoded, _, executes, isSpec, accepts⟩ :=
    (attestation_binds Keccak.keccak256 keccak256_encodeType).1 _ _ _ _ _ _ _ built
  refine ⟨payload, gatewayPayload, request, spec, built, encoded, executes, isSpec, ?_⟩
  -- the attestation carries the transfer spec itself
  have noCollision : Abi.NoCollision Keccak.keccak256
      [(packAttestation (List.replicate 32 7) spec).drop 40, spec] := by
    rw [packAttestation, List.drop_left' (by simp)]
    intro first isFirst second isSecond _
    simp_all
  exact (accepts _ noCollision).mpr ⟨List.replicate 32 7, by simp, rfl⟩

end Binding

end RelaySettlement
