import RelaySettlement.Js.Check
import RelaySettlement.LitAllocator.Abi

/-!
# Attestations of withdraw requests

The signer signs the hashes of a withdraw request only if enough oracles of its allowlist have
attested them for that request.  The count is taken over the checksummed texts of the addresses,
which stand for the 20 bytes they denote.

The checksum and the check of typed-data signatures are those of `micro-eth-signer`, so they are
parameters.  A function that throws returns `none`.
-/

open Evm

namespace RelaySettlement

namespace LitAllocator

structure WithdrawRequestAttestationSignature where
  oracleSigner : Bytes
  signature : Bytes

/-- Chain ids are numbers that fit a `uint256`. -/
structure WithdrawRequestAttestation where
  chainId : U256
  allocator : Bytes
  withdrawRequestHash : Bytes
  hashesToSign : List Bytes
  signatures : List WithdrawRequestAttestationSignature

/-- `buildAttestationTypedData`: the message, whose chain id is also the one of the domain.  The
allocator is the text of the attestation. -/
structure TypedData where
  chainId : U256
  allocator : Bytes
  withdrawRequestHash : Bytes32
  hashesToSign : List Bytes32

/-- `addr.addChecksum`, the texts that typed data may hold as an address, and `verifyTyped`. -/
structure EthSigner where
  addChecksum : Bytes → Bytes
  isAddress : Bytes → Bool
  verifyTyped : Bytes → TypedData → Bytes → Option Bool

def expectLength (bytes : Bytes) (length : ℕ) : Option Bytes := do
  Js.ensure (bytes.length = length)
  return bytes

section Verify

variable (keccak : Bytes → Bytes32) (signer : EthSigner)

def normalizeAddress (address : Bytes) : Option Bytes := do
  let bytes ← expectLength (← hexToBytes address) 20
  return signer.addChecksum (hexText bytes)

/-- One of the hashes to sign: 32 bytes. -/
def readHash (hash : Bytes) : Option Bytes32 := do
  let bytes ← expectLength (← hexToBytes hash) 32
  return BitVec.ofNat 256 (Abi.readBigEndian bytes)

/-- The checks of the loop over the signatures, which return the oracle to count. -/
def verifySignature (typedData : TypedData) (allowed : List Bytes)
    (sig : WithdrawRequestAttestationSignature) : Option Bytes := do
  let oracle ← normalizeAddress signer sig.oracleSigner
  Js.ensure (oracle ∈ allowed)
  let valid ← signer.verifyTyped sig.signature typedData oracle
  Js.ensure (valid = true)
  return oracle

def verifyWithdrawRequestAttestation (withdrawRequest : WithdrawRequest)
    (attestation : WithdrawRequestAttestation) (allocatorAddress : Bytes)
    (hubEvmChainId : U256) (allowedOracles : List Bytes) (oracleSignatureThreshold : ℕ) :
    Option (Bytes32 × List Bytes32) := do
  Js.ensure (attestation.chainId = hubEvmChainId)
  let expectedAllocator ← normalizeAddress signer allocatorAddress
  let providedAllocator ← normalizeAddress signer attestation.allocator
  Js.ensure (expectedAllocator = providedAllocator)
  let expectedHash ← computeWithdrawRequestHash keccak withdrawRequest
  let expectedHashHex := hexText (Abi.word expectedHash)
  Js.ensure (Text.toLowerCase attestation.withdrawRequestHash =
    Text.toLowerCase expectedHashHex)
  Js.ensure (attestation.hashesToSign.length ≠ 0)
  let hashesToSignBytes ← attestation.hashesToSign.mapM readHash
  let typedData := ⟨attestation.chainId, attestation.allocator, expectedHash, hashesToSignBytes⟩
  let allowed ← allowedOracles.mapM (normalizeAddress signer)
  let verified ← Js.collect (verifySignature signer typedData allowed) attestation.signatures []
  Js.ensure (oracleSignatureThreshold ≤ verified.length)
  return (expectedHash, hashesToSignBytes)

end Verify

/-! ## What a signature is over -/

section Digest

variable (keccak : Bytes → Bytes32)

/-- The type hash of `WithdrawRequest`. -/
def attestationTypehash : Bytes32 :=
  keccak (Abi.utf8 "WithdrawRequest(uint256 chainId,address allocator," ++
    Abi.utf8 "bytes32 withdrawRequestHash,bytes32[] hashesToSign)")

/-- The encoding of an attestation: an array is hashed over its elements. -/
def attestationStruct (chainId : U256) (allocator : Address) (withdrawRequestHash : Bytes32)
    (hashesToSign : List Bytes32) : Bytes :=
  [attestationTypehash keccak, chainId, allocator.setWidth 256, withdrawRequestHash,
    keccak (hashesToSign.flatMap Abi.word)].flatMap Abi.word

def attestationDomain (chainId : U256) : Bytes32 :=
  Abi.domainSeparator keccak "WithdrawRequest" "1" chainId 0

/-- The EIP-712 digest of an attestation. -/
def attestationDigest (chainId : U256) (allocator : Address) (withdrawRequestHash : Bytes32)
    (hashesToSign : List Bytes32) : Bytes32 :=
  Abi.hashTypedData keccak (attestationDomain keccak chainId)
    (keccak (attestationStruct keccak chainId allocator withdrawRequestHash hashesToSign))

/-- What is hashed for a digest. -/
def attestationInputs (chainId : U256) (allocator : Address) (withdrawRequestHash : Bytes32)
    (hashesToSign : List Bytes32) : List Bytes :=
  Abi.digestInputs keccak (attestationDomain keccak chainId)
    (attestationStruct keccak chainId allocator withdrawRequestHash hashesToSign) ++
    [hashesToSign.flatMap Abi.word]

variable {keccak} {chainId chainId' : U256} {allocator allocator' : Address}
variable {hash hash' : Bytes32} {hashes hashes' : List Bytes32}

/-- A digest determines what was attested. -/
theorem attestationDigest_inj (noCollision : Abi.NoCollision keccak
      (attestationInputs keccak chainId allocator hash hashes ++
        attestationInputs keccak chainId' allocator' hash' hashes'))
    (same : attestationDigest keccak chainId allocator hash hashes =
      attestationDigest keccak chainId' allocator' hash' hashes') :
    chainId = chainId' ∧ allocator = allocator' ∧ hash = hash' ∧ hashes = hashes' := by
  have structs := (Abi.eq_of_hashTypedData_eq noCollision.firsts same).2
  have words := Abi.flatMap_word_inj structs
  simp only [List.cons.injEq, and_true, true_and] at words
  obtain ⟨sameChainId, sameAllocator, sameHash, sameHashes⟩ := words
  refine ⟨sameChainId, ?_, sameHash, ?_⟩
  · exact widen_inj (by decide) sameAllocator
  · exact Abi.flatMap_word_inj (noCollision.seconds _ (by simp) _ (by simp) sameHashes)

end Digest

/-! ## Addresses -/

/-- The 20 bytes that a text denotes. -/
def addressOf (address : Bytes) : Option Address := do
  let bytes ← expectLength (← hexToBytes address) 20
  return BitVec.ofNat 160 (Abi.readBigEndian bytes)

def addressText (account : Address) : Bytes := hexText (Abi.bigEndian 20 account.toNat)

theorem addressOf_addressText (account : Address) :
    addressOf (addressText account) = some account := by
  have length : (Abi.bigEndian 20 account.toNat).length = 20 := Abi.length_bigEndian 20 _
  have back : Abi.readBigEndian (Abi.bigEndian 20 account.toNat) = account.toNat := by
    rw [Abi.readBigEndian_bigEndian]
    exact Nat.mod_eq_of_lt account.isLt
  simp [addressOf, addressText, hexToBytes_hexText, expectLength, Js.ensure, back]

/-- What is documented of `micro-eth-signer`.  Different addresses have different checksummed
texts.  A typed-data signature is accepted exactly if the account made it over the digest, and
the address in the data is one. -/
structure EthSigner.Correct (signer : EthSigner) (keccak : Bytes → Bytes32)
    (signed : Address → Bytes32 → Bytes → Prop) : Prop where
  addChecksum_inj : ∀ account account' : Address,
    signer.addChecksum (addressText account) = signer.addChecksum (addressText account') →
      account = account'
  verifyTyped_iff : ∀ (signature : Bytes) (typedData : TypedData) (account allocator : Address),
    addressOf typedData.allocator = some allocator →
      (signer.verifyTyped signature typedData (signer.addChecksum (addressText account)) =
          some true ↔
        signer.isAddress typedData.allocator = true ∧
          signed account (attestationDigest keccak typedData.chainId allocator
            typedData.withdrawRequestHash typedData.hashesToSign) signature)

theorem normalizeAddress_eq (signer : EthSigner) (address : Bytes) :
    normalizeAddress signer address =
      (addressOf address).map fun account => signer.addChecksum (addressText account) := by
  rw [normalizeAddress, addressOf]
  cases hexToBytes address with
  | none => rfl
  | some bytes =>
      by_cases length : bytes.length = 20
      · have text : hexText bytes =
            addressText (BitVec.ofNat 160 (Abi.readBigEndian bytes)) := by
          have bound : Abi.readBigEndian bytes < 2 ^ 160 := by
            have bound := Abi.readBigEndian_lt bytes
            rwa [length] at bound
          rw [addressText, BitVec.toNat_ofNat, Nat.mod_eq_of_lt bound, ← length,
            Abi.bigEndian_readBigEndian]
        simp [expectLength, Js.ensure, if_pos length, text]
      · simp [expectLength, Js.ensure, if_neg length]

/-! ## The quorum -/

/-- The accounts behind the entries of an attestation. -/
def oracles (attestation : WithdrawRequestAttestation) : Finset Address :=
  (attestation.signatures.filterMap fun sig => addressOf sig.oracleSigner).toFinset

variable {keccak : Bytes → Bytes32} {signer : EthSigner}
variable {signed : Address → Bytes32 → Bytes → Prop} {withdrawRequest : WithdrawRequest}
variable {attestation : WithdrawRequestAttestation} {allocatorAddress : Bytes}
variable {hubEvmChainId : U256} {allowedOracles : List Bytes} {threshold : ℕ}
variable {params : RelaySettlement.WithdrawRequest} {allocator : Address} {hashes : List Bytes32}

theorem mem_oracles {oracle : Address} :
    oracle ∈ oracles attestation ↔
      ∃ sig ∈ attestation.signatures, addressOf sig.oracleSigner = some oracle := by
  rw [oracles, List.mem_toFinset, List.mem_filterMap]

/-- The text denotes an account of the allowlist. -/
def Allowlisted (allowedOracles : List Bytes) (oracle : Address) : Prop :=
  ∃ text ∈ allowedOracles, addressOf text = some oracle

section Quorum

variable (correct : signer.Correct keccak signed)
include correct

theorem normalizeAddress_inj {address address' text : Bytes}
    (normalized : normalizeAddress signer address = some text)
    (normalized' : normalizeAddress signer address' = some text) :
    addressOf address = addressOf address' := by
  rw [normalizeAddress_eq, Option.map_eq_some_iff] at normalized normalized'
  obtain ⟨account, isAccount, rfl⟩ := normalized
  obtain ⟨account', isAccount', same⟩ := normalized'
  rw [isAccount, isAccount', correct.addChecksum_inj _ _ same]

variable {chainId : U256} {hash : Bytes32} {provided : Bytes} {allowed : List Bytes}
variable (isAllocator : addressOf provided = some allocator)
variable (isAllowed : allowedOracles.mapM (normalizeAddress signer) = some allowed)

include isAllocator isAllowed

/-- An entry passes if it is signed by the allowlisted account it names. -/
theorem verifySignature_eq_some {sig : WithdrawRequestAttestationSignature} {text : Bytes} :
    verifySignature signer ⟨chainId, provided, hash, hashes⟩ allowed sig = some text ↔
      ∃ oracle, addressOf sig.oracleSigner = some oracle ∧
        text = signer.addChecksum (addressText oracle) ∧ Allowlisted allowedOracles oracle ∧
        signer.isAddress provided = true ∧
        signed oracle (attestationDigest keccak chainId allocator hash hashes)
          sig.signature := by
  have listed (oracle : Address) : signer.addChecksum (addressText oracle) ∈ allowed ↔
      Allowlisted allowedOracles oracle := by
    rw [Js.mem_mapM isAllowed]
    constructor
    · rintro ⟨address, member, normalized⟩
      rw [normalizeAddress_eq, Option.map_eq_some_iff] at normalized
      obtain ⟨account, isAccount, same⟩ := normalized
      exact ⟨address, member, correct.addChecksum_inj _ _ same ▸ isAccount⟩
    · rintro ⟨address, member, isAccount⟩
      refine ⟨address, member, ?_⟩
      rw [normalizeAddress_eq, isAccount]
      rfl
  simp only [verifySignature, normalizeAddress_eq, bind_eq_some, Option.map_eq_some_iff,
    Js.ensure_eq_some, Option.pure_def, Option.some_inj]
  constructor
  · rintro ⟨_, ⟨oracle, isOracle, rfl⟩, _, member, valid, isValid, _, rfl, rfl⟩
    exact ⟨oracle, isOracle, rfl, (listed oracle).mp member,
      (correct.verifyTyped_iff _ _ _ _ isAllocator).mp isValid⟩
  · rintro ⟨oracle, isOracle, rfl, member, valid⟩
    exact ⟨_, ⟨oracle, isOracle, rfl⟩, (), (listed oracle).mpr member, true,
      (correct.verifyTyped_iff _ _ _ _ isAllocator).mpr valid, (), rfl, rfl⟩

/-- The set of verified texts counts the accounts. -/
theorem length_verified {verified : List Bytes} (collected : Js.collect (verifySignature signer
      ⟨chainId, provided, hash, hashes⟩ allowed) attestation.signatures [] = some verified) :
    verified.length = (oracles attestation).card := by
  apply Js.length_collect (fun account account' => correct.addChecksum_inj account account')
    collected
  intro sig listed text isText
  obtain ⟨account, isAccount, isWritten, _⟩ :=
    (verifySignature_eq_some correct isAllocator isAllowed).mp isText
  exact ⟨account, isAccount, isWritten⟩

end Quorum

/-- Everything that is checked of an attestation before the signatures are counted. -/
structure Attested (keccak : Bytes → Bytes32) (signer : EthSigner)
    (signed : Address → Bytes32 → Bytes → Prop) (withdrawRequest : WithdrawRequest)
    (attestation : WithdrawRequestAttestation) (allocatorAddress : Bytes) (hubEvmChainId : U256)
    (allowedOracles : List Bytes) (params : RelaySettlement.WithdrawRequest)
    (allocator : Address) (hashes : List Bytes32) : Prop where
  chainId : attestation.chainId = hubEvmChainId
  expectedAllocator : addressOf allocatorAddress = some allocator
  providedAllocator : addressOf attestation.allocator = some allocator
  denotes : withdrawRequest.Denotes params
  withdrawRequestHash : Text.toLowerCase attestation.withdrawRequestHash =
    Text.toLowerCase (hexText (Abi.word (keccak (Abi.encode [argument params]))))
  nonempty : attestation.hashesToSign.length ≠ 0
  hashesToSign : attestation.hashesToSign.mapM readHash = some hashes
  allowlist : ∀ oracle ∈ allowedOracles, ∃ account, addressOf oracle = some account
  signatures : ∀ sig ∈ attestation.signatures, ∃ oracle,
    addressOf sig.oracleSigner = some oracle ∧ Allowlisted allowedOracles oracle ∧
      signer.isAddress attestation.allocator = true ∧
      signed oracle (attestationDigest keccak hubEvmChainId allocator
        (keccak (Abi.encode [argument params])) hashes) sig.signature

/-- Entries may be left out. -/
theorem Attested.of_subset {signatures : List WithdrawRequestAttestationSignature}
    (attested : Attested keccak signer signed withdrawRequest attestation allocatorAddress
      hubEvmChainId allowedOracles params allocator hashes)
    (fewer : signatures ⊆ attestation.signatures) :
    Attested keccak signer signed withdrawRequest { attestation with signatures := signatures }
      allocatorAddress hubEvmChainId allowedOracles params allocator hashes :=
  { attested with signatures := fun sig listed => attested.signatures sig (fewer listed) }

/-- A second entry of an account does not count. -/
theorem oracles_of_duplicate {before after : List WithdrawRequestAttestationSignature}
    {sig other : WithdrawRequestAttestationSignature}
    (split : attestation.signatures = before ++ sig :: after) (listed : other ∈ before ++ after)
    (same : addressOf other.oracleSigner = addressOf sig.oracleSigner) :
    oracles { attestation with signatures := before ++ after } = oracles attestation := by
  ext oracle
  rw [mem_oracles, mem_oracles, split]
  simp only [List.perm_middle.mem_iff, List.exists_mem_cons_iff]
  constructor
  · exact .inr
  · rintro (isOracle | counted)
    · exact ⟨other, listed, same.trans isOracle⟩
    · exact counted

/-- The signer accepts exactly the attestations that enough accounts have signed. -/
theorem verifyWithdrawRequestAttestation_eq_some (correct : signer.Correct keccak signed)
    {hash : Bytes32} :
    verifyWithdrawRequestAttestation keccak signer withdrawRequest attestation allocatorAddress
        hubEvmChainId allowedOracles threshold = some (hash, hashes) ↔
      ∃ params allocator, hash = keccak (Abi.encode [argument params]) ∧
        Attested keccak signer signed withdrawRequest attestation allocatorAddress hubEvmChainId
          allowedOracles params allocator hashes ∧
        threshold ≤ (oracles attestation).card := by
  simp only [verifyWithdrawRequestAttestation, computeWithdrawRequestHash, bind_eq_some,
    Js.exists_unit, Js.ensure_eq_some, Option.pure_def, Option.some_inj, Prod.mk.injEq]
  constructor
  · rintro ⟨rfl, expected, isExpected, provided, isProvided, rfl, _, ⟨encoded, isEncoded, rfl⟩,
      sameHash, nonempty, _, isHashes, allowed, isAllowed, verified, collected, enough, rfl, rfl⟩
    obtain ⟨params, denotes⟩ := WithdrawRequest.exists_denotes isEncoded
    have encoding : encoded = Abi.encode [argument params] :=
      Option.some.inj (isEncoded.symm.trans denotes.encode)
    have same := normalizeAddress_inj correct isExpected isProvided
    rw [normalizeAddress_eq, Option.map_eq_some_iff] at isProvided
    obtain ⟨allocator, isAllocator, _⟩ := isProvided
    subst encoding
    refine ⟨params, allocator, rfl, ⟨rfl, same.trans isAllocator, isAllocator, denotes, sameHash,
      nonempty, isHashes, ?_, ?_⟩, length_verified correct isAllocator isAllowed collected ▸ enough⟩
    · intro oracle listed
      obtain ⟨text, isText⟩ := Js.forall_of_mapM isAllowed oracle listed
      rw [normalizeAddress_eq, Option.map_eq_some_iff] at isText
      obtain ⟨account, isAccount, _⟩ := isText
      exact ⟨account, isAccount⟩
    · intro sig listed
      obtain ⟨text, isText⟩ := (Js.collect_spec collected).2.2 sig listed
      obtain ⟨oracle, isOracle, _, valid⟩ :=
        (verifySignature_eq_some correct isAllocator isAllowed).mp isText
      exact ⟨oracle, isOracle, valid⟩
  · rintro ⟨params, allocator, rfl, attested, enough⟩
    have normalized {address : Bytes} {account : Address} (is : addressOf address = some account) :
        normalizeAddress signer address = some (signer.addChecksum (addressText account)) := by
      rw [normalizeAddress_eq, is]
      rfl
    obtain ⟨allowed, isAllowed⟩ := @Js.exists_mapM _ _ (normalizeAddress signer) allowedOracles
      (fun oracle listed => by
        obtain ⟨account, isAccount⟩ := attested.allowlist oracle listed
        exact ⟨_, normalized isAccount⟩)
    obtain ⟨verified, collected⟩ := @Js.exists_collect _ _ _ (verifySignature signer
        ⟨attestation.chainId, attestation.allocator, keccak (Abi.encode [argument params]),
          hashes⟩ allowed) attestation.signatures [] (fun sig listed => by
        obtain ⟨oracle, isOracle, valid⟩ := attested.signatures sig listed
        rw [← attested.chainId] at valid
        exact ⟨_, (verifySignature_eq_some correct attested.providedAllocator isAllowed).mpr
          ⟨oracle, isOracle, rfl, valid⟩⟩)
    exact ⟨attested.chainId, _, normalized attested.expectedAllocator, _,
      normalized attested.providedAllocator, rfl, _, ⟨_, attested.denotes.encode, rfl⟩,
      attested.withdrawRequestHash, attested.nonempty, hashes, attested.hashesToSign, allowed,
      isAllowed, verified, collected,
      length_verified correct attested.providedAllocator isAllowed collected ▸ enough, rfl, rfl⟩

end LitAllocator

open LitAllocator

/-- The signer returns hashes to sign only if enough different oracles of the allowlist signed
exactly them for exactly this request, and whenever they did. -/
theorem signer_requires_oracle_quorum (keccak : Bytes → Bytes32) (signer : EthSigner)
    (signed : Address → Bytes32 → Bytes → Prop) (correct : signer.Correct keccak signed)
    (withdrawRequest : LitAllocator.WithdrawRequest) (attestation : WithdrawRequestAttestation)
    (allocatorAddress : Bytes) (hubEvmChainId : U256) (allowedOracles : List Bytes)
    (threshold : ℕ) :
    let verify := fun attestation => verifyWithdrawRequestAttestation keccak signer
      withdrawRequest attestation allocatorAddress hubEvmChainId allowedOracles threshold
    (∀ hash hashes, verify attestation = some (hash, hashes) →
      ∃ params allocator, withdrawRequest.Denotes params ∧
        hash = keccak (Abi.encode [argument params]) ∧
        addressOf allocatorAddress = some allocator ∧
        attestation.hashesToSign.mapM readHash = some hashes ∧ hashes ≠ [] ∧
        ∃ accounts : Finset Address, threshold ≤ accounts.card ∧
          ∀ oracle ∈ accounts, Allowlisted allowedOracles oracle ∧
            ∃ sig ∈ attestation.signatures, addressOf sig.oracleSigner = some oracle ∧
              signed oracle (attestationDigest keccak hubEvmChainId allocator hash hashes)
                sig.signature) ∧
    (∀ before sig after result, attestation.signatures = before ++ sig :: after →
      (∃ other ∈ before ++ after,
        addressOf other.oracleSigner = addressOf sig.oracleSigner) →
      verify attestation = some result →
      verify { attestation with signatures := before ++ after } = some result) ∧
    (∀ params allocator hashes,
      Attested keccak signer signed withdrawRequest attestation allocatorAddress hubEvmChainId
        allowedOracles params allocator hashes →
      threshold ≤ (oracles attestation).card →
      verify attestation = some (keccak (Abi.encode [argument params]), hashes)) ∧
    ∀ (params params' : WithdrawRequest) (other : LitAllocator.WithdrawRequest)
        (allocator allocator' : Address) (chainId' : U256) (hashes hashes' : List Bytes32),
      withdrawRequest.Denotes params → other.Denotes params' →
      Abi.NoCollision keccak
        (attestationInputs keccak hubEvmChainId allocator (keccak (Abi.encode [argument params]))
            hashes ++ [Abi.encode [argument params]] ++
          (attestationInputs keccak chainId' allocator' (keccak (Abi.encode [argument params']))
            hashes' ++ [Abi.encode [argument params']])) →
      attestationDigest keccak hubEvmChainId allocator (keccak (Abi.encode [argument params]))
          hashes =
        attestationDigest keccak chainId' allocator' (keccak (Abi.encode [argument params']))
          hashes' →
      hubEvmChainId = chainId' ∧ allocator = allocator' ∧ params = params' ∧ hashes = hashes' := by
  intro verify
  have accepts (attestation : WithdrawRequestAttestation) {hashes : List Bytes32}
      {hash : Bytes32} := @verifyWithdrawRequestAttestation_eq_some _ _ _ withdrawRequest
    attestation allocatorAddress hubEvmChainId allowedOracles threshold hashes correct hash
  refine ⟨?_, ?_, ?_, ?_⟩
  · intro hash hashes returned
    obtain ⟨params, allocator, rfl, attested, enough⟩ := (accepts attestation).mp returned
    refine ⟨params, allocator, attested.denotes, rfl, attested.expectedAllocator,
      attested.hashesToSign, Js.mapM_ne_nil attested.hashesToSign attested.nonempty,
      oracles attestation, enough, ?_⟩
    intro oracle member
    obtain ⟨sig, listed, isOracle⟩ := mem_oracles.mp member
    obtain ⟨account, isAccount, allowlisted, _, valid⟩ := attested.signatures sig listed
    cases isOracle.symm.trans isAccount
    exact ⟨allowlisted, sig, listed, isOracle, valid⟩
  · rintro before sig after ⟨hash, hashes⟩ split ⟨other, listed, same⟩ returned
    obtain ⟨params, allocator, isHash, attested, enough⟩ := (accepts attestation).mp returned
    have fewer : before ++ after ⊆ attestation.signatures := by
      rw [split]
      exact List.append_subset.mpr ⟨List.subset_append_left _ _,
        List.subset_append_of_subset_right _ (List.subset_cons_self _ _)⟩
    refine (accepts _).mpr ⟨params, allocator, isHash, attested.of_subset fewer, ?_⟩
    rwa [oracles_of_duplicate split listed same]
  · intro params allocator hashes attested enough
    exact (accepts attestation).mpr ⟨params, allocator, rfl, attested, enough⟩
  · intro params params' other allocator allocator' chainId' hashes hashes' denotes denotes'
      noCollision same
    obtain ⟨sameChainId, sameAllocator, sameHash, sameHashes⟩ :=
      attestationDigest_inj noCollision.firsts same
    have encodings := noCollision.seconds _ (by simp) _ (by simp) sameHash
    exact ⟨sameChainId, sameAllocator, denotes.inj denotes' encodings, sameHashes⟩

/-! ## An attestation by two oracles -/

namespace SampleOracles

/-- A signature is the digest behind the address. -/
def signature (account : Address) (digest : Bytes32) : Bytes :=
  Abi.bigEndian 20 account.toNat ++ Abi.word digest

def signer : EthSigner where
  addChecksum := id
  isAddress := fun _ => true
  verifyTyped := fun given typedData text => do
    let account ← addressOf text
    let allocator ← addressOf typedData.allocator
    return decide (given = signature account (attestationDigest Abi.sampleHash typedData.chainId
      allocator typedData.withdrawRequestHash typedData.hashesToSign))

theorem correct : signer.Correct Abi.sampleHash fun account digest given =>
    given = signature account digest where
  addChecksum_inj := by
    intro account account' same
    have same : addressText account = addressText account' := same
    have read := congrArg addressOf same
    rw [addressOf_addressText, addressOf_addressText] at read
    exact Option.some.inj read
  verifyTyped_iff := by
    intro given typedData account allocator isAllocator
    simp [signer, id, addressOf_addressText, isAllocator]

def withdrawRequest : LitAllocator.WithdrawRequest where
  chainId := Abi.utf8 "base"
  depository := Abi.utf8 "0x0102"
  currency := Abi.utf8 "0x"
  amount := Abi.utf8 "40"
  spenderChainId := Abi.utf8 "a"
  spender := Abi.utf8 "0X0a"
  receiver := Abi.utf8 "0B"
  data := Abi.utf8 ""
  nonce := hexText (Abi.word 7)
  short := by decide +kernel

def hash : Bytes32 := (computeWithdrawRequestHash Abi.sampleHash withdrawRequest).getD 0

def params : RelaySettlement.WithdrawRequest where
  chainId := Abi.utf8 "base"
  depository := [1, 2]
  currency := []
  amount := 40
  spenderChainId := Abi.utf8 "a"
  spender := [10]
  receiver := [11]
  data := []
  nonce := 7

theorem denotes : withdrawRequest.Denotes params := by
  constructor
  · rfl
  · decide +kernel
  · decide +kernel
  · decide +kernel
  · rfl
  · decide +kernel
  · decide +kernel
  · decide +kernel
  · exact hexToBytes_hexText _

theorem hash_eq : hash = Abi.sampleHash (Abi.encode [argument params]) := by
  rw [hash, computeWithdrawRequestHash, denotes.encode]
  rfl

/-- Oracle 10 signs twice, once under its address in upper case. -/
def attestation : WithdrawRequestAttestation where
  chainId := 1
  allocator := addressText 80
  withdrawRequestHash := hexText (Abi.word hash)
  hashesToSign := [hexText (Abi.word 5)]
  signatures := [
    ⟨addressText 10, signature 10 (attestationDigest Abi.sampleHash 1 80 hash [5])⟩,
    ⟨48 :: 120 :: (addressText 10).drop 2 |>.map fun character =>
      if character = 97 then 65 else character,
      signature 10 (attestationDigest Abi.sampleHash 1 80 hash [5])⟩,
    ⟨addressText 11, signature 11 (attestationDigest Abi.sampleHash 1 80 hash [5])⟩]

theorem addressOf_upperCase :
    addressOf (48 :: 120 :: (addressText 10).drop 2 |>.map fun character =>
      if character = 97 then 65 else character) = some 10 := by decide +kernel

theorem attested : Attested Abi.sampleHash signer (fun account digest given =>
      given = signature account digest) withdrawRequest attestation (addressText 80) 1
    [addressText 10, addressText 11, addressText 12] params 80 [5] := by
  constructor
  · rfl
  · exact addressOf_addressText 80
  · exact addressOf_addressText 80
  · exact denotes
  · rw [← hash_eq]
    rfl
  · exact Nat.one_ne_zero
  · decide +kernel
  · intro oracle listed
    simp only [List.mem_cons, List.not_mem_nil, or_false] at listed
    rcases listed with rfl | rfl | rfl
    · exact ⟨10, addressOf_addressText 10⟩
    · exact ⟨11, addressOf_addressText 11⟩
    · exact ⟨12, addressOf_addressText 12⟩
  · intro sig listed
    rw [← hash_eq]
    simp only [attestation, List.mem_cons, List.not_mem_nil, or_false] at listed
    rcases listed with rfl | rfl | rfl
    · exact ⟨10, addressOf_addressText 10, ⟨_, List.mem_cons_self, addressOf_addressText 10⟩,
        rfl, rfl⟩
    · exact ⟨10, addressOf_upperCase, ⟨_, List.mem_cons_self, addressOf_addressText 10⟩, rfl, rfl⟩
    · exact ⟨11, addressOf_addressText 11,
        ⟨_, List.mem_cons_of_mem _ List.mem_cons_self, addressOf_addressText 11⟩, rfl, rfl⟩

theorem card_oracles : (oracles attestation).card = 2 := by
  have accounts : oracles attestation = {10, 11} := by
    ext account
    simp only [mem_oracles, attestation, List.mem_cons, List.not_mem_nil, or_false,
      exists_eq_or_imp, exists_eq_left, addressOf_addressText, addressOf_upperCase,
      Option.some.injEq, Finset.mem_insert, Finset.mem_singleton, eq_comm, or_self_left]
  rw [accounts]
  rfl

end SampleOracles

open SampleOracles in
theorem signer_requires_oracle_quorum_sample :
    verifyWithdrawRequestAttestation Abi.sampleHash signer withdrawRequest attestation
        (addressText 80) 1 [addressText 10, addressText 11, addressText 12] 2 = some (hash, [5]) ∧
      verifyWithdrawRequestAttestation Abi.sampleHash signer withdrawRequest attestation
        (addressText 80) 1 [addressText 10, addressText 11, addressText 12] 3 = none ∧
      ∃ accounts : Finset Address, 2 ≤ accounts.card ∧ ∀ oracle ∈ accounts,
        Allowlisted [addressText 10, addressText 11, addressText 12] oracle := by
  have returned : verifyWithdrawRequestAttestation Abi.sampleHash signer withdrawRequest attestation
      (addressText 80) 1 [addressText 10, addressText 11, addressText 12] 2 =
        some (hash, [5]) :=
    (verifyWithdrawRequestAttestation_eq_some correct).mpr
      ⟨params, 80, hash_eq, attested, Nat.le_of_eq card_oracles.symm⟩
  refine ⟨returned, ?_, ?_⟩
  · apply Option.eq_none_iff_forall_ne_some.mpr
    rintro ⟨hash, hashes⟩ returned
    obtain ⟨_, _, _, _, enough⟩ := (verifyWithdrawRequestAttestation_eq_some correct).mp returned
    rw [card_oracles] at enough
    exact absurd enough (by decide)
  · obtain ⟨sound, _⟩ := signer_requires_oracle_quorum Abi.sampleHash signer _ correct
      withdrawRequest attestation (addressText 80) 1
      [addressText 10, addressText 11, addressText 12] 2
    obtain ⟨_, _, _, _, _, _, _, accounts, enough, quorum⟩ := sound _ _ returned
    exact ⟨accounts, enough, fun oracle member => (quorum oracle member).1⟩

end RelaySettlement
