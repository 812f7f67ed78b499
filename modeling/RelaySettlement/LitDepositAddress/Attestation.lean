import RelaySettlement.LitDepositAddress.RelaySdk

/-!
# Attestations of triggers

The actions accept a trigger only if enough oracles of the allowlist have signed its hash, for the
hub and the deposit-address manager of the bundle.  Signatures are checked by recovering the
public key, which is a parameter: a key that is recovered from a signature has made it.
-/

open Evm

namespace RelaySettlement.LitDepositAddress

open Js

/-- The constants of a bundle. -/
structure Config where
  depositAddressManagerAddress : Bytes
  hubEvmChainId : Number
  allowedOracles : List Bytes
  oracleSignatureThreshold : ℕ

/-- Bytes from hexadecimal text with or without `0x`. -/
def hexToBytes : Bytes → Option Bytes
  | 48 :: 120 :: digits => readHex digits
  | text => readHex text

/-- The public key, uncompressed, that a signature `(r, s)` with a recovery bit over a digest
recovers to. -/
structure Secp256k1 where
  recoverPublicKey : (r s recovery : ℕ) → Bytes32 → Option Bytes

/-! ## Recovering signers -/

/-- The numbers `r` and `s` of a signature, and the recovery bit. -/
def readSignature (signature : Bytes) : Option (ℕ × ℕ × ℕ) := do
  let sigBytes ← hexToBytes signature
  ensure (sigBytes.length = 65)
  let r := Abi.readBigEndian (sigBytes.take 32)
  let s := Abi.readBigEndian ((sigBytes.drop 32).take 32)
  let last := (sigBytes.getD 64 0).toNat
  let v := if 27 ≤ last then last - 27 else last
  ensure (v = 0 ∨ v = 1)
  return (r, s, v)

section Recover

variable (keccak : Bytes → Bytes32) (viem : Viem) (secp256k1 : Secp256k1)

/-- The low 160 bits of the hash of the two coordinates. -/
def publicKeyAddress (uncompressed : Bytes) : Address :=
  (keccak (uncompressed.drop 1)).setWidth 160

def recoverAddressFromDigest (digest : Bytes32) (signature : Bytes) : Option Bytes := do
  let (r, s, v) ← readSignature signature
  let uncompressed ← secp256k1.recoverPublicKey r s v digest
  getAddress viem (addressText (publicKeyAddress keccak uncompressed))

/-- The EIP-191 digest of a message. -/
def personalDigest (message : Bytes) : Bytes32 :=
  keccak (Abi.utf8 "\x19Ethereum Signed Message:\n" ++ Text.decimal message.length ++ message)

/-- `hashMessage` of a message in hexadecimal. -/
def hashMessage (raw : Bytes) : Option Bytes32 := do
  return personalDigest keccak (← viem.toBytes raw)

def recoverPersonalSignAddress (message signature : Bytes) : Option Bytes := do
  recoverAddressFromDigest keccak viem secp256k1 (← hashMessage keccak viem message) signature

def triggerType : String :=
  "Trigger(uint256 chainId,address depositAddressManager,bytes inputDepository," ++
    "bytes32 triggerHash)"

/-- The EIP-712 digest that oracles sign, from the encodings of its members. -/
def triggerDigestOf (chainId : U256) (depositAddressManager inputDepository triggerHash : Bytes) :
    Bytes32 :=
  Abi.hashTypedData keccak (Abi.domainSeparator keccak "Trigger" "1" chainId 0)
    (hashStruct keccak triggerType
      [Abi.word chainId, depositAddressManager, inputDepository, triggerHash])

/-- `undefined`, here `none`, if anything throws. -/
def recoverTriggerSigner (attestation : DepositAddressTriggerAttestation) (signature : Bytes) :
    Option Bytes := do
  let chainId ← toUint 256 (← attestation.chainId.bigInt)
  let manager ← getAddress viem attestation.depositAddressManager
  let depositAddressManager ← viem.encodeAddress manager
  let inputDepository ← hashBytes keccak viem attestation.inputDepository
  let triggerHash ← viem.encodeBytes32 attestation.triggerHash
  recoverAddressFromDigest keccak viem secp256k1
    (triggerDigestOf keccak chainId depositAddressManager inputDepository triggerHash) signature

/-! ## The check -/

/-- One round of the loop over the signatures, which returns the oracle to count. -/
def verifySignature (attestation : DepositAddressTriggerAttestation) (allowed : List Bytes)
    (sig : DepositAddressTriggerSignature) : Option Bytes := do
  let oracle ← getAddress viem sig.oracleSigner
  ensure (oracle ∈ allowed)
  let recovered ← recoverTriggerSigner keccak viem secp256k1 attestation sig.signature
  let signer ← getAddress viem recovered
  ensure (signer = oracle)
  return oracle

def verifyDepositAddressTriggerAttestation (config : Config) (trigger : DepositAddressTrigger)
    (attestation : DepositAddressTriggerAttestation) : Option Unit := do
  let expectedTriggerHash ← getDepositAddressTriggerHash keccak viem trigger
  ensure (Text.toLowerCase attestation.triggerHash =
    Text.toLowerCase (writeHex (Abi.word expectedTriggerHash)))
  ensure (attestation.chainId = .number config.hubEvmChainId)
  let expectedManager ← getAddress viem config.depositAddressManagerAddress
  let providedManager ← getAddress viem attestation.depositAddressManager
  ensure (expectedManager = providedManager)
  let allowed ← config.allowedOracles.mapM (getAddress viem)
  let verified ← collect (verifySignature keccak viem secp256k1 attestation allowed)
    attestation.signatures []
  ensure (config.oracleSignatureThreshold ≤ verified.length)

end Recover

/-! ## What an accepted attestation proves -/

/-- A key that is recovered from a signature has made it. -/
def Secp256k1.Sound (secp256k1 : Secp256k1) (keccak : Bytes → Bytes32)
    (signed : Address → Bytes32 → ℕ × ℕ × ℕ → Prop) : Prop :=
  ∀ r s v digest uncompressed, secp256k1.recoverPublicKey r s v digest = some uncompressed →
    signed (publicKeyAddress keccak uncompressed) digest (r, s, v)

/-- What an oracle signs: the hub, the manager, the depository and the hash of the trigger. -/
def triggerDigest (keccak : Bytes → Bytes32) (chainId : U256) (manager : Address)
    (inputDepository : Bytes) (triggerHash : Bytes32) : Bytes32 :=
  triggerDigestOf keccak chainId (Abi.word (manager.setWidth 256))
    (Abi.word (keccak inputDepository)) (Abi.word triggerHash)

/-- An account of the allowlist. -/
def Allowlisted (config : Config) (oracle : Address) : Prop :=
  ∃ text ∈ config.allowedOracles, readAddress text = some oracle

/-- An oracle has signed a hash for the bundle and for the depository of an attestation. -/
def OracleSigned (keccak : Bytes → Bytes32) (viem : Viem)
    (signed : Address → Bytes32 → ℕ × ℕ × ℕ → Prop) (config : Config)
    (attestation : DepositAddressTriggerAttestation) (triggerHash : Bytes32) (oracle : Address) :
    Prop :=
  ∃ sig ∈ attestation.signatures, ∃ chainId manager inputDepository signature,
    readAddress sig.oracleSigner = some oracle ∧
    readSignature sig.signature = some signature ∧
    config.hubEvmChainId.bigInt = some (chainId.toNat : ℤ) ∧
    readAddress config.depositAddressManagerAddress = some manager ∧
    viem.toBytes attestation.inputDepository = some inputDepository ∧
    signed oracle (triggerDigest keccak chainId manager inputDepository triggerHash) signature

/-- The accounts behind the entries of an attestation. -/
def oracles (attestation : DepositAddressTriggerAttestation) : Finset Address :=
  (attestation.signatures.filterMap fun sig => readAddress sig.oracleSigner).toFinset

section Sound

variable {keccak : Bytes → Bytes32} {viem : Viem} {secp256k1 : Secp256k1}
variable {signed : Address → Bytes32 → ℕ × ℕ × ℕ → Prop}
variable (correct : viem.Correct) (sound : secp256k1.Sound keccak signed)

include sound

theorem signed_of_recoverAddressFromDigest {digest : Bytes32} {signature recovered : Bytes}
    (returned : recoverAddressFromDigest keccak viem secp256k1 digest signature =
      some recovered) :
    ∃ account numbers, recovered = viem.checksumAddress (addressText account) ∧
      readSignature signature = some numbers ∧ signed account digest numbers := by
  simp only [recoverAddressFromDigest, bind_eq_some, getAddress, readAddress_addressText,
    Option.map_some, Option.some_inj] at returned
  obtain ⟨⟨r, s, v⟩, isSignature, uncompressed, isKey, rfl⟩ := returned
  exact ⟨_, _, rfl, isSignature, sound _ _ _ _ _ isKey⟩

include correct

/-- A personal signature that recovers to an address in any case. -/
theorem signed_of_recoverPersonalSignAddress {message data signature recovered text : Bytes}
    {account : Address} (isMessage : readMarked message = some data)
    (returned : recoverPersonalSignAddress keccak viem secp256k1 message signature =
      some recovered)
    (same : Text.toLowerCase recovered = Text.toLowerCase text)
    (isAccount : readAddress text = some account) :
    ∃ numbers, readSignature signature = some numbers ∧
      signed account (personalDigest keccak data) numbers := by
  simp only [recoverPersonalSignAddress, hashMessage, correct.toBytes _ _ isMessage, some_bind,
    Option.pure_def] at returned
  obtain ⟨signer, numbers, rfl, isSignature, valid⟩ :=
    signed_of_recoverAddressFromDigest sound returned
  rw [correct.toLowerCase_checksumAddress, toLowerCase_of_readAddress isAccount] at same
  cases addressText_injective same
  exact ⟨numbers, isSignature, valid⟩

section Signatures

variable {config : Config} {attestation : DepositAddressTriggerAttestation}
variable {triggerHash : Bytes32} {manager : Address} {allowed : List Bytes}
variable (isHash : Text.toLowerCase attestation.triggerHash =
  Text.toLowerCase (writeHex (Abi.word triggerHash)))
variable (isChainId : attestation.chainId = .number config.hubEvmChainId)
variable (isManager : readAddress config.depositAddressManagerAddress = some manager)
variable (isProvided : readAddress attestation.depositAddressManager = some manager)
variable (isAllowed : config.allowedOracles.mapM (getAddress viem) = some allowed)

include isHash isChainId isManager isProvided isAllowed

/-- An entry that passes was signed by the allowlisted oracle it names. -/
theorem oracleSigned_of_verifySignature {sig : DepositAddressTriggerSignature} {text : Bytes}
    (listed : sig ∈ attestation.signatures)
    (passes : verifySignature keccak viem secp256k1 attestation allowed sig = some text) :
    ∃ oracle, readAddress sig.oracleSigner = some oracle ∧
      text = viem.checksumAddress (addressText oracle) ∧ Allowlisted config oracle ∧
      OracleSigned keccak viem signed config attestation triggerHash oracle := by
  simp only [verifySignature, recoverTriggerSigner, hashBytes, getAddress, isProvided, isChainId,
    bind_eq_some, Option.map_eq_some_iff, ensure_eq_some, Option.pure_def, Option.some_inj,
    toUint_eq_some] at passes
  obtain ⟨_, ⟨oracle, isOracle, rfl⟩, _, member, recovered, isRecovered, signer, isSigner, _, rfl,
    rfl⟩ := passes
  obtain ⟨_, isNumber, chainId, rfl, _, ⟨_, rfl, rfl⟩, encoded, isEncoded, _,
    ⟨inputDepository, isDepository, rfl⟩, encodedHash, isEncodedHash, isRecovered⟩ := isRecovered
  -- The two texts that are encoded stand for the manager and for the hash.
  cases (correct.encodeAddress manager).symm.trans isEncoded
  have length : attestation.triggerHash.length = 66 := by
    have lengths := congrArg List.length isHash
    rw [Text.length_toLowerCase, toLowerCase_writeHex] at lengths
    rw [lengths, writeHex, List.length_cons, List.length_cons, Text.length_hex, Abi.word,
      Abi.length_bigEndian]
  have isRead := (correct.encodeBytes32 _ _ length).mp isEncodedHash
  rw [toLowerCase_of_readMarked isRead, toLowerCase_writeHex] at isHash
  cases writeHex_inj isHash
  obtain ⟨account, signature, rfl, isSignature, valid⟩ :=
    signed_of_recoverAddressFromDigest sound isRecovered
  obtain ⟨_, isAccount, same⟩ := isSigner
  cases (readAddress_checksumAddress correct account).symm.trans isAccount
  cases checksumAddress_injective correct same
  refine ⟨oracle, isOracle, rfl, ?_, ?_⟩
  · obtain ⟨text, listed, isText⟩ := (mem_mapM isAllowed).mp member
    obtain ⟨other, isOther, same⟩ := Option.map_eq_some_iff.mp isText
    cases checksumAddress_injective correct same
    exact ⟨text, listed, isOther⟩
  · exact ⟨sig, listed, chainId, manager, inputDepository, signature, isOracle, isSignature,
      isNumber, isManager, isDepository, valid⟩

/-- The set of verified texts counts the accounts. -/
theorem length_verified {verified : List Bytes}
    (collected : collect (verifySignature keccak viem secp256k1 attestation allowed)
      attestation.signatures [] = some verified) :
    verified.length = (oracles attestation).card := by
  apply length_collect (checksumAddress_injective correct) collected
  intro sig listed text isText
  obtain ⟨account, isAccount, isWritten, _⟩ := oracleSigned_of_verifySignature correct sound isHash
    isChainId isManager isProvided isAllowed listed isText
  exact ⟨account, isAccount, isWritten⟩

end Signatures

/-- An attestation is accepted only if enough different oracles of the allowlist have signed the
hash of the trigger. -/
theorem exists_oracles_of_verify {config : Config} {trigger : DepositAddressTrigger}
    {attestation : DepositAddressTriggerAttestation}
    (accepted : verifyDepositAddressTriggerAttestation keccak viem secp256k1 config trigger
      attestation = some ()) :
    ∃ triggerHash, getDepositAddressTriggerHash keccak viem trigger = some triggerHash ∧
      ∃ accounts : Finset Address, config.oracleSignatureThreshold ≤ accounts.card ∧
        ∀ oracle ∈ accounts, Allowlisted config oracle ∧
          OracleSigned keccak viem signed config attestation triggerHash oracle := by
  simp only [verifyDepositAddressTriggerAttestation, getAddress, bind_eq_some,
    Option.map_eq_some_iff, ensure_eq_some] at accepted
  obtain ⟨triggerHash, isHash, _, sameHash, _, isChainId, _, ⟨manager, isManager, rfl⟩, _,
    ⟨provided, isProvided, rfl⟩, _, same, allowed, isAllowed, verified, collected, enough⟩ :=
    accepted
  cases checksumAddress_injective correct same
  refine ⟨triggerHash, isHash, oracles attestation, ?_, ?_⟩
  · rwa [← length_verified correct sound sameHash isChainId isManager isProvided isAllowed
      collected]
  · intro oracle member
    rw [oracles, List.mem_toFinset, List.mem_filterMap] at member
    obtain ⟨sig, listed, isOracle⟩ := member
    obtain ⟨text, isText⟩ := (collect_spec collected).2.2 sig listed
    obtain ⟨account, isAccount, _, allowlisted, valid⟩ := oracleSigned_of_verifySignature correct
      sound sameHash isChainId isManager isProvided isAllowed listed isText
    cases isOracle.symm.trans isAccount
    exact ⟨allowlisted, valid⟩

end Sound

end RelaySettlement.LitDepositAddress
