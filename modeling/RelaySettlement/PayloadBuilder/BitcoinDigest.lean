import RelaySettlement.LitDepositAddress.BitcoinVmPolicy
import RelaySettlement.PayloadBuilder.BitcoinValue

/-!
# The digests of a Bitcoin transaction

Two programs compute the digests of BIP-143: the builder, from the byte strings of a payload, and
the wallet of deposit addresses, from a transaction that it has parsed.  For what the builder has
built they agree, input by input.
-/

open Evm

namespace RelaySettlement

open LitDepositAddress.BitcoinVm (BitcoinRuntime ParsedTx TxInput TxOutput hash256 script
  script_p2wpkhCode sighash u32le u32le_eq u64le u64le_natCast varInt varInt_eq)

/-! ## Decoding on the hub -/

namespace BitcoinVmTransactionData

theorem decodeAs_encode {data : BitcoinVmTransactionData} (short : data.Short)
    (held : (Abi.encode [data.toValue]).length < 2 ^ 64) :
    Abi.decodeAs type ofValue (Abi.encode [data.toValue]) = some data := by
  -- every element of the arrays has a head, so the payload bounds their number
  have array {values : List Abi.Value} {types : List Abi.Ty}
      (dynamic : 0 < ((Abi.Ty.tuple types).member Abi.Decoder.limit).headSize)
      (typed : ∀ value ∈ values, Abi.HasType value (.tuple types)) :
      Abi.Decodes Abi.Decoder.limit (.array values)
        ((Abi.Ty.array (.tuple types)).member Abi.Decoder.limit) := by
    have decodes := (Abi.HaveTypes.replicate values typed).decodes
      (show 2 ^ 64 - 1 ≤ Abi.Decoder.limit by decide) (by decide)
    rw [Abi.members_replicate] at decodes
    rw [Abi.Ty.member]
    exact Abi.array_decodes_of_wide (by decide) dynamic decodes
  have decodes : List.Forall₂ (Abi.Decodes Abi.Decoder.limit)
      [.array (data.inputs.map BitcoinVmTransactionDataInput.toValue),
        .array (data.outputs.map BitcoinVmTransactionDataOutput.toValue)]
      (Abi.Ty.members Abi.Decoder.limit [.array BitcoinVmTransactionDataInput.type,
        .array BitcoinVmTransactionDataOutput.type]) := by
    rw [Abi.Ty.members, Abi.Ty.members, Abi.Ty.members]
    exact .cons (array (by decide) fun value listed => (short.inputs_typed value listed).1)
      (.cons (array (by decide) fun value listed => (short.outputs_typed value listed).1) .nil)
  rw [← ofValue_toValue data]
  exact Abi.decodeAs_encode_of_decodes decodes (Nat.le_sub_one_of_lt held)

/-! ## The transaction of a payload -/

/-- The transaction, as a parser reads it: the version, the sequences and the locktime are not in
the payload. -/
def parsed (data : BitcoinVmTransactionData) : ParsedTx where
  version := 1
  inputs := data.inputs.map fun input =>
    ⟨input.txid, readLittleEndian input.index, 0xfffffffd⟩
  outputs := data.outputs.map fun output => ⟨readLittleEndian output.value, output.script⟩
  locktime := 0

/-- Numbers have the widths they have on the wire. -/
structure Framed (data : BitcoinVmTransactionData) : Prop where
  index : ∀ input ∈ data.inputs, input.index.length = 4
  inputValue : ∀ input ∈ data.inputs, input.value.length = 8
  outputValue : ∀ output ∈ data.outputs, output.value.length = 8

end BitcoinVmTransactionData

namespace BitcoinVmPayloadBuilder

theorem encodeVarInt_eq (value : ℕ) :
    encodeVarInt value = varInt value := by
  rw [varInt_eq, encodeVarInt, Bitcoin.compactSize]
  simp [Nat.lt_succ_iff.symm]

theorem u32le_of_length {data : Bytes} (length : data.length = 4) :
    u32le (readLittleEndian data) = data := by
  rw [u32le_eq, ← length, littleEndian_readLittleEndian]

theorem u64le_of_length {data : Bytes} (length : data.length = 8) :
    u64le (readLittleEndian data) = data := by
  rw [u64le_natCast, ← length, littleEndian_readLittleEndian]

/-- What is hashed for an input of a key. -/
def preImage (sha256 : Bytes → Bytes32) (txData : BitcoinVmTransactionData)
    (input : BitcoinVmTransactionDataInput) : Bytes :=
  preImageOf sha256 txData input
    ([0x19, 0x76, 0xa9, 0x14] ++ slice input.script 2 20 ++ [0x88, 0xac])

theorem hashToSign_eq {sha256 : Bytes → Bytes32} {txData : BitcoinVmTransactionData} {index : ℕ}
    {input : BitcoinVmTransactionDataInput} (found : txData.inputs[index]? = some input)
    (p2wpkh : isP2wpkhScript input.script = true) :
    hashToSign sha256 txData index = .ok (doubleSha256 sha256 (preImage sha256 txData input)) := by
  have scriptCode : buildScriptCode input.script =
      .ok ([0x19, 0x76, 0xa9, 0x14] ++ slice input.script 2 20 ++ [0x88, 0xac]) := by
    rw [buildScriptCode, validateP2wpkhScript, p2wpkh]
    rfl
  simp only [hashToSign, buildPreImageForInput, found, orRevert, scriptCode, bind, Except.bind]
  rfl

section Hashes

variable (bitcoin : BitcoinRuntime) {txData : BitcoinVmTransactionData} (framed : txData.Framed)

include framed

theorem hashPrevouts_parsed :
    hashPrevouts bitcoin.sha256 txData.inputs =
      hash256 bitcoin
        (txData.parsed.inputs.flatMap TxInput.outpoint) := by
  have same : txData.parsed.inputs.flatMap TxInput.outpoint =
      txData.inputs.flatMap fun input => input.txid ++ input.index := by
    rw [BitcoinVmTransactionData.parsed, List.flatMap_map]
    apply List.flatMap_congr
    intro input listed
    rw [TxInput.outpoint, u32le_of_length (framed.index input listed)]
  rw [same]
  rfl

omit framed in
theorem hashSequence_parsed (txData : BitcoinVmTransactionData) :
    hashSequence bitcoin.sha256 txData.inputs =
      hash256 bitcoin (txData.parsed.inputs.flatMap fun input =>
        u32le input.sequence) := by
  rw [BitcoinVmTransactionData.parsed, List.flatMap_map]
  simp only [u32le_eq]
  rfl

theorem hashOutputs_parsed :
    hashOutputs bitcoin.sha256 txData.outputs =
      hash256 bitcoin
        (txData.parsed.outputs.flatMap TxOutput.output) := by
  have same : txData.parsed.outputs.flatMap TxOutput.output =
      txData.outputs.flatMap fun output =>
        output.value ++ encodeVarInt output.script.length ++ output.script := by
    rw [BitcoinVmTransactionData.parsed, List.flatMap_map]
    apply List.flatMap_congr
    intro output listed
    rw [TxOutput.output, u64le_of_length (framed.outputValue output listed),
      script, encodeVarInt_eq, List.append_assoc]
  rw [same]
  rfl

/-- Both programs hash the same bytes for an input of a key. -/
theorem sighash_parsed {index : ℕ} {input : BitcoinVmTransactionDataInput}
    (found : txData.inputs[index]? = some input) {pubkey : Bytes}
    (program : Abi.bigEndian 20 (bitcoin.hash160 pubkey).toNat = slice input.script 2 20) :
    sighash bitcoin txData.parsed index pubkey (readLittleEndian input.value : ℕ) =
      some (Abi.word (doubleSha256 bitcoin.sha256 (preImage bitcoin.sha256 txData input))) := by
  have listed := List.mem_of_getElem? found
  have isInput : txData.parsed.inputs[index]? =
      some ⟨input.txid, readLittleEndian input.index, 0xfffffffd⟩ := by
    rw [BitcoinVmTransactionData.parsed, List.getElem?_map, found, Option.map_some]
  rw [sighash, isInput, some_bind, script_p2wpkhCode, Bitcoin.p2wpkhScriptCode, program,
    u64le_of_length (framed.inputValue input listed), TxInput.outpoint,
    u32le_of_length (framed.index input listed), ← hashPrevouts_parsed bitcoin framed,
    ← hashSequence_parsed, ← hashOutputs_parsed bitcoin framed]
  simp only [u32le_eq]
  rfl

end Hashes

/-! ## The inputs of the allocator -/

section Inputs

variable {builder : BitcoinVmPayloadBuilder} {own others : List BitcoinVmTransactionDataInput}
variable (isOwn : ∀ input ∈ own, input.script = builder.allocatorChangeScript)
variable (isOther : ∀ input ∈ others, input.script ≠ builder.allocatorChangeScript)

include isOther in
theorem allocatorInputIndexFrom_others (hashIndex : U256) (position allocatorInputs : ℕ) :
    allocatorInputIndexFrom builder hashIndex others position allocatorInputs =
      .error (.invalidHashIndex hashIndex allocatorInputs) := by
  induction others generalizing position with
  | nil => rfl
  | cons input inputs ih =>
      rw [List.forall_mem_cons] at isOther
      rw [allocatorInputIndexFrom, if_neg isOther.1]
      exact ih isOther.2 (position + 1)

include isOwn isOther in
/-- The inputs of the allocator come first, so positions and counts agree. -/
theorem allocatorInputIndexFrom_append {hashIndex : U256} {start : ℕ}
    (ahead : start ≤ hashIndex.toNat) :
    allocatorInputIndexFrom builder hashIndex (own ++ others) start start =
      if hashIndex.toNat < start + own.length then .ok hashIndex.toNat
      else .error (.invalidHashIndex hashIndex (start + own.length)) := by
  induction own generalizing start with
  | nil =>
      rw [List.nil_append, allocatorInputIndexFrom_others isOther, List.length_nil, Nat.add_zero,
        if_neg (by omega)]
  | cons input inputs ih =>
      rw [List.forall_mem_cons] at isOwn
      rw [List.cons_append, allocatorInputIndexFrom, if_pos isOwn.1, List.length_cons]
      split
      next here => rw [if_pos (by omega), here]
      next later =>
        rw [ih isOwn.2 (by omega), Nat.add_right_comm]
        rfl

include isOwn isOther in
theorem script_iff_of_getElem? {index : ℕ} {input : BitcoinVmTransactionDataInput}
    (found : (own ++ others)[index]? = some input) :
    input.script = builder.allocatorChangeScript ↔ index < own.length := by
  by_cases inside : index < own.length
  · rw [List.getElem?_append_left inside] at found
    exact ⟨fun _ => inside, fun _ => isOwn input (List.mem_of_getElem? found)⟩
  · rw [List.getElem?_append_right (Nat.le_of_not_lt inside)] at found
    exact ⟨fun same => absurd same (isOther input (List.mem_of_getElem? found)),
      fun below => absurd below inside⟩

include isOwn isOther in
theorem allocatorInputs_append (outputs : List BitcoinVmTransactionDataOutput) :
    allocatorInputs builder ⟨own ++ others, outputs⟩ = List.range own.length := by
  have member (position : ℕ) (inside : position < (own ++ others).length) :
      ((own ++ others)[position]?.map BitcoinVmTransactionDataInput.script) =
        some builder.allocatorChangeScript ↔ position < own.length := by
    have found := List.getElem?_eq_getElem inside
    rw [found, Option.map_some, Option.some_inj]
    exact script_iff_of_getElem? isOwn isOther found
  rw [allocatorInputs, List.length_append, List.range_add, List.filter_append,
    List.filter_eq_self.mpr, List.filter_eq_nil_iff.mpr, List.append_nil]
  · intro position listed
    obtain ⟨behind, isBehind, rfl⟩ := List.mem_map.mp listed
    have inside := List.mem_range.mp isBehind
    rw [decide_eq_true_iff, member _ (by rw [List.length_append]; omega)]
    omega
  · intro position listed
    have inside := List.mem_range.mp listed
    rw [decide_eq_true_iff, member _ (by rw [List.length_append]; omega)]
    exact inside

end Inputs

/-- A loop in which every step returns. -/
theorem exists_mapM_ok {ε α β : Type} {f : α → Except ε β} {values : List α}
    (each : ∀ value ∈ values, ∃ result, f value = .ok result) :
    ∃ results, values.mapM f = .ok results ∧
      List.Forall₂ (fun value result => f value = .ok result) values results := by
  induction values with
  | nil => exact ⟨[], rfl, .nil⟩
  | cons value values ih =>
      rw [List.forall_mem_cons] at each
      obtain ⟨first, isFirst⟩ := each.1
      obtain ⟨results, mapped, pairs⟩ := ih each.2
      refine ⟨first :: results, ?_, .cons isFirst pairs⟩
      rw [List.mapM_cons, isFirst, mapped]
      rfl

section Built

variable {keccak256 : Bytes → Bytes32} {builder : BitcoinVmPayloadBuilder}
variable {chainId depository : Bytes} {params : BuildPayloadParams}
variable {txData : BitcoinVmTransactionData} {bitcoinParams : BitcoinVmTransactionParams}
variable {receiverScript : Bytes} {allocatorChange feeChange : BitVec 64}
variable (parts : Parts keccak256 builder chainId depository params txData bitcoinParams
  receiverScript allocatorChange feeChange)

include parts

theorem Parts.framed : txData.Framed where
  index := by
    intro input listed
    obtain ⟨utxo, rfl, _⟩ := parts.exists_utxo listed
    exact length_littleEndian ..
  inputValue := by
    intro input listed
    obtain ⟨utxo, rfl, _⟩ := parts.exists_utxo listed
    exact length_encodeUint64LE utxo.value
  outputValue := by
    intro output listed
    obtain ⟨value, isValue, _⟩ := parts.exists_value listed
    rw [isValue, length_encodeUint64LE]

theorem Parts.isOwn : ∀ input ∈ bitcoinParams.allocatorUtxos.map buildInput,
    input.script = builder.allocatorChangeScript := by
  intro input listed
  obtain ⟨utxo, isUtxo, rfl⟩ := List.mem_map.mp listed
  obtain ⟨_, _, _, scripts⟩ := computeAllocatorChange_ok parts.isAllocatorChange
  exact scripts utxo isUtxo

theorem Parts.isOther : ∀ input ∈ bitcoinParams.feeUtxos.map buildInput,
    input.script ≠ builder.allocatorChangeScript := by
  intro input listed
  obtain ⟨utxo, isUtxo, rfl⟩ := List.mem_map.mp listed
  exact (parts.feeUtxos utxo isUtxo).2

/-- An input of the allocator. -/
theorem Parts.getElem?_inputs {index : ℕ} {utxo : BitcoinVmUtxo}
    (found : bitcoinParams.allocatorUtxos[index]? = some utxo) :
    txData.inputs[index]? = some (buildInput utxo) ∧
      (buildInput utxo).script = builder.allocatorChangeScript := by
  have isInput : (bitcoinParams.allocatorUtxos.map buildInput)[index]? =
      some (buildInput utxo) := by
    rw [List.getElem?_map, found, Option.map_some]
  have inside := (List.getElem?_eq_some_iff.mp isInput).1
  constructor
  · rw [parts.inputs, buildInputs, List.getElem?_append_left inside, isInput]
  · exact parts.isOwn _ (List.mem_of_getElem? isInput)

theorem Parts.allocatorInputs_eq :
    allocatorInputs builder txData = List.range bitcoinParams.allocatorUtxos.length := by
  have same : txData = ⟨bitcoinParams.allocatorUtxos.map buildInput ++
      bitcoinParams.feeUtxos.map buildInput, txData.outputs⟩ := by
    rw [← buildInputs, ← parts.inputs]
  rw [same, allocatorInputs_append parts.isOwn parts.isOther, List.length_map]

theorem Parts.allocatorInputIndex_eq (hashIndex : U256) :
    allocatorInputIndex builder txData hashIndex =
      if hashIndex.toNat < bitcoinParams.allocatorUtxos.length then .ok hashIndex.toNat
      else .error (.invalidHashIndex hashIndex bitcoinParams.allocatorUtxos.length) := by
  rw [allocatorInputIndex, parts.inputs, buildInputs,
    allocatorInputIndexFrom_append parts.isOwn parts.isOther (Nat.zero_le _), Nat.zero_add,
    List.length_map]

/-- The digests of the inputs of the allocator, in order. -/
theorem Parts.exists_hashes (sha256 : Bytes → Bytes32) :
    ∃ hashes, (allocatorInputs builder txData).mapM (hashToSign sha256 txData) = .ok hashes ∧
      hashes.length = bitcoinParams.allocatorUtxos.length ∧
      ∀ (index : ℕ) (utxo : BitcoinVmUtxo), bitcoinParams.allocatorUtxos[index]? = some utxo →
        hashToSign sha256 txData index =
            .ok (doubleSha256 sha256 (preImage sha256 txData (buildInput utxo))) ∧
          hashes[index]? =
            some (doubleSha256 sha256 (preImage sha256 txData (buildInput utxo))) := by
  have digest (index : ℕ) (utxo : BitcoinVmUtxo)
      (found : bitcoinParams.allocatorUtxos[index]? = some utxo) :
      hashToSign sha256 txData index =
        .ok (doubleSha256 sha256 (preImage sha256 txData (buildInput utxo))) := by
    obtain ⟨isInput, script⟩ := parts.getElem?_inputs found
    exact hashToSign_eq isInput (by rw [script, builder.isP2wpkh])
  rw [parts.allocatorInputs_eq]
  obtain ⟨hashes, mapped, pairs⟩ :=
    @exists_mapM_ok _ _ _ (hashToSign sha256 txData)
      (List.range bitcoinParams.allocatorUtxos.length) fun index listed => ⟨_, digest index _
        (List.getElem?_eq_getElem (List.mem_range.mp listed))⟩
  have length := pairs.length_eq
  rw [List.length_range] at length
  refine ⟨hashes, mapped, length.symm, ?_⟩
  intro index utxo found
  have inside := (List.getElem?_eq_some_iff.mp found).1
  have isHash := (List.forall₂_iff_get.mp pairs).2 index (by rwa [List.length_range]) (by omega)
  rw [List.get_eq_getElem, List.getElem_range, digest index utxo found] at isHash
  refine ⟨digest index utxo found, ?_⟩
  rw [List.getElem?_eq_getElem (by omega), Except.ok.inj isHash, List.get_eq_getElem]

end Built

end BitcoinVmPayloadBuilder

open BitcoinVmPayloadBuilder in
/-- The digests of a built payload are those of the wallet.  There is one for each input of the
allocator, in order, and a digest can be asked for alone. -/
theorem bitcoin_digests_agree (keccak256 : Bytes → Bytes32) (bitcoin : BitcoinRuntime)
    (builder : BitcoinVmPayloadBuilder) (chainId depository : Bytes) (params : BuildPayloadParams)
    (payload : Bytes)
    (built : buildPayload keccak256 builder chainId depository params = .ok payload)
    (held : payload.length < 2 ^ 64) :
    ∃ bitcoinParams txData hashes,
      Abi.decodeAs BitcoinVmTransactionParams.type BitcoinVmTransactionParams.ofValue
        params.data = some bitcoinParams ∧
      Abi.decodeAs BitcoinVmTransactionData.type BitcoinVmTransactionData.ofValue payload =
        some txData ∧
      (∀ (index : ℕ) (input : BitcoinVmTransactionDataInput),
        txData.inputs[index]? = some input →
          (input.script = builder.allocatorChangeScript ↔
            index < bitcoinParams.allocatorUtxos.length)) ∧
      hashesToSign bitcoin.sha256 builder payload = .ok hashes ∧
      hashes.length = bitcoinParams.allocatorUtxos.length ∧
      (∀ hashIndex : U256, hashToSignAt bitcoin.sha256 builder payload hashIndex =
        orRevert hashes[hashIndex.toNat]? (.invalidHashIndex hashIndex hashes.length)) ∧
      ∀ (index : ℕ) (utxo : BitcoinVmUtxo) (pubkey : Bytes),
        bitcoinParams.allocatorUtxos[index]? = some utxo →
        Abi.bigEndian 20 (bitcoin.hash160 pubkey).toNat =
          slice builder.allocatorChangeScript 2 20 →
        ∃ digest, hashes[index]? = some digest ∧
          sighash bitcoin txData.parsed index pubkey (utxo.value.toNat : ℕ) =
            some (Abi.word digest) := by
  obtain ⟨txData, isBuilt, isPayload⟩ := bind_eq_ok.mp built
  cases isPayload
  obtain ⟨bitcoinParams, receiverScript, allocatorChange, feeChange, parts⟩ :=
    buildTransaction_ok isBuilt
  have decoded := BitcoinVmTransactionData.decodeAs_encode parts.short held
  obtain ⟨hashes, isHashes, count, each⟩ := parts.exists_hashes bitcoin.sha256
  refine ⟨bitcoinParams, txData, hashes, parts.decoded, decoded, ?_, ?_, count, ?_, ?_⟩
  · intro index input found
    rw [parts.inputs, buildInputs] at found
    rw [script_iff_of_getElem? parts.isOwn parts.isOther found, List.length_map]
  · rw [hashesToSign, decoded]
    exact isHashes
  · intro hashIndex
    have read : hashToSignAt bitcoin.sha256 builder (Abi.encode [txData.toValue]) hashIndex =
        (allocatorInputIndex builder txData hashIndex >>= hashToSign bitcoin.sha256 txData) := by
      rw [hashToSignAt, decoded]
      rfl
    rw [read, parts.allocatorInputIndex_eq, count]
    split
    next inside =>
      obtain ⟨isDigest, isHash⟩ := each _ _ (List.getElem?_eq_getElem inside)
      rw [isHash]
      exact isDigest
    next outside =>
      rw [List.getElem?_eq_none (by omega)]
      rfl
  · intro index utxo pubkey found program
    obtain ⟨isInput, script⟩ := parts.getElem?_inputs found
    obtain ⟨_, isHash⟩ := each index utxo found
    refine ⟨_, isHash, ?_⟩
    rw [← sighash_parsed bitcoin parts.framed isInput (by rw [script, program])]
    rw [show (buildInput utxo).value = Utils.encodeUint64LE utxo.value from rfl,
      readLittleEndian_encodeUint64LE]

namespace SampleBitcoin

open BitcoinVmPayloadBuilder

/-- Public keys are hashed to their numbers. -/
def runtime : BitcoinRuntime :=
  { LitDepositAddress.BitcoinVm.SamplePayment.bitcoin with
    hash160 := fun data => BitVec.ofNat 160 (Abi.readBigEndian data) }

theorem exists_held : ∃ payload,
    buildPayload Abi.sampleHash builder [1] [2] paidParams = .ok payload ∧
      payload.length < 2 ^ 64 := by
  have held : (buildPayload Abi.sampleHash builder [1] [2] paidParams).toOption.any
      (fun payload => payload.length < 2 ^ 64) = true := by decide +kernel
  obtain ⟨payload, isPayload, short⟩ := (Option.any_eq_true ..).mp held
  exact ⟨payload, toOption_eq_some.mp isPayload, of_decide_eq_true short⟩

end SampleBitcoin

open SampleBitcoin BitcoinVmPayloadBuilder in
theorem bitcoin_digests_agree_sample :
    ∃ payload bitcoinParams txData hashes digest,
      buildPayload Abi.sampleHash builder [1] [2] paidParams = .ok payload ∧
      Abi.decodeAs BitcoinVmTransactionData.type BitcoinVmTransactionData.ofValue payload =
        some txData ∧
      hashesToSign runtime.sha256 builder payload = .ok hashes ∧
      hashes = [digest] ∧
      Abi.decodeAs BitcoinVmTransactionParams.type BitcoinVmTransactionParams.ofValue
        paidParams.data = some bitcoinParams ∧
      ∃ utxo, bitcoinParams.allocatorUtxos = [utxo] ∧
        sighash runtime txData.parsed 0 (List.replicate 20 1) (utxo.value.toNat : ℕ) =
          some (Abi.word digest) := by
  obtain ⟨payload, built, held⟩ := exists_held
  obtain ⟨bitcoinParams, txData, hashes, isParams, isTx, _, isHashes, count, _, agree⟩ :=
    bitcoin_digests_agree Abi.sampleHash runtime builder [1] [2] _ payload built held
  have single : (Abi.decodeAs BitcoinVmTransactionParams.type BitcoinVmTransactionParams.ofValue
      paidParams.data).any (fun bitcoinParams => bitcoinParams.allocatorUtxos.length = 1) =
        true := by decide +kernel
  rw [isParams] at single
  obtain ⟨utxo, isUtxo⟩ := List.length_eq_one_iff.mp (of_decide_eq_true single)
  rw [isUtxo] at count
  obtain ⟨digest, isDigest⟩ := List.length_eq_one_iff.mp count
  obtain ⟨found, isFound, same⟩ := agree 0 utxo (List.replicate 20 1) (by rw [isUtxo]; rfl)
    (by decide +kernel)
  rw [isDigest] at isFound
  cases isFound
  exact ⟨payload, bitcoinParams, txData, hashes, digest, built, isTx, isHashes, isDigest,
    isParams, utxo, isUtxo, same⟩

end RelaySettlement
