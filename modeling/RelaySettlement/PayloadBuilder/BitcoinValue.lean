import RelaySettlement.PayloadBuilder.BitcoinVm

/-!
# The value of a Bitcoin transaction

Where the satoshis of a built transaction come from and go to, as the network reads them:
values are eight bytes, little-endian.  Totals are taken in `ℕ`, so that what they say holds
without any bound on the number of inputs.
-/

open Evm

namespace RelaySettlement

/-! ## Values -/

/-- A value in satoshis and the script that holds it. -/
abbrev Coin := ℕ × Bytes

def BitcoinVmUtxo.coin (utxo : BitcoinVmUtxo) : Coin := (utxo.value.toNat, utxo.scriptPubKey)

def BitcoinVmTransactionDataInput.coin (input : BitcoinVmTransactionDataInput) : Coin :=
  (readLittleEndian input.value, input.script)

def BitcoinVmTransactionDataOutput.coin (output : BitcoinVmTransactionDataOutput) : Coin :=
  (readLittleEndian output.value, output.script)

def Coin.total (coins : List Coin) : ℕ := (coins.map Prod.fst).sum

theorem Coin.total_append (coins coins' : List Coin) :
    Coin.total (coins ++ coins') = Coin.total coins + Coin.total coins' := by
  rw [Coin.total, List.map_append, List.sum_append, Coin.total, Coin.total]

/-- The output that returns a change, if there is any. -/
def changeCoins (change : ℕ) (script : Bytes) : List Coin :=
  if change = 0 then [] else [(change, script)]

theorem Coin.total_changeCoins (change : ℕ) (script : Bytes) :
    Coin.total (changeCoins change script) = change := by
  rw [changeCoins]
  split
  next zero =>
    rw [zero]
    rfl
  next => exact Nat.add_zero change

theorem readLittleEndian_encodeUint64LE (value : BitVec 64) :
    readLittleEndian (Utils.encodeUint64LE value) = value.toNat :=
  readLittleEndian_toNat (by decide) value

namespace BitcoinVmPayloadBuilder

/-! ## Loops -/

section Loops

variable {step : BitVec 64 → BitcoinVmUtxo → Except Error (BitVec 64)}
variable {Checked : BitcoinVmUtxo → Prop}

/-- A loop that checks outputs and adds up their values. -/
theorem foldlM_values
    (each : ∀ total utxo next, step total utxo = .ok next →
      next.toNat = total.toNat + utxo.value.toNat ∧ Checked utxo)
    {utxos : List BitcoinVmUtxo} {start total : BitVec 64}
    (ok : utxos.foldlM step start = .ok total) :
    total.toNat = start.toNat + Coin.total (utxos.map BitcoinVmUtxo.coin) ∧
      ∀ utxo ∈ utxos, Checked utxo := by
  induction utxos generalizing start with
  | nil =>
      cases ok
      exact ⟨rfl, List.forall_mem_nil _⟩
  | cons utxo utxos ih =>
      rw [List.foldlM_cons] at ok
      obtain ⟨next, isNext, rest⟩ := bind_eq_ok.mp ok
      obtain ⟨sum, checked⟩ := each _ _ _ isNext
      obtain ⟨sums, all⟩ := ih rest
      refine ⟨?_, List.forall_mem_cons.mpr ⟨checked, all⟩⟩
      rw [sums, sum, Nat.add_assoc]
      rfl

end Loops

variable {utxos : List BitcoinVmUtxo} {script : Bytes}

theorem sumUtxoValues_ok {total : BitVec 64} (ok : sumUtxoValues utxos = .ok total) :
    total.toNat = Coin.total (utxos.map BitcoinVmUtxo.coin) := by
  have sums := @foldlM_values _ (fun _ => True)
    (fun _ _ _ isNext => ⟨checkedAddNarrow_eq_ok.mp isNext, trivial⟩) _ _ _ ok
  rw [sums.1]
  exact Nat.zero_add _

theorem sumAndValidateAllocatorUtxos_ok {total : BitVec 64}
    (ok : sumAndValidateAllocatorUtxos utxos script = .ok total) :
    total.toNat = Coin.total (utxos.map BitcoinVmUtxo.coin) ∧
      ∀ utxo ∈ utxos, utxo.scriptPubKey = script := by
  have sums := @foldlM_values _ (fun utxo => utxo.scriptPubKey = script) ?_ _ _ _ ok
  · rwa [show (0 : BitVec 64).toNat = 0 from rfl, Nat.zero_add] at sums
  · intro total utxo next isNext
    simp only [bind_eq_ok, require_eq_ok, checkedAddNarrow_eq_ok] at isNext
    obtain ⟨_, _, _, same, sum⟩ := isNext
    exact ⟨sum, same⟩

theorem validateFeeUtxos_ok {result : Unit} (ok : validateFeeUtxos utxos script = .ok result) :
    ∀ utxo ∈ utxos, isStandardOutputScript utxo.scriptPubKey = true ∧
      utxo.scriptPubKey ≠ script := by
  induction utxos with
  | nil => exact List.forall_mem_nil _
  | cons utxo utxos ih =>
      rw [validateFeeUtxos, List.forM] at ok
      obtain ⟨_, here, rest⟩ := bind_eq_ok.mp ok
      simp only [validateStandardOutputScript, bind_eq_ok, require_eq_ok] at here
      obtain ⟨_, standard, other⟩ := here
      exact List.forall_mem_cons.mpr ⟨⟨standard, other⟩, ih rest⟩

/-! ## Change -/

/-- The allocator's inputs are the amount and the change. -/
theorem computeAllocatorChange_ok {amount : U256} {change : BitVec 64}
    (ok : computeAllocatorChange amount utxos script = .ok change) :
    Coin.total (utxos.map BitcoinVmUtxo.coin) = amount.toNat + change.toNat ∧
      Coin.total (utxos.map BitcoinVmUtxo.coin) < 2 ^ 64 ∧
      (change.toNat = 0 ∨ 546 ≤ change.toNat) ∧
      ∀ utxo ∈ utxos, utxo.scriptPubKey = script := by
  simp only [computeAllocatorChange, bind_eq_ok, require_eq_ok, checkedSubNarrow_eq_ok,
    pure_eq_ok] at ok
  obtain ⟨total, isTotal, _, enough, change, isChange, _, dust, rfl⟩ := ok
  obtain ⟨sum, scripts⟩ := sumAndValidateAllocatorUtxos_ok isTotal
  have bound := total.isLt
  have within : amount.toNat ≤ total.toNat := by
    rw [← toNat_widen (by decide) total]
    exact enough
  rw [BitVec.toNat_setWidth, Nat.mod_eq_of_lt (by omega)] at isChange
  refine ⟨by omega, by omega, ?_, scripts⟩
  rcases dust with rfl | dust
  · exact .inl rfl
  · exact .inr dust

/-- The fee inputs are the fee of the transaction with its outputs, and the fee change. -/
theorem computeFeeChange_ok {bitcoinParams : BitcoinVmTransactionParams}
    {allocatorChange feeChange : BitVec 64}
    {receiverScript identifierScript allocatorChangeScript feeChangeScript : Bytes}
    (ok : computeFeeChange bitcoinParams allocatorChange receiverScript identifierScript
      allocatorChangeScript feeChangeScript = .ok feeChange) :
    Coin.total (bitcoinParams.feeUtxos.map BitcoinVmUtxo.coin) < 2 ^ 64 ∧
      (feeChange.toNat = 0 ∨ 546 ≤ feeChange.toNat) ∧
      ∃ vsize, estimateVSize bitcoinParams.allocatorUtxos bitcoinParams.feeUtxos
          (baseOutputScripts allocatorChange receiverScript identifierScript
            allocatorChangeScript ++ if 0 < feeChange then [feeChangeScript] else []) =
            .ok vsize ∧
        Coin.total (bitcoinParams.feeUtxos.map BitcoinVmUtxo.coin) =
          bitcoinParams.feeRate.toNat * vsize + feeChange.toNat := by
  simp only [computeFeeChange, bind_eq_ok, require_eq_ok] at ok
  obtain ⟨total, isTotal, vsize, isVsize, _, enough, ok⟩ := ok
  have bound := total.isLt
  rw [← sumUtxoValues_ok isTotal]
  split at ok
  next exactly =>
    cases ok
    refine ⟨bound, .inl rfl, vsize, ?_, ?_⟩
    · rw [if_neg (by decide), List.append_nil]
      exact isVsize
    · rw [exactly, Nat.mul_comm]
      rfl
  next =>
    simp only [bind_eq_ok, require_eq_ok, checkedSubNarrow_eq_ok, pure_eq_ok] at ok
    obtain ⟨vsize, isVsize, _, enough, change, isChange, _, dust, rfl⟩ := ok
    have large : 546 ≤ change.toNat := dust
    rw [BitVec.toNat_ofNat, Nat.mod_eq_of_lt (by omega)] at isChange
    refine ⟨bound, .inr dust, vsize, ?_, ?_⟩
    · rw [if_pos (BitVec.lt_def.mpr (Nat.lt_of_lt_of_le (by decide) large))]
      exact isVsize
    · rw [isChange, Nat.mul_comm]

/-! ## Scripts -/

theorem length_le_of_isStandardOutputScript (standard : isStandardOutputScript script = true) :
    script.length ≤ 42 := by
  simp only [isStandardOutputScript, Bool.or_eq_true] at standard
  rcases standard with (p2pkh | p2sh) | witness
  · have length := (of_decide_eq_true p2pkh).1
    omega
  · have length := (of_decide_eq_true p2sh).1
    omega
  · rw [isWitnessScript] at witness
    split at witness
    · cases witness
    · omega

theorem length_of_isP2wpkhScript (p2wpkh : isP2wpkhScript script = true) :
    script.length = 22 := (of_decide_eq_true p2wpkh).1

/-- The script that pays to an address. -/
inductive PaysTo : (encodedAddress script : Bytes) → Prop
  | p2pkh {hash : Bytes} (length : hash.length = 20) :
      PaysTo (0xff :: 0x00 :: hash) ([0x76, 0xa9, 0x14] ++ hash ++ [0x88, 0xac])
  | p2sh {hash : Bytes} (length : hash.length = 20) :
      PaysTo (0xff :: 0x05 :: hash) ([0xa9, 0x14] ++ hash ++ [0x87])
  | witness {version : UInt8} {program : Bytes} (known : version.toNat ≤ 16)
      (length : if version = 0 then program.length = 20 ∨ program.length = 32
        else 2 ≤ program.length ∧ program.length ≤ 40) :
      PaysTo (version :: program) ((if version = 0 then 0 else 0x50 + version) ::
        UInt8.ofNat program.length :: program)

theorem paysTo_of_protocolAddressToScript {encodedAddress : Bytes}
    (ok : protocolAddressToScript encodedAddress = .ok script) : PaysTo encodedAddress script := by
  match encodedAddress with
  | [] => cases ok
  | [version] => simp [protocolAddressToScript] at ok
  | version :: first :: rest =>
    simp only [protocolAddressToScript, List.getD_cons_zero, List.getD_cons_succ, slice,
      List.drop_succ_cons, List.drop_zero, List.length_cons, Nat.add_sub_cancel] at ok
    split at ok
    next address =>
      obtain ⟨length, rfl, rfl⟩ := address
      cases ok
      rw [List.take_of_length_le (by omega)]
      exact .p2pkh (by omega)
    split at ok
    next address =>
      obtain ⟨length, rfl, rfl⟩ := address
      cases ok
      rw [List.take_of_length_le (by omega)]
      exact .p2sh (by omega)
    have whole : (first :: rest).take (rest.length + 1) = first :: rest :=
      List.take_of_length_le (Nat.le_refl _)
    rw [whole] at ok
    split at ok
    next address =>
      obtain ⟨_, rfl, length⟩ := address
      cases ok
      exact .witness (by decide) (by rwa [if_pos rfl])
    split at ok
    next address =>
      obtain ⟨_, known, positive, length⟩ := address
      cases ok
      have nonzero : version ≠ 0 := by
        rintro rfl
        exact absurd positive (by decide)
      have witness := PaysTo.witness (show version.toNat ≤ 16 from known)
        (show if version = 0 then _ else 2 ≤ (first :: rest).length ∧ _ by rwa [if_neg nonzero])
      rwa [if_neg nonzero] at witness
    next => cases ok

theorem length_le_of_protocolAddressToScript {encodedAddress : Bytes}
    (ok : protocolAddressToScript encodedAddress = .ok script) : script.length ≤ 42 := by
  cases paysTo_of_protocolAddressToScript ok with
  | p2pkh length | p2sh length =>
    simp only [List.length_append, List.length_cons, List.length_nil]
    omega
  | witness known length =>
    simp only [List.length_cons]
    split at length
    · omega
    · omega

end BitcoinVmPayloadBuilder

/-! ## Decoding -/

/-! Both parts of a transaction are structs of a few short strings. -/

section Strings

variable {fields : List Bytes} (short : ∀ field ∈ fields, field.length ≤ 42)

include short

theorem strings_typed (few : fields.length ≤ 4) :
    Abi.HasType (.tuple (fields.map .bytes)) (.tuple (List.replicate fields.length .bytes)) ∧
      (Abi.Value.tuple (fields.map .bytes)).size ≤ 600 := by
  have typed := @Abi.HaveTypes.replicate .bytes (fields.map .bytes) <|
    List.forall_mem_map.mpr fun field listed =>
      .bytes (Nat.lt_of_le_of_lt (short field listed) (by decide))
  have size := @Abi.Value.size_tuple_le (fields.map .bytes) 105 <| List.forall_mem_map.mpr
    fun field listed => by
      have length := short field listed
      have bound := Abi.Value.size_bytes_le field
      omega
  rw [List.length_map] at typed size
  exact ⟨.tuple typed, by omega⟩

end Strings

theorem BitcoinVmTransactionDataInput.ofValue_toValue (input : BitcoinVmTransactionDataInput) :
    ofValue input.toValue = some input := rfl

theorem BitcoinVmTransactionDataOutput.ofValue_toValue
    (output : BitcoinVmTransactionDataOutput) : ofValue output.toValue = some output := rfl

namespace BitcoinVmTransactionData

theorem ofValue_toValue (data : BitcoinVmTransactionData) :
    ofValue data.toValue = some data := by
  have inputs := Abi.mapM_ofValue BitcoinVmTransactionDataInput.ofValue_toValue data.inputs
  have outputs := Abi.mapM_ofValue BitcoinVmTransactionDataOutput.ofValue_toValue data.outputs
  simp [toValue, ofValue, inputs, outputs]

/-- Fields of a transaction are as long as standard scripts at most. -/
structure Short (data : BitcoinVmTransactionData) : Prop where
  inputs : ∀ input ∈ data.inputs, ∀ field ∈ [input.txid, input.index, input.script, input.value],
    field.length ≤ 42
  outputs : ∀ output ∈ data.outputs, ∀ field ∈ [output.value, output.script], field.length ≤ 42
  inputCount : data.inputs.length < 2 ^ 66
  outputCount : data.outputs.length < 2 ^ 66

section Reading

variable {data : BitcoinVmTransactionData} (short : data.Short)

include short

theorem Short.inputs_typed : ∀ value ∈ data.inputs.map BitcoinVmTransactionDataInput.toValue,
    Abi.HasType value BitcoinVmTransactionDataInput.type ∧ value.size ≤ 600 :=
  List.forall_mem_map.mpr fun input listed => strings_typed (short.inputs input listed) (by simp)

theorem Short.outputs_typed : ∀ value ∈ data.outputs.map BitcoinVmTransactionDataOutput.toValue,
    Abi.HasType value BitcoinVmTransactionDataOutput.type ∧ value.size ≤ 600 :=
  List.forall_mem_map.mpr fun output listed =>
    strings_typed (short.outputs output listed) (by simp)

theorem Short.length_encode_lt : (Abi.encode [data.toValue]).length < 2 ^ 256 := by
  have inputs := Abi.Value.size_array_le 600 fun value listed => (short.inputs_typed value listed).2
  have outputs := Abi.Value.size_array_le 600 fun value listed =>
    (short.outputs_typed value listed).2
  have inputCount := short.inputCount
  have outputCount := short.outputCount
  rw [List.length_map] at inputs outputs
  have size : data.toValue.size ≤ 2 * (2 ^ 77 + 32) := by
    refine Nat.le_trans (Abi.Value.size_tuple_le (2 ^ 77) ?_) (by simp)
    simp only [List.forall_mem_cons]
    exact ⟨by omega, by omega, List.forall_mem_nil _⟩
  have length := Abi.length_encode_single_le size
  omega

/-- A transaction of short fields is read back. -/
theorem readAs_encode : Abi.readAs type ofValue (Abi.encode [data.toValue]) = some data := by
  have inputCount := short.inputCount
  have outputCount := short.outputCount
  have decodes : List.Forall₂ (Abi.Decodes (2 ^ 256 - 1))
      [.array (data.inputs.map BitcoinVmTransactionDataInput.toValue),
        .array (data.outputs.map BitcoinVmTransactionDataOutput.toValue)]
      (Abi.Ty.members (2 ^ 256 - 1) [.array BitcoinVmTransactionDataInput.type,
        .array BitcoinVmTransactionDataOutput.type]) := by
    rw [Abi.Ty.members, Abi.Ty.members, Abi.Ty.members]
    refine .cons ?_ (.cons ?_ .nil)
    · refine Abi.HasType.array_decodes (by decide) (by decide) ?_
        fun value listed => (short.inputs_typed value listed).1
      rw [List.length_map]
      omega
    · refine Abi.HasType.array_decodes (by decide) (by decide) ?_
        fun value listed => (short.outputs_typed value listed).1
      rw [List.length_map]
      omega
  rw [← ofValue_toValue data]
  exact Abi.readAs_encode_of_decodes decodes short.length_encode_lt

end Reading

end BitcoinVmTransactionData

/-! ## Conservation -/

namespace BitcoinVmPayloadBuilder

/-- The balance of a transaction that is built for a request: the allocator's inputs are the
amount and a change, the fee inputs are the fee and a change, and there are no other outputs
than these and one without value. -/
structure Conserves (builder : BitcoinVmPayloadBuilder) (params : BuildPayloadParams)
    (bitcoinParams : BitcoinVmTransactionParams) (txData : BitcoinVmTransactionData)
    (receiverScript : Bytes) (identifier : Bytes32) (allocatorChange feeChange fee : ℕ) :
    Prop where
  receiver : protocolAddressToScript params.receiver = .ok receiverScript
  pays : PaysTo params.receiver receiverScript
  inputs : txData.inputs.map BitcoinVmTransactionDataInput.coin =
    bitcoinParams.allocatorUtxos.map BitcoinVmUtxo.coin ++
      bitcoinParams.feeUtxos.map BitcoinVmUtxo.coin
  outputs : txData.outputs.map BitcoinVmTransactionDataOutput.coin =
    [(params.amount.toNat, receiverScript), (0, [0x6a, 0x20] ++ Abi.word identifier)] ++
      changeCoins allocatorChange builder.allocatorChangeScript ++
      changeCoins feeChange bitcoinParams.feeChangeScript
  widths : (∀ input ∈ txData.inputs, input.value.length = 8) ∧
    ∀ output ∈ txData.outputs, output.value.length = 8
  allocatorScripts : ∀ utxo ∈ bitcoinParams.allocatorUtxos,
    utxo.scriptPubKey = builder.allocatorChangeScript
  feeScripts : ∀ utxo ∈ bitcoinParams.feeUtxos,
    utxo.scriptPubKey ≠ builder.allocatorChangeScript
  allocator : Coin.total (bitcoinParams.allocatorUtxos.map BitcoinVmUtxo.coin) =
    params.amount.toNat + allocatorChange
  fees : Coin.total (bitcoinParams.feeUtxos.map BitcoinVmUtxo.coin) = fee + feeChange
  dust : (allocatorChange = 0 ∨ 546 ≤ allocatorChange) ∧ (feeChange = 0 ∨ 546 ≤ feeChange)
  rate : ∃ vsize, estimateVSize bitcoinParams.allocatorUtxos bitcoinParams.feeUtxos
      (txData.outputs.map BitcoinVmTransactionDataOutput.script) = .ok vsize ∧
    fee = bitcoinParams.feeRate.toNat * vsize
  within : Coin.total (bitcoinParams.allocatorUtxos.map BitcoinVmUtxo.coin) < 2 ^ 64 ∧
    Coin.total (bitcoinParams.feeUtxos.map BitcoinVmUtxo.coin) < 2 ^ 64

/-- What goes in and does not come out is the fee. -/
theorem Conserves.total {builder : BitcoinVmPayloadBuilder} {params : BuildPayloadParams}
    {bitcoinParams : BitcoinVmTransactionParams} {txData : BitcoinVmTransactionData}
    {receiverScript : Bytes} {identifier : Bytes32} {allocatorChange feeChange fee : ℕ}
    (conserves : Conserves builder params bitcoinParams txData receiverScript identifier
      allocatorChange feeChange fee) :
    Coin.total (txData.inputs.map BitcoinVmTransactionDataInput.coin) =
      Coin.total (txData.outputs.map BitcoinVmTransactionDataOutput.coin) + fee := by
  have paid : Coin.total [(params.amount.toNat, receiverScript),
      (0, [0x6a, 0x20] ++ Abi.word identifier)] = params.amount.toNat := by
    simp [Coin.total]
  rw [conserves.inputs, conserves.outputs, Coin.total_append, Coin.total_append,
    Coin.total_append, Coin.total_changeCoins, Coin.total_changeCoins, conserves.allocator,
    conserves.fees, paid]
  omega

theorem coins_buildInput (utxos : List BitcoinVmUtxo) :
    (utxos.map buildInput).map BitcoinVmTransactionDataInput.coin =
      utxos.map BitcoinVmUtxo.coin := by
  rw [List.map_map]
  apply List.map_congr_left
  intro utxo _
  rw [Function.comp_apply, BitcoinVmTransactionDataInput.coin, BitcoinVmUtxo.coin, buildInput,
    readLittleEndian_encodeUint64LE]

/-- The output of a change, if there is any. -/
def changeOutputs (change : BitVec 64) (script : Bytes) : List BitcoinVmTransactionDataOutput :=
  if 0 < change then [⟨Utils.encodeUint64LE change, script⟩] else []

theorem coin_changeOutputs (change : BitVec 64) (script : Bytes) :
    (changeOutputs change script).map BitcoinVmTransactionDataOutput.coin =
      changeCoins change.toNat script := by
  have positive : 0 < change ↔ ¬ change.toNat = 0 := by
    rw [BitVec.lt_def]
    exact Nat.pos_iff_ne_zero
  rw [changeOutputs, changeCoins]
  by_cases zero : change.toNat = 0
  · rw [if_neg (fun above => positive.mp above zero), if_pos zero]
    rfl
  · rw [if_pos (positive.mpr zero), if_neg zero, List.map_singleton,
      BitcoinVmTransactionDataOutput.coin, readLittleEndian_encodeUint64LE]

theorem script_changeOutputs (change : BitVec 64) (script : Bytes) :
    (changeOutputs change script).map BitcoinVmTransactionDataOutput.script =
      if 0 < change then [script] else [] := by
  rw [changeOutputs]
  split <;> rfl

/-- Decoded arrays have a 64-bit length. -/
theorem length_lt_of_decodeAs {data : Bytes} {bitcoinParams : BitcoinVmTransactionParams}
    (decoded : Abi.decodeAs BitcoinVmTransactionParams.type BitcoinVmTransactionParams.ofValue
      data = some bitcoinParams) :
    bitcoinParams.allocatorUtxos.length < 2 ^ 64 ∧ bitcoinParams.feeUtxos.length < 2 ^ 64 := by
  obtain ⟨value, typed, isParams⟩ := Abi.exists_of_decodeAs decoded
  rcases typed with _ | _ | typed
  rcases typed with _ | ⟨_ | _ | _ | ⟨allocatorShort, _⟩, typed⟩
  rcases typed with _ | ⟨_ | _ | _ | ⟨feeShort, _⟩, typed⟩
  rcases typed with _ | ⟨_ | _, typed⟩
  rcases typed with _ | ⟨_ | _, typed⟩
  cases typed
  obtain ⟨allocatorUtxos, isAllocator, isParams⟩ := bind_eq_some.mp isParams
  obtain ⟨feeUtxos, isFee, isParams⟩ := bind_eq_some.mp isParams
  cases isParams
  rw [← Abi.length_of_mapM isAllocator] at allocatorShort
  rw [← Abi.length_of_mapM isFee] at feeShort
  exact ⟨allocatorShort, feeShort⟩

theorem length_encodeUint64LE (value : BitVec 64) : (Utils.encodeUint64LE value).length = 8 :=
  length_littleEndian ..

theorem mem_changeOutputs {change : BitVec 64} {script : Bytes}
    {output : BitcoinVmTransactionDataOutput} (listed : output ∈ changeOutputs change script) :
    output = ⟨Utils.encodeUint64LE change, script⟩ := by
  rw [changeOutputs] at listed
  split at listed
  · exact List.mem_singleton.mp listed
  · cases listed

section Built

variable {keccak256 : Bytes → Bytes32} {builder : BitcoinVmPayloadBuilder}
variable {chainId depository : Bytes} {params : BuildPayloadParams}
variable {txData : BitcoinVmTransactionData}

/-- The parts that a built transaction is made of, and what was checked of them. -/
structure Parts (keccak256 : Bytes → Bytes32) (builder : BitcoinVmPayloadBuilder)
    (chainId depository : Bytes) (params : BuildPayloadParams)
    (txData : BitcoinVmTransactionData) (bitcoinParams : BitcoinVmTransactionParams)
    (receiverScript : Bytes) (allocatorChange feeChange : BitVec 64) : Prop where
  decoded : Abi.decodeAs BitcoinVmTransactionParams.type BitcoinVmTransactionParams.ofValue
    params.data = some bitcoinParams
  receiver : protocolAddressToScript params.receiver = .ok receiverScript
  feeChangeScript : isStandardOutputScript bitcoinParams.feeChangeScript = true
  isAllocatorChange : computeAllocatorChange params.amount bitcoinParams.allocatorUtxos
    builder.allocatorChangeScript = .ok allocatorChange
  feeUtxos : ∀ utxo ∈ bitcoinParams.feeUtxos, isStandardOutputScript utxo.scriptPubKey = true ∧
    utxo.scriptPubKey ≠ builder.allocatorChangeScript
  isFeeChange : computeFeeChange bitcoinParams allocatorChange receiverScript
    (buildIdentifierScript keccak256 builder chainId depository params)
    builder.allocatorChangeScript bitcoinParams.feeChangeScript = .ok feeChange
  inputs : txData.inputs = buildInputs bitcoinParams.allocatorUtxos bitcoinParams.feeUtxos
  outputs : txData.outputs = [⟨Utils.encodeUint64LE (params.amount.setWidth 64), receiverScript⟩,
      ⟨Utils.encodeUint64LE 0,
        buildIdentifierScript keccak256 builder chainId depository params⟩] ++
    changeOutputs allocatorChange builder.allocatorChangeScript ++
    changeOutputs feeChange bitcoinParams.feeChangeScript

theorem buildTransaction_ok
    (ok : buildTransaction keccak256 builder chainId depository params = .ok txData) :
    ∃ bitcoinParams receiverScript allocatorChange feeChange,
      Parts keccak256 builder chainId depository params txData bitcoinParams receiverScript
        allocatorChange feeChange := by
  simp only [buildTransaction, validateStandardOutputScript, buildOutputs, bind_eq_ok,
    orRevert_eq_ok, require_eq_ok, pure_eq_ok] at ok
  obtain ⟨bitcoinParams, decoded, receiverScript, receiver, _, standard, allocatorChange,
    isAllocatorChange, _, feeUtxos, feeChange, isFeeChange, _, ⟨_, _, rfl⟩, rfl⟩ := ok
  exact ⟨bitcoinParams, receiverScript, allocatorChange, feeChange, decoded, receiver, standard,
    isAllocatorChange, validateFeeUtxos_ok feeUtxos, isFeeChange, rfl, rfl⟩

section Parts

variable {bitcoinParams : BitcoinVmTransactionParams} {receiverScript : Bytes}
variable {allocatorChange feeChange : BitVec 64}
variable (parts : Parts keccak256 builder chainId depository params txData bitcoinParams
  receiverScript allocatorChange feeChange)

include parts

theorem Parts.exists_utxo {input : BitcoinVmTransactionDataInput}
    (listed : input ∈ txData.inputs) :
    ∃ utxo, input = buildInput utxo ∧ utxo.scriptPubKey.length ≤ 42 := by
  rw [parts.inputs, buildInputs] at listed
  rcases List.mem_append.mp listed with listed | listed
  · obtain ⟨utxo, isUtxo, rfl⟩ := List.mem_map.mp listed
    obtain ⟨_, _, _, scripts⟩ := computeAllocatorChange_ok parts.isAllocatorChange
    refine ⟨utxo, rfl, ?_⟩
    rw [scripts utxo isUtxo, length_of_isP2wpkhScript builder.isP2wpkh]
    decide
  · obtain ⟨utxo, isUtxo, rfl⟩ := List.mem_map.mp listed
    exact ⟨utxo, rfl, length_le_of_isStandardOutputScript (parts.feeUtxos utxo isUtxo).1⟩

theorem Parts.exists_value {output : BitcoinVmTransactionDataOutput}
    (listed : output ∈ txData.outputs) :
    ∃ value, output.value = Utils.encodeUint64LE value ∧ output.script.length ≤ 42 := by
  rw [parts.outputs, List.mem_append, List.mem_append, List.mem_pair] at listed
  rcases listed with ((rfl | rfl) | listed) | listed
  · exact ⟨_, rfl, length_le_of_protocolAddressToScript parts.receiver⟩
  · refine ⟨_, rfl, ?_⟩
    simp [buildIdentifierScript, Abi.word]
  · cases mem_changeOutputs listed
    refine ⟨_, rfl, ?_⟩
    rw [length_of_isP2wpkhScript builder.isP2wpkh]
    decide
  · cases mem_changeOutputs listed
    exact ⟨_, rfl, length_le_of_isStandardOutputScript parts.feeChangeScript⟩

theorem Parts.short : txData.Short where
  inputs := by
    intro input listed
    obtain ⟨utxo, rfl, script⟩ := parts.exists_utxo listed
    simp [buildInput, Utils.encodeUint32LE, Utils.encodeUint64LE, Abi.word, script]
  outputs := by
    intro output listed
    obtain ⟨value, isValue, script⟩ := parts.exists_value listed
    simp [isValue, Utils.encodeUint64LE, script]
  inputCount := by
    obtain ⟨allocator, fee⟩ := length_lt_of_decodeAs parts.decoded
    rw [parts.inputs, buildInputs, List.length_append, List.length_map, List.length_map]
    omega
  outputCount := by
    have single : ∀ change script, (changeOutputs change script).length ≤ 1 := by
      intro change script
      rw [changeOutputs]
      split <;> simp
    have allocator := single allocatorChange builder.allocatorChangeScript
    have fee := single feeChange bitcoinParams.feeChangeScript
    rw [parts.outputs, List.length_append, List.length_append]
    simp only [List.length_cons, List.length_nil]
    omega

theorem Parts.conserves : ∃ fee,
    Conserves builder params bitcoinParams txData receiverScript
      (identifier keccak256 builder chainId depository params) allocatorChange.toNat
      feeChange.toNat fee := by
  obtain ⟨allocator, allocatorWithin, allocatorDust, scripts⟩ :=
    computeAllocatorChange_ok parts.isAllocatorChange
  obtain ⟨feeWithin, feeDust, vsize, isVsize, fees⟩ := computeFeeChange_ok parts.isFeeChange
  refine ⟨bitcoinParams.feeRate.toNat * vsize, parts.receiver,
    paysTo_of_protocolAddressToScript parts.receiver, ?_, ?_, ⟨?_, ?_⟩, scripts,
    fun utxo listed => (parts.feeUtxos utxo listed).2, allocator, fees,
    ⟨allocatorDust, feeDust⟩, ⟨vsize, ?_, rfl⟩, allocatorWithin, feeWithin⟩
  · rw [parts.inputs, buildInputs, List.map_append, coins_buildInput, coins_buildInput]
  · have amount : (params.amount.setWidth 64).toNat = params.amount.toNat := by
      rw [BitVec.toNat_setWidth, Nat.mod_eq_of_lt (by omega)]
    rw [parts.outputs, List.map_append, List.map_append, coin_changeOutputs, coin_changeOutputs]
    simp only [List.map_cons, List.map_nil, BitcoinVmTransactionDataOutput.coin,
      readLittleEndian_encodeUint64LE, amount]
    rfl
  · intro input listed
    obtain ⟨utxo, rfl, _⟩ := parts.exists_utxo listed
    exact length_encodeUint64LE utxo.value
  · intro output listed
    obtain ⟨value, isValue, _⟩ := parts.exists_value listed
    rw [isValue, length_encodeUint64LE]
  · have scripts : txData.outputs.map BitcoinVmTransactionDataOutput.script =
        baseOutputScripts allocatorChange receiverScript
          (buildIdentifierScript keccak256 builder chainId depository params)
          builder.allocatorChangeScript ++
          if 0 < feeChange then [bitcoinParams.feeChangeScript] else [] := by
      rw [parts.outputs, List.map_append, List.map_append, script_changeOutputs,
        script_changeOutputs]
      rfl
    rw [scripts]
    exact isVsize

end Parts

theorem buildPayload_ok {payload : Bytes}
    (ok : buildPayload keccak256 builder chainId depository params = .ok payload) :
    ∃ txData bitcoinParams receiverScript allocatorChange feeChange,
      Abi.readAs BitcoinVmTransactionData.type BitcoinVmTransactionData.ofValue payload =
        some txData ∧
      Parts keccak256 builder chainId depository params txData bitcoinParams receiverScript
        allocatorChange feeChange := by
  obtain ⟨txData, isBuilt, isPayload⟩ := bind_eq_ok.mp ok
  cases isPayload
  obtain ⟨bitcoinParams, receiverScript, allocatorChange, feeChange, parts⟩ :=
    buildTransaction_ok isBuilt
  exact ⟨txData, bitcoinParams, receiverScript, allocatorChange, feeChange,
    BitcoinVmTransactionData.readAs_encode parts.short, parts⟩

/-- A payload pays satoshis for the amount. -/
theorem exists_paid {sha256 : Bytes → Bytes32} {chain : HubChain} {payload : Bytes}
    (built : (builder.views keccak256 sha256).buildPayload chain chainId depository params =
      some payload) :
    ∃ txData receiverScript,
      Abi.readAs BitcoinVmTransactionData.type BitcoinVmTransactionData.ofValue payload =
        some txData ∧
      txData.outputs[0]?.map BitcoinVmTransactionDataOutput.coin =
        some (params.amount.toNat, receiverScript) := by
  obtain ⟨txData, _, receiverScript, _, _, read, parts⟩  :=
    buildPayload_ok (toOption_eq_some.mp built)
  obtain ⟨fee, conserves⟩ := parts.conserves
  refine ⟨txData, receiverScript, read, ?_⟩
  rw [← List.getElem?_map, conserves.outputs]
  rfl

end Built

end BitcoinVmPayloadBuilder

open BitcoinVmPayloadBuilder in
/-- Every built transaction conserves value.  Decoding it gives back inputs and outputs for
which all amounts add up: what is not an output is the fee. -/
theorem bitcoin_value_conserved (keccak256 : Bytes → Bytes32) (builder : BitcoinVmPayloadBuilder)
    (chainId depository : Bytes) (params : BuildPayloadParams) (payload : Bytes)
    (built : buildPayload keccak256 builder chainId depository params = .ok payload) :
    ∃ bitcoinParams txData receiverScript identifier allocatorChange feeChange fee,
      Abi.decodeAs BitcoinVmTransactionParams.type BitcoinVmTransactionParams.ofValue
        params.data = some bitcoinParams ∧
      Abi.readAs BitcoinVmTransactionData.type BitcoinVmTransactionData.ofValue payload =
        some txData ∧
      Conserves builder params bitcoinParams txData receiverScript identifier allocatorChange
        feeChange fee ∧
      Coin.total (txData.inputs.map BitcoinVmTransactionDataInput.coin) =
        Coin.total (txData.outputs.map BitcoinVmTransactionDataOutput.coin) + fee := by
  obtain ⟨txData, bitcoinParams, receiverScript, allocatorChange, feeChange, read, parts⟩ :=
    buildPayload_ok built
  obtain ⟨fee, conserves⟩ := parts.conserves
  exact ⟨bitcoinParams, txData, receiverScript, _, _, _, fee, parts.decoded, read, conserves,
    conserves.total⟩

/-! A withdrawal of 600 satoshis with both changes. -/

namespace SampleBitcoin

open BitcoinVmPayloadBuilder SampleAllocator

def allocatorScript : Bytes := [0x00, 0x14] ++ List.replicate 20 1

def feeScript : Bytes := [0x00, 0x14] ++ List.replicate 20 2

def builder : BitcoinVmPayloadBuilder := ⟨22, allocatorScript, by decide⟩

/-- An output with an index, a value and a script. -/
def utxo (index value : U256) (script : Bytes) : Abi.Value :=
  .tuple [.word 7, .word index, .word value, .bytes script]

def params (currency : Bytes) (feeUtxos : List Abi.Value) (feeRate : U256) : WithdrawRequest :=
  { SampleRequests.params with
    currency := currency
    amount := 600
    receiver := 0x00 :: List.replicate 20 3
    data := Abi.encode [.tuple [.array [utxo 0 100000 allocatorScript], .array feeUtxos,
      .bytes feeScript, .word feeRate]] }

/-- With a fee of 2 satoshis for each byte. -/
def paidParams : BuildPayloadParams :=
  Allocator.buildParams (params [9] [utxo 1 5000 feeScript] 2)

/-- Without a fee. -/
def freeParams (currency : Bytes) : WithdrawRequest := params currency [] 0

theorem isSome_buildPayload :
    (buildPayload Abi.sampleHash builder [1] [2] paidParams).toOption.isSome := by
  decide +kernel

end SampleBitcoin

open SampleBitcoin BitcoinVmPayloadBuilder in
theorem bitcoin_value_conserved_sample :
    ∃ payload txData fee,
      buildPayload Abi.sampleHash builder [1] [2] paidParams = .ok payload ∧
      Abi.readAs BitcoinVmTransactionData.type BitcoinVmTransactionData.ofValue payload =
        some txData ∧
      Coin.total (txData.inputs.map BitcoinVmTransactionDataInput.coin) =
        Coin.total (txData.outputs.map BitcoinVmTransactionDataOutput.coin) + fee := by
  obtain ⟨payload, built⟩ := exists_ok isSome_buildPayload
  obtain ⟨_, txData, _, _, _, _, fee, _, read, _, total⟩ :=
    bitcoin_value_conserved Abi.sampleHash builder [1] [2] _ payload built
  exact ⟨payload, txData, fee, built, read, total⟩

/-! ## Tokens -/

open BitcoinVmPayloadBuilder in
/-- Accepted requests of one chain pay satoshis, and burn the same token exactly if they carry
the same bytes as their currency. -/
theorem bitcoin_tokens_are_currencies {χ : Type} (env : AllocatorEnv χ)
    (sha256 : Bytes → Bytes32) (chainOf : χ → HubChain) (address : Address)
    (builder : BitcoinVmPayloadBuilder)
    (deployed : env.Deployed chainOf address (builder.views env.hub.keccak256 sha256))
    (start : AllocatorWorld) (calls : List (AllocatorSystemCall χ))
    (success success' : Transition AllocatorWorld (AllocatorSystemCall χ)) (ctx ctx' : Ctx χ)
    (params params' : WithdrawRequest)
    (accepted : AllocatorWorld.AcceptedThrough env start calls address success ctx params)
    (accepted' : AllocatorWorld.AcceptedThrough env start calls address success' ctx' params')
    (sameChain : params'.chainId = params.chainId)
    (noCollision : Abi.NoCollision env.hub.keccak256
      [params.chainId ++ params.currency, params.chainId ++ params'.currency]) :
    let final := run (AllocatorWorld.step env) calls start
    ∃ txData txData' receiverScript receiverScript',
      Abi.readAs BitcoinVmTransactionData.type BitcoinVmTransactionData.ofValue
        (final.allocator.payloads (Allocator.withdrawRequestHash env params)) = some txData ∧
      Abi.readAs BitcoinVmTransactionData.type BitcoinVmTransactionData.ofValue
        (final.allocator.payloads (Allocator.withdrawRequestHash env params')) =
          some txData' ∧
      txData.outputs[0]?.map BitcoinVmTransactionDataOutput.coin =
        some (params.amount.toNat, receiverScript) ∧
      txData'.outputs[0]?.map BitcoinVmTransactionDataOutput.coin =
        some (params'.amount.toNat, receiverScript') ∧
      success.pre.hub.burn ⟨env.self, ctx.timestamp⟩ (Allocator.spenderAlias env params)
        (Allocator.tokenId env params) params.amount = .ok success.post.hub ∧
      success'.pre.hub.burn ⟨env.self, ctx'.timestamp⟩ (Allocator.spenderAlias env params')
        (Allocator.tokenId env params') params'.amount = .ok success'.post.hub ∧
      (Allocator.tokenId env params = Allocator.tokenId env params' ↔
        params.currency = params'.currency) := by
  intro final
  obtain ⟨_, delivers⟩ := accepted.delivers deployed
  obtain ⟨_, delivers'⟩ := accepted'.delivers deployed
  obtain ⟨txData, receiverScript, read, paid⟩ := exists_paid delivers.built
  obtain ⟨txData', receiverScript', read', paid'⟩ := exists_paid delivers'.built
  refine ⟨txData, txData', receiverScript, receiverScript', read, read', paid, paid',
    delivers.burned, delivers'.burned, ?_⟩
  rw [Allocator.tokenId, Allocator.tokenId, sameChain]
  exact Utils.generateTokenId_eq_iff_of_chainId noCollision

namespace SampleBitcoin

open SampleAllocator

def views : BuilderViews := builder.views Abi.sampleHash Abi.sampleHash

def chain : HubChain := ⟨3, 1000, fun _ _ => none, fun _ _ => 0⟩

def submissions : List (HubChain × WithdrawRequest) :=
  [(chain, freeParams [8]), (chain, freeParams [9])]

theorem accepted_params :
    accepted views submissions = [(freeParams [8], 20), (freeParams [9], 20)] := by
  decide +kernel

end SampleBitcoin

open SampleBitcoin SampleAllocator in
theorem bitcoin_tokens_are_currencies_sample :
    Allocator.tokenId (surroundings views) (freeParams [8]) =
        Allocator.tokenId (surroundings views) (freeParams [9]) ↔
      (freeParams [8]).currency = (freeParams [9]).currency := by
  obtain ⟨success, _, _, accepted⟩ := exists_accepted accepted_params (List.mem_cons_self ..)
  obtain ⟨success', _, _, accepted'⟩ := exists_accepted accepted_params
    (List.mem_cons_of_mem _ (List.mem_cons_self ..))
  obtain ⟨_, _, _, _, _, _, _, _, _, _, tokens⟩ := bitcoin_tokens_are_currencies
    (surroundings views) Abi.sampleHash id 20 builder (deployed views) start
    (calls submissions) success success' _ _ (freeParams [8]) (freeParams [9]) accepted accepted'
    rfl (by decide +kernel)
  exact tokens

open SampleBitcoin SampleAllocator in
/-- Two withdrawals of satoshis that burn two tokens. -/
theorem bitcoin_burns_any_token :
    ∃ success ctx success' ctx' txData txData' receiverScript receiverScript',
      AllocatorWorld.AcceptedThrough (surroundings views) start (calls submissions) 20 success
        ctx (freeParams [8]) ∧
      AllocatorWorld.AcceptedThrough (surroundings views) start (calls submissions) 20 success'
        ctx' (freeParams [9]) ∧
      Abi.NoCollision Abi.sampleHash [[1] ++ [8], [1] ++ [9]] ∧
      Abi.readAs BitcoinVmTransactionData.type BitcoinVmTransactionData.ofValue
        (payloadOf views submissions (freeParams [8])) = some txData ∧
      Abi.readAs BitcoinVmTransactionData.type BitcoinVmTransactionData.ofValue
        (payloadOf views submissions (freeParams [9])) = some txData' ∧
      txData.outputs[0]?.map BitcoinVmTransactionDataOutput.coin = some (600, receiverScript) ∧
      txData'.outputs[0]?.map BitcoinVmTransactionDataOutput.coin =
        some (600, receiverScript') ∧
      Allocator.tokenId (surroundings views) (freeParams [8]) ≠
        Allocator.tokenId (surroundings views) (freeParams [9]) := by
  obtain ⟨success, _, _, accepted⟩ := exists_accepted accepted_params (List.mem_cons_self ..)
  obtain ⟨success', _, _, accepted'⟩ := exists_accepted accepted_params
    (List.mem_cons_of_mem _ (List.mem_cons_self ..))
  obtain ⟨_, delivers⟩ := accepted.delivers (deployed views)
  obtain ⟨_, delivers'⟩ := accepted'.delivers (deployed views)
  obtain ⟨txData, receiverScript, read, paid⟩ :=
    BitcoinVmPayloadBuilder.exists_paid delivers.built
  obtain ⟨txData', receiverScript', read', paid'⟩ :=
    BitcoinVmPayloadBuilder.exists_paid delivers'.built
  exact ⟨success, _, success', _, txData, txData', receiverScript, receiverScript', accepted,
    accepted', by decide +kernel, read, read', paid, paid', by decide +kernel⟩

end RelaySettlement
