import RelaySettlement.Evm.Bitcoin
import RelaySettlement.Evm.Calldata
import RelaySettlement.LitDepositAddress.BitcoinVm

/-!
# Deposits in Bitcoin transactions

The parser of the deriver reads the standard forms of transactions, and the digests that it accepts
are those of BIP-143 for the transaction it has parsed.  The policy then says where the value of the
transaction goes.
-/

open Evm

namespace RelaySettlement.LitDepositAddress

open Js

namespace BitcoinVm

/-! ## Writing numbers -/

theorem u32le_eq (n : ℕ) : u32le n = littleEndian 4 n := by
  rw [u32le, littleEndian]
  apply List.map_congr_left
  intro i _
  rw [Abi.ofNat_and_ff, Nat.shiftRight_eq_div_pow, Nat.pow_mul]

theorem u64le_natCast (n : ℕ) : u64le n = littleEndian 8 n := by
  rw [u64le, littleEndian]
  apply List.map_congr_left
  intro i _
  have byte : (n : ℤ) >>> (8 * i : ℕ) % 256 = ((n / 256 ^ i % 256 : ℕ) : ℤ) := by
    rw [Int.shiftRight_eq_div_pow, Nat.pow_mul]
    norm_cast
  rw [byte, Int.toNat_natCast, ← UInt8.toNat_inj, UInt8.toNat_ofNat', UInt8.toNat_ofNat',
    Nat.mod_mod]

/-- A number counts modulo 2^64. -/
theorem u64le_eq (n : ℤ) : u64le n = littleEndian 8 (BitVec.ofInt 64 n).toNat := by
  have low : ((BitVec.ofInt 64 n).toNat : ℤ) = n % 2 ^ 64 := by
    rw [BitVec.toNat_ofInt]
    exact Int.toNat_of_nonneg (Int.emod_nonneg n (by decide))
  rw [← u64le_natCast, low, u64le, u64le]
  apply List.map_congr_left
  intro i below
  have few := List.mem_range.mp below
  have byte : n >>> (8 * i : ℕ) % (256 : ℤ) = (n % 2 ^ 64) >>> (8 * i : ℕ) % (256 : ℤ) := by
    rw [Int.shiftRight_eq_div_pow, Int.shiftRight_eq_div_pow]
    interval_cases i <;> omega
  rw [byte]

theorem varInt_eq (n : ℕ) : varInt n = Bitcoin.compactSize n := by
  have two : [UInt8.ofNat (n &&& 0xff), UInt8.ofNat ((n >>> 8) &&& 0xff)] = littleEndian 2 n := by
    rw [Abi.ofNat_and_ff, Abi.ofNat_and_ff, Nat.shiftRight_eq_div_pow, littleEndian_succ,
      littleEndian_succ]
    rfl
  rw [varInt, Bitcoin.compactSize, two, u32le_eq, u64le_natCast]
  simp [Nat.lt_succ_iff.symm]

/-! ## Reading what is written -/

section Run

variable (rest : Bytes)

/-- A little-endian number of some width. -/
theorem run_number {width n : ℕ} (fits : n < 256 ^ width) :
    (do return bytesToNumberLE (← Reader.bytes width) : Reader ℕ).run
      (littleEndian width n ++ rest) = some (n, rest) := by
  have read := Reader.run_bytes (littleEndian width n) rest
  rw [length_littleEndian] at read
  rw [run_bind_of read, bytesToNumberLE_eq, readLittleEndian_littleEndian, Nat.mod_eq_of_lt fits]
  rfl

theorem run_readU32 (value : BitVec 32) :
    readU32.run (Bitcoin.uint32 value ++ rest) = some (value.toNat, rest) :=
  run_number rest value.isLt

theorem run_readU64 (value : BitVec 64) :
    readU64.run (Bitcoin.uint64 value ++ rest) = some (value.toNat, rest) :=
  run_number rest value.isLt

theorem run_readU8 (byte : UInt8) : readU8.run (byte :: rest) = some (byte.toNat, rest) := rfl

theorem run_readVarInt {n : ℕ} (safe : n < 2 ^ 53) :
    readVarInt.run (Bitcoin.compactSize n ++ rest) = some (n, rest) := by
  rw [Bitcoin.compactSize]
  split
  next small =>
    have byte : (UInt8.ofNat n).toNat = n := by
      rw [UInt8.toNat_ofNat', Nat.mod_eq_of_lt (by omega)]
    rw [List.singleton_append, readVarInt, run_bind_of (run_readU8 _ _), byte, if_pos small]
    rfl
  next =>
    split
    next two =>
      rw [List.cons_append, readVarInt, run_bind_of (run_readU8 _ _), if_neg (by decide),
        if_pos (by decide)]
      exact run_number rest two
    next =>
      split
      next four =>
        rw [List.cons_append, readVarInt, run_bind_of (run_readU8 _ _), if_neg (by decide),
          if_neg (by decide), if_pos (by decide)]
        exact run_number rest four
      next =>
        have read : readU64.run (littleEndian 8 n ++ rest) = some (n, rest) :=
          run_number rest (by omega)
        rw [List.cons_append, readVarInt, run_bind_of (run_readU8 _ _), if_neg (by decide),
          if_neg (by decide), if_neg (by decide), run_bind_of read,
          if_pos (by rw [maxSafeInteger]; omega)]
        rfl

theorem run_script {bytes : Bytes} (safe : bytes.length < 2 ^ 53) :
    (do Reader.bytes (← readVarInt) : Reader Bytes).run (Bitcoin.script bytes ++ rest) =
      some (bytes, rest) := by
  rw [Bitcoin.script, List.append_assoc, run_bind_of (run_readVarInt _ safe)]
  exact Reader.run_bytes bytes rest

end Run

/-! ## Transactions -/

open Bitcoin (TxIn TxOut Transaction)

/-- What the parser keeps of an input. -/
def parsedInput (input : TxIn) : TxInput :=
  ⟨Abi.word input.txid, input.index.toNat, input.sequence.toNat⟩

def parsedOutput (output : TxOut) : TxOutput := ⟨output.value.toNat, output.script⟩

def parsedTx (tx : Transaction) : ParsedTx where
  version := tx.version.toNat
  inputs := tx.inputs.map parsedInput
  outputs := tx.outputs.map parsedOutput
  locktime := tx.locktime.toNat

/-- A transaction with inputs and outputs, which arrays and texts can hold.  The limit of Bitcoin
for lists and scripts, 2^25, is lower. -/
structure Readable (tx : Transaction) : Prop where
  someInput : tx.inputs ≠ []
  someOutput : tx.outputs ≠ []
  inputs : tx.inputs.length < 2 ^ 32
  outputs : tx.outputs.length < 2 ^ 32
  inputScripts : ∀ input ∈ tx.inputs, input.script.length < 2 ^ 53
  outputScripts : ∀ output ∈ tx.outputs, output.script.length < 2 ^ 53

theorem run_readInput {input : TxIn} (safe : input.script.length < 2 ^ 53) (rest : Bytes) :
    readInput.run (input.serialize ++ rest) = some (parsedInput input, rest) := by
  have txid := Reader.run_bytes (Abi.word input.txid)
  rw [Abi.length_word] at txid
  have script := run_script (Bitcoin.uint32 input.sequence ++ rest) safe
  have nested : readInput = (do
      let txid ← Reader.bytes 32
      let index ← readU32
      let _ ← (do Reader.bytes (← readVarInt))
      let sequence ← readU32
      return ⟨txid, index, sequence⟩) := by
    simp only [readInput, bind_assoc]
  rw [nested, TxIn.serialize, TxIn.outpoint, List.append_assoc, List.append_assoc,
    List.append_assoc, run_bind_of (txid _), run_bind_of (run_readU32 _ _), run_bind_of script,
    run_bind_of (run_readU32 _ _)]
  rfl

theorem run_readOutput {output : TxOut} (safe : output.script.length < 2 ^ 53) (rest : Bytes) :
    readOutput.run (output.serialize ++ rest) = some (parsedOutput output, rest) := by
  have nested : readOutput = (do
      let value ← readU64
      let script ← (do Reader.bytes (← readVarInt))
      return ⟨value, script⟩) := by
    simp [readOutput]
  rw [nested, TxOut.serialize, List.append_assoc, run_bind_of (run_readU64 _ _),
    run_bind_of (run_script _ safe)]
  rfl

theorem run_arrayFrom {α β : Type} {reader : Reader β} {encode : α → Bytes} {image : α → β}
    {values : List α} (few : values.length < 2 ^ 32)
    (reads : ∀ value ∈ values, ∀ rest,
      reader.run (encode value ++ rest) = some (image value, rest)) (rest : Bytes) :
    (arrayFrom values.length reader).run (values.flatMap encode ++ rest) =
      some (values.map image, rest) := by
  rw [arrayFrom, if_pos few]
  exact Reader.run_replicate_map reads rest

theorem run_witnesses (tx : Transaction) (rest : Bytes) :
    (readWitness.replicate tx.inputs.length).run
      (tx.inputs.flatMap (fun _ => Bitcoin.compactSize 0) ++ rest) =
        some (tx.inputs.map fun _ => (), rest) :=
  Reader.run_replicate_map (fun _ _ _ => rfl) rest

section Parse

variable {tx : Transaction} (readable : Readable tx)

include readable

theorem run_readInputs (rest : Bytes) :
    (arrayFrom tx.inputs.length readInput).run (tx.inputs.flatMap TxIn.serialize ++ rest) =
      some (tx.inputs.map parsedInput, rest) :=
  run_arrayFrom readable.inputs
    (fun input listed => run_readInput (readable.inputScripts input listed)) rest

theorem run_readOutputs (rest : Bytes) :
    (arrayFrom tx.outputs.length readOutput).run (tx.outputs.flatMap TxOut.serialize ++ rest) =
      some (tx.outputs.map parsedOutput, rest) :=
  run_arrayFrom readable.outputs
    (fun output listed => run_readOutput (readable.outputScripts output listed)) rest

theorem length_inputs : tx.inputs.length ≠ 0 ∧ tx.inputs.length < 2 ^ 53 :=
  ⟨fun none => readable.someInput (List.length_eq_zero_iff.mp none),
    Nat.lt_trans readable.inputs (by decide)⟩

theorem length_outputs : tx.outputs.length ≠ 0 ∧ tx.outputs.length < 2 ^ 53 :=
  ⟨fun none => readable.someOutput (List.length_eq_zero_iff.mp none),
    Nat.lt_trans readable.outputs (by decide)⟩

/-- A transaction is read back, with or without a marker before the inputs and witnesses behind the
outputs. -/
theorem run_readTx {counted witnesses : Bytes} {hasWitness : Bool} {units : List Unit}
    (count : ∀ rest, readInputCount.run (counted ++ rest) =
      some ((tx.inputs.length, hasWitness), rest))
    (empty : ∀ rest, (readWitness.replicate (if hasWitness then tx.inputs.length else 0)).run
      (witnesses ++ rest) = some (units, rest)) :
    readTx.run (Bitcoin.uint32 tx.version ++ (counted ++ (tx.inputs.flatMap TxIn.serialize ++
      (Bitcoin.compactSize tx.outputs.length ++ (tx.outputs.flatMap TxOut.serialize ++
        (witnesses ++ Bitcoin.uint32 tx.locktime)))))) = some (parsedTx tx, []) := by
  obtain ⟨someInput, _⟩ := length_inputs readable
  obtain ⟨someOutput, outputs⟩ := length_outputs readable
  have locktime := run_readU32 [] tx.locktime
  rw [List.append_nil] at locktime
  rw [readTx, run_bind_of (run_readU32 _ _), run_bind_of (count _)]
  simp only [if_neg someInput]
  rw [run_bind_of (run_readInputs readable _), run_bind_of (run_readVarInt _ outputs),
    if_neg someOutput, run_bind_of (run_readOutputs readable _), run_bind_of (empty _),
    run_bind_of locktime]
  rfl

theorem run_readTx_legacy : readTx.run tx.serializeLegacy = some (parsedTx tx, []) := by
  obtain ⟨someInput, inputs⟩ := length_inputs readable
  refine @run_readTx tx readable (Bitcoin.compactSize tx.inputs.length) [] false [] ?_ ?_
  · intro rest
    rw [readInputCount, run_bind_of (run_readVarInt _ inputs), if_neg someInput]
    rfl
  · intro rest
    rfl

theorem run_readTx_segwit : readTx.run tx.serializeSegwit = some (parsedTx tx, []) := by
  obtain ⟨_, inputs⟩ := length_inputs readable
  refine @run_readTx tx readable (0 :: 1 :: Bitcoin.compactSize tx.inputs.length) _ true
    (tx.inputs.map fun _ => ()) ?_ ?_
  · intro rest
    change ((do return (← readVarInt, true)) : Reader (ℕ × Bool)).run
      (Bitcoin.compactSize tx.inputs.length ++ rest) = _
    rw [run_bind_of (run_readVarInt _ inputs)]
    rfl
  · exact run_witnesses tx

end Parse

theorem parseTx_eq {tx : Transaction} (readable : Readable tx) {rawHex : Bytes}
    (isRaw : hexToBytes rawHex = some tx.serializeLegacy ∨
      hexToBytes rawHex = some tx.serializeSegwit) :
    parseTx rawHex = some (parsedTx tx) := by
  rw [parseTx]
  rcases isRaw with isRaw | isRaw
  · rw [isRaw, some_bind, Reader.whole, run_readTx_legacy readable]
  · rw [isRaw, some_bind, Reader.whole, run_readTx_segwit readable]

/-! ## Parsed transactions -/

/-- The numbers of a parsed transaction have the widths of their fields. -/
structure ParsedTx.Bounded (tx : ParsedTx) : Prop where
  version : tx.version < 2 ^ 32
  locktime : tx.locktime < 2 ^ 32
  inputs : ∀ input ∈ tx.inputs,
    input.txid.length = 32 ∧ input.index < 2 ^ 32 ∧ input.sequence < 2 ^ 32
  outputs : ∀ output ∈ tx.outputs, output.value < 2 ^ 64

theorem ensures_number (width : ℕ) :
    (do return bytesToNumberLE (← Reader.bytes width) : Reader ℕ).Ensures fun n =>
      n < 256 ^ width := by
  refine (Reader.ensures_bytes width).bind fun data length => .pure ?_
  rw [bytesToNumberLE_eq, ← length]
  exact readLittleEndian_lt data

theorem ensures_arrayFrom {α : Type} {reader : Reader α} {property : α → Prop}
    (each : reader.Ensures property) (length : ℕ) :
    (arrayFrom length reader).Ensures fun values => ∀ value ∈ values, property value := by
  rw [arrayFrom]
  split
  next => exact each.replicate length
  next => exact .failure

theorem ensures_readInput : readInput.Ensures fun input =>
    input.txid.length = 32 ∧ input.index < 2 ^ 32 ∧ input.sequence < 2 ^ 32 :=
  (Reader.ensures_bytes 32).bind fun _ txid => (ensures_number 4).bind fun _ index =>
    (Reader.Ensures.trivial _).bind fun _ _ => (Reader.Ensures.trivial _).bind fun _ _ =>
      (ensures_number 4).bind fun _ sequence => .pure ⟨txid, index, sequence⟩

theorem ensures_readOutput : readOutput.Ensures fun output => output.value < 2 ^ 64 :=
  (ensures_number 8).bind fun _ value => (Reader.Ensures.trivial _).bind fun _ _ =>
    (Reader.Ensures.trivial _).bind fun _ _ => .pure value

theorem ensures_readTx : readTx.Ensures ParsedTx.Bounded := by
  refine (ensures_number 4).bind fun version isVersion => ?_
  refine (Reader.Ensures.trivial _).bind fun counted _ => ?_
  dsimp only
  split
  next => exact .failure
  next =>
    refine (ensures_arrayFrom ensures_readInput _).bind fun inputs areInputs => ?_
    refine (Reader.Ensures.trivial _).bind fun outputCount _ => ?_
    split
    next => exact .failure
    next =>
      exact (ensures_arrayFrom ensures_readOutput _).bind fun outputs areOutputs =>
        (Reader.Ensures.trivial _).bind fun _ _ => (ensures_number 4).bind fun _ isLocktime =>
          .pure ⟨isVersion, isLocktime, areInputs, areOutputs⟩

/-- A transaction input with what was parsed of it, and an empty script. -/
def unparsedInput (input : TxInput) : TxIn :=
  ⟨BitVec.ofNat 256 (Abi.readBigEndian input.txid), BitVec.ofNat 32 input.index, [],
    BitVec.ofNat 32 input.sequence⟩

def unparsedOutput (output : TxOutput) : TxOut :=
  ⟨BitVec.ofNat 64 output.value, output.script⟩

theorem toNat_ofNat_of_lt {width n : ℕ} (small : n < 2 ^ width) :
    (BitVec.ofNat width n).toNat = n := by
  rw [BitVec.toNat_ofNat, Nat.mod_eq_of_lt small]

/-- What was parsed is a transaction. -/
theorem exists_parsedTx {rawHex : Bytes} {tx : ParsedTx} (parsed : parseTx rawHex = some tx) :
    ∃ T : Transaction, parsedTx T = tx := by
  obtain ⟨data, _, read⟩ := bind_eq_some.mp parsed
  have bounded : tx.Bounded := by
    rw [Reader.whole] at read
    split at read
    next value run =>
      cases read
      exact ensures_readTx run
    next => cases read
  have inputs : (tx.inputs.map unparsedInput).map parsedInput = tx.inputs := by
    rw [List.map_map]
    refine (List.map_congr_left ?_).trans (List.map_id _)
    intro input listed
    obtain ⟨length, index, sequence⟩ := bounded.inputs input listed
    rw [Function.comp_apply, unparsedInput, parsedInput, Abi.word_readBigEndian length,
      toNat_ofNat_of_lt index, toNat_ofNat_of_lt sequence, id_eq]
  have outputs : (tx.outputs.map unparsedOutput).map parsedOutput = tx.outputs := by
    rw [List.map_map]
    refine (List.map_congr_left ?_).trans (List.map_id _)
    intro output listed
    rw [Function.comp_apply, unparsedOutput, parsedOutput,
      toNat_ofNat_of_lt (bounded.outputs output listed), id_eq]
  refine ⟨⟨BitVec.ofNat 32 tx.version, tx.inputs.map unparsedInput, tx.outputs.map unparsedOutput,
    BitVec.ofNat 32 tx.locktime⟩, ?_⟩
  rw [parsedTx, inputs, outputs, toNat_ofNat_of_lt bounded.version,
    toNat_ofNat_of_lt bounded.locktime]

/-! ## Digests of transactions -/

theorem outpoint_parsed (input : TxIn) : (parsedInput input).outpoint = input.outpoint := by
  rw [TxInput.outpoint, u32le_eq]
  rfl

theorem output_parsed (output : TxOut) : (parsedOutput output).output = output.serialize := by
  rw [TxOutput.output, u64le_natCast, BitcoinVm.script, varInt_eq]
  rfl

theorem script_p2wpkhCode (bitcoin : BitcoinRuntime) (pubkey : Bytes) :
    script (p2wpkhCode bitcoin pubkey) = Bitcoin.p2wpkhScriptCode (bitcoin.hash160 pubkey) := by
  have length : (p2wpkhCode bitcoin pubkey).length = 25 := by
    rw [p2wpkhCode, List.length_append, List.length_append, Abi.length_bigEndian]
    rfl
  rw [BitcoinVm.script, length]
  rfl

/-- The digests are those of BIP-143. -/
theorem sighash_parsedTx (bitcoin : BitcoinRuntime) {tx : Transaction} {index : ℕ} {input : TxIn}
    (found : tx.inputs[index]? = some input) (pubkey : Bytes) (value : ℤ) :
    sighash bitcoin (parsedTx tx) index pubkey value =
      some (Abi.word (tx.sighashAll (hash256 bitcoin) input
        (Bitcoin.p2wpkhScriptCode (bitcoin.hash160 pubkey)) (BitVec.ofInt 64 value))) := by
  have isInput : (parsedTx tx).inputs[index]? = some (parsedInput input) := by
    rw [parsedTx, List.getElem?_map, found, Option.map_some]
  rw [sighash, isInput, some_bind, outpoint_parsed, script_p2wpkhCode, u64le_eq]
  simp only [parsedTx, List.flatMap_map, outpoint_parsed, output_parsed, u32le_eq]
  rfl

/-! ## The policy -/

theorem singleton_of_addressScripts {encodedHex : Bytes} {scripts : List Bytes}
    (read : addressScripts encodedHex = some scripts) : ∃ script, scripts = [script] := by
  rw [addressScripts, bind_eq_some] at read
  obtain ⟨encoded, _, read⟩ := read
  dsimp only at read
  split at read
  next =>
    split at read
    · cases read
      exact ⟨_, rfl⟩
    · obtain ⟨_, read⟩ := Option.ite_none_right_eq_some.mp read
      cases read
      exact ⟨_, rfl⟩
  next =>
    obtain ⟨_, _, read⟩ := bind_eq_some.mp read
    cases read
    exact ⟨_, rfl⟩

theorem isDataCarrier_of_opReturn {bitcoin : BitcoinRuntime} {bytes : Bytes}
    (isText : opReturn bitcoin bytes ≠ none) : Bitcoin.IsDataCarrier bytes := by
  have isData : opReturnData bytes ≠ none := by
    intro absent
    apply isText
    rw [opReturn, absent, Option.map_none]
  rw [opReturnData] at isData
  match bytes with
  | [] => exact absurd (if_pos (by decide)) isData
  | [_] => exact absurd (if_pos (Or.inr Nat.one_lt_two)) isData
  | first :: op :: rest =>
      split at isData
      next => exact absurd rfl isData
      next marked =>
        have isReturn : first = 0x6a := by
          by_contra other
          exact marked (Or.inl fun head => other (Option.some.inj head))
        refine ⟨op, rest, by rw [isReturn], ?_⟩
        dsimp only [List.getD_cons_succ, List.getD_cons_zero] at isData
        split at isData
        next direct => exact Or.inl direct
        next =>
          split at isData
          next long => exact Or.inr (UInt8.toNat_inj.mp long)
          next => exact absurd rfl isData

/-- What is paid to a script. -/
def paidTo (tx : Transaction) (script : Bytes) : ℕ :=
  ((tx.outputs.filter (·.script = script)).map (·.value.toNat)).sum

theorem foldl_outputs (script : Bytes) (outputs : List TxOut) (start : ℕ) :
    (outputs.map parsedOutput).foldl
      (fun sum o => sum + if o.script ∈ [script] then o.value else 0) start =
      start + ((outputs.filter (·.script = script)).map (·.value.toNat)).sum := by
  induction outputs generalizing start with
  | nil => rfl
  | cons output outputs ih =>
      rw [List.map_cons, List.foldl_cons, ih]
      simp only [List.mem_singleton]
      by_cases paid : output.script = script
      · rw [List.filter_cons_of_pos (by simpa using paid), List.map_cons, List.sum_cons,
          if_pos (show (parsedOutput output).script = script from paid), Nat.add_assoc]
        rfl
      · rw [List.filter_cons_of_neg (by simpa using paid),
          if_neg (show (parsedOutput output).script ≠ script from paid), Nat.add_zero]

section Policy

variable (bitcoin : BitcoinRuntime)

/-- A transaction is the deposit of a trigger: what it pays to the script of the depository, what
else it pays, and the text that names the order and the depositor. -/
structure IsDeposit (trigger : DepositAddressTrigger)
    (attestation : DepositAddressTriggerAttestation) (tx : Transaction)
    (depository refund text tag encoded : Bytes) : Prop where
  isDepository : addressScripts attestation.inputDepository = some [depository]
  isRefund : addressScripts trigger.derivationFields.refundRecipient = some [refund]
  amount : trigger.input.amount.bigInt = some (paidTo tx depository : ℤ)
  others : ∀ output ∈ tx.outputs, output.script ≠ depository →
    Bitcoin.IsDataCarrier output.script ∨ output.script = refund
  isText : (tx.outputs.filterMap fun output => opReturn bitcoin output.script).find?
    (fun text => trigger.orderId <+: text) = some text
  isTag : ∃ before after, IsTag text before tag after ∧
    ∀ before' tag' after', IsTag text before' tag' after' → before.length ≤ before'.length
  isEncoded : BitcoinAddress.encodeBitcoinAddress bitcoin.libraries tag = some encoded
  depositor : Text.toLowerCase trigger.derivationFields.depositor = writeHex encoded

variable {bitcoin}

theorem isDeposit_of_assert {trigger : DepositAddressTrigger}
    {attestation : DepositAddressTriggerAttestation} {data : BitcoinVmTransaction}
    {tx : Transaction} (parsed : parseTx data.unsignedTransaction = some (parsedTx tx))
    (accepted : assertBitcoinDepositTransaction bitcoin trigger attestation data = some ()) :
    ∃ depository refund text tag encoded,
      IsDeposit bitcoin trigger attestation tx depository refund text tag encoded := by
  simp only [assertBitcoinDepositTransaction, parsed, encodeBitcoinAddressToHex,
    Option.bind_eq_bind, Option.bind_some, Option.bind_eq_some_iff, Js.ensure_eq_some,
    Option.pure_def, Option.some_inj] at accepted
  obtain ⟨_, _, _, _, _, _, _, _, amount, isAmount, scripts, isDepository, refunds, isRefund, _,
    paid, _, others, text, isText, _, _, tag, isTag, _, ⟨encoded, isEncoded, rfl⟩, depositor⟩ :=
    accepted
  obtain ⟨depository, rfl⟩ := singleton_of_addressScripts isDepository
  obtain ⟨refund, rfl⟩ := singleton_of_addressScripts isRefund
  refine ⟨depository, refund, text, tag, encoded, isDepository, isRefund, ?_, ?_, ?_,
    first_of_depositorTag isTag, isEncoded, ?_⟩
  · rw [isAmount, ← paid, parsedTx, foldl_outputs, Nat.zero_add, paidTo]
  · intro output listed other
    have allowed := others _ (List.mem_map_of_mem listed)
    rcases allowed with isDepository | isData | isRefund
    · exact absurd (List.mem_singleton.mp isDepository) other
    · exact Or.inl (isDataCarrier_of_opReturn isData)
    · exact Or.inr (List.mem_singleton.mp isRefund)
  · rw [← isText, parsedTx, List.filterMap_map]
    rfl
  · rw [← depositor, toLowerCase_writeHex]

/-- The digests, one for each input in order. -/
theorem digests_of_signable {data : BitcoinVmTransaction} {pubkey : Bytes} {digests : List Bytes}
    {tx : Transaction} (parsed : parseTx data.unsignedTransaction = some (parsedTx tx))
    (signed : signableBitcoinDigests bitcoin data pubkey = some digests) :
    data.inputValues.length = tx.inputs.length ∧ digests.length = tx.inputs.length ∧
      ∀ (index : ℕ) (input : TxIn), tx.inputs[index]? = some input →
        ∃ scalar value, data.inputValues[index]? = some scalar ∧ scalar.bigInt = some value ∧
          digests[index]? = some (Abi.word (tx.sighashAll (hash256 bitcoin) input
            (Bitcoin.p2wpkhScriptCode (bitcoin.hash160 pubkey)) (BitVec.ofInt 64 value))) := by
  have count : (parsedTx tx).inputs.length = tx.inputs.length := List.length_map _
  simp only [signableBitcoinDigests, parsed, assertCounts, Option.bind_eq_bind, Option.bind_some,
    Option.bind_eq_some_iff, Js.ensure_eq_some, count] at signed
  obtain ⟨_, ⟨_, _, values⟩, mapped⟩ := signed
  obtain ⟨length, each⟩ := List.forall₂_iff_get.mp (Js.mapM_eq_some_iff.mp mapped)
  rw [List.length_range] at length
  refine ⟨values, length.symm, ?_⟩
  intro index input found
  have inside : index < tx.inputs.length := (List.getElem?_eq_some_iff.mp found).1
  have digest := each index (by rwa [List.length_range]) (by rwa [← length])
  simp only [List.get_eq_getElem, List.getElem_range, Option.bind_eq_some_iff, Js.ensure_eq_some,
    Option.pure_def, Option.some_inj] at digest
  obtain ⟨_, _, actual, _, _, _, scalar, isScalar, value, isValue, expected, isExpected, _, rfl,
    same⟩ := digest
  rw [sighash_parsedTx bitcoin found] at isExpected
  refine ⟨scalar, value, isScalar, isValue, ?_⟩
  rw [isExpected, List.getElem?_eq_getElem (by rwa [← length]), same]

/-- Standard transactions are parsed as they are, and a transaction that is accepted and signed is
the deposit of the trigger, signed over its own digests. -/
theorem bitcoin_policy (bitcoin : BitcoinRuntime) :
    (∀ (tx : Transaction) (rawHex : Bytes), Readable tx →
      hexToBytes rawHex = some tx.serializeLegacy ∨ hexToBytes rawHex = some tx.serializeSegwit →
      parseTx rawHex = some (parsedTx tx)) ∧
    ∀ (trigger : DepositAddressTrigger) (attestation : DepositAddressTriggerAttestation)
        (data : BitcoinVmTransaction) (pubkey : Bytes) (digests : List Bytes),
      assertBitcoinDepositTransaction bitcoin trigger attestation data = some () →
      signableBitcoinDigests bitcoin data pubkey = some digests →
      (∃ tx : Transaction, parseTx data.unsignedTransaction = some (parsedTx tx)) ∧
      ∀ tx : Transaction, parseTx data.unsignedTransaction = some (parsedTx tx) →
        (∃ depository refund text tag encoded,
          IsDeposit bitcoin trigger attestation tx depository refund text tag encoded) ∧
        data.inputValues.length = tx.inputs.length ∧ digests.length = tx.inputs.length ∧
        ∀ (index : ℕ) (input : TxIn), tx.inputs[index]? = some input →
          ∃ scalar value, data.inputValues[index]? = some scalar ∧ scalar.bigInt = some value ∧
            digests[index]? = some (Abi.word (tx.sighashAll (hash256 bitcoin) input
              (Bitcoin.p2wpkhScriptCode (bitcoin.hash160 pubkey)) (BitVec.ofInt 64 value))) := by
  constructor
  · intro tx rawHex readable isRaw
    exact parseTx_eq readable isRaw
  · intro trigger attestation data pubkey digests accepted signed
    constructor
    · obtain ⟨parsed, isParsed, _⟩ := bind_eq_some.mp signed
      obtain ⟨tx, rfl⟩ := exists_parsedTx isParsed
      exact ⟨tx, isParsed⟩
    · intro tx isParsed
      exact ⟨isDeposit_of_assert isParsed accepted, digests_of_signable isParsed signed⟩

end Policy

/-! ## A deposit -/

namespace SamplePayment

open SampleDeposit

/-- Stand-ins: byte strings are hashed to their lengths, and every character behind `bc1` is a
word. -/
def bitcoin : BitcoinRuntime where
  sha256 := fun data => BitVec.ofNat 256 data.length
  hash160 := fun data => BitVec.ofNat 160 data.length
  libraries := {
    BitcoinAddress.SampleLegacy.codecs with
    bech32 := {
      decode := fun text => some (text.take 2, 0 :: (text.drop 3).map UInt8.toNat)
      encode := fun front words => some (front ++ 49 :: words.tail.map UInt8.ofNat) }
    toWords := List.map UInt8.toNat
    fromWords := fun words => some (words.map UInt8.ofNat) }
  decodeText := id

/-- The program of a key. -/
def program (key : ℕ) : Bytes := 0 :: Abi.bigEndian 20 key

def trigger : DepositAddressTrigger :=
  { base with
    input := {
      base.input with
      currency := writeHex (0 :: Abi.utf8 "qqqqqqqqqqqqqqqqqqqqqqqqqqqqqqqqmql8k8") }
    derivationFields := {
      base.derivationFields with
      depositor := writeHex (0 :: Abi.utf8 "a")
      refundRecipient := writeHex (program 2) }
    orderId := Abi.utf8 "7" }

def attestation : DepositAddressTriggerAttestation :=
  { SampleDeposit.attestation with inputDepository := writeHex (program 1) }

def metadata : Bytes := Abi.utf8 "7|depositor=bc1a|"

/-- A deposit with change. -/
def tx : Transaction where
  version := 1
  inputs := [⟨9, 0, [], 0⟩]
  outputs := [⟨20, 0 :: 20 :: Abi.bigEndian 20 1⟩, ⟨0, 0x6a :: 17 :: metadata⟩,
    ⟨5, 0 :: 20 :: Abi.bigEndian 20 2⟩]
  locktime := 0

def digest : Bytes :=
  Abi.word (tx.sighashAll (hash256 bitcoin) ⟨9, 0, [], 0⟩
    (Bitcoin.p2wpkhScriptCode (bitcoin.hash160 [])) 30)

def transaction : BitcoinVmTransaction where
  unsignedTransaction := writeHex tx.serializeSegwit
  inputValues := [.string (Abi.utf8 "30")]
  sighashes := [writeHex digest]

theorem readable : Readable tx where
  someInput := by decide
  someOutput := by decide
  inputs := by decide
  outputs := by decide
  inputScripts := by decide
  outputScripts := by decide +kernel

end SamplePayment

open SamplePayment in
theorem bitcoin_policy_sample :
    parseTx transaction.unsignedTransaction = some (parsedTx tx) ∧
      assertBitcoinDepositTransaction bitcoin trigger attestation transaction = some () ∧
      signableBitcoinDigests bitcoin transaction [] = some [digest] ∧
      ∃ depository refund text tag encoded,
        IsDeposit bitcoin trigger attestation tx depository refund text tag encoded := by
  obtain ⟨parses, sound⟩ := bitcoin_policy bitcoin
  have parsed := parses tx transaction.unsignedTransaction readable
    (Or.inr (by decide +kernel))
  have accepted : assertBitcoinDepositTransaction bitcoin trigger attestation transaction =
      some () := by decide +kernel
  have signed : signableBitcoinDigests bitcoin transaction [] = some [digest] := by
    decide +kernel
  obtain ⟨_, each⟩ := sound trigger attestation transaction [] [digest] accepted signed
  exact ⟨parsed, accepted, signed, (each tx parsed).1⟩

end BitcoinVm

end RelaySettlement.LitDepositAddress
