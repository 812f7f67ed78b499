import RelaySettlement.Allocator.Identifiers

/-!
# BitcoinVmPayloadBuilder

A withdrawal on Bitcoin is a transaction that spends outputs of the allocator and outputs of
somebody who pays the fee.  The allocator's inputs fund the amount and what is left of them
goes back to the allocator; the fee inputs fund the fee, at a rate per virtual byte, and what
is left of them goes back to their owner.

Sizes of data in memory are natural numbers: nothing the machine can hold overflows their
256-bit sums.
-/

open Evm

namespace RelaySettlement

/-! ## Transactions -/

structure BitcoinVmUtxo where
  txid : Bytes32
  index : BitVec 32
  value : BitVec 64
  scriptPubKey : Bytes
  deriving DecidableEq

namespace BitcoinVmUtxo

def type : Abi.Ty := .tuple [.uint 256, .uint 32, .uint 64, .bytes]

def ofValue : Abi.Value → Option BitcoinVmUtxo
  | .tuple [.word txid, .word index, .word value, .bytes scriptPubKey] =>
      some ⟨txid, index.setWidth 32, value.setWidth 64, scriptPubKey⟩
  | _ => none

end BitcoinVmUtxo

/-- The data supplied with a Bitcoin withdrawal. -/
structure BitcoinVmTransactionParams where
  allocatorUtxos : List BitcoinVmUtxo
  feeUtxos : List BitcoinVmUtxo
  feeChangeScript : Bytes
  feeRate : BitVec 64
  deriving DecidableEq

namespace BitcoinVmTransactionParams

def type : Abi.Ty :=
  .tuple [.array BitcoinVmUtxo.type, .array BitcoinVmUtxo.type, .bytes, .uint 64]

def ofValue : Abi.Value → Option BitcoinVmTransactionParams
  | .tuple [.array allocatorUtxos, .array feeUtxos, .bytes feeChangeScript, .word feeRate] => do
      let allocatorUtxos ← allocatorUtxos.mapM BitcoinVmUtxo.ofValue
      let feeUtxos ← feeUtxos.mapM BitcoinVmUtxo.ofValue
      return ⟨allocatorUtxos, feeUtxos, feeChangeScript, feeRate.setWidth 64⟩
  | _ => none

end BitcoinVmTransactionParams

structure BitcoinVmTransactionDataInput where
  txid : Bytes
  index : Bytes
  script : Bytes
  value : Bytes
  deriving DecidableEq

namespace BitcoinVmTransactionDataInput

def type : Abi.Ty := .tuple [.bytes, .bytes, .bytes, .bytes]

def toValue (input : BitcoinVmTransactionDataInput) : Abi.Value :=
  .tuple [.bytes input.txid, .bytes input.index, .bytes input.script, .bytes input.value]

def ofValue : Abi.Value → Option BitcoinVmTransactionDataInput
  | .tuple [.bytes txid, .bytes index, .bytes script, .bytes value] =>
      some ⟨txid, index, script, value⟩
  | _ => none

end BitcoinVmTransactionDataInput

structure BitcoinVmTransactionDataOutput where
  value : Bytes
  script : Bytes
  deriving DecidableEq

namespace BitcoinVmTransactionDataOutput

def type : Abi.Ty := .tuple [.bytes, .bytes]

def toValue (output : BitcoinVmTransactionDataOutput) : Abi.Value :=
  .tuple [.bytes output.value, .bytes output.script]

def ofValue : Abi.Value → Option BitcoinVmTransactionDataOutput
  | .tuple [.bytes value, .bytes script] => some ⟨value, script⟩
  | _ => none

end BitcoinVmTransactionDataOutput

structure BitcoinVmTransactionData where
  inputs : List BitcoinVmTransactionDataInput
  outputs : List BitcoinVmTransactionDataOutput
  deriving DecidableEq

namespace BitcoinVmTransactionData

def type : Abi.Ty :=
  .tuple [.array BitcoinVmTransactionDataInput.type, .array BitcoinVmTransactionDataOutput.type]

def toValue (data : BitcoinVmTransactionData) : Abi.Value :=
  .tuple [.array (data.inputs.map BitcoinVmTransactionDataInput.toValue),
    .array (data.outputs.map BitcoinVmTransactionDataOutput.toValue)]

def ofValue : Abi.Value → Option BitcoinVmTransactionData
  | .tuple [.array inputs, .array outputs] => do
      let inputs ← inputs.mapM BitcoinVmTransactionDataInput.ofValue
      let outputs ← outputs.mapM BitcoinVmTransactionDataOutput.ofValue
      return ⟨inputs, outputs⟩
  | _ => none

end BitcoinVmTransactionData

namespace BitcoinVmPayloadBuilder

inductive Error where
  | insufficientAllocatorUtxoValue (totalInput : BitVec 64) (amount : U256)
  | insufficientFeeUtxoValue (totalInput : BitVec 64) (requiredFees : ℕ)
  | outputBelowDust (amount : BitVec 64)
  | invalidP2wpkhScript (script : Bytes)
  | invalidBitcoinAddress (encodedAddress : Bytes)
  | invalidBitcoinScript (script : Bytes)
  | allocatorScriptMismatch (expected actual : Bytes)
  | feeUtxoUsesAllocatorScript (script : Bytes)
  | invalidHashIndex (hashIndex : U256) (allocatorInputs : ℕ)
  | abiDecodingFailed
  | arithmeticPanic
  | indexOutOfBounds
  deriving DecidableEq

/-- `DUST_THRESHOLD`. -/
def dustThreshold : BitVec 64 := 546

/-! ## Scripts -/

/-- `_slice`. -/
def slice (data : Bytes) (start length : ℕ) : Bytes := (data.drop start).take length

/-- `_isP2wpkhScript`. -/
def isP2wpkhScript (script : Bytes) : Bool :=
  script.length = 22 ∧ script.getD 0 0 = 0x00 ∧ script.getD 1 0 = 0x14

/-- `_isP2trScript`. -/
def isP2trScript (script : Bytes) : Bool :=
  script.length = 34 ∧ script.getD 0 0 = 0x51 ∧ script.getD 1 0 = 0x20

/-- `_isP2pkhScript`. -/
def isP2pkhScript (script : Bytes) : Bool :=
  script.length = 25 ∧ script.getD 0 0 = 0x76 ∧ script.getD 1 0 = 0xa9 ∧
    script.getD 2 0 = 0x14 ∧ script.getD 23 0 = 0x88 ∧ script.getD 24 0 = 0xac

/-- `_isP2shScript`. -/
def isP2shScript (script : Bytes) : Bool :=
  script.length = 23 ∧ script.getD 0 0 = 0xa9 ∧ script.getD 1 0 = 0x14 ∧
    script.getD 22 0 = 0x87

/-- `_isWitnessScript`. -/
def isWitnessScript (script : Bytes) : Bool :=
  let version := (script.getD 0 0).toNat
  let programLength := (script.getD 1 0).toNat
  if script.length < 4 ∨ 42 < script.length then false
  else if version ≠ 0 ∧ (version < 0x51 ∨ 0x60 < version) then false
  else if programLength ≠ script.length - 2 then false
  else if version = 0 then programLength = 20 ∨ programLength = 32
  else 2 ≤ programLength ∧ programLength ≤ 40

/-- `_isStandardOutputScript`. -/
def isStandardOutputScript (script : Bytes) : Bool :=
  isP2pkhScript script || isP2shScript script || isWitnessScript script

/-- `_validateP2wpkhScript`. -/
def validateP2wpkhScript (script : Bytes) : Except Error Unit :=
  require (isP2wpkhScript script = true) (.invalidP2wpkhScript script)

/-- `_validateStandardOutputScript`. -/
def validateStandardOutputScript (script : Bytes) : Except Error Unit :=
  require (isStandardOutputScript script = true) (.invalidBitcoinScript script)

/-- `_protocolAddressToScript`. -/
def protocolAddressToScript (encodedAddress : Bytes) : Except Error Bytes :=
  let version := encodedAddress.getD 0 0
  let programLength := encodedAddress.length - 1
  if encodedAddress.length = 22 ∧ version = 0xff ∧ encodedAddress.getD 1 0 = 0x00 then
    .ok ([0x76, 0xa9, 0x14] ++ slice encodedAddress 2 20 ++ [0x88, 0xac])
  else if encodedAddress.length = 22 ∧ version = 0xff ∧ encodedAddress.getD 1 0 = 0x05 then
    .ok ([0xa9, 0x14] ++ slice encodedAddress 2 20 ++ [0x87])
  else if 3 ≤ encodedAddress.length ∧ version = 0 ∧ (programLength = 20 ∨ programLength = 32) then
    .ok ([0x00, UInt8.ofNat programLength] ++ slice encodedAddress 1 programLength)
  else if 3 ≤ encodedAddress.length ∧ version ≤ 0x10 ∧ 0 < version ∧ 2 ≤ programLength ∧
      programLength ≤ 40 then
    .ok ([0x50 + version, UInt8.ofNat programLength] ++ slice encodedAddress 1 programLength)
  else
    .error (.invalidBitcoinAddress encodedAddress)

/-- `_normalizeP2wpkhScript`. -/
def normalizeP2wpkhScript (scriptOrAddress : Bytes) : Except Error Bytes :=
  if isP2wpkhScript scriptOrAddress then .ok scriptOrAddress
  else if scriptOrAddress.length = 21 ∧ scriptOrAddress.getD 0 0 = 0x00 then
    .ok ([0x00, 0x14] ++ slice scriptOrAddress 1 20)
  else
    .error (.invalidP2wpkhScript scriptOrAddress)

theorem isP2wpkhScript_of_normalizeP2wpkhScript {scriptOrAddress script : Bytes}
    (ok : normalizeP2wpkhScript scriptOrAddress = .ok script) : isP2wpkhScript script = true := by
  rw [normalizeP2wpkhScript] at ok
  split at ok
  next already =>
    cases ok
    exact already
  next =>
    split at ok
    next address =>
      cases ok
      simp [isP2wpkhScript, slice, address.1]
    next => cases ok

end BitcoinVmPayloadBuilder

/-! ## The builder -/

/-- A deployed builder: its address and the script of the allocator, which its constructor
has normalized. -/
structure BitcoinVmPayloadBuilder where
  self : Address
  allocatorChangeScript : Bytes
  isP2wpkh : BitcoinVmPayloadBuilder.isP2wpkhScript allocatorChangeScript = true

namespace BitcoinVmPayloadBuilder

/-- The constructor. -/
def create (self : Address) (allocatorChangeScript : Bytes) :
    Except Error BitcoinVmPayloadBuilder :=
  match isScript : normalizeP2wpkhScript allocatorChangeScript with
  | .ok script => .ok ⟨self, script, isP2wpkhScript_of_normalizeP2wpkhScript isScript⟩
  | .error error => .error error

/-! Sizes -/

/-- `_compactSizeLength`. -/
def compactSizeLength (value : ℕ) : ℕ :=
  if value < 0xfd then 1 else if value ≤ 0xffff then 3 else if value ≤ 0xffffffff then 5 else 9

/-- `_estimatedInputBaseSize`. -/
def estimatedInputBaseSize (script : Bytes) : Except Error ℕ :=
  if isP2pkhScript script then .ok 148
  else if isP2shScript script then .ok (32 + 4 + compactSizeLength 1650 + 1650 + 4)
  else if isWitnessScript script then .ok 41
  else .error (.invalidBitcoinScript script)

/-- `_estimatedInputWitnessSize`. -/
def estimatedInputWitnessSize (script : Bytes) : ℕ :=
  if isP2wpkhScript script then 107
  else if isP2trScript script then 67
  else if isWitnessScript script then 3600
  else 0

/-- `_estimateVSize`. -/
def estimateVSize (allocatorUtxos feeUtxos : List BitcoinVmUtxo) (outputScripts : List Bytes) :
    Except Error ℕ := do
  let inputCount := allocatorUtxos.length + feeUtxos.length
  let feeSizes ← feeUtxos.mapM fun utxo => estimatedInputBaseSize utxo.scriptPubKey
  let outputSizes := outputScripts.map fun script =>
    8 + compactSizeLength script.length + script.length
  let baseSize := 4 + compactSizeLength inputCount + 41 * allocatorUtxos.length + feeSizes.sum +
    compactSizeLength outputScripts.length + outputSizes.sum + 4
  let inputWitnessSize := 107 * allocatorUtxos.length +
    (feeUtxos.map fun utxo => estimatedInputWitnessSize utxo.scriptPubKey).sum
  -- the marker and the flag of a transaction with witnesses
  let witnessSize := if 0 < inputWitnessSize then inputWitnessSize + 2 else inputWitnessSize
  return (baseSize * 4 + witnessSize + 3) / 4

/-! Balances -/

/-- `_sumUtxoValues`. -/
def sumUtxoValues (utxos : List BitcoinVmUtxo) : Except Error (BitVec 64) :=
  utxos.foldlM (fun total utxo => checkedAddNarrow .arithmeticPanic total utxo.value) 0

/-- `_sumAndValidateAllocatorUtxos`. -/
def sumAndValidateAllocatorUtxos (utxos : List BitcoinVmUtxo) (allocatorScript : Bytes) :
    Except Error (BitVec 64) :=
  utxos.foldlM (fun total utxo => do
    validateP2wpkhScript utxo.scriptPubKey
    require (utxo.scriptPubKey = allocatorScript)
      (.allocatorScriptMismatch allocatorScript utxo.scriptPubKey)
    checkedAddNarrow .arithmeticPanic total utxo.value) 0

/-- `_validateFeeUtxos`. -/
def validateFeeUtxos (utxos : List BitcoinVmUtxo) (allocatorScript : Bytes) :
    Except Error Unit :=
  utxos.forM fun utxo => do
    validateStandardOutputScript utxo.scriptPubKey
    require (utxo.scriptPubKey ≠ allocatorScript) (.feeUtxoUsesAllocatorScript utxo.scriptPubKey)

/-- `_computeAllocatorChange`. -/
def computeAllocatorChange (amount : U256) (allocatorUtxos : List BitcoinVmUtxo)
    (allocatorScript : Bytes) : Except Error (BitVec 64) := do
  let totalInput ← sumAndValidateAllocatorUtxos allocatorUtxos allocatorScript
  require (amount ≤ totalInput.setWidth 256) (.insufficientAllocatorUtxoValue totalInput amount)
  let change ← checkedSubNarrow .arithmeticPanic totalInput (amount.setWidth 64)
  require (change = 0 ∨ dustThreshold ≤ change) (.outputBelowDust change)
  return change

/-- The scripts of all outputs but the fee change. -/
def baseOutputScripts (allocatorChange : BitVec 64)
    (receiverScript identifierScript allocatorChangeScript : Bytes) : List Bytes :=
  [receiverScript, identifierScript] ++
    if 0 < allocatorChange then [allocatorChangeScript] else []

/-- `_computeFeeChange`. -/
def computeFeeChange (bitcoinParams : BitcoinVmTransactionParams) (allocatorChange : BitVec 64)
    (receiverScript identifierScript allocatorChangeScript feeChangeScript : Bytes) :
    Except Error (BitVec 64) := do
  let totalFeeInput ← sumUtxoValues bitcoinParams.feeUtxos
  let baseOutputScripts := baseOutputScripts allocatorChange receiverScript identifierScript
    allocatorChangeScript
  let vsizeWithoutChange ← estimateVSize bitcoinParams.allocatorUtxos bitcoinParams.feeUtxos
    baseOutputScripts
  let feeWithoutChange := vsizeWithoutChange * bitcoinParams.feeRate.toNat
  require (feeWithoutChange ≤ totalFeeInput.toNat)
    (.insufficientFeeUtxoValue totalFeeInput feeWithoutChange)
  if totalFeeInput.toNat = feeWithoutChange then
    return 0
  else
    let vsizeWithChange ← estimateVSize bitcoinParams.allocatorUtxos bitcoinParams.feeUtxos
      (baseOutputScripts ++ [feeChangeScript])
    let feeWithChange := vsizeWithChange * bitcoinParams.feeRate.toNat
    require (feeWithChange ≤ totalFeeInput.toNat)
      (.insufficientFeeUtxoValue totalFeeInput feeWithChange)
    let feeChange ← checkedSubNarrow .arithmeticPanic totalFeeInput (BitVec.ofNat 64 feeWithChange)
    require (dustThreshold ≤ feeChange) (.outputBelowDust feeChange)
    return feeChange

/-! Building -/

/-- `_buildInput`. -/
def buildInput (utxo : BitcoinVmUtxo) : BitcoinVmTransactionDataInput where
  txid := Abi.word utxo.txid
  index := Utils.encodeUint32LE utxo.index
  script := utxo.scriptPubKey
  value := Utils.encodeUint64LE utxo.value

/-- `_buildInputs`. -/
def buildInputs (allocatorUtxos feeUtxos : List BitcoinVmUtxo) :
    List BitcoinVmTransactionDataInput :=
  allocatorUtxos.map buildInput ++ feeUtxos.map buildInput

/-- `_buildOutputs`. -/
def buildOutputs (amount : BitVec 64) (receiverScript identifierScript : Bytes)
    (allocatorChange : BitVec 64) (allocatorChangeScript : Bytes) (feeChange : BitVec 64)
    (feeChangeScript : Bytes) : Except Error (List BitcoinVmTransactionDataOutput) := do
  require (dustThreshold ≤ amount) (.outputBelowDust amount)
  return [⟨Utils.encodeUint64LE amount, receiverScript⟩,
      ⟨Utils.encodeUint64LE 0, identifierScript⟩] ++
    (if 0 < allocatorChange then
      [⟨Utils.encodeUint64LE allocatorChange, allocatorChangeScript⟩] else []) ++
    (if 0 < feeChange then [⟨Utils.encodeUint64LE feeChange, feeChangeScript⟩] else [])

section Views

variable (keccak256 sha256 : Bytes → Bytes32) (builder : BitcoinVmPayloadBuilder)

/-- The identifier of a withdrawal. -/
def identifier (chainId depository : Bytes) (params : BuildPayloadParams) : Bytes32 :=
  keccak256 (Abi.encode [.address builder.self, .bytes chainId, .bytes depository,
    params.toValue])

/-- `_buildIdentifierScript`. -/
def buildIdentifierScript (chainId depository : Bytes) (params : BuildPayloadParams) : Bytes :=
  [0x6a, 0x20] ++ Abi.word (identifier keccak256 builder chainId depository params)

/-- The transaction that `buildPayload` encodes. -/
def buildTransaction (chainId depository : Bytes) (params : BuildPayloadParams) :
    Except Error BitcoinVmTransactionData := do
  let bitcoinParams ← orRevert (Abi.decodeAs BitcoinVmTransactionParams.type
    BitcoinVmTransactionParams.ofValue params.data) .abiDecodingFailed
  let receiverScript ← protocolAddressToScript params.receiver
  validateStandardOutputScript bitcoinParams.feeChangeScript
  let allocatorChange ← computeAllocatorChange params.amount bitcoinParams.allocatorUtxos
    builder.allocatorChangeScript
  validateFeeUtxos bitcoinParams.feeUtxos builder.allocatorChangeScript
  let identifierScript := buildIdentifierScript keccak256 builder chainId depository params
  let feeChange ← computeFeeChange bitcoinParams allocatorChange receiverScript identifierScript
    builder.allocatorChangeScript bitcoinParams.feeChangeScript
  let outputs ← buildOutputs (params.amount.setWidth 64) receiverScript identifierScript
    allocatorChange builder.allocatorChangeScript feeChange bitcoinParams.feeChangeScript
  return ⟨buildInputs bitcoinParams.allocatorUtxos bitcoinParams.feeUtxos, outputs⟩

def buildPayload (chainId depository : Bytes) (params : BuildPayloadParams) :
    Except Error Bytes := do
  let data ← buildTransaction keccak256 builder chainId depository params
  return Abi.encode [data.toValue]

/-! Hashing -/

/-- `sha256(sha256(data))`. -/
def doubleSha256 (data : Bytes) : Bytes32 := sha256 (Abi.word (sha256 data))

/-- `_encodeVarInt`. -/
def encodeVarInt (value : ℕ) : Bytes :=
  if value < 0xfd then [UInt8.ofNat value]
  else if value ≤ 0xffff then 0xfd :: littleEndian 2 value
  else if value ≤ 0xffffffff then 0xfe :: littleEndian 4 value
  else 0xff :: littleEndian 8 value

/-- `_hashPrevouts`. -/
def hashPrevouts (inputs : List BitcoinVmTransactionDataInput) : Bytes32 :=
  doubleSha256 sha256 (inputs.flatMap fun input => input.txid ++ input.index)

/-- `_hashSequence`. -/
def hashSequence (inputs : List BitcoinVmTransactionDataInput) : Bytes32 :=
  doubleSha256 sha256 (inputs.flatMap fun _ => Utils.encodeUint32LE 0xfffffffd)

/-- `_hashOutputs`. -/
def hashOutputs (outputs : List BitcoinVmTransactionDataOutput) : Bytes32 :=
  doubleSha256 sha256 (outputs.flatMap fun output =>
    output.value ++ encodeVarInt output.script.length ++ output.script)

/-- `_buildScriptCode`. -/
def buildScriptCode (scriptPubKey : Bytes) : Except Error Bytes := do
  validateP2wpkhScript scriptPubKey
  return [0x19, 0x76, 0xa9, 0x14] ++ slice scriptPubKey 2 20 ++ [0x88, 0xac]

/-- What is hashed for an input with a script code. -/
def preImageOf (txData : BitcoinVmTransactionData) (input : BitcoinVmTransactionDataInput)
    (scriptCode : Bytes) : Bytes :=
  Utils.encodeUint32LE 1 ++ Abi.word (hashPrevouts sha256 txData.inputs) ++
    Abi.word (hashSequence sha256 txData.inputs) ++ (input.txid ++ input.index) ++ scriptCode ++
    input.value ++ Utils.encodeUint32LE 0xfffffffd ++
    Abi.word (hashOutputs sha256 txData.outputs) ++ Utils.encodeUint32LE 0 ++
    Utils.encodeUint32LE 0x01

/-- `_buildPreImageForInput`. -/
def buildPreImageForInput (txData : BitcoinVmTransactionData) (whichInput : ℕ) :
    Except Error Bytes := do
  let input ← orRevert txData.inputs[whichInput]? .indexOutOfBounds
  let scriptCode ← buildScriptCode input.script
  return preImageOf sha256 txData input scriptCode

/-- `_hashToSign`. -/
def hashToSign (txData : BitcoinVmTransactionData) (whichInput : ℕ) : Except Error Bytes32 := do
  let preimage ← buildPreImageForInput sha256 txData whichInput
  return doubleSha256 sha256 preimage

/-- The positions of the inputs that spend outputs of the allocator. -/
def allocatorInputs (txData : BitcoinVmTransactionData) : List ℕ :=
  (List.range txData.inputs.length).filter fun position =>
    (txData.inputs[position]?.map BitcoinVmTransactionDataInput.script) =
      some builder.allocatorChangeScript

def hashesToSign (payload : Bytes) : Except Error (List Bytes32) := do
  let txData ← orRevert
    (Abi.decodeAs BitcoinVmTransactionData.type BitcoinVmTransactionData.ofValue payload)
    .abiDecodingFailed
  (allocatorInputs builder txData).mapM (hashToSign sha256 txData)

/-- The loop of `_allocatorInputIndex`, at an input with its position and the number of allocator
inputs before it. -/
def allocatorInputIndexFrom (hashIndex : U256) :
    List BitcoinVmTransactionDataInput → (position allocatorInputs : ℕ) → Except Error ℕ
  | [], _, allocatorInputs => .error (.invalidHashIndex hashIndex allocatorInputs)
  | input :: inputs, position, allocatorInputs =>
      if input.script = builder.allocatorChangeScript then
        if allocatorInputs = hashIndex.toNat then .ok position
        else allocatorInputIndexFrom hashIndex inputs (position + 1) (allocatorInputs + 1)
      else allocatorInputIndexFrom hashIndex inputs (position + 1) allocatorInputs

/-- `_allocatorInputIndex`. -/
def allocatorInputIndex (txData : BitcoinVmTransactionData) (hashIndex : U256) : Except Error ℕ :=
  allocatorInputIndexFrom builder hashIndex txData.inputs 0 0

/-- The external `hashToSign`, for an index over the allocator inputs. -/
def hashToSignAt (payload : Bytes) (hashIndex : U256) : Except Error Bytes32 := do
  let txData ← orRevert
    (Abi.decodeAs BitcoinVmTransactionData.type BitcoinVmTransactionData.ofValue payload)
    .abiDecodingFailed
  hashToSign sha256 txData (← allocatorInputIndex builder txData hashIndex)

/-- The views of the builder. -/
def views : BuilderViews where
  buildPayload := fun _ chainId depository params =>
    (buildPayload keccak256 builder chainId depository params).toOption
  hashesToSign := fun _ _ _ payload => (hashesToSign sha256 builder payload).toOption

end Views

end BitcoinVmPayloadBuilder

end RelaySettlement
