import RelaySettlement.Evm.Reader

/-!
# Transactions of Bitcoin

The wire format of transactions, with and without the marker of segregated witnesses, and the
digests that BIP-143 has signatures for witness programs made over.
-/

namespace Evm.Bitcoin

/-- The length of what follows, in the fewest bytes. -/
def compactSize (n : ℕ) : Bytes :=
  if n < 0xfd then [UInt8.ofNat n]
  else if n < 2 ^ 16 then 0xfd :: littleEndian 2 n
  else if n < 2 ^ 32 then 0xfe :: littleEndian 4 n
  else 0xff :: littleEndian 8 n

def uint32 (value : BitVec 32) : Bytes := littleEndian 4 value.toNat

def uint64 (value : BitVec 64) : Bytes := littleEndian 8 value.toNat

def script (bytes : Bytes) : Bytes := compactSize bytes.length ++ bytes

/-- The transaction id of an outpoint is written as it stands in the word. -/
structure TxIn where
  txid : Bytes32
  index : BitVec 32
  script : Bytes
  sequence : BitVec 32
deriving DecidableEq

structure TxOut where
  value : BitVec 64
  script : Bytes
deriving DecidableEq

structure Transaction where
  version : BitVec 32
  inputs : List TxIn
  outputs : List TxOut
  locktime : BitVec 32
deriving DecidableEq

def TxIn.outpoint (input : TxIn) : Bytes := Abi.word input.txid ++ uint32 input.index

def TxIn.serialize (input : TxIn) : Bytes :=
  input.outpoint ++ (Bitcoin.script input.script ++ uint32 input.sequence)

def TxOut.serialize (output : TxOut) : Bytes :=
  uint64 output.value ++ Bitcoin.script output.script

namespace Transaction

/-- Without witnesses. -/
def serializeLegacy (tx : Transaction) : Bytes :=
  uint32 tx.version ++ (compactSize tx.inputs.length ++ (tx.inputs.flatMap TxIn.serialize ++
    (compactSize tx.outputs.length ++ (tx.outputs.flatMap TxOut.serialize ++
      uint32 tx.locktime))))

/-- With a marker, a flag and an empty witness for each input. -/
def serializeSegwit (tx : Transaction) : Bytes :=
  uint32 tx.version ++ (0 :: 1 :: (compactSize tx.inputs.length ++
    (tx.inputs.flatMap TxIn.serialize ++ (compactSize tx.outputs.length ++
      (tx.outputs.flatMap TxOut.serialize ++ (tx.inputs.flatMap (fun _ => compactSize 0) ++
        uint32 tx.locktime))))))

/-- The digest of BIP-143 for `SIGHASH_ALL`: `scriptCode` comes with its length. -/
def sighashAll (hash256 : Bytes → Bytes32) (tx : Transaction) (input : TxIn) (scriptCode : Bytes)
    (value : BitVec 64) : Bytes32 :=
  hash256 (uint32 tx.version ++ Abi.word (hash256 (tx.inputs.flatMap TxIn.outpoint)) ++
    Abi.word (hash256 (tx.inputs.flatMap fun input => uint32 input.sequence)) ++ input.outpoint ++
    scriptCode ++ uint64 value ++ uint32 input.sequence ++
    Abi.word (hash256 (tx.outputs.flatMap TxOut.serialize)) ++ uint32 tx.locktime ++ uint32 1)

end Transaction

/-! ## Scripts -/

/-- The script code of a witness program of version 0 that is the hash of a key. -/
def p2wpkhScriptCode (program : BitVec 160) : Bytes :=
  [0x19, 0x76, 0xa9, 0x14] ++ Abi.bigEndian 20 program.toNat ++ [0x88, 0xac]

/-- `OP_RETURN` with a direct push, or with a push whose length is in one byte. -/
def IsDataCarrier (bytes : Bytes) : Prop :=
  ∃ op rest, bytes = 0x6a :: op :: rest ∧ (op.toNat ≤ 75 ∨ op = 0x4c)

end Evm.Bitcoin
