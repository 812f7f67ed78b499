import RelaySettlement.Evm.Reader

/-!
# Messages of Solana

The wire format of compiled messages, legacy and version 0, as Solana writes and reads it.  A
length is written with the fewest bytes, and Solana rejects other forms.
-/

namespace Evm.Solana

/-! ## Lengths -/

/-- A length below 2^16 in the fewest bytes. -/
def compactU16 (n : ℕ) : Bytes :=
  if n < 2 ^ 7 then [UInt8.ofNat n]
  else if n < 2 ^ 14 then [UInt8.ofNat (n % 2 ^ 7 + 2 ^ 7), UInt8.ofNat (n / 2 ^ 7)]
  else [UInt8.ofNat (n % 2 ^ 7 + 2 ^ 7), UInt8.ofNat (n / 2 ^ 7 % 2 ^ 7 + 2 ^ 7),
    UInt8.ofNat (n / 2 ^ 14)]

/-- The last byte is not 0, unless it is the first, and the number is below 2^16. -/
def decodeCompactU16 : Reader ℕ := do
  let first ← Reader.byte
  if first.toNat < 2 ^ 7 then return first.toNat
  else
    let second ← Reader.byte
    if second.toNat = 0 then failure
    else if second.toNat < 2 ^ 7 then return first.toNat - 2 ^ 7 + 2 ^ 7 * second.toNat
    else
      let third ← Reader.byte
      if third.toNat = 0 ∨ 4 ≤ third.toNat then failure
      else return first.toNat - 2 ^ 7 + 2 ^ 7 * (second.toNat - 2 ^ 7) + 2 ^ 14 * third.toNat

theorem run_decodeCompactU16 {n : ℕ} (fits : n < 2 ^ 16) (rest : Bytes) :
    decodeCompactU16.run (compactU16 n ++ rest) = some (n, rest) := by
  have byte {m : ℕ} (small : m < 2 ^ 8) : (UInt8.ofNat m).toNat = m := by
    rw [UInt8.toNat_ofNat', Nat.mod_eq_of_lt small]
  rw [compactU16, decodeCompactU16]
  split
  next one =>
    rw [List.singleton_append, run_bind_of (Reader.run_byte _ _), byte (by omega), if_pos one]
    rfl
  next more =>
    split
    next two =>
      rw [List.cons_append, run_bind_of (Reader.run_byte _ _), byte (by omega),
        if_neg (by omega), List.singleton_append, run_bind_of (Reader.run_byte _ _),
        byte (by omega), if_neg (by omega), if_pos (by omega)]
      change some (_, rest) = _
      congr 2
      omega
    next three =>
      rw [List.cons_append, run_bind_of (Reader.run_byte _ _), byte (by omega),
        if_neg (by omega), List.cons_append, run_bind_of (Reader.run_byte _ _), byte (by omega),
        if_neg (by omega), if_neg (by omega), List.singleton_append,
        run_bind_of (Reader.run_byte _ _), byte (by omega), if_neg (by omega)]
      change some (_, rest) = _
      congr 2
      omega

/-! ## The wire format -/

structure CompiledInstruction where
  programIdIndex : UInt8
  accounts : List UInt8
  data : Bytes
deriving DecidableEq

structure AddressTableLookup where
  accountKey : Bytes
  writableIndexes : List UInt8
  readonlyIndexes : List UInt8
deriving DecidableEq

/-- A message of version 0 has address table lookups, and a legacy message has none. -/
structure CompiledMessage where
  numRequiredSignatures : UInt8
  numReadonlySigned : UInt8
  numReadonlyUnsigned : UInt8
  accountKeys : List Bytes
  recentBlockhash : Bytes
  instructions : List CompiledInstruction
  addressTableLookups : Option (List AddressTableLookup)
deriving DecidableEq

section ShortVec

variable {α : Type}

def shortVec (encode : α → Bytes) (values : List α) : Bytes :=
  compactU16 values.length ++ values.flatMap encode

def decodeShortVec (reader : Reader α) : Reader (List α) := do
  reader.replicate (← decodeCompactU16)

theorem run_decodeShortVec {reader : Reader α} {encode : α → Bytes} {values : List α}
    (reads : ∀ value ∈ values, ∀ rest, reader.run (encode value ++ rest) = some (value, rest))
    (few : values.length < 2 ^ 16) (rest : Bytes) :
    (decodeShortVec reader).run (shortVec encode values ++ rest) = some (values, rest) := by
  rw [shortVec, List.append_assoc, decodeShortVec, run_bind_of (run_decodeCompactU16 few _)]
  exact Reader.run_replicate reads rest

end ShortVec

def singleton (byte : UInt8) : Bytes := [byte]

theorem run_decodeBytes {data : Bytes} (few : data.length < 2 ^ 16) (rest : Bytes) :
    (decodeShortVec Reader.byte).run (shortVec singleton data ++ rest) = some (data, rest) :=
  run_decodeShortVec (fun _ _ _ => rfl) few rest

namespace CompiledInstruction

def serialize (instruction : CompiledInstruction) : Bytes :=
  instruction.programIdIndex :: (shortVec singleton instruction.accounts ++
    shortVec singleton instruction.data)

def decode : Reader CompiledInstruction := do
  let programIdIndex ← Reader.byte
  let accounts ← decodeShortVec Reader.byte
  let data ← decodeShortVec Reader.byte
  return ⟨programIdIndex, accounts, data⟩

def WellFormed (instruction : CompiledInstruction) : Prop :=
  instruction.accounts.length < 2 ^ 16 ∧ instruction.data.length < 2 ^ 16

theorem run_decode {instruction : CompiledInstruction} (wellFormed : instruction.WellFormed)
    (rest : Bytes) : decode.run (instruction.serialize ++ rest) = some (instruction, rest) := by
  rw [serialize, List.cons_append, List.append_assoc, decode,
    run_bind_of (Reader.run_byte _ _), run_bind_of (run_decodeBytes wellFormed.1 _),
    run_bind_of (run_decodeBytes wellFormed.2 _)]
  rfl

end CompiledInstruction

namespace AddressTableLookup

def serialize (lookup : AddressTableLookup) : Bytes :=
  lookup.accountKey ++ (shortVec singleton lookup.writableIndexes ++
    shortVec singleton lookup.readonlyIndexes)

def decode : Reader AddressTableLookup := do
  let accountKey ← Reader.bytes 32
  let writableIndexes ← decodeShortVec Reader.byte
  let readonlyIndexes ← decodeShortVec Reader.byte
  return ⟨accountKey, writableIndexes, readonlyIndexes⟩

def WellFormed (lookup : AddressTableLookup) : Prop :=
  lookup.accountKey.length = 32 ∧ lookup.writableIndexes.length < 2 ^ 16 ∧
    lookup.readonlyIndexes.length < 2 ^ 16

theorem run_decode {lookup : AddressTableLookup} (wellFormed : lookup.WellFormed)
    (rest : Bytes) : decode.run (lookup.serialize ++ rest) = some (lookup, rest) := by
  have key := Reader.run_bytes lookup.accountKey
  rw [wellFormed.1] at key
  rw [serialize, List.append_assoc, List.append_assoc, decode, run_bind_of (key _),
    run_bind_of (run_decodeBytes wellFormed.2.1 _), run_bind_of (run_decodeBytes wellFormed.2.2 _)]
  rfl

end AddressTableLookup

namespace CompiledMessage

/-- What legacy messages consist of. -/
def serializeBody (message : CompiledMessage) : Bytes :=
  message.numRequiredSignatures :: message.numReadonlySigned :: message.numReadonlyUnsigned ::
    (shortVec id message.accountKeys ++ (message.recentBlockhash ++
      shortVec CompiledInstruction.serialize message.instructions))

def serialize (message : CompiledMessage) : Bytes :=
  match message.addressTableLookups with
  | none => message.serializeBody
  | some lookups =>
      0x80 :: (message.serializeBody ++ shortVec AddressTableLookup.serialize lookups)

def decodeBody : Reader CompiledMessage := do
  let numRequiredSignatures ← Reader.byte
  let numReadonlySigned ← Reader.byte
  let numReadonlyUnsigned ← Reader.byte
  let accountKeys ← decodeShortVec (Reader.bytes 32)
  let recentBlockhash ← Reader.bytes 32
  let instructions ← decodeShortVec CompiledInstruction.decode
  return ⟨numRequiredSignatures, numReadonlySigned, numReadonlyUnsigned, accountKeys,
    recentBlockhash, instructions, none⟩

def decodeV0 : Reader CompiledMessage := do
  let message ← decodeBody
  let lookups ← decodeShortVec AddressTableLookup.decode
  return { message with addressTableLookups := some lookups }

/-- The highest bit of the first byte marks a version, of which there is only version 0. -/
def decode : Reader CompiledMessage
  | [] => none
  | first :: data =>
      if first.toNat < 2 ^ 7 then decodeBody.run (first :: data)
      else if first = 0x80 then decodeV0.run data
      else none

/-- The lengths that can be written. -/
structure WellFormed (message : CompiledMessage) : Prop where
  few : message.accountKeys.length < 2 ^ 16
  keys : ∀ key ∈ message.accountKeys, key.length = 32
  blockhash : message.recentBlockhash.length = 32
  fewInstructions : message.instructions.length < 2 ^ 16
  instructions : ∀ instruction ∈ message.instructions, instruction.WellFormed
  legacy : message.addressTableLookups = none → message.numRequiredSignatures.toNat < 2 ^ 7
  lookups : ∀ lookups, message.addressTableLookups = some lookups →
    lookups.length < 2 ^ 16 ∧ ∀ lookup ∈ lookups, lookup.WellFormed

/-- The static key of an account of an instruction. -/
def staticAccount (message : CompiledMessage) (instruction : CompiledInstruction)
    (index : ℕ) : Option Bytes := do
  message.accountKeys[(← instruction.accounts[index]?).toNat]?

theorem run_decodeBody {message : CompiledMessage} (wellFormed : message.WellFormed)
    (rest : Bytes) :
    decodeBody.run (message.serializeBody ++ rest) =
      some ({ message with addressTableLookups := none }, rest) := by
  have keys := @run_decodeShortVec _ (Reader.bytes 32) id message.accountKeys (by
    intro key listed rest
    rw [← wellFormed.keys key listed]
    exact Reader.run_bytes key rest) wellFormed.few
  have blockhash := Reader.run_bytes message.recentBlockhash
  rw [wellFormed.blockhash] at blockhash
  have instructions := @run_decodeShortVec _ CompiledInstruction.decode _ message.instructions
    (fun instruction listed => CompiledInstruction.run_decode
      (wellFormed.instructions instruction listed)) wellFormed.fewInstructions
  simp only [serializeBody, List.cons_append, List.append_assoc]
  rw [decodeBody, run_bind_of (Reader.run_byte _ _), run_bind_of (Reader.run_byte _ _),
    run_bind_of (Reader.run_byte _ _), run_bind_of (keys _), run_bind_of (blockhash _),
    run_bind_of (instructions _)]
  rfl

/-- Solana decodes what it serializes. -/
theorem run_decode {message : CompiledMessage} (wellFormed : message.WellFormed) (rest : Bytes) :
    decode.run (message.serialize ++ rest) = some (message, rest) := by
  have body := run_decodeBody wellFormed
  rw [serialize]
  split
  next isLegacy =>
    have legacy := body rest
    rw [show { message with addressTableLookups := none } = message by rw [← isLegacy]] at legacy
    change decode (message.numRequiredSignatures :: _) = _
    rw [decode, if_pos (wellFormed.legacy isLegacy)]
    exact legacy
  next lookups isV0 =>
    obtain ⟨few, each⟩ := wellFormed.lookups lookups isV0
    have read := @run_decodeShortVec _ AddressTableLookup.decode _ lookups
      (fun lookup listed => AddressTableLookup.run_decode (each lookup listed)) few rest
    change decodeV0.run (message.serializeBody ++ _ ++ rest) = _
    rw [List.append_assoc, decodeV0, run_bind_of (body _), run_bind_of read]
    change some ({ message with addressTableLookups := some lookups }, rest) = _
    rw [← isV0]

end CompiledMessage

end Evm.Solana
