import RelaySettlement.Evm.Solana
import RelaySettlement.LitDepositAddress.SolanaVm

/-!
# Deposits in Solana messages

The parser of the deriver also reads lengths that Solana rejects, but on every message that Solana
decodes it agrees with Solana.  There the policy accepts exactly the deposits of the trigger.
-/

open Evm Evm.Solana

namespace RelaySettlement.LitDepositAddress

namespace SolanaVm

/-! ## The parser on decoded messages -/

theorem follows_readByte : Reader.Follows UInt8.toNat Reader.byte readByte := by
  rintro (_ | ⟨first, data⟩) value rest read
  · cases read
  · cases read
    rfl

theorem toNat_lt_iff (byte : UInt8) : byte.toNat < 2 ^ 7 ↔ byte.toNat &&& 0x80 = 0 := by
  have all : ∀ n < 256, (n < 2 ^ 7 ↔ n &&& 0x80 = 0) := by decide +kernel
  exact all _ byte.toNat_lt

/-- Where Solana reads a length, the deriver reads the same. -/
theorem follows_readShortU16 : Reader.Follows id decodeCompactU16 readShortU16 := by
  have low (byte : UInt8) : byte.toNat &&& 0x7f = byte.toNat % 2 ^ 7 :=
    Nat.and_two_pow_sub_one_eq_mod byte.toNat 7
  have two (byte : UInt8) : byte.toNat < 4 ↔ byte.toNat &&& 0xfc = 0 := by
    have all : ∀ n < 256, (n < 4 ↔ n &&& 0xfc = 0) := by decide +kernel
    exact all _ byte.toNat_lt
  have join {value byte : ℕ} (width : ℕ) (small : value < 2 ^ width) :
      value ||| byte <<< width = value + 2 ^ width * byte := by
    rw [Nat.or_comm, ← Nat.shiftLeft_add_eq_or_of_lt small, Nat.shiftLeft_eq, Nat.add_comm,
      Nat.mul_comm]
  apply follows_readByte.bind
  intro first
  apply Reader.Follows.ite (toNat_lt_iff first)
  · intro one
    exact .pure (by rw [low, Nat.mod_eq_of_lt one]; rfl)
  · intro more
    apply follows_readByte.bind
    intro second
    by_cases zero : second.toNat = 0
    · rw [if_pos zero]
      exact .failure
    · have value : (first.toNat &&& 0x7f) ||| ((second.toNat &&& 0x7f) <<< 7) =
          first.toNat - 2 ^ 7 + 2 ^ 7 * (second.toNat % 2 ^ 7) := by
        have one := first.toNat_lt
        rw [low, low, join 7 (by omega)]
        omega
      rw [if_neg zero]
      apply Reader.Follows.ite (toNat_lt_iff second)
      · intro two
        exact .pure (by rw [value, Nat.mod_eq_of_lt two]; rfl)
      · intro many
        apply follows_readByte.bind
        intro third
        have one := first.toNat_lt
        have last := second.toNat_lt
        by_cases large : third.toNat = 0 ∨ 4 ≤ third.toNat
        · rw [if_pos large]
          exact .failure
        · rw [if_neg large, if_pos ((two third).mp (by omega))]
          exact .pure (by rw [value, join 14 (by omega)]; change _ = _ + _; omega)

def parsedInstruction (instruction : CompiledInstruction) : ParsedSolanaInstruction where
  programIdIndex := instruction.programIdIndex.toNat
  accountIndexes := instruction.accounts.map UInt8.toNat
  data := instruction.data

def parsedMessage (message : CompiledMessage) : ParsedSolanaMessage where
  numRequiredSignatures := message.numRequiredSignatures.toNat
  staticAccountKeys := message.accountKeys
  instructions := message.instructions.map parsedInstruction

theorem follows_readInstruction :
    Reader.Follows parsedInstruction CompiledInstruction.decode readInstruction := by
  have accounts : Reader.Follows (List.map UInt8.toNat) (decodeShortVec Reader.byte)
      (do readByte.replicate (← readShortU16)) :=
    follows_readShortU16.bind fun count => follows_readByte.replicate count
  have data : Reader.Follows id (decodeShortVec Reader.byte) (do Reader.bytes (← readShortU16)) :=
    follows_readShortU16.bind fun count => by
      rw [id, Reader.replicate_byte]
      exact Reader.Follows.refl _
  have nested : Reader.Follows parsedInstruction CompiledInstruction.decode (do
      let programIdIndex ← readByte
      let accountIndexes ← (do readByte.replicate (← readShortU16))
      let data ← (do Reader.bytes (← readShortU16))
      return ⟨programIdIndex, accountIndexes, data⟩) :=
    follows_readByte.bind fun _ => accounts.bind fun _ => data.bind fun _ => .pure rfl
  simp only [bind_assoc] at nested
  exact nested

/-- The two bytes of the header that are not used. -/
theorem follows_skip {α β : Type} {image : α → β} {next : UInt8 → UInt8 → Reader α}
    {next' : Reader β} (follows : ∀ first second, Reader.Follows image (next first second) next') :
    Reader.Follows image (do next (← Reader.byte) (← Reader.byte))
      (do let _ ← Reader.bytes 2; next') := by
  rintro (_ | ⟨first, _ | ⟨second, data⟩⟩) value rest read
  · cases read
  · cases read
  · exact follows first second read

theorem follows_readMessage :
    Reader.Follows parsedMessage CompiledMessage.decodeBody readMessage := by
  have keys : Reader.Follows id (decodeShortVec (Reader.bytes 32))
      (do (Reader.bytes 32).replicate (← readShortU16)) :=
    follows_readShortU16.bind fun count => Reader.Follows.refl _
  have instructions : Reader.Follows (List.map parsedInstruction)
      (decodeShortVec CompiledInstruction.decode)
      (do readInstruction.replicate (← readShortU16)) :=
    follows_readShortU16.bind fun count => follows_readInstruction.replicate count
  have nested : Reader.Follows parsedMessage CompiledMessage.decodeBody (do
      let numRequiredSignatures ← readByte
      let _ ← Reader.bytes 2
      let staticAccountKeys ← (do (Reader.bytes 32).replicate (← readShortU16))
      let _ ← Reader.bytes 32
      let instructions ← (do readInstruction.replicate (← readShortU16))
      return ⟨numRequiredSignatures, staticAccountKeys, instructions⟩) :=
    follows_readByte.bind fun _ => follows_skip fun _ _ => keys.bind fun _ =>
      (Reader.Follows.refl _).bind fun _ => instructions.bind fun _ => .pure rfl
  simp only [bind_assoc] at nested
  exact nested

section Messages

variable {trigger : DepositAddressTrigger} {attestation : DepositAddressTriggerAttestation}
variable {bytes rest : Bytes} {message : CompiledMessage} {instruction : CompiledInstruction}

/-- The parser reads every message that Solana decodes, whatever stands behind it. -/
theorem parse_of_decode (decoded : CompiledMessage.decode.run bytes = some (message, rest)) :
    parseSolanaCompiledMessage bytes = some (parsedMessage message) := by
  -- Behind the marker, the parser reads what both kinds of messages start with.
  have parse {versioned : Bool} {body : Bytes} {parsed : CompiledMessage} {left : Bytes}
      (isVersioned : decide ((bytes.headD 0).toNat &&& 0x80 ≠ 0) = versioned)
      (marked : (readVersion versioned).run bytes = some ((), body))
      (nonempty : bytes.length ≠ 0)
      (isBody : CompiledMessage.decodeBody.run body = some (parsed, left)) :
      parseSolanaCompiledMessage bytes = some (parsedMessage parsed) := by
    simp only [parseSolanaCompiledMessage, Js.ensure, if_pos nonempty, isVersioned, marked,
      follows_readMessage isBody, some_bind]
    rfl
  cases bytes with
  | nil => cases decoded
  | cons first data =>
      change CompiledMessage.decode (first :: data) = _ at decoded
      rw [CompiledMessage.decode] at decoded
      split at decoded
      next legacy =>
        refine @parse false (first :: data) message rest ?_ rfl (Nat.succ_ne_zero _) decoded
        rw [decide_eq_false_iff_not, not_not]
        exact (toNat_lt_iff first).mp legacy
      next =>
        split at decoded
        next isV0 =>
          cases isV0
          obtain ⟨body, left, isBody, isLast⟩ := run_bind_eq_some.mp decoded
          obtain ⟨lookups, _, _, same⟩ := run_bind_eq_some.mp isLast
          cases same
          change parseSolanaCompiledMessage (0x80 :: data) = some (parsedMessage body)
          exact @parse true data body left (by rw [List.headD_cons]; decide) rfl
            (Nat.succ_ne_zero _) isBody
        next => cases decoded

/-! ## Deposits -/

/-- The data of a deposit. -/
def depositData (discriminator : Bytes) (amount : ℕ) (orderId : Bytes) : Bytes :=
  discriminator ++ littleEndian 8 amount ++ orderId

/-- All bytes are 0: the currency is native. -/
def IsNative (currency : Bytes) : Prop := ∀ byte ∈ currency, byte = 0

instance (currency : Bytes) : Decidable (IsNative currency) :=
  inferInstanceAs (Decidable (∀ byte ∈ currency, byte = 0))

/-- A message is the deposit of a trigger. -/
structure IsDeposit (trigger : DepositAddressTrigger)
    (attestation : DepositAddressTriggerAttestation) (message : CompiledMessage)
    (instruction : CompiledInstruction) (program depositor orderId currency : Bytes)
    (amount : ℕ) : Prop where
  isProgram : hex32Bytes attestation.inputDepository = some program
  isDepositor : hex32Bytes trigger.derivationFields.depositor = some depositor
  isOrderId : hex32Bytes trigger.orderId = some orderId
  isCurrency : hex32Bytes trigger.input.currency = some currency
  isAmount : trigger.input.amount.bigInt = some (amount : ℤ)
  amountFits : amount < 2 ^ 64
  signers : message.numRequiredSignatures = 1 ∨ message.numRequiredSignatures = 2
  only : message.instructions = [instruction]
  program : message.accountKeys[instruction.programIdIndex.toNat]? = some program
  senderSlot : instruction.accounts[1]? = some (message.numRequiredSignatures - 1)
  depositor : message.staticAccount instruction 2 = some depositor
  data : instruction.data = depositData
    (if IsNative currency then depositNativeDiscriminator else depositTokenDiscriminator)
    amount orderId
  accounts : instruction.accounts.length = if IsNative currency then 5 else 10
  mint : IsNative currency ∨ message.staticAccount instruction 4 = some currency

theorem assertDeposit_eq_some {ix : ParsedSolanaInstruction} {discriminator orderId : Bytes}
    (eight : discriminator.length = 8) {count : ℕ} {expectedAmount : ℤ} :
    assertDeposit ix discriminator count expectedAmount orderId = some () ↔
      orderId.length = 32 ∧ (∃ amount : ℕ, expectedAmount = amount ∧ amount < 2 ^ 64 ∧
        ix.data = depositData discriminator amount orderId) ∧
        ix.accountIndexes.length = count := by
  simp only [assertDeposit, bind_eq_some, Js.ensure_eq_some, bytesToNumberLE_eq]
  have total : depositArgsLen = 48 := rfl
  constructor
  · rintro ⟨_, length, _, rfl, _, counted, _, rfl, rfl⟩
    have slice (start count : ℕ) (inside : start + count ≤ ix.data.length) :
        ((ix.data.drop start).take count).length = count := by
      rw [List.length_take, List.length_drop]
      omega
    have eightBytes := slice 8 8 (by omega)
    have small := readLittleEndian_lt ((ix.data.drop 8).take 8)
    have back := littleEndian_readLittleEndian ((ix.data.drop 8).take 8)
    rw [eightBytes] at small back
    have last : (ix.data.drop 16).take 32 = (ix.data.drop 8).drop 8 := by
      rw [List.drop_drop, List.take_of_length_le (by rw [List.length_drop]; omega)]
    refine ⟨slice 16 32 (by omega), ⟨_, rfl, small, ?_⟩, counted⟩
    rw [depositData, back, last, List.append_assoc, List.take_append_drop, List.take_append_drop]
  · rintro ⟨idLength, ⟨amount, rfl, small, isData⟩, counted⟩
    have value : amount % 256 ^ 8 = amount := Nat.mod_eq_of_lt small
    rw [isData, depositData]
    refine ⟨(), ?_, (), ?_, (), counted, (), ?_, ?_⟩
    · simp [eight, idLength, total]
    · rw [List.append_assoc, List.take_left' eight]
    · rw [List.append_assoc, List.drop_left' eight, List.take_left' (length_littleEndian 8 amount),
        readLittleEndian_littleEndian, value]
    · rw [List.drop_left' (by simp [eight]), List.take_of_length_le (Nat.le_of_eq idLength)]

theorem assertAccount_parsed {index : ℕ} {key : Bytes} :
    assertAccount (parsedMessage message) (parsedInstruction instruction) index key = some () ↔
      message.staticAccount instruction index = some key := by
  simp only [assertAccount, resolveStaticKey, parsedMessage, parsedInstruction,
    CompiledMessage.staticAccount, List.getElem?_map, bind_eq_some, Option.map_eq_some_iff,
    Js.ensure_eq_some]
  constructor
  · rintro ⟨_, ⟨slot, isSlot, rfl⟩, found, isFound, rfl⟩
    exact ⟨slot, isSlot, isFound⟩
  · rintro ⟨slot, isSlot, isFound⟩
    exact ⟨_, ⟨slot, isSlot, rfl⟩, key, isFound, rfl⟩

theorem length_hex32Bytes {text bytes : Bytes} (read : hex32Bytes text = some bytes) :
    bytes.length = 32 := by
  simp only [hex32Bytes, bind_eq_some, Js.ensure_eq_some, Option.pure_def, Option.some_inj] at read
  obtain ⟨_, _, _, length, rfl⟩ := read
  exact length

/-- The checks of the instruction, for both kinds of deposits. -/
theorem verifyDeposit_parsed {depositor orderId currency : Bytes} (idLength : orderId.length = 32)
    {expectedAmount : ℤ} :
    (if ∀ byte ∈ currency, byte = 0 then
        verifyDepositNative (parsedMessage message) (parsedInstruction instruction) depositor
          expectedAmount orderId
      else verifyDepositToken (parsedMessage message) (parsedInstruction instruction) depositor
        expectedAmount orderId currency) = some () ↔
      (∃ amount : ℕ, expectedAmount = amount ∧ amount < 2 ^ 64 ∧
        instruction.data = depositData
          (if IsNative currency then depositNativeDiscriminator else depositTokenDiscriminator)
          amount orderId) ∧
      instruction.accounts.length = (if IsNative currency then 5 else 10) ∧
      message.staticAccount instruction 2 = some depositor ∧
      (IsNative currency ∨ message.staticAccount instruction 4 = some currency) := by
  have accounts : (parsedInstruction instruction).accountIndexes.length =
      instruction.accounts.length := List.length_map _
  have data : (parsedInstruction instruction).data = instruction.data := rfl
  by_cases native : IsNative currency
  · rw [if_pos (show ∀ byte ∈ currency, byte = 0 from native)]
    simp only [verifyDepositNative, bind_eq_some, Js.exists_unit,
      assertDeposit_eq_some (show depositNativeDiscriminator.length = 8 from rfl), idLength,
      assertAccount_parsed, accounts, data, true_and, native, if_true, true_or, and_true, and_assoc]
  · rw [if_neg (show ¬ ∀ byte ∈ currency, byte = 0 from native)]
    simp only [verifyDepositToken, bind_eq_some, Js.exists_unit,
      assertDeposit_eq_some (show depositTokenDiscriminator.length = 8 from rfl), idLength,
      assertAccount_parsed, accounts, data, true_and, native, if_false, false_or, and_assoc]

/-- The signer counts that are allowed. -/
theorem signers_iff {count : UInt8} :
    1 ≤ count.toNat ∧ count.toNat ≤ maxRequiredSignatures ↔ count = 1 ∨ count = 2 := by
  rw [← UInt8.toNat_inj, ← UInt8.toNat_inj, maxRequiredSignatures]
  change _ ↔ count.toNat = 1 ∨ count.toNat = 2
  omega

/-- The last signer slot. -/
theorem toNat_slot {count : UInt8} (signers : count = 1 ∨ count = 2) :
    (count - 1).toNat = count.toNat - 1 := by
  rcases signers with rfl | rfl
  · rfl
  · rfl

theorem senderSlot_iff
    (signers : message.numRequiredSignatures = 1 ∨ message.numRequiredSignatures = 2) :
    (parsedInstruction instruction).accountIndexes[anchorSenderIndex]? =
        some ((parsedMessage message).numRequiredSignatures - 1) ↔
      instruction.accounts[1]? = some (message.numRequiredSignatures - 1) := by
  simp only [parsedInstruction, parsedMessage, anchorSenderIndex, List.getElem?_map,
    ← toNat_slot signers, Option.map_eq_some_iff, UInt8.toNat_inj, exists_eq_right]

/-- The policy accepts exactly the deposits of the trigger. -/
theorem verifyMessage_parsed :
    verifyMessage trigger attestation (parsedMessage message) = some () ↔
      ∃ instruction program depositor orderId currency amount,
        IsDeposit trigger attestation message instruction program depositor orderId currency
          amount := by
  have single : (parsedMessage message).instructions = message.instructions.map parsedInstruction :=
    rfl
  rw [verifyMessage, single]
  constructor
  · intro accepted
    obtain ⟨_, signers, accepted⟩ := bind_eq_some.mp accepted
    have signers := signers_iff.mp (Js.ensure_eq_some.mp signers)
    match only : message.instructions with
    | [] | _ :: _ :: _ =>
        rw [only] at accepted
        cases accepted
    | [instruction] =>
        rw [only] at accepted
        simp only [List.map_cons, List.map_nil, bind_eq_some, Js.ensure_eq_some] at accepted
        obtain ⟨_, slot, program, isProgram, key, isKey, _, rfl, depositor, isDepositor, value,
          isAmount, orderId, isOrderId, currency, isCurrency, checked⟩ := accepted
        obtain ⟨⟨amount, rfl, small, isData⟩, count, isTarget, isMint⟩ :=
          (verifyDeposit_parsed (length_hex32Bytes isOrderId)).mp checked
        exact ⟨instruction, key, depositor, orderId, currency, amount, isProgram, isDepositor,
          isOrderId, isCurrency, isAmount, small, signers, only, isKey,
          (senderSlot_iff signers).mp slot, isTarget, isData, count, isMint⟩
  · rintro ⟨instruction, program, depositor, orderId, currency, amount, deposit⟩
    have checked := (verifyDeposit_parsed (length_hex32Bytes deposit.isOrderId)).mpr
      ⟨⟨amount, rfl, deposit.amountFits, deposit.data⟩, deposit.accounts, deposit.depositor,
        deposit.mint⟩
    have slot := (senderSlot_iff deposit.signers).mpr deposit.senderSlot
    rw [deposit.only]
    simp only [List.map_cons, List.map_nil, bind_eq_some, Js.ensure_eq_some]
    exact ⟨(), signers_iff.mpr deposit.signers, (), slot, program, deposit.isProgram, program,
      deposit.program, (), rfl, depositor, deposit.isDepositor, amount, deposit.isAmount, orderId,
      deposit.isOrderId, currency, deposit.isCurrency, checked⟩

section Signing

variable {Point : Type} [AddCommGroup Point] {solana : SolanaRuntime}
variable {curve : Ed25519 Point} {privateKey : Bytes}
variable {transaction : SolanaVmTransaction}
variable (isBytes : solana.base64ToBytes transaction.message = some bytes)
variable (decoded : CompiledMessage.decode.run bytes = some (message, rest))
include isBytes decoded

/-- What a signed transaction has passed, and what is signed. -/
theorem signTransactionWithKey_eq_some {signed : SolanaVmSignedTransaction}
    (returned : signTransactionWithKey solana curve privateKey transaction = some signed) :
    ∃ wallet signature, curve.getPublicKey privateKey = some wallet ∧
      message.accountKeys[message.numRequiredSignatures.toNat - 1]? = some wallet ∧
      curve.signEd25519Bip32 bytes privateKey = some signature ∧
      signed.signature = Js.writeHex signature := by
  simp only [signTransactionWithKey, isBytes, parse_of_decode decoded, some_bind, bind_eq_some,
    Js.ensure_eq_some, Option.pure_def, Option.some_inj] at returned
  obtain ⟨_, _, _, _, wallet, isWallet, _, slot, signature, isSignature, _, _, rfl⟩ := returned
  exact ⟨wallet, signature, isWallet, slot, isSignature, rfl⟩

theorem exists_signTransactionWithKey {wallet signature : Bytes}
    (signers : message.numRequiredSignatures = 1 ∨ message.numRequiredSignatures = 2)
    (isWallet : curve.getPublicKey privateKey = some wallet)
    (slot : message.accountKeys[message.numRequiredSignatures.toNat - 1]? = some wallet)
    (isSignature : curve.signEd25519Bip32 bytes privateKey = some signature)
    (length : ∀ point, (curve.toBytes point).length = 32) :
    ∃ signed, signTransactionWithKey solana curve privateKey transaction = some signed := by
  have nonempty : bytes.length ≠ 0 := by
    intro empty
    rw [List.length_eq_zero_iff.mp empty] at decoded
    cases decoded
  have allowed := signers_iff.mpr signers
  have room : (message.numRequiredSignatures.toNat - 1) * 64 + signature.length ≤
      (List.replicate (message.numRequiredSignatures.toNat * 64) (0 : UInt8)).length := by
    rw [List.length_replicate, Ed25519.length_signEd25519Bip32 length isSignature]
    omega
  simp only [signTransactionWithKey, isBytes, parse_of_decode decoded, isWallet, isSignature,
    Js.ensure, setBytes, parsedMessage, if_pos nonempty, if_pos allowed, if_pos slot, if_pos room,
    some_bind, Option.pure_def]
  exact ⟨_, rfl⟩

end Signing

/-- The key of the last signer slot is the account of the sender. -/
theorem IsDeposit.sender {program depositor orderId currency : Bytes} {amount : ℕ}
    (deposit : IsDeposit trigger attestation message instruction program depositor orderId currency
      amount) :
    message.staticAccount instruction 1 =
      message.accountKeys[message.numRequiredSignatures.toNat - 1]? := by
  rw [CompiledMessage.staticAccount, deposit.senderSlot, some_bind, toNat_slot deposit.signers]

end Messages

/-- A signed message that Solana decodes is the deposit of the trigger from the wallet that signs,
and every deposit from the wallet is accepted and signed. -/
theorem solana_policy_exact {Point : Type} [AddCommGroup Point] (solana : SolanaRuntime)
    (curve : Ed25519 Point) (trigger : DepositAddressTrigger)
    (attestation : DepositAddressTriggerAttestation) (privateKey : Bytes) :
    (∀ (transactions : List SolanaVmTransaction) (transaction : SolanaVmTransaction)
        (signed : SolanaVmSignedTransaction) (bytes rest : Bytes) (message : CompiledMessage),
      transaction ∈ transactions →
      verifyTransactions solana trigger attestation transactions = some () →
      signTransactionWithKey solana curve privateKey transaction = some signed →
      solana.base64ToBytes transaction.message = some bytes →
      CompiledMessage.decode.run bytes = some (message, rest) →
      ∃ wallet signature instruction program depositor orderId currency amount,
        curve.getPublicKey privateKey = some wallet ∧
        curve.signEd25519Bip32 bytes privateKey = some signature ∧
        signed.signature = Js.writeHex signature ∧
        IsDeposit trigger attestation message instruction program depositor orderId currency
          amount ∧
        message.staticAccount instruction 1 = some wallet) ∧
    ∀ (transaction : SolanaVmTransaction) (message : CompiledMessage)
        (instruction : CompiledInstruction) (wallet signature program depositor orderId currency :
          Bytes) (amount : ℕ),
      message.WellFormed →
      solana.base64ToBytes transaction.message = some message.serialize →
      IsDeposit trigger attestation message instruction program depositor orderId currency
        amount →
      curve.getPublicKey privateKey = some wallet →
      message.staticAccount instruction 1 = some wallet →
      curve.signEd25519Bip32 message.serialize privateKey = some signature →
      (∀ point, (curve.toBytes point).length = 32) →
      verifyTransactions solana trigger attestation [transaction] = some () ∧
        ∃ signed, signTransactionWithKey solana curve privateKey transaction = some signed := by
  constructor
  · intro transactions transaction signed bytes rest message listed accepted returned isBytes
      decoded
    match transactions with
    | [] => cases listed
    | _ :: _ :: _ => cases accepted
    | [only] =>
        cases List.mem_singleton.mp listed
        simp only [verifyTransactions, isBytes, parse_of_decode decoded, some_bind] at accepted
        obtain ⟨instruction, program, depositor, orderId, currency, amount, deposit⟩ :=
          verifyMessage_parsed.mp accepted
        obtain ⟨wallet, signature, isWallet, slot, isSignature, isSigned⟩ :=
          signTransactionWithKey_eq_some isBytes decoded returned
        exact ⟨wallet, signature, instruction, program, depositor, orderId, currency, amount,
          isWallet, isSignature, isSigned, deposit, deposit.sender.trans slot⟩
  · intro transaction message instruction wallet signature program depositor orderId currency
      amount wellFormed isBytes deposit isWallet isSender isSignature length
    have decoded := CompiledMessage.run_decode wellFormed []
    rw [List.append_nil] at decoded
    constructor
    · simp only [verifyTransactions, isBytes, parse_of_decode decoded, some_bind]
      exact verifyMessage_parsed.mpr
        ⟨instruction, program, depositor, orderId, currency, amount, deposit⟩
    · exact exists_signTransactionWithKey isBytes decoded deposit.signers isWallet
        (deposit.sender.symm.trans isSender) isSignature length

/-! ## A deposit -/

namespace SampleInstruction

open SampleDeposit

/-- Texts stand for themselves. -/
def solana : SolanaRuntime where
  base64ToBytes := some
  bytesToBase64 := id

def instruction : CompiledInstruction where
  programIdIndex := 2
  accounts := [2, 0, 1, 2, 2]
  data := depositData depositNativeDiscriminator 20 (Abi.word 7)

/-- The deposit of the trigger by account 1, which pays the fee too. -/
def message : CompiledMessage where
  numRequiredSignatures := 1
  numReadonlySigned := 0
  numReadonlyUnsigned := 2
  accountKeys := [Abi.word 1, Abi.word 30, Abi.word 90]
  recentBlockhash := Abi.word 0
  instructions := [instruction]
  addressTableLookups := some []

theorem wellFormed : message.WellFormed where
  few := by decide
  keys := by decide +kernel
  blockhash := by decide +kernel
  fewInstructions := by decide
  instructions := by
    intro listed isListed
    cases List.mem_singleton.mp isListed
    exact ⟨by decide, by decide +kernel⟩
  legacy := by
    intro none
    cases none
  lookups := by
    intro lookups isLookups
    cases isLookups
    exact ⟨by decide, List.forall_mem_nil _⟩

theorem deposit : IsDeposit trigger32 attestation32 message instruction (Abi.word 90) (Abi.word 30)
    (Abi.word 7) (Abi.word 0) 20 where
  isProgram := by decide +kernel
  isDepositor := by decide +kernel
  isOrderId := by decide +kernel
  isCurrency := by decide +kernel
  isAmount := by decide +kernel
  amountFits := by decide
  signers := by decide
  only := rfl
  program := rfl
  senderSlot := rfl
  depositor := rfl
  data := by decide +kernel
  accounts := by decide +kernel
  mint := by decide +kernel

end SampleInstruction

open SampleDeposit SampleInstruction in
theorem solana_policy_exact_sample :
    ∃ signed, verifyTransactions solana trigger32 attestation32 [⟨message.serialize⟩] = some () ∧
      signTransactionWithKey solana curve32 SampleKeys.privateKey ⟨message.serialize⟩ =
        some signed ∧
      ∃ found program depositor orderId currency amount,
        IsDeposit trigger32 attestation32 message found program depositor orderId currency
          amount ∧ message.staticAccount found 1 = some (Abi.word 1) := by
  obtain ⟨sound, complete⟩ := solana_policy_exact solana curve32 trigger32 attestation32
    SampleKeys.privateKey
  have isWallet : curve32.getPublicKey SampleKeys.privateKey = some (Abi.word 1) := by
    decide +kernel
  obtain ⟨signature, isSignature⟩ := Option.isSome_iff_exists.mp (by decide +kernel :
    (curve32.signEd25519Bip32 message.serialize SampleKeys.privateKey).isSome = true)
  obtain ⟨accepted, signed, isSigned⟩ := complete ⟨message.serialize⟩ message instruction
    (Abi.word 1) signature _ _ _ _ _ wellFormed rfl deposit isWallet rfl isSignature
    fun _ => length_littleEndian ..
  have decoded := CompiledMessage.run_decode wellFormed []
  rw [List.append_nil] at decoded
  obtain ⟨wallet, _, found, program, depositor, orderId, currency, amount, same, _, _,
    isDeposit, isSender⟩ := sound _ _ _ _ _ _ List.mem_cons_self accepted isSigned rfl decoded
  cases same.symm.trans isWallet
  exact ⟨signed, accepted, isSigned, found, program, depositor, orderId, currency, amount,
    isDeposit, isSender⟩

end SolanaVm

end RelaySettlement.LitDepositAddress
