import RelaySettlement.Evm.Calldata
import RelaySettlement.LitDepositAddress.EthereumVm

/-!
# The calls of EVM deposits

What a trigger and its attestation ask for is one call of `depositNative`, or calls of `approve`
and `depositErc20`.  The policy compares the selector, the length and the arguments of the calls,
but of an argument that is an address only the low twenty bytes.
-/

open Evm

namespace RelaySettlement.LitDepositAddress.EthereumVm

open Js

/-! ## The calls of a deposit -/

/-- The call that a transaction makes; `target` is empty if it creates a contract. -/
@[ext] structure Call where
  target : Bytes
  value : ℕ
  data : Bytes
deriving DecidableEq

/-- An argument that is one word. -/
inductive Argument where
  | address (account : Address)
  | word (value : U256)

def Argument.value : Argument → U256
  | .address account => account.setWidth 256
  | .word value => value

structure ExpectedCall where
  target : Address
  value : ℕ
  signature : String
  arguments : List Argument

def ExpectedCall.call (expected : ExpectedCall) : Call where
  target := Abi.bigEndian 20 expected.target.toNat
  value := expected.value
  data := Abi.calldata expected.signature ((expected.arguments.map Argument.value).map .word)

/-- What is deposited, and where. -/
structure Deposit where
  currency : Address
  depository : Address
  depositor : Address
  amount : ℕ
  orderId : Bytes32

/-- A text names an address, with or without `0x`. -/
def Names (text : Bytes) (account : Address) : Prop :=
  hexToBytes text = some (Abi.bigEndian 20 account.toNat)

/-- The deposit that a trigger and its attestation are for. -/
structure Deposit.Denotes (deposit : Deposit) (trigger : DepositAddressTrigger)
    (attestation : DepositAddressTriggerAttestation) : Prop where
  currency : Names trigger.input.currency deposit.currency
  depository : Names attestation.inputDepository deposit.depository
  depositor : Names trigger.derivationFields.depositor deposit.depositor
  amount : trigger.input.amount.bigInt = some (deposit.amount : ℤ)
  orderId : Text.toLowerCase trigger.orderId = writeHex (Abi.word deposit.orderId)

namespace Deposit

variable (deposit : Deposit)

def depositNative : ExpectedCall where
  target := deposit.depository
  value := deposit.amount
  signature := "depositNative(address,bytes32)"
  arguments := [.address deposit.depositor, .word deposit.orderId]

def approve : ExpectedCall where
  target := deposit.currency
  value := 0
  signature := "approve(address,uint256)"
  arguments := [.address deposit.depository, .word (BitVec.ofNat 256 deposit.amount)]

def depositErc20 : ExpectedCall where
  target := deposit.depository
  value := 0
  signature := "depositErc20(address,address,uint256,bytes32)"
  arguments := [.address deposit.depositor, .address deposit.currency,
    .word (BitVec.ofNat 256 deposit.amount), .word deposit.orderId]

/-- An amount that does not fit into a word has no encoding. -/
def expectedCalls : Option (List ExpectedCall) :=
  if deposit.currency = 0 then some [deposit.depositNative]
  else if deposit.amount < 2 ^ 256 then some [deposit.approve, deposit.depositErc20]
  else none

end Deposit

/-- The calls are the deposit that a trigger and its attestation are for, byte for byte. -/
def IsDeposit (trigger : DepositAddressTrigger) (attestation : DepositAddressTriggerAttestation)
    (calls : List Call) : Prop :=
  ∃ (deposit : Deposit) (expected : List ExpectedCall), deposit.Denotes trigger attestation ∧
    deposit.expectedCalls = some expected ∧ calls = expected.map ExpectedCall.call

/-- The twelve bytes before the address in an argument are zero. -/
def PaddedAt (call : Call) (index : ℕ) : Prop :=
  (Abi.argument call.data index).take 12 = List.replicate 12 0

/-- The address arguments of a deposit are padded with zeros. -/
def AddressArgumentsPadded : List Call → Prop
  | [deposit] => PaddedAt deposit 0
  | [approve, deposit] => PaddedAt approve 0 ∧ PaddedAt deposit 0 ∧ PaddedAt deposit 1
  | _ => True

/-- viem shows the call of a transaction. -/
structure ParsedTransaction.Shows {Rest : Type} (parsed : ParsedTransaction Rest) (call : Call) :
    Prop where
  target : parsed.target = if call.target = [] then none else some (writeHex call.target)
  value : parsed.value.getD 0 = call.value
  data : parsed.data.getD (Abi.utf8 "0x") = writeHex call.data

/-- A text is parsed exactly if it is a transaction, and to the call that the transaction makes
once it is signed. -/
def TransactionCodec.Faithful {Rest : Type} (codec : TransactionCodec Rest)
    (callOf : Bytes → Option Call) : Prop :=
  ∀ text, Option.Rel ParsedTransaction.Shows (codec.parseTransaction text) (callOf text)

/-! ## What the policy compares -/

theorem hexToBytes_writeHex (data : Bytes) : hexToBytes (writeHex data) = some data :=
  readHex_hex data

theorem Names.unique {text : Bytes} {account account' : Address} (names : Names text account)
    (names' : Names text account') : account = account' := by
  have same := names.symm.trans names'
  exact (Abi.bigEndian_toNat_inj (by decide)).mp (Option.some.inj same)

theorem Names.exists_iff {text : Bytes} {account : Address} {property : Address → Prop}
    (names : Names text account) :
    (∃ account, Names text account ∧ property account) ↔ property account :=
  ⟨fun ⟨_, names', holds⟩ => names.unique names' ▸ holds, fun holds => ⟨account, names, holds⟩⟩

theorem encodeEthereumAddressToHex_eq_some {address result : Bytes} :
    encodeEthereumAddressToHex address = some result ↔
      ∃ account : Address, Names address account ∧ result = addressText account := by
  simp only [encodeEthereumAddressToHex, encodeEthereumAddress, bind_eq_some, ensure_eq_some,
    Option.pure_def, Option.some_inj]
  constructor
  · rintro ⟨_, ⟨encoded, isEncoded, _, length, rfl⟩, rfl⟩
    obtain ⟨account, rfl⟩ := Abi.exists_address length
    exact ⟨account, isEncoded, rfl⟩
  · rintro ⟨account, named, rfl⟩
    exact ⟨_, ⟨_, named, (), Abi.length_bigEndian 20 _, rfl⟩, rfl⟩

theorem names_addressText {account account' : Address} :
    Names (addressText account) account' ↔ account = account' := by
  rw [Names, addressText, hexToBytes_writeHex, Option.some_inj]
  exact Abi.bigEndian_toNat_inj (by decide)

theorem normalizeEthereumAddressHex_eq_some {text result : Bytes} :
    normalizeEthereumAddressHex text = some result ↔
      ∃ account : Address, Names text account ∧ addressText account = result := by
  simp only [normalizeEthereumAddressHex, decodeEthereumAddress, bind_eq_some, ensure_eq_some,
    Option.pure_def, Option.some_inj, encodeEthereumAddressToHex_eq_some]
  constructor
  · rintro ⟨encoded, isEncoded, _, ⟨_, length, rfl⟩, _, ⟨account, named, rfl⟩, rfl⟩
    rw [Names, hexToBytes_writeHex] at named
    exact ⟨account, isEncoded.trans named, (toLowerCase_writeHex _).symm⟩
  · rintro ⟨account, named, rfl⟩
    exact ⟨_, named, _, ⟨(), Abi.length_bigEndian 20 _, rfl⟩, _,
      ⟨account, names_addressText.mpr rfl, rfl⟩, toLowerCase_writeHex _⟩

section Arguments

variable (data : Bytes) (index : ℕ)

theorem wordAt_writeHex : wordAt (writeHex data) index = Text.hex (Abi.argument data index) := by
  have start : 2 + 8 + index * wordHexLen = 2 * (4 + 32 * index) + 1 + 1 := by
    rw [wordHexLen]
    ring
  rw [wordAt, start, writeHex, List.drop_succ_cons, List.drop_succ_cons, drop_hex, wordHexLen,
    take_hex 32, Abi.argument]

theorem utf8_mark : Abi.utf8 "0x" = [48, 120] := by decide +kernel

theorem decodeAddressArg_writeHex :
    decodeAddressArg (writeHex data) index = writeHex ((Abi.argument data index).drop 12) := by
  rw [decodeAddressArg, wordAt_writeHex, drop_hex 12, utf8_mark, ← toLowerCase_writeHex]
  rfl

theorem decodeBytes32Arg_writeHex :
    decodeBytes32Arg (writeHex data) index = writeHex (Abi.argument data index) := by
  rw [decodeBytes32Arg, wordAt_writeHex, utf8_mark, ← toLowerCase_writeHex]
  rfl

theorem decodeUint256Arg_writeHex (filled : Abi.argument data index ≠ []) :
    decodeUint256Arg (writeHex data) index =
      some (Abi.readBigEndian (Abi.argument data index) : ℤ) := by
  rw [decodeUint256Arg, wordAt_writeHex, utf8_mark]
  exact bigInt_writeHex filled

variable {data index}

theorem names_writeHex {account : Address} :
    Names (writeHex data) account ↔ data = Abi.bigEndian 20 account.toNat := by
  rw [Names, hexToBytes_writeHex, Option.some_inj]

/-- The policy compares twenty bytes of an address argument. -/
theorem assertAddressArg_eq_some {expected : Bytes} :
    assertAddressArg (writeHex data) index expected = some () ↔
      ∃ account : Address, Names expected account ∧
        (Abi.argument data index).drop 12 = Abi.bigEndian 20 account.toNat := by
  simp only [assertAddressArg, decodeAddressArg_writeHex, bind_eq_some, ensure_eq_some,
    encodeEthereumAddressToHex_eq_some, normalizeEthereumAddressHex_eq_some, names_writeHex]
  constructor
  · rintro ⟨_, ⟨actual, isActual, rfl⟩, _, ⟨account, named, rfl⟩, same⟩
    rw [addressText, toLowerCase_writeHex] at same
    exact ⟨account, named, isActual.trans (writeHex_inj same)⟩
  · rintro ⟨account, named, isActual⟩
    exact ⟨_, ⟨account, isActual, rfl⟩, _, ⟨account, named, rfl⟩, toLowerCase_writeHex _⟩

theorem assertBytes32Arg_eq_some {expected : Bytes} :
    assertBytes32Arg (writeHex data) index expected = some () ↔
      Text.toLowerCase expected = writeHex (Abi.argument data index) := by
  rw [assertBytes32Arg, ensure_eq_some, decodeBytes32Arg_writeHex, toLowerCase_writeHex]
  exact eq_comm

theorem assertUint256Arg_eq_some {amount : ℤ} {count : ℕ} (size : data.length = 4 + 32 * count)
    (inside : index < count) :
    assertUint256Arg (writeHex data) index amount = some () ↔
      ∃ n : ℕ, amount = n ∧ n < 2 ^ 256 ∧
        Abi.argument data index = Abi.word (BitVec.ofNat 256 n) := by
  have length := Abi.length_argument size inside
  have filled : Abi.argument data index ≠ [] := by
    intro empty
    rw [empty] at length
    cases length
  simp only [assertUint256Arg, decodeUint256Arg_writeHex data index filled, some_bind,
    ensure_eq_some]
  constructor
  · rintro rfl
    have bound := Abi.readBigEndian_lt (Abi.argument data index)
    rw [length] at bound
    exact ⟨_, rfl, bound, (Abi.word_readBigEndian length).symm⟩
  · rintro ⟨n, rfl, small, isWord⟩
    rw [isWord, Abi.word, Abi.readBigEndian_bigEndian, BitVec.toNat_ofNat,
      Nat.mod_eq_of_lt small]
    exact congrArg Nat.cast (Nat.mod_eq_of_lt small)

end Arguments

section Fields

variable {Rest : Type} {parsed : ParsedTransaction Rest} {call : Call} (shows : parsed.Shows call)

include shows

theorem assertTo_eq_some {account : Address} :
    assertTo parsed (addressText account) = some () ↔
      call.target = Abi.bigEndian 20 account.toNat := by
  simp only [assertTo, shows.target, bind_eq_some, ensure_eq_some,
    encodeEthereumAddressToHex_eq_some]
  constructor
  · rintro ⟨_, isTarget, _, ⟨actual, named, rfl⟩, same⟩
    obtain ⟨_, ⟨⟩⟩ := Option.ite_none_left_eq_some.mp isTarget
    rw [names_writeHex] at named
    rw [addressText, toLowerCase_writeHex] at same
    exact named.trans (writeHex_inj same)
  · intro isTarget
    have filled : call.target ≠ [] := by
      rw [isTarget]
      exact List.cons_ne_nil _ _
    exact ⟨_, if_neg filled, _, ⟨account, names_writeHex.mpr isTarget, rfl⟩,
      toLowerCase_writeHex _⟩

theorem callData_eq_some {selector data : Bytes} {arguments : ℕ} (length : selector.length = 4) :
    callData parsed (writeHex selector) arguments = some data ↔
      call.data.take 4 = selector ∧ call.data.length = 4 + 32 * arguments ∧
        data = writeHex call.data := by
  have starts : writeHex selector <+: writeHex call.data ↔ call.data.take 4 = selector := by
    rw [List.prefix_iff_eq_take, writeHex, writeHex, List.length_cons, List.length_cons,
      Text.length_hex, length, List.take_succ_cons, List.take_succ_cons, take_hex]
    constructor
    · exact fun same => (writeHex_inj same).symm
    · exact fun same => congrArg writeHex same.symm
  have long : (writeHex call.data).length = 2 + 8 + arguments * wordHexLen ↔
      call.data.length = 4 + 32 * arguments := by
    rw [writeHex, List.length_cons, List.length_cons, Text.length_hex, wordHexLen]
    omega
  simp only [callData, shows.data, toLowerCase_writeHex, bind_eq_some, ensure_eq_some,
    Option.pure_def, Option.some_inj, starts, long, exists_const]
  tauto

end Fields

/-! ## Exact calls -/

namespace Argument

/-- Of an address, only the low twenty bytes are compared. -/
def Agrees : Argument → Bytes → Prop
  | .address account, data => data.drop 12 = Abi.bigEndian 20 account.toNat
  | .word value, data => data = Abi.word value

def Padded : Argument → Bytes → Prop
  | .address _, data => data.take 12 = List.replicate 12 0
  | .word _, _ => True

theorem eq_word_iff {argument : Argument} {data : Bytes} :
    data = Abi.word argument.value ↔ argument.Agrees data ∧ argument.Padded data := by
  cases argument with
  | address account => exact Abi.eq_word_address_iff.trans and_comm
  | word value => exact (iff_of_eq (and_true _)).symm

end Argument

/-- What holds of each value in a list holds of all of them. -/
theorem eq_map_iff {α β : Type} {f : α → β} {r s : α → β → Prop}
    (each : ∀ {a b}, b = f a ↔ r a b ∧ s a b) {as : List α} {bs : List β} :
    bs = as.map f ↔ List.Forall₂ r as bs ∧ List.Forall₂ s as bs := by
  induction as generalizing bs with
  | nil => cases bs <;> simp
  | cons a as ih =>
      cases bs with
      | nil => simp
      | cons b bs =>
          simp only [List.map_cons, List.cons.injEq, List.forall₂_cons, ih, each]
          tauto

/-- The policy finds nothing wrong with a call. -/
structure ExpectedCall.Agrees (expected : ExpectedCall) (call : Call) : Prop where
  target : call.target = Abi.bigEndian 20 expected.target.toNat
  value : call.value = expected.value
  selector : call.data.take 4 = Abi.selector expected.signature
  length : call.data.length = 4 + 32 * expected.arguments.length
  arguments : List.Forall₂ Argument.Agrees expected.arguments
    ((List.range expected.arguments.length).map (Abi.argument call.data))

def ExpectedCall.Padded (expected : ExpectedCall) (call : Call) : Prop :=
  List.Forall₂ Argument.Padded expected.arguments
    ((List.range expected.arguments.length).map (Abi.argument call.data))

theorem ExpectedCall.eq_call_iff {expected : ExpectedCall} {call : Call} :
    call = expected.call ↔ expected.Agrees call ∧ expected.Padded call := by
  have isData : call.data = expected.call.data ↔
      call.data.length = 4 + 32 * expected.arguments.length ∧
        call.data.take 4 = Abi.selector expected.signature ∧
        List.Forall₂ Argument.Agrees expected.arguments
          ((List.range expected.arguments.length).map (Abi.argument call.data)) ∧
        expected.Padded call := by
    rw [ExpectedCall.call, Abi.eq_calldata_iff, List.length_map, List.map_map,
      ExpectedCall.Padded, ← eq_map_iff Argument.eq_word_iff]
    rfl
  constructor
  · rintro rfl
    obtain ⟨length, selector, agree, padded⟩ := isData.mp rfl
    exact ⟨⟨rfl, rfl, selector, length, agree⟩, padded⟩
  · rintro ⟨agrees, padded⟩
    have same := isData.mpr ⟨agrees.length, agrees.selector, agrees.arguments, padded⟩
    exact Call.ext agrees.target agrees.value same

namespace Deposit

variable {deposit : Deposit} {call : Call}

theorem padded_depositNative : deposit.depositNative.Padded call ↔ PaddedAt call 0 := by
  simp [ExpectedCall.Padded, depositNative, Argument.Padded, PaddedAt, List.range_succ]

theorem padded_approve : deposit.approve.Padded call ↔ PaddedAt call 0 := by
  simp [ExpectedCall.Padded, approve, Argument.Padded, PaddedAt, List.range_succ]

theorem padded_depositErc20 :
    deposit.depositErc20.Padded call ↔ PaddedAt call 0 ∧ PaddedAt call 1 := by
  simp [ExpectedCall.Padded, depositErc20, Argument.Padded, PaddedAt, List.range_succ]

/-- The policy accepts the calls for a deposit. -/
def Accepts (deposit : Deposit) (calls : List Call) : Prop :=
  ∃ expected, deposit.expectedCalls = some expected ∧
    List.Forall₂ ExpectedCall.Agrees expected calls

/-- Accepted calls are exact if their address arguments are padded with zeros. -/
theorem calls_eq_iff {expected : List ExpectedCall} {calls : List Call}
    (isExpected : deposit.expectedCalls = some expected) :
    calls = expected.map ExpectedCall.call ↔
      List.Forall₂ ExpectedCall.Agrees expected calls ∧ AddressArgumentsPadded calls := by
  rw [eq_map_iff ExpectedCall.eq_call_iff]
  apply and_congr_right
  intro agree
  rw [expectedCalls] at isExpected
  split_ifs at isExpected
  · cases isExpected
    obtain ⟨call, _, _, none, rfl⟩ := List.forall₂_cons_left_iff.mp agree
    cases none
    simp [padded_depositNative, AddressArgumentsPadded]
  · cases isExpected
    obtain ⟨approve, _, _, last, rfl⟩ := List.forall₂_cons_left_iff.mp agree
    obtain ⟨call, _, _, none, rfl⟩ := List.forall₂_cons_left_iff.mp last
    cases none
    simp [padded_approve, padded_depositErc20, AddressArgumentsPadded]

end Deposit

/-! ## The policy and the calls -/

theorem zeroAddress_eq : zeroAddress = addressText 0 := by decide +kernel

theorem depositNativeSelector_eq :
    depositNativeSelector = writeHex (Abi.selector "depositNative(address,bytes32)") := by
  decide +kernel

theorem erc20ApproveSelector_eq :
    erc20ApproveSelector = writeHex (Abi.selector "approve(address,uint256)") := by
  decide +kernel

theorem depositErc20Selector_eq :
    depositErc20Selector =
      writeHex (Abi.selector "depositErc20(address,address,uint256,bytes32)") := by
  decide +kernel

section Policy

variable {Rest : Type} {codec : TransactionCodec Rest} {callOf : Bytes → Option Call}
  (faithful : codec.Faithful callOf) {trigger : DepositAddressTrigger}
  {attestation : DepositAddressTriggerAttestation} {transactions : List EthereumVmTransaction}

include faithful

theorem parsed_cases (text : Bytes) :
    (codec.parseTransaction text = none ∧ callOf text = none) ∨
      ∃ parsed call, codec.parseTransaction text = some parsed ∧ callOf text = some call ∧
        parsed.Shows call := by
  have related := faithful text
  generalize codec.parseTransaction text = parsed at related ⊢
  generalize callOf text = call at related ⊢
  cases related with
  | none => exact .inl ⟨rfl, rfl⟩
  | some shows => exact .inr ⟨_, _, rfl, rfl, shows⟩

variable {currency : Address} (named : Names trigger.input.currency currency)

include named

theorem verifyNativeDeposit_eq_some :
    verifyNativeDeposit codec trigger attestation transactions = some () ↔
      ∃ deposit : Deposit, deposit.currency = currency ∧ deposit.Denotes trigger attestation ∧
        ∃ calls : List Call, List.Forall₂ (fun transaction call =>
            callOf transaction.unsignedTransaction = some call) transactions calls ∧
          List.Forall₂ ExpectedCall.Agrees [deposit.depositNative] calls := by
  match transactions with
  | [] => simp [verifyNativeDeposit]
  | _ :: _ :: _ => simp [verifyNativeDeposit, List.forall₂_cons_left_iff]
  | [transaction] =>
      rcases parsed_cases faithful transaction.unsignedTransaction with
        ⟨isParsed, isCall⟩ | ⟨parsed, call, isParsed, isCall, shows⟩
      · simp [verifyNativeDeposit, List.forall₂_cons_left_iff, isParsed, isCall]
      simp only [verifyNativeDeposit, isParsed, some_bind, bind_eq_some, exists_unit,
        ensure_eq_some, normalizeEthereumAddressHex_eq_some, exists_exists_and_eq_and,
        assertTo_eq_some shows, shows.value, depositNativeSelector_eq,
        callData_eq_some shows (Abi.length_selector _), and_assoc, exists_and_left, exists_eq_left,
        assertAddressArg_eq_some, assertBytes32Arg_eq_some, List.forall₂_cons_left_iff,
        List.forall₂_nil_left_iff, isCall, Option.some.injEq, existsAndEq, and_true, true_and,
        List.cons.injEq]
      constructor
      · rintro ⟨depository, isDepository, target, isAmount, selector, length,
          ⟨depositor, isDepositor, agrees⟩, isOrderId⟩
        have isWord := Abi.word_readBigEndian (Abi.length_argument length (by decide : 1 < 2))
        rw [← isWord] at isOrderId
        exact ⟨⟨currency, depository, depositor, _, _⟩, rfl,
          ⟨named, isDepository, isDepositor, isAmount, isOrderId⟩, target, rfl, selector, length,
          .cons agrees (.cons isWord.symm .nil)⟩
      · rintro ⟨deposit, rfl, denotes, target, value, selector, length, arguments⟩
        obtain ⟨depositor, orderId⟩ := List.forall₂_cons.mp arguments
        have isWord : Abi.argument call.data 1 = _ := (List.forall₂_cons.mp orderId).1
        exact ⟨_, denotes.depository, target, value ▸ denotes.amount, selector, length,
          ⟨_, denotes.depositor, depositor⟩, isWord ▸ denotes.orderId⟩

theorem verifyErc20Deposit_eq_some :
    verifyErc20Deposit codec trigger attestation transactions = some () ↔
      ∃ deposit : Deposit, deposit.currency = currency ∧ deposit.Denotes trigger attestation ∧
        deposit.amount < 2 ^ 256 ∧ ∃ calls : List Call, List.Forall₂ (fun transaction call =>
            callOf transaction.unsignedTransaction = some call) transactions calls ∧
          List.Forall₂ ExpectedCall.Agrees [deposit.approve, deposit.depositErc20] calls := by
  match transactions with
  | [] => simp [verifyErc20Deposit]
  | [_] => simp [verifyErc20Deposit, List.forall₂_cons_left_iff]
  | _ :: _ :: _ :: _ => simp [verifyErc20Deposit, List.forall₂_cons_left_iff]
  | [approve, transaction] =>
      rcases parsed_cases faithful approve.unsignedTransaction with
        ⟨isParsed, isCall⟩ | ⟨parsed, call, isParsed, isCall, shows⟩
      · simp [verifyErc20Deposit, List.forall₂_cons_left_iff, isParsed, isCall]
      rcases parsed_cases faithful transaction.unsignedTransaction with
        ⟨isParsed', isCall'⟩ | ⟨parsed', call', isParsed', isCall', shows'⟩
      · simp [verifyErc20Deposit, List.forall₂_cons_left_iff, isParsed', isCall']
      simp only [verifyErc20Deposit, isParsed, isParsed', some_bind, bind_eq_some, exists_unit,
        assertZeroValue, ensure_eq_some, normalizeEthereumAddressHex_eq_some,
        exists_exists_and_eq_and, assertTo_eq_some shows, assertTo_eq_some shows', shows.value,
        shows'.value, erc20ApproveSelector_eq, depositErc20Selector_eq,
        callData_eq_some shows (Abi.length_selector _),
        callData_eq_some shows' (Abi.length_selector _), and_assoc, exists_and_left,
        exists_eq_left, assertAddressArg_eq_some, named.exists_iff, assertBytes32Arg_eq_some,
        List.forall₂_cons_left_iff, List.forall₂_nil_left_iff, isCall, isCall',
        Option.some.injEq, existsAndEq, and_true, true_and, List.cons.injEq]
      constructor
      · rintro ⟨_, isAmount, value, target, selector, length, ⟨depository, isDepository, spender⟩,
          approved, value', _, isTarget, target', selector', length',
          ⟨depositor, isDepositor, agreesDepositor⟩, agreesToken, deposited, isOrderId⟩
        cases isDepository.unique isTarget
        obtain ⟨n, rfl, small, agreesApproved⟩ :=
          (assertUint256Arg_eq_some length (by decide : 1 < 2)).mp approved
        obtain ⟨n', same, _, agreesDeposited⟩ :=
          (assertUint256Arg_eq_some length' (by decide : 2 < 4)).mp deposited
        cases Int.ofNat.inj same
        have isWord := Abi.word_readBigEndian (Abi.length_argument length' (by decide : 3 < 4))
        rw [← isWord] at isOrderId
        exact ⟨⟨currency, depository, depositor, n, _⟩, rfl,
          ⟨named, isDepository, isDepositor, isAmount, isOrderId⟩, small,
          ⟨target, value, selector, length, .cons spender (.cons agreesApproved .nil)⟩,
          target', value', selector', length', .cons agreesDepositor (.cons agreesToken
            (.cons agreesDeposited (.cons isWord.symm .nil)))⟩
      · rintro ⟨deposit, rfl, denotes, small, ⟨target, value, selector, length, arguments⟩, target',
          value', selector', length', arguments'⟩
        obtain ⟨spender, approved⟩ := List.forall₂_cons.mp arguments
        obtain ⟨depositor, others⟩ := List.forall₂_cons.mp arguments'
        obtain ⟨token, others⟩ := List.forall₂_cons.mp others
        obtain ⟨deposited, others⟩ := List.forall₂_cons.mp others
        have isWord : Abi.argument call'.data 3 = _ := (List.forall₂_cons.mp others).1
        exact ⟨_, denotes.amount, value, target, selector, length, ⟨_, denotes.depository, spender⟩,
          (assertUint256Arg_eq_some length (by decide : 1 < 2)).mpr
            ⟨_, rfl, small, (List.forall₂_cons.mp approved).1⟩,
          value', _, denotes.depository, target', selector', length',
          ⟨_, denotes.depositor, depositor⟩, token,
          (assertUint256Arg_eq_some length' (by decide : 2 < 4)).mpr ⟨_, rfl, small, deposited⟩,
          isWord ▸ denotes.orderId⟩

omit named

/-- The policy accepts a batch exactly if its calls agree with those of the deposit. -/
theorem verifyTransactions_eq_some :
    verifyTransactions codec trigger attestation transactions = some () ↔
      ∃ (deposit : Deposit) (calls : List Call), deposit.Denotes trigger attestation ∧
        transactions.mapM (fun transaction => callOf transaction.unsignedTransaction) =
          some calls ∧ deposit.Accepts calls := by
  simp only [verifyTransactions, bind_eq_some, normalizeEthereumAddressHex_eq_some,
    exists_exists_and_eq_and, zeroAddress_eq, addressText_injective.eq_iff, mapM_eq_some_iff,
    Deposit.Accepts]
  constructor
  · rintro ⟨currency, named, accepted⟩
    split at accepted
    next native =>
      obtain ⟨deposit, rfl, denotes, calls, areCalls, agree⟩ :=
        (verifyNativeDeposit_eq_some faithful named).mp accepted
      exact ⟨deposit, calls, denotes, areCalls, _, if_pos native, agree⟩
    next token =>
      obtain ⟨deposit, rfl, denotes, small, calls, areCalls, agree⟩ :=
        (verifyErc20Deposit_eq_some faithful named).mp accepted
      exact ⟨deposit, calls, denotes, areCalls, _, (if_neg token).trans (if_pos small), agree⟩
  · rintro ⟨deposit, calls, denotes, areCalls, expected, isExpected, agree⟩
    refine ⟨_, denotes.currency, ?_⟩
    rw [Deposit.expectedCalls] at isExpected
    split_ifs at isExpected ⊢ with native small
    · cases isExpected
      exact (verifyNativeDeposit_eq_some faithful denotes.currency).mpr
        ⟨deposit, rfl, denotes, calls, areCalls, agree⟩
    · cases isExpected
      exact (verifyErc20Deposit_eq_some faithful denotes.currency).mpr
        ⟨deposit, rfl, denotes, small, calls, areCalls, agree⟩

end Policy

/-- Every batch that the policy accepts makes exactly the calls of the deposit, if and only if the
twelve bytes before each address argument are zero; and every batch that makes exactly these calls
is accepted.  The policy of Tron compares the whole calldata. -/
theorem accepted_calls_exact_iff_padded {Rest : Type} (codec : TransactionCodec Rest)
    (callOf : Bytes → Option Call) (faithful : codec.Faithful callOf)
    (trigger : DepositAddressTrigger) (attestation : DepositAddressTriggerAttestation)
    (transactions : List EthereumVmTransaction) :
    (verifyTransactions codec trigger attestation transactions = some () →
      ∃ calls, transactions.mapM (fun transaction => callOf transaction.unsignedTransaction) =
          some calls ∧
        (IsDeposit trigger attestation calls ↔ AddressArgumentsPadded calls)) ∧
    ∀ calls, transactions.mapM (fun transaction => callOf transaction.unsignedTransaction) =
        some calls →
      IsDeposit trigger attestation calls →
        verifyTransactions codec trigger attestation transactions = some () := by
  constructor
  · intro accepted
    obtain ⟨deposit, calls, denotes, areCalls, expected, isExpected, agree⟩ :=
      (verifyTransactions_eq_some faithful).mp accepted
    refine ⟨calls, areCalls, ?_, ?_⟩
    · rintro ⟨deposit', expected', _, isExpected', same⟩
      exact ((Deposit.calls_eq_iff isExpected').mp same).2
    · intro padded
      exact ⟨deposit, expected, denotes, isExpected,
        (Deposit.calls_eq_iff isExpected).mpr ⟨agree, padded⟩⟩
  · rintro calls areCalls ⟨deposit, expected, denotes, isExpected, same⟩
    have agree := ((Deposit.calls_eq_iff isExpected).mp same).1
    exact (verifyTransactions_eq_some faithful).mpr
      ⟨deposit, calls, denotes, areCalls, expected, isExpected, agree⟩

namespace SampleCalls

open SampleDeposit

/-- A stand-in for viem: a text of one byte is a transaction that deposits the 20 units of the
trigger, on the chain after that number.  The text of a signed transaction shows its chain. -/
def codec (data : Bytes) : TransactionCodec Unit where
  parseTransaction := fun text =>
    match readMarked text with
    | some [chain] => some ⟨.eip1559, some (chain.toNat + 1), some (addressText 90), some 20,
        some (writeHex data), ()⟩
    | _ => none
  serializeTransaction := fun parsed signature =>
    match signature with
    | .legacy _ _ v => some (writeHex (Text.decimal ((v - 35) / 2).toNat))
    | .typed _ _ _ => parsed.chainId.map fun chainId => writeHex (Text.decimal chainId)

def callOf (data text : Bytes) : Option Call :=
  match readMarked text with
  | some [_] => some ⟨Abi.bigEndian 20 90, 20, data⟩
  | _ => none

theorem faithful (data : Bytes) : (codec data).Faithful (callOf data) := by
  intro text
  simp only [codec, callOf]
  split
  next => exact .some ⟨rfl, rfl, rfl⟩
  next => exact .none

/-- The calldata of the deposit, with some bytes before the depositor. -/
def depositData (padding : Bytes) : Bytes :=
  [0x49, 0x29, 0x0c, 0x1c] ++ padding ++ Abi.bigEndian 20 30 ++ Abi.word 7

def unsigned (chain : UInt8) : EthereumVmTransaction := ⟨writeHex [chain]⟩

end SampleCalls

open SampleDeposit SampleCalls in
theorem accepted_calls_exact_iff_padded_sample :
    (∃ calls, [unsigned 1].mapM (fun transaction =>
        callOf (depositData (List.replicate 12 0)) transaction.unsignedTransaction) = some calls ∧
      (IsDeposit (trigger .number .number) attestation calls ↔ AddressArgumentsPadded calls)) ∧
    AddressArgumentsPadded [⟨Abi.bigEndian 20 90, 20, depositData (List.replicate 12 0)⟩] := by
  have exact := accepted_calls_exact_iff_padded (codec (depositData (List.replicate 12 0)))
    (callOf _) (faithful _) (trigger .number .number) attestation [unsigned 1]
  refine ⟨exact.1 (by decide +kernel), ?_⟩
  unfold AddressArgumentsPadded PaddedAt
  decide +kernel

open SampleDeposit SampleCalls in
/-- A batch whose depositor has another byte before it is accepted. -/
theorem accepted_call_with_unpadded_address :
    (codec (depositData (1 :: List.replicate 11 0))).Faithful
        (callOf (depositData (1 :: List.replicate 11 0))) ∧
      verifyTransactions (codec (depositData (1 :: List.replicate 11 0)))
        (trigger .number .number) attestation [unsigned 1] = some () ∧
      [unsigned 1].mapM (fun transaction =>
          callOf (depositData (1 :: List.replicate 11 0)) transaction.unsignedTransaction) =
        some [⟨Abi.bigEndian 20 90, 20, depositData (1 :: List.replicate 11 0)⟩] ∧
      ¬ IsDeposit (trigger .number .number) attestation
        [⟨Abi.bigEndian 20 90, 20, depositData (1 :: List.replicate 11 0)⟩] := by
  refine ⟨faithful _, by decide +kernel, by decide +kernel, ?_⟩
  rintro ⟨deposit, expected, _, isExpected, same⟩
  have padded := ((Deposit.calls_eq_iff isExpected).mp same).2
  revert padded
  unfold AddressArgumentsPadded PaddedAt
  decide +kernel

end RelaySettlement.LitDepositAddress.EthereumVm
