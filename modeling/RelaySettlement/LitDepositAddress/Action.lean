import Mathlib.Data.List.TakeWhile
import RelaySettlement.Evm.Reader
import RelaySettlement.LitDepositAddress.Order

/-!
# The deposit-address actions

Every bundle runs `runVmAction` for its virtual machine.  To sign, it checks the signature of the
solver over the whole request, the attestation of the trigger, the order and the transactions, and
then signs them with the key at the path of the derivation fields.

A wallet deriver of a bundle is a parameter with the methods that its class leaves open.  What the
base class makes of them is the same for all.
-/

open Evm

namespace RelaySettlement

namespace LitDepositAddress

open Js

/-! ## Wallet derivers -/

/-- The methods that the classes of wallet derivers implement, and the private key of a node. -/
structure VmWalletDeriver (Node Tx SignedTx : Type) where
  deriveAccountNode : Bytes → Option Node
  deriveChildNode : Node → ℕ → Option Node
  privateKeyBytes : Node → Option Bytes
  accountFromNode : Node → Option AccountInfo
  walletFromNode : List ℕ → Node → Option WalletInfo
  verifyTransactions : DepositAddressTrigger → DepositAddressTriggerAttestation → List Tx →
    Option Unit
  signTransactionWithKey : Bytes → Tx → Option SignedTx

def assertIndexes (indexes : List ℕ) : Option Unit := do
  ensure (indexes.length ≠ 0)
  ensure (∀ index ∈ indexes, index ≤ 0x7fffffff)

namespace VmWalletDeriver

variable {Node Tx SignedTx : Type} (deriver : VmWalletDeriver Node Tx SignedTx)

/-- One level after the other. -/
def deriveChildAtPath (accountNode : Node) (indexes : List ℕ) : Option Node :=
  indexes.foldlM deriver.deriveChildNode accountNode

def deriveAccount (rootKeyHex : Bytes) : Option AccountInfo := do
  deriver.accountFromNode (← deriver.deriveAccountNode rootKeyHex)

def deriveWallet (rootKeyHex : Bytes) (indexes : List ℕ) : Option WalletInfo := do
  assertIndexes indexes
  let accountNode ← deriver.deriveAccountNode rootKeyHex
  let childNode ← deriver.deriveChildAtPath accountNode indexes
  deriver.walletFromNode indexes childNode

def deriveChildKey (rootKeyHex : Bytes) (indexes : List ℕ) : Option (WalletInfo × Bytes) := do
  assertIndexes indexes
  let accountNode ← deriver.deriveAccountNode rootKeyHex
  let childNode ← deriver.deriveChildAtPath accountNode indexes
  let privateKey ← deriver.privateKeyBytes childNode
  return (← deriver.walletFromNode indexes childNode, privateKey)

def signTransactions (rootKeyHex : Bytes) (indexes : List ℕ) (transactions : List Tx) :
    Option (WalletInfo × List SignedTx) := do
  ensure (transactions.length ≠ 0)
  let (wallet, privateKey) ← deriver.deriveChildKey rootKeyHex indexes
  let signedTransactions ← transactions.mapM (deriver.signTransactionWithKey privateKey)
  return (wallet, signedTransactions)

/-- The key at a path below the account of a root key. -/
def KeyAt (rootKeyHex : Bytes) (indexes : List ℕ) (privateKey : Bytes) : Prop :=
  ∃ accountNode childNode, deriver.deriveAccountNode rootKeyHex = some accountNode ∧
    deriver.deriveChildAtPath accountNode indexes = some childNode ∧
    deriver.privateKeyBytes childNode = some privateKey

theorem keyAt_of_signTransactions {rootKeyHex : Bytes} {indexes : List ℕ}
    {transactions : List Tx} {wallet : WalletInfo} {signedTransactions : List SignedTx}
    (returned : deriver.signTransactions rootKeyHex indexes transactions =
      some (wallet, signedTransactions)) :
    ∃ privateKey, deriver.KeyAt rootKeyHex indexes privateKey ∧
      transactions.mapM (deriver.signTransactionWithKey privateKey) =
        some signedTransactions := by
  simp only [signTransactions, deriveChildKey, bind_eq_some, Option.pure_def, Option.some_inj,
    Prod.mk.injEq] at returned
  obtain ⟨_, _, _, ⟨_, _, accountNode, isAccount, childNode, isChild, privateKey, isKey, _, _,
    rfl⟩, _, isSigned, _, rfl⟩ := returned
  exact ⟨privateKey, ⟨accountNode, childNode, isAccount, isChild, isKey⟩, isSigned⟩

end VmWalletDeriver

/-- What the derivers take from the libraries: the key derivation function over SHA-256, and the
trees of keys of `@metamask/key-tree`. -/
structure KeyTree (Node : Type) where
  hkdf : (key salt info : Bytes) → (length : ℕ) → Bytes
  fromSeed : (seed : Bytes) → (segments : List Bytes) → Option Node
  derive : Node → (segment : Bytes) → Option Node
  privateKeyBytes : Node → Option Bytes
  compressedPublicKeyBytes : Node → Bytes
  compressedPublicKey : Node → Bytes
  /-- The extended key without the private one. -/
  extendedKey : Node → Bytes

namespace KeyTree

variable {Node : Type} (tree : KeyTree Node) (vmType : VmType)

def deriveVmSeed (rootKey : Bytes) : Bytes :=
  tree.hkdf rootKey (Abi.utf8 "lit-deposit-address") vmType.name 64

/-! The methods of `Secp256k1VmWalletDeriver`. -/

def deriveAccountNode (accountSegments : List String) (rootKeyHex : Bytes) : Option Node := do
  let rootKey ← hexToBytes rootKeyHex
  tree.fromSeed (tree.deriveVmSeed vmType rootKey) (accountSegments.map Abi.utf8)

def deriveChildNode (node : Node) (index : ℕ) : Option Node :=
  tree.derive node (Abi.utf8 "bip32:" ++ Text.decimal index)

def accountFromNode (accountPath : String) (accountNode : Node) : AccountInfo where
  vmType := vmType
  accountPath := Abi.utf8 accountPath
  publicKey := tree.compressedPublicKey accountNode
  extendedPublicKey := tree.extendedKey accountNode

end KeyTree

/-- The full path, with the indexes of the child. -/
def path (accountPath : String) (indexes : List ℕ) : Bytes :=
  Abi.utf8 accountPath ++ Abi.utf8 "/" ++ (Abi.utf8 "/").intercalate (indexes.map Text.decimal)

/-- `bytesToNumberLE`. -/
def bytesToNumberLE (value : Bytes) : ℕ :=
  value.foldr (fun byte out => (out <<< 8) ||| byte.toNat) 0

theorem bytesToNumberLE_eq (value : Bytes) : bytesToNumberLE value = readLittleEndian value := by
  induction value with
  | nil => rfl
  | cons byte value ih =>
      rw [bytesToNumberLE, List.foldr_cons, ← bytesToNumberLE, ih, readLittleEndian,
        ← Nat.shiftLeft_add_eq_or_of_lt byte.toNat_lt, Nat.shiftLeft_eq, Nat.add_comm,
        Nat.mul_comm]

/-- What `/\|depositor=([^|]+)(?=\|)/` captures where it first matches. -/
def depositorTag : Bytes → Option Bytes
  | [] => none
  | character :: text =>
      let captured := ((character :: text).drop 11).takeWhile (· ≠ 124)
      if Abi.utf8 "|depositor=" <+: character :: text ∧ captured ≠ [] ∧
          11 + captured.length < (character :: text).length then some captured
      else depositorTag text

/-- A tag of a text, and what stands before and behind it. -/
structure IsTag (text before tag after : Bytes) : Prop where
  parts : text = before ++ (Abi.utf8 "|depositor=" ++ (tag ++ 124 :: after))
  nonempty : tag ≠ []
  closed : 124 ∉ tag

theorem length_tagMark : (Abi.utf8 "|depositor=").length = 11 := by decide +kernel

/-- What is captured at the front of a text. -/
theorem captured_iff {text tag : Bytes} :
    (Abi.utf8 "|depositor=" <+: text ∧ (text.drop 11).takeWhile (· ≠ 124) ≠ [] ∧
      11 + ((text.drop 11).takeWhile (· ≠ 124)).length < text.length ∧
      (text.drop 11).takeWhile (· ≠ 124) = tag) ↔ ∃ after, IsTag text [] tag after := by
  constructor
  · rintro ⟨⟨rest, rfl⟩, filled, shorter, rfl⟩
    rw [List.drop_left' length_tagMark] at filled shorter ⊢
    rw [List.length_append, length_tagMark] at shorter
    have whole := List.takeWhile_append_dropWhile (p := fun byte : UInt8 => byte ≠ 124) (l := rest)
    match behind : rest.dropWhile (· ≠ 124) with
    | [] =>
        have lengths := congrArg List.length whole
        rw [List.length_append, behind, List.length_nil] at lengths
        omega
    | byte :: after =>
        have stop := List.head?_dropWhile_not (fun byte : UInt8 => decide (byte ≠ 124)) rest
        rw [behind] at stop
        have isBar : byte = 124 := by simpa using stop
        subst isBar
        refine ⟨after, ?_, filled, ?_⟩
        · rw [List.nil_append, ← behind, whole]
        · intro member
          simpa using List.mem_takeWhile_imp member
  · rintro ⟨after, parts, nonempty, closed⟩
    rw [List.nil_append] at parts
    have isTag : (text.drop 11).takeWhile (· ≠ 124) = tag := by
      rw [parts, List.drop_left' length_tagMark]
      rw [List.takeWhile_append_of_pos]
      · simp
      · intro byte member
        exact decide_eq_true fun same => closed (same ▸ member)
    refine ⟨⟨_, parts.symm⟩, by rwa [isTag], ?_, isTag⟩
    rw [isTag, parts, List.length_append, length_tagMark, List.length_append, List.length_cons]
    omega

/-- The tag that is captured is the first one. -/
theorem first_of_depositorTag {text tag : Bytes} (captured : depositorTag text = some tag) :
    ∃ before after, IsTag text before tag after ∧
      ∀ before' tag' after', IsTag text before' tag' after' → before.length ≤ before'.length := by
  induction text with
  | nil => cases captured
  | cons character text ih =>
      rw [depositorTag] at captured
      split at captured
      next here =>
        obtain ⟨after, isTag⟩ := captured_iff.mp
          ⟨here.1, here.2.1, here.2.2, Option.some.inj captured⟩
        exact ⟨[], after, isTag, fun _ _ _ _ => Nat.zero_le _⟩
      next absent =>
        obtain ⟨before, after, isTag, first⟩ := ih captured
        refine ⟨character :: before, after, ⟨?_, isTag.nonempty, isTag.closed⟩, ?_⟩
        · rw [isTag.parts]
          rfl
        · intro before' tag' after' isTag'
          cases before' with
          | nil =>
              obtain ⟨mark, filled, shorter, _⟩ := captured_iff.mpr ⟨after', isTag'⟩
              exact absurd ⟨mark, filled, shorter⟩ absent
          | cons other before' =>
              obtain ⟨rfl, parts⟩ := List.cons.inj isTag'.parts
              exact Nat.succ_le_succ (first before' tag' after'
                ⟨parts, isTag'.nonempty, isTag'.closed⟩)

/-! ## The hash of a request -/

mutual

/-- Leaves out every `requestSignature`.  The copy of an object also loses a key `__proto__`, to
which the language assigns in another way. -/
def stripSolverRequestSignature : Json → Json
  | .array elements => .array (stripElements elements)
  | .object entries => .object (stripEntries entries)
  | value => value

def stripElements : List Json → List Json
  | [] => []
  | element :: elements => stripSolverRequestSignature element :: stripElements elements

def stripEntries : List (Bytes × Json) → List (Bytes × Json)
  | [] => []
  | (key, child) :: entries =>
      if key = Abi.utf8 "requestSignature" ∨ key = Abi.utf8 "__proto__" then stripEntries entries
      else (key, stripSolverRequestSignature child) :: stripEntries entries

end

/-- `parts.join(",")` between brackets. -/
def enclose (left right : UInt8) (parts : List Bytes) : Bytes :=
  [left] ++ (Abi.utf8 ",").intercalate parts ++ [right]

mutual

/-- Objects are written in the order of their keys. -/
def canonicalJson : Json → Bytes
  | .null => Abi.utf8 "null"
  | .bool value => if value then Abi.utf8 "true" else Abi.utf8 "false"
  | .number value => value.stringify
  | .string text => quote text
  | .array elements => enclose 91 93 (canonicalElements elements)
  | .object entries =>
      enclose 123 125 ((sortKeys (canonicalEntries entries)).map fun entry =>
        quote entry.1 ++ Abi.utf8 ":" ++ entry.2)

def canonicalElements : List Json → List Bytes
  | [] => []
  | element :: elements => canonicalJson element :: canonicalElements elements

def canonicalEntries : List (Bytes × Json) → List (Bytes × Bytes)
  | [] => []
  | (key, value) :: entries => (key, canonicalJson value) :: canonicalEntries entries

end

/-- The 32 bytes whose text the solver signs. -/
def solverSignRequestHash (keccak : Bytes → Bytes32) (body : Json) : Bytes32 :=
  keccak (canonicalJson (stripSolverRequestSignature body))

/-! ## Actions -/

structure SignResult (SignedTx : Type) where
  wallet : WalletInfo
  triggerHash : Bytes
  signedTransactions : List SignedTx

inductive ActionResult (SignedTx : Type) where
  | account (info : AccountInfo)
  | wallet (info : WalletInfo)
  | signed (result : SignResult SignedTx)

/-- What an action takes from its surroundings: the libraries, the constants of the bundle,
`Lit.Actions.getPrivateKey` and the time. -/
structure Runtime where
  keccak : Bytes → Bytes32
  viem : Viem
  secp256k1 : Secp256k1
  config : Config
  getPrivateKey : Bytes → Option Bytes
  nowSeconds : ℕ

def assertVm (actual : Option Bytes) (expected : VmType) : Option Unit :=
  ensure (actual = some expected.name)

/-- A field that is required, and a text that must not be empty. -/
def required (text : Option Bytes) : Option Bytes := do
  let text ← text
  ensure (text ≠ [])
  return text

section Run

variable {Node Tx SignedTx : Type} {transaction : Json → Option Tx}
variable (runtime : Runtime) (vmType : VmType) (deriver : VmWalletDeriver Node Tx SignedTx)

def verifySolverRequestSignature (body : Json) (order : Order) (signature : Bytes) :
    Option Unit := do
  let requestHash := writeHex (Abi.word (solverSignRequestHash runtime.keccak body))
  let recovered ← recoverPersonalSignAddress runtime.keccak runtime.viem runtime.secp256k1
    requestHash signature
  ensure (Text.toLowerCase recovered = Text.toLowerCase order.solver)

/-- The action `sign`. -/
def sign (rootKeyHex : Bytes) (request : Request transaction) : Option (SignResult SignedTx) := do
  let trigger ← request.params.trigger
  let attestation ← request.params.attestation
  let order ← request.params.order
  let orderSignature ← required request.params.orderSignature
  let requestSignature ← required request.params.requestSignature
  let transactions ← request.params.transactions
  ensure (transactions.length ≠ 0)
  assertVm (some trigger.input.vmType) vmType
  assertVm (some trigger.derivationFields.inputVmType) vmType
  verifySolverRequestSignature runtime request.body order requestSignature
  verifyDepositAddressTriggerAttestation runtime.keccak runtime.viem runtime.secp256k1
    runtime.config trigger attestation
  verifyOrderData runtime.keccak runtime.viem runtime.secp256k1 runtime.nowSeconds trigger order
    orderSignature
  deriver.verifyTransactions trigger attestation transactions
  let indexes ← derivationFieldsToIndexes runtime.keccak runtime.viem trigger.derivationFields
  let (wallet, signedTransactions) ← deriver.signTransactions rootKeyHex indexes transactions
  return ⟨wallet, attestation.triggerHash, signedTransactions⟩

def runVmAction (request : Request transaction) : Option (ActionResult SignedTx) := do
  let params := request.params
  let rootKeyHex ← runtime.getPrivateKey params.pkpId
  if params.action = Abi.utf8 "account" then
    assertVm params.vmType vmType
    return .account (← deriver.deriveAccount rootKeyHex)
  else if params.action = Abi.utf8 "wallet" then
    let derivationFields ← params.derivationFields
    assertVm (some derivationFields.inputVmType) vmType
    let indexes ← derivationFieldsToIndexes runtime.keccak runtime.viem derivationFields
    return .wallet (← deriver.deriveWallet rootKeyHex indexes)
  else if params.action = Abi.utf8 "sign" then
    return .signed (← sign runtime vmType deriver rootKeyHex request)
  else none

end Run

/-! ## What a signature rests on -/

/-- Everything that was checked when an action has signed. -/
structure SignRun {Node Tx SignedTx : Type} {transaction : Json → Option Tx} (runtime : Runtime)
    (vmType : VmType) (deriver : VmWalletDeriver Node Tx SignedTx)
    (request : Request transaction) (result : SignResult SignedTx)
    (trigger : DepositAddressTrigger) (attestation : DepositAddressTriggerAttestation)
    (order : Order) (orderSignature requestSignature : Bytes) (transactions : List Tx)
    (rootKeyHex : Bytes) (indexes : List ℕ) : Prop where
  action : request.params.action = Abi.utf8 "sign"
  isTrigger : request.params.trigger = some trigger
  isAttestation : request.params.attestation = some attestation
  isOrder : request.params.order = some order
  isOrderSignature : required request.params.orderSignature = some orderSignature
  isRequestSignature : required request.params.requestSignature = some requestSignature
  isTransactions : request.params.transactions = some transactions
  nonempty : transactions.length ≠ 0
  inputVmType : trigger.input.vmType = vmType.name
  derivationVmType : trigger.derivationFields.inputVmType = vmType.name
  requestSigned :
    verifySolverRequestSignature runtime request.body order requestSignature = some ()
  attested : verifyDepositAddressTriggerAttestation runtime.keccak runtime.viem runtime.secp256k1
    runtime.config trigger attestation = some ()
  ordered : verifyOrderData runtime.keccak runtime.viem runtime.secp256k1 runtime.nowSeconds
    trigger order orderSignature = some ()
  allowed : deriver.verifyTransactions trigger attestation transactions = some ()
  rootKey : runtime.getPrivateKey request.params.pkpId = some rootKeyHex
  path : derivationFieldsToIndexes runtime.keccak runtime.viem trigger.derivationFields =
    some indexes
  signed : deriver.signTransactions rootKeyHex indexes transactions =
    some (result.wallet, result.signedTransactions)
  triggerHash : result.triggerHash = attestation.triggerHash

section Inversion

variable {Node Tx SignedTx : Type} {transaction : Json → Option Tx} {runtime : Runtime}
variable {vmType : VmType} {deriver : VmWalletDeriver Node Tx SignedTx}
variable {request : Request transaction} {result : SignResult SignedTx}

/-- Only the action `sign` signs. -/
theorem runVmAction_eq_signed_iff :
    runVmAction runtime vmType deriver request = some (.signed result) ↔
      request.params.action = Abi.utf8 "sign" ∧ ∃ rootKeyHex,
        runtime.getPrivateKey request.params.pkpId = some rootKeyHex ∧
        sign runtime vmType deriver rootKeyHex request = some result := by
  have others : Abi.utf8 "sign" ≠ Abi.utf8 "account" ∧ Abi.utf8 "sign" ≠ Abi.utf8 "wallet" := by
    decide +kernel
  rw [runVmAction, bind_eq_some]
  constructor
  · rintro ⟨rootKeyHex, rootKey, returned⟩
    split at returned
    · simp [Option.bind_eq_some_iff] at returned
    split at returned
    · simp [Option.bind_eq_some_iff] at returned
    obtain ⟨action, returned⟩ := Option.ite_none_right_eq_some.mp returned
    obtain ⟨_, isSigned, same⟩ := bind_eq_some.mp returned
    cases same
    exact ⟨action, rootKeyHex, rootKey, isSigned⟩
  · rintro ⟨action, rootKeyHex, rootKey, isSigned⟩
    refine ⟨rootKeyHex, rootKey, ?_⟩
    rw [action, if_neg others.1, if_neg others.2, if_pos rfl, isSigned]
    rfl

theorem runVmAction_eq_signed :
    runVmAction runtime vmType deriver request = some (.signed result) ↔
      ∃ trigger attestation order orderSignature requestSignature transactions rootKeyHex indexes,
        SignRun runtime vmType deriver request result trigger attestation order orderSignature
          requestSignature transactions rootKeyHex indexes := by
  simp only [runVmAction_eq_signed_iff, sign, assertVm, bind_eq_some, exists_unit, ensure_eq_some,
    Option.pure_def, Option.some_inj]
  constructor
  · rintro ⟨action, rootKeyHex, rootKey, trigger, isTrigger, attestation, isAttestation, order,
      isOrder, orderSignature, isOrderSignature, requestSignature, isRequestSignature,
      transactions, isTransactions, nonempty, inputVmType, derivationVmType, requestSigned,
      attested, ordered, allowed, indexes, path, ⟨wallet, signedTransactions⟩, signed, rfl⟩
    exact ⟨trigger, attestation, order, orderSignature, requestSignature, transactions,
      rootKeyHex, indexes, ⟨action, isTrigger, isAttestation, isOrder, isOrderSignature,
        isRequestSignature, isTransactions, nonempty, inputVmType, derivationVmType,
        requestSigned, attested, ordered, allowed, rootKey, path, signed, rfl⟩⟩
  · rintro ⟨trigger, attestation, order, orderSignature, requestSignature, transactions,
      rootKeyHex, indexes, run⟩
    refine ⟨run.action, rootKeyHex, run.rootKey, trigger, run.isTrigger, attestation,
      run.isAttestation, order, run.isOrder, orderSignature, run.isOrderSignature,
      requestSignature, run.isRequestSignature, transactions, run.isTransactions, run.nonempty,
      run.inputVmType, run.derivationVmType, run.requestSigned, run.attested, run.ordered,
      run.allowed, indexes, run.path, _, run.signed, ?_⟩
    rw [← run.triggerHash]

theorem required_eq_some {text : Option Bytes} {value : Bytes} (is : required text = some value) :
    text = some value := by
  simp only [required, bind_eq_some, Option.pure_def, Option.some_inj] at is
  obtain ⟨_, isText, _, _, rfl⟩ := is
  exact isText

end Inversion

end LitDepositAddress

open LitDepositAddress

/-- An action signs only for a trigger that enough oracles have attested, an order and a request
that its solver has signed, and with the key of the derivation fields. -/
theorem deposit_signing_authorised {Node Tx SignedTx : Type} {transaction : Js.Json → Option Tx}
    (runtime : Runtime) (vmType : VmType) (deriver : VmWalletDeriver Node Tx SignedTx)
    (signed : Address → Bytes32 → ℕ × ℕ × ℕ → Prop) (correct : runtime.viem.Correct)
    (sound : runtime.secp256k1.Sound runtime.keccak signed) (request : Request transaction)
    (result : SignResult SignedTx)
    (returned : runVmAction runtime vmType deriver request = some (.signed result)) :
    ∃ trigger attestation order orderSignature requestSignature transactions,
      request.params.trigger = some trigger ∧ request.params.attestation = some attestation ∧
      request.params.order = some order ∧
      request.params.orderSignature = some orderSignature ∧
      request.params.requestSignature = some requestSignature ∧
      request.params.transactions = some transactions ∧
      (∃ triggerHash,
        getDepositAddressTriggerHash runtime.keccak runtime.viem trigger = some triggerHash ∧
        ∃ accounts : Finset Address, runtime.config.oracleSignatureThreshold ≤ accounts.card ∧
          ∀ oracle ∈ accounts, Allowlisted runtime.config oracle ∧
            OracleSigned runtime.keccak runtime.viem signed runtime.config attestation
              triggerHash oracle) ∧
      (∃ solver orderId, readAddress order.solver = some solver ∧
        getOrderId runtime.keccak runtime.viem order = some orderId ∧
        Js.readMarked trigger.orderId = some (Abi.word orderId) ∧
        readAddress trigger.derivationFields.solver = some (Utils.generateAddress runtime.keccak
          order.solverChainId (Abi.bigEndian 20 solver.toNat)) ∧
        (∃ numbers, readSignature orderSignature = some numbers ∧
          signed solver (personalDigest runtime.keccak (Abi.word orderId)) numbers) ∧
        ∃ numbers, readSignature requestSignature = some numbers ∧
          signed solver (personalDigest runtime.keccak
            (Abi.word (solverSignRequestHash runtime.keccak request.body))) numbers) ∧
      (∃ input output, OrderMatches trigger order input output) ∧
      ∃ rootKeyHex indexes privateKey,
        runtime.getPrivateKey request.params.pkpId = some rootKeyHex ∧
        derivationFieldsToIndexes runtime.keccak runtime.viem trigger.derivationFields =
          some indexes ∧
        deriver.KeyAt rootKeyHex indexes privateKey ∧
        transactions.mapM (deriver.signTransactionWithKey privateKey) =
          some result.signedTransactions := by
  obtain ⟨trigger, attestation, order, orderSignature, requestSignature, transactions, rootKeyHex,
    indexes, run⟩ := runVmAction_eq_signed.mp returned
  obtain ⟨triggerHash, isHash, quorum⟩ := exists_oracles_of_verify correct sound run.attested
  obtain ⟨input, output, fits, _, checked⟩ := verifyOrderData_eq_some.mp run.ordered
  obtain ⟨solver, orderId, isSolver, isOrderId, sameId, isAlias, orderSigned⟩ :=
    signed_of_checkSolver correct sound isHash checked
  have requestSigned := run.requestSigned
  simp only [verifySolverRequestSignature, bind_eq_some, Js.ensure_eq_some] at requestSigned
  obtain ⟨recovered, isRecovered, same⟩ := requestSigned
  obtain ⟨privateKey, isKey, isSigned⟩ := deriver.keyAt_of_signTransactions run.signed
  refine ⟨trigger, attestation, order, orderSignature, requestSignature, transactions,
    run.isTrigger, run.isAttestation, run.isOrder, required_eq_some run.isOrderSignature,
    required_eq_some run.isRequestSignature, run.isTransactions, ?_, ?_, ?_, ?_⟩
  · exact ⟨triggerHash, isHash, quorum⟩
  · exact ⟨solver, orderId, isSolver, isOrderId, sameId, isAlias, orderSigned,
      signed_of_recoverPersonalSignAddress correct sound (Js.readMarked_writeHex _) isRecovered same
        isSolver⟩
  · exact ⟨input, output, fits⟩
  · exact ⟨rootKeyHex, indexes, privateKey, run.rootKey, run.path, isKey, isSigned⟩

/-! ## A request -/

namespace LitDepositAddress.SampleDeposit

open Js

def object (entries : List (String × Json)) : Json :=
  .object (entries.map fun entry => (Abi.utf8 entry.1, entry.2))

def text (characters : String) : Json := .string (Abi.utf8 characters)

def whole (n : ℕ) (small : n < 2 ^ 53) : Json := .number (Number.ofNat n small)

def priceJson (decimals : ℕ) (small : decimals < 2 ^ 53) : Json :=
  object [("usdPrice", text "1"), ("usdPriceDecimals", whole decimals small),
    ("currencyDecimals", whole 0 zero_small), ("publishTime", text "0"),
    ("expiration", text "100")]

def triggerJson : Json :=
  object [
    ("input", object [("vmType", text "ethereum-vm"), ("chainId", text "a"),
      ("currency", .string (addressText 0)), ("amount", text "20")]),
    ("derivationFields", object [("inputVmType", text "ethereum-vm"),
      ("outputVmType", text "ethereum-vm"), ("outputChainId", text "b"),
      ("outputCurrency", text "0x"), ("outputRecipient", text "0x"),
      ("solver", .string (addressText 7)), ("pricingOracle", .string (addressText 81)),
      ("depositor", .string (addressText 30)), ("refundRecipient", text "0x"),
      ("priceImpactBps", text "0"), ("salt", text "0")]),
    ("orderId", .string orderId), ("nonce", text "0"),
    ("currencies", .array [
      object [("chainId", text "a"), ("currency", .string (addressText 0))],
      object [("chainId", text "b"), ("currency", text "0x")]]),
    ("prices", .array [priceJson 1 one_small, priceJson 0 zero_small]),
    ("extraData", text "0x")]

def attestationJson : Json :=
  object [("chainId", whole 1 one_small),
    ("depositAddressManager", .string (addressText 80)),
    ("inputDepository", .string (addressText 90)),
    ("triggerHash", .string (writeHex (Abi.word 7))),
    ("signatures", .array [
      object [("oracleSigner", .string (addressText 10)), ("signature", .string (signature 10 7))],
      object [("oracleSigner", .string (addressText 11)),
        ("signature", .string (signature 11 7))]])]

def orderJson : Json :=
  object [("version", text "v1"), ("solverChainId", text "b"),
    ("solver", .string (addressText 5)), ("salt", text "0"),
    ("inputs", .array [object [
      ("payment", object [("chainId", text "a"), ("currency", .string (addressText 0)),
        ("amount", text "20"), ("weight", text "1")]),
      ("refunds", .array [object [("chainId", text "a"), ("recipient", text "0x"),
        ("currency", .string (addressText 0)), ("minimumAmount", text "0"),
        ("deadline", whole 0 zero_small), ("extraData", text "0x")]])]]),
    ("output", object [("chainId", text "b"),
      ("payments", .array [object [("recipient", text "0x"), ("currency", text "0x"),
        ("minimumAmount", text "2"), ("expectedAmount", text "0")]]),
      ("calls", .array []), ("deadline", whole 0 zero_small), ("extraData", text "0x")]),
    ("fees", .array [])]

/-- Signed by account 5, with one field that no action reads. -/
def body (transactions : List Json) : Json :=
  object [("pkpId", text "ab"), ("action", text "sign"), ("comment", .null),
    ("trigger", triggerJson), ("attestation", attestationJson), ("order", orderJson),
    ("orderSignature", .string (signature 5 7)), ("requestSignature", .string (signature 5 7)),
    ("transactions", .array transactions)]

def params {Tx : Type} (transactions : List Tx) : ActionParams Tx where
  pkpId := Abi.utf8 "ab"
  action := Abi.utf8 "sign"
  vmType := none
  derivationFields := none
  trigger := some (trigger .number .number)
  attestation := some attestation
  order := some (order 2)
  orderSignature := some (signature 5 7)
  requestSignature := some (signature 5 7)
  transactions := some transactions

def request : Request Json.text where
  body := body [text "t"]
  params := params [Abi.utf8 "t"]
  typed := by decide +kernel

def runtime : Runtime where
  keccak := keccak
  viem := viem
  secp256k1 := secp256k1
  config := config
  getPrivateKey := some
  nowSeconds := 50

/-- Keys are the texts of their paths, and a signature shows the key. -/
def deriver : VmWalletDeriver Bytes Bytes (Bytes × Bytes) where
  deriveAccountNode := some
  deriveChildNode := fun node index => some (node ++ [47] ++ Text.decimal index)
  privateKeyBytes := some
  accountFromNode := fun node => some ⟨.ethereumVm, node, node, node⟩
  walletFromNode := fun indexes node => some ⟨.ethereumVm, indexes, node, node, node⟩
  verifyTransactions := fun _ _ _ => some ()
  signTransactionWithKey := fun privateKey transaction => some (privateKey, transaction)

theorem correct : viem.Correct := by
  constructor
  · exact fun account => toLowerCase_writeHex _
  · exact fun account => readMarked_writeHex _
  · intro text data read
    simp [viem, read]
  · exact fun text encoded length => Iff.rfl
  · intro account
    simp [viem, id, readAddress_addressText]
  · intro text encoded isEncoded
    obtain ⟨account, isAccount, rfl⟩ := Option.map_eq_some_iff.mp isEncoded
    exact ⟨account, readAddress_eq_some.mp isAccount, rfl⟩
  · exact fun text data read => read

/-- A signature is one of the account whose public key is recovered from it. -/
def signed (account : Address) (digest : Bytes32) (numbers : ℕ × ℕ × ℕ) : Prop :=
  ∃ uncompressed, secp256k1.recoverPublicKey numbers.1 numbers.2.1 numbers.2.2 digest =
    some uncompressed ∧ account = publicKeyAddress keccak uncompressed

theorem sound : secp256k1.Sound keccak signed :=
  fun _ _ _ _ uncompressed recovered => ⟨uncompressed, recovered, rfl⟩

/-- Any bundle for the virtual machine signs the request, if its policy allows that. -/
theorem runs {Node Tx SignedTx : Type} {transaction : Json → Option Tx}
    {deriver : VmWalletDeriver Node Tx SignedTx} {request : Request transaction}
    {transactions : List Tx} {wallet : WalletInfo} {signedTransactions : List SignedTx}
    (isParams : request.params = params transactions)
    (isHash : solverSignRequestHash keccak request.body = 7) (nonempty : transactions.length ≠ 0)
    (allowed : deriver.verifyTransactions (trigger .number .number) attestation transactions =
      some ())
    (isSigned : deriver.signTransactions (Abi.utf8 "ab") [0, 0, 0, 0, 0, 0, 0, 7] transactions =
      some (wallet, signedTransactions)) :
    runVmAction runtime .ethereumVm deriver request =
      some (.signed ⟨wallet, writeHex (Abi.word 7), signedTransactions⟩) := by
  have isSignature : required (some (signature 5 7)) = some (signature 5 7) := by decide +kernel
  apply runVmAction_eq_signed.mpr
  refine ⟨trigger .number .number, attestation, order 2, signature 5 7, signature 5 7,
    transactions, Abi.utf8 "ab", [0, 0, 0, 0, 0, 0, 0, 7], ?_⟩
  constructor
  case requestSigned =>
    rw [verifySolverRequestSignature, runtime, isHash]
    decide +kernel
  case attested => exact SampleDeposit.attested .number .number
  case ordered => exact accepted_numbers
  case allowed => exact allowed
  case nonempty => exact nonempty
  case path => decide +kernel
  case signed => exact isSigned
  case isOrderSignature =>
    rw [isParams]
    exact isSignature
  case isRequestSignature =>
    rw [isParams]
    exact isSignature
  all_goals first
    | rfl
    | rw [isParams]; rfl

end LitDepositAddress.SampleDeposit

open LitDepositAddress.SampleDeposit in
theorem deposit_signing_authorised_sample :
    ∃ result, runVmAction runtime .ethereumVm deriver request = some (.signed result) ∧
      result.signedTransactions = [(Abi.utf8 "ab/0/0/0/0/0/0/0/7", Abi.utf8 "t")] ∧
      ∃ accounts : Finset Address, 2 ≤ accounts.card ∧
        ∀ oracle ∈ accounts, Allowlisted config oracle := by
  have isSigned : deriver.signTransactions (Abi.utf8 "ab") [0, 0, 0, 0, 0, 0, 0, 7]
      [Abi.utf8 "t"] = some (⟨.ethereumVm, [0, 0, 0, 0, 0, 0, 0, 7],
        Abi.utf8 "ab/0/0/0/0/0/0/0/7", Abi.utf8 "ab/0/0/0/0/0/0/0/7",
        Abi.utf8 "ab/0/0/0/0/0/0/0/7"⟩, [(Abi.utf8 "ab/0/0/0/0/0/0/0/7", Abi.utf8 "t")]) := by
    decide +kernel
  have returned := runs (show request.params = params [Abi.utf8 "t"] from rfl)
    (by decide +kernel) Nat.one_ne_zero rfl isSigned
  refine ⟨_, returned, rfl, ?_⟩
  obtain ⟨_, _, _, _, _, _, _, _, _, _, _, _, ⟨_, _, accounts, enough, quorum⟩, _⟩ :=
    deposit_signing_authorised runtime .ethereumVm deriver signed correct sound request _ returned
  exact ⟨accounts, enough, fun oracle member => (quorum oracle member).1⟩

end RelaySettlement
