import RelaySettlement.LitDepositAddress.TonVm

/-!
# What a signed TON request says

The TL-B schemes of a message, of a list of actions and of a Wallet V5R1 request, as readers of
cells.  Every request that is signed for an accepted transaction reads back as the transfer of the
transaction.
-/

open Evm

namespace RelaySettlement

namespace LitDepositAddress

open Js

namespace TonVm

/-! ## Layouts -/

/-- `MessageRelaxed` with `int_msg_info$0`. -/
structure InternalMessage where
  ihrDisabled : Bool
  bounce : Bool
  bounced : Bool
  source : Option StdAddress
  destination : Option StdAddress
  grams : ℕ
  extraCurrency : Option Cell
  ihrFee : ℕ
  fwdFee : ℕ
  createdLt : ℕ
  createdAt : ℕ
  body : Slice

/-- `action_send_msg`. -/
structure OutAction where
  mode : ℕ
  message : InternalMessage

structure WalletRequest where
  opcode : ℕ
  walletId : ℕ
  validUntil : ℕ
  seqno : ℕ
  actions : List OutAction
  hasOtherActions : Bool

open CellReader

/-- `Either X ^X`. -/
def loadBody : CellReader Slice := do
  if ← loadBit then return (← loadRef).beginParse else loadRest

/-- A message without a state of its own. -/
def loadMessage : CellReader InternalMessage := do
  loadTag [false]
  let ihrDisabled ← loadBit
  let bounce ← loadBit
  let bounced ← loadBit
  let source ← loadAddress
  let destination ← loadAddress
  let grams ← loadCoins
  let extraCurrency ← loadMaybeRef
  let ihrFee ← loadCoins
  let fwdFee ← loadCoins
  let createdLt ← loadUint 64
  let createdAt ← loadUint 32
  loadTag [false]
  let body ← loadBody
  return ⟨ihrDisabled, bounce, bounced, source, destination, grams, extraCurrency, ihrFee, fwdFee,
    createdLt, createdAt, body⟩

def loadAction : CellReader OutAction := do
  loadTag (Bits.ofNat 32 0x0ec3c86d)
  let mode ← loadUint 8
  let message ← loadMessage.whole (← loadRef).beginParse
  return ⟨mode, message⟩

/-- `OutList`: the earlier actions are in the first reference. -/
def readActions : Cell → Option (List OutAction)
  | .mk [] _ 0 _ _ => some []
  | .mk bits _ (_ + 1) _ refs => do
      let earlier ← readActions (refs 0)
      let action ← loadAction.whole ⟨bits, List.ofFn fun i => refs i.succ⟩
      return earlier ++ [action]
  | _ => none

/-- `Maybe ^OutList`. -/
def loadActions : CellReader (List OutAction) := do
  match ← loadMaybeRef with
  | some cell => readActions cell
  | none => return []

def loadRequest : CellReader WalletRequest := do
  let opcode ← loadUint 32
  let walletId ← loadUint 32
  let validUntil ← loadUint 32
  let seqno ← loadUint 32
  let actions ← loadActions
  let hasOtherActions ← loadBit
  return ⟨opcode, walletId, validUntil, seqno, actions, hasOtherActions⟩

/-- The request in a cell. -/
def readRequest (cell : Cell) : Option WalletRequest := loadRequest.whole cell.beginParse

/-- The bytes of a chain of cells. -/
def snakeBytes : Cell → Option Bytes
  | .mk bits _ 0 _ _ => Bits.toBytes bits
  | .mk bits _ 1 _ refs => do
      return (← Bits.toBytes bits) ++ (← snakeBytes (refs 0))
  | _ => none

/-- What a chain goes on with, in at most one reference. -/
def chainBytes : List Cell → Option Bytes
  | [] => some []
  | [cell] => snakeBytes cell
  | _ => none

/-- A text comment: opcode 0, and bytes that go on in a chain of cells. -/
def readComment (body : Slice) : Option Bytes := do
  let (opcode, rest) ← (loadUint 32).run body
  ensure (opcode = 0)
  return (← Bits.toBytes rest.bits) ++ (← chainBytes rest.refs)

/-! ## Comments -/

variable {cell : Cell} {sendMode : Number}

theorem snakeBytes_new {bits : List Bool} {refs : List Cell}
    (isCell : Cell.new bits refs = some cell) (few : refs.length ≤ 1) :
    snakeBytes cell = do return (← Bits.toBytes bits) ++ (← chainBytes refs) := by
  obtain ⟨fit, ⟨⟩⟩ := Option.dite_none_right_eq_some.mp isCell
  cases refs with
  | nil =>
      change Bits.toBytes bits = _
      cases Bits.toBytes bits with
      | none => rfl
      | some bytes => simp [chainBytes]
  | cons _ rest =>
      cases rest with
      | nil => rfl
      | cons => simp at few

/-- A text is written into a builder with room for a byte, and into a chain of cells behind it. -/
theorem writeSnakeString_spec {fuel : ℕ} {bytes : Bytes} (enough : bytes.length < fuel)
    {bits : List Bool} (room : bits.length + 8 ≤ Cell.maxBits) :
    ∃ front refs rest, writeSnakeString fuel ⟨bits, []⟩ bytes =
        some ⟨bits ++ Bits.ofBytes front, refs⟩ ∧
      bits.length + 8 * front.length ≤ Cell.maxBits ∧ refs.length ≤ 1 ∧
      chainBytes refs = some rest ∧ bytes = front ++ rest := by
  induction fuel generalizing bytes bits with
  | zero => cases enough
  | succ fuel ih =>
      obtain ⟨available, isAvailable⟩ :
          ∃ available, available = (Cell.maxBits - bits.length) / 8 := ⟨_, rfl⟩
      have fits : bits.length + 8 * (bytes.take available).length ≤ Cell.maxBits := by
        rw [List.length_take]
        omega
      rw [writeSnakeString, Builder.availableBits, ← isAvailable]
      by_cases spills : 0 < (bytes.drop available).length
      · have shorter : (bytes.drop available).length < fuel := by
          rw [List.length_drop] at spills ⊢
          omega
        obtain ⟨front, refs, rest, isChild, childFits, few, isRest, same⟩ :=
          @ih _ shorter [] (by decide)
        obtain ⟨cell, isCell⟩ := @Cell.exists_new (Bits.ofBytes front) refs
          (by rw [Bits.length_ofBytes]; simpa using childFits) (Nat.le_trans few (by decide))
        rw [List.nil_append] at isChild
        refine ⟨bytes.take available, [cell], bytes.drop available, ?_, fits, Nat.le_refl 1, ?_,
          (List.take_append_drop _ _).symm⟩
        · simp only [if_pos spills, Builder.empty, isChild, Builder.endCell, isCell, some_bind,
            Builder.storeRef, Builder.storeBuffer]
          rfl
        · rw [chainBytes, snakeBytes_new isCell few, Bits.toBytes_ofBytes, isRest, same]
          rfl
      · have all : bytes.take available = bytes :=
          List.take_of_length_le (by rw [List.length_drop] at spills; omega)
        refine ⟨bytes, [], [], ?_, by rwa [all] at fits, Nat.zero_le 1, rfl,
          (List.append_nil bytes).symm⟩
        rw [if_neg spills, all]
        rfl

/-- Every text is written, and reads back. -/
theorem exists_commentBody (text : Bytes) :
    ∃ cell, commentBody text = some cell ∧ readComment cell.beginParse = some text := by
  have opcode : Builder.empty.storeUint 0 32 = some ⟨Bits.ofNat 32 0, []⟩ := rfl
  obtain ⟨front, refs, rest, written, fits, few, isRest, same⟩ :=
    @writeSnakeString_spec _ text (Nat.lt_succ_self _) (Bits.ofNat 32 0) (by decide)
  obtain ⟨cell, isCell⟩ := @Cell.exists_new (Bits.ofNat 32 0 ++ Bits.ofBytes front) refs
    (by rw [List.length_append, Bits.length_ofBytes]; exact fits) (Nat.le_trans few (by decide))
  refine ⟨cell, ?_, ?_⟩
  · rw [commentBody, opcode, some_bind, written]
    exact isCell
  · rw [readComment, Cell.beginParse_new isCell, run_loadUint _ _ (by decide)]
    simp only [some_bind, Bits.toBytes_ofBytes, isRest, same]
    rfl

/-! ## Messages -/

/-- The bits of a message. -/
def messageBits (destHash : Bytes) (amount : ℕ) (bounce : Bool) : List Bool :=
  false :: true :: bounce :: false :: (Bits.ofNat 2 0 ++ (Bits.ofNat 11 0x400 ++
    (Bits.ofBytes destHash ++ (Bits.ofNat 4 (Nat.digits 256 amount).length ++
      (Bits.ofNat ((Nat.digits 256 amount).length * 8) amount ++ false :: (Bits.ofNat 4 0 ++
        (Bits.ofNat 4 0 ++ (Bits.ofNat 64 0 ++ (Bits.ofNat 32 0 ++ [false, true])))))))))

variable {destHash : Bytes}

theorem internalMessage_eq (length : destHash.length = 32) {amount : ℕ} (fits : amount < 2 ^ 120)
    (bounce : Bool) (body : Cell) :
    internalMessage destHash amount bounce body =
      Cell.new (messageBits destHash amount bounce) [body] := by
  have zero (builder : Builder) (n : ℕ) : builder.storeUint 0 n =
      some { builder with bits := builder.bits ++ Bits.ofNat n 0 } :=
    builder.storeUint_eq (Nat.two_pow_pos n)
  have zeroCoins (builder : Builder) : builder.storeCoins 0 =
      some { builder with bits := builder.bits ++ Bits.ofNat 4 0 } := zero builder 4
  simp only [internalMessage, Builder.storeAddressNone, zero, zeroCoins, some_bind,
    Builder.storeAddressInt_eq _ length, Builder.storeCoins_eq _ fits, Builder.storeBit,
    Builder.storeRef, Builder.empty, Builder.endCell, messageBits, List.nil_append,
    List.append_assoc, List.cons_append]
  rfl

theorem fits_of_internalMessage {amount : ℤ} {bounce : Bool} {body : Cell}
    (isMessage : internalMessage destHash amount bounce body = some cell) :
    destHash.length = 32 ∧ ∃ n : ℕ, amount = n ∧ n < 2 ^ 120 := by
  simp only [internalMessage, bind_eq_some] at isMessage
  obtain ⟨_, _, _, isAddress, _, isAmount, _⟩ := isMessage
  exact ⟨Builder.length_of_storeAddressInt isAddress, Builder.storeCoins_eq_some isAmount⟩

/-- A message reads back. -/
theorem readMessage (length : destHash.length = 32) {amount : ℕ} (fits : amount < 2 ^ 120)
    {bounce : Bool} {body : Cell}
    (isMessage : internalMessage destHash amount bounce body = some cell) :
    loadMessage.whole cell.beginParse =
      some ⟨true, bounce, false, none, some ⟨0, destHash⟩, amount, none, 0, 0, 0, 0,
        body.beginParse⟩ := by
  rw [internalMessage_eq length fits] at isMessage
  have noExtra (bits : List Bool) (refs : List Cell) :
      loadMaybeRef.run ⟨false :: bits, refs⟩ = some (none, ⟨bits, refs⟩) := rfl
  have isBody : loadBody.run ⟨[true], [body]⟩ = some (body.beginParse, ⟨[], []⟩) := rfl
  rw [Cell.beginParse_new isMessage]
  apply whole_of_run
  rw [loadMessage, messageBits, run_bind_of (run_loadTag_bit _ _ _),
    run_bind_of (run_loadBit _ _ _), run_bind_of (run_loadBit _ _ _),
    run_bind_of (run_loadBit _ _ _), run_bind_of (run_loadAddress_none _ _),
    run_bind_of (run_loadAddress_std _ _ length), run_bind_of (run_loadCoins _ _ fits),
    run_bind_of (noExtra _ _), run_bind_of (run_loadCoins_zero _ _),
    run_bind_of (run_loadCoins_zero _ _), run_bind_of (run_loadUint _ _ (Nat.two_pow_pos _)),
    run_bind_of (run_loadUint _ _ (Nat.two_pow_pos _)), run_bind_of (run_loadTag_bit _ _ _),
    run_bind_of isBody]
  rfl

/-! ## Requests -/

theorem signingMode_lt (sendMode : Number) : signingMode sendMode < 2 ^ 8 := by
  rw [signingMode, BitVec.toNat_and]
  exact Nat.lt_of_le_of_lt Nat.and_le_right (by decide)

/-- The list of actions reads back. -/
theorem readActions_outList {message : Cell} {content : InternalMessage}
    (isList : outList sendMode message = some cell)
    (isContent : loadMessage.whole message.beginParse = some content) :
    readActions cell = some [⟨signingMode sendMode, content⟩] := by
  obtain ⟨empty, isEmpty⟩ := @Cell.exists_new [] [] (Nat.zero_le _) (Nat.zero_le _)
  have tag (builder : Builder) : builder.storeUint actionSendMsg 32 =
      some { builder with bits := builder.bits ++ Bits.ofNat 32 0x0ec3c86d } :=
    builder.storeUint_eq (by decide)
  have isAction : loadAction.whole
      ⟨Bits.ofNat 32 0x0ec3c86d ++ Bits.ofNat 8 (signingMode sendMode), [message]⟩ =
        some ⟨signingMode sendMode, content⟩ := by
    have mode := run_loadUint [] [message] (signingMode_lt sendMode)
    have lifted : (liftM (loadMessage.whole message.beginParse) : CellReader InternalMessage).run
        ⟨[], []⟩ = some (content, ⟨[], []⟩) := by
      rw [isContent]
      rfl
    rw [List.append_nil] at mode
    apply whole_of_run
    rw [loadAction, run_bind_of (run_loadTag _ _ _), run_bind_of mode,
      run_bind_of (run_loadRef _ _ _), run_bind_of lifted]
    rfl
  simp only [outList, Builder.endCell, Builder.empty, isEmpty, Builder.storeRef, tag,
    Builder.storeUint_eq _ (signingMode_lt sendMode), some_bind, List.length_nil, List.nil_append,
    List.append_assoc] at isList
  have none : readActions empty = some [] := by
    cases isEmpty
    rfl
  change Cell.new (Bits.ofNat 32 0x0ec3c86d ++ Bits.ofNat 8 (signingMode sendMode))
    [empty, message] = some cell at isList
  obtain ⟨fit, ⟨⟩⟩ := Option.dite_none_right_eq_some.mp isList
  change (readActions empty).bind (fun earlier => (loadAction.whole _).bind fun action =>
    some (earlier ++ [action])) = _
  rw [none, Option.bind_some]
  exact congrArg (fun action => action.bind fun action => some ([] ++ [action])) isAction

/-- The time until which a request is valid: the last one, for the spend that deploys. -/
def ValidUntil (seqno validUntil : Number) (time : ℕ) : Prop :=
  if IsDeploy seqno then time = 2 ^ 32 - 1 else validUntil.bigInt = some (time : ℤ)

instance (seqno validUntil : Number) (time : ℕ) : Decidable (ValidUntil seqno validUntil time) :=
  inferInstanceAs (Decidable
    (if IsDeploy seqno then time = 2 ^ 32 - 1 else validUntil.bigInt = some (time : ℤ)))

/-- A request reads back. -/
theorem readRequest_signingRequest {walletId : ℕ} (isId : walletId < 2 ^ 32)
    {seqno validUntil : Number} {message : Cell} {request : Builder} {content : InternalMessage}
    (isRequest : signingRequest walletId seqno validUntil sendMode message = some request)
    (isCell : request.endCell = some cell)
    (isContent : loadMessage.whole message.beginParse = some content) :
    ∃ time number : ℕ, ValidUntil seqno validUntil time ∧ seqno.bigInt = some (number : ℤ) ∧
      readRequest cell = some ⟨authSignedExternal, walletId, time, number,
        [⟨signingMode sendMode, content⟩], false⟩ := by
  simp only [signingRequest, bind_eq_some, Option.pure_def, Option.some_inj] at isRequest
  obtain ⟨list, isList, opened, isOpened, named, isNamed, timed, isTimed, seqnoValue, isSeqno,
    numbered, isNumbered, listed, isListed, rfl⟩ := isRequest
  have hasTime : ∃ time : ℕ, ValidUntil seqno validUntil time ∧ time < 2 ^ 32 ∧
      timed = { named with bits := named.bits ++ Bits.ofNat 32 time } := by
    split at isTimed
    next deploys =>
      obtain ⟨time, same, small, isTimed⟩ := Builder.storeUint_eq_some isTimed
      refine ⟨time, ?_, small, isTimed⟩
      rw [ValidUntil, if_pos deploys]
      omega
    next spends =>
      obtain ⟨value, isValue, isTimed⟩ := bind_eq_some.mp isTimed
      obtain ⟨time, rfl, small, isTimed⟩ := Builder.storeUint_eq_some isTimed
      refine ⟨time, ?_, small, isTimed⟩
      rwa [ValidUntil, if_neg spends]
  obtain ⟨time, isTime, timeFits, rfl⟩ := hasTime
  obtain ⟨number, rfl, numberFits, rfl⟩ := Builder.storeUint_eq_some isNumbered
  have opcode : authSignedExternal < 2 ^ 32 := by decide
  rw [Builder.storeUint_eq _ opcode] at isOpened
  cases isOpened
  rw [Builder.storeUint_eq _ isId] at isNamed
  cases isNamed
  cases isListed
  refine ⟨time, number, isTime, isSeqno, ?_⟩
  have isActions : loadActions.run ⟨[true, false], [list]⟩ =
      some ([⟨signingMode sendMode, content⟩], ⟨[false], []⟩) := by
    have isList := readActions_outList isList isContent
    change (readActions list).bind (fun actions => some (actions, (⟨[false], []⟩ : Slice))) = _
    rw [isList, Option.bind_some]
  rw [readRequest, Cell.beginParse_new isCell]
  apply whole_of_run
  simp only [Builder.empty, Builder.storeBit, List.nil_append, List.append_assoc]
  rw [loadRequest, run_bind_of (run_loadUint _ _ opcode), run_bind_of (run_loadUint _ _ isId),
    run_bind_of (run_loadUint _ _ timeFits), run_bind_of (run_loadUint _ _ numberFits)]
  exact run_bind_of isActions

/-! ## Signed requests -/

/-- The cell whose hash is signed. -/
def signedCell (ton : TonRuntime) (transaction : TonVmTransaction) : Option Cell := do
  (← requestOf ton transaction).endCell

/-- What is hashed for it. -/
def signedStrings (ton : TonRuntime) (transaction : TonVmTransaction) : List Bytes :=
  match signedCell ton transaction with
  | some cell => cell.hashed ton.sha256
  | none => []

/-- The request for one transfer. -/
def transferRequest (validUntil seqno mode : ℕ) (bounce : Bool) (destHash : Bytes) (amount : ℕ)
    (body : Slice) : WalletRequest where
  opcode := 0x7369676e
  walletId := 2147483409
  validUntil := validUntil
  seqno := seqno
  actions := [{
    mode := mode
    message := {
      ihrDisabled := true
      bounce := bounce
      bounced := false
      source := none
      destination := some ⟨0, destHash⟩
      grams := amount
      extraCurrency := none
      ihrFee := 0
      fwdFee := 0
      createdLt := 0
      createdAt := 0
      body := body } }]
  hasOtherActions := false

/-- A signed cell says what the transaction means. -/
structure Says (ton : TonRuntime) (transaction : TonVmTransaction) (cell : Cell) (destHash : Bytes)
    (amount seqno validUntil : ℕ) (body : Slice) : Prop where
  isTarget : encodeTonAddress ton transaction.target = some destHash
  isAmount : transaction.amount.bigInt = some (amount : ℤ)
  isSeqno : transaction.seqno.bigInt = some (seqno : ℤ)
  isTime : ValidUntil transaction.seqno transaction.validUntil validUntil
  isRequest : readRequest cell = some (transferRequest validUntil seqno
    (signingMode transaction.sendMode) transaction.bounce destHash amount body)
  isComment : readComment body = some transaction.comment

section Signed

variable {Point : Type} [AddCommGroup Point] {ton : TonRuntime}
  {curve : Ed25519 Point}

variable {transaction : TonVmTransaction}

theorem exists_says {cell : Cell} (isCell : signedCell ton transaction = some cell) :
    ∃ destHash amount seqno validUntil body,
      Says ton transaction cell destHash amount seqno validUntil body := by
  simp only [signedCell, requestOf, bind_eq_some] at isCell
  obtain ⟨request, ⟨destHash, isTarget, value, isAmount, body, isBody, message, isMessage,
    isRequest⟩, isCell⟩ := isCell
  obtain ⟨length, amount, rfl, fits⟩ := fits_of_internalMessage isMessage
  obtain ⟨comment, isComment, reads⟩ := exists_commentBody transaction.comment
  cases isComment.symm.trans isBody
  obtain ⟨validUntil, seqno, isTime, isSeqno, isRead⟩ := readRequest_signingRequest (by decide)
    isRequest isCell (readMessage length fits isMessage)
  exact ⟨destHash, amount, seqno, validUntil, body.beginParse,
    ⟨isTarget, isAmount, isSeqno, isTime, isRead, reads⟩⟩

theorem signTransactionWithKey_eq_some {privateKey : Bytes} {signed : TonVmSignedTransaction}
    (returned : signTransactionWithKey ton curve privateKey transaction = some signed) :
    ∃ publicKey request cell signature external,
      curve.getPublicKey privateKey = some publicKey ∧
      requestOf ton transaction = some request ∧ signedCell ton transaction = some cell ∧
      curve.signEd25519Bip32 (Abi.word (cell.hash ton.sha256)) privateKey =
        some signature ∧
      externalOf ton publicKey signature transaction request = some external ∧
      signed = ⟨writeHex signature, writeHex (Abi.word (cell.hash ton.sha256)),
        ton.bytesToBase64 (ton.toBoc external)⟩ := by
  simp only [signTransactionWithKey, bind_eq_some, Option.pure_def, Option.some_inj] at returned
  obtain ⟨publicKey, isKey, request, isRequest, cell, isCell, signature, isSignature, external,
    isExternal, rfl⟩ := returned
  refine ⟨publicKey, request, cell, signature, external, isKey, isRequest, ?_, isSignature,
    isExternal, rfl⟩
  rw [signedCell, isRequest]
  exact isCell

/-- One hash is signed for one transfer only. -/
theorem eq_of_signingHash_eq {privateKey privateKey' : Bytes} {transaction' : TonVmTransaction}
    {signed signed' : TonVmSignedTransaction}
    (returned : signTransactionWithKey ton curve privateKey transaction = some signed)
    (returned' : signTransactionWithKey ton curve privateKey' transaction' = some signed')
    (noCollision : Abi.NoCollision ton.sha256
      (signedStrings ton transaction ++ signedStrings ton transaction'))
    (same : signed.signingHash = signed'.signingHash) :
    encodeTonAddress ton transaction.target = encodeTonAddress ton transaction'.target ∧
      transaction.amount.bigInt = transaction'.amount.bigInt ∧
      transaction.comment = transaction'.comment ∧
      transaction.seqno.bigInt = transaction'.seqno.bigInt ∧
      signingMode transaction.sendMode = signingMode transaction'.sendMode := by
  obtain ⟨_, _, cell, _, _, _, _, isCell, _, _, rfl⟩ := signTransactionWithKey_eq_some returned
  obtain ⟨_, _, cell', _, _, _, _, isCell', _, _, rfl⟩ := signTransactionWithKey_eq_some returned'
  rw [signedStrings, signedStrings, isCell, isCell'] at noCollision
  cases Cell.hash_inj noCollision (Abi.word_inj (writeHex_inj same))
  obtain ⟨destHash, amount, seqno, validUntil, body, meaning⟩ := exists_says isCell
  obtain ⟨destHash', amount', seqno', validUntil', body', meaning'⟩ := exists_says isCell'
  have requests := Option.some.inj (meaning.isRequest.symm.trans meaning'.isRequest)
  simp only [transferRequest, WalletRequest.mk.injEq, List.cons.injEq, OutAction.mk.injEq,
    InternalMessage.mk.injEq, Option.some_inj, StdAddress.mk.injEq] at requests
  obtain ⟨_, _, _, rfl, ⟨⟨modes, _, _, _, _, ⟨_, rfl⟩, rfl, _, _, _, _, _, rfl⟩, _⟩, _⟩ := requests
  exact ⟨meaning.isTarget.trans meaning'.isTarget.symm,
    meaning.isAmount.trans meaning'.isAmount.symm,
    Option.some.inj (meaning.isComment.symm.trans meaning'.isComment),
    meaning.isSeqno.trans meaning'.isSeqno.symm, modes⟩

/-- The checks that a transaction has passed. -/
theorem verifyTransactions_eq_some {trigger : DepositAddressTrigger}
    {attestation : DepositAddressTriggerAttestation} {transactions : List TonVmTransaction}
    (accepted : verifyTransactions ton trigger attestation transactions = some ())
    (listed : transaction ∈ transactions) :
    transaction.bounce = false ∧ sendModeCarriesAll transaction.sendMode = false ∧
      (∃ depository, hex32Bytes attestation.inputDepository = some depository ∧
        encodeTonAddress ton transaction.target = some depository) ∧
      ∃ amount, trigger.input.amount.bigInt = some amount ∧
        transaction.amount.bigInt = some amount := by
  match transactions with
  | [] => cases listed
  | _ :: _ :: _ => cases accepted
  | [tx] =>
      cases List.mem_singleton.mp listed
      simp only [verifyTransactions, bind_eq_some, ensure_eq_some] at accepted
      obtain ⟨_, _, _, _, _, noBounce, depository, isDepository, target, isTarget, _, sameTarget,
        amount, isAmount, given, isGiven, _, sameAmount, _, carries, _⟩ := accepted
      rw [sameTarget] at isTarget
      rw [sameAmount] at isGiven
      exact ⟨noBounce, carries, ⟨depository, isDepository, isTarget⟩, amount, isAmount, isGiven⟩

end Signed

/-- The cell that is signed for an accepted transaction reads back as its transfer, no cell is
larger than allowed, and no other transfer is signed with the same hash. -/
theorem signed_request_says_transfer {Point : Type} [AddCommGroup Point] (ton : TonRuntime)
    (curve : Ed25519 Point) (trigger : DepositAddressTrigger)
    (attestation : DepositAddressTriggerAttestation) (transactions : List TonVmTransaction)
    (transaction : TonVmTransaction) (listed : transaction ∈ transactions) (privateKey : Bytes)
    (signed : TonVmSignedTransaction)
    (accepted : verifyTransactions ton trigger attestation transactions = some ())
    (returned : signTransactionWithKey ton curve privateKey transaction = some signed) :
    (∃ publicKey request cell signature external destHash, ∃ amount seqno validUntil : ℕ, ∃ body,
      curve.getPublicKey privateKey = some publicKey ∧
      requestOf ton transaction = some request ∧ signedCell ton transaction = some cell ∧
      curve.signEd25519Bip32 (Abi.word (cell.hash ton.sha256)) privateKey =
        some signature ∧
      externalOf ton publicKey signature transaction request = some external ∧
      signed.signature = writeHex signature ∧
      signed.signingHash = writeHex (Abi.word (cell.hash ton.sha256)) ∧
      signed.externalMessage = ton.bytesToBase64 (ton.toBoc external) ∧
      encodeTonAddress ton transaction.target = some destHash ∧
      transaction.amount.bigInt = some (amount : ℤ) ∧
      transaction.seqno.bigInt = some (seqno : ℤ) ∧
      (if IsDeploy transaction.seqno then validUntil = 2 ^ 32 - 1
        else transaction.validUntil.bigInt = some (validUntil : ℤ)) ∧
      readRequest cell = some (transferRequest validUntil seqno
        (signingMode transaction.sendMode) false destHash amount body) ∧
      readComment body = some transaction.comment ∧
      ∀ part ∈ cell.cells ++ external.cells,
        part.beginParse.bits.length ≤ 1023 ∧ part.beginParse.refs.length ≤ 4) ∧
    ∀ (transaction' : TonVmTransaction) (privateKey' : Bytes) (signed' : TonVmSignedTransaction),
      signTransactionWithKey ton curve privateKey' transaction' = some signed' →
      Abi.NoCollision ton.sha256 (signedStrings ton transaction ++ signedStrings ton transaction') →
      encodeTonAddress ton transaction.target ≠ encodeTonAddress ton transaction'.target ∨
        transaction.amount.bigInt ≠ transaction'.amount.bigInt ∨
        transaction.comment ≠ transaction'.comment ∨
        transaction.seqno.bigInt ≠ transaction'.seqno.bigInt ∨
        signingMode transaction.sendMode ≠ signingMode transaction'.sendMode →
      signed.signingHash ≠ signed'.signingHash := by
  constructor
  · obtain ⟨noBounce, _⟩ := verifyTransactions_eq_some accepted listed
    obtain ⟨publicKey, request, cell, signature, external, isKey, isMade, isCell, isSignature,
      isExternal, rfl⟩ := signTransactionWithKey_eq_some returned
    obtain ⟨destHash, amount, seqno, validUntil, body, meaning⟩ := exists_says isCell
    have isRequest := meaning.isRequest
    rw [noBounce] at isRequest
    exact ⟨publicKey, request, cell, signature, external, destHash, amount, seqno, validUntil, body,
      isKey, isMade, isCell, isSignature, isExternal, rfl, rfl, rfl, meaning.isTarget,
      meaning.isAmount, meaning.isSeqno, meaning.isTime, isRequest, meaning.isComment,
      fun part _ => ⟨part.beginParse_bits_le, part.beginParse_refs_le⟩⟩
  · intro transaction' privateKey' signed' returned' noCollision differ same
    have all := eq_of_signingHash_eq returned returned' noCollision same
    tauto

/-! ## Delivery -/

/-- What arrives of a message with a value: 64 and 128 carry another amount, 1 pays the
forwarding fee apart, and without it the fee is taken off the value. -/
def received (mode : ℕ) (value fee carried : ℤ) : ℤ :=
  if mode.testBit 6 ∨ mode.testBit 7 then carried
  else if mode.testBit 0 then value
  else value - fee

/-- Fees are paid apart from the value. -/
def PaysFeesSeparately (sendMode : Number) : Prop := sendMode.toInt32.getLsbD 0 = true

instance (sendMode : Number) : Decidable (PaysFeesSeparately sendMode) :=
  inferInstanceAs (Decidable (sendMode.toInt32.getLsbD 0 = true))

theorem testBit_signingMode (sendMode : Number) {i : ℕ} (low : i < 8) :
    (signingMode sendMode).testBit i = (sendMode.toInt32.getLsbD i || decide (i = 1)) := by
  rw [signingMode, BitVec.testBit_toNat, BitVec.getLsbD_and, BitVec.getLsbD_or]
  have mask : (0xff : BitVec 32).getLsbD i = true := by
    have all : ∀ i < 8, (0xff : BitVec 32).getLsbD i = true := by decide
    exact all i low
  have errors : sendModeIgnoreErrors.getLsbD i = decide (i = 1) := by
    have all : ∀ i < 8, sendModeIgnoreErrors.getLsbD i = decide (i = 1) := by decide
    exact all i low
  rw [mask, errors, Bool.and_true]

theorem getLsbD_of_carriesNothing (nothing : sendModeCarriesAll sendMode = false) :
    sendMode.toInt32.getLsbD 6 = false ∧ sendMode.toInt32.getLsbD 7 = false := by
  have masked : sendMode.toInt32 &&& sendModeCarryAll = 0 := by
    simpa [sendModeCarriesAll] using nothing
  have bit (i : ℕ) : (sendMode.toInt32.getLsbD i && sendModeCarryAll.getLsbD i) = false := by
    rw [← BitVec.getLsbD_and, masked]
    exact BitVec.getLsbD_zero
  have high : sendModeCarryAll.getLsbD 6 = true ∧ sendModeCarryAll.getLsbD 7 = true := by decide
  constructor
  · rw [← bit 6, high.1, Bool.and_true]
  · rw [← bit 7, high.2, Bool.and_true]

/-- With nothing carried, the whole value arrives whatever the fee if and only if fees are paid
apart. -/
theorem received_iff (nothing : sendModeCarriesAll sendMode = false) (value : ℤ) :
    (∀ fee carried, 0 ≤ fee → received (signingMode sendMode) value fee carried = value) ↔
      PaysFeesSeparately sendMode := by
  obtain ⟨incoming, balance⟩ := getLsbD_of_carriesNothing nothing
  have mode (fee carried : ℤ) : received (signingMode sendMode) value fee carried =
      if sendMode.toInt32.getLsbD 0 then value else value - fee := by
    simp only [received, testBit_signingMode sendMode (show 6 < 8 by decide),
      testBit_signingMode sendMode (show 7 < 8 by decide),
      testBit_signingMode sendMode (show 0 < 8 by decide), incoming, balance]
    simp
  rw [PaysFeesSeparately]
  constructor
  · intro arrives
    by_contra unpaid
    have one := arrives 1 0 (by decide)
    rw [mode, if_neg unpaid] at one
    omega
  · intro paid fee carried _
    rw [mode, if_pos paid]

/-- An accepted sweep delivers the amount of the trigger to the depository, whatever the fee, if
and only if the transaction pays fees apart. -/
theorem sweep_exact_iff_fees_separate (ton : TonRuntime) (trigger : DepositAddressTrigger)
    (attestation : DepositAddressTriggerAttestation) (transactions : List TonVmTransaction)
    (transaction : TonVmTransaction) (listed : transaction ∈ transactions) (cell : Cell)
    (accepted : verifyTransactions ton trigger attestation transactions = some ())
    (isCell : signedCell ton transaction = some cell) :
    ∃ request action depository amount, readRequest cell = some request ∧
      request.actions = [action] ∧
      hex32Bytes attestation.inputDepository = some depository ∧
      action.message.destination = some ⟨0, depository⟩ ∧
      trigger.input.amount.bigInt = some amount ∧
      ((∀ fee carried, 0 ≤ fee →
          received action.mode action.message.grams fee carried = amount) ↔
        PaysFeesSeparately transaction.sendMode) := by
  obtain ⟨_, nothing, ⟨depository, isDepository, isTarget⟩, amount, isAmount, isGiven⟩ :=
    verifyTransactions_eq_some accepted listed
  obtain ⟨destHash, grams, seqno, validUntil, body, meaning⟩ := exists_says isCell
  cases Option.some.inj (meaning.isTarget.symm.trans isTarget)
  cases Option.some.inj (meaning.isAmount.symm.trans isGiven)
  exact ⟨_, _, depository, grams, meaning.isRequest, rfl, isDepository, rfl, isAmount,
    received_iff nothing grams⟩

/-! ## A sweep -/

namespace SampleSweep

open SampleDeposit

/-- A stand-in: strings are hashed to a remainder, and bags of cells are empty. -/
def ton : TonRuntime where
  sha256 := fun data => BitVec.ofNat 256 (Abi.readBigEndian data % (2 ^ 255 - 19))
  codeCell := .mk [] (Nat.zero_le _) 0 (Nat.zero_le _) Fin.elim0
  toBoc := fun _ => []
  base64ToBytes := some
  bytesToBase64 := id

def trigger : DepositAddressTrigger := { trigger32 with orderId := Abi.utf8 "7" }

/-- The raw form of an address. -/
def address (number : U256) : Bytes := Abi.utf8 "0:" ++ Text.hex (Abi.word number)

/-- A transfer of the 20 units to the depository. -/
def transfer (sendMode : Fin 256) : TonVmTransaction where
  target := address 90
  amount := .string (Abi.utf8 "20")
  comment := Abi.utf8 "7|depositor=" ++ address 30 ++ Abi.utf8 "|"
  bounce := false
  seqno := Number.ofNat 1 one_small
  validUntil := Number.ofNat 100 (by decide)
  sendMode := Number.ofNat sendMode (Nat.lt_trans sendMode.isLt (by decide))

theorem accepted {sendMode : Fin 256}
    (nothing : sendModeCarriesAll (transfer sendMode).sendMode = false) :
    verifyTransactions ton trigger attestation32 [transfer sendMode] = some () := by
  have isCurrency : hexToBytes trigger.input.currency = some (Abi.word 0) := by decide +kernel
  have isDepository : hex32Bytes attestation32.inputDepository = some (Abi.word 90) := by
    decide +kernel
  have isTarget : encodeTonAddress ton (address 90) = some (Abi.word 90) := by decide +kernel
  have isAmount : trigger.input.amount.bigInt = some 20 := by decide +kernel
  have isDepositor : hex32Bytes trigger.derivationFields.depositor = some (Abi.word 30) := by
    decide +kernel
  have isTag : depositorTag (transfer sendMode).comment = some (address 30) := by
    change depositorTag (Abi.utf8 "7|depositor=" ++ address 30 ++ Abi.utf8 "|") = _
    decide +kernel
  have isPrefix : Abi.utf8 "7" <+: Abi.utf8 "7|depositor=" ++ address 30 ++ Abi.utf8 "|" := by
    decide +kernel
  have isEncoded : encodeTonAddress ton (address 30) = some (Abi.word 30) := by decide +kernel
  simp only [verifyTransactions, bind_eq_some, ensure_eq_some]
  exact ⟨_, isCurrency, (), by decide +kernel, (), rfl, _, isDepository, _, isTarget, (), rfl, _,
    isAmount, _, isAmount, (), rfl, (), nothing, (), isPrefix, _, isTag, _, isDepositor, _,
    isEncoded, rfl⟩

end SampleSweep

open SampleDeposit SampleSweep in
theorem signed_request_says_transfer_sample :
    ∃ signed signed',
      signTransactionWithKey ton curve32 SampleKeys.privateKey (transfer 3) = some signed ∧
      signTransactionWithKey ton curve32 SampleKeys.privateKey (transfer 4) = some signed' ∧
      (∃ cell destHash, ∃ amount seqno validUntil : ℕ, ∃ body,
        signedCell ton (transfer 3) = some cell ∧
        readRequest cell = some (transferRequest validUntil seqno 3 false destHash amount body) ∧
        readComment body = some (transfer 3).comment) ∧
      signed.signingHash ≠ signed'.signingHash := by
  obtain ⟨signed, isSigned⟩ := Option.isSome_iff_exists.mp (by decide +kernel :
    (signTransactionWithKey ton curve32 SampleKeys.privateKey (transfer 3)).isSome = true)
  obtain ⟨signed', isSigned'⟩ := Option.isSome_iff_exists.mp (by decide +kernel :
    (signTransactionWithKey ton curve32 SampleKeys.privateKey (transfer 4)).isSome = true)
  obtain ⟨⟨_, _, cell, _, _, destHash, amount, seqno, validUntil, body, _, _, isCell, _, _, _, _, _,
    _, _, _, _, isRequest, isComment, _⟩, separate⟩ := signed_request_says_transfer ton curve32
      trigger attestation32 [transfer 3] (transfer 3) List.mem_cons_self SampleKeys.privateKey
      signed (accepted (by decide +kernel)) isSigned
  have mode : signingMode (transfer 3).sendMode = 3 := by decide +kernel
  rw [mode] at isRequest
  exact ⟨signed, signed', isSigned, isSigned',
    ⟨cell, destHash, amount, seqno, validUntil, body, isCell, isRequest, isComment⟩,
    separate _ _ signed' isSigned' (by decide +kernel)
      (.inr (.inr (.inr (.inr (by decide +kernel)))))⟩

open SampleDeposit SampleSweep in
theorem sweep_exact_iff_fees_separate_sample :
    ∃ cell request action, signedCell ton (transfer 1) = some cell ∧
      readRequest cell = some request ∧ request.actions = [action] ∧
      ∀ fee carried, 0 ≤ fee → received action.mode action.message.grams fee carried = 20 := by
  obtain ⟨cell, isCell⟩ := Option.isSome_iff_exists.mp (by decide +kernel :
    (signedCell ton (transfer 1)).isSome = true)
  obtain ⟨request, action, _, amount, isRequest, isAction, _, _, isAmount, exact⟩ :=
    sweep_exact_iff_fees_separate ton trigger attestation32 [transfer 1]
      (transfer 1) List.mem_cons_self cell (accepted (by decide +kernel)) isCell
  have twenty : trigger.input.amount.bigInt = some 20 := by decide +kernel
  cases Option.some.inj (isAmount.symm.trans twenty)
  exact ⟨cell, request, action, isCell, isRequest, isAction, exact.mpr (by decide +kernel)⟩

open SampleDeposit SampleSweep in
/-- A sweep with mode 0 is accepted and signed, and a fee of 1 is missing at the depository. -/
theorem accepted_sweep_short_of_fee :
    verifyTransactions ton trigger attestation32 [transfer 0] = some () ∧
      trigger.input.amount.bigInt = some 20 ∧
      ∃ signed cell request action,
        signTransactionWithKey ton curve32 SampleKeys.privateKey (transfer 0) = some signed ∧
        signedCell ton (transfer 0) = some cell ∧
        readRequest cell = some request ∧ request.actions = [action] ∧
        action.message.grams = 20 ∧
        ∀ carried, received action.mode action.message.grams 1 carried = 19 := by
  obtain ⟨signed, isSigned⟩ := Option.isSome_iff_exists.mp (by decide +kernel :
    (signTransactionWithKey ton curve32 SampleKeys.privateKey (transfer 0)).isSome = true)
  obtain ⟨_, _, cell, _, _, _, _, isCell, _⟩ := signTransactionWithKey_eq_some isSigned
  obtain ⟨_, amount, _, _, _, meaning⟩ := exists_says isCell
  have twenty : (transfer 0).amount.bigInt = some 20 := by decide +kernel
  cases Option.some.inj (meaning.isAmount.symm.trans twenty)
  have mode : signingMode (transfer 0).sendMode = 2 := by decide +kernel
  refine ⟨accepted (by decide +kernel), by decide +kernel, signed, cell, _, _, isSigned, isCell,
    meaning.isRequest, rfl, rfl, ?_⟩
  intro carried
  change received (signingMode (transfer 0).sendMode) 20 1 carried = 19
  rw [mode, received, if_neg (by decide), if_neg (by decide)]
  rfl

end TonVm
end LitDepositAddress
end RelaySettlement
