import RelaySettlement.Evm.Xrpl
import RelaySettlement.GasPayer.Prepaid

/-!
# What is signed for an XRP payment

`_serializeForSigning` concatenates the fields of a payment by hand, with the field ids and the
length bytes as constants.  Behind the four bytes that mark a single signature, the result is
the canonical encoding of the payment in the binary format of the XRP Ledger, so reading it by
the rules of that format gives back every field.
-/

open Evm

namespace RelaySettlement

namespace XrpVmPayloadBuilder

/-- `NATIVE_AMOUNT_FLAG`. -/
def nativeAmountFlag : BitVec 64 := 0x4000000000000000

/-- The single-signing prefix. -/
def signingMark : Bytes := [0x53, 0x54, 0x58, 0x00]

def serializeForSigning (request : XrpPaymentRequest) : Bytes :=
  let amount := request.amount ||| nativeAmountFlag
  let fee := request.fee ||| nativeAmountFlag
  let head := signingMark ++
    [0x12, 0x00, 0x00] ++
    [0x22] ++ Abi.bigEndian 4 request.flags.toNat ++
    [0x24] ++ Abi.bigEndian 4 request.sequence.toNat
  let tail := [0x20, 0x1b] ++ Abi.bigEndian 4 request.lastLedgerSequence.toNat ++
    [0x61] ++ Abi.bigEndian 8 amount.toNat ++
    [0x68] ++ Abi.bigEndian 8 fee.toNat ++
    [0x73, 0x21] ++ request.signingPubKey ++
    [0x81, 0x14] ++ Abi.bigEndian 20 request.account.toNat ++
    [0x83, 0x14] ++ Abi.bigEndian 20 request.destination.toNat
  if request.hasDestinationTag then
    head ++ [0x2e] ++ Abi.bigEndian 4 request.destinationTag.toNat ++ tail
  else head ++ tail

def hashesToSign (sha512Half : Bytes → Bytes32) (payload : Bytes) :
    Except Error (List Bytes32) := do
  let request ← orRevert (Abi.decodeAs XrpPaymentRequest.type XrpPaymentRequest.ofValue payload)
    .abiDecodingFailed
  return [sha512Half (serializeForSigning request)]

/-! ## The payment as an object of the ledger -/

/-- A native payment, in the order of the fields of the ledger. -/
def paymentFields (flags sequence : BitVec 32) (destinationTag : Option (BitVec 32))
    (lastLedgerSequence : BitVec 32) (amount fee : ℕ) (signingPubKey account destination : Bytes) :
    List Xrpl.Field :=
  -- `TransactionType` 0 is a payment
  [⟨2, .uint16 0⟩, ⟨2, .uint32 flags⟩, ⟨4, .uint32 sequence⟩] ++
    (destinationTag.map fun tag => (⟨14, .uint32 tag⟩ : Xrpl.Field)).toList ++
    [⟨27, .uint32 lastLedgerSequence⟩, ⟨1, .amount true amount⟩, ⟨8, .amount true fee⟩,
      ⟨3, .blob signingPubKey⟩, ⟨1, .account account⟩, ⟨3, .account destination⟩]

variable {flags sequence lastLedgerSequence : BitVec 32} {destinationTag : Option (BitVec 32)}
  {account destination : Bytes}

theorem paymentFields_pairwise {amount fee : ℕ} {signingPubKey : Bytes} :
    (paymentFields flags sequence destinationTag lastLedgerSequence amount fee signingPubKey
      account destination).Pairwise Xrpl.Field.Precedes := by
  cases destinationTag with
  | none => simp [paymentFields, Xrpl.Field.Precedes, Xrpl.Value.type]
  | some tag => simp [paymentFields, Xrpl.Field.Precedes, Xrpl.Value.type]

theorem paymentFields_fit {amount fee : ℕ} {signingPubKey : Bytes} (amountFits : amount < 2 ^ 61)
    (feeFits : fee < 2 ^ 61) (key : signingPubKey.length = 33) (accountFits : account.length = 20)
    (destinationFits : destination.length = 20) :
    ∀ field ∈ paymentFields flags sequence destinationTag lastLedgerSequence amount fee
      signingPubKey account destination, field.Fits := by
  have keyFits : signingPubKey.length ≤ Xrpl.maxLength := key ▸ by decide
  cases destinationTag with
  | none =>
      simpa [paymentFields, Xrpl.Field.Fits, Xrpl.Value.Fits, accountFits, destinationFits,
        keyFits] using And.intro amountFits feeFits
  | some tag =>
      simpa [paymentFields, Xrpl.Field.Fits, Xrpl.Value.Fits, accountFits, destinationFits,
        keyFits] using And.intro amountFits feeFits

/-- Two payments of the same fields are the same payment. -/
theorem paymentFields_inj {flags flags' sequence sequence' : BitVec 32}
    {tag tag' : Option (BitVec 32)} {last last' : BitVec 32} {amount amount' fee fee' : ℕ}
    {key key' account account' destination destination' : Bytes}
    (same : paymentFields flags sequence tag last amount fee key account destination =
      paymentFields flags' sequence' tag' last' amount' fee' key' account' destination') :
    flags = flags' ∧ sequence = sequence' ∧ tag = tag' ∧ last = last' ∧ amount = amount' ∧
      fee = fee' ∧ key = key' ∧ account = account' ∧ destination = destination' := by
  cases tag with
  | none =>
      cases tag' with
      | none => simpa [paymentFields] using same
      | some tag' => simp [paymentFields] at same
  | some tag =>
      cases tag' with
      | none => simp [paymentFields] at same
      | some tag' => simpa [paymentFields] using same

/-- The fields of a request. -/
def fields (request : XrpPaymentRequest) : List Xrpl.Field :=
  paymentFields request.flags request.sequence
    (if request.hasDestinationTag then some request.destinationTag else none)
    request.lastLedgerSequence request.amount.toNat request.fee.toNat request.signingPubKey
    (Abi.bigEndian 20 request.account.toNat) (Abi.bigEndian 20 request.destination.toNat)

/-- The fields say everything of a request but the tag it does not have. -/
theorem eq_of_fields_eq {request other : XrpPaymentRequest}
    (same : fields request = fields other) :
    request.flags = other.flags ∧ request.sequence = other.sequence ∧
      request.hasDestinationTag = other.hasDestinationTag ∧
      (request.hasDestinationTag = true → request.destinationTag = other.destinationTag) ∧
      request.lastLedgerSequence = other.lastLedgerSequence ∧ request.amount = other.amount ∧
      request.fee = other.fee ∧ request.signingPubKey = other.signingPubKey ∧
      request.account = other.account ∧ request.destination = other.destination := by
  obtain ⟨flags, sequence, tag, last, amount, fee, key, account, destination⟩ :=
    paymentFields_inj same
  have present : request.hasDestinationTag = other.hasDestinationTag ∧
      (request.hasDestinationTag = true → request.destinationTag = other.destinationTag) := by
    cases tagged : request.hasDestinationTag <;> cases otherTagged : other.hasDestinationTag <;>
      simp_all
  exact ⟨flags, sequence, present.1, present.2, last, BitVec.eq_of_toNat_eq amount,
    BitVec.eq_of_toNat_eq fee, key, (Abi.bigEndian_toNat_inj (by decide)).mp account,
    (Abi.bigEndian_toNat_inj (by decide)).mp destination⟩

/-- A request whose amounts leave the flag bits clear and whose key is compressed. -/
structure Serializable (request : XrpPaymentRequest) : Prop where
  amount : request.amount.toNat < 2 ^ 61
  fee : request.fee.toNat < 2 ^ 61
  signingPubKey : request.signingPubKey.length = 33

theorem or_nativeAmountFlag {drops : BitVec 64} (small : drops.toNat < 2 ^ 61) :
    (drops ||| nativeAmountFlag).toNat = 2 ^ 62 + drops.toNat := by
  have below : drops.toNat < 2 ^ 62 := Nat.lt_trans small (by decide)
  calc (drops ||| nativeAmountFlag).toNat
      = 2 ^ 62 * 1 ||| drops.toNat := by rw [BitVec.toNat_or, Nat.or_comm]; rfl
    _ = 2 ^ 62 * 1 + drops.toNat := (Nat.two_pow_add_eq_or_of_lt below 1).symm

section Serializable

variable {request : XrpPaymentRequest} (fits : Serializable request)

include fits

theorem fields_fit : ∀ field ∈ fields request, field.Fits :=
  paymentFields_fit fits.amount fits.fee fits.signingPubKey (Abi.length_bigEndian 20 _)
    (Abi.length_bigEndian 20 _)

theorem serializeForSigning_eq :
    serializeForSigning request = signingMark ++ Xrpl.encode (fields request) := by
  have amount := or_nativeAmountFlag fits.amount
  have fee := or_nativeAmountFlag fits.fee
  have key := fits.signingPubKey
  have payment : Abi.bigEndian 2 0 = [0, 0] := by decide
  cases tagged : request.hasDestinationTag
  all_goals
    simp [serializeForSigning, fields, paymentFields, Xrpl.encode, Xrpl.Field.encode,
      Xrpl.Value.encode, Xrpl.Value.type, Xrpl.encodeId, Xrpl.encodeLength, tagged, amount, fee,
      key, payment, Abi.length_bigEndian]

/-- What is signed reads back as the payment. -/
theorem parse_serializeForSigning :
    ∃ body, serializeForSigning request = signingMark ++ body ∧
      Xrpl.parse body = some (fields request) :=
  ⟨_, serializeForSigning_eq fits, Xrpl.parse_encode (fields_fit fits)⟩

theorem serializeForSigning_inj {other : XrpPaymentRequest} (otherFits : Serializable other)
    (same : serializeForSigning request = serializeForSigning other) :
    fields request = fields other := by
  rw [serializeForSigning_eq fits, serializeForSigning_eq otherFits] at same
  have parsed := congrArg Xrpl.parse (List.append_cancel_left same)
  rw [Xrpl.parse_encode (fields_fit fits), Xrpl.parse_encode (fields_fit otherFits)] at parsed
  exact Option.some_inj.mp parsed

end Serializable

/-! ## Built payloads -/

/-- The request that a built payload encodes, from the parameters of the withdrawal. -/
theorem buildPayload_request {keccak256 : Bytes → Bytes32} {chain : HubChain}
    {builder : XrpVmPayloadBuilder} {withdraw : WithdrawParams} {payload : Bytes}
    (ok : builder.buildPayload keccak256 chain withdraw = .ok payload) :
    ∃ data request,
      Abi.decodeAs XrpRequestData.type XrpRequestData.ofValue withdraw.params.data = some data ∧
      Abi.decodeAs XrpPaymentRequest.type XrpPaymentRequest.ofValue payload = some request ∧
      Serializable request ∧
      fields request =
        paymentFields data.flags data.sequence
          (if data.hasDestinationTag then some data.destinationTag else none)
          data.lastLedgerSequence withdraw.params.amount.toNat data.fee.toNat
          (Abi.bigEndian 1 builder.signingPubKeyPrefix.toNat ++
            Abi.word builder.signingPubKeyBody)
          withdraw.depository withdraw.params.receiver := by
  simp only [buildPayload, buildRequest, bind_eq_ok, require_eq_ok, orRevert_eq_ok,
    GasPaidPayloadBuilder.requireGasPaid_eq_ok, pure_eq_ok] at ok
  obtain ⟨request, ⟨_, _, _, depository, _, receiver, _, _, _, _, _, drops, data, isData, _, cheap,
    _, _, rfl⟩, rfl⟩ := ok
  have key : (Abi.bigEndian 1 builder.signingPubKeyPrefix.toNat ++
      Abi.word builder.signingPubKeyBody).length = 33 := by
    simp [Abi.word]
  have drops : withdraw.params.amount.toNat ≤ 100000000000000000 := BitVec.le_def.mp drops
  have fee : data.fee.toNat ≤ 1000000 := BitVec.le_def.mp cheap
  have amount : (withdraw.params.amount.setWidth 64).toNat = withdraw.params.amount.toNat := by
    rw [BitVec.toNat_setWidth]
    exact Nat.mod_eq_of_lt (Nat.lt_of_le_of_lt drops (by decide))
  refine ⟨data, _, isData, XrpPaymentRequest.decodeAs_encode key, ?_, ?_⟩
  · exact {
      amount := amount ▸ Nat.lt_of_le_of_lt drops (by decide)
      fee := Nat.lt_of_le_of_lt fee (by decide)
      signingPubKey := key }
  · rw [fields, amount, PayloadBuilder.bigEndian_bytes20 depository,
      PayloadBuilder.bigEndian_bytes20 receiver]

end XrpVmPayloadBuilder

open XrpVmPayloadBuilder

/-- What is signed for a built payload is a canonical native payment of exactly the requested
fields, and a different payment is signed with different bytes. -/
theorem xrp_signing_bytes_unambiguous (keccak256 sha512Half : Bytes → Bytes32) (chain : HubChain)
    (builder : XrpVmPayloadBuilder) (withdraw : WithdrawParams) (payload : Bytes)
    (built : builder.buildPayload keccak256 chain withdraw = .ok payload) :
    ∃ data request body fields,
      Abi.decodeAs XrpRequestData.type XrpRequestData.ofValue withdraw.params.data = some data ∧
      Abi.decodeAs XrpPaymentRequest.type XrpPaymentRequest.ofValue payload = some request ∧
      hashesToSign sha512Half payload = .ok [sha512Half (signingMark ++ body)] ∧
      serializeForSigning request = signingMark ++ body ∧
      Xrpl.parse body = some fields ∧
      fields = paymentFields data.flags data.sequence
        (if data.hasDestinationTag then some data.destinationTag else none)
        data.lastLedgerSequence withdraw.params.amount.toNat data.fee.toNat
        (Abi.bigEndian 1 builder.signingPubKeyPrefix.toNat ++ Abi.word builder.signingPubKeyBody)
        withdraw.depository withdraw.params.receiver ∧
      fields.Pairwise Xrpl.Field.Precedes ∧
      (∀ (chain' : HubChain) (builder' : XrpVmPayloadBuilder) (withdraw' : WithdrawParams)
          (payload' : Bytes), builder'.buildPayload keccak256 chain' withdraw' = .ok payload' →
        ∀ request', Abi.decodeAs XrpPaymentRequest.type XrpPaymentRequest.ofValue payload' =
            some request' →
          serializeForSigning request = serializeForSigning request' →
          request.flags = request'.flags ∧ request.sequence = request'.sequence ∧
          request.hasDestinationTag = request'.hasDestinationTag ∧
          (request.hasDestinationTag = true →
            request.destinationTag = request'.destinationTag) ∧
          request.lastLedgerSequence = request'.lastLedgerSequence ∧
          request.amount = request'.amount ∧ request.fee = request'.fee ∧
          request.signingPubKey = request'.signingPubKey ∧ request.account = request'.account ∧
          request.destination = request'.destination) ∧
      serializeForSigning { request with hasDestinationTag := true, destinationTag := 0 } ≠
        serializeForSigning { request with hasDestinationTag := false } := by
  obtain ⟨data, request, isData, isRequest, fits, isFields⟩ := buildPayload_request built
  obtain ⟨body, isBody, parsed⟩ := parse_serializeForSigning fits
  refine ⟨data, request, body, fields request, isData, isRequest, ?_, isBody, parsed, isFields,
    paymentFields_pairwise, ?_, ?_⟩
  · simp [hashesToSign, isRequest, orRevert, isBody]
  · intro chain' builder' withdraw' payload' built' request' isRequest' same
    obtain ⟨_, decoded, _, isDecoded, fits', _⟩ := buildPayload_request built'
    have decoded_eq : decoded = request' := Option.some_inj.mp (isDecoded.symm.trans isRequest')
    rw [decoded_eq] at fits'
    exact eq_of_fields_eq (serializeForSigning_inj fits fits' same)
  · intro same
    have tagged : Serializable { request with hasDestinationTag := true, destinationTag := 0 } :=
      ⟨fits.amount, fits.fee, fits.signingPubKey⟩
    have untagged : Serializable { request with hasDestinationTag := false } :=
      ⟨fits.amount, fits.fee, fits.signingPubKey⟩
    have presence := (paymentFields_inj (serializeForSigning_inj tagged untagged same)).2.2.1
    cases presence

open SamplePrepaid in
theorem xrp_signing_bytes_unambiguous_sample :
    ∃ payload request body fields, xrpBuilder.buildPayload Abi.sampleHash chain
        (WithdrawGasPayer.withdrawParams xrpRequest) = .ok payload ∧
      Abi.decodeAs XrpPaymentRequest.type XrpPaymentRequest.ofValue payload = some request ∧
      serializeForSigning request = signingMark ++ body ∧
      Xrpl.parse body = some fields ∧ fields.Pairwise Xrpl.Field.Precedes := by
  obtain ⟨payload, built⟩ := exists_ok (show (xrpBuilder.buildPayload Abi.sampleHash chain
    (WithdrawGasPayer.withdrawParams xrpRequest)).toOption.isSome by decide +kernel)
  obtain ⟨_, request, body, fields, _, isRequest, _, isBody, parsed, _, ordered, _⟩ :=
    xrp_signing_bytes_unambiguous Abi.sampleHash Abi.sampleHash chain xrpBuilder _ payload
      built
  exact ⟨payload, request, body, fields, built, isRequest, isBody, parsed, ordered⟩

end RelaySettlement
