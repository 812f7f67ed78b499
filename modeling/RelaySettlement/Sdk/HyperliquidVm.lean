import RelaySettlement.PayloadBuilder.HyperliquidVm

/-!
# The SDK's reading of Hyperliquid payloads

`hyperliquidVmCodec` decodes the payloads of the builder and reads the recipient, the currency
and the amount off them.  An amount is a decimal text there, and the codec takes the number of
its decimals from the digits after the point.

Texts are the byte strings they are encoded as.  A reader that throws returns `none`.
-/

open Evm

namespace RelaySettlement

/-! ## The codec -/

namespace HyperliquidVmCodec

/-- The parameters of a decoded withdrawal. -/
inductive Parameters where
  | usdSend (hyperliquidChain destination amount time : Bytes)
  | sendAsset (hyperliquidChain destination sourceDex destinationDex token amount
      fromSubAccount nonce : Bytes)
  deriving DecidableEq

structure Withdrawal where
  txType : ℕ
  parameters : Parameters
  deriving DecidableEq

/-- `fromAbi` of `usdSendCodec`. -/
def Parameters.ofUsdSend (request : UsdSendRequest) : Parameters :=
  .usdSend request.hyperliquidChain request.destination request.amount
    (Text.decimal request.time.toNat)

/-- `fromAbi` of `sendAssetCodec`. -/
def Parameters.ofSendAsset (request : SendAssetRequest) : Parameters :=
  .sendAsset request.hyperliquidChain request.destination request.sourceDex
    request.destinationDex request.token request.amount request.fromSubAccount
    (Text.decimal request.nonce.toNat)

def decode (encodedWithdrawal : Bytes) : Option Withdrawal := do
  let result ← Abi.readAs HyperliquidPayload.type HyperliquidPayload.ofValue encodedWithdrawal
  if result.txType = 0 then
    let request ← Abi.readAs UsdSendRequest.type UsdSendRequest.ofValue result.parameters
    return ⟨result.txType.toNat, .ofUsdSend request⟩
  else if result.txType = 1 then
    let request ← Abi.readAs SendAssetRequest.type SendAssetRequest.ofValue result.parameters
    return ⟨result.txType.toNat, .ofSendAsset request⟩
  else
    none

/-- `getVmTypeNativeCurrency("hyperliquid-vm")`. -/
def nativeCurrency : Bytes := Abi.utf8 "0x00000000000000000000000000000000"

/-- `SPOT_USDC`. -/
def spotUsdc : Bytes := Abi.utf8 "0x6d1e7cde53ba9467b783cb7c530ce054"

def getCurrency (withdrawal : Withdrawal) : Option Bytes :=
  match withdrawal.parameters with
  | .usdSend .. => some nativeCurrency
  | .sendAsset _ _ tokenDex _ token _ _ _ => do
      -- the part behind the first colon
      let part ← (token.splitOn 58)[1]?
      let tokenAddress := Text.toLowerCase part
      if tokenDex = [] ∧ tokenAddress ≠ spotUsdc then none
      else if tokenDex = Abi.utf8 "spot" then return Text.toLowerCase tokenAddress
      else if tokenDex = [] then return nativeCurrency
      else return Text.toLowerCase tokenAddress ++ Text.hex tokenDex

def amountText (withdrawal : Withdrawal) : Bytes :=
  match withdrawal.parameters with
  | .usdSend _ _ amount _ => amount
  | .sendAsset _ _ _ _ _ amount _ _ => amount

/-- An integer as text. -/
def integerText : ℤ → Bytes
  | .ofNat value => Text.decimal value
  | .negSucc value => 45 :: Text.decimal (value + 1)

def getAmount (parseUnits : Bytes → ℕ → Option ℤ) (withdrawal : Withdrawal) : Option Bytes := do
  -- the digits behind the point
  let part ← ((amountText withdrawal).splitOn 46)[1]?
  let value ← parseUnits (amountText withdrawal) part.length
  return integerText value

def getRecipient (withdrawal : Withdrawal) : Bytes :=
  match withdrawal.parameters with
  | .usdSend _ destination _ _ => destination
  | .sendAsset _ destination _ _ _ _ _ _ => destination

/-- What a decoded action becomes. -/
def Withdrawal.ofAction : HyperliquidAction → Withdrawal
  | .usdSend request => ⟨0, .ofUsdSend request⟩
  | .sendAsset request => ⟨1, .ofSendAsset request⟩

end HyperliquidVmCodec

/-! ## Decoding -/

theorem UsdSendRequest.ofValue_toValue (request : UsdSendRequest) :
    ofValue request.toValue = some request := by
  simp [toValue, ofValue]

theorem SendAssetRequest.ofValue_toValue (request : SendAssetRequest) :
    ofValue request.toValue = some request := by
  simp [toValue, ofValue]

theorem HyperliquidPayload.readAs_encode {payload : HyperliquidPayload}
    (short : payload.parameters.length < 2 ^ 64) :
    Abi.readAs type ofValue (Abi.encode [payload.toValue]) = some payload := by
  have size := Abi.Value.size_bytes_le payload.parameters
  rw [type, toValue, Abi.readAs_encode_tuple
    (.cons (Abi.hasType_widen (by decide) _) (.cons (.bytes short) .nil)) (by simp)]
  · simp [ofValue]
  · simp only [List.forall_mem_cons, Abi.Value.size_word]
    exact ⟨by decide, by omega, List.forall_mem_nil _⟩

/-! Both requests are some texts and a number. -/

section Texts

variable {texts : List Bytes} (short : ∀ text ∈ texts, text.length < 2 ^ 32)
variable (few : texts.length < 16) (number : BitVec 64)

/-- The members of a request. -/
def requestMembers (texts : List Bytes) (number : BitVec 64) : List Abi.Value :=
  texts.map .bytes ++ [.word (number.setWidth 256)]

theorem length_requestMembers : (requestMembers texts number).length = texts.length + 1 := by
  rw [requestMembers, List.length_append, List.length_map, List.length_singleton]

include short

theorem requestMembers_typed : Abi.HaveTypes (requestMembers texts number)
    (texts.map (fun _ => .bytes) ++ [.uint 64]) := by
  induction texts with
  | nil => exact .cons (Abi.hasType_widen (by decide) _) .nil
  | cons text texts ih =>
      rw [List.forall_mem_cons] at short
      exact .cons (.bytes (by omega)) (ih short.2)

theorem requestMembers_size_le : ∀ member ∈ requestMembers texts number,
    member.size ≤ 2 ^ 33 := by
  intro member listed
  rcases List.mem_append.mp listed with listed | listed
  · obtain ⟨text, isText, rfl⟩ := List.mem_map.mp listed
    have size := Abi.Value.size_bytes_le text
    have length := short text isText
    omega
  · rw [List.mem_singleton.mp listed, Abi.Value.size_word]
    decide

include few

theorem requestMembers_length_lt :
    (Abi.encode [.tuple (requestMembers texts number)]).length < 2 ^ 64 := by
  have size := Abi.Value.size_tuple_le _ (requestMembers_size_le short number)
  have length := Abi.length_encode_single_le size
  rw [length_requestMembers] at length
  omega

theorem readAs_requestMembers {α : Type} (ofValue : Abi.Value → Option α) :
    Abi.readAs (.tuple (texts.map (fun _ => .bytes) ++ [.uint 64])) ofValue
      (Abi.encode [.tuple (requestMembers texts number)]) =
        ofValue (.tuple (requestMembers texts number)) := by
  apply Abi.readAs_encode_tuple (requestMembers_typed short number)
  · rw [length_requestMembers]
    omega
  · intro member listed
    exact Nat.le_trans (requestMembers_size_le short number member listed) (by decide)

end Texts

namespace HyperliquidAction

/-- The texts of an action. -/
def texts : HyperliquidAction → List Bytes
  | .usdSend request => [request.hyperliquidChain, request.destination, request.amount]
  | .sendAsset request =>
      [request.hyperliquidChain, request.destination, request.sourceDex,
        request.destinationDex, request.token, request.amount, request.fromSubAccount]

end HyperliquidAction

namespace HyperliquidVmCodec

/-- The codec decodes the payload of an action. -/
theorem decode_payload {action : HyperliquidAction}
    (short : ∀ text ∈ action.texts, text.length < 2 ^ 32) :
    decode action.payload = some (.ofAction action) := by
  cases action with
  | usdSend request =>
      have few : (HyperliquidAction.usdSend request).texts.length < 16 := by
        simp [HyperliquidAction.texts]
      have outer : Abi.readAs HyperliquidPayload.type HyperliquidPayload.ofValue
          (HyperliquidAction.usdSend request).payload = some ⟨0, Abi.encode [request.toValue]⟩ :=
        HyperliquidPayload.readAs_encode (requestMembers_length_lt short few request.time)
      have inner : Abi.readAs UsdSendRequest.type UsdSendRequest.ofValue
          (Abi.encode [request.toValue]) = some request :=
        (readAs_requestMembers short few request.time UsdSendRequest.ofValue).trans
          request.ofValue_toValue
      simp only [decode, outer, inner, some_bind, if_true]
      rfl
  | sendAsset request =>
      have few : (HyperliquidAction.sendAsset request).texts.length < 16 := by
        simp [HyperliquidAction.texts]
      have outer : Abi.readAs HyperliquidPayload.type HyperliquidPayload.ofValue
          (HyperliquidAction.sendAsset request).payload =
            some ⟨1, Abi.encode [request.toValue]⟩ :=
        HyperliquidPayload.readAs_encode (requestMembers_length_lt short few request.nonce)
      have inner : Abi.readAs SendAssetRequest.type SendAssetRequest.ofValue
          (Abi.encode [request.toValue]) = some request :=
        (readAs_requestMembers short few request.nonce SendAssetRequest.ofValue).trans
          request.ofValue_toValue
      have other : (1 : BitVec 8) ≠ 0 := by decide
      simp only [decode, outer, inner, some_bind, if_neg other, if_true]
      rfl

end HyperliquidVmCodec

/-! ## Texts of the builder -/

namespace HyperliquidVmPayloadBuilder

theorem uintToString_eq (value : U256) : uintToString value = Text.decimal value.toNat := by
  rw [uintToString]
  split
  next zero =>
    rw [zero]
    decide +kernel
  next nonzero =>
    have bound := value.isLt
    exact Text.writeDigits_eq_decimal (by omega) (Nat.ne_of_gt (toNat_pos nonzero))

/-- Amounts are written as decimal expansions. -/
theorem formatAmount_eq (amount : U256) {decimals : BitVec 8}
    (small : decimals ≤ maxTargetDecimals) :
    formatAmount amount decimals = Text.fixedPoint decimals.toNat amount.toNat := by
  rw [formatAmount, Text.fixedPoint]
  by_cases zero : decimals = 0
  · have none : decimals.toNat = 0 := congrArg BitVec.toNat zero
    rw [if_pos zero, if_pos none, uintToString_eq]
  · have powers : ∀ exponent ≤ 18, ((10 : U256) ^ exponent).toNat = 10 ^ exponent := by decide
    have point : Abi.utf8 "." = [46] := by decide +kernel
    rw [if_neg zero, if_neg (Nat.ne_of_gt (toNat_pos zero))]
    simp only [uintToString_eq, uintToFixedString, BitVec.toNat_udiv, BitVec.toNat_umod,
      powers decimals.toNat small, point]

theorem length_fixedPoint_lt (amount : U256) {decimals : BitVec 8}
    (small : decimals ≤ maxTargetDecimals) :
    (Text.fixedPoint decimals.toNat amount.toNat).length < 2 ^ 32 := by
  have bound := amount.isLt
  have digits : ∀ value ≤ amount.toNat, (Text.decimal value).length ≤ 78 := by
    intro value below
    exact Text.length_decimal_le (by decide) (by omega)
  have few : decimals.toNat ≤ 18 := small
  rw [Text.fixedPoint]
  split
  · have length := digits _ (Nat.le_refl _)
    omega
  · have length := digits _ (Nat.div_le_self amount.toNat (10 ^ decimals.toNat))
    rw [List.length_append, List.length_append, List.length_singleton, Text.length_fixedDecimal]
    omega

theorem addressToString_bytes20 {receiver : Bytes} (length : receiver.length = 20) :
    addressToString (PayloadBuilder.bytes20 receiver) = bytesToHexString receiver := by
  rw [addressToString, PayloadBuilder.bigEndian_bytes20 length]

theorem length_bytesToHexString (data : Bytes) :
    (bytesToHexString data).length = 2 + 2 * data.length := by
  have leading : (Abi.utf8 "0x").length = 2 := by decide +kernel
  rw [bytesToHexString, List.length_append, Text.length_hex, leading]

theorem length_bytes32ToString_le (value : Bytes32) : (bytes32ToString value).length ≤ 32 := by
  have shorter : (bytes32ToString value).length ≤ (Abi.word value).length :=
    (List.takeWhile_prefix _).length_le
  rwa [Abi.word, Abi.length_bigEndian] at shorter

variable {keccak256 : Bytes → Bytes32} {chain : HubChain}
variable {builder : HyperliquidVmPayloadBuilder} {chainId : Bytes} {params : BuildPayloadParams}

theorem getTargetDecimals_ok {currency : Bytes} {decimals : BitVec 8}
    (ok : getTargetDecimals keccak256 chain builder chainId currency = .ok decimals) :
    ∃ value, chain.configValues builder.config
        (getTargetDecimalsKey keccak256 chainId currency) = some value ∧
      decimals = value.setWidth 8 ∧ decimals ≤ maxTargetDecimals := by
  simp only [getTargetDecimals, getConfigValue, bind_eq_ok, orRevert_eq_ok, require_eq_ok,
    pure_eq_ok] at ok
  obtain ⟨value, isValue, _, small, rfl⟩ := ok
  exact ⟨value, isValue, rfl, small⟩

/-- The token of a built action, by its symbol. -/
def tokenText (symbol : Bytes32) (currency : Bytes) : Bytes :=
  bytes32ToString symbol ++ Abi.utf8 ":" ++ bytesToHexString currency

/-- What is written for a request, by the settings of its currency. -/
inductive Writes (keccak256 : Bytes → Bytes32) (chain : HubChain)
    (builder : HyperliquidVmPayloadBuilder) (chainId : Bytes) (params : BuildPayloadParams)
    (decimals : Bytes32) : HyperliquidAction → Prop where
  | usdSend {time : BitVec 64} (native : isNativeCurrency params.currency = true) :
      Writes keccak256 chain builder chainId params decimals (.usdSend {
        hyperliquidChain := builder.hyperliquidChain
        destination := bytesToHexString params.receiver
        amount := Text.fixedPoint (decimals.setWidth 8).toNat params.amount.toNat
        time := time })
  | sendAsset {sourceDex destinationDex symbol : Bytes32} {nonce : BitVec 64}
      (other : isNativeCurrency params.currency = false)
      (isSource : chain.configValues builder.config
        (getSourceDexKey keccak256 chainId params.currency) = some sourceDex)
      (isSymbol : chain.configValues builder.config
        (getCurrencySymbolKey keccak256 chainId params.currency) = some symbol) :
      Writes keccak256 chain builder chainId params decimals (.sendAsset {
        hyperliquidChain := builder.hyperliquidChain
        destination := bytesToHexString params.receiver
        sourceDex := bytes32ToString sourceDex
        destinationDex := bytes32ToString destinationDex
        token := tokenText symbol params.currency
        amount := Text.fixedPoint (decimals.setWidth 8).toNat params.amount.toNat
        fromSubAccount := []
        nonce := nonce })

theorem Builds.writes {action : HyperliquidAction} (length : params.receiver.length = 20)
    (builds : Builds keccak256 chain builder chainId params action) :
    ∃ decimals, chain.configValues builder.config
        (getTargetDecimalsKey keccak256 chainId params.currency) = some decimals ∧
      decimals.setWidth 8 ≤ maxTargetDecimals ∧
      Writes keccak256 chain builder chainId params decimals action := by
  cases builds with
  | usdSend native built =>
      simp only [buildUsdSendRequest, bind_eq_ok, pure_eq_ok] at built
      obtain ⟨_, isDecimals, time, _, rfl⟩ := built
      obtain ⟨decimals, isSet, rfl, small⟩ := getTargetDecimals_ok isDecimals
      refine ⟨decimals, isSet, small, ?_⟩
      rw [formatAmount_eq _ small, addressToString_bytes20 length]
      exact .usdSend native
  | sendAsset other built =>
      simp only [buildSendAssetRequest, getConfigValue, bind_eq_ok, orRevert_eq_ok,
        pure_eq_ok] at built
      obtain ⟨nonce, _, sourceDex, isSource, destinationDex, _, symbol, isSymbol, _, isDecimals,
        rfl⟩ := built
      obtain ⟨decimals, isSet, rfl, small⟩ := getTargetDecimals_ok isDecimals
      refine ⟨decimals, isSet, small, ?_⟩
      rw [formatAmount_eq _ small, addressToString_bytes20 length]
      exact .sendAsset other isSource isSymbol

theorem length_tokenText_lt (symbol : Bytes32) {currency : Bytes}
    (length : currency.length = 16) : (tokenText symbol currency).length < 2 ^ 32 := by
  have colon : (Abi.utf8 ":").length = 1 := by decide +kernel
  have symbolLength := length_bytes32ToString_le symbol
  rw [tokenText, List.length_append, List.length_append, length_bytesToHexString, colon]
  omega

theorem Writes.short {decimals : Bytes32} {action : HyperliquidAction}
    (receiver : params.receiver.length = 20) (currency : params.currency.length = 16)
    (small : decimals.setWidth 8 ≤ maxTargetDecimals)
    (writes : Writes keccak256 chain builder chainId params decimals action) :
    ∀ text ∈ action.texts, text.length < 2 ^ 32 := by
  have amount := length_fixedPoint_lt params.amount small
  have destination : (bytesToHexString params.receiver).length < 2 ^ 32 := by
    rw [length_bytesToHexString]
    omega
  have setting : ∀ value, (bytes32ToString value).length < 2 ^ 32 := by
    intro value
    have length := length_bytes32ToString_le value
    omega
  cases writes with
  | usdSend native =>
      simp only [HyperliquidAction.texts, List.forall_mem_cons]
      exact ⟨builder.hyperliquidChain_lt, destination, amount, List.forall_mem_nil _⟩
  | sendAsset other isSource isSymbol =>
      simp only [HyperliquidAction.texts, List.forall_mem_cons]
      exact ⟨builder.hyperliquidChain_lt, destination, setting _, setting _,
        length_tokenText_lt _ currency, amount, by decide, List.forall_mem_nil _⟩

end HyperliquidVmPayloadBuilder

/-! ## Reading back -/

namespace HyperliquidVmCodec

open HyperliquidVmPayloadBuilder

section Amounts

variable {parseUnits : Bytes → ℕ → Option ℤ}
variable (parses : ∀ decimals value : ℕ,
  parseUnits (Text.fixedPoint decimals value) decimals = some (value : ℤ))

include parses

/-- An amount is read back exactly if it is written with a point. -/
theorem getAmount_eq_iff {withdrawal : Withdrawal} {decimals value : ℕ}
    (isText : amountText withdrawal = Text.fixedPoint decimals value) :
    getAmount parseUnits withdrawal = some (Text.decimal value) ↔ decimals ≠ 0 := by
  rw [getAmount, isText, Text.splitOn_fixedPoint]
  by_cases zero : decimals = 0
  · rw [if_pos zero]
    exact iff_of_false (fun read => nomatch read) (not_not.mpr zero)
  · rw [if_neg zero]
    simp only [List.getElem?_cons_succ, List.getElem?_cons_zero, some_bind,
      Text.length_fixedDecimal, parses]
    exact iff_of_true rfl zero

end Amounts

theorem toLowerCase_bytesToHexString (data : Bytes) :
    Text.toLowerCase (bytesToHexString data) = bytesToHexString data := by
  apply Text.toLowerCase_eq_self
  intro character member
  have leading : ∀ character ∈ Abi.utf8 "0x",
      ¬ (65 ≤ character.toNat ∧ character.toNat ≤ 90) := by
    decide +kernel
  rcases List.mem_append.mp member with member | member
  · exact leading character member
  · have digit := Text.isHexDigit_of_mem_hex member
    rw [Text.IsHexDigit] at digit
    omega

theorem colon_notMem_bytesToHexString (data : Bytes) : 58 ∉ bytesToHexString data := by
  intro member
  have leading : (58 : UInt8) ∉ Abi.utf8 "0x" := by decide +kernel
  rcases List.mem_append.mp member with member | member
  · exact leading member
  · rcases Text.isHexDigit_of_mem_hex member with digit | digit
    · exact absurd digit.2 (by decide)
    · exact absurd digit.1 (by decide)

/-- A currency of the spot exchange is read back exactly if its symbol has no colon. -/
theorem getCurrency_eq_iff {request : SendAssetRequest} {symbol : Bytes32} {currency : Bytes}
    (length : currency.length = 16) (spot : request.sourceDex = Abi.utf8 "spot")
    (isToken : request.token = tokenText symbol currency) :
    getCurrency (.ofAction (.sendAsset request)) = some (bytesToHexString currency) ↔
      58 ∉ bytes32ToString symbol := by
  have isText : tokenText symbol currency =
      bytes32ToString symbol ++ 58 :: bytesToHexString currency := by
    have colon : Abi.utf8 ":" = [58] := by decide +kernel
    rw [tokenText, colon, List.append_assoc, List.singleton_append]
  have isSpot : Abi.utf8 "spot" ≠ [] := by decide +kernel
  have read : getCurrency (.ofAction (.sendAsset request)) =
      ((tokenText symbol currency).splitOn 58)[1]?.bind fun part =>
        some (Text.toLowerCase (Text.toLowerCase part)) := by
    simp [getCurrency, Withdrawal.ofAction, Parameters.ofSendAsset, isToken, spot, isSpot]
  rw [read, isText]
  by_cases present : 58 ∈ bytes32ToString symbol
  · obtain ⟨part, isPart, shorter⟩ :=
      Text.exists_splitOn_getElem present (bytesToHexString currency)
    rw [isPart, Option.bind_some]
    refine iff_of_false ?_ (not_not.mpr present)
    intro same
    have lengths := congrArg List.length (Option.some.inj same)
    have symbolLength := length_bytes32ToString_le symbol
    rw [Text.length_toLowerCase, Text.length_toLowerCase, length_bytesToHexString] at lengths
    omega
  · rw [Text.splitOn_between present (colon_notMem_bytesToHexString currency)]
    simp only [List.getElem?_cons_succ, List.getElem?_cons_zero, Option.bind_some,
      toLowerCase_bytesToHexString]
    exact iff_of_true trivial present

section Written

variable {keccak256 : Bytes → Bytes32} {chain : HubChain}
variable {builder : HyperliquidVmPayloadBuilder} {chainId : Bytes} {params : BuildPayloadParams}
variable {decimals : Bytes32} {action : HyperliquidAction}
variable (writes : Writes keccak256 chain builder chainId params decimals action)

include writes

theorem amountText_ofAction : amountText (.ofAction action) =
    Text.fixedPoint (decimals.setWidth 8).toNat params.amount.toNat := by
  cases writes with
  | usdSend => rfl
  | sendAsset => rfl

theorem getRecipient_ofAction :
    getRecipient (.ofAction action) = bytesToHexString params.receiver := by
  cases writes with
  | usdSend => rfl
  | sendAsset => rfl

theorem getCurrency_ofAction_iff (length : params.currency.length = 16)
    (spot : isNativeCurrency params.currency = false → ∀ value,
      chain.configValues builder.config (getSourceDexKey keccak256 chainId params.currency) =
        some value → bytes32ToString value = Abi.utf8 "spot") :
    getCurrency (.ofAction action) =
        some (if isNativeCurrency params.currency then nativeCurrency
          else bytesToHexString params.currency) ↔
      (isNativeCurrency params.currency = false → ∀ value,
        chain.configValues builder.config
          (getCurrencySymbolKey keccak256 chainId params.currency) = some value →
            58 ∉ bytes32ToString value) := by
  cases writes with
  | usdSend native =>
      rw [if_pos native, native]
      exact iff_of_true rfl (fun other => nomatch other)
  | @sendAsset _ _ symbol _ other isSource isSymbol =>
      rw [other, if_neg Bool.false_ne_true, isSymbol]
      refine (@getCurrency_eq_iff _ symbol _ length ?_ rfl).trans ?_
      · exact spot other _ isSource
      · simp

end Written

/-- What was withdrawn is what the codec reads. -/
structure ReadsBack (parseUnits : Bytes → ℕ → Option ℤ) (params : BuildPayloadParams)
    (withdrawal : Withdrawal) : Prop where
  amount : getAmount parseUnits withdrawal = some (Text.decimal params.amount.toNat)
  recipient : getRecipient withdrawal = bytesToHexString params.receiver
  currency : getCurrency withdrawal =
    some (if isNativeCurrency params.currency then nativeCurrency
      else bytesToHexString params.currency)

/-- The settings of a currency that the codec can read: amounts have decimals, and the symbol
has no colon. -/
structure Readable (keccak256 : Bytes → Bytes32) (chain : HubChain)
    (builder : HyperliquidVmPayloadBuilder) (chainId currency : Bytes) : Prop where
  decimals : ∀ value, chain.configValues builder.config
    (getTargetDecimalsKey keccak256 chainId currency) = some value → value.setWidth 8 ≠ 0#8
  symbol : isNativeCurrency currency = false → ∀ value, chain.configValues builder.config
    (getCurrencySymbolKey keccak256 chainId currency) = some value →
      58 ∉ bytes32ToString value

end HyperliquidVmCodec

open HyperliquidVmPayloadBuilder HyperliquidVmCodec in
/-- The codec decodes every payload of the builder.  With tokens of the spot exchange it reads
back what was withdrawn exactly if the settings of the currency are readable. -/
theorem hyperliquid_codec_reads_back (keccak256 : Bytes → Bytes32) (chain : HubChain)
    (builder : HyperliquidVmPayloadBuilder) (chainId : Bytes) (params : BuildPayloadParams)
    (payload : Bytes) (parseUnits : Bytes → ℕ → Option ℤ)
    (parses : ∀ decimals value : ℕ,
      parseUnits (Text.fixedPoint decimals value) decimals = some (value : ℤ))
    (built : buildPayload keccak256 chain builder chainId params = .ok payload)
    (spot : isNativeCurrency params.currency = false → ∀ value,
      chain.configValues builder.config (getSourceDexKey keccak256 chainId params.currency) =
        some value → bytes32ToString value = Abi.utf8 "spot") :
    ∃ withdrawal, decode payload = some withdrawal ∧
      (ReadsBack parseUnits params withdrawal ↔
        Readable keccak256 chain builder chainId params.currency) := by
  obtain ⟨receiver, currency, action, rfl, builds⟩ := buildPayload_ok built
  obtain ⟨decimals, isSet, small, writes⟩ := builds.writes receiver
  refine ⟨.ofAction action, decode_payload (writes.short receiver currency small), ?_⟩
  have isAmount := getAmount_eq_iff parses (amountText_ofAction writes)
  have isCurrency := getCurrency_ofAction_iff writes currency spot
  constructor
  · rintro ⟨amount, _, currency⟩
    refine ⟨?_, isCurrency.mp currency⟩
    intro value isValue zero
    cases isSet.symm.trans isValue
    exact isAmount.mp amount (congrArg BitVec.toNat zero)
  · rintro ⟨nonzero, symbol⟩
    refine ⟨isAmount.mpr ?_, getRecipient_ofAction writes, isCurrency.mpr symbol⟩
    intro zero
    exact nonzero decimals isSet (BitVec.eq_of_toNat_eq zero)

/-! Amounts with and without decimals. -/

namespace SampleCodec

open HyperliquidVmPayloadBuilder HyperliquidVmCodec

def builder : HyperliquidVmPayloadBuilder := SampleActions.builder

/-- Every setting reads as `spot` and as 6. -/
def spotChain : HubChain := ⟨3, 1000, fun _ _ => some (0x73706f74 <<< 224 ||| 6), fun _ _ => 0⟩

/-- Amounts have no decimals. -/
def wholeChain : HubChain := ⟨3, 1000, fun _ _ => some 0, fun _ _ => 0⟩

def params (currency : Bytes) : BuildPayloadParams where
  currency := currency
  amount := 1234567
  receiver := List.replicate 20 6
  nonce := 1
  data := Abi.encode [.word 123]

def token : Bytes := List.replicate 15 0 ++ [9]

/-- `parseUnits` of texts that have all their decimals. -/
def parseUnits (text : Bytes) (_ : ℕ) : Option ℤ :=
  some (Text.readDecimal (text.filter (· ≠ 46)))

theorem parses (decimals value : ℕ) :
    parseUnits (Text.fixedPoint decimals value) decimals = some (value : ℤ) := by
  rw [parseUnits, Text.readDecimal_fixedPoint]

theorem isSome_buildPayload :
    (buildPayload Abi.sampleHash spotChain builder [1] (params token)).toOption.isSome := by
  decide +kernel

end SampleCodec

open SampleCodec HyperliquidVmPayloadBuilder HyperliquidVmCodec in
theorem hyperliquid_codec_reads_back_sample :
    ∃ payload withdrawal,
      buildPayload Abi.sampleHash spotChain builder [1] (params token) = .ok payload ∧
      decode payload = some withdrawal ∧ ReadsBack parseUnits (params token) withdrawal := by
  obtain ⟨payload, built⟩ := exists_ok isSome_buildPayload
  have isSpot : bytes32ToString (0x73706f74 <<< 224 ||| 6) = Abi.utf8 "spot" := by
    decide +kernel
  obtain ⟨withdrawal, decoded, reads⟩ := hyperliquid_codec_reads_back Abi.sampleHash
    spotChain builder [1] (params token) payload parseUnits parses built
    (fun _ value isValue => Option.some.inj isValue ▸ isSpot)
  refine ⟨payload, withdrawal, built, decoded, reads.mpr ⟨?_, ?_⟩⟩
  · intro value isValue
    rw [← Option.some.inj isValue]
    decide +kernel
  · intro _ value isValue
    rw [← Option.some.inj isValue, isSpot]
    decide +kernel

open SampleCodec HyperliquidVmPayloadBuilder HyperliquidVmCodec in
/-- With no decimals an amount has no point, and reading it throws whatever `parseUnits`
does. -/
theorem hyperliquid_codec_throws :
    ∃ payload withdrawal,
      buildPayload Abi.sampleHash wholeChain builder [1]
        (params (List.replicate 16 0)) = .ok payload ∧
      decode payload = some withdrawal ∧
      ∀ parseUnits, getAmount parseUnits withdrawal = none := by
  have reads : ((buildPayload Abi.sampleHash wholeChain builder [1]
      (params (List.replicate 16 0))).toOption.bind decode).map amountText =
        some [49, 50, 51, 52, 53, 54, 55] := by
    decide +kernel
  obtain ⟨withdrawal, isWithdrawal, isText⟩ := Option.map_eq_some_iff.mp reads
  obtain ⟨payload, isPayload, decoded⟩ := bind_eq_some.mp isWithdrawal
  refine ⟨payload, withdrawal, toOption_eq_some.mp isPayload, decoded, ?_⟩
  intro parseUnits
  rw [getAmount, isText]
  rfl

end RelaySettlement
