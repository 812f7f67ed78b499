import RelaySettlement.Evm.Text
import RelaySettlement.PayloadBuilder.Deployment

/-!
# HyperliquidVmPayloadBuilder

A withdrawal on Hyperliquid is an action of the exchange, signed as typed data: `usdSend` for
its native USDC and `sendAsset` for every other token.  Amounts and tokens are texts.  The
nonce of an action is the time of the block in milliseconds, moved within the second by the
data of the request.
-/

open Evm

namespace RelaySettlement

/-! ## Payloads -/

/-- The envelope of an action. -/
structure HyperliquidPayload where
  txType : BitVec 8
  parameters : Bytes

namespace HyperliquidPayload

def type : Abi.Ty := .tuple [.uint 8, .bytes]

def toValue (payload : HyperliquidPayload) : Abi.Value :=
  .tuple [.word (payload.txType.setWidth 256), .bytes payload.parameters]

def ofValue : Abi.Value → Option HyperliquidPayload
  | .tuple [.word txType, .bytes parameters] => some ⟨txType.setWidth 8, parameters⟩
  | _ => none

end HyperliquidPayload

structure UsdSendRequest where
  hyperliquidChain : Bytes
  destination : Bytes
  amount : Bytes
  time : BitVec 64

namespace UsdSendRequest

def type : Abi.Ty := .tuple [.bytes, .bytes, .bytes, .uint 64]

def toValue (request : UsdSendRequest) : Abi.Value :=
  .tuple [.bytes request.hyperliquidChain, .bytes request.destination, .bytes request.amount,
    .word (request.time.setWidth 256)]

def ofValue : Abi.Value → Option UsdSendRequest
  | .tuple [.bytes hyperliquidChain, .bytes destination, .bytes amount, .word time] =>
      some ⟨hyperliquidChain, destination, amount, time.setWidth 64⟩
  | _ => none

end UsdSendRequest

structure SendAssetRequest where
  hyperliquidChain : Bytes
  destination : Bytes
  sourceDex : Bytes
  destinationDex : Bytes
  token : Bytes
  amount : Bytes
  fromSubAccount : Bytes
  nonce : BitVec 64

namespace SendAssetRequest

def type : Abi.Ty :=
  .tuple [.bytes, .bytes, .bytes, .bytes, .bytes, .bytes, .bytes, .uint 64]

def toValue (request : SendAssetRequest) : Abi.Value :=
  .tuple [.bytes request.hyperliquidChain, .bytes request.destination,
    .bytes request.sourceDex, .bytes request.destinationDex, .bytes request.token,
    .bytes request.amount, .bytes request.fromSubAccount, .word (request.nonce.setWidth 256)]

def ofValue : Abi.Value → Option SendAssetRequest
  | .tuple [.bytes hyperliquidChain, .bytes destination, .bytes sourceDex,
      .bytes destinationDex, .bytes token, .bytes amount, .bytes fromSubAccount,
      .word nonce] =>
      some ⟨hyperliquidChain, destination, sourceDex, destinationDex, token, amount,
        fromSubAccount, nonce.setWidth 64⟩
  | _ => none

end SendAssetRequest

/-! ## The builder -/

/-- A deployed builder.  The name of the chain is an argument of its constructor, and so
shorter than the transaction that deployed the builder. -/
structure HyperliquidVmPayloadBuilder where
  config : Address
  signatureChainId : U256
  hyperliquidChain : Bytes
  hyperliquidChain_lt : hyperliquidChain.length < 2 ^ 32

namespace HyperliquidVmPayloadBuilder

inductive Error where
  | invalidReceiverLength (length : ℕ)
  | invalidCurrencyLength (length : ℕ)
  | targetDecimalsTooLarge (decimals : BitVec 8)
  | unsupportedTransactionType (txType : BitVec 8)
  | configValueNotSet (key : Bytes32)
  | abiDecodingFailed
  | arithmeticPanic
  deriving DecidableEq

/-- `USD_SEND_TX_TYPE`. -/
def usdSendTxType : BitVec 8 := 0

/-- `SEND_ASSET_TX_TYPE`. -/
def sendAssetTxType : BitVec 8 := 1

/-- `MAX_TARGET_DECIMALS`. -/
def maxTargetDecimals : BitVec 8 := 18

/-! Texts -/

/-- `_bytesToHexString`. -/
def bytesToHexString (data : Bytes) : Bytes := Abi.utf8 "0x" ++ Text.hex data

/-- `_addressToString`. -/
def addressToString (account : Address) : Bytes :=
  bytesToHexString (Abi.bigEndian 20 account.toNat)

/-- `_bytes32ToString`. -/
def bytes32ToString (value : Bytes32) : Bytes := (Abi.word value).takeWhile (· ≠ 0)

/-- `_uintToString`.  The loop that counts the digits only sizes the buffer; there are at most
78 of them. -/
def uintToString (value : U256) : Bytes :=
  if value = 0 then Abi.utf8 "0" else Text.writeDigits 78 value.toNat []

/-- `_uintToFixedString`. -/
def uintToFixedString (value : U256) (length : BitVec 8) : Bytes :=
  Text.fixedDecimal length.toNat value.toNat

/-- `_formatAmount`. -/
def formatAmount (amount : U256) (targetDecimals : BitVec 8) : Bytes :=
  if targetDecimals = 0 then uintToString amount
  else
    let scale : U256 := 10 ^ targetDecimals.toNat
    uintToString (amount / scale) ++ Abi.utf8 "." ++
      uintToFixedString (amount % scale) targetDecimals

/-- `_isNativeCurrency`. -/
def isNativeCurrency (currency : Bytes) : Bool :=
  currency.length = 16 && currency.all (· = 0)

/-! Hashing -/

section Views

variable (keccak256 : Bytes → Bytes32)

/-- `USD_SEND_TYPEHASH`. -/
def usdSendTypehash : Bytes32 :=
  keccak256 (Abi.utf8 "HyperliquidTransaction:UsdSend(" ++ Abi.utf8 "string hyperliquidChain," ++
    Abi.utf8 "string destination," ++ Abi.utf8 "string amount," ++ Abi.utf8 "uint64 time)")

/-- `SEND_ASSET_TYPEHASH`. -/
def sendAssetTypehash : Bytes32 :=
  keccak256 (Abi.utf8 "HyperliquidTransaction:SendAsset(" ++
    Abi.utf8 "string hyperliquidChain," ++ Abi.utf8 "string destination," ++
    Abi.utf8 "string sourceDex," ++ Abi.utf8 "string destinationDex," ++
    Abi.utf8 "string token," ++ Abi.utf8 "string amount," ++
    Abi.utf8 "string fromSubAccount," ++ Abi.utf8 "uint64 nonce)")

def hashUsdSendRequest (request : UsdSendRequest) : Bytes32 :=
  keccak256 (Abi.encode [.word (usdSendTypehash keccak256),
    .word (keccak256 request.hyperliquidChain), .word (keccak256 request.destination),
    .word (keccak256 request.amount), .word (request.time.setWidth 256)])

def hashSendAssetRequest (request : SendAssetRequest) : Bytes32 :=
  keccak256 (Abi.encode [.word (sendAssetTypehash keccak256),
    .word (keccak256 request.hyperliquidChain), .word (keccak256 request.destination),
    .word (keccak256 request.sourceDex), .word (keccak256 request.destinationDex),
    .word (keccak256 request.token), .word (keccak256 request.amount),
    .word (keccak256 request.fromSubAccount), .word (request.nonce.setWidth 256)])

def hashesToSign (builder : HyperliquidVmPayloadBuilder) (payload : Bytes) :
    Except Error (List Bytes32) := do
  let decoded ← orRevert
    (Abi.decodeAs HyperliquidPayload.type HyperliquidPayload.ofValue payload)
    .abiDecodingFailed
  let domainSeparator := Utils.buildDomainSeparator keccak256 "HyperliquidSignTransaction" "1"
    builder.signatureChainId 0
  if decoded.txType = usdSendTxType then
    let request ← orRevert
      (Abi.decodeAs UsdSendRequest.type UsdSendRequest.ofValue decoded.parameters)
      .abiDecodingFailed
    return [Abi.hashTypedData keccak256 domainSeparator (hashUsdSendRequest keccak256 request)]
  else if decoded.txType = sendAssetTxType then
    let request ← orRevert
      (Abi.decodeAs SendAssetRequest.type SendAssetRequest.ofValue decoded.parameters)
      .abiDecodingFailed
    return [Abi.hashTypedData keccak256 domainSeparator
      (hashSendAssetRequest keccak256 request)]
  else
    .error (.unsupportedTransactionType decoded.txType)

/-! Building -/

def getTargetDecimalsKey : Bytes → Bytes → Bytes32 :=
  PayloadBuilder.currencyKey keccak256 "HYPERLIQUID_VM_TARGET_DECIMALS"

def getCurrencySymbolKey : Bytes → Bytes → Bytes32 :=
  PayloadBuilder.currencyKey keccak256 "HYPERLIQUID_VM_CURRENCY_SYMBOL"

def getSourceDexKey : Bytes → Bytes → Bytes32 :=
  PayloadBuilder.currencyKey keccak256 "HYPERLIQUID_VM_SOURCE_DEX"

def getDestinationDexKey : Bytes → Bytes → Bytes32 :=
  PayloadBuilder.currencyKey keccak256 "HYPERLIQUID_VM_DESTINATION_DEX"

variable (chain : HubChain) (builder : HyperliquidVmPayloadBuilder)

def getConfigValue (key : Bytes32) : Except Error Bytes32 :=
  orRevert (chain.configValues builder.config key) (.configValueNotSet key)

/-- `_getTargetDecimals`. -/
def getTargetDecimals (chainId currency : Bytes) : Except Error (BitVec 8) := do
  let value ← getConfigValue chain builder (getTargetDecimalsKey keccak256 chainId currency)
  let decimals := value.setWidth 8
  require (decimals ≤ maxTargetDecimals) (.targetDecimalsTooLarge decimals)
  return decimals

/-- The nonce seed of a request: its data, a `uint64`. -/
def decodeNonceSeed : Bytes → Option (BitVec 64) :=
  Abi.decodeAs (.uint 64) fun
    | .word seed => some (seed.setWidth 64)
    | _ => none

/-- `_deriveNonce`. -/
def deriveNonce (data : Bytes) : Except Error (BitVec 64) := do
  let nonceSeed ← orRevert (decodeNonceSeed data) .abiDecodingFailed
  let milliseconds ← checkedMul .arithmeticPanic chain.timestamp 1000
  checkedAddNarrow .arithmeticPanic (milliseconds.setWidth 64) (nonceSeed % 1000)

/-- `_buildUsdSendRequest`. -/
def buildUsdSendRequest (chainId : Bytes) (params : BuildPayloadParams) :
    Except Error UsdSendRequest := do
  let decimals ← getTargetDecimals keccak256 chain builder chainId params.currency
  let time ← deriveNonce chain params.data
  return {
    hyperliquidChain := builder.hyperliquidChain
    destination := addressToString (PayloadBuilder.bytes20 params.receiver)
    amount := formatAmount params.amount decimals
    time := time }

/-- `_buildSendAssetRequest`. -/
def buildSendAssetRequest (chainId : Bytes) (params : BuildPayloadParams) :
    Except Error SendAssetRequest := do
  let nonce ← deriveNonce chain params.data
  let sourceDex ← getConfigValue chain builder
    (getSourceDexKey keccak256 chainId params.currency)
  let destinationDex ← getConfigValue chain builder
    (getDestinationDexKey keccak256 chainId params.currency)
  let symbol ← getConfigValue chain builder
    (getCurrencySymbolKey keccak256 chainId params.currency)
  let decimals ← getTargetDecimals keccak256 chain builder chainId params.currency
  return {
    hyperliquidChain := builder.hyperliquidChain
    destination := addressToString (PayloadBuilder.bytes20 params.receiver)
    sourceDex := bytes32ToString sourceDex
    destinationDex := bytes32ToString destinationDex
    token := bytes32ToString symbol ++ Abi.utf8 ":" ++ bytesToHexString params.currency
    amount := formatAmount params.amount decimals
    fromSubAccount := []
    nonce := nonce }

def buildPayload (chainId : Bytes) (params : BuildPayloadParams) : Except Error Bytes := do
  require (params.receiver.length = 20) (.invalidReceiverLength params.receiver.length)
  require (params.currency.length = 16) (.invalidCurrencyLength params.currency.length)
  if isNativeCurrency params.currency then
    let request ← buildUsdSendRequest keccak256 chain builder chainId params
    return Abi.encode [HyperliquidPayload.toValue
      ⟨usdSendTxType, Abi.encode [request.toValue]⟩]
  else
    let request ← buildSendAssetRequest keccak256 chain builder chainId params
    return Abi.encode [HyperliquidPayload.toValue
      ⟨sendAssetTxType, Abi.encode [request.toValue]⟩]

/-- The views of the builder. -/
def views : BuilderViews where
  buildPayload := fun chain chainId _ params =>
    (buildPayload keccak256 chain builder chainId params).toOption
  hashesToSign := fun _ _ _ payload => (hashesToSign keccak256 builder payload).toOption

end Views

end HyperliquidVmPayloadBuilder

/-! ## Actions -/

/-- What a payload asks the exchange to do. -/
inductive HyperliquidAction where
  | usdSend (request : UsdSendRequest)
  | sendAsset (request : SendAssetRequest)

namespace HyperliquidAction

open HyperliquidVmPayloadBuilder

def payload : HyperliquidAction → Bytes
  | .usdSend request =>
      Abi.encode [HyperliquidPayload.toValue ⟨usdSendTxType, Abi.encode [request.toValue]⟩]
  | .sendAsset request =>
      Abi.encode [HyperliquidPayload.toValue ⟨sendAssetTxType, Abi.encode [request.toValue]⟩]

/-- The field the exchange takes as the nonce of the action. -/
def nonce : HyperliquidAction → BitVec 64
  | .usdSend request => request.time
  | .sendAsset request => request.nonce

end HyperliquidAction

namespace HyperliquidVmPayloadBuilder

variable {keccak256 : Bytes → Bytes32} {chain : HubChain}
variable {builder : HyperliquidVmPayloadBuilder} {chainId : Bytes} {params : BuildPayloadParams}

/-- The action that is built for a request. -/
inductive Builds (keccak256 : Bytes → Bytes32) (chain : HubChain)
    (builder : HyperliquidVmPayloadBuilder) (chainId : Bytes) (params : BuildPayloadParams) :
    HyperliquidAction → Prop where
  | usdSend {request : UsdSendRequest} (native : isNativeCurrency params.currency = true)
      (built : buildUsdSendRequest keccak256 chain builder chainId params = .ok request) :
      Builds keccak256 chain builder chainId params (.usdSend request)
  | sendAsset {request : SendAssetRequest} (other : isNativeCurrency params.currency = false)
      (built : buildSendAssetRequest keccak256 chain builder chainId params = .ok request) :
      Builds keccak256 chain builder chainId params (.sendAsset request)

theorem buildPayload_ok {payload : Bytes}
    (ok : buildPayload keccak256 chain builder chainId params = .ok payload) :
    params.receiver.length = 20 ∧ params.currency.length = 16 ∧
      ∃ action : HyperliquidAction, payload = action.payload ∧
        Builds keccak256 chain builder chainId params action := by
  simp only [buildPayload, bind_eq_ok, require_eq_ok] at ok
  obtain ⟨_, receiver, _, currency, ok⟩ := ok
  refine ⟨receiver, currency, ?_⟩
  split at ok
  next native =>
    obtain ⟨request, built, isPayload⟩ := bind_eq_ok.mp ok
    exact ⟨.usdSend request, (pure_eq_ok.mp isPayload).symm, .usdSend native built⟩
  next other =>
    obtain ⟨request, built, isPayload⟩ := bind_eq_ok.mp ok
    exact ⟨.sendAsset request, (pure_eq_ok.mp isPayload).symm,
      .sendAsset (Bool.eq_false_iff.mpr other) built⟩

/-! ## Nonces -/

/-- Until the time in milliseconds fills 64 bits, a nonce is the time with the last three
digits of the seed. -/
theorem deriveNonce_ok {data : Bytes} {nonce : BitVec 64}
    (early : chain.timestamp.toNat < 2 ^ 53) (ok : deriveNonce chain data = .ok nonce) :
    ∃ seed, decodeNonceSeed data = some seed ∧
      nonce.toNat = chain.timestamp.toNat * 1000 + (seed % 1000).toNat := by
  simp only [deriveNonce, bind_eq_ok, orRevert_eq_ok, checkedMul_eq_ok,
    checkedAddNarrow_eq_ok] at ok
  obtain ⟨seed, isSeed, milliseconds, isTime, isNonce⟩ := ok
  refine ⟨seed, isSeed, ?_⟩
  have thousand : (1000 : U256).toNat = 1000 := rfl
  rw [isNonce, BitVec.toNat_setWidth, isTime, thousand, Nat.mod_eq_of_lt (by omega)]

theorem Builds.deriveNonce {action : HyperliquidAction}
    (builds : Builds keccak256 chain builder chainId params action) :
    HyperliquidVmPayloadBuilder.deriveNonce chain params.data = .ok action.nonce := by
  cases builds with
  | usdSend _ built =>
      simp only [buildUsdSendRequest, bind_eq_ok, pure_eq_ok] at built
      obtain ⟨_, _, time, isTime, rfl⟩ := built
      exact isTime
  | sendAsset _ built =>
      simp only [buildSendAssetRequest, bind_eq_ok, pure_eq_ok] at built
      obtain ⟨nonce, isNonce, _, _, _, _, _, _, _, _, rfl⟩ := built
      exact isNonce

/-- The action of a payload, and the seed its nonce is made of. -/
theorem exists_action {depository payload : Bytes} (early : chain.timestamp.toNat < 2 ^ 53)
    (built : (builder.views keccak256).buildPayload chain chainId depository params =
      some payload) :
    ∃ (action : HyperliquidAction) (seed : BitVec 64),
      payload = action.payload ∧ decodeNonceSeed params.data = some seed ∧
      action.nonce.toNat = chain.timestamp.toNat * 1000 + (seed % 1000).toNat := by
  obtain ⟨_, _, action, isPayload, builds⟩ := buildPayload_ok (toOption_eq_some.mp built)
  obtain ⟨seed, isSeed, isNonce⟩ := deriveNonce_ok early builds.deriveNonce
  exact ⟨action, seed, isPayload, isSeed, isNonce⟩

theorem toNat_mod_thousand_lt (seed : BitVec 64) : (seed % 1000).toNat < 1000 := by
  have thousand : (1000 : BitVec 64).toNat = 1000 := rfl
  rw [BitVec.toNat_umod, thousand]
  exact Nat.mod_lt _ (by decide)

end HyperliquidVmPayloadBuilder

open HyperliquidVmPayloadBuilder in
/-- The actions of two accepted requests have the same nonce exactly if the requests are
accepted at the same time with seeds that agree in their milliseconds. -/
theorem hyperliquid_nonces {χ : Type} (env : AllocatorEnv χ) (chainOf : χ → HubChain)
    (address : Address) (builder : HyperliquidVmPayloadBuilder)
    (deployed : env.Deployed chainOf address (builder.views env.hub.keccak256))
    (start : AllocatorWorld) (calls : List (AllocatorSystemCall χ))
    (success success' : Transition AllocatorWorld (AllocatorSystemCall χ)) (ctx ctx' : Ctx χ)
    (params params' : WithdrawRequest)
    (accepted : AllocatorWorld.AcceptedThrough env start calls address success ctx params)
    (accepted' : AllocatorWorld.AcceptedThrough env start calls address success' ctx' params')
    (early : (chainOf ctx.rest).timestamp.toNat < 2 ^ 53)
    (early' : (chainOf ctx'.rest).timestamp.toNat < 2 ^ 53) :
    let final := run (AllocatorWorld.step env) calls start
    ∃ (action action' : HyperliquidAction) (seed seed' : BitVec 64),
      final.allocator.payloads (Allocator.withdrawRequestHash env params) = action.payload ∧
      final.allocator.payloads (Allocator.withdrawRequestHash env params') = action'.payload ∧
      decodeNonceSeed params.data = some seed ∧ decodeNonceSeed params'.data = some seed' ∧
      (action.nonce = action'.nonce ↔
        (chainOf ctx.rest).timestamp = (chainOf ctx'.rest).timestamp ∧
          seed % 1000 = seed' % 1000) := by
  intro final
  obtain ⟨_, delivers⟩ := accepted.delivers deployed
  obtain ⟨_, delivers'⟩ := accepted'.delivers deployed
  obtain ⟨action, seed, stored, isSeed, isNonce⟩ := exists_action early delivers.built
  obtain ⟨action', seed', stored', isSeed', isNonce'⟩ := exists_action early' delivers'.built
  refine ⟨action, action', seed, seed', stored, stored', isSeed, isSeed', ?_⟩
  have small := toNat_mod_thousand_lt seed
  have small' := toNat_mod_thousand_lt seed'
  rw [← BitVec.toNat_inj, isNonce, isNonce', ← BitVec.toNat_inj, ← BitVec.toNat_inj]
  omega

/-! Two requests of one block. -/

namespace SampleActions

open SampleAllocator

def builder : HyperliquidVmPayloadBuilder := ⟨21, 42161, [77], by decide⟩

def views : BuilderViews := builder.views Abi.sampleHash

/-- Every setting is 2. -/
def chain : HubChain := ⟨3, 1000, fun _ _ => some 2, fun _ _ => 0⟩

/-- The same seed with every amount. -/
def params (amount : U256) : WithdrawRequest :=
  { SampleRequests.params with
    currency := List.replicate 16 0
    amount := amount
    receiver := List.replicate 20 6
    data := Abi.encode [.word 123]
    nonce := amount }

def submissions : List (HubChain × WithdrawRequest) := [(chain, params 1), (chain, params 2)]

theorem accepted_params : accepted views submissions = [(params 1, 20), (params 2, 20)] := by
  decide +kernel

theorem exists_accepted_params (amount : U256)
    (listed : (params amount, (20 : Address)) ∈ [(params 1, (20 : Address)), (params 2, 20)]) :
    ∃ success, AllocatorWorld.AcceptedThrough (surroundings views) start (calls submissions) 20
      success (context chain (params amount)) (params amount) := by
  obtain ⟨success, chain', isSubmission, through⟩ := exists_accepted accepted_params listed
  have same : chain' = chain := by
    rcases List.mem_pair.mp isSubmission with same | same <;> cases same <;> rfl
  exact ⟨success, same ▸ through⟩

end SampleActions

open SampleActions SampleAllocator in
theorem hyperliquid_nonces_sample :
    ∃ action action' : HyperliquidAction,
      payloadOf views submissions (params 1) = action.payload ∧
      payloadOf views submissions (params 2) = action'.payload ∧
      action.nonce = action'.nonce := by
  obtain ⟨success, accepted⟩ := exists_accepted_params 1 (List.mem_cons_self ..)
  obtain ⟨success', accepted'⟩ := exists_accepted_params 2
    (List.mem_cons_of_mem _ (List.mem_cons_self ..))
  obtain ⟨action, action', seed, seed', stored, stored', isSeed, isSeed', same⟩ :=
    hyperliquid_nonces (surroundings views) id 20 builder (deployed views) start
      (calls submissions) success success' _ _ (params 1) (params 2) accepted accepted'
      (by decide +kernel) (by decide +kernel)
  have seeds : seed = seed' := Option.some.inj (isSeed.symm.trans isSeed')
  exact ⟨action, action', stored, stored', same.mpr ⟨rfl, by rw [seeds]⟩⟩

open SampleActions SampleAllocator in
/-- Two requests of one block with the same seed get the same nonce. -/
theorem hyperliquid_nonces_collide :
    ∃ success success' : Transition AllocatorWorld (AllocatorSystemCall HubChain),
      AllocatorWorld.AcceptedThrough (surroundings views) start (calls submissions) 20 success
        (context chain (params 1)) (params 1) ∧
      AllocatorWorld.AcceptedThrough (surroundings views) start (calls submissions) 20 success'
        (context chain (params 2)) (params 2) ∧
      chain.timestamp.toNat < 2 ^ 53 ∧
      Allocator.withdrawRequestHash (surroundings views) (params 1) ≠
        Allocator.withdrawRequestHash (surroundings views) (params 2) ∧
      ∃ action action' : HyperliquidAction,
        payloadOf views submissions (params 1) = action.payload ∧
        payloadOf views submissions (params 2) = action'.payload ∧
        action.nonce = action'.nonce := by
  obtain ⟨success, accepted⟩ := exists_accepted_params 1 (List.mem_cons_self ..)
  obtain ⟨success', accepted'⟩ := exists_accepted_params 2
    (List.mem_cons_of_mem _ (List.mem_cons_self ..))
  obtain ⟨_, delivers⟩ := accepted.delivers (deployed views)
  obtain ⟨_, delivers'⟩ := accepted'.delivers (deployed views)
  have early : chain.timestamp.toNat < 2 ^ 53 := by decide +kernel
  refine ⟨success, success', accepted, accepted', early, by decide +kernel, ?_⟩
  obtain ⟨action, seed, stored, isSeed, isNonce⟩ :=
    HyperliquidVmPayloadBuilder.exists_action early delivers.built
  obtain ⟨action', seed', stored', isSeed', isNonce'⟩ :=
    HyperliquidVmPayloadBuilder.exists_action early delivers'.built
  have seeds : seed = seed' := Option.some.inj (isSeed.symm.trans isSeed')
  refine ⟨action, action', stored, stored', BitVec.eq_of_toNat_eq ?_⟩
  rw [isNonce, isNonce', seeds]

end RelaySettlement
