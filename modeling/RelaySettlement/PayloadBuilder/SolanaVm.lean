import RelaySettlement.Allocator.Identifiers

/-!
# SolanaVmPayloadBuilder

A withdrawal on Solana is a transfer request of the depository program, in its Borsh
serialization.  The request names the mint of a token, or none for native SOL.  The currency
of a withdrawal is the 32 bytes of a mint; all zeros stand for native SOL, and so does the
empty string.
-/

open Evm

namespace RelaySettlement

/-! ## The request of the program -/

/-- `TransferRequest` of the depository program. -/
structure TransferRequest where
  domain : Bytes32
  recipient : Bytes32
  token : Option Bytes32
  amount : BitVec 64
  nonce : BitVec 64
  expiration : BitVec 64
  vaultAddress : Bytes32
  deriving DecidableEq

namespace TransferRequest

/-- An optional key in Borsh: a byte that says whether it is there, and the key. -/
def serializeToken : Option Bytes32 → Bytes
  | none => [0]
  | some token => 1 :: Abi.word token

/-- `try_to_vec`. -/
def serialize (request : TransferRequest) : Bytes :=
  Abi.word request.domain ++ (Abi.word request.recipient ++ (serializeToken request.token ++
    (littleEndian 8 request.amount.toNat ++ (littleEndian 8 request.nonce.toNat ++
      (littleEndian 8 request.expiration.toNat ++ Abi.word request.vaultAddress)))))

/-- `get_hash`. -/
def getHash (sha256 : Bytes → Bytes32) (request : TransferRequest) : Bytes32 :=
  sha256 request.serialize

def readToken : Reader (Option Bytes32) := do
  let tag ← Reader.byte
  if tag = 0 then return none
  else if tag = 1 then return some (← Reader.word)
  else failure

def reader : Reader TransferRequest := do
  let domain ← Reader.word
  let recipient ← Reader.word
  let token ← readToken
  let amount ← Reader.uint 64
  let nonce ← Reader.uint 64
  let expiration ← Reader.uint 64
  let vaultAddress ← Reader.word
  return ⟨domain, recipient, token, amount, nonce, expiration, vaultAddress⟩

/-- `try_from_slice`. -/
def deserialize : Bytes → Option TransferRequest := reader.whole

theorem run_readToken (token : Option Bytes32) (rest : Bytes) :
    readToken.run (serializeToken token ++ rest) = some (token, rest) := by
  cases token with
  | none => rfl
  | some token =>
      have read := Reader.run_word token rest
      have tag : (1 : UInt8) ≠ 0 := by decide
      simp [readToken, serializeToken, Reader.run_byte, read]

theorem deserialize_serialize (request : TransferRequest) :
    deserialize request.serialize = some request := by
  have last := Reader.run_word request.vaultAddress []
  rw [List.append_nil] at last
  have number := @Reader.run_uint 64 rfl
  rw [show 64 / 8 = 8 from rfl] at number
  have run : reader.run request.serialize = some (request, []) := by
    simp [reader, serialize, Reader.run_word, run_readToken, number, last]
  rw [deserialize, Reader.whole, run]

end TransferRequest

/-! ## The builder -/

structure TransferFields where
  recipientPubkey : Bytes32
  tokenPubkey : Bytes32
  amountU64 : BitVec 64

structure SolanaVmPayloadBuilder where
  config : Address

namespace SolanaVmPayloadBuilder

inductive Error where
  | valueExceedsUint64 (value : U256)
  | invalidAddressLength (length expectedLength : ℕ)
  | configValueNotSet (key : Bytes32)
  | arithmeticPanic
  deriving DecidableEq

/-- `bytes32(data)` of 32 bytes. -/
def bytes32 (data : Bytes) : Bytes32 := BitVec.ofNat 256 (Abi.readBigEndian data)

def decodeTransferFields (currency : Bytes) (amount : U256) (receiver : Bytes) :
    Except Error TransferFields := do
  require (receiver.length = 32) (.invalidAddressLength receiver.length 32)
  require (currency.length = 0 ∨ currency.length = 32) (.invalidAddressLength currency.length 32)
  let amountU64 ← safeCast 64 (.valueExceedsUint64 amount) amount
  return {
    recipientPubkey := bytes32 receiver
    tokenPubkey := if currency.length = 32 then bytes32 currency else 0
    amountU64 := amountU64 }

def encodeBorsh (domain recipient token : Bytes32) (amount nonce expiration : BitVec 64)
    (vaultAddress : Bytes32) : Bytes :=
  Abi.word domain ++ Abi.word recipient ++
    (if token = 0 then [0x00] else [0x01] ++ Abi.word token) ++
    Utils.encodeUint64LE amount ++ Utils.encodeUint64LE nonce ++
    Utils.encodeUint64LE expiration ++ Abi.word vaultAddress

section Views

variable (keccak256 sha256 : Bytes → Bytes32)

def getDomainKey (chainId : Bytes) : Bytes32 :=
  keccak256 (Abi.word (keccak256 (Abi.utf8 "SOLANA_VM_DOMAIN")) ++ chainId)

def getVaultAddressKey (chainId : Bytes) : Bytes32 :=
  keccak256 (Abi.word (keccak256 (Abi.utf8 "SOLANA_VM_VAULT_ADDRESS")) ++ chainId)

def getExpirationKey : Bytes32 := keccak256 (Abi.utf8 "SOLANA_VM_EXPIRATION")

variable (chain : HubChain) (builder : SolanaVmPayloadBuilder)

def getConfigValue (key : Bytes32) : Except Error Bytes32 :=
  orRevert (chain.configValues builder.config key) (.configValueNotSet key)

/-- The domain and the vault of a chain. -/
def getChainConfig (chainId : Bytes) : Except Error (Bytes32 × Bytes32) := do
  let domain ← getConfigValue chain builder (getDomainKey keccak256 chainId)
  let vaultAddress ← getConfigValue chain builder (getVaultAddressKey keccak256 chainId)
  return (domain, vaultAddress)

def getExpirationDelay : Except Error (BitVec 64) := do
  let delay ← getConfigValue chain builder (getExpirationKey keccak256)
  return delay.setWidth 64

def computeNonce (params : BuildPayloadParams) : BitVec 64 :=
  (keccak256 (Abi.encode [.word chain.blockNumber, .word params.nonce, .bytes params.currency,
    .bytes params.receiver, .bytes params.data, .word params.amount])).setWidth 64

def buildPayload (chainId : Bytes) (params : BuildPayloadParams) : Except Error Bytes := do
  let (domain, vaultAddress) ← getChainConfig keccak256 chain builder chainId
  let fields ← decodeTransferFields params.currency params.amount params.receiver
  let delay ← getExpirationDelay keccak256 chain builder
  let expiration ← checkedAdd .arithmeticPanic chain.timestamp (delay.setWidth 256)
  return encodeBorsh domain fields.recipientPubkey fields.tokenPubkey fields.amountU64
    (computeNonce keccak256 chain params) (expiration.setWidth 64) vaultAddress

def hashesToSign (payload : Bytes) : List Bytes32 := [sha256 payload]

/-- The views of the builder. -/
def views : BuilderViews where
  buildPayload := fun chain chainId _ params =>
    (buildPayload keccak256 chain builder chainId params).toOption
  hashesToSign := fun _ _ _ payload => some (hashesToSign sha256 payload)

end Views

/-! ## What is transferred -/

/-- The mint a currency names; none for native SOL. -/
def asset (currency : Bytes) : Option Bytes32 :=
  let token := if currency.length = 32 then bytes32 currency else 0
  if token = 0 then none else some token

theorem encodeBorsh_eq (domain recipient token : Bytes32) (amount nonce expiration : BitVec 64)
    (vaultAddress : Bytes32) :
    encodeBorsh domain recipient token amount nonce expiration vaultAddress =
      TransferRequest.serialize ⟨domain, recipient, if token = 0 then none else some token,
        amount, nonce, expiration, vaultAddress⟩ := by
  simp only [encodeBorsh, TransferRequest.serialize, Utils.encodeUint64LE, List.append_assoc]
  split <;> rfl

variable {keccak256 sha256 : Bytes → Bytes32} {chain : HubChain}
variable {builder : SolanaVmPayloadBuilder} {chainId : Bytes} {params : BuildPayloadParams}

/-- A built payload is a request of the program for the mint of the currency. -/
theorem exists_request {depository payload : Bytes}
    (built : (builder.views keccak256 sha256).buildPayload chain chainId depository params =
      some payload) :
    (params.currency.length = 0 ∨ params.currency.length = 32) ∧
      ∃ request, TransferRequest.deserialize payload = some request ∧
        request.token = asset params.currency := by
  have ok := toOption_eq_some.mp built
  simp only [buildPayload, decodeTransferFields, bind_eq_ok, require_eq_ok, pure_eq_ok] at ok
  obtain ⟨⟨domain, vaultAddress⟩, _, _, ⟨_, _, _, length, amount, _, rfl⟩, _, _, _, _, rfl⟩ := ok
  rw [encodeBorsh_eq]
  exact ⟨length, _, TransferRequest.deserialize_serialize _, rfl⟩

/-! ## Currencies and assets -/

/-- Two currencies are the two names of native SOL. -/
def NativeAliases (currency currency' : Bytes) : Prop :=
  (currency = [] ∧ currency' = List.replicate 32 0) ∨
    (currency = List.replicate 32 0 ∧ currency' = [])

section Assets

variable {currency currency' : Bytes}

theorem toNat_bytes32 (length : currency.length = 32) :
    (bytes32 currency).toNat = Abi.readBigEndian currency := by
  have bound := Abi.readBigEndian_lt currency
  rw [length] at bound
  rw [bytes32, BitVec.toNat_ofNat]
  exact Nat.mod_eq_of_lt bound

theorem bytes32_inj (length : currency.length = 32) (length' : currency'.length = 32) :
    bytes32 currency = bytes32 currency' ↔ currency = currency' := by
  constructor
  · intro same
    have numbers := congrArg BitVec.toNat same
    rw [toNat_bytes32 length, toNat_bytes32 length'] at numbers
    rw [← Abi.bigEndian_readBigEndian currency, ← Abi.bigEndian_readBigEndian currency', numbers,
      length, length']
  · rintro rfl
    rfl

theorem asset_of_length (length : currency.length = 32) :
    asset currency = if currency = List.replicate 32 0 then none else some (bytes32 currency) := by
  have zero : bytes32 (List.replicate 32 0) = 0 := by decide +kernel
  have isZero := bytes32_inj length (List.length_replicate (a := (0 : UInt8)))
  rw [zero] at isZero
  simp only [asset, if_pos length, isZero]

/-- Currencies that the builder accepts stand for their assets, except for the two names of
native SOL. -/
theorem eq_iff_asset_eq_iff (length : currency.length = 0 ∨ currency.length = 32)
    (length' : currency'.length = 0 ∨ currency'.length = 32) :
    (currency = currency' ↔ asset currency = asset currency') ↔
      ¬ NativeAliases currency currency' := by
  have nonempty : ∀ {text : Bytes}, text.length = 32 → text ≠ [] := by
    rintro _ long rfl
    cases long
  have empty : asset [] = none := rfl
  rcases length with short | long
  · cases List.length_eq_zero_iff.mp short
    rcases length' with short' | long'
    · cases List.length_eq_zero_iff.mp short'
      simp [NativeAliases]
    · rw [empty, asset_of_length long']
      simp [NativeAliases, (nonempty long').symm]
  · rcases length' with short' | long'
    · cases List.length_eq_zero_iff.mp short'
      rw [empty, asset_of_length long]
      simp [NativeAliases, nonempty long]
    · have separate : ¬ NativeAliases currency currency' := by
        rintro (⟨short, _⟩ | ⟨_, short⟩)
        · exact nonempty long short
        · exact nonempty long' short
      refine iff_of_true ?_ separate
      rw [asset_of_length long, asset_of_length long']
      constructor
      · rintro rfl
        rfl
      · intro same
        split at same <;> split at same
        · rename_i zeros zeros'
          rw [zeros, zeros']
        · cases same
        · cases same
        · exact (bytes32_inj long long').mp (Option.some.inj same)

end Assets

end SolanaVmPayloadBuilder

open SolanaVmPayloadBuilder in
/-- Two accepted requests on one chain burn the same token exactly if they transfer the same
asset, unless one names native SOL by the empty string and the other by 32 zeros. -/
theorem solana_tokens_are_assets {χ : Type} (env : AllocatorEnv χ) (sha256 : Bytes → Bytes32)
    (chainOf : χ → HubChain) (address : Address) (builder : SolanaVmPayloadBuilder)
    (deployed : env.Deployed chainOf address (builder.views env.hub.keccak256 sha256))
    (start : AllocatorWorld) (calls : List (AllocatorSystemCall χ))
    (success success' : Transition AllocatorWorld (AllocatorSystemCall χ)) (ctx ctx' : Ctx χ)
    (params params' : WithdrawRequest)
    (accepted : AllocatorWorld.AcceptedThrough env start calls address success ctx params)
    (accepted' : AllocatorWorld.AcceptedThrough env start calls address success' ctx' params')
    (sameChain : params'.chainId = params.chainId)
    (noCollision : Abi.NoCollision env.hub.keccak256
      [params.chainId ++ params.currency, params.chainId ++ params'.currency]) :
    let final := run (AllocatorWorld.step env) calls start
    ∃ request request' : TransferRequest,
      TransferRequest.deserialize (final.allocator.payloads
        (Allocator.withdrawRequestHash env params)) = some request ∧
      TransferRequest.deserialize (final.allocator.payloads
        (Allocator.withdrawRequestHash env params')) = some request' ∧
      success.pre.hub.burn ⟨env.self, ctx.timestamp⟩ (Allocator.spenderAlias env params)
        (Allocator.tokenId env params) params.amount = .ok success.post.hub ∧
      success'.pre.hub.burn ⟨env.self, ctx'.timestamp⟩ (Allocator.spenderAlias env params')
        (Allocator.tokenId env params') params'.amount = .ok success'.post.hub ∧
      ((Allocator.tokenId env params = Allocator.tokenId env params' ↔
          request.token = request'.token) ↔
        ¬ NativeAliases params.currency params'.currency) := by
  intro final
  obtain ⟨_, delivers⟩ := accepted.delivers deployed
  obtain ⟨_, delivers'⟩ := accepted'.delivers deployed
  obtain ⟨length, request, read, token⟩ := exists_request delivers.built
  obtain ⟨length', request', read', token'⟩ := exists_request delivers'.built
  refine ⟨request, request', read, read', delivers.burned, delivers'.burned, ?_⟩
  have tokens := Utils.generateTokenId_eq_iff_of_chainId noCollision
  rw [Allocator.tokenId, Allocator.tokenId, sameChain, tokens, token, token']
  exact eq_iff_asset_eq_iff length length'

/-! Two names of native SOL, and a mint. -/

namespace SampleAssets

open SampleAllocator

def builder : SolanaVmPayloadBuilder := ⟨21⟩

/-- Some hash. -/
def sha256 : Bytes → Bytes32 := Abi.sampleHash

def views : BuilderViews := builder.views Abi.sampleHash sha256

/-- Every setting is 2. -/
def chain : HubChain := ⟨3, 1000, fun _ _ => some 2, fun _ _ => 0⟩

def params (currency : Bytes) : WithdrawRequest :=
  { SampleRequests.params with currency := currency, receiver := List.replicate 32 6 }

def zeros : Bytes := List.replicate 32 0

def mint : Bytes := List.replicate 31 0 ++ [9]

def submissions : List (HubChain × WithdrawRequest) :=
  [(chain, params []), (chain, params zeros), (chain, params mint)]

theorem accepted_params : accepted views submissions =
    [(params [], 20), (params zeros, 20), (params mint, 20)] := by
  decide +kernel

end SampleAssets

open SampleAssets SampleAllocator SolanaVmPayloadBuilder in
theorem solana_tokens_are_assets_sample :
    ∃ request request' : TransferRequest,
      TransferRequest.deserialize (payloadOf views submissions (params zeros)) = some request ∧
      TransferRequest.deserialize (payloadOf views submissions (params mint)) = some request' ∧
      (Allocator.tokenId (surroundings views) (params zeros) =
          Allocator.tokenId (surroundings views) (params mint) ↔
        request.token = request'.token) := by
  obtain ⟨success, _, _, accepted⟩ := exists_accepted accepted_params
    (List.mem_cons_of_mem _ (List.mem_cons_self ..))
  obtain ⟨success', _, _, accepted'⟩ := exists_accepted accepted_params
    (List.mem_cons_of_mem _ (List.mem_cons_of_mem _ (List.mem_cons_self ..)))
  obtain ⟨request, request', read, read', _, _, same⟩ :=
    solana_tokens_are_assets (surroundings views) sha256 id 20 builder (deployed views) start
      (calls submissions) success success' _ _ (params zeros) (params mint) accepted
      accepted' rfl (by decide +kernel)
  refine ⟨request, request', read, read', same.mpr ?_⟩
  rintro (⟨short, _⟩ | ⟨_, short⟩)
  · cases short
  · cases short

open SampleAssets SampleAllocator in
/-- Native SOL under its two names: one asset, two tokens. -/
theorem solana_native_aliases :
    ∃ success ctx success' ctx' request request',
      AllocatorWorld.AcceptedThrough (surroundings views) start (calls submissions) 20 success
        ctx (params []) ∧
      AllocatorWorld.AcceptedThrough (surroundings views) start (calls submissions) 20 success'
        ctx' (params zeros) ∧
      Abi.NoCollision Abi.sampleHash [[1] ++ [], [1] ++ zeros] ∧
      TransferRequest.deserialize (payloadOf views submissions (params [])) = some request ∧
      TransferRequest.deserialize (payloadOf views submissions (params zeros)) = some request' ∧
      request.token = none ∧ request'.token = none ∧
      Allocator.tokenId (surroundings views) (params []) ≠
        Allocator.tokenId (surroundings views) (params zeros) := by
  obtain ⟨success, _, _, accepted⟩ := exists_accepted accepted_params (List.mem_cons_self ..)
  obtain ⟨success', _, _, accepted'⟩ := exists_accepted accepted_params
    (List.mem_cons_of_mem _ (List.mem_cons_self ..))
  obtain ⟨_, delivers⟩ := accepted.delivers (deployed views)
  obtain ⟨_, delivers'⟩ := accepted'.delivers (deployed views)
  obtain ⟨_, request, read, token⟩ :=
    SolanaVmPayloadBuilder.exists_request delivers.built
  obtain ⟨_, request', read', token'⟩ :=
    SolanaVmPayloadBuilder.exists_request delivers'.built
  refine ⟨success, _, success', _, request, request', accepted, accepted',
    by decide +kernel, read, read', token, ?_, by decide +kernel⟩
  rw [token']
  decide +kernel

/-! ## What the program reads -/

namespace SolanaVmPayloadBuilder

/-- The request that a withdrawal stands for.  Its expiration is signed, with the value of
`int64(int256(block.timestamp + getExpirationDelay()))`. -/
structure Requested (keccak256 : Bytes → Bytes32) (chain : HubChain)
    (builder : SolanaVmPayloadBuilder) (chainId : Bytes) (params : BuildPayloadParams)
    (request : TransferRequest) : Prop where
  domain : chain.configValues builder.config (getDomainKey keccak256 chainId) =
    some request.domain
  recipient : Abi.word request.recipient = params.receiver
  token : ∀ mint, request.token = some mint ↔
    Abi.word mint = params.currency ∧ params.currency ≠ List.replicate 32 0
  native : request.token = none ↔
    params.currency = [] ∨ params.currency = List.replicate 32 0
  amount : request.amount.toNat = params.amount.toNat
  nonce : request.nonce = computeNonce keccak256 chain params
  expiration : ∃ delay,
    chain.configValues builder.config (getExpirationKey keccak256) = some delay ∧
      request.expiration.toInt =
        Int.bmod (chain.timestamp.toNat + delay.toNat % 2 ^ 64 : ℕ) (2 ^ 64)
  vaultAddress : chain.configValues builder.config (getVaultAddressKey keccak256 chainId) =
    some request.vaultAddress

theorem word_bytes32 {data : Bytes} (length : data.length = 32) :
    Abi.word (bytes32 data) = data := by
  rw [Abi.word, toNat_bytes32 length, ← length, Abi.bigEndian_readBigEndian]

section Currency

variable {currency : Bytes}

theorem asset_eq_none_iff (length : currency.length = 0 ∨ currency.length = 32) :
    asset currency = none ↔ currency = [] ∨ currency = List.replicate 32 0 := by
  rcases length with short | long
  · cases List.length_eq_zero_iff.mp short
    exact iff_of_true rfl (.inl rfl)
  · have nonempty : currency ≠ [] := by
      rintro rfl
      cases long
    rw [asset_of_length long]
    split <;> simp_all

theorem asset_eq_some_iff (length : currency.length = 0 ∨ currency.length = 32)
    (mint : Bytes32) :
    asset currency = some mint ↔
      Abi.word mint = currency ∧ currency ≠ List.replicate 32 0 := by
  rcases length with short | long
  · cases List.length_eq_zero_iff.mp short
    refine iff_of_false (by rintro ⟨⟩) ?_
    rintro ⟨empty, _⟩
    have size := congrArg List.length empty
    rw [Abi.word, Abi.length_bigEndian] at size
    cases size
  · rw [asset_of_length long]
    split
    next zeros => exact iff_of_false (by rintro ⟨⟩) fun named => named.2 zeros
    next other =>
      rw [Option.some_inj, and_iff_left other]
      constructor
      · rintro rfl
        exact word_bytes32 long
      · intro named
        exact Abi.word_inj ((word_bytes32 long).trans named.symm)

end Currency

theorem exists_requested {keccak256 : Bytes → Bytes32} {chain : HubChain}
    {builder : SolanaVmPayloadBuilder} {chainId : Bytes} {params : BuildPayloadParams}
    {payload : Bytes} (ok : buildPayload keccak256 chain builder chainId params = .ok payload) :
    ∃ request, Requested keccak256 chain builder chainId params request ∧
      payload = request.serialize := by
  simp only [buildPayload, getChainConfig, getExpirationDelay, getConfigValue,
    decodeTransferFields, bind_eq_ok, require_eq_ok, orRevert_eq_ok, safeCast_eq_ok,
    checkedAdd_eq_ok, pure_eq_ok] at ok
  obtain ⟨_, ⟨domain, isDomain, vaultAddress, isVaultAddress, rfl⟩, _,
    ⟨_, receiverLength, _, currencyLength, amount, isAmount, rfl⟩, _, ⟨delay, isDelay, rfl⟩,
    expiration, isExpiration, rfl⟩ := ok
  have isSum : expiration.toNat = chain.timestamp.toNat + delay.toNat % 2 ^ 64 := by
    have fits : delay.toNat % 2 ^ 64 < 2 ^ 256 :=
      (Nat.mod_lt _ (by decide)).trans (by decide)
    rw [isExpiration, BitVec.toNat_setWidth, BitVec.toNat_setWidth, Nat.mod_eq_of_lt fits]
  refine ⟨_, ?_, encodeBorsh_eq ..⟩
  constructor
  case domain => exact isDomain
  case recipient => exact word_bytes32 receiverLength
  case token => exact asset_eq_some_iff currencyLength
  case native => exact asset_eq_none_iff currencyLength
  case amount => exact isAmount
  case nonce => rfl
  case expiration =>
    refine ⟨delay, isDelay, ?_⟩
    rw [← isSum]
    exact BitVec.toInt_setWidth ..
  case vaultAddress => exact isVaultAddress

end SolanaVmPayloadBuilder

open SolanaVmPayloadBuilder in
/-- The bytes of a built payload are those of the request that the withdrawal stands for, and
the program reads the request back from them.  The hash to sign is the one that the program
checks, and the bytes of requests that differ in any field differ. -/
theorem solana_payload_is_request (keccak256 sha256 : Bytes → Bytes32) (chain : HubChain)
    (builder : SolanaVmPayloadBuilder) (chainId : Bytes) (params : BuildPayloadParams)
    (payload : Bytes)
    (ok : buildPayload keccak256 chain builder chainId params = .ok payload) :
    ∃ request : TransferRequest,
      Requested keccak256 chain builder chainId params request ∧
      payload = request.serialize ∧
      TransferRequest.deserialize payload = some request ∧
      hashesToSign sha256 payload = [request.getHash sha256] ∧
      (∀ (chain' : HubChain) (builder' : SolanaVmPayloadBuilder) (chainId' : Bytes)
        (params' : BuildPayloadParams) (payload' : Bytes) (request' : TransferRequest),
        buildPayload keccak256 chain' builder' chainId' params' = .ok payload' →
        TransferRequest.deserialize payload' = some request' →
        request' ≠ request → payload' ≠ payload) := by
  obtain ⟨request, requested, rfl⟩ := exists_requested ok
  have read := TransferRequest.deserialize_serialize request
  refine ⟨request, requested, rfl, read, rfl, ?_⟩
  rintro _ _ _ _ _ request' _ read' different rfl
  rw [read] at read'
  exact different (Option.some.inj read').symm

namespace SampleAssets

def withdrawal : BuildPayloadParams where
  currency := zeros
  amount := 1
  receiver := List.replicate 32 6
  data := []
  nonce := 7

end SampleAssets

open SampleAssets SolanaVmPayloadBuilder in
/-- A payload for 32 zeros: the request names no mint. -/
theorem solana_payload_is_request_sample :
    ∃ payload request,
      buildPayload Abi.sampleHash chain builder [1] withdrawal = .ok payload ∧
      TransferRequest.deserialize payload = some request ∧
      request.token = none ∧ request.amount = 1 := by
  obtain ⟨payload, ok⟩ : ∃ payload,
      buildPayload Abi.sampleHash chain builder [1] withdrawal = .ok payload :=
    ⟨_, rfl⟩
  obtain ⟨request, requested, _, read, _⟩ := solana_payload_is_request Abi.sampleHash
    sha256 chain builder [1] withdrawal payload ok
  refine ⟨payload, request, ok, read, requested.native.mpr (.inr rfl), ?_⟩
  exact BitVec.eq_of_toNat_eq requested.amount

end RelaySettlement
