import RelaySettlement.GasPayer.Core
import RelaySettlement.PayloadBuilder.Attestation

/-!
# Prepaid gas covers what the depository spends

`Pays` says everything a payment does.  Over whole runs each withdraw parameters are paid for
at most once, and the record of a payment stays what was burned for it.  The fee a builder
puts into a payload is bounded by the record it has looked up, so by what was burned for the
very parameters of the payload.
-/

open Evm

namespace RelaySettlement

variable {χ : Type} {env : GasEnv χ}

/-! ## One payment -/

/-- What a payment records, and the token it burns. -/
structure GasPayment where
  withdraw : WithdrawParams
  spenderAlias : Address
  tokenId : U256
  amount : U256

/-- The payment a call makes through a payer. -/
def GasCall.payment (env : GasEnv χ) (payer : Address) : GasCall χ → Option GasPayment
  | .payGas self _ request feeCurrency feeAmount _ =>
      if self = payer then
        some ⟨WithdrawGasPayer.withdrawParams request, WithdrawGasPayer.spenderAlias env request,
          WithdrawGasPayer.tokenId env request feeCurrency, feeAmount⟩
      else none
  | .ledger _ => none

namespace GasWorld

/-- What is recorded under a hash. -/
def record (world : GasWorld) (payer : Address) (hash : Bytes32) : U256 × Address :=
  ((world.payers payer).gasPayments hash, (world.payers payer).gasPayers hash)

/-- Everything a payment did to the world. -/
structure Pays (env : GasEnv χ) (payer : Address) (payment : GasPayment)
    (before after : GasWorld) : Prop where
  nonzero : payment.amount ≠ 0
  unpaid : (before.record payer (payment.withdraw.hash env.hub.keccak256)).1 = 0
  burned : ∃ timestamp, before.hub.burn ⟨payer, timestamp⟩ payment.spenderAlias payment.tokenId
    payment.amount = .ok after.hub
  recorded : ∀ hash, after.record payer hash =
    if hash = payment.withdraw.hash env.hub.keccak256 then
      (payment.amount, payment.spenderAlias)
    else before.record payer hash

variable {payer : Address} {call : GasCall χ} {payment : GasPayment} {before after : GasWorld}

theorem step_pays (ok : step env call before = .ok after)
    (isPayment : call.payment env payer = some payment) :
    Pays env payer payment before after := by
  cases call with
  | ledger call => cases isPayment
  | payGas self ctx request feeCurrency feeAmount oracleSignature =>
      simp only [GasCall.payment, Option.ite_none_right_eq_some, Option.some.injEq] at isPayment
      obtain ⟨rfl, rfl⟩ := isPayment
      simp only [step, WithdrawGasPayer.payGas, bubble_eq_ok, bind_eq_ok, require_eq_ok,
        pure_eq_ok] at ok
      obtain ⟨_, nonzero, _, _, _, unpaid, hub, burned, rfl⟩ := ok
      refine ⟨nonzero, unpaid, ⟨_, burned⟩, ?_⟩
      intro hash
      simp only [record, set_apply, if_true]
      split <;> rfl

/-- Every other call keeps the records of the payer. -/
theorem step_keeps_records (ok : step env call before = .ok after)
    (paysNone : call.payment env payer = none) : after.payers payer = before.payers payer := by
  cases call with
  | ledger call =>
      simp only [step, bind_eq_ok, pure_eq_ok] at ok
      obtain ⟨hub, _, rfl⟩ := ok
      rfl
  | payGas self ctx request feeCurrency feeAmount oracleSignature =>
      simp only [step, WithdrawGasPayer.payGas, bubble_eq_ok, bind_eq_ok, require_eq_ok,
        pure_eq_ok] at ok
      obtain ⟨_, _, _, _, _, _, hub, _, rfl⟩ := ok
      have other : payer ≠ self := by
        rintro rfl
        simp [GasCall.payment] at paysNone
      exact if_neg other

/-! ## Whole runs -/

/-- Whether something is recorded under a hash. -/
def Paid (payer : Address) (world : GasWorld) (hash : Bytes32) : Prop :=
  (world.record payer hash).1 ≠ 0

/-- A call registers the hash of the parameters it pays for. -/
theorem step_registers_payment (ok : step env call before = .ok after) :
    Registers (Paid payer) before after ((call.payment env payer).toList.map fun payment =>
      payment.withdraw.hash env.hub.keccak256) := by
  cases isPayment : call.payment env payer with
  | none =>
      apply Registers.unchanged
      funext hash
      simp only [Paid, record, step_keeps_records ok isPayment]
  | some payment =>
      have pays := step_pays ok isPayment
      apply Registers.single
      · intro paid
        exact paid pays.unpaid
      · intro hash
        rw [Paid, pays.recorded]
        split
        next same => exact iff_of_true pays.nonzero (.inr same)
        next other => exact (or_iff_left other).symm

theorem run_registers_payments (env : GasEnv χ) (payer : Address) (calls : List (GasCall χ))
    (start : GasWorld) :
    Registers (Paid payer) start (run (step env) calls start)
      (((trace (step env) calls start).filterMap fun success =>
        success.call.payment env payer).map fun payment =>
          payment.withdraw.hash env.hub.keccak256) := by
  have registered := run_registers (step env) (fun _ _ => True)
    (fun call _ => (call.payment env payer).toList.map fun payment =>
      payment.withdraw.hash env.hub.keccak256)
    (fun _ _ _ _ ok => step_registers_payment ok) calls start (along_trivial calls start)
  rwa [← List.map_flatMap, ← List.filterMap_eq_flatMap_toList] at registered

/-- A record stays. -/
theorem step_keeps_record {hash : Bytes32} {entry : U256 × Address} (nonzero : entry.1 ≠ 0)
    (ok : step env call before = .ok after) (recorded : before.record payer hash = entry) :
    after.record payer hash = entry := by
  cases isPayment : call.payment env payer with
  | none =>
      rw [← recorded]
      simp only [record, step_keeps_records ok isPayment]
  | some payment =>
      have pays := step_pays ok isPayment
      rw [pays.recorded, if_neg, recorded]
      rintro rfl
      exact nonzero (recorded ▸ pays.unpaid)

theorem run_keeps_record (env : GasEnv χ) (calls : List (GasCall χ)) {world : GasWorld}
    {hash : Bytes32} (paid : Paid payer world hash) :
    (run (step env) calls world).record payer hash = world.record payer hash :=
  run_invariant (fun later => later.record payer hash = world.record payer hash)
    (fun _ _ _ recorded ok => step_keeps_record paid ok recorded) calls world rfl

/-- What a payment of a run has recorded is there at the end of the run. -/
theorem record_of_mem_trace {calls : List (GasCall χ)} {start : GasWorld}
    {success : Transition GasWorld (GasCall χ)}
    (member : success ∈ trace (step env) calls start)
    (isPayment : success.call.payment env payer = some payment) :
    (run (step env) calls start).record payer (payment.withdraw.hash env.hub.keccak256) =
      (payment.amount, payment.spenderAlias) := by
  have pays := step_pays (mem_trace member) isPayment
  have recorded := pays.recorded (payment.withdraw.hash env.hub.keccak256)
  rw [if_pos rfl] at recorded
  obtain ⟨later, isEnd⟩ := mem_trace_later member
  rw [← isEnd, run_keeps_record env later, recorded]
  rw [Paid, recorded]
  exact pays.nonzero

end GasWorld

/-! ## What the builders have looked up -/

namespace WithdrawParams

/-- A request for these parameters, of any spender. -/
def request (withdraw : WithdrawParams) : WithdrawRequest where
  chainId := withdraw.chainId
  depository := withdraw.depository
  currency := withdraw.params.currency
  amount := withdraw.params.amount
  spenderChainId := []
  spender := []
  receiver := withdraw.params.receiver
  data := withdraw.params.data
  nonce := withdraw.params.nonce

abbrev Decodable (withdraw : WithdrawParams) : Prop := withdraw.request.Decodable

/-- What is hashed determines the parameters. -/
theorem encode_inj {withdraw withdraw' : WithdrawParams} (decodable : withdraw.Decodable)
    (decodable' : withdraw'.Decodable) (same : withdraw.encode = withdraw'.encode) :
    withdraw = withdraw' := by
  have requests := (WithdrawRequest.values_inj [] [] decodable decodable' (by simp) rfl same).2
  exact congrArg WithdrawGasPayer.withdrawParams requests

end WithdrawParams

variable {withdraw : WithdrawParams}

@[simp] theorem GasPaidPayloadBuilder.requireGasPaid_eq_ok {ε : Type} {gasNotPaid : Bytes32 → ε}
    {keccak256 : Bytes → Bytes32} {chain : HubChain} {gasPayer : Address} {paidAmount : U256} :
    requireGasPaid gasNotPaid keccak256 chain gasPayer withdraw = .ok paidAmount ↔
      chain.gasPayments gasPayer (withdraw.hash keccak256) = paidAmount ∧ paidAmount ≠ 0 := by
  simp only [requireGasPaid, bind_eq_ok, require_eq_ok, pure_eq_ok]
  constructor
  · rintro ⟨_, nonzero, rfl⟩
    exact ⟨rfl, nonzero⟩
  · rintro ⟨rfl, nonzero⟩
    exact ⟨(), nonzero, rfl⟩

namespace XrpPaymentRequest

theorem ofBytes20Word_bytes20Word (account : Address) :
    ofBytes20Word (bytes20Word account) = some account := by
  have clean : (account.setWidth 256 <<< 96).setWidth 96 = 0 := by
    apply BitVec.eq_of_getLsbD_eq
    intro i below
    simp [below]
  have read : (account.setWidth 256 <<< 96 >>> 96).setWidth 160 = account := by
    apply BitVec.eq_of_getLsbD_eq
    intro i below
    have inside : i < 256 := by omega
    have shifted : 96 + i < 256 := by omega
    simp [below, inside, shifted]
  rw [ofBytes20Word, bytes20Word, if_pos clean, read]

theorem ofValue_toValue (request : XrpPaymentRequest) : ofValue request.toValue = some request := by
  cases request
  rename_i has _
  cases has <;> simp [toValue, ofValue, ofBytes20Word_bytes20Word]

theorem typed {request : XrpPaymentRequest} (short : request.signingPubKey.length < 2 ^ 64) :
    Abi.HasType request.toValue type := by
  apply Abi.HasType.tuple
  refine .cons (Abi.hasType_word _) (.cons (Abi.hasType_word _) ?_)
  iterate 6 refine .cons (Abi.hasType_widen (by decide) _) ?_
  exact .cons (Abi.hasType_bool _) (.cons (.bytes short) .nil)

theorem decodeAs_encode {request : XrpPaymentRequest}
    (short : request.signingPubKey.length = 33) :
    Abi.decodeAs type ofValue (Abi.encode [request.toValue]) = some request := by
  have key := Abi.Value.size_bytes_le request.signingPubKey
  rw [← request.ofValue_toValue]
  apply Abi.decodeAs_encode_tuple (typed (by omega))
  · simp
  · simp only [List.forall_mem_cons, Abi.Value.size_word, Nat.reducePow, Nat.reduceLeDiff,
      true_and]
    exact ⟨by omega, List.forall_mem_nil _⟩

end XrpPaymentRequest

namespace XrpVmPayloadBuilder

/-- A built payment: its fee is within the fixed bound and within the recorded amount. -/
theorem buildPayload_fee {keccak256 : Bytes → Bytes32} {chain : HubChain}
    {builder : XrpVmPayloadBuilder} {withdraw : WithdrawParams} {payload : Bytes}
    (ok : builder.buildPayload keccak256 chain withdraw = .ok payload) :
    chain.gasPayments builder.gasPayer (withdraw.hash keccak256) ≠ 0 ∧
      ∃ request, Abi.decodeAs XrpPaymentRequest.type XrpPaymentRequest.ofValue payload =
          some request ∧
        request.fee.toNat ≤ 1000000 ∧
        request.fee.toNat ≤
          (chain.gasPayments builder.gasPayer (withdraw.hash keccak256)).toNat := by
  simp only [buildPayload, buildRequest, bind_eq_ok, require_eq_ok, orRevert_eq_ok,
    GasPaidPayloadBuilder.requireGasPaid_eq_ok, pure_eq_ok] at ok
  obtain ⟨request, ⟨_, ⟨rfl, paid⟩, _, _, _, _, _, _, _, _, _, _, data, _, _, bounded, _,
    covered, rfl⟩, rfl⟩ := ok
  refine ⟨paid, _, XrpPaymentRequest.decodeAs_encode ?_, ?_, ?_⟩
  · simp [Abi.word]
  · exact BitVec.le_def.mp bounded
  · have fee := BitVec.le_def.mp covered
    rwa [toNat_widen (by decide)] at fee

end XrpVmPayloadBuilder

/-- A built transfer: the recorded amount covers the configured gas fee. -/
theorem TonVmPayloadBuilder.buildPayload_fee {keccak256 : Bytes → Bytes32} {chain : HubChain}
    {builder : TonVmPayloadBuilder} {payload : Bytes}
    (ok : builder.buildPayload keccak256 chain withdraw = .ok payload) :
    chain.gasPayments builder.gasPayer (withdraw.hash keccak256) ≠ 0 ∧
      ∃ gasFee, chain.configValues builder.config (getGasFeeKey keccak256 withdraw.chainId) =
          some gasFee ∧
        gasFee ≤ chain.gasPayments builder.gasPayer (withdraw.hash keccak256) := by
  simp only [buildPayload, buildRequest, bind_eq_ok, require_eq_ok, orRevert_eq_ok,
    GasPaidPayloadBuilder.requireGasPaid_eq_ok, pure_eq_ok] at ok
  obtain ⟨_, ⟨_, ⟨rfl, paid⟩, gasFee, configured, _, covered, _⟩, _⟩ := ok
  exact ⟨paid, gasFee, configured, covered⟩

namespace GatewayVmPayloadBuilder

open PayloadBuilder

variable {keccak256 : Bytes → Bytes32} {destinations : Destinations} {chain : HubChain}
variable {builder : GatewayVmPayloadBuilder} {chainId depository : Bytes}
variable {params : BuildPayloadParams}

/-- The gas fee alone within a domain; between domains the transfer fee, rounded up, on top
of it. -/
theorem burnFee_ok {gasFee amount maxFee : U256} {routing : GatewayVmRoutingData}
    (ok : burnFee gasFee routing amount = .ok maxFee)
    (different : routing.sourceDomain ≠ routing.destinationDomain) :
    gasFee.toNat ≤ maxFee.toNat ∧
      IsLeast {fee : ℕ | amount.toNat ≤ 20000 * fee} (maxFee.toNat - gasFee.toNat) := by
  have quotient : (amount / transferFeeDenominator).toNat = amount.toNat / 20000 := by
    rw [BitVec.toNat_udiv]
    rfl
  have remainder : amount % transferFeeDenominator = 0 ↔ amount.toNat % 20000 = 0 := by
    rw [← BitVec.toNat_inj, BitVec.toNat_umod]
    rfl
  simp only [burnFee, if_neg different, bind_eq_ok, checkedAdd_eq_ok] at ok
  obtain ⟨unrounded, added, ok⟩ := ok
  rw [quotient] at added
  have least (fee : ℕ) (ceiling : 20000 * fee < amount.toNat + 20000)
      (covers : amount.toNat ≤ 20000 * fee) :
      IsLeast {fee : ℕ | amount.toNat ≤ 20000 * fee} fee := by
    refine ⟨covers, ?_⟩
    intro other covers'
    have bound : amount.toNat ≤ 20000 * other := covers'
    omega
  split at ok
  next divisible =>
    cases ok
    have whole := remainder.mp divisible
    exact ⟨by omega, least _ (by omega) (by omega)⟩
  next rest =>
    have inexact := mt remainder.mpr rest
    have rounded : maxFee.toNat = unrounded.toNat + 1 := checkedAdd_eq_ok.mp ok
    exact ⟨by omega, least _ (by omega) (by omega)⟩

/-- A built burn intent: its fee is within the recorded amount. -/
theorem buildGatewayPayload_fee {payload : GatewayVmPayload}
    (ok : builder.buildGatewayPayload keccak256 destinations chain chainId depository params =
      .ok payload) :
    chain.gasPayments builder.gasPayer (WithdrawParams.hash keccak256
        ⟨chainId, depository, params⟩) ≠ 0 ∧
      payload.burnIntent.maxFee ≤ chain.gasPayments builder.gasPayer
        (WithdrawParams.hash keccak256 ⟨chainId, depository, params⟩) ∧
      ∃ gasFee, chain.configValues builder.config (getGasFeeKey keccak256 chainId) =
          some gasFee ∧
        (payload.burnIntent.spec.sourceDomain ≠ payload.burnIntent.spec.destinationDomain →
          gasFee.toNat ≤ payload.burnIntent.maxFee.toNat ∧
            IsLeast {fee : ℕ | params.amount.toNat ≤ 20000 * fee}
              (payload.burnIntent.maxFee.toNat - gasFee.toNat)) := by
  simp only [buildGatewayPayload, GasPaidPayloadBuilder.requireGasPaid_eq_ok, buildBurnIntent,
    getConfigValue, bind_eq_ok, require_eq_ok, orRevert_eq_ok, pure_eq_ok] at ok
  obtain ⟨_, ⟨rfl, paid⟩, _, _, _, _, _, _, data, _, _, _, source, _, domain, _, _, _, _, _,
    _, _, intent, ⟨gasFee, configured, maxFee, isFee, _, _, _, _, _, _, rfl⟩, _, covered, _, _,
    _, _, rfl⟩ := ok
  exact ⟨paid, covered, gasFee, configured, fun different => burnFee_ok isFee different⟩

end GatewayVmPayloadBuilder

/-! ## Prepaid payouts -/

/-- The payments through a payer that succeeded in a run. -/
def GasWorld.payments (env : GasEnv χ) (payer : Address) (calls : List (GasCall χ))
    (start : GasWorld) : List GasPayment :=
  (trace (step env) calls start).filterMap fun success => success.call.payment env payer

/-- Without a collision a record belongs to the payment for the very parameters under whose
hash it is looked up. -/
theorem GasWorld.exists_payment {payer : Address} {calls : List (GasCall χ)} {start : GasWorld}
    (fresh : start.payers payer = .empty) (decodable : withdraw.Decodable)
    (decodables : ∀ payment ∈ payments env payer calls start, payment.withdraw.Decodable)
    (noCollision : Abi.NoCollision env.hub.keccak256 (withdraw.encode ::
      (payments env payer calls start).map fun payment => payment.withdraw.encode))
    (paid : Paid payer (run (step env) calls start) (withdraw.hash env.hub.keccak256)) :
    ∃ payment ∈ payments env payer calls start, payment.withdraw = withdraw ∧
      (run (step env) calls start).record payer (withdraw.hash env.hub.keccak256) =
        (payment.amount, payment.spenderAlias) := by
  have unpaid : ¬ Paid payer start (withdraw.hash env.hub.keccak256) := by
    simp [Paid, record, fresh, WithdrawGasPayer.empty]
  have registers := run_registers_payments env payer calls start
  have listed := ((registers.marks _).mp paid).resolve_left unpaid
  obtain ⟨payment, member, hashes⟩ := List.mem_map.mp listed
  have same : payment.withdraw.encode = withdraw.encode :=
    noCollision _ (List.mem_cons_of_mem _ (List.mem_map_of_mem member)) _ List.mem_cons_self
      hashes
  have withdraws := WithdrawParams.encode_inj (decodables payment member) decodable same
  obtain ⟨success, isSuccess, isPayment⟩ := List.mem_filterMap.mp member
  have recorded := record_of_mem_trace isSuccess isPayment
  rw [withdraws] at recorded
  exact ⟨payment, member, withdraws, recorded⟩

/-- Over every run of payments from fresh payers, interleaved with any activity on the hub:
each withdraw parameters are paid for at most once; what is recorded for a payment is not
zero, is what was burned from the recorded alias, and never changes; and in the state the
run leads to, in any block and under any settings, the builders only build payloads for
withdraw parameters that were paid for, with fees within what was burned. -/
theorem prepaid_gas (env : GasEnv χ) (start : GasWorld)
    (fresh : ∀ payer, start.payers payer = .empty) (calls : List (GasCall χ))
    (payer : Address) :
    let step := GasWorld.step env
    let keccak256 := env.hub.keccak256
    let world := run step calls start
    let payments := GasWorld.payments env payer calls start
    (payments.map fun payment => payment.withdraw).Nodup ∧
      (∀ success ∈ trace step calls start, ∀ payment,
        success.call.payment env payer = some payment →
          payment.amount ≠ 0 ∧
          (world.payers payer).gasPayments (payment.withdraw.hash keccak256) =
            payment.amount ∧
          (world.payers payer).gasPayers (payment.withdraw.hash keccak256) =
            payment.spenderAlias ∧
          ∃ timestamp, success.pre.hub.burn ⟨payer, timestamp⟩ payment.spenderAlias
            payment.tokenId payment.amount = .ok success.post.hub) ∧
      (∀ first second hash, calls = first ++ second →
        let earlier := (run step first start).payers payer
        earlier.gasPayments hash ≠ 0 →
          (world.payers payer).gasPayments hash = earlier.gasPayments hash ∧
            (world.payers payer).gasPayers hash = earlier.gasPayers hash) ∧
      ∀ withdraw : WithdrawParams, withdraw.Decodable →
        (∀ payment ∈ payments, payment.withdraw.Decodable) →
        Abi.NoCollision keccak256
          (withdraw.encode :: payments.map fun payment => payment.withdraw.encode) →
        ((world.payers payer).gasPayments (withdraw.hash keccak256) ≠ 0 →
          ∃ payment ∈ payments, payment.withdraw = withdraw) ∧
        ∀ (blockNumber timestamp : U256) (configValues : Address → Bytes32 → Option Bytes32)
            (payload : Bytes),
          let chain := world.chain blockNumber timestamp configValues
          (∀ builder : XrpVmPayloadBuilder, builder.gasPayer = payer →
            builder.buildPayload keccak256 chain withdraw = .ok payload →
            ∃ payment ∈ payments, payment.withdraw = withdraw ∧
              ∃ request, Abi.decodeAs XrpPaymentRequest.type XrpPaymentRequest.ofValue
                  payload = some request ∧
                request.fee.toNat ≤ min 1000000 payment.amount.toNat) ∧
          (∀ builder : TonVmPayloadBuilder, builder.gasPayer = payer →
            builder.buildPayload keccak256 chain withdraw = .ok payload →
            ∃ payment ∈ payments, payment.withdraw = withdraw ∧
              ∃ gasFee, configValues builder.config
                  (TonVmPayloadBuilder.getGasFeeKey keccak256 withdraw.chainId) =
                    some gasFee ∧ gasFee ≤ payment.amount) ∧
          ∀ (builder : GatewayVmPayloadBuilder)
              (destinations : GatewayVmPayloadBuilder.Destinations), builder.gasPayer = payer →
            builder.buildPayload keccak256 destinations chain withdraw.chainId
              withdraw.depository withdraw.params = .ok payload →
            ∃ payment ∈ payments, payment.withdraw = withdraw ∧
              ∃ gatewayPayload gasFee, payload = Abi.encode [gatewayPayload.toValue] ∧
                (∀ decoded, Abi.decodeAs GatewayVmPayload.type GatewayVmPayload.ofValue
                  payload = some decoded → decoded = gatewayPayload) ∧
                configValues builder.config (GatewayVmPayloadBuilder.getGasFeeKey keccak256
                  withdraw.chainId) = some gasFee ∧
                gatewayPayload.burnIntent.maxFee ≤ payment.amount ∧
                (gatewayPayload.burnIntent.spec.sourceDomain ≠
                    gatewayPayload.burnIntent.spec.destinationDomain →
                  gasFee.toNat ≤ gatewayPayload.burnIntent.maxFee.toNat ∧
                    IsLeast {fee : ℕ | withdraw.params.amount.toNat ≤ 20000 * fee}
                      (gatewayPayload.burnIntent.maxFee.toNat - gasFee.toNat)) := by
  intro step keccak256 world payments
  refine ⟨?_, ?_, ?_, ?_⟩
  · have nodup := (GasWorld.run_registers_payments env payer calls start).nodup
    have image : payments.map (fun payment => payment.withdraw.hash keccak256) =
        (payments.map fun payment => payment.withdraw).map
          fun withdraw => withdraw.hash keccak256 := by
      rw [List.map_map]
      rfl
    exact List.Nodup.of_map _ (image ▸ nodup)
  · intro success member payment isPayment
    have pays := GasWorld.step_pays (mem_trace member) isPayment
    have recorded := GasWorld.record_of_mem_trace member isPayment
    obtain ⟨amount, spenderAlias⟩ := Prod.mk.inj recorded
    exact ⟨pays.nonzero, amount, spenderAlias, pays.burned⟩
  · intro first second hash split earlier paid
    have later : world = run step second (run step first start) := by
      simp only [world, split, run_append]
    rw [later]
    exact Prod.mk.inj (GasWorld.run_keeps_record env second paid)
  · intro withdraw decodable decodables noCollision
    refine ⟨?_, ?_⟩
    · intro paid
      obtain ⟨payment, member, withdraws, _⟩ :=
        GasWorld.exists_payment (fresh payer) decodable decodables noCollision paid
      exact ⟨payment, member, withdraws⟩
    intro blockNumber timestamp configValues payload chain
    have looked (paid : chain.gasPayments payer (withdraw.hash keccak256) ≠ 0) :
        ∃ payment ∈ payments, payment.withdraw = withdraw ∧
          chain.gasPayments payer (withdraw.hash keccak256) = payment.amount := by
      obtain ⟨payment, member, withdraws, recorded⟩ :=
        GasWorld.exists_payment (fresh payer) decodable decodables noCollision paid
      exact ⟨payment, member, withdraws, congrArg Prod.fst recorded⟩
    refine ⟨?_, ?_, ?_⟩
    · rintro builder rfl built
      obtain ⟨paid, request, decodes, bounded, covered⟩ :=
        XrpVmPayloadBuilder.buildPayload_fee built
      obtain ⟨payment, member, withdraws, amount⟩ := looked paid
      rw [amount] at covered
      exact ⟨payment, member, withdraws, request, decodes, le_min bounded covered⟩
    · rintro builder rfl built
      obtain ⟨paid, gasFee, configured, covered⟩ := TonVmPayloadBuilder.buildPayload_fee built
      obtain ⟨payment, member, withdraws, amount⟩ := looked paid
      rw [amount] at covered
      exact ⟨payment, member, withdraws, gasFee, configured, covered⟩
    · rintro builder destinations rfl built
      obtain ⟨gatewayPayload, request, isPayload, _, encoded, decodes, _⟩ :=
        GatewayVmPayloadBuilder.buildPayload_ok built
      obtain ⟨paid, covered, gasFee, configured, transferFee⟩ :=
        GatewayVmPayloadBuilder.buildGatewayPayload_fee isPayload
      obtain ⟨payment, member, withdraws, amount⟩ := looked paid
      rw [amount] at covered
      exact ⟨payment, member, withdraws, gatewayPayload, gasFee, encoded, decodes, configured,
        covered, transferFee⟩

/-! Three payments, and the payloads they unlock. -/

namespace SamplePrepaid

/-- The payer lives at 80, and its oracle signs everything. -/
def surroundings : GasEnv Unit where
  hub := ⟨Abi.sampleHash, 0, fun _ _ _ _ => none, fun _ => 9⟩
  oracleMultisig := fun _ => 81
  domainSeparator := fun _ => 0
  isValidSignatureNow := fun _ _ _ _ _ => true

def start : GasWorld where
  hub := { Hub.empty (fun _ _ => true) with
    balanceOf := fun _ _ => 1000
    totalSupply := fun _ => 1000
    erc20Views := fun _ => 9 }
  payers := fun _ => .empty

def xrpRequest : WithdrawRequest where
  chainId := [120]
  depository := List.replicate 20 1
  currency := List.replicate 20 0
  amount := 500
  spenderChainId := [97]
  spender := [5]
  receiver := List.replicate 20 2
  data := Abi.encode [.tuple [.word 7, .word 12, .word 90, .word 0, .word 0, .bool false]]
  nonce := 1

def tonRequest : WithdrawRequest where
  chainId := [116]
  depository := []
  currency := List.replicate 32 0
  amount := 600
  spenderChainId := [97]
  spender := [5]
  receiver := List.replicate 32 2
  data := []
  nonce := 2

def gatewayRequest : WithdrawRequest where
  chainId := [103]
  depository := [1]
  currency := List.replicate 20 0
  amount := 50001
  spenderChainId := [97]
  spender := [6]
  receiver := List.replicate 20 2
  data := Abi.encode [.tuple [.address 30, .bytes [98], .word 70, .bytes []]]
  nonce := 3

/-- A payment for a request. -/
def pay (request : WithdrawRequest) (amount : U256) : GasCall Unit :=
  .payGas 80 ⟨⟨1, 10⟩, ()⟩ request [0] amount []

/-- The last payment is rejected. -/
def calls : List (GasCall Unit) :=
  [pay xrpRequest 15, pay tonRequest 20, pay gatewayRequest 30, pay tonRequest 25]

def final : GasWorld := run (GasWorld.step surroundings) calls start

/-- The Circle domain of a chain follows its name. -/
def settings (_ : Address) (key : Bytes32) : Option Bytes32 :=
  some (if key = GatewayVmPayloadBuilder.getCircleDomainKey Abi.sampleHash [98] then 2 else 1)

def chain : HubChain := final.chain 5 1000 settings

def xrpBuilder : XrpVmPayloadBuilder := ⟨2, 77, 80, .inl rfl⟩

def tonBuilder : TonVmPayloadBuilder := ⟨21, 1, 60, 80, by decide⟩

def gatewayBuilder : GatewayVmPayloadBuilder := ⟨20, 21, 80⟩

def destinations : GatewayVmPayloadBuilder.Destinations := fun _ => some ⟨23, 24⟩

/-- The parameters that are paid for. -/
def withdraws : List WithdrawParams :=
  [xrpRequest, tonRequest, gatewayRequest].map WithdrawGasPayer.withdrawParams

theorem withdraw_mem {payment : GasPayment}
    (member : payment ∈ GasWorld.payments surroundings 80 calls start) :
    payment.withdraw ∈ withdraws := by
  obtain ⟨success, isSuccess, isPayment⟩ := List.mem_filterMap.mp member
  have isCall := call_mem_of_mem_trace isSuccess
  simp only [calls, List.mem_cons, List.not_mem_nil, or_false] at isCall
  rcases isCall with isCall | isCall | isCall | isCall <;> rw [isCall] at isPayment <;>
    cases isPayment <;> simp [withdraws]

theorem noCollision : Abi.NoCollision Abi.sampleHash (withdraws.map WithdrawParams.encode) := by
  decide +kernel

theorem noCollision_of_mem {withdraw : WithdrawParams} (member : withdraw ∈ withdraws) :
    Abi.NoCollision Abi.sampleHash (withdraw.encode ::
      (GasWorld.payments surroundings 80 calls start).map fun payment =>
        payment.withdraw.encode) := by
  apply noCollision.of_subset
  apply List.cons_subset.mpr
  refine ⟨List.mem_map_of_mem member, ?_⟩
  intro encoded isEncoded
  obtain ⟨payment, isPayment, rfl⟩ := List.mem_map.mp isEncoded
  exact List.mem_map_of_mem (withdraw_mem isPayment)

theorem decodable_of_mem {withdraw : WithdrawParams} (member : withdraw ∈ withdraws) :
    withdraw.Decodable := by
  have short : ∀ withdraw ∈ withdraws, withdraw.chainId.length < 2 ^ 64 ∧
      withdraw.depository.length < 2 ^ 64 ∧ withdraw.params.currency.length < 2 ^ 64 ∧
      withdraw.params.receiver.length < 2 ^ 64 ∧ withdraw.params.data.length < 2 ^ 64 := by
    decide +kernel
  obtain ⟨chainId, depository, currency, receiver, data⟩ := short withdraw member
  exact ⟨chainId, depository, currency, receiver, data⟩

end SamplePrepaid

open SamplePrepaid WithdrawGasPayer in
theorem prepaid_gas_sample :
    (∃ payload request, xrpBuilder.buildPayload Abi.sampleHash chain
        (withdrawParams xrpRequest) = .ok payload ∧
      Abi.decodeAs XrpPaymentRequest.type XrpPaymentRequest.ofValue payload = some request ∧
      ∃ payment ∈ GasWorld.payments surroundings 80 calls start,
        payment.withdraw = withdrawParams xrpRequest ∧
        request.fee.toNat ≤ min 1000000 payment.amount.toNat) ∧
    (∃ payload, tonBuilder.buildPayload Abi.sampleHash chain
        (withdrawParams tonRequest) = .ok payload ∧
      ∃ payment ∈ GasWorld.payments surroundings 80 calls start,
        payment.withdraw = withdrawParams tonRequest) ∧
    ∃ payload, gatewayBuilder.buildPayload Abi.sampleHash destinations chain [103] [1]
        (withdrawParams gatewayRequest).params = .ok payload ∧
      ∃ payment ∈ GasWorld.payments surroundings 80 calls start,
        payment.withdraw = withdrawParams gatewayRequest ∧
        ∃ gatewayPayload : GatewayVmPayload, payload = Abi.encode [gatewayPayload.toValue] ∧
          gatewayPayload.burnIntent.maxFee ≤ payment.amount := by
  have fresh (payer : Address) : start.payers payer = .empty := rfl
  have builds (withdraw : WithdrawParams) (member : withdraw ∈ withdraws) :=
    ((prepaid_gas surroundings start fresh calls 80).2.2.2 withdraw (decodable_of_mem member)
      (fun payment isPayment => decodable_of_mem (withdraw_mem isPayment))
      (noCollision_of_mem member)).2 5 1000 settings
  refine ⟨?_, ?_, ?_⟩
  · obtain ⟨payload, isPayload⟩ := exists_ok (show (xrpBuilder.buildPayload Abi.sampleHash chain
      (withdrawParams xrpRequest)).toOption.isSome by decide +kernel)
    obtain ⟨payment, member, withdraw, request, decodes, fee⟩ :=
      (builds _ (by simp [withdraws]) payload).1 xrpBuilder rfl isPayload
    exact ⟨payload, request, isPayload, decodes, payment, member, withdraw, fee⟩
  · obtain ⟨payload, isPayload⟩ := exists_ok (show (tonBuilder.buildPayload Abi.sampleHash chain
      (withdrawParams tonRequest)).toOption.isSome by decide +kernel)
    obtain ⟨payment, member, withdraw, _⟩ :=
      (builds _ (by simp [withdraws]) payload).2.1 tonBuilder rfl isPayload
    exact ⟨payload, isPayload, payment, member, withdraw⟩
  · obtain ⟨payload, isPayload⟩ := exists_ok (show (gatewayBuilder.buildPayload Abi.sampleHash
      destinations chain [103] [1]
      (withdrawParams gatewayRequest).params).toOption.isSome by
        decide +kernel)
    obtain ⟨payment, member, withdraw, gatewayPayload, _, encoded, _, _, fee, _⟩ :=
      (builds (withdrawParams gatewayRequest) (by simp [withdraws]) payload).2.2
        gatewayBuilder destinations rfl isPayload
    exact ⟨payload, isPayload, payment, member, withdraw, gatewayPayload, encoded, fee⟩

end RelaySettlement
