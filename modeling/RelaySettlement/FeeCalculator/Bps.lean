import Mathlib.Data.Nat.Cast.Order.Field
import Mathlib.Tactic.Positivity
import RelaySettlement.Evm.Codec
import RelaySettlement.RateLimiter.Usd

/-!
# RelayBpsFeeCalculator

The fee of a fast mint is a share of the USD value of the deposit, in a currency of its own.
The value is rescaled to 18 decimals and back to those of the other price, by a product or a
quotient, and every quotient on the way is rounded down.
-/

open Evm

namespace RelaySettlement

/-! ## Exact values -/

/-- The exact USD value of the smallest unit of a currency. -/
def Price.rate (price : Price) : ℚ :=
  price.usdPrice.toNat / 10 ^ (price.currencyDecimals.toNat + price.usdPriceDecimals.toNat)

namespace BpsFeeCalculator

open UsdRateLimiter (pow10 MulDivs)

/-- What `calculateFee` reverts with. -/
inductive Error where
  | invalidEncoding
  | invalidFeeBps (feeBps : U256)
  | feeExceedsMax (feeAmount maxFeeAmount : U256)
  | invalidFeeRecipient
  | invalidFeePayer
  | priceReverted (tokenId : U256)
  | arithmetic (error : RateLimiter.Error)

/-- What a caller asks for. -/
structure FeeRequest where
  feeCurrency : U256
  feeBps : U256
  maxFeeAmount : U256
  feeRecipient : Address
  feePayer : Address
  deriving DecidableEq

/-- `abi.decode(data, (uint256, uint256, uint256, address, address))`. -/
def FeeRequest.decode (data : Bytes) : Option FeeRequest :=
  match Abi.decode Abi.Decoder.limit
      [.uint 256, .uint 256, .uint 256, .address, .address] data with
  | some [.word feeCurrency, .word feeBps, .word maxFeeAmount, .word feeRecipient,
      .word feePayer] =>
      some ⟨feeCurrency, feeBps, maxFeeAmount, feeRecipient.setWidth 160, feePayer.setWidth 160⟩
  | _ => none

/-- What `calculateFee` returns. -/
structure Fee where
  feeCurrency : U256
  feeAmount : U256
  feeRecipient : Address
  feePayer : Address
  deriving DecidableEq

/-- `_normalizeUsdDecimals`. -/
def normalizeUsdDecimals (value : U256) (fromDecimals toDecimals : ℕ) : Except Error U256 :=
  if fromDecimals < toDecimals then do
    let scale ← bubble .arithmetic (pow10 (toDecimals - fromDecimals))
    checkedMul (.arithmetic .arithmeticPanic) value scale
  else if toDecimals < fromDecimals then do
    let scale ← bubble .arithmetic (pow10 (fromDecimals - toDecimals))
    return value / scale
  else
    return value

variable (fullMulDiv : (a b divisor : U256) → Except RateLimiter.Error U256)

/-- `_toUsdValue`, once the price is known. -/
def toUsdValue (price : Price) (amount : U256) : Except Error U256 := do
  let unit ← bubble .arithmetic (pow10 price.currencyDecimals.toNat)
  let usdValue ← bubble .arithmetic (fullMulDiv amount price.usdPrice unit)
  normalizeUsdDecimals usdValue price.usdPriceDecimals.toNat 18

/-- `_fromUsdValue`, once the price is known. -/
def fromUsdValue (price : Price) (usdValue : U256) : Except Error U256 := do
  let priceScaledUsdValue ← normalizeUsdDecimals usdValue 18 price.usdPriceDecimals.toNat
  let unit ← bubble .arithmetic (pow10 price.currencyDecimals.toNat)
  bubble .arithmetic (fullMulDiv priceScaledUsdValue unit price.usdPrice)

-- A read of the price oracle may change its state.
variable {σ : Type} (resolveUsdPrice : U256 → σ → Option (Price × σ))

/-- The USD value of the fee. -/
def feeUsdValueOf (tokenId amount feeBps : U256) (state : σ) : Except Error (U256 × σ) :=
  if amount ≠ 0 ∧ feeBps ≠ 0 then do
    let (price, state) ← orRevert (resolveUsdPrice tokenId state) (.priceReverted tokenId)
    let usdValue ← toUsdValue fullMulDiv price amount
    let feeUsdValue ← bubble .arithmetic (fullMulDiv usdValue feeBps (10 ^ 18))
    return (feeUsdValue, state)
  else
    return (0, state)

/-- The fee in its currency. -/
def feeAmountOf (feeCurrency feeUsdValue : U256) (state : σ) : Except Error (U256 × σ) :=
  if feeUsdValue ≠ 0 then do
    let (price, state) ← orRevert (resolveUsdPrice feeCurrency state)
      (.priceReverted feeCurrency)
    let feeAmount ← fromUsdValue fullMulDiv price feeUsdValue
    return (feeAmount, state)
  else
    return (0, state)

/-- `calculateFee`. -/
def calculateFee (tokenId amount : U256) (data : Bytes) (state : σ) : Except Error (Fee × σ) := do
  let request ← orRevert (FeeRequest.decode data) .invalidEncoding
  require (request.feeBps ≤ 10 ^ 18) (.invalidFeeBps request.feeBps)
  let (feeUsdValue, state) ←
    feeUsdValueOf fullMulDiv resolveUsdPrice tokenId amount request.feeBps state
  let (feeAmount, state) ←
    feeAmountOf fullMulDiv resolveUsdPrice request.feeCurrency feeUsdValue state
  require (feeAmount ≤ request.maxFeeAmount) (.feeExceedsMax feeAmount request.maxFeeAmount)
  require (¬ (feeAmount ≠ 0 ∧ request.feeRecipient = 0)) .invalidFeeRecipient
  require (¬ (feeAmount ≠ 0 ∧ request.feePayer = 0)) .invalidFeePayer
  return (⟨request.feeCurrency, feeAmount, request.feeRecipient, request.feePayer⟩, state)

/-! ## Roundings -/

/-- A value with other decimals, rounded down.  One of the two powers is one. -/
def rescale (value source target : ℕ) : ℕ := value * 10 ^ (target - source) / 10 ^ (source - target)

/-- The USD value of an amount, with 18 decimals. -/
def usdValueAt (price : Price) (amount : ℕ) : ℕ :=
  rescale (amount * price.usdPrice.toNat / 10 ^ price.currencyDecimals.toNat)
    price.usdPriceDecimals.toNat 18

/-- The amount for a USD value with 18 decimals. -/
def amountAt (price : Price) (usdValue : ℕ) : ℕ :=
  rescale usdValue 18 price.usdPriceDecimals.toNat * 10 ^ price.currencyDecimals.toNat /
    price.usdPrice.toNat

/-- The fee at two prices. -/
def feeAt (price feePrice : Price) (amount feeBps : ℕ) : ℕ :=
  amountAt feePrice (usdValueAt price amount * feeBps / 10 ^ 18)

theorem rescale_mono {value value' : ℕ} (le : value ≤ value') (source target : ℕ) :
    rescale value source target ≤ rescale value' source target :=
  Nat.div_le_div_right (Nat.mul_le_mul_right _ le)

theorem feeAt_mono (price feePrice : Price) {amount amount' feeBps feeBps' : ℕ}
    (more : amount ≤ amount') (higher : feeBps ≤ feeBps') :
    feeAt price feePrice amount feeBps ≤ feeAt price feePrice amount' feeBps' := by
  have values : usdValueAt price amount ≤ usdValueAt price amount' :=
    rescale_mono (Nat.div_le_div_right (Nat.mul_le_mul_right _ more)) _ _
  have shares := Nat.div_le_div_right (c := 10 ^ 18) (Nat.mul_le_mul values higher)
  exact Nat.div_le_div_right (Nat.mul_le_mul_right _ (rescale_mono shares _ _))

/-- Rescaling does not increase what a value stands for. -/
theorem rescale_le (value source target : ℕ) :
    (rescale value source target : ℚ) / 10 ^ target ≤ value / 10 ^ source := by
  have powers : 10 ^ (target - source) * 10 ^ source = 10 ^ target * 10 ^ (source - target) := by
    rw [← pow_add, ← pow_add]
    congr 1
    omega
  rw [div_le_div_iff₀ (by positivity) (by positivity)]
  norm_cast
  refine Nat.le_of_mul_le_mul_right ?_ (by positivity : 0 < 10 ^ (source - target))
  calc rescale value source target * 10 ^ source * 10 ^ (source - target)
      = rescale value source target * 10 ^ (source - target) * 10 ^ source :=
        Nat.mul_right_comm _ _ _
    _ ≤ value * 10 ^ (target - source) * 10 ^ source :=
        Nat.mul_le_mul_right _ (Nat.div_mul_le_self _ _)
    _ = value * 10 ^ target * 10 ^ (source - target) := by
        rw [Nat.mul_assoc, powers, Nat.mul_assoc]

theorem usdValueAt_le (price : Price) (amount : ℕ) :
    (usdValueAt price amount : ℚ) / 10 ^ 18 ≤ amount * price.rate := by
  refine (rescale_le _ _ _).trans ?_
  rw [Price.rate, pow_add, ← div_div, mul_div_assoc', mul_div_assoc']
  gcongr
  exact_mod_cast Nat.cast_div_le

theorem amountAt_le (price : Price) (usdValue : ℕ) :
    amountAt price usdValue * price.rate ≤ usdValue / 10 ^ 18 := by
  refine le_trans ?_ (rescale_le usdValue 18 price.usdPriceDecimals.toNat)
  rw [Price.rate, pow_add, ← div_div, mul_div_assoc', mul_div_assoc']
  gcongr
  rw [div_le_iff₀ (by positivity)]
  exact_mod_cast Nat.div_mul_le_self _ _

/-- The fee is worth at most its share of the deposit. -/
theorem feeAt_le (price feePrice : Price) (amount feeBps : ℕ) :
    feeAt price feePrice amount feeBps * feePrice.rate ≤
      feeBps / 10 ^ 18 * (amount * price.rate) := by
  have share : ((usdValueAt price amount * feeBps / 10 ^ 18 : ℕ) : ℚ) ≤
      usdValueAt price amount * feeBps / 10 ^ 18 := by
    exact_mod_cast Nat.cast_div_le
  calc feeAt price feePrice amount feeBps * feePrice.rate
      ≤ (usdValueAt price amount * feeBps / 10 ^ 18 : ℕ) / 10 ^ 18 := amountAt_le _ _
    _ ≤ usdValueAt price amount * feeBps / 10 ^ 18 / 10 ^ 18 := by gcongr
    _ = feeBps / 10 ^ 18 * (usdValueAt price amount / 10 ^ 18) := by ring
    _ ≤ feeBps / 10 ^ 18 * (amount * price.rate) := by
        gcongr
        exact usdValueAt_le price amount

theorem pow10_eq_ok {exponent : ℕ} {scale : U256} (ok : pow10 exponent = .ok scale) :
    scale.toNat = 10 ^ exponent := by
  unfold pow10 at ok
  split at ok
  next small =>
    cases ok
    exact Nat.mod_eq_of_lt small
  next => cases ok

theorem normalizeUsdDecimals_eq_ok {value result : U256} {source target : ℕ}
    (ok : normalizeUsdDecimals value source target = .ok result) :
    result.toNat = rescale value.toNat source target := by
  unfold normalizeUsdDecimals at ok
  split_ifs at ok with less greater
  · simp only [bind_eq_ok, bubble_eq_ok, checkedMul_eq_ok] at ok
    obtain ⟨scale, isScale, product⟩ := ok
    simp [rescale, product, pow10_eq_ok isScale, less.le]
  · simp only [bind_eq_ok, bubble_eq_ok, pure_eq_ok] at ok
    obtain ⟨scale, isScale, rfl⟩ := ok
    simp [rescale, pow10_eq_ok isScale, greater.le]
  · cases ok
    simp [rescale, not_lt.mp less, not_lt.mp greater]

variable {fullMulDiv} (documented : MulDivs fullMulDiv)
include documented

theorem toUsdValue_eq_ok {price : Price} {amount usdValue : U256}
    (ok : toUsdValue fullMulDiv price amount = .ok usdValue) :
    usdValue.toNat = usdValueAt price amount.toNat := by
  simp only [toUsdValue, bind_eq_ok, bubble_eq_ok] at ok
  obtain ⟨unit, isUnit, value, isValue, ok⟩ := ok
  rw [normalizeUsdDecimals_eq_ok ok, ((documented ..).mp isValue).2,
    pow10_eq_ok isUnit, usdValueAt]

theorem fromUsdValue_eq_ok {price : Price} {amount usdValue : U256}
    (ok : fromUsdValue fullMulDiv price usdValue = .ok amount) :
    price.usdPrice ≠ 0 ∧ amount.toNat = amountAt price usdValue.toNat := by
  simp only [fromUsdValue, bind_eq_ok, bubble_eq_ok] at ok
  obtain ⟨value, isValue, unit, isUnit, ok⟩ := ok
  obtain ⟨positive, isAmount⟩ := (documented ..).mp ok
  rw [isAmount, normalizeUsdDecimals_eq_ok isValue, pow10_eq_ok isUnit]
  exact ⟨positive, rfl⟩

variable {resolveUsdPrice} {tokenId amount : U256} {data : Bytes} {request : FeeRequest}
  {state after : σ} {fee : Fee}

/-- A fee that is not zero takes two prices, and whatever the prices are, the fee is the one at
these prices. -/
theorem feeAmount_eq (decoded : FeeRequest.decode data = some request)
    (ok : calculateFee fullMulDiv resolveUsdPrice tokenId amount data state = .ok (fee, after)) :
    fee.feeAmount ≤ request.maxFeeAmount ∧
    (fee.feeAmount ≠ 0 → ∃ price next feePrice last,
      resolveUsdPrice tokenId state = some (price, next) ∧
      resolveUsdPrice request.feeCurrency next = some (feePrice, last) ∧
      feePrice.usdPrice ≠ 0) ∧
    ∀ price next feePrice last, resolveUsdPrice tokenId state = some (price, next) →
      resolveUsdPrice request.feeCurrency next = some (feePrice, last) →
      fee.feeAmount.toNat = feeAt price feePrice amount.toNat request.feeBps.toNat := by
  simp only [calculateFee, bind_eq_ok, orRevert_eq_ok, require_eq_ok, pure_eq_ok, Prod.exists,
    decoded, Option.some_inj] at ok
  obtain ⟨_, rfl, _, _, feeUsdValue, next, isValue, feeAmount, last, isAmount, _, capped, _, _, _,
    _, result⟩ := ok
  cases result
  refine ⟨capped, ?_⟩
  unfold feeUsdValueOf at isValue
  unfold feeAmountOf at isAmount
  split_ifs at isValue with charges
  · simp only [bind_eq_ok, orRevert_eq_ok, bubble_eq_ok, pure_eq_ok, Prod.exists] at isValue
    obtain ⟨price, _, resolved, usdValue, valued, _, shared, same⟩ := isValue
    cases same
    have share := ((documented ..).mp shared).2
    rw [toUsdValue_eq_ok documented valued] at share
    split_ifs at isAmount with nonzero
    · simp only [bind_eq_ok, orRevert_eq_ok, pure_eq_ok, Prod.exists] at isAmount
      obtain ⟨feePrice, _, resolved', _, converted, same⟩ := isAmount
      cases same
      obtain ⟨positive, isFee⟩ := fromUsdValue_eq_ok documented converted
      refine ⟨fun _ => ⟨price, _, feePrice, _, resolved, resolved', positive⟩, ?_⟩
      intro _ _ _ _ known known'
      cases resolved.symm.trans known
      cases resolved'.symm.trans known'
      rw [isFee, share]
      rfl
    · cases isAmount
      refine ⟨fun nonzero => absurd rfl nonzero, ?_⟩
      intro _ _ feePrice _ known _
      cases resolved.symm.trans known
      rw [not_not.mp nonzero] at share
      have zero : usdValueAt price amount.toNat * request.feeBps.toNat / 10 ^ 18 = 0 := share.symm
      rw [feeAt, zero]
      simp [amountAt, rescale]
  · cases isValue
    cases isAmount
    refine ⟨fun nonzero => absurd rfl nonzero, ?_⟩
    intro _ _ _ _ _ _
    obtain none | none := not_and_or.mp charges
    · simp [feeAt, usdValueAt, amountAt, rescale, not_not.mp none]
    · simp [feeAt, amountAt, rescale, not_not.mp none]

end BpsFeeCalculator

open BpsFeeCalculator

/-- The fee is worth at most its share of the deposit, so that at one price it is at most this
share of the amount; it does not exceed the maximum, and neither a larger deposit nor a higher
rate lowers it. -/
theorem fast_mint_fee_never_overcharges {σ : Type}
    (fullMulDiv : (a b divisor : U256) → Except RateLimiter.Error U256)
    (documented : UsdRateLimiter.MulDivs fullMulDiv)
    (resolveUsdPrice : U256 → σ → Option (Price × σ)) (tokenId amount : U256) (data : Bytes)
    (request : FeeRequest) (state after : σ) (fee : BpsFeeCalculator.Fee)
    (decoded : FeeRequest.decode data = some request)
    (ok : calculateFee fullMulDiv resolveUsdPrice tokenId amount data state = .ok (fee, after)) :
    fee.feeAmount ≤ request.maxFeeAmount ∧
    (fee.feeAmount ≠ 0 → ∃ price next feePrice last,
      resolveUsdPrice tokenId state = some (price, next) ∧
      resolveUsdPrice request.feeCurrency next = some (feePrice, last)) ∧
    (∀ price next feePrice last, resolveUsdPrice tokenId state = some (price, next) →
      resolveUsdPrice request.feeCurrency next = some (feePrice, last) →
      fee.feeAmount.toNat * feePrice.rate ≤
        request.feeBps.toNat / 10 ^ 18 * (amount.toNat * price.rate) ∧
      (feePrice.rate = price.rate →
        (fee.feeAmount.toNat : ℚ) ≤ amount.toNat * request.feeBps.toNat / 10 ^ 18)) ∧
    ∀ amount' data' request' fee' after', FeeRequest.decode data' = some request' →
      request'.feeCurrency = request.feeCurrency → amount ≤ amount' →
      request.feeBps ≤ request'.feeBps →
      calculateFee fullMulDiv resolveUsdPrice tokenId amount' data' state = .ok (fee', after') →
      fee.feeAmount ≤ fee'.feeAmount := by
  obtain ⟨capped, priced, isFee⟩ := feeAmount_eq documented decoded ok
  refine ⟨capped, ?_, ?_, ?_⟩
  · intro nonzero
    obtain ⟨price, next, feePrice, last, resolved, resolved', _⟩ := priced nonzero
    exact ⟨price, next, feePrice, last, resolved, resolved'⟩
  · intro price next feePrice last resolved resolved'
    have bound := feeAt_le price feePrice amount.toNat request.feeBps.toNat
    rw [← isFee price next feePrice last resolved resolved'] at bound
    refine ⟨bound, ?_⟩
    intro same
    by_cases zero : fee.feeAmount = 0
    · have share : (0 : ℚ) ≤ amount.toNat * request.feeBps.toNat / 10 ^ 18 := by positivity
      simpa [zero] using share
    obtain ⟨_, _, _, _, known, known', positive⟩ := priced zero
    cases resolved.symm.trans known
    cases resolved'.symm.trans known'
    have positive : 0 < price.rate := by
      rw [← same]
      exact div_pos (Nat.cast_pos.mpr (toNat_pos positive)) (by positivity)
    rw [same, ← mul_assoc] at bound
    have share := le_of_mul_le_mul_right bound positive
    rwa [mul_comm, ← mul_div_assoc] at share
  · intro amount' data' request' fee' after' decoded' sameCurrency more higher ok'
    by_cases zero : fee.feeAmount = 0
    · rw [zero]
      exact Nat.zero_le _
    obtain ⟨price, next, feePrice, last, resolved, resolved', _⟩ := priced zero
    have isFee' := (feeAmount_eq documented decoded' ok').2.2 price next feePrice last resolved
      (sameCurrency ▸ resolved')
    rw [BitVec.le_def, isFee price next feePrice last resolved resolved', isFee']
    exact feeAt_mono price feePrice more higher

namespace SampleFee

/-- A unit has a price of 2 USD, given with 8 decimals, and 6 decimals of its own. -/
def resolveUsdPrice (_ : U256) (_ : Unit) : Option (Price × Unit) :=
  some (⟨200000000, 8, 6, 0, 0⟩, ())

/-- A fee of one percent, and at most 500 of the smallest unit. -/
def data : Bytes := [7, 10 ^ 16, 500, 1, 2].flatMap Abi.word

end SampleFee

open SampleFee UsdRateLimiter in
/-- The fee for 12345 of the smallest unit. -/
theorem fast_mint_fee_never_overcharges_sample :
    calculateFee sampleMulDiv resolveUsdPrice 7 12345 data () = .ok (⟨7, 123, 1, 2⟩, ()) ∧
      (123 : ℚ) ≤ 12345 * 10 ^ 16 / 10 ^ 18 := by
  have ok : calculateFee sampleMulDiv resolveUsdPrice 7 12345 data () = .ok (⟨7, 123, 1, 2⟩, ()) :=
    toOption_eq_some.mp (by decide +kernel)
  have all := fast_mint_fee_never_overcharges _ sampleMulDiv_documented resolveUsdPrice 7 12345 data
    ⟨7, 10 ^ 16, 500, 1, 2⟩ () () ⟨7, 123, 1, 2⟩ (by decide +kernel) ok
  exact ⟨ok, by exact_mod_cast (all.2.2.1 _ _ _ _ rfl rfl).2 rfl⟩

end RelaySettlement
