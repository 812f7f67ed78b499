import RelaySettlement.Evm.Answers
import RelaySettlement.PriceOracle.Core
import RelaySettlement.RateLimiter.Bucket

/-!
# RelayUsdRateLimiter

One bucket per chain, in USD.  A request is priced by the price oracle and granted when
the refilled bucket covers its value.  The pre-checks decide the same without writing:
one for a single request, one for a batch that shares the bucket.  The batch pre-check
adds the values up in checked arithmetic, so it reverts on a batch whose values exceed
the word size, where the requests one after another would be rejected.
-/

open Evm

namespace RelaySettlement

/-- The storage of the limiter. -/
structure UsdRateLimiter where
  hasRole : RateLimiter.Role → Address → Bool
  chainBuckets : Bytes32 → TokenBucket

/-- What the limiter takes from its surroundings: the hash function, `FixedPointMathLib.fullMulDiv`,
and the price of a token, which the price oracle may refuse. -/
structure UsdRateLimiterEnv (χ : Type) where
  keccak256 : Bytes → Bytes32
  fullMulDiv : (a b divisor : U256) → Except RateLimiter.Error U256
  resolveUsdPrice : χ → U256 → Option Price

namespace UsdRateLimiter

open RateLimiter (Role Error)

variable {χ : Type} (env : UsdRateLimiterEnv χ) (ctx : Ctx χ)

/-- The limiter before any configuration. -/
def empty (roles : Role → Address → Bool) : UsdRateLimiter :=
  ⟨roles, fun _ => TokenBucket.empty⟩

/-- `USD_DECIMALS`. -/
def usdDecimals : ℕ := 18

/-- `onlyRole`. -/
def onlyRole (limiter : UsdRateLimiter) (role : Role) : Except Error Unit :=
  require (limiter.hasRole role ctx.sender = true) (.unauthorizedAccount ctx.sender role)

/-- `_chainKey`. -/
def chainKey (chainId : Bytes) : Bytes32 := env.keccak256 chainId

/-- Solidity's checked `10 ** exponent`. -/
def pow10 (exponent : ℕ) : Except Error U256 :=
  if 10 ^ exponent < 2 ^ 256 then .ok (BitVec.ofNat 256 (10 ^ exponent))
  else .error .arithmeticPanic

/-- What is documented of `fullMulDiv`: the quotient of a product that is not truncated, and a
revert if it does not fit or the divisor is zero. -/
def MulDivs (fullMulDiv : (a b divisor : U256) → Except Error U256) : Prop :=
  ∀ a b divisor result, fullMulDiv a b divisor = .ok result ↔
    divisor ≠ 0 ∧ result.toNat = a.toNat * b.toNat / divisor.toNat

/-- A function that behaves as documented. -/
def sampleMulDiv (a b divisor : U256) : Except Error U256 := do
  let quotient := a.toNat * b.toNat / divisor.toNat
  require (divisor ≠ 0 ∧ quotient < 2 ^ 256) .fullMulDivFailed
  return BitVec.ofNat 256 quotient

theorem sampleMulDiv_documented : MulDivs sampleMulDiv := by
  intro a b divisor result
  simp only [sampleMulDiv, bind_eq_ok, require_eq_ok, pure_eq_ok]
  constructor
  · rintro ⟨_, ⟨nonzero, small⟩, rfl⟩
    exact ⟨nonzero, Nat.mod_eq_of_lt small⟩
  · rintro ⟨nonzero, isQuotient⟩
    refine ⟨(), ⟨nonzero, isQuotient ▸ result.isLt⟩, ?_⟩
    rw [← isQuotient, BitVec.ofNat_toNat, BitVec.setWidth_eq]

/-- `_toUsdValue`. -/
def toUsdValue (tokenId amount : U256) : Except Error U256 := do
  let price ← orRevert (env.resolveUsdPrice ctx.rest tokenId) (.priceReverted tokenId)
  let unit ← pow10 price.currencyDecimals.toNat
  let usdValue ← env.fullMulDiv amount price.usdPrice unit
  let decimals := price.usdPriceDecimals.toNat
  if decimals < usdDecimals then
    let scale ← pow10 (usdDecimals - decimals)
    checkedMul .arithmeticPanic usdValue scale
  else if usdDecimals < decimals then
    let scale ← pow10 (decimals - usdDecimals)
    return usdValue / scale
  else
    return usdValue

/-- `abi.decode(data, (string))`. -/
def decodeChainId (data : Bytes) : Except Error Bytes :=
  orRevert (Abi.readBytes data 0) .invalidEncoding

/-- `consume`. -/
def consume (tokenId amount : U256) (data : Bytes) (limiter : UsdRateLimiter) :
    Except Error (Bool × UsdRateLimiter) := do
  limiter.onlyRole ctx .consumer
  let chainId ← decodeChainId data
  let key := chainKey env chainId
  if (limiter.chainBuckets key).isEnabled = false then
    return (false, limiter)
  else if amount = 0 then
    return (false, limiter)
  else
    let usdValue ← toUsdValue env ctx tokenId amount
    if usdValue = 0 then
      return (false, limiter)
    else
      let (consumed, bucket) ← (limiter.chainBuckets key).consume ctx.timestamp usdValue
      return (consumed, { limiter with chainBuckets := set limiter.chainBuckets key bucket })

/-- `_setBucketConfig`. -/
def internalSetBucketConfig (config : BucketConfig Bytes) (limiter : UsdRateLimiter) :
    Except Error UsdRateLimiter := do
  let key := chainKey env config.key
  let bucket ← (limiter.chainBuckets key).setBucketConfig ctx.timestamp config
  return { limiter with chainBuckets := set limiter.chainBuckets key bucket }

/-- The loop of `setBucketConfigs`. -/
def internalSetBucketConfigs :
    List (BucketConfig Bytes) → UsdRateLimiter → Except Error UsdRateLimiter
  | [], limiter => return limiter
  | config :: configs, limiter => do
      let limiter ← internalSetBucketConfig env ctx config limiter
      internalSetBucketConfigs configs limiter

/-- `setBucketConfig`. -/
def setBucketConfig (config : BucketConfig Bytes) (limiter : UsdRateLimiter) :
    Except Error UsdRateLimiter := do
  limiter.onlyRole ctx .admin
  internalSetBucketConfig env ctx config limiter

/-- `setBucketConfigs`. -/
def setBucketConfigs (configs : List (BucketConfig Bytes)) (limiter : UsdRateLimiter) :
    Except Error UsdRateLimiter := do
  limiter.onlyRole ctx .admin
  internalSetBucketConfigs env ctx configs limiter

/-! ## Pre-checks -/

/-- `resolveCanConsume`. -/
def resolveCanConsume (tokenId amount : U256) (data : Bytes) (limiter : UsdRateLimiter) :
    Except Error Bool := do
  let chainId ← decodeChainId data
  let bucket := limiter.chainBuckets (chainKey env chainId)
  if bucket.isEnabled = false then
    return false
  else if amount = 0 then
    return false
  else
    let usdValue ← toUsdValue env ctx tokenId amount
    if usdValue = 0 then
      return false
    else if bucket.capacity.setWidth 256 < usdValue then
      return false
    else
      let refilled ← bucket.refilledTokens ctx.timestamp
      return decide (usdValue ≤ refilled)

/-- The loop of `resolveCanConsumeBatch`: the sum of the values, unless one of them is
zero. -/
def sumValues : List (U256 × U256) → U256 → Except Error (Option U256)
  | [], total => return some total
  | (tokenId, amount) :: pairs, total =>
      if amount = 0 then
        return none
      else do
        let usdValue ← toUsdValue env ctx tokenId amount
        if usdValue = 0 then
          return none
        else
          let total ← checkedAdd .arithmeticPanic total usdValue
          sumValues pairs total

/-- `resolveCanConsumeBatch`. -/
def resolveCanConsumeBatch (tokenIds amounts : List U256) (data : Bytes)
    (limiter : UsdRateLimiter) : Except Error Bool := do
  require (tokenIds.length = amounts.length)
    (.arrayLengthMismatch tokenIds.length amounts.length)
  if tokenIds.length = 0 then
    return false
  else
    let chainId ← decodeChainId data
    let bucket := limiter.chainBuckets (chainKey env chainId)
    if bucket.isEnabled = false then
      return false
    else
      match ← sumValues env ctx (tokenIds.zip amounts) 0 with
      | none => return false
      | some total =>
          if bucket.capacity.setWidth 256 < total then
            return false
          else
            let refilled ← bucket.refilledTokens ctx.timestamp
            return decide (total ≤ refilled)

end UsdRateLimiter

/-! ## The limiter as a system -/

/-- The functions of the limiter that change its state, with their arguments.  `setRole`
stands for any grant, revocation or renunciation of a role. -/
inductive UsdRequest where
  | consume (tokenId amount : U256) (data : Bytes)
  | setBucketConfig (config : BucketConfig Bytes)
  | setBucketConfigs (configs : List (BucketConfig Bytes))
  | setRole (role : RateLimiter.Role) (account : Address) (granted : Bool)

/-- A call of the limiter. -/
structure UsdCall (χ : Type) where
  ctx : Ctx χ
  request : UsdRequest

namespace UsdRateLimiter

open RateLimiter (Error)

variable {χ : Type} (env : UsdRateLimiterEnv χ)

/-- Execute a call.  Only `consume` returns a value. -/
def exec (call : UsdCall χ) (limiter : UsdRateLimiter) :
    Except Error (Option Bool × UsdRateLimiter) :=
  match call.request with
  | .consume tokenId amount data => do
      let (consumed, limiter) ← consume env call.ctx tokenId amount data limiter
      return (some consumed, limiter)
  | .setBucketConfig config => do
      let limiter ← setBucketConfig env call.ctx config limiter
      return (none, limiter)
  | .setBucketConfigs configs => do
      let limiter ← setBucketConfigs env call.ctx configs limiter
      return (none, limiter)
  | .setRole role account granted =>
      return (none, { limiter with hasRole := set₂ limiter.hasRole role account granted })

/-- One step of the limiter. -/
abbrev step : UsdCall χ → UsdRateLimiter → Except Error UsdRateLimiter := stepOf (exec env)

end UsdRateLimiter

end RelaySettlement
