import RelaySettlement.Evm.Word
import RelaySettlement.Evm.Refill

/-!
# Token buckets

The bucket both rate limiters keep per token id or per chain.  Every arithmetic step is
checked and every write to a packed field is a checked cast.  The lemmas below say, in
natural numbers, what a request and a configuration do to a bucket whose level is within
its capacity: nothing reverts, and the new level is the refilled one less what was spent.
-/

open Evm

namespace RelaySettlement

/-- The stored state of a bucket. -/
structure TokenBucket where
  tokens : BitVec 128
  lastUpdated : BitVec 32
  isEnabled : Bool
  capacity : BitVec 128
  rate : BitVec 128
  deriving DecidableEq

/-- A configuration for the bucket of a token id or a chain. -/
structure BucketConfig (α : Type) where
  key : α
  isEnabled : Bool
  capacity : BitVec 128
  rate : BitVec 128

/-- The roles of a rate limiter. -/
inductive RateLimiter.Role where
  | admin
  | consumer
  deriving DecidableEq

/-- What the functions of a rate limiter revert with. -/
inductive RateLimiter.Error where
  | unauthorizedAccount (account : Address) (role : RateLimiter.Role)
  | arrayLengthMismatch (tokenIdsLength amountsLength : ℕ)
  | arithmeticPanic
  | castOverflow
  | fullMulDivFailed
  | priceReverted (tokenId : U256)
  | invalidEncoding
  deriving DecidableEq

namespace TokenBucket

open RateLimiter (Error)

/-- A bucket that was never configured. -/
def empty : TokenBucket := ⟨0, 0, false, 0, 0⟩

/-- `_calculateRefill`. -/
def calculateRefill (capacity tokens timeDiff rate : U256) : Except Error U256 := do
  let accrued ← checkedMul .arithmeticPanic timeDiff rate
  let refilled ← checkedAdd .arithmeticPanic tokens accrued
  return lesser capacity refilled

/-- `_refilledTokens`. -/
def refilledTokens (timestamp : U256) (bucket : TokenBucket) : Except Error U256 := do
  let timeDiff ← checkedSub .arithmeticPanic timestamp (bucket.lastUpdated.setWidth 256)
  calculateRefill (bucket.capacity.setWidth 256) (bucket.tokens.setWidth 256) timeDiff
    (bucket.rate.setWidth 256)

/-- The end of `consume`: deduct a request that fits, reject any other. -/
def deduct (capacity tokens amount : U256) (bucket : TokenBucket) :
    Except Error (Bool × TokenBucket) :=
  if capacity < amount ∨ tokens < amount then
    return (false, bucket)
  else do
    let remaining ← safeCast 128 .castOverflow (tokens - amount)
    return (true, { bucket with tokens := remaining })

/-- `consume` on an enabled bucket, for a request of a nonzero amount.  A rejected
request still stores the refilled level. -/
def consume (timestamp amount : U256) (bucket : TokenBucket) :
    Except Error (Bool × TokenBucket) := do
  let tokens := bucket.tokens.setWidth 256
  let capacity := bucket.capacity.setWidth 256
  let timeDiff ← checkedSub .arithmeticPanic timestamp (bucket.lastUpdated.setWidth 256)
  if timeDiff ≠ 0 then
    if capacity < tokens then
      return (false, bucket)
    else
      let refilled ← calculateRefill capacity tokens timeDiff (bucket.rate.setWidth 256)
      let lastUpdated ← safeCast 32 .castOverflow timestamp
      let stored ← safeCast 128 .castOverflow refilled
      deduct capacity refilled amount
        { bucket with lastUpdated := lastUpdated, tokens := stored }
  else
    deduct capacity tokens amount bucket

/-- The level that `_setBucketConfig` writes: a new bucket is full, an existing one is
refilled at its old rate and cut to the new capacity. -/
def configuredTokens (timestamp : U256) (capacity : BitVec 128) (bucket : TokenBucket) :
    Except Error (BitVec 128) :=
  if bucket.lastUpdated = 0 then
    return capacity
  else do
    let timeDiff ← checkedSub .arithmeticPanic timestamp (bucket.lastUpdated.setWidth 256)
    let tokens ←
      if timeDiff ≠ 0 then do
        let refilled ← calculateRefill (bucket.capacity.setWidth 256)
          (bucket.tokens.setWidth 256) timeDiff (bucket.rate.setWidth 256)
        safeCast 128 .castOverflow refilled
      else pure bucket.tokens
    return lesser capacity tokens

/-- `_setBucketConfig`. -/
def setBucketConfig {α : Type} (timestamp : U256) (config : BucketConfig α)
    (bucket : TokenBucket) : Except Error TokenBucket := do
  let tokens ← configuredTokens timestamp config.capacity bucket
  let lastUpdated ← safeCast 32 .castOverflow timestamp
  return ⟨tokens, lastUpdated, config.isEnabled, config.capacity, config.rate⟩

/-! ## Levels -/

/-- The level never exceeds the capacity. -/
def Bounded (bucket : TokenBucket) : Prop := bucket.tokens.toNat ≤ bucket.capacity.toNat

/-- The level at a time, refilled since the last update. -/
def available (bucket : TokenBucket) (now : ℕ) : ℕ :=
  refill bucket.capacity.toNat bucket.rate.toNat bucket.tokens.toNat
    (now - bucket.lastUpdated.toNat)

theorem available_le_capacity (bucket : TokenBucket) (now : ℕ) :
    bucket.available now ≤ bucket.capacity.toNat :=
  refill_le_capacity _ _ _ _

/-- A time that `block.timestamp` can have for a bucket: not before its last update, and
within the range of the packed field. -/
structure Reads (bucket : TokenBucket) (timestamp : U256) : Prop where
  past : bucket.lastUpdated.toNat ≤ timestamp.toNat
  inRange : timestamp.toNat < 2 ^ 32

variable {bucket : TokenBucket} {timestamp : U256}

variable {now : ℕ} {bucket' after : TokenBucket} {α : Type} {config : BucketConfig α}

/-- A bucket that was just updated has its level available. -/
theorem available_updated (updated : bucket.lastUpdated.toNat = now) (bounded : bucket.Bounded) :
    bucket.available now = bucket.tokens.toNat := by
  rw [available, updated, Nat.sub_self]
  exact refill_zero _ _ _ bounded

theorem calculateRefill_eq_ok {capacity tokens timeDiff rate result : U256} :
    calculateRefill capacity tokens timeDiff rate = .ok result ↔
      tokens.toNat + timeDiff.toNat * rate.toNat < 2 ^ 256 ∧
        result.toNat = refill capacity.toNat rate.toNat tokens.toNat timeDiff.toNat := by
  simp only [calculateRefill, bind_eq_ok, checkedMul_eq_ok, checkedAdd_eq_ok, pure_eq_ok, refill]
  constructor
  · rintro ⟨accrued, product, refilled, sum, rfl⟩
    have refilledBound := refilled.isLt
    rw [toNat_lesser, sum, product]
    exact ⟨by omega, rfl⟩
  · rintro ⟨inRange, level⟩
    refine ⟨BitVec.ofNat 256 (timeDiff.toNat * rate.toNat), ?_,
      BitVec.ofNat 256 (tokens.toNat + timeDiff.toNat * rate.toNat), ?_, ?_⟩
    · rw [BitVec.toNat_ofNat, Nat.mod_eq_of_lt (by omega)]
    · rw [BitVec.toNat_ofNat, BitVec.toNat_ofNat, Nat.mod_eq_of_lt (by omega),
        Nat.mod_eq_of_lt (by omega)]
    · apply BitVec.eq_of_toNat_eq
      rw [toNat_lesser, BitVec.toNat_ofNat, Nat.mod_eq_of_lt inRange, level]

namespace Reads

theorem elapsed (reads : bucket.Reads timestamp) :
    (timestamp - bucket.lastUpdated.setWidth 256).toNat =
      timestamp.toNat - bucket.lastUpdated.toNat := by
  rw [BitVec.toNat_sub_of_le, toNat_widen (by decide)]
  rw [BitVec.le_def, toNat_widen (by decide)]
  exact reads.past

theorem subtracts (reads : bucket.Reads timestamp) :
    checkedSub Error.arithmeticPanic timestamp (bucket.lastUpdated.setWidth 256) =
      .ok (timestamp - bucket.lastUpdated.setWidth 256) := by
  have past := reads.past
  rw [checkedSub_eq_ok, reads.elapsed, toNat_widen (by decide)]
  omega

theorem timeDiff_eq_zero (reads : bucket.Reads timestamp) :
    timestamp - bucket.lastUpdated.setWidth 256 = 0 ↔
      timestamp.toNat = bucket.lastUpdated.toNat := by
  have past := reads.past
  rw [← BitVec.toNat_inj, reads.elapsed]
  show timestamp.toNat - bucket.lastUpdated.toNat = 0 ↔ _
  omega

theorem castTime (reads : bucket.Reads timestamp) :
    safeCast 32 Error.castOverflow timestamp = .ok (timestamp.setWidth 32) := by
  rw [safeCast, if_pos reads.inRange]

/-- What accrues within the range of the packed time does not overflow. -/
theorem accrual_lt (reads : bucket.Reads timestamp) :
    bucket.tokens.toNat +
      (timestamp.toNat - bucket.lastUpdated.toNat) * bucket.rate.toNat < 2 ^ 256 := by
  have inRange := reads.inRange
  have tokensBound := bucket.tokens.isLt
  have accrues : (timestamp.toNat - bucket.lastUpdated.toNat) * bucket.rate.toNat ≤
      2 ^ 32 * 2 ^ 128 :=
    Nat.mul_le_mul (by omega) bucket.rate.isLt.le
  omega

/-- The refilled level is what is available, and fits the packed field. -/
theorem refills (reads : bucket.Reads timestamp) :
    ∃ refilled stored, calculateRefill (bucket.capacity.setWidth 256)
        (bucket.tokens.setWidth 256) (timestamp - bucket.lastUpdated.setWidth 256)
        (bucket.rate.setWidth 256) = .ok refilled ∧
      safeCast 128 Error.castOverflow refilled = .ok stored ∧
      refilled.toNat = bucket.available timestamp.toNat ∧
      stored.toNat = bucket.available timestamp.toNat := by
  have capacityBound := bucket.capacity.isLt
  have levelBound := bucket.available_le_capacity timestamp.toNat
  have wide : (BitVec.ofNat 256 (bucket.available timestamp.toNat)).toNat =
      bucket.available timestamp.toNat := by
    rw [BitVec.toNat_ofNat, Nat.mod_eq_of_lt (by omega)]
  have narrow : (BitVec.ofNat 128 (bucket.available timestamp.toNat)).toNat =
      bucket.available timestamp.toNat := by
    rw [BitVec.toNat_ofNat, Nat.mod_eq_of_lt (by omega)]
  refine ⟨_, _, ?_, ?_, wide, narrow⟩
  · rw [calculateRefill_eq_ok, reads.elapsed, wide, toNat_widen (by decide),
      toNat_widen (by decide), toNat_widen (by decide)]
    exact ⟨reads.accrual_lt, rfl⟩
  · rw [safeCast_eq_ok, wide, narrow]

end Reads

theorem refilledTokens_eq (reads : bucket.Reads timestamp) :
    ∃ refilled, refilledTokens timestamp bucket = .ok refilled ∧
      refilled.toNat = bucket.available timestamp.toNat := by
  obtain ⟨refilled, _, refills, _, isLevel, _⟩ := reads.refills
  refine ⟨refilled, ?_, isLevel⟩
  simp only [refilledTokens, reads.subtracts, bind, Except.bind, refills]

/-! ## Requests -/

/-- At a time, a bucket was refilled and an amount taken out. -/
structure Spends (now spent : ℕ) (before after : TokenBucket) : Prop where
  isEnabled : after.isEnabled = before.isEnabled
  capacity : after.capacity = before.capacity
  rate : after.rate = before.rate
  lastUpdated : after.lastUpdated.toNat = now
  tokens : after.tokens.toNat + spent = before.available now

theorem Spends.bounded {spent : ℕ} (spends : Spends now spent bucket bucket') :
    bucket'.Bounded := by
  have level := spends.tokens
  have bound := bucket.available_le_capacity now
  rw [Bounded, spends.capacity]
  omega

theorem Spends.available {spent : ℕ} (spends : Spends now spent bucket bucket') :
    bucket'.available now + spent = bucket.available now := by
  rw [available_updated spends.lastUpdated spends.bounded]
  exact spends.tokens

/-- From a refilled bucket a request is deducted exactly when the level covers it. -/
theorem deduct_eq {before advanced : TokenBucket} {level : U256} (amount : U256)
    (refills : Spends now 0 before advanced) (isLevel : level.toNat = before.available now) :
    ∃ after, deduct (before.capacity.setWidth 256) level amount advanced =
        .ok (decide (amount.toNat ≤ before.available now), after) ∧
      Spends now (if amount.toNat ≤ before.available now then amount.toNat else 0)
        before after := by
  have capacityBound := before.capacity.isLt
  have levelBound := before.available_le_capacity now
  have refused : (before.capacity.setWidth 256 < amount ∨ level < amount) ↔
      ¬ amount.toNat ≤ before.available now := by
    rw [BitVec.lt_def, BitVec.lt_def, toNat_widen (by decide)]
    omega
  by_cases fits : amount.toNat ≤ before.available now
  · have remaining : (level - amount).toNat = before.available now - amount.toNat := by
      rw [BitVec.toNat_sub_of_le (BitVec.le_def.mpr (by omega)), isLevel]
    have cast : safeCast 128 Error.castOverflow (level - amount) =
        .ok ((level - amount).setWidth 128) := by
      rw [safeCast, if_pos (by omega)]
    refine ⟨{ advanced with tokens := (level - amount).setWidth 128 }, ?_, refills.isEnabled,
      refills.capacity, refills.rate, refills.lastUpdated, ?_⟩
    · rw [deduct, if_neg (fun refuses => refused.mp refuses fits)]
      simp [cast, bind, Except.bind, pure, Except.pure, fits]
    · have stored := safeCast_eq_ok.mp cast
      rw [if_pos fits, stored, remaining]
      omega
  · refine ⟨advanced, ?_, ?_⟩
    · rw [deduct, if_pos (refused.mpr fits)]
      simp [fits, pure, Except.pure]
    · rw [if_neg fits]
      exact refills

/-- A request is decided on the refilled bucket. -/
theorem consume_refills (bounded : bucket.Bounded) (reads : bucket.Reads timestamp)
    (amount : U256) :
    ∃ level advanced, consume timestamp amount bucket =
        deduct (bucket.capacity.setWidth 256) level amount advanced ∧
      level.toNat = bucket.available timestamp.toNat ∧
      Spends timestamp.toNat 0 bucket advanced := by
  by_cases same : timestamp.toNat = bucket.lastUpdated.toNat
  · have level := available_updated same.symm bounded
    refine ⟨bucket.tokens.setWidth 256, bucket, ?_, ?_, rfl, rfl, rfl, same.symm, level.symm⟩
    · simp [consume, reads.subtracts, bind, Except.bind, reads.timeDiff_eq_zero.mpr same]
    · rw [level, toNat_widen (by decide)]
  · have someTime := mt reads.timeDiff_eq_zero.mp same
    have kept : ¬ bucket.capacity.setWidth 256 < bucket.tokens.setWidth 256 := by
      rw [BitVec.lt_def, toNat_widen (by decide), toNat_widen (by decide)]
      exact Nat.not_lt.mpr bounded
    obtain ⟨refilled, stored, refills, castLevel, isLevel, isStored⟩ := reads.refills
    refine ⟨refilled, { bucket with lastUpdated := timestamp.setWidth 32, tokens := stored },
      ?_, isLevel, rfl, rfl, rfl, safeCast_eq_ok.mp reads.castTime, isStored⟩
    simp only [consume, reads.subtracts, bind, Except.bind, someTime, ne_eq,
      not_false_eq_true, if_true, kept, if_false, refills, reads.castTime, castLevel]

/-- A request does not revert.  It is granted exactly when what is available covers it,
and only then something is taken out. -/
theorem consume_eq (bounded : bucket.Bounded) (reads : bucket.Reads timestamp)
    (amount : U256) :
    ∃ after, consume timestamp amount bucket =
        .ok (decide (amount.toNat ≤ bucket.available timestamp.toNat), after) ∧
      Spends timestamp.toNat
        (if amount.toNat ≤ bucket.available timestamp.toNat then amount.toNat else 0)
        bucket after := by
  obtain ⟨level, advanced, decides, isLevel, refills⟩ :=
    consume_refills bounded reads amount
  rw [decides]
  exact deduct_eq amount refills isLevel

/-! ## Configurations -/

/-- At a time, a bucket was configured. -/
structure Configures {α : Type} (now : ℕ) (config : BucketConfig α)
    (before after : TokenBucket) : Prop where
  isEnabled : after.isEnabled = config.isEnabled
  capacity : after.capacity = config.capacity
  rate : after.rate = config.rate
  lastUpdated : after.lastUpdated.toNat = now
  tokens : after.tokens.toNat =
    if before.lastUpdated = 0 then config.capacity.toNat
    else min config.capacity.toNat (before.available now)

theorem Configures.bounded (configures : Configures now config bucket bucket') :
    bucket'.Bounded := by
  rw [Bounded, configures.capacity, configures.tokens]
  split <;> omega

theorem configuredTokens_eq (bounded : bucket.Bounded) (reads : bucket.Reads timestamp)
    (capacity : BitVec 128) :
    ∃ tokens, configuredTokens timestamp capacity bucket = .ok tokens ∧
      tokens.toNat = if bucket.lastUpdated = 0 then capacity.toNat
        else min capacity.toNat (bucket.available timestamp.toNat) := by
  by_cases new : bucket.lastUpdated = 0
  · refine ⟨capacity, ?_, ?_⟩
    · rw [configuredTokens, if_pos new]
      rfl
    · rw [if_pos new]
  · rw [if_neg new]
    by_cases same : timestamp.toNat = bucket.lastUpdated.toNat
    · refine ⟨lesser capacity bucket.tokens, ?_, ?_⟩
      · simp only [configuredTokens, if_neg new, reads.subtracts, bind, Except.bind,
          reads.timeDiff_eq_zero.mpr same, ne_eq, not_true, if_false, pure, Except.pure]
      · rw [toNat_lesser, available_updated same.symm bounded]
    · have someTime := mt reads.timeDiff_eq_zero.mp same
      obtain ⟨refilled, stored, refills, castLevel, _, isStored⟩ := reads.refills
      refine ⟨lesser capacity stored, ?_, ?_⟩
      · simp only [configuredTokens, if_neg new, reads.subtracts, bind, Except.bind, someTime,
          ne_eq, not_false_eq_true, if_true, refills, castLevel, pure, Except.pure]
      · rw [toNat_lesser, isStored]

/-- A configuration does not revert. -/
theorem setBucketConfig_eq (bounded : bucket.Bounded) (reads : bucket.Reads timestamp)
    (config : BucketConfig α) :
    ∃ after, setBucketConfig timestamp config bucket = .ok after ∧
      Configures timestamp.toNat config bucket after := by
  obtain ⟨tokens, configured, level⟩ := configuredTokens_eq bounded reads config.capacity
  refine ⟨⟨tokens, timestamp.setWidth 32, config.isEnabled, config.capacity, config.rate⟩, ?_,
    rfl, rfl, rfl, safeCast_eq_ok.mp reads.castTime, level⟩
  simp only [setBucketConfig, configured, reads.castTime, bind, Except.bind, pure, Except.pure]

/-! ## Calls at any time -/

/-- A request on a bounded bucket goes through only at a time the bucket can read. -/
theorem consume_reads {amount : U256} {granted : Bool} (bounded : bucket.Bounded)
    (ok : consume timestamp amount bucket = .ok (granted, after)) : bucket.Reads timestamp := by
  simp only [consume, bind_eq_ok, checkedSub_eq_ok, toNat_widen (show 32 ≤ 256 by decide)]
    at ok
  obtain ⟨timeDiff, elapsed, decides⟩ := ok
  refine ⟨by omega, ?_⟩
  by_cases noTime : timeDiff = 0
  · subst noTime
    have same : timestamp.toNat = bucket.lastUpdated.toNat := elapsed
    rw [same]
    exact bucket.lastUpdated.isLt
  · have kept : ¬ bucket.capacity.setWidth 256 < bucket.tokens.setWidth 256 := by
      rw [BitVec.lt_def, toNat_widen (by decide), toNat_widen (by decide)]
      exact Nat.not_lt.mpr bounded
    simp only [ne_eq, noTime, not_false_eq_true, if_true, kept, if_false, bind_eq_ok,
      safeCast_eq_ok] at decides
    obtain ⟨_, _, lastUpdated, cast, _⟩ := decides
    rw [← cast]
    exact lastUpdated.isLt

theorem consume_bounded {amount : U256} {granted : Bool} (bounded : bucket.Bounded)
    (ok : consume timestamp amount bucket = .ok (granted, after)) : after.Bounded := by
  obtain ⟨_, ok', spends⟩ := consume_eq bounded (consume_reads bounded ok) amount
  rw [ok] at ok'
  cases ok'
  exact spends.bounded

theorem setBucketConfig_reads (ok : setBucketConfig timestamp config bucket = .ok after) :
    bucket.Reads timestamp := by
  simp only [setBucketConfig, bind_eq_ok, safeCast_eq_ok] at ok
  obtain ⟨_, configured, lastUpdated, cast, _⟩ := ok
  constructor
  · by_cases new : bucket.lastUpdated = 0
    · rw [new]
      exact Nat.zero_le _
    · simp only [configuredTokens, if_neg new, bind_eq_ok, checkedSub_eq_ok,
        toNat_widen (show 32 ≤ 256 by decide)] at configured
      obtain ⟨_, elapsed, _⟩ := configured
      omega
  · rw [← cast]
    exact lastUpdated.isLt

theorem setBucketConfig_bounded (bounded : bucket.Bounded)
    (ok : setBucketConfig timestamp config bucket = .ok after) : after.Bounded := by
  obtain ⟨_, ok', configures⟩ :=
    setBucketConfig_eq bounded (setBucketConfig_reads ok) config
  rw [ok] at ok'
  cases ok'
  exact configures.bounded

end TokenBucket

end RelaySettlement
