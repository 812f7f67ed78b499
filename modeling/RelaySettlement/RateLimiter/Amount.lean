import RelaySettlement.Evm.Answers
import RelaySettlement.RateLimiter.Bucket

/-!
# RelayAmountRateLimiter

One bucket per token id.  A request is granted when the refilled bucket covers it.  A
rejected request still stores a refill checkpoint, but refilling in two steps is
refilling in one, so checkpoints can be told apart by no later request.
-/

open Evm

namespace RelaySettlement

/-- The storage of the limiter. -/
structure AmountRateLimiter where
  hasRole : RateLimiter.Role → Address → Bool
  buckets : U256 → TokenBucket

/-- The functions of the limiter with their arguments.  `setRole` stands for any grant,
revocation or renunciation of a role. -/
inductive AmountRequest where
  | consume (tokenId amount : U256) (data : Bytes)
  | setBucketConfig (config : BucketConfig U256)
  | setBucketConfigs (configs : List (BucketConfig U256))
  | setRole (role : RateLimiter.Role) (account : Address) (granted : Bool)

/-- A call of the limiter. -/
structure AmountCall where
  msg : Msg
  request : AmountRequest

/-- Whether a call configures the bucket of a token id. -/
def AmountCall.Configures (call : AmountCall) (id : U256) : Prop :=
  match call.request with
  | .setBucketConfig config => config.key = id
  | .setBucketConfigs configs => ∃ config ∈ configs, config.key = id
  | _ => False

/-- What a call consumed of the bucket of a token id, given its answer. -/
def AmountCall.consumed (id : U256) (call : AmountCall)
    (answer : Except RateLimiter.Error (Option Bool)) : ℕ :=
  match call.request, answer with
  | .consume tokenId amount _, .ok (some true) => if tokenId = id then amount.toNat else 0
  | _, _ => 0

namespace AmountRateLimiter

open RateLimiter (Role Error)

/-- The limiter before any configuration. -/
def empty (roles : Role → Address → Bool) : AmountRateLimiter :=
  ⟨roles, fun _ => TokenBucket.empty⟩

/-- `onlyRole`. -/
def onlyRole (limiter : AmountRateLimiter) (msg : Msg) (role : Role) : Except Error Unit :=
  require (limiter.hasRole role msg.sender = true) (.unauthorizedAccount msg.sender role)

/-- `consume`.  A disabled bucket and a zero amount are rejected outright. -/
def consume (msg : Msg) (tokenId amount : U256) (_data : Bytes)
    (limiter : AmountRateLimiter) : Except Error (Bool × AmountRateLimiter) := do
  limiter.onlyRole msg .consumer
  if (limiter.buckets tokenId).isEnabled = false then
    return (false, limiter)
  else if amount = 0 then
    return (false, limiter)
  else
    let (consumed, bucket) ← (limiter.buckets tokenId).consume msg.timestamp amount
    return (consumed, { limiter with buckets := set limiter.buckets tokenId bucket })

/-- `_setBucketConfig`. -/
def internalSetBucketConfig (timestamp : U256) (config : BucketConfig U256)
    (limiter : AmountRateLimiter) : Except Error AmountRateLimiter := do
  let bucket ← (limiter.buckets config.key).setBucketConfig timestamp config
  return { limiter with buckets := set limiter.buckets config.key bucket }

/-- The loop of `setBucketConfigs`. -/
def internalSetBucketConfigs (timestamp : U256) :
    List (BucketConfig U256) → AmountRateLimiter → Except Error AmountRateLimiter
  | [], limiter => return limiter
  | config :: configs, limiter => do
      let limiter ← internalSetBucketConfig timestamp config limiter
      internalSetBucketConfigs timestamp configs limiter

/-- `setBucketConfig`. -/
def setBucketConfig (msg : Msg) (config : BucketConfig U256) (limiter : AmountRateLimiter) :
    Except Error AmountRateLimiter := do
  limiter.onlyRole msg .admin
  internalSetBucketConfig msg.timestamp config limiter

/-- `setBucketConfigs`. -/
def setBucketConfigs (msg : Msg) (configs : List (BucketConfig U256))
    (limiter : AmountRateLimiter) : Except Error AmountRateLimiter := do
  limiter.onlyRole msg .admin
  internalSetBucketConfigs msg.timestamp configs limiter

/-- Execute a call.  Only `consume` returns a value. -/
def exec (call : AmountCall) (limiter : AmountRateLimiter) :
    Except Error (Option Bool × AmountRateLimiter) :=
  match call.request with
  | .consume tokenId amount data => do
      let (consumed, limiter) ← consume call.msg tokenId amount data limiter
      return (some consumed, limiter)
  | .setBucketConfig config => do
      let limiter ← setBucketConfig call.msg config limiter
      return (none, limiter)
  | .setBucketConfigs configs => do
      let limiter ← setBucketConfigs call.msg configs limiter
      return (none, limiter)
  | .setRole role account granted =>
      return (none, { limiter with hasRole := set₂ limiter.hasRole role account granted })

end AmountRateLimiter

/-! ## Buckets that cannot be told apart -/

namespace TokenBucket

open RateLimiter (Error)

/-- What holds of every bucket of a run at a time. -/
structure Sound (now : ℕ) (bucket : TokenBucket) : Prop where
  bounded : bucket.Bounded
  past : bucket.lastUpdated.toNat ≤ now
  configured : bucket.isEnabled = true → bucket.lastUpdated ≠ 0

/-- No call from a time on can tell two buckets apart. -/
structure Alike (now : ℕ) (bucket bucket' : TokenBucket) : Prop where
  sound : bucket.Sound now
  sound' : bucket'.Sound now
  isEnabled : bucket'.isEnabled = bucket.isEnabled
  capacity : bucket'.capacity = bucket.capacity
  rate : bucket'.rate = bucket.rate
  new : bucket'.lastUpdated = 0 ↔ bucket.lastUpdated = 0
  available : bucket'.available now = bucket.available now

variable {bucket bucket' : TokenBucket} {now : ℕ}

/-- What is available later depends on what is available now. -/
theorem Sound.available_later (sound : bucket.Sound now) {later : ℕ} (ahead : now ≤ later) :
    bucket.available later =
      refill bucket.capacity.toNat bucket.rate.toNat (bucket.available now) (later - now) := by
  have past := sound.past
  rw [TokenBucket.available, TokenBucket.available, refill_refill]
  congr 1
  omega

/-- Waiting does not raise what can be consumed until a given time. -/
theorem Sound.budget_later (sound : bucket.Sound now) {later last : ℕ} (ahead : now ≤ later)
    (notAfter : later ≤ last) :
    bucket.available later + bucket.rate.toNat * (last - later) ≤
      bucket.available now + bucket.rate.toNat * (last - now) := by
  have accrued := refill_le_accrued bucket.capacity.toNat bucket.rate.toNat
    (bucket.available now) (later - now)
  rw [← sound.available_later ahead] at accrued
  have split : last - now = (later - now) + (last - later) := by omega
  rw [split, Nat.mul_add, Nat.mul_comm _ (later - now)]
  omega

theorem Sound.later (sound : bucket.Sound now) {later : ℕ} (ahead : now ≤ later) :
    bucket.Sound later :=
  ⟨sound.bounded, sound.past.trans ahead, sound.configured⟩

theorem Alike.later (alike : Alike now bucket bucket') {later : ℕ} (ahead : now ≤ later) :
    Alike later bucket bucket' where
  sound := alike.sound.later ahead
  sound' := alike.sound'.later ahead
  isEnabled := alike.isEnabled
  capacity := alike.capacity
  rate := alike.rate
  new := alike.new
  available := by
    rw [alike.sound'.available_later ahead, alike.sound.available_later ahead, alike.capacity,
      alike.rate, alike.available]

theorem Alike.refl (sound : bucket.Sound now) : Alike now bucket bucket :=
  ⟨sound, sound, rfl, rfl, rfl, Iff.rfl, rfl⟩

/-- A time in a run at which a bucket can be updated. -/
theorem Sound.reads {timestamp : U256} (sound : bucket.Sound timestamp.toNat)
    (inRange : timestamp.toNat < 2 ^ 32) : bucket.Reads timestamp :=
  ⟨sound.past, inRange⟩

theorem lastUpdated_ne_zero (positive : 0 < now)
    (updated : bucket.lastUpdated.toNat = now) : bucket.lastUpdated ≠ 0 := by
  intro zero
  rw [zero] at updated
  exact positive.ne updated

theorem Spends.sound {spent : ℕ} (spends : Spends now spent bucket bucket')
    (positive : 0 < now) : bucket'.Sound now :=
  ⟨spends.bounded, spends.lastUpdated.le,
    fun _ => lastUpdated_ne_zero positive spends.lastUpdated⟩

/-- Requests for the same amount have the same answer on two buckets that are alike, and
leave them alike.  A rejected one need not be made on the second bucket. -/
theorem Alike.consume {timestamp : U256} (alike : Alike timestamp.toNat bucket bucket')
    (positive : 0 < timestamp.toNat) (inRange : timestamp.toNat < 2 ^ 32)
    (isEnabled : bucket.isEnabled = true) (amount : U256) :
    ∃ granted after after', bucket.consume timestamp amount = .ok (granted, after) ∧
      bucket'.consume timestamp amount = .ok (granted, after') ∧
      Alike timestamp.toNat after after' ∧
      (granted = false → Alike timestamp.toNat after bucket') ∧
      Spends timestamp.toNat (if granted then amount.toNat else 0) bucket after := by
  obtain ⟨after, ok, spends⟩ :=
    consume_eq alike.sound.bounded (alike.sound.reads inRange) amount
  obtain ⟨after', ok', spends'⟩ :=
    consume_eq alike.sound'.bounded (alike.sound'.reads inRange) amount
  rw [alike.available] at ok' spends'
  have new := lastUpdated_ne_zero positive spends.lastUpdated
  have new' := lastUpdated_ne_zero positive spends'.lastUpdated
  have left := spends.available
  have left' := spends'.available
  rw [alike.available] at left'
  refine ⟨_, after, after', ok, ok', ?_, ?_, ?_⟩
  · constructor
    · exact spends.sound positive
    · exact spends'.sound positive
    · rw [spends'.isEnabled, spends.isEnabled, alike.isEnabled]
    · rw [spends'.capacity, spends.capacity, alike.capacity]
    · rw [spends'.rate, spends.rate, alike.rate]
    · simp only [new, new']
    · omega
  · intro rejected
    rw [if_neg (of_decide_eq_false rejected)] at left
    constructor
    · exact spends.sound positive
    · exact alike.sound'
    · rw [spends.isEnabled, alike.isEnabled]
    · rw [spends.capacity, alike.capacity]
    · rw [spends.rate, alike.rate]
    · rw [alike.new]
      simp only [new, alike.sound.configured isEnabled]
    · rw [alike.available]
      exact left.symm
  · simpa only [decide_eq_true_eq] using spends

/-- A configuration leaves buckets alike that are alike. -/
theorem Alike.setBucketConfig {α : Type} {timestamp : U256}
    (alike : Alike timestamp.toNat bucket bucket') (positive : 0 < timestamp.toNat)
    (inRange : timestamp.toNat < 2 ^ 32) (config : BucketConfig α) :
    ∃ after after', bucket.setBucketConfig timestamp config = .ok after ∧
      bucket'.setBucketConfig timestamp config = .ok after' ∧
      Alike timestamp.toNat after after' := by
  obtain ⟨after, ok, configures⟩ :=
    setBucketConfig_eq alike.sound.bounded (alike.sound.reads inRange) config
  obtain ⟨after', ok', configures'⟩ :=
    setBucketConfig_eq alike.sound'.bounded (alike.sound'.reads inRange) config
  have new := lastUpdated_ne_zero positive configures.lastUpdated
  have new' := lastUpdated_ne_zero positive configures'.lastUpdated
  have level := configures'.tokens
  simp only [alike.new, alike.available, ← configures.tokens] at level
  refine ⟨after, after', ok, ok', ?_⟩
  constructor
  · exact ⟨configures.bounded, configures.lastUpdated.le, fun _ => new⟩
  · exact ⟨configures'.bounded, configures'.lastUpdated.le, fun _ => new'⟩
  · rw [configures'.isEnabled, configures.isEnabled]
  · rw [configures'.capacity, configures.capacity]
  · rw [configures'.rate, configures.rate]
  · simp only [new, new']
  · rw [available_updated configures'.lastUpdated configures'.bounded,
      available_updated configures.lastUpdated configures.bounded, level]

end TokenBucket

namespace AmountRateLimiter

open RateLimiter (Error)

/-- No call from a time on can tell two limiters apart. -/
structure Alike (now : ℕ) (limiter limiter' : AmountRateLimiter) : Prop where
  hasRole : limiter'.hasRole = limiter.hasRole
  buckets : ∀ id, TokenBucket.Alike now (limiter.buckets id) (limiter'.buckets id)

/-- Two outcomes that only differ in indistinguishable limiters.  No other revert than
for a missing role occurs. -/
inductive Agree {α : Type} (now : ℕ) :
    Except Error (α × AmountRateLimiter) → Except Error (α × AmountRateLimiter) → Prop
  | ok (result : α) {next next' : AmountRateLimiter} (alike : Alike now next next') :
      Agree now (.ok (result, next)) (.ok (result, next'))
  | unauthorized (account : Address) (role : RateLimiter.Role) :
      Agree now (.error (.unauthorizedAccount account role))
        (.error (.unauthorizedAccount account role))

theorem Agree.map {α β : Type} {now : ℕ} (convert : α → β)
    {outcome outcome' : Except Error (α × AmountRateLimiter)}
    (agree : Agree now outcome outcome') :
    Agree now (do let (result, limiter) ← outcome; return (convert result, limiter))
      (do let (result, limiter) ← outcome'; return (convert result, limiter)) := by
  cases agree with
  | ok result alike => exact .ok (convert result) alike
  | unauthorized account role => exact .unauthorized account role

variable {limiter limiter' : AmountRateLimiter} {now : ℕ} {timestamp : U256}

theorem Alike.later (alike : Alike now limiter limiter') {later : ℕ} (ahead : now ≤ later) :
    Alike later limiter limiter' :=
  ⟨alike.hasRole, fun id => (alike.buckets id).later ahead⟩

theorem Alike.set (alike : Alike now limiter limiter') (id : U256)
    {bucket bucket' : TokenBucket} (same : TokenBucket.Alike now bucket bucket') :
    Alike now { limiter with buckets := Evm.set limiter.buckets id bucket }
      { limiter' with buckets := Evm.set limiter'.buckets id bucket' } where
  hasRole := alike.hasRole
  buckets := by
    intro other
    by_cases here : other = id
    · simpa only [set_apply, here, if_true] using same
    · simpa only [set_apply, here, if_false] using alike.buckets other

/-- What a bucket may be replaced by without anyone noticing. -/
theorem Alike.replace (alike : Alike now limiter limiter') {id : U256} {bucket : TokenBucket}
    (same : TokenBucket.Alike now bucket (limiter'.buckets id)) :
    Alike now { limiter with buckets := Evm.set limiter.buckets id bucket } limiter' := by
  simpa only [set_self] using alike.set id same

theorem onlyRole_eq (alike : Alike now limiter limiter') (msg : Msg)
    (role : RateLimiter.Role) : limiter'.onlyRole msg role = limiter.onlyRole msg role := by
  rw [onlyRole, onlyRole, alike.hasRole]

theorem onlyRole_cases (limiter : AmountRateLimiter) (msg : Msg) (role : RateLimiter.Role) :
    limiter.onlyRole msg role = .ok () ∨
      limiter.onlyRole msg role = .error (.unauthorizedAccount msg.sender role) := by
  unfold onlyRole require
  split
  · exact .inl rfl
  · exact .inr rfl

/-- The time of a call is positive and fits the packed field. -/
structure InRange (call : AmountCall) : Prop where
  positive : 0 < call.msg.timestamp.toNat
  below : call.msg.timestamp.toNat < 2 ^ 32

variable {call : AmountCall} {next : AmountRateLimiter} {calls : List AmountCall}

section Call

variable (valid : InRange call) (alike : Alike call.msg.timestamp.toNat limiter limiter')
include valid alike

theorem Alike.internalSetBucketConfigs (configs : List (BucketConfig U256)) :
    ∃ next next', internalSetBucketConfigs call.msg.timestamp configs limiter = .ok next ∧
      internalSetBucketConfigs call.msg.timestamp configs limiter' = .ok next' ∧
      Alike call.msg.timestamp.toNat next next' := by
  induction configs generalizing limiter limiter' with
  | nil => exact ⟨limiter, limiter', rfl, rfl, alike⟩
  | cons config configs ih =>
      obtain ⟨after, after', ok, ok', same⟩ :=
        (alike.buckets config.key).setBucketConfig valid.positive valid.below config
      obtain ⟨next, next', sets, sets', last⟩ := ih (alike.set config.key same)
      refine ⟨next, next', ?_, ?_, last⟩
      · simpa only [AmountRateLimiter.internalSetBucketConfigs, internalSetBucketConfig, ok,
          bind, Except.bind, pure, Except.pure] using sets
      · simpa only [AmountRateLimiter.internalSetBucketConfigs, internalSetBucketConfig, ok',
          bind, Except.bind, pure, Except.pure] using sets'

/-- Requests on limiters that are alike agree.  A rejected one need not be made on the
second limiter. -/
theorem Alike.consume (tokenId amount : U256) (data : Bytes) :
    Agree call.msg.timestamp.toNat
        (AmountRateLimiter.consume call.msg tokenId amount data limiter)
        (AmountRateLimiter.consume call.msg tokenId amount data limiter') ∧
      ∀ next,
        AmountRateLimiter.consume call.msg tokenId amount data limiter = .ok (false, next) →
        Alike call.msg.timestamp.toNat next limiter' := by
  rcases limiter.onlyRole_cases call.msg .consumer with permitted | refused
  · simp only [AmountRateLimiter.consume, onlyRole_eq alike, permitted, bind, Except.bind,
      (alike.buckets tokenId).isEnabled]
    cases isEnabled : (limiter.buckets tokenId).isEnabled with
    | false =>
        simp only [if_true, pure, Except.pure]
        refine ⟨.ok false alike, ?_⟩
        intro next unchanged
        cases unchanged
        exact alike
    | true =>
        by_cases nothing : amount = 0
        · simp only [Bool.true_eq_false, if_false, if_pos nothing, pure, Except.pure]
          refine ⟨.ok false alike, ?_⟩
          intro next unchanged
          cases unchanged
          exact alike
        · obtain ⟨granted, after, after', ok, ok', same, skipped, _⟩ :=
            (alike.buckets tokenId).consume valid.positive valid.below isEnabled amount
          simp only [Bool.true_eq_false, if_false, if_neg nothing, ok, ok', pure, Except.pure]
          refine ⟨.ok granted (alike.set tokenId same), ?_⟩
          intro next rejected
          cases rejected
          exact alike.replace (skipped rfl)
  · simp only [AmountRateLimiter.consume, onlyRole_eq alike, refused, bind, Except.bind]
    refine ⟨.unauthorized call.msg.sender .consumer, ?_⟩
    intro next ok
    cases ok

omit valid alike in
theorem setBucketConfig_eq_configs (msg : Msg) (config : BucketConfig U256)
    (limiter : AmountRateLimiter) :
    setBucketConfig msg config limiter = setBucketConfigs msg [config] limiter := by
  simp [setBucketConfig, setBucketConfigs, internalSetBucketConfigs]

/-- Calls on limiters that are alike agree. -/
theorem exec_agree :
    Agree call.msg.timestamp.toNat (exec call limiter) (exec call limiter') := by
  have configs_agree : ∀ configs : List (BucketConfig U256),
      Agree call.msg.timestamp.toNat
        (do let limiter ← setBucketConfigs call.msg configs limiter
            return ((none : Option Bool), limiter))
        (do let limiter ← setBucketConfigs call.msg configs limiter'
            return ((none : Option Bool), limiter)) := by
    intro configs
    rcases limiter.onlyRole_cases call.msg .admin with permitted | refused
    · obtain ⟨next, next', sets, sets', last⟩ :=
        alike.internalSetBucketConfigs valid configs
      simp only [setBucketConfigs, onlyRole_eq alike, permitted, bind, Except.bind, sets, sets']
      exact .ok none last
    · simp only [setBucketConfigs, onlyRole_eq alike, refused, bind, Except.bind]
      exact .unauthorized call.msg.sender .admin
  cases request : call.request with
  | consume tokenId amount data =>
      simp only [exec, request]
      exact (alike.consume valid tokenId amount data).1.map some
  | setBucketConfig config =>
      simp only [exec, request, setBucketConfig_eq_configs]
      exact configs_agree [config]
  | setBucketConfigs configs =>
      simp only [exec, request]
      exact configs_agree configs
  | setRole role account granted =>
      simp only [exec, request]
      refine .ok none ⟨?_, alike.buckets⟩
      rw [alike.hasRole]

/-- A rejected request leaves the limiter indistinguishable from what it was. -/
theorem exec_rejected (rejected : exec call limiter = .ok (some false, next)) :
    Alike call.msg.timestamp.toNat next limiter' := by
  cases request : call.request with
  | consume tokenId amount data =>
      simp only [exec, request, bind_eq_ok, pure_eq_ok, Prod.mk.injEq, Option.some.injEq]
        at rejected
      obtain ⟨⟨consumed, last⟩, consumes, rfl, rfl⟩ := rejected
      exact (alike.consume valid tokenId amount data).2 last consumes
  | setBucketConfig | setBucketConfigs | setRole => simp [exec, request] at rejected

end Call

/-! ## What one bucket grants -/

theorem internalSetBucketConfigs_other {configs : List (BucketConfig U256)} {id : U256}
    (other : ¬ ∃ config ∈ configs, config.key = id)
    (ok : internalSetBucketConfigs timestamp configs limiter = .ok next) :
    next.buckets id = limiter.buckets id := by
  induction configs generalizing limiter with
  | nil =>
      cases ok
      rfl
  | cons config configs ih =>
      simp only [internalSetBucketConfigs, internalSetBucketConfig, bind_eq_ok,
        pure_eq_ok] at ok
      obtain ⟨_, ⟨bucket, _, rfl⟩, sets⟩ := ok
      simp only [List.mem_cons, exists_eq_or_imp, not_or] at other
      rw [ih other.2 sets]
      exact if_neg (Ne.symm other.1)

theorem consume_ok {msg : Msg} {tokenId amount : U256} {data : Bytes} {granted : Bool}
    (ok : consume msg tokenId amount data limiter = .ok (granted, next)) :
    (granted = false ∧ next = limiter) ∨
      (limiter.buckets tokenId).isEnabled = true ∧
        ∃ after, (limiter.buckets tokenId).consume msg.timestamp amount =
            .ok (granted, after) ∧
          next = { limiter with buckets := Evm.set limiter.buckets tokenId after } := by
  simp only [consume, bind_eq_ok] at ok
  obtain ⟨_, _, decides⟩ := ok
  split at decides
  next =>
    cases decides
    exact .inl ⟨rfl, rfl⟩
  next isEnabled =>
    split at decides
    next =>
      cases decides
      exact .inl ⟨rfl, rfl⟩
    next =>
      simp only [bind_eq_ok, pure_eq_ok, Prod.mk.injEq] at decides
      obtain ⟨⟨_, after⟩, ok, rfl, rfl⟩ := decides
      exact .inr ⟨Bool.eq_true_of_not_eq_false isEnabled, after, ok, rfl⟩

/-- A call that does not configure a bucket takes out of it what it consumes. -/
theorem exec_consumes {answer : Option Bool} {id : U256} (valid : InRange call)
    (alike : Alike call.msg.timestamp.toNat limiter limiter)
    (ok : exec call limiter = .ok (answer, next)) (unconfigured : ¬ call.Configures id) :
    (next.buckets id).capacity = (limiter.buckets id).capacity ∧
      (next.buckets id).rate = (limiter.buckets id).rate ∧
      call.consumed id (.ok answer) + (next.buckets id).available call.msg.timestamp.toNat =
        (limiter.buckets id).available call.msg.timestamp.toNat := by
  have configs_other : ∀ configs : List (BucketConfig U256),
      (¬ ∃ config ∈ configs, config.key = id) →
      setBucketConfigs call.msg configs limiter = .ok next →
      next.buckets id = limiter.buckets id := by
    intro configs other sets
    simp only [setBucketConfigs, bind_eq_ok] at sets
    exact internalSetBucketConfigs_other other sets.choose_spec.2
  cases request : call.request with
  | consume tokenId amount data =>
      simp only [exec, request, bind_eq_ok, pure_eq_ok, Prod.mk.injEq] at ok
      obtain ⟨⟨granted, last⟩, consumes, rfl, rfl⟩ := ok
      rcases consume_ok consumes with ⟨rejected, same⟩ | ⟨isEnabled, after, ok, isNext⟩
      · rw [same, rejected]
        simp [AmountCall.consumed, request]
      · obtain ⟨_, _, _, ok', _, _, _, spends⟩ :=
          (alike.buckets tokenId).consume valid.positive valid.below isEnabled amount
        rw [ok] at ok'
        cases ok'
        rw [isNext]
        by_cases here : id = tokenId
        · simp only [set_apply, here, if_true]
          refine ⟨spends.capacity, spends.rate, ?_⟩
          rw [Nat.add_comm, ← spends.available]
          cases granted <;> simp [AmountCall.consumed, request]
        · simp only [set_apply, here, if_false]
          cases granted <;> simp [AmountCall.consumed, request, Ne.symm here]
  | setBucketConfig config =>
      simp only [exec, request, setBucketConfig_eq_configs, bind_eq_ok, pure_eq_ok,
        Prod.mk.injEq] at ok
      simp only [AmountCall.Configures, request] at unconfigured
      obtain ⟨_, sets, rfl, rfl⟩ := ok
      rw [configs_other [config] (by simpa using unconfigured) sets]
      simp [AmountCall.consumed, request]
  | setBucketConfigs configs =>
      simp only [exec, request, bind_eq_ok, pure_eq_ok, Prod.mk.injEq] at ok
      simp only [AmountCall.Configures, request] at unconfigured
      obtain ⟨_, sets, rfl, rfl⟩ := ok
      rw [configs_other configs unconfigured sets]
      simp [AmountCall.consumed, request]
  | setRole role account granted =>
      simp only [exec, request, pure_eq_ok, Prod.mk.injEq] at ok
      obtain ⟨rfl, rfl⟩ := ok
      simp [AmountCall.consumed, request]

/-! ## Runs -/

/-- One step of the limiter. -/
abbrev step : AmountCall → AmountRateLimiter → Except Error AmountRateLimiter := stepOf exec

/-- What a list of calls consumed of the bucket of a token id. -/
def totalConsumed (id : U256) (calls : List AmountCall) (limiter : AmountRateLimiter) : ℕ :=
  ((calls.zip (answers exec calls limiter)).map fun (call, answer) =>
    call.consumed id answer).sum

theorem totalConsumed_cons (id : U256) (call : AmountCall) (calls : List AmountCall)
    (limiter : AmountRateLimiter) :
    totalConsumed id (call :: calls) limiter =
      call.consumed id (answer exec call limiter) +
        totalConsumed id calls (attempt step call limiter) := by
  rw [totalConsumed, answers, List.zip_cons_cons, List.map_cons, List.sum_cons]
  rfl

/-- A rejected request. -/
def rejected : Except Error (Option Bool) → Bool
  | .ok (some false) => true
  | _ => false

theorem attempt_alike (valid : InRange call) (alike : Alike now limiter limiter')
    (ahead : now ≤ call.msg.timestamp.toNat) :
    answer exec call limiter = answer exec call limiter' ∧
      Alike call.msg.timestamp.toNat (attempt step call limiter)
        (attempt step call limiter') := by
  have agree := exec_agree valid (alike.later ahead)
  generalize outcome : exec call limiter = result at agree
  generalize outcome' : exec call limiter' = result' at agree
  cases agree with
  | ok answer last =>
      rw [answer_ok outcome, answer_ok outcome', attempt_ok (stepOf_ok outcome),
        attempt_ok (stepOf_ok outcome')]
      exact ⟨rfl, last⟩
  | unauthorized account role =>
      rw [answer_error outcome, answer_error outcome', attempt_error (stepOf_error outcome),
        attempt_error (stepOf_error outcome')]
      exact ⟨rfl, alike.later ahead⟩

theorem answer_cases (valid : InRange call) (alike : Alike now limiter limiter)
    (ahead : now ≤ call.msg.timestamp.toNat) :
    (∃ result, answer exec call limiter = .ok result) ∨
      ∃ account role, answer exec call limiter = .error (.unauthorizedAccount account role) := by
  have agree := exec_agree valid (alike.later ahead)
  generalize outcome : exec call limiter = result at agree
  cases agree with
  | ok answer last => exact .inl ⟨answer, answer_ok outcome⟩
  | unauthorized account role => exact .inr ⟨account, role, answer_error outcome⟩

theorem attempt_rejected (valid : InRange call) (alike : Alike now limiter limiter')
    (ahead : now ≤ call.msg.timestamp.toNat)
    (isRejected : rejected (answer exec call limiter) = true) :
    Alike call.msg.timestamp.toNat (attempt step call limiter) limiter' := by
  cases outcome : exec call limiter with
  | error error =>
      rw [answer_error outcome] at isRejected
      cases isRejected
  | ok result =>
      obtain ⟨result, next⟩ := result
      rw [answer_ok outcome] at isRejected
      rw [attempt_ok (stepOf_ok outcome)]
      match result, isRejected with
      | some false, _ => exact exec_rejected valid (alike.later ahead) outcome

/-- The calls of a run in the order of their times, none before a given time. -/
structure Ordered (now : ℕ) (calls : List AmountCall) : Prop where
  ordered : calls.Pairwise fun call later =>
    call.msg.timestamp.toNat ≤ later.msg.timestamp.toNat
  inRange : ∀ call ∈ calls, InRange call
  notBefore : ∀ call ∈ calls, now ≤ call.msg.timestamp.toNat

theorem Ordered.tail (ordered : Ordered now (call :: calls)) :
    Ordered call.msg.timestamp.toNat calls where
  ordered := (List.pairwise_cons.mp ordered.ordered).2
  inRange := fun later member => ordered.inRange later (List.mem_cons_of_mem call member)
  notBefore := (List.pairwise_cons.mp ordered.ordered).1

theorem Ordered.initial {first second : List AmountCall}
    (ordered : Ordered now (first ++ second)) : Ordered now first where
  ordered := (List.pairwise_append.mp ordered.ordered).1
  inRange := fun call member => ordered.inRange call (List.mem_append_left second member)
  notBefore := fun call member => ordered.notBefore call (List.mem_append_left second member)

/-- After a run, the calls that follow are not before any call of the run. -/
theorem Ordered.rest {first second : List AmountCall}
    (ordered : Ordered now (first ++ call :: second)) :
    Ordered call.msg.timestamp.toNat (call :: second) ∧
      ∀ earlier ∈ first, earlier.msg.timestamp.toNat ≤ call.msg.timestamp.toNat := by
  obtain ⟨_, later, across⟩ := List.pairwise_append.mp ordered.ordered
  refine ⟨⟨later, ?_, ?_⟩, ?_⟩
  · exact fun other member => ordered.inRange other (List.mem_append_right first member)
  · intro other member
    rcases List.mem_cons.mp member with rfl | member
    · exact Nat.le_refl _
    · exact (List.pairwise_cons.mp later).1 other member
  · exact fun earlier member => across earlier member call (List.mem_cons_self ..)

/-- A limiter stays sound over a run. -/
theorem run_alike (ordered : Ordered now calls) (alike : Alike now limiter limiter) {later : ℕ}
    (ahead : now ≤ later) (notAfter : ∀ call ∈ calls, call.msg.timestamp.toNat ≤ later) :
    Alike later (run step calls limiter) (run step calls limiter) := by
  induction calls generalizing now limiter with
  | nil => exact alike.later ahead
  | cons call calls ih =>
      simp only [List.mem_cons, forall_eq_or_imp] at notAfter
      have here := ordered.notBefore call (List.mem_cons_self ..)
      have valid := ordered.inRange call (List.mem_cons_self ..)
      exact ih ordered.tail (attempt_alike valid alike here).2 notAfter.1 notAfter.2

theorem answers_cases (ordered : Ordered now calls) (alike : Alike now limiter limiter) :
    ∀ answer ∈ answers exec calls limiter, (∃ result, answer = .ok result) ∨
      ∃ account role, answer = .error (.unauthorizedAccount account role) := by
  induction calls generalizing now limiter with
  | nil => simp [answers]
  | cons call calls ih =>
      have here := ordered.notBefore call (List.mem_cons_self ..)
      have valid := ordered.inRange call (List.mem_cons_self ..)
      simp only [answers, List.mem_cons, forall_eq_or_imp]
      exact ⟨answer_cases valid alike here,
        ih ordered.tail (attempt_alike valid alike here).2⟩

/-- What is consumed was available at first or accrued since. -/
theorem totalConsumed_le {id : U256} {last : ℕ} (ordered : Ordered now calls)
    (alike : Alike now limiter limiter) (notAfter : ∀ call ∈ calls, call.msg.timestamp.toNat ≤ last)
    (unconfigured : ∀ success ∈ trace step calls limiter, ¬ success.call.Configures id) :
    totalConsumed id calls limiter ≤ (limiter.buckets id).available now +
      (limiter.buckets id).rate.toNat * (last - now) := by
  induction calls generalizing now limiter with
  | nil => exact Nat.zero_le _
  | cons call calls ih =>
      simp only [List.mem_cons, forall_eq_or_imp] at notAfter
      have here := ordered.notBefore call (List.mem_cons_self ..)
      have valid := ordered.inRange call (List.mem_cons_self ..)
      have budget := (alike.buckets id).sound.budget_later here notAfter.1
      have kept := (attempt_alike valid alike here).2
      rw [totalConsumed_cons]
      cases outcome : exec call limiter with
      | error error =>
          have reverts := stepOf_error outcome
          rw [attempt_error reverts] at kept ⊢
          simp only [trace, reverts] at unconfigured
          have rest := ih ordered.tail kept notAfter.2 unconfigured
          have nothing : call.consumed id (answer exec call limiter) = 0 := by
            rw [answer_error outcome]
            cases request : call.request <;> simp [AmountCall.consumed, request]
          omega
      | ok result =>
          obtain ⟨result, next⟩ := result
          have succeeds := stepOf_ok outcome
          rw [attempt_ok succeeds] at kept ⊢
          simp only [trace, succeeds, List.mem_cons, forall_eq_or_imp] at unconfigured
          have rest := ih ordered.tail kept notAfter.2 unconfigured.2
          obtain ⟨_, rate, taken⟩ :=
            exec_consumes valid (alike.later here) outcome unconfigured.1
          rw [rate] at rest
          rw [answer_ok outcome]
          omega

end AmountRateLimiter

open AmountRateLimiter

/-- For every run of calls in the order of their times, between 1 and 2 ^ 32 - 1: the
level of every bucket stays within its capacity; in every stretch of the run in which the
bucket of a token id is not configured, at most its capacity plus what accrues in the
stretch is consumed of it; calls revert for a missing role only; and leaving out all
rejected requests changes no other answer. -/
theorem amount_limiter_window (roles : RateLimiter.Role → Address → Bool)
    (calls : List AmountCall)
    (ordered : calls.Pairwise fun call later =>
      call.msg.timestamp.toNat ≤ later.msg.timestamp.toNat)
    (inRange : ∀ call ∈ calls,
      0 < call.msg.timestamp.toNat ∧ call.msg.timestamp.toNat < 2 ^ 32) :
    (∀ first second, calls = first ++ second → ∀ id,
      ((run step first (empty roles)).buckets id).tokens ≤
        ((run step first (empty roles)).buckets id).capacity) ∧
    (∀ first stretch second, calls = first ++ stretch ++ second → ∀ id start finish,
      (∀ call ∈ stretch,
        start ≤ call.msg.timestamp.toNat ∧ call.msg.timestamp.toNat ≤ finish) →
      (∀ success ∈ trace step stretch (run step first (empty roles)),
        ¬ success.call.Configures id) →
      totalConsumed id stretch (run step first (empty roles)) ≤
        ((run step first (empty roles)).buckets id).capacity.toNat +
          ((run step first (empty roles)).buckets id).rate.toNat * (finish - start)) ∧
    (∀ answer ∈ answers exec calls (empty roles), (∃ result, answer = .ok result) ∨
      ∃ account role, answer = .error (.unauthorizedAccount account role)) ∧
    answers exec (visibleCalls exec rejected calls (empty roles)) (empty roles) =
      (answers exec calls (empty roles)).filter fun result => !rejected result := by
  have whole : Ordered 0 calls :=
    ⟨ordered, fun call member => ⟨(inRange call member).1, (inRange call member).2⟩,
      fun _ _ => Nat.zero_le _⟩
  have deployed : Alike 0 (empty roles) (empty roles) := by
    refine ⟨rfl, fun id => .refl ⟨?_, ?_, ?_⟩⟩
    · exact Nat.le_refl 0
    · exact Nat.le_refl 0
    · intro isEnabled
      cases isEnabled
  refine ⟨?_, ?_, answers_cases whole deployed, ?_⟩
  · rintro first second rfl id
    have sound := run_alike whole.initial deployed (Nat.zero_le _)
      fun call member => ((inRange call (List.mem_append_left second member)).2).le
    exact BitVec.le_def.mpr (sound.buckets id).sound.bounded
  · rintro first stretch second rfl id start finish within unconfigured
    cases stretch with
    | nil => exact Nat.zero_le _
    | cons call calls =>
        obtain ⟨rest, notAfter⟩ := whole.initial.rest
        have sound := run_alike whole.initial.initial deployed (Nat.zero_le _) notAfter
        have consumed := totalConsumed_le rest sound (fun later member => (within later member).2)
          unconfigured
        have full := TokenBucket.available_le_capacity
          ((run step first (empty roles)).buckets id) call.msg.timestamp.toNat
        have accrued := Nat.mul_le_mul_left
          ((run step first (empty roles)).buckets id).rate.toNat
          (Nat.sub_le_sub_left (within call (List.mem_cons_self ..)).1 finish)
        omega
  · exact answers_visibleCalls rejected (fun call => call.msg.timestamp.toNat) InRange Alike
      (fun _ _ _ _ alike ahead valid => attempt_alike valid alike ahead)
      (fun _ _ _ _ alike ahead valid => attempt_rejected valid alike ahead)
      calls ordered whole.inRange whole.notBefore deployed

namespace SampleBucket

/-- Account 1 configures token 7 with capacity 100 and rate 10 and consumes 80, then 50,
which is rejected, then 40. -/
def calls : List AmountCall :=
  [⟨⟨1, 5⟩, .setBucketConfig ⟨7, true, 100, 10⟩⟩, ⟨⟨1, 6⟩, .consume 7 80 []⟩,
    ⟨⟨1, 7⟩, .consume 7 50 []⟩, ⟨⟨1, 8⟩, .consume 7 40 []⟩]

end SampleBucket

theorem amount_limiter_window_sample :
    answers exec SampleBucket.calls (empty fun _ _ => true) =
        [.ok none, .ok (some true), .ok (some false), .ok (some true)] ∧
      ((run step SampleBucket.calls (empty fun _ _ => true)).buckets 7).tokens ≤
        ((run step SampleBucket.calls (empty fun _ _ => true)).buckets 7).capacity :=
  ⟨by decide +kernel,
    (amount_limiter_window (fun _ _ => true) SampleBucket.calls (by decide) (by decide)).1
      SampleBucket.calls [] (List.append_nil _).symm 7⟩

end RelaySettlement
