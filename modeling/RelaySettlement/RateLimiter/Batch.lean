import RelaySettlement.RateLimiter.Usd

/-!
# The batch pre-check

The requests of a batch, made one after another at one time, are all granted exactly when
each has a value and the values together are available.  The batch pre-check decides the
same, as long as the sum of the values does not overflow.
-/

open Evm

namespace RelaySettlement

namespace UsdRateLimiter

open RateLimiter (Error)

variable {χ : Type} {env : UsdRateLimiterEnv χ} {limiter : UsdRateLimiter}

/-! ## Levels stay within capacities -/

/-- The level of every bucket is within its capacity. -/
def Bounded (limiter : UsdRateLimiter) : Prop :=
  ∀ key, (limiter.chainBuckets key).Bounded

theorem Bounded.set {bucket : TokenBucket} (bounded : limiter.Bounded)
    (isBounded : bucket.Bounded) (key : Bytes32) :
    Bounded { limiter with chainBuckets := Evm.set limiter.chainBuckets key bucket } := by
  intro other
  by_cases here : other = key
  · simpa only [set_apply, here, if_true] using isBounded
  · simpa only [set_apply, here, if_false] using bounded other

variable {next : UsdRateLimiter} {pair : U256 × U256} {pairs : List (U256 × U256)}

theorem consume_cases {ctx : Ctx χ} {tokenId amount : U256} {data : Bytes} {granted : Bool}
    (ok : consume env ctx tokenId amount data limiter = .ok (granted, next)) :
    next = limiter ∨ ∃ key usdValue after,
      (limiter.chainBuckets key).consume ctx.timestamp usdValue = .ok (granted, after) ∧
        next = { limiter with chainBuckets := Evm.set limiter.chainBuckets key after } := by
  simp only [consume, bind_eq_ok] at ok
  obtain ⟨_, _, chainId, _, decides⟩ := ok
  split at decides
  · cases decides
    exact .inl rfl
  · split at decides
    · cases decides
      exact .inl rfl
    · simp only [bind_eq_ok] at decides
      obtain ⟨usdValue, _, decides⟩ := decides
      split at decides
      · cases decides
        exact .inl rfl
      · simp only [bind_eq_ok, pure_eq_ok, Prod.mk.injEq] at decides
        obtain ⟨⟨_, after⟩, consumes, rfl, rfl⟩ := decides
        exact .inr ⟨_, usdValue, after, consumes, rfl⟩

theorem internalSetBucketConfigs_bounded {ctx : Ctx χ} {configs : List (BucketConfig Bytes)}
    (bounded : limiter.Bounded) (ok : internalSetBucketConfigs env ctx configs limiter = .ok next) :
    next.Bounded := by
  induction configs generalizing limiter with
  | nil =>
      cases ok
      exact bounded
  | cons config configs ih =>
      simp only [internalSetBucketConfigs, internalSetBucketConfig, bind_eq_ok,
        pure_eq_ok] at ok
      obtain ⟨_, ⟨bucket, configures, rfl⟩, sets⟩ := ok
      exact ih (bounded.set (TokenBucket.setBucketConfig_bounded (bounded _) configures) _) sets

theorem step_bounded {call : UsdCall χ} (bounded : limiter.Bounded)
    (ok : step env call limiter = .ok next) : next.Bounded := by
  obtain ⟨answer, executes⟩ := stepOf_eq_ok.mp ok
  cases request : call.request with
  | consume tokenId amount data =>
      simp only [exec, request, bind_eq_ok, pure_eq_ok, Prod.mk.injEq] at executes
      obtain ⟨⟨granted, last⟩, consumes, _, rfl⟩ := executes
      rcases consume_cases consumes with rfl | ⟨key, usdValue, after, spends, rfl⟩
      · exact bounded
      · exact bounded.set (TokenBucket.consume_bounded (bounded key) spends) key
  | setBucketConfig config =>
      simp only [exec, request, setBucketConfig, internalSetBucketConfig, bind_eq_ok, pure_eq_ok,
        Prod.mk.injEq] at executes
      obtain ⟨_, ⟨_, _, bucket, configures, rfl⟩, _, rfl⟩ := executes
      exact bounded.set (TokenBucket.setBucketConfig_bounded (bounded _) configures) _
  | setBucketConfigs configs =>
      simp only [exec, request, setBucketConfigs, bind_eq_ok, pure_eq_ok, Prod.mk.injEq] at executes
      obtain ⟨_, ⟨_, _, configures⟩, _, rfl⟩ := executes
      exact internalSetBucketConfigs_bounded bounded configures
  | setRole role account granted =>
      simp only [exec, request, pure_eq_ok, Prod.mk.injEq] at executes
      obtain ⟨_, rfl⟩ := executes
      exact bounded

theorem run_bounded (roles : RateLimiter.Role → Address → Bool) (calls : List (UsdCall χ)) :
    (run (step env) calls (empty roles)).Bounded := by
  apply run_invariant Bounded (fun _ _ _ bounded ok => step_bounded bounded ok)
  intro key
  exact Nat.le_refl 0

/-! ## Values -/

variable (env) in
/-- The USD value of a request, zero when it cannot be priced. -/
def valueOf (ctx : Ctx χ) (pair : U256 × U256) : ℕ :=
  if pair.2 = 0 then 0
  else match toUsdValue env ctx pair.1 pair.2 with
    | .ok usdValue => usdValue.toNat
    | .error _ => 0

variable (env) in
/-- The price oracle prices a request, and its value does not overflow. -/
def Priced (ctx : Ctx χ) (pair : U256 × U256) : Prop :=
  ∃ usdValue, toUsdValue env ctx pair.1 pair.2 = .ok usdValue

/-- The sum of the values of a batch. -/
def totalValue (env : UsdRateLimiterEnv χ) (ctx : Ctx χ) (pairs : List (U256 × U256)) : ℕ :=
  (pairs.map (valueOf env ctx)).sum

variable {ctx : Ctx χ}

/-- A request of value zero is one of a zero amount, or is priced at zero. -/
theorem Priced.zero (priced : Priced env ctx pair) (isZero : valueOf env ctx pair = 0) :
    pair.2 = 0 ∨ pair.2 ≠ 0 ∧ toUsdValue env ctx pair.1 pair.2 = .ok 0 := by
  by_cases nothing : pair.2 = 0
  · exact .inl nothing
  · obtain ⟨usdValue, isValue⟩ := priced
    simp only [valueOf, if_neg nothing, isValue] at isZero
    have zero : usdValue = 0 := BitVec.eq_of_toNat_eq isZero
    rw [zero] at isValue
    exact .inr ⟨nothing, isValue⟩

theorem Priced.nonzero (priced : Priced env ctx pair) (nonzero : valueOf env ctx pair ≠ 0) :
    pair.2 ≠ 0 ∧ ∃ usdValue, toUsdValue env ctx pair.1 pair.2 = .ok usdValue ∧
      usdValue ≠ 0 ∧ valueOf env ctx pair = usdValue.toNat := by
  by_cases nothing : pair.2 = 0
  · exact absurd (if_pos nothing) nonzero
  · obtain ⟨usdValue, isValue⟩ := priced
    have value : valueOf env ctx pair = usdValue.toNat := by
      simp only [valueOf, if_neg nothing, isValue]
    refine ⟨nothing, usdValue, isValue, ?_, value⟩
    rintro rfl
    exact nonzero value

theorem Priced.value_lt (priced : Priced env ctx pair) : valueOf env ctx pair < 2 ^ 256 := by
  by_cases isZero : valueOf env ctx pair = 0
  · rw [isZero]
    decide
  · obtain ⟨_, usdValue, _, _, value⟩ := priced.nonzero isZero
    rw [value]
    exact usdValue.isLt

/-! ## The sum of a batch -/

theorem sumValues_zero (pairs : List (U256 × U256)) (total : U256) (priced : Priced env ctx pair)
    (isZero : valueOf env ctx pair = 0) : sumValues env ctx (pair :: pairs) total = .ok none := by
  obtain ⟨tokenId, amount⟩ := pair
  rcases priced.zero isZero with nothing | ⟨something, isValue⟩
  · rw [sumValues, if_pos nothing]
    rfl
  · rw [sumValues, if_neg something, isValue]
    rfl

theorem sumValues_nonzero (pairs : List (U256 × U256)) (total : U256) (priced : Priced env ctx pair)
    (nonzero : valueOf env ctx pair ≠ 0) :
    ∃ usdValue : U256, usdValue.toNat = valueOf env ctx pair ∧
      sumValues env ctx (pair :: pairs) total =
        (do let total ← checkedAdd .arithmeticPanic total usdValue
            sumValues env ctx pairs total) := by
  obtain ⟨tokenId, amount⟩ := pair
  obtain ⟨something, usdValue, isValue, notZero, value⟩ := priced.nonzero nonzero
  refine ⟨usdValue, value.symm, ?_⟩
  rw [sumValues, if_neg something, isValue]
  simp only [bind, Except.bind, if_neg notZero]

theorem totalValue_cons (pair : U256 × U256) (pairs : List (U256 × U256)) :
    totalValue env ctx (pair :: pairs) =
      valueOf env ctx pair + totalValue env ctx pairs := by
  rw [totalValue, List.map_cons, List.sum_cons]
  rfl

theorem totalValue_perm {reordered : List (U256 × U256)} (perm : reordered.Perm pairs) :
    totalValue env ctx reordered = totalValue env ctx pairs :=
  (perm.map _).sum_eq

/-- Without overflow the loop adds up all values, or finds one that is zero. -/
theorem sumValues_eq (priced : ∀ pair ∈ pairs, Priced env ctx pair) (total : U256)
    (inRange : total.toNat + totalValue env ctx pairs < 2 ^ 256) :
    (∃ pair ∈ pairs, valueOf env ctx pair = 0) ∧
        sumValues env ctx pairs total = .ok none ∨
      (∀ pair ∈ pairs, valueOf env ctx pair ≠ 0) ∧
        ∃ sum, sumValues env ctx pairs total = .ok (some sum) ∧
          sum.toNat = total.toNat + totalValue env ctx pairs := by
  induction pairs generalizing total with
  | nil => exact .inr ⟨by simp, total, rfl, rfl⟩
  | cons pair pairs ih =>
      simp only [List.mem_cons, forall_eq_or_imp, exists_eq_or_imp] at priced ⊢
      rw [totalValue_cons] at inRange ⊢
      by_cases isZero : valueOf env ctx pair = 0
      · exact .inl ⟨.inl isZero, sumValues_zero pairs total priced.1 isZero⟩
      · obtain ⟨usdValue, value, unfolds⟩ := sumValues_nonzero pairs total priced.1 isZero
        have adds : checkedAdd Error.arithmeticPanic total usdValue =
            .ok (total + usdValue) := by
          rw [checkedAdd, if_pos (by omega)]
        have sum := checkedAdd_eq_ok.mp adds
        simp only [adds, bind, Except.bind] at unfolds
        rw [unfolds]
        rcases ih priced.2 (total + usdValue) (by omega) with
          ⟨someZero, rest⟩ | ⟨noneZero, last, rest, isSum⟩
        · exact .inl ⟨.inr someZero, rest⟩
        · exact .inr ⟨⟨isZero, noneZero⟩, last, rest, by omega⟩

/-- A sum the loop returns is the sum of the values. -/
theorem sumValues_some {total sum : U256} (priced : ∀ pair ∈ pairs, Priced env ctx pair)
    (ok : sumValues env ctx pairs total = .ok (some sum)) :
    sum.toNat = total.toNat + totalValue env ctx pairs := by
  induction pairs generalizing total with
  | nil =>
      cases ok
      rfl
  | cons pair pairs ih =>
      simp only [List.mem_cons, forall_eq_or_imp] at priced
      by_cases isZero : valueOf env ctx pair = 0
      · rw [sumValues_zero pairs total priced.1 isZero] at ok
        cases ok
      · obtain ⟨usdValue, value, unfolds⟩ := sumValues_nonzero pairs total priced.1 isZero
        simp only [unfolds, bind_eq_ok, checkedAdd_eq_ok] at ok
        obtain ⟨next, adds, rest⟩ := ok
        rw [ih priced.2 rest, totalValue_cons, adds, value]
        omega

/-- Values that together exceed the word size make the loop revert. -/
theorem sumValues_overflow (rest : List (U256 × U256))
    (priced : ∀ pair ∈ pairs, Priced env ctx pair)
    (nonzero : ∀ pair ∈ pairs, valueOf env ctx pair ≠ 0) (total : U256)
    (overflow : 2 ^ 256 ≤ total.toNat + totalValue env ctx pairs) :
    sumValues env ctx (pairs ++ rest) total = .error .arithmeticPanic := by
  induction pairs generalizing total with
  | nil =>
      have bound := total.isLt
      simp only [totalValue, List.map_nil, List.sum_nil] at overflow
      omega
  | cons pair pairs ih =>
      simp only [List.mem_cons, forall_eq_or_imp] at priced nonzero
      rw [totalValue_cons] at overflow
      obtain ⟨usdValue, value, unfolds⟩ :=
        sumValues_nonzero (pairs ++ rest) total priced.1 nonzero.1
      rw [List.cons_append, unfolds]
      by_cases fits : total.toNat + usdValue.toNat < 2 ^ 256
      · have adds : checkedAdd Error.arithmeticPanic total usdValue =
            .ok (total + usdValue) := by
          rw [checkedAdd, if_pos fits]
        have sum := checkedAdd_eq_ok.mp adds
        simp only [adds, bind, Except.bind]
        exact ih priced.2 nonzero.2 (total + usdValue) (by omega)
      · simp only [checkedAdd, if_neg fits, bind, Except.bind]

/-! ## Requests one after another -/

/-- The requests of a batch, all made in one context. -/
def consumeCalls (ctx : Ctx χ) (data : Bytes) (pairs : List (U256 × U256)) :
    List (UsdCall χ) :=
  pairs.map fun pair => ⟨ctx, .consume pair.1 pair.2 data⟩

/-- Every request of a batch returns true. -/
def AllGranted (env : UsdRateLimiterEnv χ) (ctx : Ctx χ) (data : Bytes)
    (pairs : List (U256 × U256)) (limiter : UsdRateLimiter) : Prop :=
  ∀ answer ∈ answers (exec env) (consumeCalls ctx data pairs) limiter, answer = .ok (some true)

/-- A consumer can make requests for the chain with a key, and its bucket is in order. -/
structure Ready (env : UsdRateLimiterEnv χ) (ctx : Ctx χ) (data : Bytes) (key : Bytes32)
    (limiter : UsdRateLimiter) : Prop where
  consumer : limiter.hasRole .consumer ctx.sender = true
  decodes : ∃ chainId, Abi.readBytes data 0 = some chainId ∧ chainKey env chainId = key
  bounded : (limiter.chainBuckets key).Bounded
  reads : (limiter.chainBuckets key).Reads ctx.timestamp

section Ready

variable {data : Bytes} {key : Bytes32}

theorem exec_consume {granted : Bool}
    (ok : consume env ctx pair.1 pair.2 data limiter = .ok (granted, next)) :
    exec env ⟨ctx, .consume pair.1 pair.2 data⟩ limiter = .ok (some granted, next) := by
  simp [exec, ok, bind, Except.bind]

/-- A rejected request makes a batch fail. -/
theorem not_allGranted
    (rejects : consume env ctx pair.1 pair.2 data limiter = .ok (false, next)) :
    ¬ AllGranted env ctx data (pair :: pairs) limiter := by
  intro granted
  have first := granted _ (List.mem_cons_self ..)
  rw [answer_ok (exec_consume rejects)] at first
  cases first

theorem allGranted_cons
    (grants : consume env ctx pair.1 pair.2 data limiter = .ok (true, next)) :
    AllGranted env ctx data (pair :: pairs) limiter ↔ AllGranted env ctx data pairs next := by
  have executes := exec_consume grants
  simp [AllGranted, consumeCalls, answers, answer_ok executes, attempt_ok (stepOf_ok executes)]

theorem allGranted_singleton {granted : Bool}
    (consumes : consume env ctx pair.1 pair.2 data limiter = .ok (granted, next)) :
    AllGranted env ctx data [pair] limiter ↔ granted = true := by
  cases granted with
  | true =>
      rw [allGranted_cons consumes]
      simp [AllGranted, consumeCalls, answers]
  | false => simp [not_allGranted consumes]

variable (ready : Ready env ctx data key limiter)
include ready

/-- What `consume` does once the caller and the data have been checked. -/
theorem Ready.consume_eq (tokenId amount : U256) :
    consume env ctx tokenId amount data limiter =
      if (limiter.chainBuckets key).isEnabled = false then .ok (false, limiter)
      else if amount = 0 then .ok (false, limiter)
      else do
        let usdValue ← toUsdValue env ctx tokenId amount
        if usdValue = 0 then .ok (false, limiter)
        else
          let (consumed, bucket) ← (limiter.chainBuckets key).consume ctx.timestamp usdValue
          return (consumed,
            { limiter with chainBuckets := Evm.set limiter.chainBuckets key bucket }) := by
  obtain ⟨chainId, decodes, rfl⟩ := ready.decodes
  simp only [consume, onlyRole, require, ready.consumer, if_true, bind, Except.bind,
    decodeChainId, decodes, orRevert]
  rfl

theorem Ready.consume_zero
    (priced : Priced env ctx pair) (isZero : valueOf env ctx pair = 0) :
    consume env ctx pair.1 pair.2 data limiter = .ok (false, limiter) := by
  rw [ready.consume_eq]
  split
  · rfl
  · rcases priced.zero isZero with nothing | ⟨something, isValue⟩
    · rw [if_pos nothing]
    · rw [if_neg something, isValue]
      rfl

/-- A request with a value is granted when the value is available, and then the bucket
has that much less. -/
theorem Ready.consume_nonzero
    (isEnabled : (limiter.chainBuckets key).isEnabled = true) (priced : Priced env ctx pair)
    (nonzero : valueOf env ctx pair ≠ 0) :
    ∃ next, consume env ctx pair.1 pair.2 data limiter =
        .ok (decide (valueOf env ctx pair ≤
          (limiter.chainBuckets key).available ctx.timestamp.toNat), next) ∧
      Ready env ctx data key next ∧ (next.chainBuckets key).isEnabled = true ∧
      (valueOf env ctx pair ≤ (limiter.chainBuckets key).available ctx.timestamp.toNat →
        (next.chainBuckets key).available ctx.timestamp.toNat + valueOf env ctx pair =
          (limiter.chainBuckets key).available ctx.timestamp.toNat) := by
  obtain ⟨something, usdValue, isValue, notZero, value⟩ := priced.nonzero nonzero
  obtain ⟨after, consumes, spends⟩ :=
    TokenBucket.consume_eq ready.bounded ready.reads usdValue
  have written : Evm.set limiter.chainBuckets key after key = after := if_pos rfl
  rw [value]
  refine ⟨{ limiter with chainBuckets := Evm.set limiter.chainBuckets key after }, ?_, ?_, ?_, ?_⟩
  · rw [ready.consume_eq, if_neg (by simp [isEnabled]), if_neg something, isValue]
    simp only [bind, Except.bind, if_neg notZero, consumes]
    rfl
  · refine ⟨ready.consumer, ready.decodes, ?_, ?_⟩
    · simp only [written]
      exact spends.bounded
    · simp only [written]
      exact ⟨spends.lastUpdated.le, ready.reads.inRange⟩
  · simp [spends.isEnabled, isEnabled]
  · intro covered
    have left := spends.available
    rw [if_pos covered] at left
    simp only [written]
    exact left

/-- On an enabled chain all requests are granted exactly when each has a value and the
values together are available. -/
theorem Ready.allGranted_iff
    (isEnabled : (limiter.chainBuckets key).isEnabled = true)
    (priced : ∀ pair ∈ pairs, Priced env ctx pair) :
    AllGranted env ctx data pairs limiter ↔
      (∀ pair ∈ pairs, valueOf env ctx pair ≠ 0) ∧
        totalValue env ctx pairs ≤
          (limiter.chainBuckets key).available ctx.timestamp.toNat := by
  induction pairs generalizing limiter with
  | nil => simp [AllGranted, consumeCalls, answers, totalValue]
  | cons pair pairs ih =>
      simp only [List.mem_cons, forall_eq_or_imp] at priced ⊢
      rw [totalValue_cons]
      by_cases isZero : valueOf env ctx pair = 0
      · have rejects := ready.consume_zero priced.1 isZero
        simp [not_allGranted rejects, isZero]
      · obtain ⟨next, consumes, ready', isEnabled', left⟩ :=
          ready.consume_nonzero isEnabled priced.1 isZero
        by_cases covered : valueOf env ctx pair ≤
            (limiter.chainBuckets key).available ctx.timestamp.toNat
        · rw [decide_eq_true covered] at consumes
          have level := left covered
          rw [allGranted_cons consumes, ih ready' isEnabled' priced.2]
          constructor
          · rintro ⟨noneZero, rest⟩
            exact ⟨⟨isZero, noneZero⟩, by omega⟩
          · rintro ⟨⟨_, noneZero⟩, rest⟩
            exact ⟨noneZero, by omega⟩
        · rw [decide_eq_false covered] at consumes
          simp only [not_allGranted consumes, false_iff, not_and]
          intro _
          omega

theorem Ready.not_allGranted_disabled (nonempty : pairs ≠ [])
    (disabled : (limiter.chainBuckets key).isEnabled = false) :
    ¬ AllGranted env ctx data pairs limiter := by
  cases pairs with
  | nil => exact absurd rfl nonempty
  | cons pair pairs =>
      have rejects : consume env ctx pair.1 pair.2 data limiter = .ok (false, limiter) := by
        rw [ready.consume_eq, if_pos disabled]
      exact not_allGranted rejects

/-! ## The pre-checks -/

/-- The batch pre-check of a list of requests. -/
def batch (env : UsdRateLimiterEnv χ) (ctx : Ctx χ) (data : Bytes)
    (pairs : List (U256 × U256)) (limiter : UsdRateLimiter) : Except Error Bool :=
  resolveCanConsumeBatch env ctx (pairs.map Prod.fst) (pairs.map Prod.snd) data limiter

omit ready in
/-- The pre-check of a single request is the one of a batch of one. -/
theorem resolveCanConsume_eq (tokenId amount : U256) :
    resolveCanConsume env ctx tokenId amount data limiter =
      batch env ctx data [(tokenId, amount)] limiter := by
  simp only [resolveCanConsume, batch, resolveCanConsumeBatch, require, List.map_cons,
    List.map_nil, List.length_cons, List.length_nil, if_true, List.zip_cons_cons, List.zip_nil_left,
    sumValues, bind, Except.bind, Nat.zero_add, Nat.one_ne_zero, if_false]
  cases decodeChainId data with
  | error error => rfl
  | ok chainId =>
      dsimp only
      split
      · rfl
      · split
        · rfl
        · cases toUsdValue env ctx tokenId amount with
          | error error => rfl
          | ok usdValue =>
              dsimp only
              split
              · rfl
              · have adds : checkedAdd Error.arithmeticPanic 0 usdValue = .ok usdValue := by
                  rw [checkedAdd_eq_ok]
                  exact (Nat.zero_add _).symm
                rw [adds]
                rfl

/-- What the batch pre-check does once its arguments have been checked. -/
theorem Ready.batch_eq (nonempty : pairs ≠ []) :
    batch env ctx data pairs limiter =
      if (limiter.chainBuckets key).isEnabled = false then .ok false
      else do
        match ← sumValues env ctx pairs 0 with
        | none => return false
        | some total =>
            if (limiter.chainBuckets key).capacity.setWidth 256 < total then return false
            else
              let refilled ← (limiter.chainBuckets key).refilledTokens ctx.timestamp
              return decide (total ≤ refilled) := by
  obtain ⟨chainId, decodes, rfl⟩ := ready.decodes
  have zipped : (pairs.map Prod.fst).zip (pairs.map Prod.snd) = pairs := by
    rw [List.zip_map']
    exact List.map_id pairs
  have notNil : ¬ pairs.length = 0 := mt List.eq_nil_of_length_eq_zero nonempty
  simp only [batch, resolveCanConsumeBatch, require, List.length_map, if_true, bind, Except.bind,
    if_neg notNil, decodeChainId, decodes, orRevert, zipped]
  rfl

/-- Without overflow the batch pre-check answers whether each request has a value and the
values together are available. -/
theorem Ready.batch_answers (nonempty : pairs ≠ [])
    (isEnabled : (limiter.chainBuckets key).isEnabled = true)
    (priced : ∀ pair ∈ pairs, Priced env ctx pair)
    (inRange : totalValue env ctx pairs < 2 ^ 256) :
    ∃ answer, batch env ctx data pairs limiter = .ok answer ∧
      (answer = true ↔ (∀ pair ∈ pairs, valueOf env ctx pair ≠ 0) ∧
        totalValue env ctx pairs ≤
          (limiter.chainBuckets key).available ctx.timestamp.toNat) := by
  rw [ready.batch_eq nonempty, if_neg (by simp [isEnabled])]
  have fromZero : (0 : U256).toNat + totalValue env ctx pairs = totalValue env ctx pairs :=
    Nat.zero_add _
  rcases sumValues_eq priced 0 (by rw [fromZero]; exact inRange) with
    ⟨⟨pair, member, isZero⟩, sums⟩ | ⟨noneZero, total, sums, isTotal⟩
  · refine ⟨false, ?_, ?_⟩
    · simp only [sums, bind, Except.bind]
      rfl
    · simp only [Bool.false_eq_true, false_iff, not_and]
      intro noneZero
      exact absurd isZero (noneZero pair member)
  · rw [fromZero] at isTotal
    simp only [sums, bind, Except.bind]
    have full := (limiter.chainBuckets key).available_le_capacity ctx.timestamp.toNat
    by_cases tooLarge : (limiter.chainBuckets key).capacity.setWidth 256 < total
    · refine ⟨false, if_pos tooLarge, ?_⟩
      rw [BitVec.lt_def, toNat_widen (by decide)] at tooLarge
      simp only [Bool.false_eq_true, false_iff, not_and]
      intro _
      omega
    · obtain ⟨refilled, refills, level⟩ := TokenBucket.refilledTokens_eq ready.reads
      refine ⟨decide (total ≤ refilled), ?_, ?_⟩
      · simp [if_neg tooLarge, refills]
      · rw [decide_eq_true_eq, BitVec.le_def, isTotal, level]
        exact (and_iff_right noneZero).symm

/-- A request with a value has to come before a request without one for the sum to
overflow; in that order the pre-check reverts. -/
theorem Ready.batch_reverts (nonempty : pairs ≠ [])
    (isEnabled : (limiter.chainBuckets key).isEnabled = true)
    (priced : ∀ pair ∈ pairs, Priced env ctx pair)
    (overflow : 2 ^ 256 ≤ totalValue env ctx pairs) :
    ∃ reordered, reordered.Perm pairs ∧
      batch env ctx data reordered limiter = .error .arithmeticPanic := by
  let valued := pairs.filter fun pair => valueOf env ctx pair ≠ 0
  let worthless := pairs.filter fun pair => !decide (valueOf env ctx pair ≠ 0)
  have perm : (valued ++ worthless).Perm pairs := List.filter_append_perm _ pairs
  have noValue : totalValue env ctx worthless = 0 := by
    apply List.sum_eq_zero
    simp only [List.mem_map, forall_exists_index, and_imp, forall_apply_eq_imp_iff₂]
    intro pair member
    simpa using (List.mem_filter.mp member).2
  have allValue : totalValue env ctx valued = totalValue env ctx pairs := by
    rw [← totalValue_perm perm, totalValue, totalValue, List.map_append, List.sum_append,
      ← totalValue, ← totalValue, noValue, Nat.add_zero]
  have stillNonempty : valued ++ worthless ≠ [] := by
    intro isNil
    rw [isNil] at perm
    exact nonempty perm.nil_eq.symm
  have overflows : sumValues env ctx (valued ++ worthless) 0 = .error .arithmeticPanic := by
    apply sumValues_overflow
    · exact fun pair member => priced pair (List.mem_of_mem_filter member)
    · intro pair member
      simpa using (List.mem_filter.mp member).2
    · rw [allValue]
      exact overflow.trans (Nat.le_add_left _ _)
  refine ⟨valued ++ worthless, perm, ?_⟩
  rw [ready.batch_eq stillNonempty, if_neg (by simp [isEnabled]), overflows]
  rfl

/-- A request that can be priced does not revert. -/
theorem Ready.consume_total
    (priced : Priced env ctx pair) :
    ∃ granted next, consume env ctx pair.1 pair.2 data limiter = .ok (granted, next) := by
  cases isEnabled : (limiter.chainBuckets key).isEnabled with
  | false => exact ⟨false, limiter, by rw [ready.consume_eq, if_pos isEnabled]⟩
  | true =>
      by_cases isZero : valueOf env ctx pair = 0
      · exact ⟨false, limiter, ready.consume_zero priced isZero⟩
      · obtain ⟨next, consumes, _⟩ := ready.consume_nonzero isEnabled priced isZero
        exact ⟨_, next, consumes⟩

/-- The batch pre-check answers true exactly when all requests are granted. -/
theorem Ready.batch_true_iff (nonempty : pairs ≠ [])
    (priced : ∀ pair ∈ pairs, Priced env ctx pair) :
    batch env ctx data pairs limiter = .ok true ↔ AllGranted env ctx data pairs limiter := by
  cases isEnabled : (limiter.chainBuckets key).isEnabled with
  | false =>
      rw [ready.batch_eq nonempty, if_pos isEnabled]
      simp only [Except.ok.injEq, Bool.false_eq_true, false_iff]
      exact ready.not_allGranted_disabled nonempty isEnabled
  | true =>
      rw [ready.allGranted_iff isEnabled priced]
      by_cases inRange : totalValue env ctx pairs < 2 ^ 256
      · obtain ⟨answer, answers, isTrue⟩ :=
          ready.batch_answers nonempty isEnabled priced inRange
        rw [answers, Except.ok.injEq]
        exact isTrue
      · have full := (limiter.chainBuckets key).available_le_capacity ctx.timestamp.toNat
        have capacityBound := (limiter.chainBuckets key).capacity.isLt
        constructor
        · intro accepts
          rw [ready.batch_eq nonempty, if_neg (by simp [isEnabled])] at accepts
          simp only [bind_eq_ok] at accepts
          obtain ⟨sum, sums, accepts⟩ := accepts
          cases sum with
          | none => cases accepts
          | some total =>
              have isTotal := sumValues_some priced sums
              have bound := total.isLt
              have fromZero : (0 : U256).toNat = 0 := rfl
              omega
        · rintro ⟨_, covered⟩
          omega

/-- The pre-check of a single request returns what the request does. -/
theorem Ready.batch_single
    (priced : Priced env ctx pair) :
    ∃ answer next, batch env ctx data [pair] limiter = .ok answer ∧
      consume env ctx pair.1 pair.2 data limiter = .ok (answer, next) := by
  have one : ∀ other ∈ [pair], Priced env ctx other := by
    intro other isPair
    rw [List.mem_singleton.mp isPair]
    exact priced
  obtain ⟨granted, next, consumes⟩ := ready.consume_total priced
  refine ⟨granted, next, ?_, consumes⟩
  cases isEnabled : (limiter.chainBuckets key).isEnabled with
  | false =>
      rw [ready.consume_eq, if_pos isEnabled] at consumes
      cases consumes
      rw [ready.batch_eq (List.cons_ne_nil _ _), if_pos isEnabled]
  | true =>
      obtain ⟨answer, answers, isTrue⟩ := ready.batch_answers (List.cons_ne_nil _ _) isEnabled
        one (by rw [totalValue_cons]; exact priced.value_lt)
      rw [← ready.allGranted_iff isEnabled one, allGranted_singleton consumes] at isTrue
      rw [answers, Bool.eq_iff_iff.mpr isTrue]

end Ready

end UsdRateLimiter

open UsdRateLimiter

/-- In every reachable state, at a time not before any update and below 2 ^ 32, and for
every batch of requests that can be priced: in every order the batch pre-check returns
whether the requests, made one after another, are all granted, if and only if the chain
is disabled or the values of the batch together fit a word.  The pre-check returns true
exactly when all requests are granted even if they do not, and the pre-check of a single
request returns what the request does. -/
theorem usd_batch_precheck {χ : Type} (env : UsdRateLimiterEnv χ)
    (roles : RateLimiter.Role → Address → Bool) (calls : List (UsdCall χ)) (ctx : Ctx χ)
    (data chainId : Bytes) (pairs : List (U256 × U256))
    (decodes : Abi.readBytes data 0 = some chainId)
    (consumer : (run (step env) calls (empty roles)).hasRole .consumer ctx.sender = true)
    (past : ∀ key, ((run (step env) calls (empty roles)).chainBuckets key).lastUpdated.toNat ≤
      ctx.timestamp.toNat)
    (inRange : ctx.timestamp.toNat < 2 ^ 32) (nonempty : pairs ≠ [])
    (priced : ∀ pair ∈ pairs, Priced env ctx pair) :
    let limiter := run (step env) calls (empty roles)
    ((∀ reordered, reordered.Perm pairs →
        ∃ answer, batch env ctx data reordered limiter = .ok answer ∧
          (answer = true ↔ AllGranted env ctx data pairs limiter)) ↔
      (limiter.chainBuckets (chainKey env chainId)).isEnabled = false ∨
        totalValue env ctx pairs < 2 ^ 256) ∧
    (batch env ctx data pairs limiter = .ok true ↔ AllGranted env ctx data pairs limiter) ∧
    ∀ pair ∈ pairs, ∃ answer next,
      resolveCanConsume env ctx pair.1 pair.2 data limiter = .ok answer ∧
        consume env ctx pair.1 pair.2 data limiter = .ok (answer, next) := by
  intro limiter
  have ready : Ready env ctx data (chainKey env chainId) limiter :=
    ⟨consumer, ⟨chainId, decodes, rfl⟩, run_bounded roles calls _, past _, inRange⟩
  refine ⟨⟨?_, ?_⟩, ready.batch_true_iff nonempty priced, ?_⟩
  · intro predicts
    by_contra fails
    rw [not_or, Bool.not_eq_false, Nat.not_lt] at fails
    obtain ⟨reordered, perm, reverts⟩ := ready.batch_reverts nonempty fails.1 priced fails.2
    obtain ⟨answer, answers, _⟩ := predicts reordered perm
    rw [reverts] at answers
    cases answers
  · intro condition reordered perm
    have stillNonempty : reordered ≠ [] := by
      rintro rfl
      exact nonempty perm.nil_eq.symm
    have stillPriced : ∀ pair ∈ reordered, Priced env ctx pair :=
      fun pair member => priced pair (perm.mem_iff.mp member)
    cases isEnabled : (limiter.chainBuckets (chainKey env chainId)).isEnabled with
    | false =>
        refine ⟨false, ?_, ?_⟩
        · rw [ready.batch_eq stillNonempty, if_pos isEnabled]
        · simp only [Bool.false_eq_true, false_iff]
          exact ready.not_allGranted_disabled nonempty isEnabled
    | true =>
        have fits : totalValue env ctx pairs < 2 ^ 256 := by
          rcases condition with disabled | fits
          · rw [isEnabled] at disabled
            cases disabled
          · exact fits
        obtain ⟨answer, answers, isTrue⟩ := ready.batch_answers stillNonempty isEnabled
          stillPriced (by rw [totalValue_perm perm]; exact fits)
        refine ⟨answer, answers, ?_⟩
        rw [isTrue, ready.allGranted_iff isEnabled priced, totalValue_perm perm]
        simp only [perm.mem_iff]
  · intro pair member
    rw [resolveCanConsume_eq]
    exact ready.batch_single (priced pair member)

namespace SampleChain

/-- A token of value 1 per unit, on chain 1, whose bucket holds at most 100. -/
def surroundings : UsdRateLimiterEnv Unit where
  keccak256 := fun data => BitVec.ofNat 256 (Abi.readBigEndian data)
  fullMulDiv := sampleMulDiv
  resolveUsdPrice := fun _ _ => some ⟨1, 18, 0, 0, 0⟩

/-- Account 1 enables the chain. -/
def calls : List (UsdCall Unit) :=
  [⟨⟨⟨1, 5⟩, ()⟩, .setBucketConfig ⟨[1], true, 100, 10⟩⟩]

/-- Where the requests are made. -/
def context : Ctx Unit := ⟨⟨1, 6⟩, ()⟩

/-- The chain as the limiter's data. -/
def data : Bytes := Abi.encode [.bytes [1]]

/-- The limiter with the enabled chain. -/
def enabled : UsdRateLimiter :=
  ⟨fun _ _ => true, Evm.set (fun _ => TokenBucket.empty) 1 ⟨100, 5, true, 100, 10⟩⟩

theorem run_calls : run (step surroundings) calls (empty fun _ _ => true) = enabled := rfl

theorem past (key : Bytes32) :
    ((run (step surroundings) calls (empty fun _ _ => true)).chainBuckets
      key).lastUpdated.toNat ≤ context.timestamp.toNat := by
  rw [run_calls]
  by_cases here : key = 1
  · subst here
    decide
  · simp only [enabled, set_apply, if_neg here]
    decide

theorem priced (pair : U256 × U256) : Priced surroundings context pair := by
  have whole : sampleMulDiv pair.2 1 1 = .ok pair.2 :=
    (sampleMulDiv_documented ..).mpr ⟨by decide, by simp⟩
  refine ⟨pair.2, ?_⟩
  show (sampleMulDiv pair.2 1 1 >>= fun usdValue => pure usdValue) = .ok pair.2
  rw [whole]
  rfl

end SampleChain

open SampleChain

/-- Values of 60 and 40 are granted one after another, and the pre-check says so. -/
theorem usd_batch_precheck_sample :
    batch surroundings context data [(7, 60), (8, 40)]
        (run (step surroundings) calls (empty fun _ _ => true)) = .ok true ∧
    AllGranted surroundings context data [(7, 60), (8, 40)]
      (run (step surroundings) calls (empty fun _ _ => true)) := by
  have accepts : batch surroundings context data [(7, 60), (8, 40)]
      (run (step surroundings) calls (empty fun _ _ => true)) = .ok true := by
    decide +kernel
  exact ⟨accepts, (usd_batch_precheck surroundings (fun _ _ => true) calls context data [1]
    [(7, 60), (8, 40)] (by decide +kernel) rfl past (by decide) (List.cons_ne_nil _ _)
    fun pair _ => priced pair).2.1.mp accepts⟩

/-- Two requests of value 2 ^ 255 each are priced and rejected, but the batch pre-check
reverts. -/
theorem usd_batch_precheck_overflows :
    (∀ pair ∈ [((7 : U256), (2 ^ 255 : U256)), (7, 2 ^ 255)],
      Priced surroundings context pair) ∧
    answers (exec surroundings) (consumeCalls context data [(7, 2 ^ 255), (7, 2 ^ 255)])
        (run (step surroundings) calls (empty fun _ _ => true)) =
      [.ok (some false), .ok (some false)] ∧
    batch surroundings context data [(7, 2 ^ 255), (7, 2 ^ 255)]
        (run (step surroundings) calls (empty fun _ _ => true)) = .error .arithmeticPanic := by
  refine ⟨fun pair _ => priced pair, ?_, ?_⟩
  · decide +kernel
  · decide +kernel

end RelaySettlement
