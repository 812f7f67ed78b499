import RelaySettlement.PriceOracle.Stork

/-!
# The report cache of the Stork adapter cannot be seen

The last verified payload is known by its hash only.  What makes it safe to skip the
verifier and the checks of the other assets is an invariant: as long as the hash is
cached, every asset of that payload would pass validation again, because the values stored
since are those of the payload itself.
-/

open Evm

namespace RelaySettlement.StorkFastAdapter

variable {env : StorkEnv} {cached : Bytes32 → CachedReportValues} {payload : Bytes}
  {assets : List StorkAsset} {feedId : Bytes32}

/-! ## Validation of one value -/

/-- A value that `_validateReportValues` lets pass. -/
def Validates (feedId : Bytes32) (values : CachedReportValues)
    (cached : Bytes32 → CachedReportValues) : Prop :=
  (cached feedId).timestampNs = 0 ∨
    (cached feedId).timestampNs ≤ values.timestampNs ∧
      (values.timestampNs = (cached feedId).timestampNs →
        values.quantizedValue = (cached feedId).quantizedValue)

variable {values : CachedReportValues}

theorem validateReportValues_eq_ok {result : Unit} :
    validateReportValues feedId values cached = .ok result ↔
      Validates feedId values cached := by
  rw [validateReportValues, Validates]
  split
  next fresh => simp [fresh]
  next used =>
    simp only [bind_eq_ok, require_eq_ok, exists_and_left, exists_const, used, false_or,
      not_and, not_not]

/-- A value that passes still passes after it was stored. -/
theorem Validates.store_self (validates : Validates feedId values cached) :
    Validates feedId values (storeReportValues feedId values cached) := by
  rw [storeReportValues]
  split
  · right
    rw [set_apply, if_pos rfl]
    exact ⟨BitVec.le_refl _, fun _ => rfl⟩
  · exact validates

theorem Validates.store_other {stored : CachedReportValues} {other : Bytes32}
    (different : feedId ≠ other) (validates : Validates feedId values cached) :
    Validates feedId values (storeReportValues other stored cached) := by
  rw [storeReportValues]
  split
  · rw [Validates, set_apply, if_neg different]
    exact validates
  · exact validates

/-! ## Validation of a batch -/

/-- The taxonomy id of a payload with a whole header. -/
def taxonomyIdOf (payload : Bytes) : BitVec 16 := readUInt 16 (payload.drop taxonomyIdOffset)

/-- The feed of an asset under a taxonomy. -/
abbrev feedOf (env : StorkEnv) (taxonomyId : BitVec 16) (asset : StorkAsset) : Bytes32 :=
  computeFeedId env taxonomyId asset.assetId

/-- The values of the first asset with a feed. -/
def valuesOf (env : StorkEnv) (taxonomyId : BitVec 16) (feedId : Bytes32)
    (assets : List StorkAsset) : Option CachedReportValues :=
  (assets.find? fun asset => feedOf env taxonomyId asset = feedId).map StorkAsset.values

/-- A batch that `_validateBatch` lets pass. -/
structure BatchValid (env : StorkEnv) (taxonomyId : BitVec 16)
    (cached : Bytes32 → CachedReportValues) (assets : List StorkAsset) : Prop where
  distinct : (assets.map StorkAsset.assetId).Nodup
  valid : ∀ asset ∈ assets, Validates (feedOf env taxonomyId asset) asset.values cached

variable {taxonomyId : BitVec 16}

/-- What the bitmap of the loop says of the assets still to come. -/
def Unseen (seen : Bitmap) (assets : List StorkAsset) : Prop :=
  ∀ asset ∈ assets, seen.contains asset.assetId.toNat = false

variable {seen : Bitmap} {requested : Option CachedReportValues}

theorem unseen_insert {asset : StorkAsset} :
    Unseen (seen.insert asset.assetId.toNat) assets ↔
      asset.assetId ∉ assets.map StorkAsset.assetId ∧ Unseen seen assets := by
  simp [Unseen, Bitmap.contains_insert, BitVec.toNat_inj, forall_and]

/-- The loop succeeds on valid batches only, with the values of an asset of the requested
feed unless they were found before. -/
theorem validateBatch_sound
    (ok : validateBatch env taxonomyId feedId cached assets seen requested = .ok values) :
    Unseen seen assets ∧ BatchValid env taxonomyId cached assets ∧
      (requested = some values ∨
        ∃ asset ∈ assets, feedOf env taxonomyId asset = feedId ∧ asset.values = values) := by
  induction assets generalizing seen requested with
  | nil =>
      rw [validateBatch, orRevert_eq_ok] at ok
      exact ⟨List.forall_mem_nil _, ⟨List.nodup_nil, List.forall_mem_nil _⟩, .inl ok⟩
  | cons asset assets ih =>
      simp only [validateBatch, bind_eq_ok, require_eq_ok, validateReportValues_eq_ok] at ok
      obtain ⟨_, fresh, _, validates, rest⟩ := ok
      obtain ⟨unseen, valid, found⟩ := ih rest
      obtain ⟨absent, unseen⟩ := unseen_insert.mp unseen
      refine ⟨List.forall_mem_cons.mpr ⟨fresh, unseen⟩,
        ⟨List.nodup_cons.mpr ⟨absent, valid.distinct⟩,
          List.forall_mem_cons.mpr ⟨validates, valid.valid⟩⟩, ?_⟩
      rcases found with found | ⟨other, member, matches', same⟩
      · split at found
        next matched =>
          exact .inr ⟨asset, List.mem_cons_self .., matched, Option.some.inj found⟩
        · exact .inl found
      · exact .inr ⟨other, List.mem_cons_of_mem _ member, matches', same⟩

/-- On a valid batch the loop finds the one asset of the requested feed, or nothing. -/
theorem validateBatch_valid (injective : Function.Injective (computeFeedId env taxonomyId))
    (unseen : Unseen seen assets) (valid : BatchValid env taxonomyId cached assets) :
    validateBatch env taxonomyId feedId cached assets seen requested =
      orRevert ((valuesOf env taxonomyId feedId assets).or requested)
        (.feedNotInPayload feedId) := by
  induction assets generalizing seen requested with
  | nil => rfl
  | cons asset assets ih =>
      obtain ⟨fresh, unseen⟩ := List.forall_mem_cons.mp unseen
      obtain ⟨absent, distinct⟩ := List.nodup_cons.mp valid.distinct
      obtain ⟨validates, others⟩ := List.forall_mem_cons.mp valid.valid
      have validated : validateReportValues (feedOf env taxonomyId asset) asset.values cached =
          .ok () := validateReportValues_eq_ok.mpr validates
      simp only [validateBatch, require_pos fresh, ok_bind, validated]
      rw [ih (unseen_insert.mpr ⟨absent, unseen⟩) ⟨distinct, others⟩, valuesOf, valuesOf,
        List.find?_cons]
      by_cases matched : feedOf env taxonomyId asset = feedId
      · have none : assets.find? (fun asset => feedOf env taxonomyId asset = feedId) = none := by
          rw [List.find?_eq_none]
          intro other member same
          have sameFeed := matched.trans (of_decide_eq_true same).symm
          exact absent (injective sameFeed ▸ List.mem_map_of_mem member)
        simp [matched, none]
      · simp [matched]

/-! ## The two decoders -/

/-- The integer that makes up a slice inside the data. -/
theorem slice_readUInt (width start : ℕ) {stop : ℕ} {data : Bytes}
    (within : stop ≤ data.length) (whole : start + width / 8 = stop) :
    ∃ bytes, slice data start stop = .ok bytes ∧
      readUInt width bytes = readUInt width (data.drop start) := by
  refine ⟨(data.drop start).take (stop - start), ?_, ?_⟩
  · rw [slice, require_pos within]
    rfl
  · rw [readUInt, readUInt, List.take_take, ← whole, Nat.add_sub_cancel_left, Nat.min_self]

/-- The loop over the raw bytes finds what it would find in the assets the verifier
decodes from them. -/
theorem findReportValues_eq {timestampNs : BitVec 64} {start count : ℕ}
    (within : assetsOffset + (start + count) * assetBytes ≤ payload.length) :
    findReportValues env taxonomyId timestampNs feedId payload (List.range' start count) =
      orRevert (valuesOf env taxonomyId feedId (deserializeAssets timestampNs count
        (payload.drop (assetsOffset + start * assetBytes)))) (.feedNotInPayload feedId) := by
  induction count generalizing start with
  | zero => rfl
  | succ count ih =>
      have next := @ih (start + 1) (by rwa [Nat.add_right_comm, Nat.add_assoc])
      have idWithin : assetsOffset + start * assetBytes + 2 ≤ payload.length := by
        simp only [assetBytes] at within ⊢
        omega
      have assetWithin : assetsOffset + start * assetBytes + assetBytes ≤ payload.length := by
        simp only [assetBytes] at within ⊢
        omega
      obtain ⟨assetId, idRead, sameId⟩ := slice_readUInt 16 _ idWithin rfl
      obtain ⟨value, valueRead, sameValue⟩ :=
        slice_readUInt 128 (assetsOffset + start * assetBytes + assetIdBytes) assetWithin rfl
      rw [List.range'_succ, findReportValues, deserializeAssets, valuesOf, List.find?_cons]
      simp only [idRead, valueRead, ok_bind, sameId, sameValue, List.drop_drop]
      split
      next matched => simp [matched, orRevert, pure, Except.pure]
      next unmatched =>
        rw [next, valuesOf, Nat.succ_mul, ← Nat.add_assoc]
        simp [unmatched]

/-- Decoding a verified payload from its raw bytes finds the values of the verifier's
assets. -/
theorem decodeCachedReportValues_eq
    (verified : verifyAndDeserialize env.accepts payload = some assets) :
    decodeCachedReportValues env feedId payload =
      orRevert (valuesOf env (taxonomyIdOf payload) feedId assets)
        (.feedNotInPayload feedId) := by
  obtain ⟨⟨_, header⟩, ⟨⟩⟩ := Option.ite_none_right_eq_some.mp verified
  have taxonomyWithin : taxonomyIdOffset + 2 ≤ payload.length :=
    Nat.le_trans (by decide) header
  have timestampWithin : timestampNsOffset + 8 ≤ payload.length :=
    Nat.le_trans (by decide) header
  have assetsWithin : assetsOffset +
      (0 + (payload.length - assetsOffset) / assetBytes) * assetBytes ≤ payload.length := by
    rw [Nat.zero_add]
    exact Nat.add_le_of_le_sub' header (Nat.div_mul_le_self _ _)
  obtain ⟨taxonomyId, taxonomyRead, sameTaxonomy⟩ := slice_readUInt 16 _ taxonomyWithin rfl
  obtain ⟨timestampNs, timestampRead, sameTimestamp⟩ :=
    slice_readUInt 64 _ timestampWithin rfl
  simp only [decodeCachedReportValues, taxonomyRead, timestampRead, ok_bind,
    require_pos header, sameTaxonomy, sameTimestamp, List.range_eq_range']
  rw [findReportValues_eq assetsWithin, Nat.zero_mul]
  rfl

/-! ## Verified payloads -/

/-- A payload that the verifier accepts and whose whole batch passes validation. -/
structure Batch (env : StorkEnv) (cached : Bytes32 → CachedReportValues) (payload : Bytes)
    (assets : List StorkAsset) : Prop extends
    BatchValid env (taxonomyIdOf payload) cached assets where
  verified : verifyAndDeserialize env.accepts payload = some assets

theorem verifyReport_eq
    (verified : verifyAndDeserialize env.accepts payload = some assets) :
    verifyReport env feedId payload cached =
      validateBatch env (taxonomyIdOf payload) feedId cached assets .empty none := by
  have header : assetsOffset ≤ payload.length :=
    (Option.ite_none_right_eq_some.mp verified).1.2
  have taxonomyWithin : taxonomyIdOffset + 2 ≤ payload.length :=
    Nat.le_trans (by decide) header
  obtain ⟨taxonomyId, taxonomyRead, sameTaxonomy⟩ := slice_readUInt 16 _ taxonomyWithin rfl
  rw [verifyReport, verified, taxonomyRead]
  simp only [orRevert, ok_bind, sameTaxonomy]
  rfl

theorem verifyReport_batch (ok : verifyReport env feedId payload cached = .ok values) :
    ∃ assets, Batch env cached payload assets ∧ ∃ asset ∈ assets,
      feedOf env (taxonomyIdOf payload) asset = feedId ∧ asset.values = values := by
  cases verified : verifyAndDeserialize env.accepts payload with
  | none =>
      rw [verifyReport, verified] at ok
      cases ok
  | some assets =>
      rw [verifyReport_eq verified] at ok
      obtain ⟨_, valid, found⟩ := validateBatch_sound ok
      rcases found with impossible | found
      · cases impossible
      · exact ⟨assets, ⟨valid, verified⟩, found⟩

/-- Both ways to the requested values agree on a payload whose batch passes. -/
theorem Batch.decode_eq_verify (batch : Batch env cached payload assets)
    (injective : Function.Injective (computeFeedId env (taxonomyIdOf payload))) :
    decodeCachedReportValues env feedId payload = verifyReport env feedId payload cached := by
  have unseen : Unseen .empty assets := fun asset _ => Bitmap.contains_empty _
  rw [decodeCachedReportValues_eq batch.verified, verifyReport_eq batch.verified,
    validateBatch_valid injective unseen batch.toBatchValid, Option.or_none]

/-- Storing the values of one of its assets keeps a batch valid. -/
theorem Batch.store (batch : Batch env cached payload assets)
    (injective : Function.Injective (computeFeedId env (taxonomyIdOf payload)))
    {asset : StorkAsset} (member : asset ∈ assets) :
    Batch env (storeReportValues (feedOf env (taxonomyIdOf payload) asset) asset.values cached)
      payload assets where
  distinct := batch.distinct
  verified := batch.verified
  valid := by
    intro other member'
    have validates := batch.valid other member'
    by_cases same : feedOf env (taxonomyIdOf payload) other =
        feedOf env (taxonomyIdOf payload) asset
    · have sameAsset : other = asset :=
        List.inj_on_of_nodup_map batch.distinct member' member (injective same)
      subst sameAsset
      exact validates.store_self
    · exact validates.store_other same

/-! ## The cache -/

/-- The collision-freeness of the hash: between the payloads of a run, which also differ
from the empty cache, and between the assets of a taxonomy. -/
structure CollisionFree (env : StorkEnv) (payloads : List Bytes) : Prop where
  distinct : ∀ payload ∈ payloads, ∀ payload' ∈ payloads,
    env.keccak256 payload = env.keccak256 payload' → payload = payload'
  nonzero : ∀ payload ∈ payloads, env.keccak256 payload ≠ 0
  feedIds : ∀ taxonomyId, Function.Injective (computeFeedId env taxonomyId)

/-- A payload with the cached hash was verified, and its whole batch still passes. -/
def Remembers (env : StorkEnv) (payloads : List Bytes) (adapter : StorkFastAdapter) : Prop :=
  ∀ payload ∈ payloads, adapter.cachedReportHash = env.keccak256 payload →
    ∃ assets, Batch env adapter.cachedReportValues payload assets

variable {payloads : List Bytes} {adapter next : StorkFastAdapter} {call : StorkCall}

theorem requestedValues_eq (collisionFree : CollisionFree env payloads)
    (remembers : Remembers env payloads adapter) (member : payload ∈ payloads) :
    requestedValues env feedId payload adapter =
      (fun values => (values, ⟨env.keccak256 payload, adapter.cachedReportValues⟩)) <$>
        verifyReport env feedId payload adapter.cachedReportValues := by
  rw [requestedValues]
  split
  next hit =>
    obtain ⟨assets, batch⟩ := remembers payload member hit
    rw [batch.decode_eq_verify (collisionFree.feedIds _)]
    cases found : verifyReport env feedId payload adapter.cachedReportValues with
    | error error => rfl
    | ok values =>
        -- The value found is that of an asset of the batch, so it passes.
        have validated : validateReportValues feedId values adapter.cachedReportValues =
            .ok () := by
          obtain ⟨_, other, asset, member, rfl, rfl⟩ := verifyReport_batch found
          exact validateReportValues_eq_ok.mpr (other.valid asset member)
        rw [ok_bind, validated, ok_bind, ← hit]
        rfl
  next miss =>
    cases verifyReport env feedId payload adapter.cachedReportValues <;> rfl

/-- As long as the cached payload is remembered, the adapter does what the one without a
cache does. -/
theorem accept_eq (collisionFree : CollisionFree env payloads)
    (remembers : Remembers env payloads adapter) (member : call.updateData ∈ payloads) :
    accept env call adapter =
      (fun result => (result.1, ⟨env.keccak256 call.updateData, result.2⟩)) <$>
        referenceAccept env call adapter.cachedReportValues := by
  rw [accept, referenceAccept, requestedValues_eq collisionFree remembers member]
  cases require (call.sender = env.oracle) (Error.unauthorizedCaller call.sender) with
  | error error => rfl
  | ok _ =>
      cases verifyReport env call.feedId call.updateData adapter.cachedReportValues with
      | error error => rfl
      | ok values =>
          simp only [ok_bind, Functor.map, Except.map]
          cases require (0 < values.quantizedValue.toInt)
            (Error.nonPositivePrice values.quantizedValue) <;> rfl

/-- Accepting a report keeps the adapter's memory of the payload, which becomes the
cached one. -/
theorem accept_remembers (collisionFree : CollisionFree env payloads)
    (remembers : Remembers env payloads adapter) (member : call.updateData ∈ payloads)
    (ok : accept env call adapter = .ok (values, next)) : Remembers env payloads next := by
  rw [accept_eq collisionFree remembers member, map_eq_ok] at ok
  obtain ⟨result, accepted, same⟩ := ok
  cases same
  simp only [referenceAccept, bind_eq_ok, require_eq_ok, pure_eq_ok] at accepted
  obtain ⟨_, _, values, verified, _, _, rfl⟩ := accepted
  obtain ⟨assets, batch, asset, listed, found, rfl⟩ := verifyReport_batch verified
  intro payload member' cachedNow
  obtain rfl := collisionFree.distinct _ member _ member' cachedNow
  rw [← found]
  exact ⟨assets, batch.store (collisionFree.feedIds _) listed⟩

/-- The adapter and the one without a cache have accepted the same values. -/
structure Simulates (env : StorkEnv) (payloads : List Bytes) (adapter : StorkFastAdapter)
    (cached : Bytes32 → CachedReportValues) : Prop where
  remembers : Remembers env payloads adapter
  same : adapter.cachedReportValues = cached

theorem decodeAndVerify_eq (collisionFree : CollisionFree env payloads)
    (remembers : Remembers env payloads adapter) (member : call.updateData ∈ payloads) :
    decodeAndVerify env call adapter =
      (fun result => (result.1, ⟨env.keccak256 call.updateData, result.2⟩)) <$>
        referenceDecodeAndVerify env call adapter.cachedReportValues := by
  rw [decodeAndVerify, referenceDecodeAndVerify, accept_eq collisionFree remembers member]
  cases referenceAccept env call adapter.cachedReportValues <;> rfl

theorem decodeAndVerify_ok {price : FeedPrice} :
    decodeAndVerify env call adapter = .ok (price, next) ↔
      ∃ values, accept env call adapter = .ok (values, next) ∧ feedPrice values = price := by
  simp only [decodeAndVerify, bind_eq_ok, pure_eq_ok, Prod.exists, Prod.mk.injEq]
  constructor
  · rintro ⟨values, _, accepted, answered, rfl⟩
    exact ⟨values, accepted, answered⟩
  · rintro ⟨values, accepted, answered⟩
    exact ⟨values, next, accepted, answered, rfl⟩

/-- One call is answered alike, and leaves the two adapters with the same values. -/
theorem decodeAndVerify_simulates (collisionFree : CollisionFree env payloads)
    (simulates : Simulates env payloads adapter cached)
    (member : call.updateData ∈ payloads) :
    answer (decodeAndVerify env) call adapter =
        answer (referenceDecodeAndVerify env) call cached ∧
      Simulates env payloads (attempt (stepOf (decodeAndVerify env)) call adapter)
        (attempt (stepOf (referenceDecodeAndVerify env)) call cached) := by
  obtain ⟨remembers, rfl⟩ := simulates
  have same := decodeAndVerify_eq collisionFree remembers member
  cases outcome : referenceDecodeAndVerify env call adapter.cachedReportValues with
  | error error =>
      rw [outcome] at same
      have reverted : decodeAndVerify env call adapter = .error error := same
      rw [answer_error reverted, answer_error outcome, attempt_error (stepOf_error reverted),
        attempt_error (stepOf_error outcome)]
      exact ⟨rfl, remembers, rfl⟩
  | ok result =>
      rw [outcome] at same
      obtain ⟨price, cached⟩ := result
      have answered : decodeAndVerify env call adapter =
        .ok (price, ⟨env.keccak256 call.updateData, cached⟩) := same
      obtain ⟨values, accepted, _⟩ := decodeAndVerify_ok.mp answered
      rw [answer_ok answered, answer_ok outcome, attempt_ok (stepOf_ok answered),
        attempt_ok (stepOf_ok outcome)]
      exact ⟨rfl, accept_remembers collisionFree remembers member accepted, rfl⟩

/-! ## Accepted values -/

/-- The report values of a feed that a success accepted. -/
def Accepted (env : StorkEnv) (success : Transition StorkFastAdapter StorkCall)
    (values : CachedReportValues) : Prop :=
  accept env success.call success.pre = .ok (values, success.post)

/-- A value that is not newer than another one, and equal to it at the same nonzero
time. -/
def Precedes (values later : CachedReportValues) : Prop :=
  values.timestampNs ≤ later.timestampNs ∧
    (values.timestampNs = later.timestampNs → values.timestampNs ≠ 0 →
      values.quantizedValue = later.quantizedValue)

theorem requestedValues_validates
    (ok : requestedValues env feedId payload adapter = .ok (values, next)) :
    Validates feedId values adapter.cachedReportValues ∧
      next.cachedReportValues = adapter.cachedReportValues := by
  rw [requestedValues] at ok
  split at ok
  next hit =>
    simp only [bind_eq_ok, pure_eq_ok, validateReportValues_eq_ok, Prod.mk.injEq] at ok
    obtain ⟨_, _, _, validates, rfl, rfl⟩ := ok
    exact ⟨validates, rfl⟩
  next miss =>
    simp only [bind_eq_ok, pure_eq_ok, Prod.mk.injEq] at ok
    obtain ⟨_, verified, rfl, rfl⟩ := ok
    obtain ⟨assets, batch, asset, member, rfl, rfl⟩ := verifyReport_batch verified
    exact ⟨batch.valid asset member, rfl⟩

/-- Accepting stores values that passed validation. -/
theorem accept_stores (ok : accept env call adapter = .ok (values, next)) :
    Validates call.feedId values adapter.cachedReportValues ∧
      next.cachedReportValues =
        storeReportValues call.feedId values adapter.cachedReportValues := by
  simp only [accept, bind_eq_ok, pure_eq_ok, Prod.exists, Prod.mk.injEq] at ok
  obtain ⟨_, _, values, middle, requested, _, _, rfl, rfl⟩ := ok
  obtain ⟨validates, unchanged⟩ := requestedValues_validates requested
  refine ⟨validates, ?_⟩
  rw [← unchanged]

theorem Validates.precedes_stored (validates : Validates feedId values cached) :
    Precedes values (storeReportValues feedId values cached feedId) := by
  rw [storeReportValues]
  split
  · rw [set_apply, if_pos rfl]
    exact ⟨BitVec.le_refl _, fun _ _ => rfl⟩
  next notNewer =>
    have bound := BitVec.not_lt.mp notNewer
    refine ⟨bound, ?_⟩
    intro same nonzero
    rcases validates with unused | ⟨_, agree⟩
    · exact absurd (same.trans unused) nonzero
    · exact agree same

/-- Storing replaces values by newer ones only. -/
theorem Precedes.stored {stored : CachedReportValues} {other : Bytes32}
    (precedes : Precedes values (cached feedId)) :
    Precedes values (storeReportValues other stored cached feedId) := by
  rw [storeReportValues]
  split
  next newer =>
    rw [set_apply]
    split
    next same =>
      subst same
      have later : values.timestampNs < stored.timestampNs :=
        BitVec.lt_def.mpr (Nat.lt_of_le_of_lt precedes.1 newer)
      exact ⟨BitVec.le_of_lt later, fun same => absurd same (BitVec.ne_of_lt later)⟩
    · exact precedes
  · exact precedes

/-- What passes validation comes after everything the stored values come after. -/
theorem Precedes.validated {later : CachedReportValues} (precedes : Precedes values (cached feedId))
    (validates : Validates feedId later cached) : Precedes values later := by
  obtain ⟨notNewer, agree⟩ := precedes
  rcases validates with unused | ⟨notOlder, agree'⟩
  · rw [unused] at notNewer
    have zero : values.timestampNs = 0 := BitVec.le_antisymm notNewer (Nat.zero_le _)
    refine ⟨?_, fun _ nonzero => absurd zero nonzero⟩
    rw [zero]
    exact Nat.zero_le _
  · refine ⟨BitVec.le_trans notNewer notOlder, ?_⟩
    intro same nonzero
    have stored : values.timestampNs = (cached feedId).timestampNs :=
      BitVec.le_antisymm notNewer (same ▸ notOlder)
    rw [agree stored nonzero, agree' (same.symm.trans stored)]

/-- The values accepted for a feed over a run precede each other. -/
theorem accepted_pairwise (env : StorkEnv) (calls : List StorkCall)
    (adapter : StorkFastAdapter) :
    (trace (stepOf (decodeAndVerify env)) calls adapter).Pairwise fun first later =>
      first.call.feedId = later.call.feedId → ∀ values values',
        Accepted env first values → Accepted env later values' → Precedes values values' := by
  apply trace_pairwise (fun success adapter => ∀ values, Accepted env success values →
    Precedes values (adapter.cachedReportValues success.call.feedId))
  · intro call adapter next _ values accepted
    obtain ⟨validates, stores⟩ := accept_stores accepted
    rw [stores]
    exact validates.precedes_stored
  · intro earlier call adapter next remembered ok values accepted
    obtain ⟨price, answered⟩ := stepOf_eq_ok.mp ok
    obtain ⟨_, accepts, _⟩ := decodeAndVerify_ok.mp answered
    rw [(accept_stores accepts).2]
    exact (remembered values accepted).stored
  · intro earlier call adapter next remembered _ sameFeed values values' accepted accepted'
    have precedes := remembered values accepted
    rw [sameFeed] at precedes
    exact precedes.validated (accept_stores accepted').1

/-- Every run of calls is answered, result or revert, as by the adapter that never uses the
cached hash; and over the run the values accepted for a feed never go back in time and never
change at a nonzero time. -/
theorem stork_cache_transparent (env : StorkEnv) (calls : List StorkCall)
    (collisionFree : CollisionFree env (calls.map StorkCall.updateData)) :
    answers (decodeAndVerify env) calls deployed =
      answers (referenceDecodeAndVerify env) calls deployed.cachedReportValues ∧
    (∀ success ∈ trace (stepOf (decodeAndVerify env)) calls deployed,
      ∃ values, Accepted env success values) ∧
    (trace (stepOf (decodeAndVerify env)) calls deployed).Pairwise fun first later =>
      first.call.feedId = later.call.feedId → ∀ values values',
        Accepted env first values → Accepted env later values' →
          values.timestampNs ≤ values'.timestampNs ∧
          (values.timestampNs = values'.timestampNs → values.timestampNs ≠ 0 →
            values.quantizedValue = values'.quantizedValue) := by
  refine ⟨?_, ?_, accepted_pairwise env calls deployed⟩
  · have start : Simulates env (calls.map StorkCall.updateData) deployed
        deployed.cachedReportValues := by
      refine ⟨?_, rfl⟩
      intro payload member empty
      exact absurd empty.symm (collisionFree.nonzero payload member)
    exact answers_simulation (fun call => call.updateData ∈ calls.map StorkCall.updateData)
      (Simulates env (calls.map StorkCall.updateData))
      (fun call adapter cached member simulates =>
        decodeAndVerify_simulates collisionFree simulates member)
      calls (fun call member => List.mem_map_of_mem member) start
  · intro success member
    obtain ⟨price, answered⟩ := stepOf_eq_ok.mp (mem_trace member)
    obtain ⟨values, accepted, _⟩ := decodeAndVerify_ok.mp answered
    exact ⟨values, accepted⟩

end RelaySettlement.StorkFastAdapter

namespace RelaySettlement

open StorkFastAdapter

namespace SampleReports

/-- A hash that keeps four bytes apart, and the last 32 bytes of longer data. -/
def env : StorkEnv := ⟨fun data => BitVec.ofNat 256 (Abi.readBigEndian data + 1), 4, fun _ => true⟩

theorem feedIds_injective (taxonomyId : BitVec 16) :
    Function.Injective (computeFeedId env taxonomyId) := by
  intro assetId assetId' same
  have bound := taxonomyId.isLt
  have small := assetId.isLt
  have small' := assetId'.isLt
  have read := congrArg BitVec.toNat same
  simp only [computeFeedId, env, Abi.readBigEndian_append, Abi.readBigEndian_bigEndian,
    Abi.length_bigEndian, BitVec.toNat_ofNat] at read
  apply BitVec.eq_of_toNat_eq
  omega

/-- A payload of taxonomy 1, with the time in seconds. -/
def payload (seconds : ℕ) (assets : List (ℕ × ℕ)) : Bytes :=
  List.replicate 65 0 ++ Abi.bigEndian 2 1 ++ Abi.bigEndian 8 (seconds * 1000000000) ++
    assets.flatMap fun (assetId, value) => Abi.bigEndian 2 assetId ++ Abi.bigEndian 16 value

def call (assetId : BitVec 16) (updateData : Bytes) : StorkCall :=
  ⟨4, computeFeedId env 1 assetId, updateData⟩

/-- The second call hits the cache.  The last one does not, and finds the first asset rolled
back. -/
def calls : List StorkCall :=
  [call 1 (payload 10 [(1, 5), (2, 7)]), call 2 (payload 10 [(1, 5), (2, 7)]),
    call 1 (payload 11 [(1, 6)]), call 2 (payload 10 [(1, 5), (2, 7)])]

end SampleReports

open SampleReports in
theorem stork_cache_transparent_sample :
    answers (decodeAndVerify env) SampleReports.calls deployed =
      [.ok ⟨5, 0, 0, 18, 10⟩, .ok ⟨7, 0, 0, 18, 10⟩, .ok ⟨6, 0, 0, 18, 11⟩,
        .error (.timestampRollback (computeFeedId env 1 1) 10000000000 11000000000)] ∧
      answers (decodeAndVerify env) SampleReports.calls deployed =
        answers (referenceDecodeAndVerify env) SampleReports.calls
          deployed.cachedReportValues :=
  ⟨by decide +kernel, (stork_cache_transparent env SampleReports.calls
    ⟨by decide +kernel, by decide +kernel, feedIds_injective⟩).1⟩

end RelaySettlement
