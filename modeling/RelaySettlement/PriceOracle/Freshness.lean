import RelaySettlement.PriceOracle.Core

/-!
# Prices are fresh and feeds do not roll back

The publish times the oracle records belong to a feed of a provider, while reads go by
token through routes and adapters that can be replaced at any time.  No configuration
touches the recorded times, and a read is checked against them after the adapter has
answered, so the order of the reads of a feed survives every reconfiguration and every
call an adapter makes into the oracle.
-/

open Evm

namespace RelaySettlement

namespace FeedRead

/-- When the price read was published. -/
abbrev publishTime (read : FeedRead) : U256 := read.resolved.feed.publishTime

/-- The bounds in force are within the limits, and the price was within them at the time of
the read. -/
structure Fresh (read : FeedRead) : Prop where
  maxAge : read.maxAgeSeconds.toNat ≤ 300
  maxFuture : read.maxFutureSeconds.toNat ≤ 60
  published : 0 < read.publishTime.toNat
  notFuture : read.publishTime.toNat ≤ read.timestamp.toNat + read.maxFutureSeconds.toNat
  expires : read.resolved.expiration.toNat =
    read.publishTime.toNat + read.maxAgeSeconds.toNat
  unexpired : read.timestamp.toNat ≤ read.resolved.expiration.toNat

/-- Two reads of one feed come in the order of their publish times. -/
def Ordered (earlier later : FeedRead) : Prop :=
  earlier.providerId = later.providerId → earlier.feedId = later.feedId →
    earlier.publishTime.toNat ≤ later.publishTime.toNat

end FeedRead

/-- Bounds within the limits. -/
structure PriceOracle.Bounded (oracle : PriceOracle) : Prop where
  ages : ∀ tokenId, (oracle.feedRoutes tokenId).maxAgeSeconds.toNat ≤ 300
  futures : ∀ providerId, (oracle.providerMaxFutureSeconds providerId).toNat ≤ 60

/-- Every read so far was fresh, and the recorded publish time of a feed is that of its
last read. -/
structure PriceWorld.Sound (world : PriceWorld) : Prop where
  bounded : world.oracle.Bounded
  fresh : ∀ read ∈ world.reads, read.Fresh
  recorded : ∀ read ∈ world.reads, read.publishTime.toNat ≤
    (world.oracle.cachedPublishTimes read.providerId read.feedId).toNat
  ordered : world.reads.Pairwise FeedRead.Ordered

/-! ## Configurations -/

namespace PriceOracle

variable {keccak256 : Bytes → Bytes32} {self sender : Address} {oracle next : PriceOracle}

/-- A configuration keeps the bounds within the limits and the publish times as they are. -/
structure Reconfigures (oracle next : PriceOracle) : Prop where
  bounded : oracle.Bounded → next.Bounded
  unrecorded : next.cachedPublishTimes = oracle.cachedPublishTimes

theorem Reconfigures.refl (oracle : PriceOracle) : Reconfigures oracle oracle := ⟨id, rfl⟩

theorem Reconfigures.trans {first second third : PriceOracle}
    (here : Reconfigures first second) (later : Reconfigures second third) :
    Reconfigures first third :=
  ⟨later.bounded ∘ here.bounded, later.unrecorded.trans here.unrecorded⟩

theorem storeFeedRoute_reconfigures {route : RouteArguments}
    (ok : storeFeedRoute keccak256 route oracle = .ok next) : Reconfigures oracle next := by
  simp only [storeFeedRoute, bind_eq_ok, require_eq_ok, pure_eq_ok] at ok
  obtain ⟨_, _, _, _, _, within, rfl⟩ := ok
  refine ⟨fun bounded => ⟨?_, bounded.futures⟩, rfl⟩
  intro tokenId
  simp only [set_apply]
  split
  · exact BitVec.le_def.mp within
  · exact bounded.ages tokenId

theorem storeFeedRoutes_reconfigures {routes : List RouteArguments}
    (ok : routes.foldlM (fun oracle route => storeFeedRoute keccak256 route oracle) oracle =
      .ok next) : Reconfigures oracle next := by
  induction routes generalizing oracle with
  | nil =>
      cases ok
      exact .refl _
  | cons route routes ih =>
      rw [List.foldlM_cons] at ok
      obtain ⟨middle, first, rest⟩ := bind_eq_ok.mp ok
      exact (storeFeedRoute_reconfigures first).trans (ih rest)

theorem deleteFeedRoute_reconfigures {currency : Currency}
    (ok : deleteFeedRoute keccak256 sender currency oracle = .ok next) :
    Reconfigures oracle next := by
  simp only [deleteFeedRoute, bind_eq_ok, require_eq_ok, pure_eq_ok] at ok
  obtain ⟨_, _, _, _, rfl⟩ := ok
  refine ⟨fun bounded => ⟨?_, bounded.futures⟩, rfl⟩
  intro tokenId
  simp only [set_apply]
  split
  · exact Nat.zero_le _
  · exact bounded.ages tokenId

theorem setPriceFeedAdapter_reconfigures {providerId : Bytes32} {adapter : Address}
    {maxFutureSeconds : BitVec 32} {result : Option Bytes}
    (ok : setPriceFeedAdapter self sender providerId adapter maxFutureSeconds result oracle =
      .ok next) : Reconfigures oracle next := by
  simp only [setPriceFeedAdapter, bind_eq_ok, require_eq_ok, orRevert_eq_ok, pure_eq_ok] at ok
  obtain ⟨_, _, _, _, _, _, _, _, _, _, _, _, _, _, _, within, rfl⟩ := ok
  refine ⟨fun bounded => ⟨bounded.ages, ?_⟩, rfl⟩
  intro providerId
  simp only [set_apply]
  split
  · exact BitVec.le_def.mp within
  · exact bounded.futures providerId

theorem configure_reconfigures {request : Configuration}
    (ok : configure keccak256 self sender request oracle = .ok next) :
    Reconfigures oracle next := by
  cases request with
  | setFeedRoute route =>
      obtain ⟨_, _, stored⟩ := bind_eq_ok.mp ok
      exact storeFeedRoute_reconfigures stored
  | setFeedRoutes currencies providerIds feedIds currencyDecimals maxAgeSeconds =>
      obtain ⟨_, _, checked⟩ := bind_eq_ok.mp ok
      obtain ⟨_, _, stored⟩ := bind_eq_ok.mp checked
      exact storeFeedRoutes_reconfigures stored
  | deleteFeedRoute currency => exact deleteFeedRoute_reconfigures ok
  | setPriceFeedAdapter providerId adapter maxFutureSeconds result =>
      exact setPriceFeedAdapter_reconfigures ok
  | setOwner owner =>
      cases ok
      exact ⟨fun bounded => ⟨bounded.ages, bounded.futures⟩, rfl⟩

end PriceOracle

/-! ## Reads -/

namespace PriceWorld

variable {world next : PriceWorld} {timestamp tokenId : U256}

theorem Sound.reconfigured {oracle : PriceOracle} (sound : world.Sound)
    (reconfigures : PriceOracle.Reconfigures world.oracle oracle) :
    Sound { world with oracle := oracle } where
  bounded := reconfigures.bounded sound.bounded
  fresh := sound.fresh
  recorded := by
    rw [reconfigures.unrecorded]
    exact sound.recorded
  ordered := sound.ordered

/-- What a read does after the adapter has answered: it serves a fresh price that is not
older than the recorded one, records it, and changes nothing else. -/
structure Serves (world next : PriceWorld) (read : FeedRead) : Prop where
  fresh : read.Fresh
  newest : (world.oracle.cachedPublishTimes read.providerId read.feedId).toNat ≤
    read.publishTime.toNat
  records : next.oracle.cachedPublishTimes =
    set₂ world.oracle.cachedPublishTimes read.providerId read.feedId read.publishTime
  reads : next.reads = world.reads ++ [read]
  bounded : world.oracle.Bounded → next.oracle.Bounded

/-- Writing the publish time only when it is newer leaves the mapping as writing it always
does, since it is never older. -/
theorem record_newest {times : Bytes32 → Bytes32 → U256} {providerId feedId : Bytes32}
    {publishTime : U256} (newest : times providerId feedId ≤ publishTime) :
    (if times providerId feedId < publishTime then
      set₂ times providerId feedId publishTime else times) =
      set₂ times providerId feedId publishTime := by
  split
  · rfl
  next unchanged =>
    have same : times providerId feedId = publishTime :=
      BitVec.le_antisymm newest (BitVec.not_lt.mp unchanged)
    funext providerId' feedId'
    rw [set₂_apply]
    split
    next here =>
      rw [here.1, here.2, same]
    · rfl

theorem resolveFeed_serves {source : FeedSource} {resolved : ResolvedFeed}
    (sound : world.Sound) (during : (source.during world).Sound)
    (ok : resolveFeed timestamp tokenId source world = .ok (resolved, next)) :
    ∃ read, Serves (source.during world) next read ∧ read.timestamp = timestamp ∧
      read.resolved = resolved := by
  simp only [resolveFeed, bind_eq_ok, require_eq_ok, orRevert_eq_ok, pure_eq_ok,
    checkedAdd_eq_ok, Prod.mk.injEq] at ok
  obtain ⟨_, _, _, _, _, _, feed, _, _, published, maxPublishTime, latest, _, notFuture,
    expiration, expires, _, unexpired, _, newest, rfl, rfl⟩ := ok
  have notFuture := BitVec.le_def.mp notFuture
  rw [toNat_widen (by decide)] at latest expires
  refine ⟨_, ⟨⟨sound.bounded.ages tokenId, during.bounded.futures _, toNat_pos published, ?_,
    expires, BitVec.le_def.mp unexpired⟩, BitVec.le_def.mp newest, record_newest newest, rfl,
    fun bounded => ⟨bounded.ages, bounded.futures⟩⟩, rfl, rfl⟩
  exact latest ▸ notFuture

theorem Serves.sound {read : FeedRead} (serves : Serves world next read)
    (sound : world.Sound) : next.Sound where
  bounded := serves.bounded sound.bounded
  fresh := by
    rw [serves.reads, List.forall_mem_append, List.forall_mem_singleton]
    exact ⟨sound.fresh, serves.fresh⟩
  recorded := by
    rw [serves.reads, serves.records, List.forall_mem_append, List.forall_mem_singleton]
    constructor
    · intro earlier member
      have before := sound.recorded earlier member
      rw [set₂_apply]
      split
      next same =>
        rw [same.1, same.2] at before
        exact before.trans serves.newest
      · exact before
    · rw [set₂_apply, if_pos ⟨rfl, rfl⟩]
  ordered := by
    rw [serves.reads, List.pairwise_append]
    refine ⟨sound.ordered, List.pairwise_singleton _ _, ?_⟩
    intro earlier member later isRead sameProvider sameFeed
    rw [List.mem_singleton.mp isRead] at sameProvider sameFeed ⊢
    have before := sound.recorded earlier member
    rw [sameProvider, sameFeed] at before
    exact before.trans serves.newest

/-- The world stays sound and keeps its reads. -/
def Continues (world next : PriceWorld) : Prop := next.Sound ∧ world.reads <+: next.reads

/-- Sources whose adapters leave a sound world behind. -/
def Careful (batch : List (U256 × FeedSource)) : Prop :=
  ∀ entry ∈ batch, ∀ world : PriceWorld, world.Sound → Continues world (entry.2.during world)

/-- What a batch returns are reads that it adds, at the time of the batch. -/
def Returns (world : PriceWorld) (timestamp : U256) (resolved : List ResolvedFeed)
    (next : PriceWorld) : Prop :=
  ∃ added served : List FeedRead, next.reads = world.reads ++ added ∧ served.Sublist added ∧
    resolved = served.map FeedRead.resolved ∧ ∀ read ∈ served, read.timestamp = timestamp

variable {batch : List (U256 × FeedSource)} {resolved : List ResolvedFeed}

theorem resolveFeeds_returns (careful : Careful batch) (sound : world.Sound)
    (ok : resolveFeeds timestamp batch world = .ok (resolved, next)) :
    next.Sound ∧ Returns world timestamp resolved next := by
  induction batch generalizing world resolved with
  | nil =>
      cases ok
      exact ⟨sound, [], [], (List.append_nil _).symm, .refl _, rfl, List.forall_mem_nil _⟩
  | cons entry batch ih =>
      rw [Careful, List.forall_mem_cons] at careful
      simp only [resolveFeeds, bind_eq_ok, pure_eq_ok, Prod.mk.injEq, Prod.exists] at ok
      obtain ⟨_, middle, here, others, last, rest, rfl, rfl⟩ := ok
      obtain ⟨during, caused, isCaused⟩ := careful.1 world sound
      obtain ⟨read, serves, isTime, rfl⟩ := resolveFeed_serves sound during here
      obtain ⟨kept, added, served, isAdded, among, rfl, times⟩ :=
        ih careful.2 (serves.sound during) rest
      refine ⟨kept, caused ++ read :: added, read :: served, ?_,
        (among.cons_cons read).trans (List.sublist_append_right _ _), rfl,
        List.forall_mem_cons.mpr ⟨isTime, times⟩⟩
      rw [isAdded, serves.reads, ← isCaused]
      simp only [List.append_assoc, List.singleton_append]

theorem resolveBatch_returns (careful : Careful batch) (sound : world.Sound)
    (ok : resolveBatch timestamp batch world = .ok (resolved, next)) :
    next.Sound ∧ Returns world timestamp resolved next := by
  obtain ⟨_, _, resolves⟩ := bind_eq_ok.mp ok
  exact resolveFeeds_returns careful sound resolves

theorem continues_of_returns (returns : next.Sound ∧ Returns world timestamp resolved next) :
    Continues world next := by
  obtain ⟨sound, added, _, isAdded, _⟩ := returns
  exact ⟨sound, added, isAdded.symm⟩

end PriceWorld

/-! ## Runs -/

open PriceWorld (Careful Continues)

-- The events an adapter causes are smaller than the read they belong to, so the four
-- functions of a run are followed together.
mutual
theorem PriceEvent.step_sound (env : PriceEnv) : (event : PriceEvent) →
    ∀ world next : PriceWorld, world.Sound → event.step env world = .ok next →
      Continues world next
  | .configure sender request => by
      intro world next sound ok
      simp only [PriceEvent.step, bind_eq_ok, pure_eq_ok] at ok
      obtain ⟨oracle, configured, rfl⟩ := ok
      exact ⟨sound.reconfigured (PriceOracle.configure_reconfigures configured), List.prefix_rfl⟩
  | .resolveUsdPrices timestamp reads => by
      intro world next sound ok
      simp only [PriceEvent.step, PriceWorld.resolveUsdPrices, bind_eq_ok, pure_eq_ok,
        Prod.exists, Prod.mk.injEq] at ok
      obtain ⟨_, _, ⟨_, _, resolves, _, rfl⟩, rfl⟩ := ok
      exact PriceWorld.continues_of_returns
        (PriceWorld.resolveBatch_returns (TokenRead.sources_careful env reads) sound resolves)
  | .resolveBidAskPrices timestamp reads => by
      intro world next sound ok
      simp only [PriceEvent.step, PriceWorld.resolveBidAskPrices, bind_eq_ok, pure_eq_ok,
        Prod.exists, Prod.mk.injEq] at ok
      obtain ⟨_, _, ⟨_, _, resolves, _, rfl⟩, rfl⟩ := ok
      exact PriceWorld.continues_of_returns
        (PriceWorld.resolveBatch_returns (TokenRead.sources_careful env reads) sound resolves)

theorem PriceEvent.runAll_sound (env : PriceEnv) : (events : List PriceEvent) →
    ∀ world : PriceWorld, world.Sound → Continues world (PriceEvent.runAll env events world)
  | [] => by
      intro world sound
      rw [PriceEvent.runAll]
      exact ⟨sound, List.prefix_rfl⟩
  | event :: events => by
      intro world sound
      rw [PriceEvent.runAll]
      cases outcome : event.step env world with
      | ok next =>
          have here := event.step_sound env world next sound outcome
          have later := PriceEvent.runAll_sound env events next here.1
          exact ⟨later.1, here.2.trans later.2⟩
      | error error => exact PriceEvent.runAll_sound env events world sound

theorem TokenRead.source_careful (env : PriceEnv) : (read : TokenRead) →
    ∀ world : PriceWorld, world.Sound → Continues world ((read.source env).2.during world)
  | .read tokenId feedUpdate during answer => by
      intro world sound
      rw [TokenRead.source]
      exact PriceEvent.runAll_sound env during world sound

theorem TokenRead.sources_careful (env : PriceEnv) : (reads : List TokenRead) →
    Careful (TokenRead.sources env reads)
  | [] => by
      rw [TokenRead.sources]
      exact List.forall_mem_nil _
  | read :: reads => by
      rw [TokenRead.sources, Careful, List.forall_mem_cons]
      exact ⟨read.source_careful env, TokenRead.sources_careful env reads⟩
end

/-- The world right after the oracle was deployed. -/
def PriceWorld.deployed (owner : Address) : PriceWorld := ⟨PriceOracle.deployed owner, []⟩

theorem PriceWorld.deployed_sound (owner : Address) : (PriceWorld.deployed owner).Sound where
  bounded := ⟨fun _ => Nat.zero_le 300, fun _ => Nat.zero_le 60⟩
  fresh := List.forall_mem_nil _
  recorded := List.forall_mem_nil _
  ordered := List.Pairwise.nil

/-- Over every run of configurations and reads, whatever the adapters answer and whatever
they do in the oracle before they answer: the bounds in force stay within the limits; every
read that is served has a positive publish time, at most 300 seconds old and at most 60
seconds ahead, and has not expired; the reads of a feed are served in the order of their
publish times; an event that reverts leaves the recorded publish times as they are; and the
prices that a batch returns are those of reads that are served in it, at its time. -/
theorem price_oracle_freshness (env : PriceEnv) (owner : Address) (events : List PriceEvent)
    (world : PriceWorld)
    (reached : PriceEvent.runAll env events (PriceWorld.deployed owner) = world) :
    (∀ tokenId, (world.oracle.feedRoutes tokenId).maxAgeSeconds.toNat ≤ 300) ∧
    (∀ providerId, (world.oracle.providerMaxFutureSeconds providerId).toNat ≤ 60) ∧
    (∀ read ∈ world.reads,
      read.maxAgeSeconds.toNat ≤ 300 ∧ read.maxFutureSeconds.toNat ≤ 60 ∧
      0 < read.publishTime.toNat ∧
      read.timestamp.toNat ≤ read.publishTime.toNat + 300 ∧
      read.publishTime.toNat ≤ read.timestamp.toNat + 60 ∧
      read.timestamp.toNat ≤ read.resolved.expiration.toNat) ∧
    world.reads.Pairwise (fun earlier later =>
      earlier.providerId = later.providerId → earlier.feedId = later.feedId →
        earlier.publishTime.toNat ≤ later.publishTime.toNat) ∧
    (∀ event error, event.step env world = .error error →
      (PriceEvent.runAll env [event] world).oracle.cachedPublishTimes =
        world.oracle.cachedPublishTimes) ∧
    ∀ timestamp reads next,
      (∀ prices, world.resolveUsdPrices timestamp (TokenRead.sources env reads) =
          .ok (prices, next) →
        ∃ resolved, world.Returns timestamp resolved next ∧
          prices = resolved.map ResolvedFeed.price) ∧
      ∀ prices, world.resolveBidAskPrices timestamp (TokenRead.sources env reads) =
          .ok (prices, next) →
        ∃ resolved, world.Returns timestamp resolved next ∧
          prices = resolved.map ResolvedFeed.bidAsk := by
  subst reached
  obtain ⟨sound, _⟩ := PriceEvent.runAll_sound env events _ (PriceWorld.deployed_sound owner)
  refine ⟨sound.bounded.ages, sound.bounded.futures, ?_, sound.ordered, ?_, ?_⟩
  · intro read member
    obtain ⟨maxAge, maxFuture, published, notFuture, expires, unexpired⟩ :=
      sound.fresh read member
    exact ⟨maxAge, maxFuture, published, by omega, by omega, unexpired⟩
  · intro event error reverted
    rw [PriceEvent.runAll, reverted]
    simp only [PriceEvent.runAll]
  · intro timestamp reads next
    have careful := TokenRead.sources_careful env reads
    constructor
    all_goals
      intro prices ok
      simp only [PriceWorld.resolveUsdPrices, PriceWorld.resolveBidAskPrices, bind_eq_ok,
        pure_eq_ok, Prod.exists, Prod.mk.injEq] at ok
      obtain ⟨resolved, _, resolves, rfl, rfl⟩ := ok
      exact ⟨resolved, (PriceWorld.resolveBatch_returns careful sound resolves).2, rfl⟩

namespace SamplePrices

/-- A hash that only counts, so that the currencies below have the token ids 1 and 2. -/
def env : PriceEnv := ⟨fun data => BitVec.ofNat 256 data.length, 9⟩

def route (currency : Bytes) (feedId : Bytes32) : PriceEvent :=
  .configure 1 (.setFeedRoute ⟨⟨[], currency⟩, 5, feedId, 18, 300⟩)

def adapter (account : Address) : PriceEvent :=
  .configure 1 (.setPriceFeedAdapter 5 account 60 (some (Abi.bigEndian 32 9)))

def read (timestamp tokenId publishTime : U256) (during : List PriceEvent) : PriceEvent :=
  .resolveUsdPrices timestamp
    [.read tokenId (some [1]) during (some ⟨100, 0, 0, 8, publishTime⟩)]

/-- Both tokens use one feed.  The adapter reads the second token before it answers for the
first; then the first token is moved to another feed and back, the adapter is replaced, and
its older price is refused. -/
def events : List PriceEvent :=
  [adapter 20, route [1] 6, route [1, 1] 6, read 1000 1 995 [read 1000 2 990 []],
    route [1] 7, read 1001 1 980 [], route [1] 6, adapter 21, read 1002 1 994 [],
    read 1003 1 1040 []]

end SamplePrices

open SamplePrices in
theorem price_oracle_freshness_sample :
    ∃ world, PriceEvent.runAll env events (PriceWorld.deployed 1) = world ∧
      world.reads.map (fun read => (read.feedId, read.publishTime)) =
        [(6, 990), (6, 995), (7, 980), (6, 1040)] ∧
      world.reads.Pairwise (fun earlier later =>
        earlier.providerId = later.providerId → earlier.feedId = later.feedId →
          earlier.publishTime.toNat ≤ later.publishTime.toNat) :=
  ⟨_, rfl, by decide +kernel, (price_oracle_freshness env 1 events _ rfl).2.2.2.1⟩

end RelaySettlement
