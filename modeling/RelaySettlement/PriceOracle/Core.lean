import RelaySettlement.Allocator.Core

/-!
# RelayPriceOracle

The oracle routes a token to a feed of a provider, fetches the latest signed update from
the price precompile and has the provider's adapter verify and decode it.  An adapter is
called without restrictions, so it may call back into the oracle before it answers; the
events of that time are part of the read.  A read that succeeds is recorded in the world
it leaves, and a revert drops the record with everything else.

A currency, a hub token id and an `ERC20View` all lead to a token id, so reads are given by
token ids.  `setOwner` stands for every way the ownership can change.
-/

open Evm

namespace RelaySettlement

/-- A USD price of one unit of a currency. -/
structure Price where
  usdPrice : U256
  usdPriceDecimals : BitVec 8
  currencyDecimals : BitVec 8
  publishTime : U256
  expiration : U256

/-- The mid price with its bid and ask. -/
structure BidAsk where
  midPrice : U256
  bidPrice : U256
  askPrice : U256
  usdPriceDecimals : BitVec 8
  currencyDecimals : BitVec 8
  publishTime : U256
  expiration : U256

/-- What `IPriceFeedAdapter.decodeAndVerify` returns. -/
structure FeedPrice where
  usdPrice : U256
  bid : U256
  ask : U256
  usdPriceDecimals : BitVec 8
  publishTime : U256
  deriving DecidableEq

/-- The feed a token is priced by; `configured` is the source's `exists`. -/
structure FeedRoute where
  providerId : Bytes32
  feedId : Bytes32
  currencyDecimals : BitVec 8
  maxAgeSeconds : BitVec 32
  configured : Bool

/-- A deleted or never configured route. -/
def FeedRoute.empty : FeedRoute := ⟨0, 0, 0, 0, false⟩

/-- The oracle's storage. -/
structure PriceOracle where
  owner : Address
  feedRoutes : U256 → FeedRoute
  priceFeedAdapters : Bytes32 → Address
  providerMaxFutureSeconds : Bytes32 → BitVec 32
  cachedPublishTimes : Bytes32 → Bytes32 → U256

/-- What `_resolveFeed` returns. -/
structure ResolvedFeed where
  feed : FeedPrice
  currencyDecimals : BitVec 8
  expiration : U256

namespace ResolvedFeed

/-- The end of `_resolveUsdPrice`. -/
def price (resolved : ResolvedFeed) : Price :=
  ⟨resolved.feed.usdPrice, resolved.feed.usdPriceDecimals, resolved.currencyDecimals,
    resolved.feed.publishTime, resolved.expiration⟩

/-- The end of `_resolveBidAskPrice`. -/
def bidAsk (resolved : ResolvedFeed) : BidAsk :=
  ⟨resolved.feed.usdPrice, resolved.feed.bid, resolved.feed.ask,
    resolved.feed.usdPriceDecimals, resolved.currencyDecimals, resolved.feed.publishTime,
    resolved.expiration⟩

end ResolvedFeed

/-- A successful read of a feed, with the bounds that were in force. -/
structure FeedRead where
  timestamp : U256
  providerId : Bytes32
  feedId : Bytes32
  maxAgeSeconds : BitVec 32
  maxFutureSeconds : BitVec 32
  resolved : ResolvedFeed

/-- The oracle with the reads it has served, oldest first. -/
structure PriceWorld where
  oracle : PriceOracle
  reads : List FeedRead

namespace PriceOracle

inductive Error where
  | ownableUnauthorizedAccount (account : Address)
  | invalidProviderId
  | invalidFeedId
  | invalidPriceFeedAdapter (adapter : Address)
  | invalidPriceFeedAdapterOracle (adapter expectedOracle actualOracle : Address)
  | invalidMaxFutureSeconds (maxFutureSeconds maxFutureSecondsUpperBound : BitVec 32)
  | invalidMaxAgeSeconds (maxAgeSeconds maxAgeSecondsUpperBound : BitVec 32)
  | arrayLengthMismatch (currencies providerIds feedIds currencyDecimals maxAgeSeconds : ℕ)
  | feedRouteNotFound (tokenId : U256)
  | priceFeedAdapterNotFound (providerId : Bytes32)
  | priceBatchTooLarge (length maxLength : ℕ)
  | priceExpired (expiration blockTimestamp : U256)
  | priceTimestampTooFarInFuture (publishTime maxPublishTime : U256)
  | invalidPublishTime
  | priceTimestampRollback (providerId feedId : Bytes32)
      (publishTime cachedPublishTime : U256)
  | priceFeedCallFailed
  | adapterReverted (adapter : Address)
  | arithmeticPanic
  deriving DecidableEq

/-- `MAX_PRICE_BATCH_SIZE`. -/
def maxPriceBatchSize : ℕ := 32

/-- `MAX_FUTURE_SECONDS_UPPER_BOUND`. -/
def maxFutureSecondsUpperBound : BitVec 32 := 60

/-- `MAX_AGE_SECONDS_UPPER_BOUND`. -/
def maxAgeSecondsUpperBound : BitVec 32 := 300

variable (keccak256 : Bytes → Bytes32)

/-- A currency of a chain. -/
structure Currency where
  chainId : Bytes
  currency : Bytes

def currencyToTokenId (currency : Currency) : U256 :=
  Utils.generateTokenId keccak256 currency.chainId currency.currency

/-! ## Configuration -/

/-- `constructor`. -/
def deployed (owner : Address) : PriceOracle :=
  ⟨owner, fun _ => .empty, fun _ => 0, fun _ => 0, fun _ _ => 0⟩

def onlyOwner (sender : Address) (oracle : PriceOracle) : Except Error Unit :=
  require (sender = oracle.owner) (.ownableUnauthorizedAccount sender)

/-- The arguments of `_setFeedRoute`. -/
structure RouteArguments where
  currency : Currency
  providerId : Bytes32
  feedId : Bytes32
  currencyDecimals : BitVec 8
  maxAgeSeconds : BitVec 32

/-- `_setFeedRoute`. -/
def storeFeedRoute (route : RouteArguments) (oracle : PriceOracle) :
    Except Error PriceOracle := do
  require (route.providerId ≠ 0) .invalidProviderId
  require (route.feedId ≠ 0) .invalidFeedId
  require (route.maxAgeSeconds ≤ maxAgeSecondsUpperBound)
    (.invalidMaxAgeSeconds route.maxAgeSeconds maxAgeSecondsUpperBound)
  return { oracle with
    feedRoutes := set oracle.feedRoutes (currencyToTokenId keccak256 route.currency)
      ⟨route.providerId, route.feedId, route.currencyDecimals, route.maxAgeSeconds, true⟩ }

def setFeedRoute (sender : Address) (route : RouteArguments) (oracle : PriceOracle) :
    Except Error PriceOracle := do
  onlyOwner sender oracle
  storeFeedRoute keccak256 route oracle

/-- The arguments with index `i` of the arrays of `setFeedRoutes`. -/
def zipRoutes : List Currency → List Bytes32 → List Bytes32 → List (BitVec 8) →
    List (BitVec 32) → List RouteArguments
  | currency :: currencies, providerId :: providerIds, feedId :: feedIds,
      decimals :: currencyDecimals, maxAge :: maxAgeSeconds =>
      ⟨currency, providerId, feedId, decimals, maxAge⟩ ::
        zipRoutes currencies providerIds feedIds currencyDecimals maxAgeSeconds
  | _, _, _, _, _ => []

def setFeedRoutes (sender : Address) (currencies : List Currency)
    (providerIds feedIds : List Bytes32) (currencyDecimals : List (BitVec 8))
    (maxAgeSeconds : List (BitVec 32)) (oracle : PriceOracle) :
    Except Error PriceOracle := do
  onlyOwner sender oracle
  require (currencies.length = providerIds.length ∧ currencies.length = feedIds.length ∧
      currencies.length = currencyDecimals.length ∧ currencies.length = maxAgeSeconds.length)
    (.arrayLengthMismatch currencies.length providerIds.length feedIds.length
      currencyDecimals.length maxAgeSeconds.length)
  (zipRoutes currencies providerIds feedIds currencyDecimals maxAgeSeconds).foldlM
    (fun oracle route => storeFeedRoute keccak256 route oracle) oracle

def deleteFeedRoute (sender : Address) (currency : Currency) (oracle : PriceOracle) :
    Except Error PriceOracle := do
  onlyOwner sender oracle
  let tokenId := currencyToTokenId keccak256 currency
  require ((oracle.feedRoutes tokenId).configured = true) (.feedRouteNotFound tokenId)
  return { oracle with feedRoutes := set oracle.feedRoutes tokenId .empty }

/-- `setPriceFeedAdapter`; `result` is what the adapter answers to `ORACLE()`, if it does. -/
def setPriceFeedAdapter (self sender : Address) (providerId : Bytes32) (adapter : Address)
    (maxFutureSeconds : BitVec 32) (result : Option Bytes) (oracle : PriceOracle) :
    Except Error PriceOracle := do
  onlyOwner sender oracle
  require (providerId ≠ 0) .invalidProviderId
  require (adapter ≠ 0) (.invalidPriceFeedAdapter adapter)
  let result ← orRevert result (.invalidPriceFeedAdapter adapter)
  require (result.length = 32) (.invalidPriceFeedAdapter adapter)
  let encodedOracle := Abi.readBigEndian result
  require (encodedOracle < 2 ^ 160) (.invalidPriceFeedAdapter adapter)
  let adapterOracle := BitVec.ofNat 160 encodedOracle
  require (adapterOracle = self) (.invalidPriceFeedAdapterOracle adapter self adapterOracle)
  require (maxFutureSeconds ≤ maxFutureSecondsUpperBound)
    (.invalidMaxFutureSeconds maxFutureSeconds maxFutureSecondsUpperBound)
  return { oracle with
    priceFeedAdapters := set oracle.priceFeedAdapters providerId adapter
    providerMaxFutureSeconds :=
      set oracle.providerMaxFutureSeconds providerId maxFutureSeconds }

/-- The calls that configure the oracle. -/
inductive Configuration where
  | setFeedRoute (route : RouteArguments)
  | setFeedRoutes (currencies : List Currency) (providerIds feedIds : List Bytes32)
      (currencyDecimals : List (BitVec 8)) (maxAgeSeconds : List (BitVec 32))
  | deleteFeedRoute (currency : Currency)
  | setPriceFeedAdapter (providerId : Bytes32) (adapter : Address)
      (maxFutureSeconds : BitVec 32) (result : Option Bytes)
  | setOwner (owner : Address)

def configure (self sender : Address) :
    Configuration → PriceOracle → Except Error PriceOracle
  | .setFeedRoute route => setFeedRoute keccak256 sender route
  | .setFeedRoutes currencies providerIds feedIds currencyDecimals maxAgeSeconds =>
      setFeedRoutes keccak256 sender currencies providerIds feedIds currencyDecimals
        maxAgeSeconds
  | .deleteFeedRoute currency => deleteFeedRoute keccak256 sender currency
  | .setPriceFeedAdapter providerId adapter maxFutureSeconds result =>
      setPriceFeedAdapter self sender providerId adapter maxFutureSeconds result
  | .setOwner owner => fun oracle => .ok { oracle with owner := owner }

end PriceOracle

/-! ## Reads -/

/-- How the contracts outside behave in the read of one feed: what the precompile returns,
what the adapter does to the world before it answers, and its answer.  `none` is a failed
call. -/
structure FeedSource where
  feedUpdate : Option Bytes
  during : PriceWorld → PriceWorld
  answer : Option FeedPrice

namespace PriceWorld

open PriceOracle (Error)

/-- `PriceOraclePrecompile.getFeedUpdate`: a failed call and an empty update revert. -/
def getFeedUpdate (source : FeedSource) : Except Error Bytes := do
  let out ← orRevert source.feedUpdate .priceFeedCallFailed
  require (out.length ≠ 0) .priceFeedCallFailed
  return out

/-- `_resolveFeed`.  The route is read before the adapter is called, the provider's
allowance and the publish time of the feed after. -/
def resolveFeed (timestamp tokenId : U256) (source : FeedSource) (world : PriceWorld) :
    Except Error (ResolvedFeed × PriceWorld) := do
  let route := world.oracle.feedRoutes tokenId
  require (route.configured = true) (.feedRouteNotFound tokenId)
  let adapter := world.oracle.priceFeedAdapters route.providerId
  require (adapter ≠ 0) (.priceFeedAdapterNotFound route.providerId)
  let _updateData ← getFeedUpdate source
  let world := source.during world
  let feed ← orRevert source.answer (.adapterReverted adapter)
  require (feed.publishTime ≠ 0) .invalidPublishTime
  let maxFutureSeconds := world.oracle.providerMaxFutureSeconds route.providerId
  let maxPublishTime ← checkedAdd .arithmeticPanic timestamp (maxFutureSeconds.setWidth 256)
  require (feed.publishTime ≤ maxPublishTime)
    (.priceTimestampTooFarInFuture feed.publishTime maxPublishTime)
  let expiration ← checkedAdd .arithmeticPanic feed.publishTime
    (route.maxAgeSeconds.setWidth 256)
  require (timestamp ≤ expiration) (.priceExpired expiration timestamp)
  let cachedPublishTime := world.oracle.cachedPublishTimes route.providerId route.feedId
  require (cachedPublishTime ≤ feed.publishTime)
    (.priceTimestampRollback route.providerId route.feedId feed.publishTime
      cachedPublishTime)
  let resolved : ResolvedFeed := ⟨feed, route.currencyDecimals, expiration⟩
  return (resolved,
    { oracle := { world.oracle with
        cachedPublishTimes :=
          if cachedPublishTime < feed.publishTime then
            set₂ world.oracle.cachedPublishTimes route.providerId route.feedId
              feed.publishTime
          else world.oracle.cachedPublishTimes }
      reads := world.reads ++ [⟨timestamp, route.providerId, route.feedId,
        route.maxAgeSeconds, maxFutureSeconds, resolved⟩] })

/-- The loops of `_resolveUsdPrices` and `_resolveBidAskPrices`. -/
def resolveFeeds (timestamp : U256) :
    List (U256 × FeedSource) → PriceWorld → Except Error (List ResolvedFeed × PriceWorld)
  | [], world => return ([], world)
  | (tokenId, source) :: rest, world => do
      let (resolved, world) ← resolveFeed timestamp tokenId source world
      let (others, world) ← resolveFeeds timestamp rest world
      return (resolved :: others, world)

/-- A batch of reads.  A single read is a batch of one. -/
def resolveBatch (timestamp : U256) (batch : List (U256 × FeedSource)) (world : PriceWorld) :
    Except Error (List ResolvedFeed × PriceWorld) := do
  require (batch.length ≤ PriceOracle.maxPriceBatchSize)
    (.priceBatchTooLarge batch.length PriceOracle.maxPriceBatchSize)
  resolveFeeds timestamp batch world

/-- `resolveUsdPrices`. -/
def resolveUsdPrices (timestamp : U256) (batch : List (U256 × FeedSource))
    (world : PriceWorld) : Except Error (List Price × PriceWorld) := do
  let (resolved, world) ← resolveBatch timestamp batch world
  return (resolved.map ResolvedFeed.price, world)

/-- `resolveBidAskPrices`. -/
def resolveBidAskPrices (timestamp : U256) (batch : List (U256 × FeedSource))
    (world : PriceWorld) : Except Error (List BidAsk × PriceWorld) := do
  let (resolved, world) ← resolveBatch timestamp batch world
  return (resolved.map ResolvedFeed.bidAsk, world)

end PriceWorld

/-! ## Events -/

mutual
/-- What can happen to the oracle: a configuration, or a batch of reads of mid prices or of
bids and asks. -/
inductive PriceEvent where
  | configure (sender : Address) (request : PriceOracle.Configuration)
  | resolveUsdPrices (timestamp : U256) (reads : List TokenRead)
  | resolveBidAskPrices (timestamp : U256) (reads : List TokenRead)

/-- The read of one token, with the events its adapter causes before it answers. -/
inductive TokenRead where
  | read (tokenId : U256) (feedUpdate : Option Bytes) (during : List PriceEvent)
      (answer : Option FeedPrice)
end

/-- What the oracle takes from its surroundings. -/
structure PriceEnv where
  keccak256 : Bytes → Bytes32
  self : Address

mutual
/-- One event. -/
def PriceEvent.step (env : PriceEnv) :
    PriceEvent → PriceWorld → Except PriceOracle.Error PriceWorld
  | .configure sender request, world => do
      let oracle ← PriceOracle.configure env.keccak256 env.self sender request world.oracle
      return { world with oracle := oracle }
  | .resolveUsdPrices timestamp reads, world => do
      let (_, world) ← world.resolveUsdPrices timestamp (TokenRead.sources env reads)
      return world
  | .resolveBidAskPrices timestamp reads, world => do
      let (_, world) ← world.resolveBidAskPrices timestamp (TokenRead.sources env reads)
      return world

/-- A list of events, each of which may revert. -/
def PriceEvent.runAll (env : PriceEnv) : List PriceEvent → PriceWorld → PriceWorld
  | [], world => world
  | event :: events, world =>
      match event.step env world with
      | .ok next => PriceEvent.runAll env events next
      | .error _ => PriceEvent.runAll env events world

/-- The surroundings of one read. -/
def TokenRead.source (env : PriceEnv) : TokenRead → U256 × FeedSource
  | .read tokenId feedUpdate during answer =>
      (tokenId, ⟨feedUpdate, PriceEvent.runAll env during, answer⟩)

/-- The surroundings of a batch of reads. -/
def TokenRead.sources (env : PriceEnv) : List TokenRead → List (U256 × FeedSource)
  | [] => []
  | read :: reads => read.source env :: TokenRead.sources env reads
end

end RelaySettlement
