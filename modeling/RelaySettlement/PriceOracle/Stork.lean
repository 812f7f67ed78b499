import RelaySettlement.Evm.Answers
import RelaySettlement.Evm.Bitmap
import RelaySettlement.PriceOracle.Core

/-!
# StorkFastAdapter

The adapter for signed payloads that carry the values of a batch of assets at one time.
A payload is verified and its whole batch validated against the latest accepted values; a
payload that was the last one verified is recognised by its hash, and then only the
requested value is decoded from the raw bytes and validated.

The verifier is a fixed function: it accepts a payload or not, and decodes an accepted one
as 65 signature bytes, the taxonomy id, the timestamp and as many whole assets as fit.
Signed integers are words in two's complement.
-/

open Evm

namespace RelaySettlement

/-- The value of an asset at a time; an `int192` and nanoseconds. -/
structure CachedReportValues where
  quantizedValue : BitVec 192
  timestampNs : BitVec 64
  deriving DecidableEq

/-- One asset of a decoded payload. -/
structure StorkAsset where
  assetId : BitVec 16
  values : CachedReportValues
  deriving DecidableEq

/-- The adapter's storage. -/
structure StorkFastAdapter where
  cachedReportHash : Bytes32
  cachedReportValues : Bytes32 → CachedReportValues

/-- What the adapter takes from its surroundings. -/
structure StorkEnv where
  keccak256 : Bytes → Bytes32
  oracle : Address
  accepts : Bytes → Bool

/-- A call of `decodeAndVerify`. -/
structure StorkCall where
  sender : Address
  feedId : Bytes32
  updateData : Bytes

namespace StorkFastAdapter

inductive Error where
  | unauthorizedCaller (caller : Address)
  | verificationFailed
  | feedNotInPayload (feedId : Bytes32)
  | nonPositivePrice (quantizedValue : BitVec 192)
  | duplicateAssetId (assetId : BitVec 16)
  | timestampRollback (feedId : Bytes32) (timestampNs latestTimestampNs : BitVec 64)
  | conflictingPriceAtTimestamp (feedId : Bytes32) (timestampNs : BitVec 64)
      (latestValue newValue : BitVec 192)
  | sliceOutOfBounds
  | arithmeticPanic
  deriving DecidableEq

def usdPriceDecimals : BitVec 8 := 18

def taxonomyIdOffset : ℕ := 65

def timestampNsOffset : ℕ := 67

def assetsOffset : ℕ := 75

def assetBytes : ℕ := 18

def assetIdBytes : ℕ := 2

def nsPerSecond : U256 := 1000000000

/-! ## The verifier -/

/-- An unsigned integer at the beginning of some bytes. -/
def readUInt (width : ℕ) (data : Bytes) : BitVec width :=
  BitVec.ofNat width (Abi.readBigEndian (data.take (width / 8)))

/-- The first assets of the bytes after the payload's header. -/
def deserializeAssets (timestampNs : BitVec 64) : ℕ → Bytes → List StorkAsset
  | 0, _ => []
  | count + 1, data =>
      let value := readUInt 128 (data.drop assetIdBytes)
      ⟨readUInt 16 data, ⟨value.signExtend 192, timestampNs⟩⟩ ::
        deserializeAssets timestampNs count (data.drop assetBytes)

/-- `verifyAndDeserializeSignedECDSAPayload`.  A payload without a whole header is never
accepted. -/
def verifyAndDeserialize (accepts : Bytes → Bool) (payload : Bytes) :
    Option (List StorkAsset) :=
  if accepts payload = true ∧ assetsOffset ≤ payload.length then
    some (deserializeAssets (readUInt 64 (payload.drop timestampNsOffset))
      ((payload.length - assetsOffset) / assetBytes) (payload.drop assetsOffset))
  else
    none

/-! ## The adapter -/

variable (env : StorkEnv)

/-- `keccak256(abi.encodePacked(taxonomyId, assetId))`. -/
def computeFeedId (taxonomyId assetId : BitVec 16) : Bytes32 :=
  env.keccak256 (Abi.bigEndian 2 taxonomyId.toNat ++ Abi.bigEndian 2 assetId.toNat)

/-- The slice `data[start:stop]` of calldata. -/
def slice (data : Bytes) (start stop : ℕ) : Except Error Bytes := do
  require (stop ≤ data.length) .sliceOutOfBounds
  return (data.drop start).take (stop - start)

/-- `_validateReportValues`. -/
def validateReportValues (feedId : Bytes32) (values : CachedReportValues)
    (cachedReportValues : Bytes32 → CachedReportValues) : Except Error Unit := do
  let cached := cachedReportValues feedId
  if cached.timestampNs = 0 then
    return ()
  else
    require (cached.timestampNs ≤ values.timestampNs)
      (.timestampRollback feedId values.timestampNs cached.timestampNs)
    require (¬ (values.timestampNs = cached.timestampNs ∧
        values.quantizedValue ≠ cached.quantizedValue))
      (.conflictingPriceAtTimestamp feedId values.timestampNs cached.quantizedValue
        values.quantizedValue)

/-- The loop of `_validateBatch`.  `requested` is the pair of `requestedValues` and
`foundRequestedFeed`. -/
def validateBatch (taxonomyId : BitVec 16) (requestedFeedId : Bytes32)
    (cachedReportValues : Bytes32 → CachedReportValues) :
    List StorkAsset → Bitmap → Option CachedReportValues → Except Error CachedReportValues
  | [], _, requested => orRevert requested (.feedNotInPayload requestedFeedId)
  | asset :: assets, seenAssetIds, requested => do
      require (seenAssetIds.contains asset.assetId.toNat = false)
        (.duplicateAssetId asset.assetId)
      let assetFeedId := computeFeedId env taxonomyId asset.assetId
      validateReportValues assetFeedId asset.values cachedReportValues
      validateBatch taxonomyId requestedFeedId cachedReportValues assets
        (seenAssetIds.insert asset.assetId.toNat)
        (if assetFeedId = requestedFeedId then some asset.values else requested)

/-- `_verifyReport`. -/
def verifyReport (feedId : Bytes32) (updateData : Bytes)
    (cachedReportValues : Bytes32 → CachedReportValues) : Except Error CachedReportValues := do
  let assets ← orRevert (verifyAndDeserialize env.accepts updateData) .verificationFailed
  let taxonomyId ← slice updateData taxonomyIdOffset (taxonomyIdOffset + 2)
  validateBatch env (readUInt 16 taxonomyId) feedId cachedReportValues assets .empty none

/-- The loop of `_decodeCachedReportValues` over the asset indices that remain. -/
def findReportValues (taxonomyId : BitVec 16) (timestampNs : BitVec 64)
    (requestedFeedId : Bytes32) (updateData : Bytes) :
    List ℕ → Except Error CachedReportValues
  | [] => .error (.feedNotInPayload requestedFeedId)
  | i :: rest => do
      let offset := assetsOffset + i * assetBytes
      let assetId ← slice updateData offset (offset + 2)
      if computeFeedId env taxonomyId (readUInt 16 assetId) = requestedFeedId then
        let quantizedValue ← slice updateData (offset + assetIdBytes) (offset + assetBytes)
        return ⟨(readUInt 128 quantizedValue).signExtend 192, timestampNs⟩
      else
        findReportValues taxonomyId timestampNs requestedFeedId updateData rest

/-- `_decodeCachedReportValues`. -/
def decodeCachedReportValues (requestedFeedId : Bytes32) (updateData : Bytes) :
    Except Error CachedReportValues := do
  let taxonomyId ← slice updateData taxonomyIdOffset (taxonomyIdOffset + 2)
  let timestampNs ← slice updateData timestampNsOffset (timestampNsOffset + 8)
  require (assetsOffset ≤ updateData.length) .arithmeticPanic
  let numAssets := (updateData.length - assetsOffset) / assetBytes
  findReportValues env (readUInt 16 taxonomyId) (readUInt 64 timestampNs) requestedFeedId
    updateData (List.range numAssets)

/-- `_storeReportValues`. -/
def storeReportValues (feedId : Bytes32) (values : CachedReportValues)
    (cachedReportValues : Bytes32 → CachedReportValues) : Bytes32 → CachedReportValues :=
  if (cachedReportValues feedId).timestampNs < values.timestampNs then
    set cachedReportValues feedId values
  else
    cachedReportValues

/-- The report values behind a request, from the raw bytes of the cached payload or from
the verifier, and the adapter with the hash of that payload. -/
def requestedValues (feedId : Bytes32) (updateData : Bytes) (adapter : StorkFastAdapter) :
    Except Error (CachedReportValues × StorkFastAdapter) := do
  let reportHash := env.keccak256 updateData
  if adapter.cachedReportHash = reportHash then
    let values ← decodeCachedReportValues env feedId updateData
    validateReportValues feedId values adapter.cachedReportValues
    return (values, adapter)
  else
    let values ← verifyReport env feedId updateData adapter.cachedReportValues
    return (values, { adapter with cachedReportHash := reportHash })

/-- Everything `decodeAndVerify` does before it returns: the accepted report values, and
the adapter that has stored them. -/
def accept (call : StorkCall) (adapter : StorkFastAdapter) :
    Except Error (CachedReportValues × StorkFastAdapter) := do
  require (call.sender = env.oracle) (.unauthorizedCaller call.sender)
  let (values, adapter) ← requestedValues env call.feedId call.updateData adapter
  require (0 < values.quantizedValue.toInt) (.nonPositivePrice values.quantizedValue)
  return (values, { adapter with
    cachedReportValues := storeReportValues call.feedId values adapter.cachedReportValues })

/-- What `decodeAndVerify` returns for accepted report values. -/
def feedPrice (values : CachedReportValues) : FeedPrice :=
  ⟨values.quantizedValue.setWidth 256, 0, 0, usdPriceDecimals,
    values.timestampNs.setWidth 256 / nsPerSecond⟩

def decodeAndVerify (call : StorkCall) (adapter : StorkFastAdapter) :
    Except Error (FeedPrice × StorkFastAdapter) := do
  let (values, adapter) ← accept env call adapter
  return (feedPrice values, adapter)

/-- The adapter right after deployment. -/
def deployed : StorkFastAdapter := ⟨0, fun _ => ⟨0, 0⟩⟩

/-! ## The adapter without a cache -/

/-- An adapter that verifies every payload and validates its whole batch.  Its storage is
the accepted report values only. -/
def referenceAccept (call : StorkCall) (cachedReportValues : Bytes32 → CachedReportValues) :
    Except Error (CachedReportValues × (Bytes32 → CachedReportValues)) := do
  require (call.sender = env.oracle) (.unauthorizedCaller call.sender)
  let values ← verifyReport env call.feedId call.updateData cachedReportValues
  require (0 < values.quantizedValue.toInt) (.nonPositivePrice values.quantizedValue)
  return (values, storeReportValues call.feedId values cachedReportValues)

def referenceDecodeAndVerify (call : StorkCall)
    (cachedReportValues : Bytes32 → CachedReportValues) :
    Except Error (FeedPrice × (Bytes32 → CachedReportValues)) := do
  let (values, cachedReportValues) ← referenceAccept env call cachedReportValues
  return (feedPrice values, cachedReportValues)

end StorkFastAdapter

end RelaySettlement
