import RelaySettlement.Js.Check
import RelaySettlement.Js.Text

/-!
# Bitcoin addresses in the SDK

`encodeAddress` writes a legacy address as the mark `0xff` and what the address holds, without
its checksum, and `decodeAddress` computes the checksum again.  The deposit signer has a codec
of its own for the same bytes.

Base58, bech32 and the double SHA-256 are parameters.  A function that throws returns `none`.
-/

open Evm

namespace RelaySettlement.BitcoinAddress

/-- `bech32` or `bech32m`, with the human-readable part and the words of a text. -/
structure Bech32 where
  decode : Bytes → Option (Bytes × List ℕ)
  encode : Bytes → List ℕ → Option Bytes

/-- What the SDK takes from `bs58`, `bech32` and `bitcoinjs-lib`. -/
structure Libraries where
  decode58 : Bytes → Option Bytes
  encode58 : Bytes → Bytes
  bech32 : Bech32
  bech32m : Bech32
  toWords : Bytes → List ℕ
  fromWords : List ℕ → Option Bytes
  hash256 : Bytes → Bytes

/-- Base58 decoding and encoding are inverse. -/
def Libraries.Inverse (libraries : Libraries) : Prop :=
  ∀ text data, libraries.decode58 text = some data ↔ libraries.encode58 data = text

inductive AddressType where
  | p2pkh
  | p2sh
  | bech32
  | bech32m

variable (libraries : Libraries)

/-- The first word of a text for the main network. -/
def witnessVersion (codec : Bech32) (text : Bytes) : Option ℕ := do
  let (front, words) ← codec.decode text
  Js.ensure (front = Abi.utf8 "bc")
  words.head?

def getBitcoinAddressType (address : Bytes) : Option AddressType :=
  if [49] <+: address then some .p2pkh
  else if [51] <+: address then some .p2sh
  else if Abi.utf8 "bc1" <+: address then
    let lower := Text.toLowerCase address
    if witnessVersion libraries.bech32 lower = some 0 then some .bech32
    else if (witnessVersion libraries.bech32m lower).any (1 ≤ ·) then some .bech32m
    else none
  else none

/-- The version and the program of a segregated witness address. -/
def encodeProgram (words : List ℕ) : Option Bytes := do
  return UInt8.ofNat (← words.head?) :: (← libraries.fromWords words.tail)

/-- `decoded.slice(0, -4)`. -/
def withoutChecksum (decoded : Bytes) : Bytes := decoded.take (decoded.length - 4)

/-- `encodeAddress` for `bitcoin-vm`. -/
def encodeAddress (address : Bytes) : Option Bytes := do
  match ← getBitcoinAddressType libraries address with
  | .p2pkh | .p2sh => return 0xff :: withoutChecksum (← libraries.decode58 address)
  | .bech32 => encodeProgram libraries (← libraries.bech32.decode address).2
  | .bech32m => encodeProgram libraries (← libraries.bech32m.decode address).2

/-- What `decodeAddress` and the deposit signer ask of the bytes behind the mark. -/
def IsLegacyPayload (payload : Bytes) : Prop :=
  payload.length = 21 ∧ (payload.head? = some 0 ∨ payload.head? = some 5)

instance (payload : Bytes) : Decidable (IsLegacyPayload payload) :=
  inferInstanceAs (Decidable (_ ∧ _))

/-- `decodeAddress` for `bitcoin-vm`.  Of no bytes the version is undefined, which `bech32m` writes
as 0. -/
def decodeAddress : Bytes → Option Bytes
  | [] => libraries.bech32m.encode (Abi.utf8 "bc") (0 :: libraries.toWords [])
  | version :: program =>
      if version = 0xff then do
        Js.ensure (IsLegacyPayload program)
        return libraries.encode58 (program ++ (libraries.hash256 program).take 4)
      else
        (if version = 0 then libraries.bech32 else libraries.bech32m).encode (Abi.utf8 "bc")
          (version.toNat :: libraries.toWords program)

/-! ## The codec of the deposit signer -/

def encodeBase58CheckPayload (address : Bytes) : Option Bytes := do
  let decoded ← libraries.decode58 address
  Js.ensure (5 ≤ decoded.length)
  let payload := withoutChecksum decoded
  Js.ensure (decoded.drop (decoded.length - 4) = (libraries.hash256 payload).take 4)
  return payload

/-- `encodeBitcoinAddress`. -/
def encodeBitcoinAddress (address : Bytes) : Option Bytes :=
  if [49] <+: address ∨ [51] <+: address then do
    let payload ← encodeBase58CheckPayload libraries address
    Js.ensure (IsLegacyPayload payload)
    return 0xff :: payload
  else do
    let lower := Text.toLowerCase address
    Js.ensure (Abi.utf8 "bc1" <+: lower)
    if witnessVersion libraries.bech32 lower = some 0 then
      if let some encoded := (libraries.bech32.decode lower).bind (encodeProgram libraries ·.2) then
        return encoded
    let version ← witnessVersion libraries.bech32m lower
    Js.ensure (1 ≤ version)
    encodeProgram libraries (← libraries.bech32m.decode lower).2

/-- `decodeBitcoinAddress`: the decoder of the SDK behind a check of witness programs. -/
def decodeBitcoinAddress (encoded : Bytes) : Option Bytes := do
  Js.ensure (encoded.head? = some 0xff ∨ 3 ≤ encoded.length ∧ (encoded.headD 0).toNat ≤ 16)
  decodeAddress libraries encoded

/-! ## Legacy addresses -/

/-- The data of a legacy address: a version, a hash and the checksum of the two. -/
structure IsLegacy (data : Bytes) : Prop where
  length : data.length = 25
  version : data.head? = some 0 ∨ data.head? = some 5
  checksum : data.drop 21 = (libraries.hash256 (data.take 21)).take 4

instance (data : Bytes) : Decidable (IsLegacy libraries data) :=
  decidable_of_iff (_ ∧ _ ∧ _) ⟨fun ⟨a, b, c⟩ => ⟨a, b, c⟩, fun ⟨a, b, c⟩ => ⟨a, b, c⟩⟩

variable {libraries}

theorem encodeAddress_legacy {address : Bytes} (legacy : [49] <+: address ∨ [51] <+: address) :
    encodeAddress libraries address =
      (libraries.decode58 address).map fun data => 0xff :: withoutChecksum data := by
  by_cases first : [49] <+: address
  · rw [encodeAddress, getBitcoinAddressType, if_pos first, Option.map_eq_bind]
    rfl
  · rw [encodeAddress, getBitcoinAddressType, if_neg first, if_pos (legacy.resolve_left first),
      Option.map_eq_bind]
    rfl

/-- The deposit signer accepts the data of legacy addresses, and no other. -/
theorem encodeBitcoinAddress_legacy {address encoded : Bytes}
    (legacy : [49] <+: address ∨ [51] <+: address) :
    encodeBitcoinAddress libraries address = some encoded ↔
      ∃ data, libraries.decode58 address = some data ∧ IsLegacy libraries data ∧
        encoded = 0xff :: withoutChecksum data := by
  simp only [encodeBitcoinAddress, if_pos legacy, encodeBase58CheckPayload, bind_eq_some,
    Js.ensure_eq_some, Option.pure_def, Option.some_inj]
  constructor
  · rintro ⟨_, ⟨data, decoded, _, _, _, checksum, rfl⟩, _, ⟨length, version⟩, rfl⟩
    have length : data.length = 25 := by
      rw [withoutChecksum, List.length_take] at length
      omega
    rw [withoutChecksum, length, List.head?_take, if_neg (by decide)] at version
    rw [withoutChecksum, length] at checksum
    exact ⟨data, decoded, ⟨length, version, checksum⟩, rfl⟩
  · rintro ⟨data, decoded, ⟨length, version, checksum⟩, rfl⟩
    have payload : withoutChecksum data = data.take 21 := by rw [withoutChecksum, length]
    refine ⟨_, ⟨data, decoded, (), by omega, (), ?_, rfl⟩, (), ?_, rfl⟩
    · rw [payload, length]
      exact checksum
    · rw [payload, IsLegacyPayload, List.length_take, length, List.head?_take, if_neg (by decide)]
      exact ⟨rfl, version⟩

theorem decodeAddress_legacy {data address : Bytes} (inverse : libraries.Inverse)
    (decoded : libraries.decode58 address = some data) (legacy : IsLegacy libraries data) :
    decodeAddress libraries (0xff :: withoutChecksum data) = some address := by
  have payload : withoutChecksum data = data.take 21 := by rw [withoutChecksum, legacy.length]
  have accepted : IsLegacyPayload (data.take 21) := by
    rw [IsLegacyPayload, List.length_take, legacy.length, List.head?_take, if_neg (by decide)]
    exact ⟨rfl, legacy.version⟩
  have whole : data.take 21 ++ (libraries.hash256 (data.take 21)).take 4 = data := by
    rw [← legacy.checksum, List.take_append_drop]
  rw [decodeAddress, if_pos rfl, payload, Js.ensure, if_pos accepted, whole]
  exact congrArg some ((inverse address data).mp decoded)

/-- A legacy address that the SDK encodes is decoded to itself, and is encoded to the same bytes
by the deposit signer, when its data has the length, the version and the checksum of one. -/
theorem legacy_address_survives_iff_well_formed (libraries : Libraries)
    (inverse : libraries.Inverse) (address encoded : Bytes)
    (legacy : [49] <+: address ∨ [51] <+: address)
    (accepted : encodeAddress libraries address = some encoded) :
    (decodeAddress libraries encoded = some address ∧
        encodeBitcoinAddress libraries address = some encoded) ↔
      ∃ data, libraries.decode58 address = some data ∧ IsLegacy libraries data := by
  rw [encodeAddress_legacy legacy] at accepted
  obtain ⟨data, decoded, rfl⟩ := Option.map_eq_some_iff.mp accepted
  constructor
  · rintro ⟨_, signed⟩
    obtain ⟨data', decoded', wellFormed, _⟩ := (encodeBitcoinAddress_legacy legacy).mp signed
    exact ⟨data', decoded', wellFormed⟩
  · rintro ⟨data', decoded', wellFormed⟩
    cases decoded.symm.trans decoded'
    exact ⟨decodeAddress_legacy inverse decoded wellFormed,
      (encodeBitcoinAddress_legacy legacy).mpr ⟨data, decoded, wellFormed, rfl⟩⟩

namespace SampleLegacy

def payload : Bytes := List.replicate 21 0

/-- The address of 20 zeros. -/
def address : Bytes := List.replicate 21 49 ++ [52, 111, 76, 118, 84, 50]

/-- The address with another last character. -/
def mistyped : Bytes := List.replicate 21 49 ++ [52, 111, 76, 118, 84, 51]

def data : Bytes := payload ++ [0x94, 0xa0, 0x09, 0x11]

def mistypedData : Bytes := payload ++ [0x94, 0xa0, 0x09, 0x12]

/-- Base58 at the two addresses. -/
def base58 : Equiv.Perm Bytes :=
  (Equiv.swap address data).trans (Equiv.swap mistyped mistypedData)

def codecs : Libraries where
  decode58 := fun text => some (base58 text)
  encode58 := base58.symm
  bech32 := ⟨fun _ => none, fun _ _ => none⟩
  bech32m := ⟨fun _ => none, fun _ _ => none⟩
  toWords := fun _ => []
  fromWords := fun _ => none
  hash256 := fun text => if text = payload then [0x94, 0xa0, 0x09, 0x11] else []

theorem inverse : codecs.Inverse := by
  intro text data
  exact Option.some_inj.trans (eq_comm.trans base58.symm_apply_eq.symm)

end SampleLegacy

open SampleLegacy in
theorem legacy_address_survives_iff_well_formed_sample :
    decodeAddress codecs (0xff :: payload) = some address ∧
      encodeBitcoinAddress codecs address = some (0xff :: payload) :=
  (legacy_address_survives_iff_well_formed codecs inverse address (0xff :: payload)
    (by decide +kernel) (by decide +kernel)).mpr ⟨data, by decide +kernel, by decide +kernel⟩

open SampleLegacy in
/-- A mistyped address is encoded, and is decoded to another one. -/
theorem mistyped_legacy_address_accepted :
    codecs.Inverse ∧ [49] <+: mistyped ∧
      encodeAddress codecs mistyped = some (0xff :: payload) ∧
      decodeAddress codecs (0xff :: payload) = some address ∧ address ≠ mistyped ∧
      encodeBitcoinAddress codecs mistyped = none :=
  ⟨inverse, by decide +kernel, by decide +kernel, by decide +kernel, by decide +kernel,
    by decide +kernel⟩

end RelaySettlement.BitcoinAddress
