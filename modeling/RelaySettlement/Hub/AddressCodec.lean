import RelaySettlement.Js.Text

/-!
# Hexadecimal addresses on the hub

`HubAddressCodec.encode` reads an address behind `0x` with OpenZeppelin's `tryParseHexUint`,
which by its documentation takes digits that have a `0x` of their own.
-/

open Evm

namespace RelaySettlement.HubAddressCodec

inductive Error where
  | invalidHexAddress (addr : Bytes)
  | invalidBase58Checksum (addr : Bytes)
  | unsupportedAddress (addr : Bytes)
  | arithmeticPanic
  deriving DecidableEq

/-- The digits of a text behind an optional `0x`. -/
def unmarked (text : Bytes) : Bytes := if [48, 120] <+: text then text.drop 2 else text

/-- What is documented of `tryParseHexUint`: texts of the form `(0x)?[0-9a-fA-F]*` are read as
numbers, as long as these fit, and other texts fail. -/
structure ParsesHexUint (tryParseHexUint : Bytes → Except Error (Option ℕ)) : Prop where
  parses : ∀ text, (unmarked text).length ≤ 64 →
    tryParseHexUint text = .ok ((unmarked text).foldlM (Js.appendDigit 16) 0)

variable (tryParseHexUint : Bytes → Except Error (Option ℕ))

/-- `_decodeHex`. -/
def decodeHex (addr : Bytes) : Except Error Bytes := do
  let byteLength := (addr.length - 2) / 2
  let value ← tryParseHexUint (addr.drop 2)
  require (value ≠ none ∧ addr.length % 2 = 0 ∧ byteLength ≤ 32) (.invalidHexAddress addr)
  return (List.range byteLength).map fun i =>
    UInt8.ofNat (value.getD 0 >>> (8 * (byteLength - 1 - i)))

/-- `encode`.  The addresses in bech32 and in base58 are read by `decodeText`. -/
def encode (decodeText : Bytes → Except Error Bytes) (addr : Bytes) : Except Error Bytes :=
  if addr.head? = some 48 ∧ (addr[1]? = some 120 ∨ addr[1]? = some 88) then
    decodeHex tryParseHexUint addr
  else decodeText addr

/-- A second `0x`, and digits behind it. -/
def DoublyMarked (text : Bytes) : Prop :=
  ∃ digits, text = 48 :: 120 :: digits ∧ Js.readHex digits ≠ none ∧ text.length ≤ 64

/-! ## What is parsed -/

variable {tryParseHexUint}

theorem length_unmarked {text : Bytes} :
    (unmarked text).length ≤ text.length ∧ (unmarked text).length % 2 = text.length % 2 := by
  rw [unmarked]
  split
  next marked =>
    have := marked.length_le
    rw [List.length_drop]
    change 2 ≤ _ at this
    omega
  next => exact ⟨Nat.le_refl _, rfl⟩

/-- The bytes that a text behind a mark is decoded to. -/
theorem decodeHex_eq_ok_iff (documented : ParsesHexUint tryParseHexUint) {mark : UInt8}
    {text out : Bytes} :
    decodeHex tryParseHexUint (48 :: mark :: text) = .ok out ↔
      text.length % 2 = 0 ∧ text.length ≤ 64 ∧ ∃ data, Js.readHex (unmarked text) = some data ∧
        out = Abi.bigEndian (text.length / 2) (Abi.readBigEndian data) := by
  obtain ⟨shorter, parity⟩ := @length_unmarked text
  simp only [decodeHex, List.length_cons, List.drop_succ_cons, List.drop_zero, Nat.add_assoc,
    Nat.reduceAdd, Nat.add_sub_cancel_right, bind_eq_ok, require_eq_ok, pure_eq_ok,
    Nat.shiftRight_eq_div_pow, Nat.pow_mul, Nat.reducePow]
  have parsed (short : text.length ≤ 64) (even : text.length % 2 = 0) :
      tryParseHexUint text = .ok ((Js.readHex (unmarked text)).map Abi.readBigEndian) := by
    rw [documented.parses text (shorter.trans short), Js.foldlM_eq_readHex (parity.trans even)]
    simp
  constructor
  · rintro ⟨value, isValue, _, ⟨isSome, even, short⟩, rfl⟩
    have even : text.length % 2 = 0 := by omega
    have short : text.length ≤ 64 := by omega
    rw [parsed short even] at isValue
    cases isValue
    cases read : Js.readHex (unmarked text) with
    | none => exact absurd (by rw [read]; rfl) isSome
    | some data => exact ⟨even, short, data, rfl, rfl⟩
  · rintro ⟨even, short, data, read, rfl⟩
    rw [parsed short even, read]
    exact ⟨_, rfl, (), ⟨by simp, by omega, by omega⟩, rfl⟩

theorem unmarked_eq_self {text : Bytes} (digits : Js.readHex text ≠ none) :
    unmarked text = text := by
  refine if_neg ?_
  rintro ⟨rest, rfl⟩
  exact digits rfl

/-- Text that is not doubly marked is decoded to the bytes that its digits spell. -/
theorem decodeHex_of_not_doublyMarked (documented : ParsesHexUint tryParseHexUint) {mark : UInt8}
    {text : Bytes} (single : ¬DoublyMarked text) (out : Bytes) :
    decodeHex tryParseHexUint (48 :: mark :: text) = .ok out ↔
      Js.readHex text = some out ∧ text.length ≤ 64 := by
  rw [decodeHex_eq_ok_iff documented]
  constructor
  · rintro ⟨even, short, data, read, rfl⟩
    have whole : unmarked text = text := by
      refine if_neg ?_
      rintro ⟨digits, rfl⟩
      exact single ⟨digits, rfl, ne_of_eq_of_ne read (Option.some_ne_none _), short⟩
    rw [whole] at read
    rw [Js.length_of_readHex read, Nat.mul_div_cancel_left _ (by decide),
      Abi.bigEndian_readBigEndian, ← Js.length_of_readHex read]
    exact ⟨read, short⟩
  · rintro ⟨read, short⟩
    have length := Js.length_of_readHex read
    refine ⟨by omega, short, out, ?_, ?_⟩
    · rwa [unmarked_eq_self (ne_of_eq_of_ne read (Option.some_ne_none _))]
    · rw [length, Nat.mul_div_cancel_left _ (by decide), Abi.bigEndian_readBigEndian]

theorem encode_marked {decodeText : Bytes → Except Error Bytes} {mark : UInt8}
    (isMark : mark = 120 ∨ mark = 88) (text : Bytes) :
    encode tryParseHexUint decodeText (48 :: mark :: text) =
      decodeHex tryParseHexUint (48 :: mark :: text) := by
  refine if_pos ⟨rfl, ?_⟩
  rcases isMark with rfl | rfl
  · exact .inl rfl
  · exact .inr rfl

/-- A text behind `0x` is encoded exactly if it consists of up to 64 digits, an even number, and
then to the bytes they spell, unless it has a second `0x` that is skipped.  Such texts are encoded
alike when they differ in the case of letters only. -/
theorem hub_hex_exact_iff_not_doubly_marked
    (tryParseHexUint : Bytes → Except Error (Option ℕ))
    (documented : ParsesHexUint tryParseHexUint) (decodeText : Bytes → Except Error Bytes)
    (mark : UInt8) (text : Bytes) (isMark : mark = 120 ∨ mark = 88) :
    ((∀ out, encode tryParseHexUint decodeText (48 :: mark :: text) = .ok out ↔
        Js.readHex text = some out ∧ text.length ≤ 64) ↔ ¬DoublyMarked text) ∧
    ∀ (mark' : UInt8) (text' out out' : Bytes), (mark' = 120 ∨ mark' = 88) →
      ¬DoublyMarked text → ¬DoublyMarked text' →
      encode tryParseHexUint decodeText (48 :: mark :: text) = .ok out →
      encode tryParseHexUint decodeText (48 :: mark' :: text') = .ok out' →
      (out = out' ↔ Text.toLowerCase text = Text.toLowerCase text') := by
  refine ⟨⟨?_, ?_⟩, ?_⟩
  · rintro exact ⟨digits, rfl, read, short⟩
    obtain ⟨data, isData⟩ := Option.ne_none_iff_exists'.mp read
    have length := Js.length_of_readHex isData
    have accepted : decodeHex tryParseHexUint (48 :: mark :: 48 :: 120 :: digits) = .ok _ :=
      (decodeHex_eq_ok_iff documented).mpr
        ⟨by simp only [List.length_cons]; omega, short, data, isData, rfl⟩
    rw [← encode_marked isMark] at accepted
    cases ((exact _).mp accepted).1
  · intro single out
    rw [encode_marked isMark]
    exact decodeHex_of_not_doublyMarked documented single out
  · intro mark' text' out out' isMark' single single' encoded encoded'
    rw [encode_marked isMark, decodeHex_of_not_doublyMarked documented single] at encoded
    rw [encode_marked isMark', decodeHex_of_not_doublyMarked documented single'] at encoded'
    exact (Js.toLowerCase_eq_iff encoded.1 encoded'.1).symm

/-- A parser that behaves as documented. -/
def sampleParser (text : Bytes) : Except Error (Option ℕ) :=
  .ok ((unmarked text).foldlM (Js.appendDigit 16) 0)

theorem sampleParser_documented : ParsesHexUint sampleParser := ⟨fun _ _ => rfl⟩

theorem hub_hex_exact_iff_not_doubly_marked_sample :
    encode sampleParser (fun addr => .error (.unsupportedAddress addr)) [48, 88, 48, 97, 70, 48] =
      .ok [0x0a, 0xf0] := by
  have single : ¬DoublyMarked [48, 97, 70, 48] := by
    rintro ⟨digits, same, _⟩
    cases same
  exact ((hub_hex_exact_iff_not_doubly_marked _ sampleParser_documented _ 88 [48, 97, 70, 48]
    (.inr rfl)).1.mpr single [0x0a, 0xf0]).mpr (by decide +kernel)

/-- The address `0x0x12` is encoded, with a zero in the place of the second mark. -/
theorem hub_hex_doubly_marked :
    ParsesHexUint sampleParser ∧
      encode sampleParser (fun addr => .error (.unsupportedAddress addr)) (Abi.utf8 "0x0x12") =
        .ok [0x00, 0x12] ∧
      Js.readHex (Abi.utf8 "0x12") = none :=
  ⟨sampleParser_documented, by decide +kernel, by decide +kernel⟩

end RelaySettlement.HubAddressCodec
