import RelaySettlement.Evm.Text

/-!
# Numbers and bytes in JavaScript texts

Texts are the byte strings they are encoded as.  `BigInt` reads a text as a whole number, in
decimal or behind a mark in another base.  `toString` writes one without leading zeros, and
`padStart` and `padEnd` fill a text up to a width.  A conversion that throws returns `none`.
-/

open Evm

namespace Js

/-! ## Writing numbers -/

/-- `padStart` with one character. -/
def padStart (width : ℕ) (filler : UInt8) (text : Bytes) : Bytes :=
  List.replicate (width - text.length) filler ++ text

/-- `padEnd` with one character. -/
def padEnd (width : ℕ) (filler : UInt8) (text : Bytes) : Bytes :=
  text ++ List.replicate (width - text.length) filler

variable {text data : Bytes}

theorem padEnd_of_le {width : ℕ} (long : width ≤ text.length) (filler : UInt8) :
    padEnd width filler text = text := by
  rw [padEnd, Nat.sub_eq_zero_of_le long, List.replicate_zero, List.append_nil]

section Numerals

variable (base : ℕ) (symbol : ℕ → UInt8)

/-- The digits of a number, without leading zeros. -/
def numeral (value : ℕ) : Bytes :=
  if value = 0 then [symbol 0] else ((Nat.digits base value).map symbol).reverse

/-- The low digits of a number. -/
def fixedNumeral : ℕ → ℕ → Bytes
  | 0, _ => []
  | width + 1, value => fixedNumeral width (value / base) ++ [symbol (value % base)]

variable {base symbol}

theorem length_fixedNumeral (width value : ℕ) :
    (fixedNumeral base symbol width value).length = width := by
  induction width generalizing value with
  | zero => rfl
  | succ width ih => rw [fixedNumeral, List.length_append, ih, List.length_singleton]

theorem fixedNumeral_eq (large : 1 < base) {width value : ℕ} (small : value < base ^ width) :
    fixedNumeral base symbol width value =
      List.replicate (width - (Nat.digits base value).length) (symbol 0) ++
        ((Nat.digits base value).map symbol).reverse := by
  induction width generalizing value with
  | zero =>
      have zero : value = 0 := by simpa using small
      rw [fixedNumeral, zero, Nat.digits_zero]
      rfl
  | succ width ih =>
      have smaller : value / base < base ^ width := by
        apply Nat.div_lt_of_lt_mul
        rwa [← Nat.pow_succ']
      rw [fixedNumeral, ih smaller]
      by_cases zero : value = 0
      · simp [zero, List.replicate_succ']
      · rw [Nat.digits_def' large (Nat.pos_of_ne_zero zero), List.length_cons,
          Nat.add_sub_add_right, List.map_cons, List.reverse_cons, List.append_assoc]

/-- A number that is filled up with zeros shows all digits of the width. -/
theorem padStart_numeral (large : 1 < base) {width value : ℕ} (positive : 0 < width)
    (small : value < base ^ width) :
    padStart width (symbol 0) (numeral base symbol value) =
      fixedNumeral base symbol width value := by
  rw [fixedNumeral_eq large small, padStart, numeral]
  split
  next zero =>
    rw [zero, Nat.digits_zero, List.length_singleton, List.length_nil, Nat.sub_zero,
      List.map_nil, List.reverse_nil, List.append_nil, ← List.replicate_succ',
      Nat.sub_add_cancel positive]
  next => rw [List.length_reverse, List.length_map]

end Numerals

theorem fixedDecimal_eq (width value : ℕ) :
    Text.fixedDecimal width value = fixedNumeral 10 Text.decimalDigit width value := by
  induction width generalizing value with
  | zero => rfl
  | succ width ih => rw [Text.fixedDecimal, fixedNumeral, ih]

/-- `toString(16)`. -/
def toString16 : ℤ → Bytes
  | .ofNat value => numeral 16 Text.hexSymbol value
  | .negSucc value => 45 :: numeral 16 Text.hexSymbol (value + 1)

/-- The digits of a width, by their place from the left. -/
theorem fixedNumeral_eq_map (base : ℕ) (symbol : ℕ → UInt8) (width value : ℕ) :
    fixedNumeral base symbol width value =
      (List.range width).map fun i => symbol (value / base ^ (width - 1 - i) % base) := by
  induction width generalizing value with
  | zero => rfl
  | succ width ih =>
      rw [fixedNumeral, ih, List.range_succ, List.map_append, List.map_singleton]
      congr 1
      · apply List.map_congr_left
        intro i inside
        have place : width + 1 - 1 - i = width - 1 - i + 1 := by
          have := List.mem_range.mp inside
          omega
        rw [place, Nat.pow_succ', Nat.div_div_eq_div_mul]
      · rw [Nat.add_sub_cancel, Nat.sub_self, Nat.pow_zero, Nat.div_one]

/-! ## Reading digits -/

/-- The value of a digit, in any base up to 16. -/
def digitValue (character : UInt8) : Option ℕ :=
  let code := character.toNat
  if 48 ≤ code ∧ code ≤ 57 then some (code - 48)
  else if 97 ≤ code ∧ code ≤ 102 then some (code - 87)
  else if 65 ≤ code ∧ code ≤ 70 then some (code - 55)
  else none

theorem digitValue_decimalDigit : ∀ digit < 10,
    digitValue (Text.decimalDigit digit) = some digit := by
  decide

theorem digitValue_hexSymbol : ∀ digit < 16, digitValue (Text.hexSymbol digit) = some digit := by
  decide +kernel

/-- One more digit behind a number. -/
def appendDigit (base value : ℕ) (character : UInt8) : Option ℕ := do
  let digit ← digitValue character
  if digit < base then return value * base + digit else none

/-- The number that a text of at least one digit denotes. -/
def readDigits (base : ℕ) (text : Bytes) : Option ℕ :=
  if text = [] then none else text.foldlM (appendDigit base) 0

section ReadDigits

variable {base : ℕ} {symbol : ℕ → UInt8}
variable (reads : ∀ digit < base, digitValue (symbol digit) = some digit)

include reads

theorem appendDigit_symbol (value : ℕ) {digit : ℕ} (small : digit < base) :
    appendDigit base value (symbol digit) = some (value * base + digit) := by
  rw [appendDigit, reads digit small, some_bind, if_pos small]
  rfl

theorem foldlM_digits (large : 1 < base) (value : ℕ) :
    ((Nat.digits base value).map symbol).reverse.foldlM (appendDigit base) 0 = some value := by
  induction value using Nat.strongRecOn with
  | ind value ih =>
      by_cases zero : value = 0
      · rw [zero, Nat.digits_zero]
        rfl
      · have positive := Nat.pos_of_ne_zero zero
        rw [Nat.digits_def' large positive, List.map_cons, List.reverse_cons, List.foldlM_append,
          ih _ (Nat.div_lt_self positive large), some_bind, List.foldlM_cons,
          appendDigit_symbol reads _ (Nat.mod_lt _ (Nat.lt_trans one_pos large)), Nat.div_add_mod']
        rfl

theorem foldlM_fixedNumeral (positive : 0 < base) (width value start : ℕ) :
    (fixedNumeral base symbol width value).foldlM (appendDigit base) start =
      some (start * base ^ width + value % base ^ width) := by
  induction width generalizing value with
  | zero => simp [fixedNumeral, Nat.mod_one]
  | succ width ih =>
      have next : (start * base ^ width + value / base % base ^ width) * base + value % base =
          start * base ^ (width + 1) + value % base ^ (width + 1) := by
        rw [Nat.pow_succ', Nat.mod_mul]
        ring
      rw [fixedNumeral, List.foldlM_append, ih, some_bind, List.foldlM_cons,
        appendDigit_symbol reads _ (Nat.mod_lt _ positive), next]
      rfl

/-- The digits of a width determine a number that fits. -/
theorem fixedNumeral_inj (positive : 0 < base) {width value value' : ℕ}
    (small : value < base ^ width) (small' : value' < base ^ width)
    (same : fixedNumeral base symbol width value = fixedNumeral base symbol width value') :
    value = value' := by
  have read := foldlM_fixedNumeral reads positive width value 0
  rw [same, foldlM_fixedNumeral reads positive, Nat.mod_eq_of_lt small,
    Nat.mod_eq_of_lt small'] at read
  simpa using read.symm

theorem readDigits_numeral (large : 1 < base) (value : ℕ) :
    readDigits base (numeral base symbol value) = some value := by
  rw [numeral]
  split
  next zero =>
    have first := appendDigit_symbol reads 0 (Nat.lt_trans one_pos large)
    rw [readDigits, if_neg (List.cons_ne_nil _ _), List.foldlM_cons, first, zero]
    simp
  next nonzero =>
    have filled : ((Nat.digits base value).map symbol).reverse ≠ [] := by
      simpa using Nat.digits_ne_nil_iff_ne_zero.mpr nonzero
    rw [readDigits, if_neg filled, foldlM_digits reads large]

end ReadDigits

theorem readDigits_decimal (value : ℕ) : readDigits 10 (Text.decimal value) = some value :=
  readDigits_numeral digitValue_decimalDigit (by decide) value

instance : DecidablePred Text.IsDigit := fun character =>
  inferInstanceAs (Decidable (48 ≤ character.toNat ∧ character.toNat ≤ 57))

/-- The number in a text that matches `/^(0|[1-9][0-9]*)$/`. -/
def readCanonical : Bytes → Option ℕ
  | [] => none
  | first :: rest =>
      if first = 48 ∧ rest = [] ∨ first ≠ 48 ∧ ∀ character ∈ first :: rest, Text.IsDigit character
      then some (Text.readDecimal (first :: rest)) else none

theorem decimal_ne_nil (value : ℕ) : Text.decimal value ≠ [] := by
  rw [Text.decimal]
  split
  · exact List.cons_ne_nil _ _
  next nonzero => simpa using Nat.digits_ne_nil_iff_ne_zero.mpr nonzero

/-- The first digit of a number is not 0, unless the number is. -/
theorem decimal_first {value : ℕ} {first : UInt8} {rest : Bytes}
    (same : Text.decimal value = first :: rest) : first = 48 ∧ rest = [] ∨ first ≠ 48 := by
  rw [Text.decimal] at same
  split at same
  next =>
    cases same
    exact .inl ⟨rfl, rfl⟩
  next nonzero =>
    right
    have filled : Nat.digits 10 value ≠ [] := Nat.digits_ne_nil_iff_ne_zero.mpr nonzero
    have leading := Nat.getLast_digit_ne_zero 10 nonzero
    have small : (Nat.digits 10 value).getLast filled < 10 :=
      Nat.digits_lt_base (by decide) (List.getLast_mem filled)
    have isFirst : Text.decimalDigit ((Nat.digits 10 value).getLast filled) = first := by
      have heads := congrArg List.head? same
      rw [List.head?_reverse, List.getLast?_map, List.getLast?_eq_some_getLast filled] at heads
      exact Option.some.inj heads
    have nonzeroDigits : ∀ digit < 10, digit ≠ 0 → Text.decimalDigit digit ≠ 48 := by decide
    exact isFirst ▸ nonzeroDigits _ small leading

theorem readCanonical_decimal (value : ℕ) : readCanonical (Text.decimal value) = some value := by
  obtain ⟨first, rest, same⟩ := List.exists_cons_of_ne_nil (decimal_ne_nil value)
  have digits : ∀ character ∈ first :: rest, Text.IsDigit character := by
    rw [← same]
    exact fun _ => Text.isDigit_of_mem_decimal
  have canonical : first = 48 ∧ rest = [] ∨
      first ≠ 48 ∧ ∀ character ∈ first :: rest, Text.IsDigit character :=
    (decimal_first same).imp_right fun nonzero => ⟨nonzero, digits⟩
  rw [same, readCanonical, if_pos canonical, ← same, Text.readDecimal_decimal]

/-! ## `BigInt` -/

/-- The characters that are trimmed: white space and line terminators. -/
def spaces : List Bytes :=
  [[9], [10], [11], [12], [13], [32], [0xc2, 0xa0], [0xe1, 0x9a, 0x80]] ++
    (List.range 11).map (fun i => [0xe2, 0x80, UInt8.ofNat (0x80 + i)]) ++
    [[0xe2, 0x80, 0xa8], [0xe2, 0x80, 0xa9], [0xe2, 0x80, 0xaf], [0xe2, 0x81, 0x9f],
      [0xe3, 0x80, 0x80], [0xef, 0xbb, 0xbf]]

/-- Removes marks from the front, as long as there are any. -/
def trimFront (marks : List Bytes) : ℕ → Bytes → Bytes
  | 0, text => text
  | fuel + 1, text =>
      match marks.find? fun mark => mark.isPrefixOf text with
      | some mark => trimFront marks fuel (text.drop mark.length)
      | none => text

def trim (text : Bytes) : Bytes :=
  let front := trimFront spaces text.length text
  (trimFront (spaces.map List.reverse) front.length front.reverse).reverse

/-- A number behind `0x`, `0o` or `0b`: its base and its digits. -/
def radixMark : Bytes → Option (ℕ × Bytes)
  | 48 :: mark :: digits =>
      if mark = 120 ∨ mark = 88 then some (16, digits)
      else if mark = 111 ∨ mark = 79 then some (8, digits)
      else if mark = 98 ∨ mark = 66 then some (2, digits)
      else none
  | _ => none

/-- A decimal number with an optional sign. -/
def signedDecimal : Bytes → Option ℤ
  | [] => none
  | sign :: digits =>
      if sign = 45 then (readDigits 10 digits).map fun value => -value
      else if sign = 43 then (readDigits 10 digits).map Int.ofNat
      else (readDigits 10 (sign :: digits)).map Int.ofNat

/-- `BigInt` of a text.  Nothing but white space reads as 0. -/
def bigInt (text : Bytes) : Option ℤ :=
  match trim text with
  | [] => some 0
  | first :: rest =>
      match radixMark (first :: rest) with
      | some (base, digits) => (readDigits base digits).map Int.ofNat
      | none => signedDecimal (first :: rest)

example : bigInt (Abi.utf8 " 0x1F\n") = some 31 ∧ bigInt (Abi.utf8 "-12") = some (-12) ∧
    bigInt (Abi.utf8 "1.5") = none := by decide +kernel

theorem trimFront_eq_self {marks : List Bytes} (fuel : ℕ) (none : ∀ mark ∈ marks, ¬ mark <+: text) :
    trimFront marks fuel text = text := by
  cases fuel with
  | zero => rfl
  | succ fuel =>
      have absent : (marks.find? fun mark => mark.isPrefixOf text) = Option.none := by
        apply List.find?_eq_none.mpr
        intro mark listed starts
        exact none mark listed (List.isPrefixOf_iff_prefix.mp starts)
      rw [trimFront, absent]

/-- Visible characters, none of which is part of a space. -/
def IsVisible (character : UInt8) : Prop := 33 ≤ character.toNat ∧ character.toNat ≤ 126

theorem spaces_invisible : ∀ mark ∈ spaces ++ spaces.map List.reverse,
    ∃ first rest, mark = first :: rest ∧ ¬ IsVisible first := by
  have invisible : ∀ mark ∈ spaces ++ spaces.map List.reverse,
      mark ≠ [] ∧ ¬ (33 ≤ (mark.headD 0).toNat ∧ (mark.headD 0).toNat ≤ 126) := by
    decide +kernel
  intro mark listed
  obtain ⟨filled, hidden⟩ := invisible mark listed
  obtain ⟨first, rest, rfl⟩ := List.exists_cons_of_ne_nil filled
  exact ⟨first, rest, rfl, hidden⟩

theorem not_prefix_of_visible {mark : Bytes} (visible : ∀ character ∈ text, IsVisible character)
    (listed : mark ∈ spaces ++ spaces.map List.reverse) : ¬ mark <+: text := by
  obtain ⟨first, rest, rfl, hidden⟩ := spaces_invisible mark listed
  intro starts
  exact hidden (visible first (starts.subset List.mem_cons_self))

theorem trim_eq_self (visible : ∀ character ∈ text, IsVisible character) : trim text = text := by
  have front : trimFront spaces text.length text = text := by
    apply trimFront_eq_self
    intro mark listed
    exact not_prefix_of_visible visible (List.mem_append_left _ listed)
  rw [trim, front, trimFront_eq_self, List.reverse_reverse]
  intro mark listed
  apply not_prefix_of_visible _ (List.mem_append_right _ listed)
  intro character member
  exact visible character (List.mem_reverse.mp member)

theorem isVisible_of_isDigit {character : UInt8} (isDigit : Text.IsDigit character) :
    IsVisible character :=
  ⟨Nat.le_trans (by decide) isDigit.1, Nat.le_trans isDigit.2 (by decide)⟩

/-- A text of digits is read in decimal, with or without leading zeros. -/
theorem bigInt_digits (filled : text ≠ []) (digits : ∀ character ∈ text, Text.IsDigit character) :
    bigInt text = (readDigits 10 text).map Int.ofNat := by
  obtain ⟨first, rest, rfl⟩ := List.exists_cons_of_ne_nil filled
  have trimmed : trim (first :: rest) = first :: rest :=
    trim_eq_self fun character member => isVisible_of_isDigit (digits character member)
  have unmarked : radixMark (first :: rest) = none := by
    unfold radixMark
    split
    next mark others same =>
      cases same
      have small := (digits mark (by simp)).2
      have noMark : ∀ code : UInt8, 57 < code.toNat → mark ≠ code := by
        rintro code large rfl
        exact absurd small (Nat.not_le.mpr large)
      simp [noMark 120 (by decide), noMark 88 (by decide), noMark 111 (by decide),
        noMark 79 (by decide), noMark 98 (by decide), noMark 66 (by decide)]
    next => rfl
  have unsigned : first ≠ 45 ∧ first ≠ 43 := by
    have large := (digits first List.mem_cons_self).1
    constructor
    · rintro rfl
      exact absurd large (by decide)
    · rintro rfl
      exact absurd large (by decide)
  rw [bigInt, trimmed]
  simp only [unmarked, signedDecimal, if_neg unsigned.1, if_neg unsigned.2]

theorem bigInt_decimal (value : ℕ) : bigInt (Text.decimal value) = some (value : ℤ) := by
  rw [bigInt_digits (decimal_ne_nil value) fun _ => Text.isDigit_of_mem_decimal,
    readDigits_decimal]
  rfl

/-- A whole number as an unsigned one of a width, if it is in range. -/
def toUint (width : ℕ) : ℤ → Option (BitVec width)
  | .ofNat value => if value < 2 ^ width then some (BitVec.ofNat width value) else none
  | .negSucc _ => none

theorem toUint_toNat {width : ℕ} (value : BitVec width) :
    toUint width value.toNat = some value := by
  have inRange : toUint width value.toNat = some (BitVec.ofNat width value.toNat) :=
    if_pos value.isLt
  rw [inRange, BitVec.ofNat_toNat, BitVec.setWidth_eq]

theorem toUint_eq_some {width : ℕ} {n : ℤ} {value : BitVec width} :
    toUint width n = some value ↔ n = value.toNat := by
  constructor
  · intro read
    cases n with
    | negSucc _ => cases read
    | ofNat n =>
        obtain ⟨small, ⟨⟩⟩ := Option.ite_none_right_eq_some.mp read
        rw [BitVec.toNat_ofNat, Nat.mod_eq_of_lt small]
        rfl
  · rintro rfl
    exact toUint_toNat value

/-! ## Bytes in hexadecimal -/

/-- The lower case of a character. -/
def lower (character : UInt8) : UInt8 :=
  if 65 ≤ character.toNat ∧ character.toNat ≤ 90 then character + 32 else character

theorem toLowerCase_eq (text : Bytes) : Text.toLowerCase text = text.map lower := rfl

/-- Bytes from hexadecimal text of either case, two digits each. -/
def readHex : Bytes → Option Bytes
  | [] => some []
  | [_] => none
  | high :: low :: rest => do
      let high ← digitValue high
      let low ← digitValue low
      let data ← readHex rest
      return UInt8.ofNat (16 * high + low) :: data

theorem hex_cons (byte : UInt8) (data : Bytes) :
    Text.hex (byte :: data) = Text.hexSymbol (byte.toNat / 16) ::
      Text.hexSymbol (byte.toNat % 16) :: Text.hex data := rfl

theorem readHex_hex (data : Bytes) : readHex (Text.hex data) = some data := by
  induction data with
  | nil => rfl
  | cons byte data ih =>
      have bound := byte.toNat_lt
      have high := digitValue_hexSymbol (byte.toNat / 16) (by omega)
      have low := digitValue_hexSymbol (byte.toNat % 16) (Nat.mod_lt _ (by decide))
      simp only [hex_cons, readHex, high, low, ih, some_bind, Nat.div_add_mod, UInt8.ofNat_toNat]
      rfl

theorem drop_hex (count : ℕ) (data : Bytes) :
    (Text.hex data).drop (2 * count) = Text.hex (data.drop count) := by
  induction count generalizing data with
  | zero => rfl
  | succ count ih =>
      cases data with
      | nil => exact List.drop_nil
      | cons byte data => exact ih data

theorem take_hex (count : ℕ) (data : Bytes) :
    (Text.hex data).take (2 * count) = Text.hex (data.take count) := by
  induction count generalizing data with
  | zero => rfl
  | succ count ih =>
      cases data with
      | nil => exact List.take_nil
      | cons byte data =>
          rw [List.take_succ_cons, hex_cons, hex_cons, ← ih]
          rfl

/-- A digit is read to its value whatever its case. -/
theorem digitValue_lower (character : UInt8) :
    digitValue (lower character) = digitValue character := by
  have same : ∀ code < 256,
      digitValue (lower (UInt8.ofNat code)) = digitValue (UInt8.ofNat code) := by
    decide +kernel
  have here := same character.toNat character.toNat_lt
  rwa [UInt8.ofNat_toNat] at here

theorem hexSymbol_of_digitValue {character : UInt8} {digit : ℕ}
    (read : digitValue character = some digit) :
    digit < 16 ∧ Text.hexSymbol digit = lower character := by
  have symbols : ∀ code < 256, ∀ digit ∈ digitValue (UInt8.ofNat code),
      digit < 16 ∧ Text.hexSymbol digit = lower (UInt8.ofNat code) := by
    decide +kernel
  have here := symbols character.toNat character.toNat_lt digit
  rw [UInt8.ofNat_toNat] at here
  exact here read

/-- Pairs of digits are read as the number that their bytes denote. -/
theorem foldlM_eq_readHex (even : text.length % 2 = 0) (start : ℕ) :
    text.foldlM (appendDigit 16) start = (readHex text).map fun data =>
      start * 256 ^ data.length + Abi.readBigEndian data := by
  induction text using readHex.induct generalizing start with
  | case1 => simp [readHex, Abi.readBigEndian]
  | case2 character => cases even
  | case3 first second rest ih =>
      rw [List.foldlM_cons, appendDigit, readHex]
      cases isHigh : digitValue first with
      | none => rfl
      | some high =>
        obtain ⟨highSmall, _⟩ := hexSymbol_of_digitValue isHigh
        simp only [Option.bind_eq_bind, Option.bind_some, if_pos highSmall, Option.pure_def,
          List.foldlM_cons, appendDigit]
        cases isLow : digitValue second with
        | none => rfl
        | some low =>
          obtain ⟨lowSmall, _⟩ := hexSymbol_of_digitValue isLow
          have byte : (UInt8.ofNat (16 * high + low)).toNat = 16 * high + low := by
            rw [UInt8.toNat_ofNat']
            omega
          have evenRest : rest.length % 2 = 0 := by
            simp only [List.length_cons] at even
            omega
          simp only [Option.bind_some, if_pos lowSmall, ih evenRest]
          cases readHex rest with
          | none => rfl
          | some data =>
            simp only [Option.bind_some, Option.map_some, Abi.readBigEndian_cons, byte,
              List.length_cons, pow_succ]
            congr 1
            ring

/-- Bytes in hexadecimal are read as the number they denote. -/
theorem foldlM_hex (data : Bytes) (start : ℕ) :
    (Text.hex data).foldlM (appendDigit 16) start =
      some (start * 256 ^ data.length + Abi.readBigEndian data) := by
  rw [foldlM_eq_readHex (by rw [Text.length_hex]; omega), readHex_hex]
  rfl

theorem readHex_toLowerCase (text : Bytes) : readHex (Text.toLowerCase text) = readHex text := by
  rw [toLowerCase_eq]
  induction text using readHex.induct with
  | case1 => rfl
  | case2 character => rfl
  | case3 high low rest ih =>
      simp [readHex, digitValue_lower, ih]

/-- Writing what was read gives the text in lower case. -/
theorem hex_of_readHex (read : readHex text = some data) :
    Text.hex data = Text.toLowerCase text := by
  rw [toLowerCase_eq]
  induction text using readHex.induct generalizing data with
  | case1 =>
      cases read
      rfl
  | case2 character => cases read
  | case3 high low rest ih =>
      simp only [readHex, bind_eq_some] at read
      obtain ⟨high', isHigh, low', isLow, data', isData, same⟩ := read
      cases same
      obtain ⟨highSmall, highSymbol⟩ := hexSymbol_of_digitValue isHigh
      obtain ⟨lowSmall, lowSymbol⟩ := hexSymbol_of_digitValue isLow
      have byte : (UInt8.ofNat (16 * high' + low')).toNat = 16 * high' + low' := by
        rw [UInt8.toNat_ofNat']
        omega
      have quotient : (16 * high' + low') / 16 = high' := by omega
      have remainder : (16 * high' + low') % 16 = low' := by omega
      rw [hex_cons, byte, quotient, remainder, highSymbol, lowSymbol, ih isData]
      rfl

theorem length_of_readHex (read : readHex text = some data) : text.length = 2 * data.length := by
  rw [← Text.length_hex, hex_of_readHex read, Text.length_toLowerCase]

/-- Two texts in lower case are one text exactly if they are read to the same bytes. -/
theorem toLowerCase_eq_iff {text' data' : Bytes} (read : readHex text = some data)
    (read' : readHex text' = some data') :
    Text.toLowerCase text = Text.toLowerCase text' ↔ data = data' := by
  constructor
  · intro same
    rw [← readHex_toLowerCase, same, readHex_toLowerCase, read'] at read
    exact (Option.some.inj read).symm
  · rintro rfl
    rw [← hex_of_readHex read, hex_of_readHex read']

/-- Bytes in hexadecimal behind `0x`. -/
def writeHex (data : Bytes) : Bytes := 48 :: 120 :: Text.hex data

/-- The bytes behind `0x`. -/
def readMarked : Bytes → Option Bytes
  | [] => none
  | [_] => none
  | zero :: mark :: digits => if zero = 48 ∧ mark = 120 then readHex digits else none

theorem readMarked_writeHex (data : Bytes) : readMarked (writeHex data) = some data :=
  readHex_hex data

theorem bigInt_writeHex (filled : data ≠ []) :
    bigInt (writeHex data) = some (Abi.readBigEndian data : ℤ) := by
  have visible : ∀ character ∈ writeHex data, IsVisible character := by
    intro character member
    rcases List.mem_cons.mp member with rfl | member
    · exact ⟨by decide, by decide⟩
    rcases List.mem_cons.mp member with rfl | member
    · exact ⟨by decide, by decide⟩
    rcases Text.isHexDigit_of_mem_hex member with isDigit | isLetter
    · exact isVisible_of_isDigit isDigit
    · exact ⟨Nat.le_trans (by decide) isLetter.1, Nat.le_trans isLetter.2 (by decide)⟩
  have digits : Text.hex data ≠ [] := by
    intro empty
    have length := congrArg List.length empty
    rw [Text.length_hex, List.length_nil] at length
    exact filled (List.length_eq_zero_iff.mp (by omega))
  have read : readDigits 16 (Text.hex data) = some (Abi.readBigEndian data) := by
    rw [readDigits, if_neg digits, foldlM_hex, Nat.zero_mul, Nat.zero_add]
  rw [bigInt, trim_eq_self visible]
  exact congrArg (Option.map Int.ofNat) read

theorem writeHex_inj {data' : Bytes} (same : writeHex data = writeHex data') : data = data' := by
  have read := congrArg readMarked same
  rw [readMarked_writeHex, readMarked_writeHex] at read
  exact Option.some.inj read

theorem toLowerCase_of_readMarked (read : readMarked text = some data) :
    Text.toLowerCase text = writeHex data := by
  unfold readMarked at read
  split at read
  next => cases read
  next => cases read
  next zero mark digits =>
    obtain ⟨⟨rfl, rfl⟩, read⟩ := Option.ite_none_right_eq_some.mp read
    rw [writeHex, hex_of_readHex read]
    rfl

theorem toLowerCase_writeHex (data : Bytes) : Text.toLowerCase (writeHex data) = writeHex data :=
  toLowerCase_of_readMarked (readMarked_writeHex data)

end Js
