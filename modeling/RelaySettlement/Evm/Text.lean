import Mathlib.Data.Nat.Digits.Lemmas
import RelaySettlement.Evm.Abi

/-!
# Numbers and bytes as text

Texts are byte strings.  Contracts and the programs that read their payloads write numbers
in decimal and bytes in lower-case hexadecimal.
-/

namespace Evm.Text

/-! ## Hexadecimal -/

/-- The sixteen digits. -/
def hexSymbols : Bytes := Abi.utf8 "0123456789abcdef"

def hexSymbol (digit : ℕ) : UInt8 := hexSymbols.getD digit 0

/-- Two digits for each byte. -/
def hex (data : Bytes) : Bytes :=
  data.flatMap fun byte => [hexSymbol (byte.toNat / 16), hexSymbol (byte.toNat % 16)]

theorem length_hex (data : Bytes) : (hex data).length = 2 * data.length := by
  induction data with
  | nil => rfl
  | cons byte data ih =>
      rw [hex, List.flatMap_cons, List.length_append, ← hex, ih]
      simp only [List.length_cons, List.length_nil]
      omega

/-- The characters of hexadecimal text. -/
def IsHexDigit (character : UInt8) : Prop :=
  48 ≤ character.toNat ∧ character.toNat ≤ 57 ∨ 97 ≤ character.toNat ∧ character.toNat ≤ 102

theorem isHexDigit_hexSymbol : ∀ digit < 16, IsHexDigit (hexSymbol digit) := by
  unfold IsHexDigit
  decide +kernel

variable {character : UInt8} {value : ℕ}

theorem isHexDigit_of_mem_hex {data : Bytes} (member : character ∈ hex data) :
    IsHexDigit character := by
  obtain ⟨byte, _, isDigit⟩ := List.mem_flatMap.mp member
  have bound := byte.toNat_lt
  rcases List.mem_pair.mp isDigit with rfl | rfl
  · exact isHexDigit_hexSymbol _ (by omega)
  · exact isHexDigit_hexSymbol _ (by omega)

/-- `toLowerCase` on ASCII text. -/
def toLowerCase (text : Bytes) : Bytes :=
  text.map fun character =>
    if 65 ≤ character.toNat ∧ character.toNat ≤ 90 then character + 32 else character

theorem length_toLowerCase (text : Bytes) : (toLowerCase text).length = text.length :=
  List.length_map _

theorem toLowerCase_eq_self {text : Bytes}
    (lower : ∀ character ∈ text, ¬ (65 ≤ character.toNat ∧ character.toNat ≤ 90)) :
    toLowerCase text = text := by
  conv_rhs => rw [← List.map_id text]
  apply List.map_congr_left
  intro character member
  exact if_neg (lower character member)

/-! ## Separators -/

section Separators

variable {separator : UInt8} {front : Bytes}

/-- A separator that does not occur in two texts separates them. -/
theorem splitOn_between (absent : separator ∉ front) {back : Bytes} (absent' : separator ∉ back) :
    (front ++ separator :: back).splitOn separator = [front, back] := by
  rw [List.splitOn_append_cons_self_of_not_mem absent, List.splitOn_eq_singleton absent']

theorem length_le_of_splitOn_eq_cons {text part : Bytes} {parts : List Bytes}
    (split : text.splitOn separator = part :: parts) : part.length ≤ text.length := by
  have joined := @List.intercalate_splitOn _ text _ _ separator
  rw [split] at joined
  rw [← joined]
  cases parts with
  | nil => simp
  | cons next parts =>
      rw [List.intercalate_cons_cons, List.append_assoc, List.length_append]
      exact Nat.le_add_right _ _

/-- If it occurs in the first text, the second part ends there. -/
theorem exists_splitOn_getElem (present : separator ∈ front) (back : Bytes) :
    ∃ part, ((front ++ separator :: back).splitOn separator)[1]? = some part ∧
      part.length < front.length := by
  obtain ⟨before, after, rfl, absent⟩ := List.eq_append_cons_of_mem present
  obtain ⟨part, parts, split⟩ := List.exists_cons_of_ne_nil (List.splitOn_ne_nil separator after)
  refine ⟨part, ?_, ?_⟩
  · rw [List.append_assoc, List.cons_append, List.splitOn_append_cons_self_of_not_mem absent,
      List.splitOn_append_cons_self, split]
    rfl
  · have shorter := length_le_of_splitOn_eq_cons split
    rw [List.length_append, List.length_cons]
    omega

end Separators

/-! ## Decimal -/

def decimalDigit (digit : ℕ) : UInt8 := UInt8.ofNat (48 + digit)

/-- A number without leading zeros. -/
def decimal (value : ℕ) : Bytes :=
  if value = 0 then [decimalDigit 0] else ((Nat.digits 10 value).map decimalDigit).reverse

/-- The low digits of a number. -/
def fixedDecimal : ℕ → ℕ → Bytes
  | 0, _ => []
  | width + 1, value => fixedDecimal width (value / 10) ++ [decimalDigit (value % 10)]

/-- The decimal expansion of `value / 10 ^ decimals` with `decimals` digits after the
point. -/
def fixedPoint (decimals value : ℕ) : Bytes :=
  if decimals = 0 then decimal value
  else decimal (value / 10 ^ decimals) ++ [46] ++ fixedDecimal decimals (value % 10 ^ decimals)

theorem length_fixedDecimal (width value : ℕ) : (fixedDecimal width value).length = width := by
  induction width generalizing value with
  | zero => rfl
  | succ width ih => rw [fixedDecimal, List.length_append, ih, List.length_singleton]

/-- The characters that are digits. -/
def IsDigit (character : UInt8) : Prop := 48 ≤ character.toNat ∧ character.toNat ≤ 57

theorem isDigit_decimalDigit {digit : ℕ} (small : digit < 10) : IsDigit (decimalDigit digit) := by
  rw [IsDigit, decimalDigit, UInt8.toNat_ofNat']
  omega

theorem isDigit_of_mem_decimal (member : character ∈ decimal value) : IsDigit character := by
  rw [decimal] at member
  split at member
  · cases List.mem_singleton.mp member
    exact isDigit_decimalDigit (by decide)
  · obtain ⟨digit, isDigit, rfl⟩ := List.mem_map.mp (List.mem_reverse.mp member)
    exact isDigit_decimalDigit (Nat.digits_lt_base (by decide) isDigit)

theorem isDigit_of_mem_fixedDecimal {width : ℕ} (member : character ∈ fixedDecimal width value) :
    IsDigit character := by
  induction width generalizing value with
  | zero => cases member
  | succ width ih =>
      rw [fixedDecimal, List.mem_append, List.mem_singleton] at member
      rcases member with member | rfl
      · exact ih member
      · exact isDigit_decimalDigit (Nat.mod_lt _ (by decide))

theorem length_decimal_le {width : ℕ} (positive : 0 < width) (small : value < 10 ^ width) :
    (decimal value).length ≤ width := by
  rw [decimal]
  split
  · exact positive
  · rw [List.length_reverse, List.length_map]
    exact (Nat.digits_length_le_iff (by decide) value).mpr small

theorem point_notMem {text : Bytes} (digits : ∀ character ∈ text, IsDigit character) :
    46 ∉ text := by
  intro member
  exact absurd (digits 46 member).1 (by decide)

/-- Splitting a decimal expansion at the point. -/
theorem splitOn_fixedPoint (decimals value : ℕ) :
    (fixedPoint decimals value).splitOn 46 =
      if decimals = 0 then [decimal value]
      else [decimal (value / 10 ^ decimals), fixedDecimal decimals (value % 10 ^ decimals)] := by
  rw [fixedPoint]
  split
  · exact List.splitOn_eq_singleton (point_notMem fun _ => isDigit_of_mem_decimal)
  · rw [List.append_assoc, List.singleton_append]
    exact splitOn_between (point_notMem fun _ => isDigit_of_mem_decimal)
      (point_notMem fun _ => isDigit_of_mem_fixedDecimal)

/-- The loop that writes the digits of a number from the last to the first. -/
def writeDigits : ℕ → ℕ → Bytes → Bytes
  | 0, _, written => written
  | fuel + 1, value, written =>
      if value = 0 then written
      else writeDigits fuel (value / 10) (decimalDigit (value % 10) :: written)

theorem writeDigits_eq {fuel : ℕ} (enough : value < 10 ^ fuel) (written : Bytes) :
    writeDigits fuel value written =
      ((Nat.digits 10 value).map decimalDigit).reverse ++ written := by
  induction fuel generalizing value written with
  | zero =>
      have zero : value = 0 := by simpa using enough
      rw [writeDigits, zero, Nat.digits_zero, List.map_nil, List.reverse_nil, List.nil_append]
  | succ fuel ih =>
      rw [writeDigits]
      split
      next zero =>
        rw [zero, Nat.digits_zero, List.map_nil, List.reverse_nil, List.nil_append]
      next nonzero =>
        have smaller : value / 10 < 10 ^ fuel := by
          rw [Nat.pow_succ] at enough
          omega
        rw [ih smaller, Nat.digits_def' (by decide) (Nat.pos_of_ne_zero nonzero), List.map_cons,
          List.reverse_cons, List.append_assoc, List.singleton_append]

theorem writeDigits_eq_decimal {fuel : ℕ} (enough : value < 10 ^ fuel) (nonzero : value ≠ 0) :
    writeDigits fuel value [] = decimal value := by
  rw [writeDigits_eq enough, List.append_nil, decimal, if_neg nonzero]

/-- The number that a text of digits denotes. -/
def readDecimal (text : Bytes) : ℕ :=
  text.foldl (fun value character => value * 10 + (character.toNat - 48)) 0

theorem readDecimal_append_digit (text : Bytes) {digit : ℕ} (small : digit < 10) :
    readDecimal (text ++ [decimalDigit digit]) = readDecimal text * 10 + digit := by
  rw [readDecimal, List.foldl_append, List.foldl_cons, List.foldl_nil, decimalDigit,
    UInt8.toNat_ofNat', ← readDecimal]
  omega

theorem readDecimal_append_fixedDecimal (text : Bytes) (width value : ℕ) :
    readDecimal (text ++ fixedDecimal width value) =
      readDecimal text * 10 ^ width + value % 10 ^ width := by
  induction width generalizing value with
  | zero => simp [fixedDecimal, Nat.mod_one]
  | succ width ih =>
      rw [fixedDecimal, ← List.append_assoc, readDecimal_append_digit _ (Nat.mod_lt _ (by decide)),
        ih, Nat.pow_succ', Nat.mod_mul]
      ring

theorem readDecimal_decimal (value : ℕ) : readDecimal (decimal value) = value := by
  rw [decimal]
  split
  next zero => simp [zero, readDecimal, decimalDigit]
  next nonzero =>
    clear nonzero
    induction value using Nat.strongRecOn with
    | ind value ih =>
        by_cases zero : value = 0
        · simp [zero, readDecimal]
        · rw [Nat.digits_def' (by decide) (Nat.pos_of_ne_zero zero), List.map_cons,
            List.reverse_cons, readDecimal_append_digit _ (Nat.mod_lt _ (by decide)),
            ih _ (by omega)]
          omega

/-- The digits of a decimal expansion denote the number that is expanded. -/
theorem readDecimal_fixedPoint (decimals value : ℕ) :
    readDecimal ((fixedPoint decimals value).filter (· ≠ 46)) = value := by
  have kept : ∀ text : Bytes, (∀ character ∈ text, IsDigit character) →
      text.filter (· ≠ 46) = text := by
    intro text digits
    apply List.filter_eq_self.mpr
    intro character member
    apply decide_eq_true
    rintro rfl
    exact point_notMem digits member
  rw [fixedPoint]
  split
  · rw [kept _ fun _ => isDigit_of_mem_decimal, readDecimal_decimal]
  · rw [List.filter_append, List.filter_append, kept _ fun _ => isDigit_of_mem_decimal,
      kept _ fun _ => isDigit_of_mem_fixedDecimal]
    have point : [(46 : UInt8)].filter (· ≠ 46) = [] := by decide
    rw [point, List.append_nil, readDecimal_append_fixedDecimal, readDecimal_decimal,
      Nat.mod_mod, Nat.div_add_mod']

end Evm.Text
