import Mathlib.Algebra.Order.Round
import Mathlib.Data.Int.Log
import Mathlib.Data.Rat.Floor
import RelaySettlement.Js.Text

/-!
# Numbers and texts that stand for numbers

A number of the language is a double, so that a sum is rounded.  A value that should be a number
may also be a text: `BigInt` takes either, but `+` concatenates as soon as one side is a text.
-/

open Evm

namespace Js

/-! ## Doubles -/

/-- The nearest whole number, of two the even one. -/
def roundHalfEven (x : ℚ) : ℤ :=
  let rest := x - ⌊x⌋
  if rest < 1 / 2 ∨ rest = 1 / 2 ∧ ⌊x⌋ % 2 = 0 then ⌊x⌋ else ⌊x⌋ + 1

/-- The nearest double, of 53 binary digits down to the place `-1074`, if it is finite. -/
def toDouble (x : ℚ) : Option ℚ :=
  let place := max (Int.log 2 |x| - 52) (-1074)
  let rounded := (roundHalfEven (x / 2 ^ place) : ℚ) * 2 ^ place
  if |rounded| < 2 ^ 1024 then some rounded else none

theorem roundHalfEven_intCast (n : ℤ) : roundHalfEven n = n := by
  simp [roundHalfEven]

/-- Whole numbers of at most 53 digits are doubles. -/
theorem toDouble_intCast {n : ℤ} (small : |n| < 2 ^ 53) : toDouble n = some (n : ℚ) := by
  have below : |(n : ℚ)| < 2 ^ 53 := by exact_mod_cast small
  have place : max (Int.log 2 |(n : ℚ)| - 52) (-1074) ≤ 0 := by
    apply max_le _ (by decide)
    rcases eq_or_ne n 0 with rfl | nonzero
    · simp
    · have positive : (0 : ℚ) < |(n : ℚ)| := abs_pos.mpr (Int.cast_ne_zero.mpr nonzero)
      have digits : |(n : ℚ)| < ((2 : ℕ) : ℚ) ^ (53 : ℤ) := by exact_mod_cast below
      have := (Int.lt_zpow_iff_log_lt one_lt_two positive).mp digits
      omega
  have finite : |(n : ℚ)| < 2 ^ 1024 :=
    below.trans (pow_lt_pow_right₀ one_lt_two (by decide))
  -- The place is left of the point, so that the digits of `n` are only shifted.
  obtain ⟨shift, isShift⟩ := Int.eq_ofNat_of_zero_le (Int.neg_nonneg_of_nonpos place)
  have scaled : (n : ℚ) / 2 ^ max (Int.log 2 |(n : ℚ)| - 52) (-1074) =
      ((n * 2 ^ shift : ℤ) : ℚ) := by
    rw [← Int.neg_eq_comm.mp isShift, zpow_neg, div_inv_eq_mul, zpow_natCast]
    push_cast
    rfl
  have back : ((n * 2 ^ shift : ℤ) : ℚ) * 2 ^ max (Int.log 2 |(n : ℚ)| - 52) (-1074) = n := by
    rw [← scaled, div_mul_cancel₀ _ (zpow_ne_zero _ two_ne_zero)]
  simp only [toDouble, scaled, roundHalfEven_intCast, back, if_pos finite]

theorem le_roundHalfEven {n : ℤ} {x : ℚ} (le : n ≤ x) : n ≤ roundHalfEven x := by
  have floor := Int.le_floor.mpr le
  simp only [roundHalfEven]
  split <;> omega

/-- What is at least `2 ^ 53` is not rounded below. -/
theorem le_toDouble {x rounded : ℚ} (large : 2 ^ 53 ≤ x) (isRounded : toDouble x = some rounded) :
    2 ^ 53 ≤ rounded := by
  have positive : 0 < x := lt_of_lt_of_le (pow_pos two_pos 53) large
  have digits : 53 ≤ Int.log 2 x :=
    (Int.zpow_le_iff_le_log one_lt_two positive).mp (by exact_mod_cast large)
  simp only [toDouble, abs_of_pos positive, Option.ite_none_right_eq_some, Option.some_inj]
    at isRounded
  obtain ⟨_, rfl⟩ := isRounded
  rw [max_eq_left (by omega)]
  have mantissa : ((2 ^ 52 : ℤ) : ℚ) ≤ x / 2 ^ (Int.log 2 x - 52) := by
    rw [le_div_iff₀ (zpow_pos two_pos _)]
    calc ((2 ^ 52 : ℤ) : ℚ) * 2 ^ (Int.log 2 x - 52) = 2 ^ (52 + (Int.log 2 x - 52)) := by
          rw [zpow_add₀ two_ne_zero]
          norm_num
      _ ≤ x := by
          rw [add_sub_cancel]
          exact_mod_cast Int.zpow_log_le_self one_lt_two positive
  have whole := le_roundHalfEven mantissa
  have shift : (2 : ℚ) ^ (1 : ℤ) ≤ 2 ^ (Int.log 2 x - 52) :=
    zpow_le_zpow_right₀ one_le_two (by omega)
  calc (2 : ℚ) ^ 53 = (2 ^ 52 : ℤ) * 2 ^ (1 : ℤ) := by norm_num
    _ ≤ roundHalfEven (x / 2 ^ (Int.log 2 x - 52)) * 2 ^ (Int.log 2 x - 52) :=
        mul_le_mul (Int.cast_le.mpr whole) shift (zpow_nonneg zero_le_two _)
          (Int.cast_nonneg (le_trans (by norm_num) whole))

/-! ## Numbers -/

/-- The digits before an exponent, and how many of them are behind the point. -/
def readMantissa (text : Bytes) : Option (ℕ × ℕ) :=
  match text.splitOn 46 with
  | [whole] => (readDigits 10 whole).map fun digits => (digits, 0)
  | [whole, fraction] =>
      (readDigits 10 (whole ++ fraction)).map fun digits => (digits, fraction.length)
  | _ => none

def readUnsigned (text : Bytes) : Option ℚ :=
  match text.splitOn 101 with
  | [mantissa] => do
      let (digits, places) ← readMantissa mantissa
      return digits / 10 ^ places
  | [mantissa, exponent] => do
      let (digits, places) ← readMantissa mantissa
      return digits / 10 ^ places * 10 ^ (← signedDecimal exponent)
  | _ => none

def readNumber : Bytes → Option ℚ
  | [] => none
  | sign :: text =>
      if sign = 45 then (readUnsigned text).map fun value => -value
      else readUnsigned (sign :: text)

/-- The double that a text denotes.  The text of an infinite one denotes none. -/
def numberValue (text : Bytes) : Option ℚ := (readNumber text).bind toDouble

/-- A number is given by the text it is written as. -/
structure Number where
  text : Bytes
  decimal : ∀ n : ℕ, n < 2 ^ 53 → numberValue text = some (n : ℚ) → text = Text.decimal n
deriving DecidableEq

def Number.value (number : Number) : Option ℚ := numberValue number.text

theorem numberValue_decimal {n : ℕ} (small : n < 2 ^ 53) :
    numberValue (Text.decimal n) = some (n : ℚ) := by
  have absent (separator : UInt8) (other : ¬ Text.IsDigit separator) :
      separator ∉ Text.decimal n := fun member =>
    other (Text.isDigit_of_mem_decimal member)
  obtain ⟨first, rest, same⟩ := List.exists_cons_of_ne_nil (decimal_ne_nil n)
  have positive : first ≠ 45 := by
    rintro rfl
    exact absent 45 (by decide) (same ▸ List.mem_cons_self)
  have whole : readNumber (Text.decimal n) = some (n : ℚ) := by
    rw [same, readNumber, if_neg positive, ← same, readUnsigned,
      List.splitOn_eq_singleton (absent 101 (by decide))]
    simp [readMantissa, List.splitOn_eq_singleton (absent 46 (by decide)), readDigits_decimal]
  have double := @toDouble_intCast n (by rw [Nat.abs_cast]; exact_mod_cast small)
  rw [Int.cast_natCast] at double
  rw [numberValue, whole, Option.bind_some, double]

/-- The number that a small natural number is. -/
def Number.ofNat (n : ℕ) (small : n < 2 ^ 53) : Number where
  text := Text.decimal n
  decimal := by
    intro m _ same
    rw [numberValue_decimal small] at same
    rw [Nat.cast_inj.mp (Option.some.inj same)]

/-- `BigInt` of a number, which must be whole. -/
def Number.bigInt (number : Number) : Option ℤ := do
  let value ← number.value
  if value.den = 1 then return value.num else none

theorem Number.bigInt_eq_some {number : Number} {n : ℤ} :
    number.bigInt = some n ↔ number.value = some (n : ℚ) := by
  simp only [Number.bigInt, bind_eq_some, Option.ite_none_right_eq_some, Option.pure_def,
    Option.some_inj]
  constructor
  · rintro ⟨value, isValue, isWhole, rfl⟩
    rw [isValue, Rat.coe_int_num_of_den_eq_one isWhole]
  · intro isValue
    exact ⟨n, isValue, rfl, rfl⟩

theorem Number.bigInt_ofNat {n : ℕ} (small : n < 2 ^ 53) :
    (Number.ofNat n small).bigInt = some (n : ℤ) := by
  rw [Number.bigInt_eq_some, Number.value, Number.ofNat, numberValue_decimal small,
    Int.cast_natCast]

/-- `ToInt32`: the operand of a bitwise operation.  Fractions are cut off, and an infinite number
is 0. -/
def Number.toInt32 (number : Number) : BitVec 32 :=
  match number.value with
  | none => 0
  | some value => BitVec.ofInt 32 (if 0 ≤ value then ⌊value⌋ else ⌈value⌉)

/-- A number, or a text in its place. -/
inductive Scalar where
  | number (value : Number)
  | string (text : Bytes)
deriving DecidableEq

/-- The two forms that a number may be given in. -/
inductive Scalar.Kind where
  | number
  | string
deriving DecidableEq

namespace Scalar

def kind : Scalar → Kind
  | .number _ => .number
  | .string _ => .string

def toText : Scalar → Bytes
  | .number value => value.text
  | .string text => text

def bigInt : Scalar → Option ℤ
  | .number value => value.bigInt
  | .string text => Js.bigInt text

/-- `BigInt(first + second)`: numbers are added and rounded, anything else is concatenated. -/
def bigIntAdd : Scalar → Scalar → Option ℤ
  | .number first, .number second => do
      let sum ← toDouble ((← first.value) + (← second.value))
      if sum.den = 1 then return sum.num else none
  | first, second => Js.bigInt (first.toText ++ second.toText)

/-- A number or a text of digits. -/
def IsDecimal : Scalar → Prop
  | .number _ => True
  | .string text => text ≠ [] ∧ ∀ character ∈ text, Text.IsDigit character

instance : DecidablePred IsDecimal
  | .number _ => .isTrue trivial
  | .string text =>
      inferInstanceAs (Decidable (text ≠ [] ∧ ∀ character ∈ text, Text.IsDigit character))

/-- A natural number in either form. -/
def ofKind (kind : Kind) (n : ℕ) (small : n < 2 ^ 53) : Scalar :=
  match kind with
  | .number => .number (Number.ofNat n small)
  | .string => .string (Text.decimal n)

section OfKind

variable (kind : Kind) {n : ℕ} (small : n < 2 ^ 53)

theorem kind_ofKind : (ofKind kind n small).kind = kind := by
  cases kind with
  | number => rfl
  | string => rfl

theorem bigInt_ofKind : (ofKind kind n small).bigInt = some (n : ℤ) := by
  cases kind with
  | number => exact Number.bigInt_ofNat small
  | string => exact bigInt_decimal n

theorem isDecimal_ofKind : (ofKind kind n small).IsDecimal := by
  cases kind with
  | number => trivial
  | string => exact ⟨decimal_ne_nil n, fun _ => Text.isDigit_of_mem_decimal⟩

end OfKind

/-- Whole numbers are added. -/
theorem bigIntAdd_number {first second : Number} {m n : ℤ} (isFirst : first.bigInt = some m)
    (isSecond : second.bigInt = some n) (small : |m + n| < 2 ^ 53) :
    bigIntAdd (.number first) (.number second) = some (m + n) := by
  have sum : toDouble ((m : ℚ) + n) = some ((m + n : ℤ) : ℚ) := by
    rw [← toDouble_intCast small, Int.cast_add]
  simp only [bigIntAdd, Number.bigInt_eq_some.mp isFirst, Number.bigInt_eq_some.mp isSecond,
    some_bind, sum]
  rfl

theorem bigIntAdd_of_kind {first second : Scalar} (isNumber : first.kind = .number)
    (isNumber' : second.kind = .number) {m n : ℕ} (small : m < 2 ^ 52) (small' : n < 2 ^ 52)
    (isFirst : first.bigInt = some (m : ℤ)) (isSecond : second.bigInt = some (n : ℤ)) :
    first.bigIntAdd second = some ((m + n : ℕ) : ℤ) := by
  cases first with
  | string _ => cases isNumber
  | number first =>
      cases second with
      | string _ => cases isNumber'
      | number second =>
          rw [bigIntAdd_number isFirst isSecond]
          · rfl
          · rw [abs_of_nonneg (by omega)]
            omega

end Scalar

/-! ## Concatenated numbers -/

/-- Digits behind a number shift it. -/
theorem foldlM_appendDigit {base n : ℕ} {text : Bytes}
    (read : text.foldlM (appendDigit base) 0 = some n) (start : ℕ) :
    text.foldlM (appendDigit base) start = some (start * base ^ text.length + n) := by
  induction text using List.reverseRecOn generalizing n with
  | nil =>
      cases read
      simp
  | append_singleton text character ih =>
      rw [List.foldlM_append, bind_eq_some] at read
      obtain ⟨m, isFront, isLast⟩ := read
      rw [List.foldlM_append, ih isFront, some_bind]
      simp only [List.foldlM_cons, List.foldlM_nil, appendDigit, bind_eq_some, Option.pure_def,
        Option.ite_none_right_eq_some, Option.some_inj] at isLast ⊢
      obtain ⟨_, ⟨digit, isDigit, small, rfl⟩, rfl⟩ := isLast
      refine ⟨_, ⟨digit, isDigit, small, rfl⟩, ?_⟩
      rw [List.length_append, List.length_singleton, pow_succ]
      ring

theorem readDigits_append {base m n : ℕ} {first second : Bytes}
    (isFirst : readDigits base first = some m) (isSecond : readDigits base second = some n) :
    readDigits base (first ++ second) = some (m * base ^ second.length + n) := by
  simp only [readDigits, Option.ite_none_left_eq_some] at isFirst isSecond ⊢
  refine ⟨fun empty => isFirst.1 (List.append_eq_nil_iff.mp empty).1, ?_⟩
  rw [List.foldlM_append, isFirst.2]
  exact foldlM_appendDigit isSecond.2 m

namespace Scalar

/-- The digits of a number that is given in decimal. -/
theorem digits_of_isDecimal {scalar : Scalar} (isDecimal : scalar.IsDecimal) {n : ℕ}
    (small : n < 2 ^ 53) (isNumber : scalar.bigInt = some (n : ℤ)) :
    scalar.toText ≠ [] ∧ (∀ character ∈ scalar.toText, Text.IsDigit character) ∧
      readDigits 10 scalar.toText = some n := by
  cases scalar with
  | number value =>
      have isValue := Number.bigInt_eq_some.mp isNumber
      have written : toText (.number value) = Text.decimal n := value.decimal n small isValue
      rw [written]
      exact ⟨decimal_ne_nil n, fun _ => Text.isDigit_of_mem_decimal, readDigits_decimal n⟩
  | string text =>
      obtain ⟨filled, digits⟩ := isDecimal
      refine ⟨filled, digits, ?_⟩
      have read : (readDigits 10 text).map Int.ofNat = some (n : ℤ) := by
        rw [← bigInt_digits filled digits]
        exact isNumber
      rw [Option.map_eq_some_iff] at read
      obtain ⟨m, isRead, same⟩ := read
      rw [toText, isRead, Int.ofNat.inj same]

/-- A concatenation is at least as large as the sum. -/
theorem le_bigIntAdd {first second : Scalar} (isDecimal : first.IsDecimal)
    (isDecimal' : second.IsDecimal) {m n : ℕ} (small : m < 2 ^ 52) (small' : n < 2 ^ 52)
    (isFirst : first.bigInt = some (m : ℤ)) (isSecond : second.bigInt = some (n : ℤ)) :
    ∃ sum : ℕ, first.bigIntAdd second = some (sum : ℤ) ∧ m + n ≤ sum := by
  have double {k : ℕ} (small : k < 2 ^ 52) : k < 2 ^ 53 := small.trans (by decide)
  have concatenated : ∃ sum : ℕ, Js.bigInt (first.toText ++ second.toText) = some (sum : ℤ) ∧
      m + n ≤ sum := by
    obtain ⟨filled, digits, read⟩ := digits_of_isDecimal isDecimal (double small) isFirst
    obtain ⟨_, digits', read'⟩ := digits_of_isDecimal isDecimal' (double small') isSecond
    refine ⟨m * 10 ^ second.toText.length + n, ?_, ?_⟩
    · rw [bigInt_digits, readDigits_append read read']
      · rfl
      · exact fun empty => filled (List.append_eq_nil_iff.mp empty).1
      · exact List.forall_mem_append.mpr ⟨digits, digits'⟩
    · exact Nat.add_le_add_right (Nat.le_mul_of_pos_right m (Nat.pow_pos (by decide))) n
  cases first with
  | string _ => exact concatenated
  | number value =>
      cases second with
      | string _ => exact concatenated
      | number value' =>
          exact ⟨m + n, bigIntAdd_of_kind rfl rfl small small' isFirst isSecond, Nat.le_refl _⟩

end Scalar

end Js
