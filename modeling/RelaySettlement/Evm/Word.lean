import Mathlib.Data.BitVec
import Mathlib.Data.Fintype.Basic
import Mathlib.Data.FinEnum
import Mathlib.Tactic.Ring

/-!
# Machine words, checked arithmetic and reverting computations

The part of the execution environment every contract shares: fixed-width words,
Solidity 0.8 arithmetic that reverts instead of wrapping, and the `Except`
computations in which a contract function either returns or reverts.  Storage
mappings are total functions with point updates.
-/

namespace Evm

/-- A 160-bit account address. -/
abbrev Address := BitVec 160

/-- An unsigned 256-bit integer. -/
abbrev U256 := BitVec 256

/-- A 32-byte word used as an identifier: hashes, nonces and digests. -/
abbrev Bytes32 := BitVec 256

/-- A dynamic byte string.  Solidity strings are byte strings as well. -/
abbrev Bytes := List UInt8

instance : LawfulBEq Bytes := inferInstance

/-- `type(uint256).max`. -/
abbrev U256.max : U256 := BitVec.allOnes 256

/-- What a frame knows about its caller and its block. -/
structure Msg where
  sender : Address
  timestamp : U256

/-- A message together with `rest`, the state of every contract outside the
modelled ones.  It may differ between any two calls of a run. -/
structure Ctx (χ : Type) extends Msg where
  rest : χ

/-! ## Computations that may revert -/

section Revert

variable {ε ε' α β : Type}

/-- Solidity's guard: revert with `error` unless the condition holds. -/
def require (condition : Prop) [Decidable condition] (error : ε) : Except ε Unit :=
  if condition then .ok () else .error error

/-- Read an optional answer, reverting when there is none. -/
def orRevert (answer : Option α) (error : ε) : Except ε α :=
  match answer with
  | some value => .ok value
  | none => .error error

/-- Bubble a callee's revert up into the caller's error type. -/
def bubble (wrap : ε → ε') : Except ε α → Except ε' α
  | .ok value => .ok value
  | .error error => .error (wrap error)

@[simp] theorem bind_eq_ok {first : Except ε α} {next : α → Except ε β} {result : β} :
    (first >>= next) = .ok result ↔
      ∃ value, first = .ok value ∧ next value = .ok result := by
  cases first with
  | error error => simp [bind, Except.bind]
  | ok value => simp [bind, Except.bind]

@[simp] theorem map_eq_ok {first : Except ε α} {next : α → β} {result : β} :
    (next <$> first) = .ok result ↔ ∃ value, first = .ok value ∧ next value = result := by
  cases first with
  | error error => simp [Functor.map, Except.map]
  | ok value => simp [Functor.map, Except.map]

variable {result : α}

@[simp] theorem pure_eq_ok {value : α} :
    (pure value : Except ε α) = .ok result ↔ value = result := by
  simp [pure, Except.pure]

theorem ok_bind (value : α) (next : α → Except ε β) :
    ((.ok value : Except ε α) >>= next) = next value := rfl

theorem error_bind (error : ε) (next : α → Except ε β) :
    ((.error error : Except ε α) >>= next) = .error error := rfl

theorem some_bind (value : α) (next : α → Option β) : (some value >>= next) = next value := rfl

theorem bind_eq_some {first : Option α} {next : α → Option β} {result : β} :
    (first >>= next) = some result ↔ ∃ value, first = some value ∧ next value = some result :=
  Option.bind_eq_some_iff

theorem require_pos {condition : Prop} [Decidable condition] {error : ε}
    (holds : condition) : require condition error = .ok () := if_pos holds

@[simp] theorem require_eq_ok {condition : Prop} [Decidable condition] {error : ε}
    {result : Unit} : require condition error = .ok result ↔ condition := by
  unfold require
  split <;> simp [*]

@[simp] theorem orRevert_eq_ok {answer : Option α} {error : ε} :
    orRevert answer error = .ok result ↔ answer = some result := by
  cases answer <;> simp [orRevert]

@[simp] theorem toOption_eq_some {outcome : Except ε α} :
    outcome.toOption = some result ↔ outcome = .ok result := by
  cases outcome <;> simp [Except.toOption]

theorem exists_ok {outcome : Except ε α} (succeeds : outcome.toOption.isSome) :
    ∃ value, outcome = .ok value := by
  obtain ⟨value, isValue⟩ := Option.isSome_iff_exists.mp succeeds
  exact ⟨value, toOption_eq_some.mp isValue⟩

@[simp] theorem bubble_eq_ok {wrap : ε → ε'} {inner : Except ε α} :
    bubble wrap inner = .ok result ↔ inner = .ok result := by
  cases inner <;> simp [bubble]

end Revert

/-! ## Checked arithmetic -/

section Checked

variable {ε : Type}

/-- Solidity's checked `a + b`. -/
def checkedAdd (panic : ε) (a b : U256) : Except ε U256 :=
  if a.toNat + b.toNat < 2 ^ 256 then .ok (a + b) else .error panic

/-- Checked `a + b` of a narrower type. -/
def checkedAddNarrow {width : ℕ} (panic : ε) (a b : BitVec width) : Except ε (BitVec width) :=
  if a.toNat + b.toNat < 2 ^ width then .ok (a + b) else .error panic

/-- Solidity's checked `a - b`. -/
def checkedSub (panic : ε) (a b : U256) : Except ε U256 :=
  if b.toNat ≤ a.toNat then .ok (a - b) else .error panic

/-- Checked `a - b` of a narrower type. -/
def checkedSubNarrow {width : ℕ} (panic : ε) (a b : BitVec width) : Except ε (BitVec width) :=
  if b.toNat ≤ a.toNat then .ok (a - b) else .error panic

/-- Solidity's checked `a * b`. -/
def checkedMul (panic : ε) (a b : U256) : Except ε U256 :=
  if a.toNat * b.toNat < 2 ^ 256 then .ok (a * b) else .error panic

/-- `FixedPointMathLib.min`. -/
def lesser {width : ℕ} (a b : BitVec width) : BitVec width := if b < a then b else a

/-- Cast to a narrower type, reverting when the value does not fit. -/
def safeCast (width : ℕ) (error : ε) (a : U256) : Except ε (BitVec width) :=
  if a.toNat < 2 ^ width then .ok (a.setWidth width) else .error error

variable {panic : ε} {width : ℕ}

variable {a b result : BitVec width}

/-- A check that passes exactly if a number fits returns the number. -/
theorem guard_eq_ok {value : BitVec width} {number : ℕ} {fits : Prop} [Decidable fits]
    (exact : fits → value.toNat = number) (large : ¬ fits → 2 ^ width ≤ number) :
    (if fits then .ok value else .error panic) = Except.ok result ↔ result.toNat = number := by
  have resultBound := result.isLt
  split
  next inRange =>
    rw [Except.ok.injEq, ← BitVec.toNat_inj, exact inRange]
    exact eq_comm
  next overflow =>
    have tooLarge := large overflow
    simp only [reduceCtorEq, false_iff]
    omega

@[simp] theorem checkedAddNarrow_eq_ok :
    checkedAddNarrow panic a b = .ok result ↔ result.toNat = a.toNat + b.toNat :=
  guard_eq_ok Nat.mod_eq_of_lt Nat.not_lt.mp

@[simp] theorem checkedAdd_eq_ok {a b result : U256} :
    checkedAdd panic a b = .ok result ↔ result.toNat = a.toNat + b.toNat :=
  checkedAddNarrow_eq_ok

@[simp] theorem checkedSubNarrow_eq_ok :
    checkedSubNarrow panic a b = .ok result ↔ a.toNat = b.toNat + result.toNat := by
  have resultBound := result.isLt
  have minuendBound := a.isLt
  unfold checkedSubNarrow
  split
  next enough =>
    rw [Except.ok.injEq, ← BitVec.toNat_inj, BitVec.toNat_sub_of_le enough]
    omega
  next underflow =>
    simp only [reduceCtorEq, false_iff]
    omega

@[simp] theorem checkedSub_eq_ok {a b result : U256} :
    checkedSub panic a b = .ok result ↔ a.toNat = b.toNat + result.toNat :=
  checkedSubNarrow_eq_ok

@[simp] theorem checkedMul_eq_ok {a b result : U256} :
    checkedMul panic a b = .ok result ↔ result.toNat = a.toNat * b.toNat :=
  guard_eq_ok Nat.mod_eq_of_lt Nat.not_lt.mp

@[simp] theorem safeCast_eq_ok {error : ε} {a : U256} :
    safeCast width error a = .ok result ↔ result.toNat = a.toNat :=
  guard_eq_ok (fun inRange => BitVec.toNat_setWidth .. ▸ Nat.mod_eq_of_lt inRange) Nat.not_lt.mp

@[simp] theorem toNat_lesser (a b : BitVec width) : (lesser a b).toNat = min a.toNat b.toNat := by
  unfold lesser
  split
  next below =>
    have bound := BitVec.lt_def.mp below
    omega
  next above =>
    have bound := BitVec.le_def.mp (BitVec.not_lt.mp above)
    omega

theorem toNat_widen (narrow : width ≤ 256) (a : BitVec width) :
    (a.setWidth 256).toNat = a.toNat := by
  rw [BitVec.toNat_setWidth, Nat.mod_eq_of_lt]
  exact a.isLt.trans_le (Nat.pow_le_pow_right (by decide) narrow)

theorem widen_inj (narrow : width ≤ 256) (same : a.setWidth 256 = b.setWidth 256) : a = b := by
  apply BitVec.eq_of_toNat_eq
  rw [← toNat_widen narrow a, same, toNat_widen narrow]

theorem toNat_pos (nonzero : a ≠ 0) : 0 < a.toNat := by
  apply Nat.pos_of_ne_zero
  intro zero
  exact nonzero (BitVec.eq_of_toNat_eq zero)

theorem toNat_le_max (a : U256) : a.toNat ≤ 2 ^ 256 - 1 := by
  have bound := a.isLt
  omega

@[simp] theorem toNat_max : U256.max.toNat = 2 ^ 256 - 1 := by
  simp

end Checked

/-! ## Storage mappings -/

section Storage

variable {α β γ δ : Type} [DecidableEq α] [DecidableEq β] [DecidableEq γ]

/-- Write one entry of a mapping. -/
def set (mapping : α → δ) (a : α) (value : δ) : α → δ :=
  fun a' => if a' = a then value else mapping a'

/-- Write one entry of a two-level mapping. -/
def set₂ (mapping : α → β → δ) (a : α) (b : β) (value : δ) : α → β → δ :=
  fun a' b' => if a' = a ∧ b' = b then value else mapping a' b'

/-- Write one entry of a three-level mapping. -/
def set₃ (mapping : α → β → γ → δ) (a : α) (b : β) (c : γ) (value : δ) :
    α → β → γ → δ :=
  fun a' b' c' => if a' = a ∧ b' = b ∧ c' = c then value else mapping a' b' c'

@[simp] theorem set_apply (mapping : α → δ) (a a' : α) (value : δ) :
    set mapping a value a' = if a' = a then value else mapping a' := rfl

theorem set_self (mapping : α → δ) (a : α) : set mapping a (mapping a) = mapping := by
  funext a'
  rw [set_apply]
  split <;> simp [*]

@[simp] theorem set₂_apply (mapping : α → β → δ) (a a' : α) (b b' : β) (value : δ) :
    set₂ mapping a b value a' b' =
      if a' = a ∧ b' = b then value else mapping a' b' := rfl

@[simp] theorem set₃_apply (mapping : α → β → γ → δ) (a a' : α) (b b' : β) (c c' : γ)
    (value : δ) :
    set₃ mapping a b c value a' b' c' =
      if a' = a ∧ b' = b ∧ c' = c then value else mapping a' b' c' := rfl

/-- A write leaves every other entry alone. -/
theorem set₂_of_ne (mapping : α → β → δ) {a a' : α} {b b' : β} (value : δ)
    (elsewhere : ¬ (a = a' ∧ b = b')) : set₂ mapping a b value a' b' = mapping a' b' := by
  rw [set₂_apply, if_neg]
  rintro ⟨rfl, rfl⟩
  exact elsewhere ⟨rfl, rfl⟩

theorem set₃_of_ne (mapping : α → β → γ → δ) {a a' : α} {b b' : β} {c c' : γ} (value : δ)
    (elsewhere : ¬ (a = a' ∧ b = b' ∧ c = c')) :
    set₃ mapping a b c value a' b' c' = mapping a' b' c' := by
  rw [set₃_apply, if_neg]
  rintro ⟨rfl, rfl, rfl⟩
  exact elsewhere ⟨rfl, rfl, rfl⟩

end Storage

end Evm
