import Mathlib.Data.ZMod.Basic
import Mathlib.GroupTheory.OrderOfElement
import RelaySettlement.LitDepositAddress.Action

/-!
# Signatures with derived Ed25519 keys

`signEd25519Bip32` signs with an extended secret, which is not hashed and clamped as a seed is.
The points of the curve are an arbitrary group, and SHA-512 is an arbitrary function.
-/

open Evm

namespace RelaySettlement.LitDepositAddress

/-- `ed25519.Point.Fn.ORDER`. -/
def ed25519Order : ℕ := 2 ^ 252 + 27742317777372353535851937790883648493

/-- `numberToBytesLE`, which throws if anything is left of the number. -/
def numberToBytesLE : (value length : ℕ) → Option Bytes
  | value, 0 => if value = 0 then some [] else none
  | value, length + 1 => do
      return UInt8.ofNat (value &&& 0xff) :: (← numberToBytesLE (value >>> 8) length)

theorem numberToBytesLE_eq {value length : ℕ} (small : value < 256 ^ length) :
    numberToBytesLE value length = some (littleEndian length value) := by
  induction length generalizing value with
  | zero => exact if_pos (Nat.lt_one_iff.mp small)
  | succ length ih =>
    have shifted : value >>> 8 = value / 256 := Nat.shiftRight_eq_div_pow ..
    rw [numberToBytesLE, shifted, ih (Nat.div_lt_of_lt_mul (by rwa [Nat.pow_succ'] at small)),
      Abi.ofNat_and_ff, littleEndian_succ]
    rfl

theorem length_numberToBytesLE {value length : ℕ} {bytes : Bytes}
    (written : numberToBytesLE value length = some bytes) : bytes.length = length := by
  induction length generalizing value bytes with
  | zero =>
    simp only [numberToBytesLE, Option.ite_none_right_eq_some] at written
    cases written.2
    rfl
  | succ length ih =>
    simp only [numberToBytesLE, bind_eq_some, Option.pure_def, Option.some_inj] at written
    obtain ⟨rest, isRest, rfl⟩ := written
    rw [List.length_cons, ih isRest]

/-- What the signer takes from the libraries. -/
structure Ed25519 (Point : Type) where
  base : Point
  toBytes : Point → Bytes
  sha512 : Bytes → Bytes
  getPublicKey : (privateKey : Bytes) → Option Bytes

namespace Ed25519

variable {Point : Type} [AddCommGroup Point] (curve : Ed25519 Point)

structure Correct : Prop where
  order : addOrderOf curve.base = ed25519Order
  length_toBytes : ∀ point, (curve.toBytes point).length = 32
  getPublicKey : ∀ privateKey, privateKey.length = 64 →
    curve.getPublicKey privateKey =
      some (curve.toBytes (bytesToNumberLE (privateKey.take 32) • curve.base))

/-- `Point.BASE.multiply`, which throws for 0. -/
def multiply (scalar : ℕ) : Option Point :=
  if scalar = 0 then none else some (scalar • curve.base)

/-- The little-endian value of SHA-512, modulo the order. -/
def hash (data : Bytes) : ℕ := bytesToNumberLE (curve.sha512 data) % ed25519Order

def signEd25519Bip32 (message privateKey : Bytes) : Option Bytes := do
  let kL := privateKey.take 32
  let kR := (privateKey.drop 32).take 32
  let scalar := bytesToNumberLE kL % ed25519Order
  let r := curve.hash (kR ++ message)
  let publicKey ← curve.getPublicKey privateKey
  let encodedR := curve.toBytes (← curve.multiply r)
  let challenge := curve.hash (encodedR ++ publicKey ++ message)
  let s := (r + challenge * scalar) % ed25519Order
  return encodedR ++ (← numberToBytesLE s 32)

variable {curve}

theorem length_signEd25519Bip32 {message privateKey signature : Bytes}
    (length : ∀ point, (curve.toBytes point).length = 32)
    (signed : curve.signEd25519Bip32 message privateKey = some signature) :
    signature.length = 64 := by
  simp only [signEd25519Bip32, bind_eq_some, Option.pure_def, Option.some_inj] at signed
  obtain ⟨_, _, _, _, _, isWritten, rfl⟩ := signed
  rw [List.length_append, length, length_numberToBytesLE isWritten]

end Ed25519

/-- A derived key signs whenever the hash for the nonce is not 0, and what it writes satisfies
the equation that verifiers check. -/
theorem derived_signature_verifies {Point : Type} [AddCommGroup Point] (curve : Ed25519 Point)
    (correct : curve.Correct) (message privateKey : Bytes) (length : privateKey.length = 64)
    (nonzero : curve.hash ((privateKey.drop 32).take 32 ++ message) ≠ 0) :
    let A := bytesToNumberLE (privateKey.take 32) • curve.base
    ∃ (R : Point) (S : Bytes),
      curve.signEd25519Bip32 message privateKey = some (curve.toBytes R ++ S) ∧
      (curve.toBytes R ++ S).length = 64 ∧ bytesToNumberLE S < ed25519Order ∧
      bytesToNumberLE S • curve.base =
        R + curve.hash (curve.toBytes R ++ curve.toBytes A ++ message) • A := by
  intro A
  have reduced (n : ℕ) : (n % ed25519Order) • curve.base = n • curve.base := by
    rw [← correct.order, mod_addOrderOf_nsmul]
  let r := curve.hash ((privateKey.drop 32).take 32 ++ message)
  let challenge := curve.hash (curve.toBytes (r • curve.base) ++ curve.toBytes A ++ message)
  let scalar := bytesToNumberLE (privateKey.take 32) % ed25519Order
  have small : (r + challenge * scalar) % ed25519Order < ed25519Order :=
    Nat.mod_lt _ (by decide)
  have fits := small.trans (show ed25519Order < 256 ^ 32 by decide)
  have read := readLittleEndian_littleEndian 32 ((r + challenge * scalar) % ed25519Order)
  rw [Nat.mod_eq_of_lt fits, ← bytesToNumberLE_eq] at read
  refine ⟨r • curve.base, littleEndian 32 _, ?_, ?_, read ▸ small, ?_⟩
  · have multiplied : curve.multiply r = some (r • curve.base) := if_neg nonzero
    simp only [Ed25519.signEd25519Bip32, Option.bind_eq_bind, correct.getPublicKey _ length,
      Option.bind_some]
    rw [show curve.multiply _ = _ from multiplied, Option.bind_some,
      show numberToBytesLE _ 32 = _ from numberToBytesLE_eq fits]
    rfl
  · rw [List.length_append, correct.length_toBytes, length_littleEndian]
  · rw [read, reduced, add_smul, mul_smul, reduced]

namespace SampleKeys

/-- A stand-in for the libraries: points are written as numbers. -/
def curveOf {Point : Type} (base : Point) (number : Point → ℕ) : Ed25519 Point where
  base := base
  toBytes := fun point => littleEndian 32 (number point)
  sha512 := fun data => littleEndian 64 (Abi.sampleHash data).toNat
  getPublicKey := fun privateKey =>
    some (littleEndian 32 (bytesToNumberLE (privateKey.take 32) % ed25519Order))

/-- A group of the order of the curve. -/
def curve : Ed25519 (ZMod ed25519Order) := curveOf 1 ZMod.val

theorem correct : curve.Correct where
  order := ZMod.addOrderOf_one _
  length_toBytes := fun _ => length_littleEndian ..
  getPublicKey := by
    intro privateKey _
    simp [curve, curveOf, ZMod.val_natCast]

def privateKey : Bytes := Abi.word 1 ++ Abi.word 2

end SampleKeys

open SampleKeys in
theorem derived_signature_verifies_sample :
    let A := bytesToNumberLE (privateKey.take 32) • curve.base
    A ≠ 0 ∧ ∃ (R : ZMod ed25519Order) (S : Bytes),
      curve.signEd25519Bip32 [3, 4] privateKey = some (curve.toBytes R ++ S) ∧
      (curve.toBytes R ++ S).length = 64 ∧ bytesToNumberLE S < ed25519Order ∧
      bytesToNumberLE S • curve.base =
        R + curve.hash (curve.toBytes R ++ curve.toBytes A ++ [3, 4]) • A := by
  refine ⟨?_, derived_signature_verifies curve correct [3, 4] privateKey (by decide +kernel)
    (by decide +kernel)⟩
  have scalar : bytesToNumberLE (privateKey.take 32) = 2 ^ 248 := by decide +kernel
  rw [scalar, show curve.base = 1 from rfl, nsmul_one, Ne, ZMod.natCast_eq_zero_iff]
  decide +kernel

end RelaySettlement.LitDepositAddress
