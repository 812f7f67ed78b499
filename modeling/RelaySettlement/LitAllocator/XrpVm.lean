import RelaySettlement.Evm.Text
import RelaySettlement.Js.Check

/-!
# Addresses on the XRP Ledger

The signer writes an account as base58 with a checksum, in the alphabet of the ledger.
-/

open Evm

namespace RelaySettlement.LitAllocator

def xrplAlphabet : Bytes := Abi.utf8 "rpshnaf39wBUDNEGHJKLM4PQRST7VWXYZ2bcdeCg65jkm8oFqi1tuvAxyz"

def symbol58 (digit : ℕ) : UInt8 := xrplAlphabet.getD digit 0

/-- The loop that writes the digits of a number, the lowest first. -/
def prependDigits (value : ℕ) (out : Bytes) : Bytes :=
  if value = 0 then out else prependDigits (value / 58) (symbol58 (value % 58) :: out)

/-- The loop over the bytes up to the first that is not zero. -/
def prependZeros : Bytes → Bytes → Bytes
  | [], out => out
  | byte :: bytes, out => if byte ≠ 0 then out else prependZeros bytes (symbol58 0 :: out)

def base58Xrpl (bytes : Bytes) : Bytes :=
  let value := bytes.foldl (fun value byte => value * 256 + byte.toNat) 0
  prependZeros bytes (prependDigits value [])

/-- Base58check over a zero byte and the account. -/
def encodeAccountId (sha256 : Bytes → Bytes32) (accountId : Bytes) : Bytes :=
  let payload := 0x00 :: accountId
  let checksum := (Abi.word (sha256 (Abi.word (sha256 payload)))).take 4
  base58Xrpl (payload ++ checksum)

/-! ## Numbers behind leading zeros -/

def leadingZeros (digits : List ℕ) : ℕ := (digits.takeWhile (· = 0)).length

/-- Digits are leading zeros and the digits of the number they denote. -/
theorem replicate_append_digits {base : ℕ} (large : 1 < base) {digits : List ℕ}
    (small : ∀ digit ∈ digits, digit < base) :
    List.replicate (leadingZeros digits) 0 ++
      (Nat.digits base (Nat.ofDigits base digits.reverse)).reverse = digits := by
  induction digits with
  | nil => simp [leadingZeros]
  | cons digit digits ih =>
      by_cases zero : digit = 0
      · have rest := ih fun digit member => small digit (List.mem_cons_of_mem _ member)
        subst zero
        rw [Nat.ofDigits_reverse_zero_cons]
        simpa [leadingZeros, List.replicate_succ] using rest
      · rw [Nat.digits_ofDigits base large _ (by simpa [or_comm] using small) (by simpa using zero)]
        simp [leadingZeros, zero]

theorem leadingZeros_digits (count base value : ℕ) :
    leadingZeros (List.replicate count 0 ++ (Nat.digits base value).reverse) = count := by
  induction count with
  | zero =>
      cases written : (Nat.digits base value).reverse with
      | nil => rfl
      | cons digit digits =>
          have isDigits := List.reverse_eq_iff.mp written
          have nonzero : value ≠ 0 := by
            rintro rfl
            simp at isDigits
          have first : digit ≠ 0 := by
            simpa [isDigits] using Nat.getLast_digit_ne_zero base nonzero
          simp [leadingZeros, first]
  | succ count ih => simpa [leadingZeros, List.replicate_succ] using ih

/-! ## Reading an address -/

def readSymbol58 (character : UInt8) : Option ℕ := xrplAlphabet.idxOf? character

/-- The bytes that a text denotes: its leading zeros stand for zero bytes, and what follows is a
number. -/
def readBase58 (text : Bytes) : Option Bytes := do
  let digits ← text.mapM readSymbol58
  return (List.replicate (leadingZeros digits) 0 ++
    (Nat.digits 256 (Nat.ofDigits 58 digits.reverse)).reverse).map UInt8.ofNat

theorem readSymbol58_symbol58 : ∀ digit < 58, readSymbol58 (symbol58 digit) = some digit := by
  decide +kernel

theorem prependDigits_eq (value : ℕ) (out : Bytes) :
    prependDigits value out = (Nat.digits 58 value).reverse.map symbol58 ++ out := by
  fun_induction prependDigits value out with
  | case1 out => simp
  | case2 value out nonzero ih =>
      rw [ih, Nat.digits_def' (by decide) (Nat.pos_of_ne_zero nonzero)]
      simp

theorem prependZeros_eq (bytes out : Bytes) :
    prependZeros bytes out =
      (List.replicate (leadingZeros (bytes.map UInt8.toNat)) 0).map symbol58 ++ out := by
  fun_induction prependZeros bytes out with
  | case1 out => rfl
  | case2 byte bytes out nonzero =>
      have first : byte.toNat ≠ 0 := fun zero => nonzero (UInt8.toNat_inj.mp zero)
      simp [leadingZeros, first]
  | case3 byte bytes out zero ih =>
      have isZero : byte = 0 := not_not.mp zero
      rw [ih, isZero]
      simp [leadingZeros, List.replicate_succ', List.append_assoc]

theorem base58Xrpl_eq (bytes : Bytes) :
    base58Xrpl bytes =
      (List.replicate (leadingZeros (bytes.map UInt8.toNat)) 0 ++
        (Nat.digits 58 (Nat.ofDigits 256 (bytes.map UInt8.toNat).reverse)).reverse).map
          symbol58 := by
  have value : bytes.foldl (fun value byte => value * 256 + byte.toNat) 0 =
      Nat.ofDigits 256 (bytes.map UInt8.toNat).reverse := by
    rw [Nat.ofDigits_eq_foldr, List.foldr_reverse, List.foldl_map]
    simp [Nat.add_comm, Nat.mul_comm]
  rw [base58Xrpl, prependZeros_eq, prependDigits_eq, value]
  simp

theorem mapM_readSymbol58 {digits : List ℕ} (small : ∀ digit ∈ digits, digit < 58) :
    (digits.map symbol58).mapM readSymbol58 = some digits := by
  rw [Js.mapM_eq_some_iff, List.forall₂_map_left_iff, List.forall₂_same]
  intro digit member
  exact readSymbol58_symbol58 digit (small digit member)

theorem readBase58_base58Xrpl (bytes : Bytes) : readBase58 (base58Xrpl bytes) = some bytes := by
  have small : ∀ digit ∈ bytes.map UInt8.toNat, digit < 256 := by
    intro digit member
    obtain ⟨byte, _, rfl⟩ := List.mem_map.mp member
    exact byte.toNat_lt
  rw [base58Xrpl_eq, readBase58, mapM_readSymbol58]
  · simp only [some_bind, leadingZeros_digits, List.reverse_append, List.reverse_reverse,
      List.reverse_replicate, Nat.ofDigits_append, Nat.ofDigits_replicate_zero, mul_zero, add_zero,
      Nat.ofDigits_digits, replicate_append_digits (by decide : 1 < 256) small]
    simp [Function.comp_def]
  · intro digit member
    rcases List.mem_append.mp member with zero | isDigit
    · rw [List.eq_of_mem_replicate zero]
      decide
    · exact Nat.digits_lt_base (by decide) (List.mem_reverse.mp isDigit)

/-- Base58 text in the alphabet of the ledger determines the bytes, and an address the account. -/
theorem xrpl_text_determines_bytes :
    (∀ bytes : Bytes, readBase58 (base58Xrpl bytes) = some bytes) ∧
      ∀ sha256 : Bytes → Bytes32, Function.Injective (encodeAccountId sha256) := by
  refine ⟨readBase58_base58Xrpl, ?_⟩
  intro sha256 accountId accountId' same
  have read := congrArg readBase58 same
  rw [encodeAccountId, encodeAccountId, readBase58_base58Xrpl, readBase58_base58Xrpl] at read
  have payloads := List.append_inj_left' (Option.some.inj read) (by simp [Abi.word])
  exact List.tail_eq_of_cons_eq payloads

end RelaySettlement.LitAllocator
