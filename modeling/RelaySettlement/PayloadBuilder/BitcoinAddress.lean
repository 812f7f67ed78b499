import RelaySettlement.LitDepositAddress.BitcoinVm
import RelaySettlement.PayloadBuilder.BitcoinValue

/-!
# Bitcoin addresses and the scripts that pay to them

The builder and the deposit signer each turn the bytes of an address into an output script.
Where the builder accepts an address they write the same script, and the address can be read
back from it.
-/

open Evm

namespace RelaySettlement

namespace BitcoinVmPayloadBuilder.PaysTo

variable {encodedAddress encodedAddress' script script' : Bytes}

theorem isStandardOutputScript (pays : PaysTo encodedAddress script) :
    isStandardOutputScript script = true := by
  cases pays with
  | p2pkh length =>
    simp [BitcoinVmPayloadBuilder.isStandardOutputScript, isP2pkhScript,
      List.getD_eq_getElem?_getD, length]
  | p2sh length =>
    simp [BitcoinVmPayloadBuilder.isStandardOutputScript, isP2shScript,
      List.getD_eq_getElem?_getD, length]
  | @witness version program known length =>
    have short : 2 ≤ program.length ∧ program.length ≤ 40 := by
      split at length
      · omega
      · exact length
    have programLength : (UInt8.ofNat program.length).toNat = program.length := by
      rw [UInt8.toNat_ofNat']
      omega
    suffices witness : isWitnessScript _ = true by
      rw [BitcoinVmPayloadBuilder.isStandardOutputScript, witness, Bool.or_true]
    rw [isWitnessScript]
    simp only [List.length_cons, List.getD_cons_zero, List.getD_cons_succ, programLength]
    rw [if_neg (by omega)]
    by_cases zero : version = 0
    · rw [if_pos zero] at length
      subst zero
      simpa using length
    · have positive : version.toNat ≠ 0 := fun same => zero (UInt8.toNat_inj.mp same)
      have op : (0x50 + version).toNat = 0x50 + version.toNat := by
        rw [UInt8.toNat_add]
        exact Nat.mod_eq_of_lt (Nat.lt_of_le_of_lt (Nat.add_le_add_left known _) (by decide))
      rw [if_neg zero, op, if_neg (by omega), if_neg (by omega), if_neg (by omega)]
      exact decide_eq_true short

/-- The first byte of a script for a witness program. -/
theorem opcode_spec : ∀ {version : UInt8}, version.toNat ≤ 16 →
    (if version = 0 then 0 else 0x50 + version) ≠ (0x76 : UInt8) ∧
      (if version = 0 then 0 else 0x50 + version) ≠ (0xa9 : UInt8) ∧
      (version ≠ 0 → 0x50 + version ≠ 0) ∧
      UInt8.ofNat (if version.toNat = 0 then 0 else 0x50 + version.toNat) =
        if version = 0 then 0 else 0x50 + version := by
  decide +kernel

/-- A script pays to one address. -/
theorem address_eq (pays : PaysTo encodedAddress script) (pays' : PaysTo encodedAddress' script')
    (same : script = script') : encodedAddress = encodedAddress' := by
  cases pays with
  | p2pkh length =>
    cases pays' with
    | p2pkh length' => simpa using same
    | p2sh length' => cases same
    | witness known length' => exact absurd (List.cons.inj same).1.symm (opcode_spec known).1
  | p2sh length =>
    cases pays' with
    | p2pkh length' => cases same
    | p2sh length' => simpa using same
    | witness known length' => exact absurd (List.cons.inj same).1.symm (opcode_spec known).2.1
  | witness known length =>
    obtain ⟨notP2pkh, notP2sh, notZero, _⟩ := opcode_spec known
    cases pays' with
    | p2pkh length' => exact absurd (List.cons.inj same).1 notP2pkh
    | p2sh length' => exact absurd (List.cons.inj same).1 notP2sh
    | witness known' length' =>
      obtain ⟨first, rest⟩ := List.cons.inj same
      rw [(List.cons.inj rest).2]
      split at first
      next zero =>
        split at first
        next zero' => rw [zero, zero']
        next nonzero' => exact absurd first.symm ((opcode_spec known').2.2.1 nonzero')
      next nonzero =>
        split at first
        next => exact absurd first (notZero nonzero)
        next => rw [(UInt8.add_right_inj _).mp first]

/-- The deposit signer writes the same script. -/
theorem addressScripts (pays : PaysTo encodedAddress script) {encodedHex : Bytes}
    (read : LitDepositAddress.hexToBytes encodedHex = some encodedAddress) :
    LitDepositAddress.BitcoinVm.addressScripts encodedHex = some [script] := by
  rw [LitDepositAddress.BitcoinVm.addressScripts, read, some_bind]
  cases pays with
  | p2pkh length => simp [length]
  | p2sh length => simp [length]
  | @witness version program known length =>
    have long : 2 ≤ program.length := by
      split at length
      · omega
      · exact length.1
    have notLegacy : version ≠ 0xff := by
      rintro rfl
      exact absurd known (by decide)
    have accepted : 3 ≤ program.length + 1 ∧ version.toNat ≤ 16 := ⟨by omega, known⟩
    dsimp only
    rw [if_neg (by simpa using notLegacy)]
    refine bind_eq_some.mpr ⟨(), Js.ensure_eq_some.mpr accepted, ?_⟩
    exact congrArg (fun op => some [op :: UInt8.ofNat program.length :: program])
      (opcode_spec known).2.2.2

end BitcoinVmPayloadBuilder.PaysTo

open BitcoinVmPayloadBuilder LitDepositAddress in
/-- The script that the builder writes for an address is a standard one and is the script of the
deposit signer, and no other address has it. -/
theorem bitcoin_scripts_determine_addresses (encodedAddress script : Bytes)
    (accepted : protocolAddressToScript encodedAddress = .ok script) :
    isStandardOutputScript script = true ∧
      (∀ encodedHex, hexToBytes encodedHex = some encodedAddress →
        BitcoinVm.addressScripts encodedHex = some [script]) ∧
      ∀ encodedAddress', protocolAddressToScript encodedAddress' = .ok script →
        encodedAddress' = encodedAddress := by
  have pays := paysTo_of_protocolAddressToScript accepted
  refine ⟨pays.isStandardOutputScript, fun _ => pays.addressScripts, ?_⟩
  intro encodedAddress' accepted'
  exact (paysTo_of_protocolAddressToScript accepted').address_eq pays rfl

open BitcoinVmPayloadBuilder LitDepositAddress in
theorem bitcoin_scripts_determine_addresses_sample :
    BitcoinVm.addressScripts (Text.hex (0x01 :: Abi.word 7)) =
      some [0x51 :: 0x20 :: Abi.word 7] :=
  (bitcoin_scripts_determine_addresses (0x01 :: Abi.word 7) (0x51 :: 0x20 :: Abi.word 7)
    (by decide +kernel)).2.1 _ (by decide +kernel)

end RelaySettlement
