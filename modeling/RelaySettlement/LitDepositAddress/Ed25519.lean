import RelaySettlement.LitDepositAddress.Ed25519Signature

/-!
# Wallets on Ed25519

What the policies for Solana and TON have in common: addresses of 32 bytes.
-/

open Evm

namespace RelaySettlement.LitDepositAddress

open Js

def hex32Bytes (hex : Bytes) : Option Bytes := do
  let bytes ← hexToBytes hex
  ensure (bytes.length = 32)
  return bytes

/-! ## A deposit with addresses of 32 bytes -/

namespace SampleDeposit

def trigger32 : DepositAddressTrigger :=
  { base with
    input := { base.input with currency := writeHex (Abi.word 0) }
    derivationFields := { base.derivationFields with depositor := writeHex (Abi.word 30) } }

def attestation32 : DepositAddressTriggerAttestation :=
  { attestation with inputDepository := writeHex (Abi.word 90) }

/-- A stand-in for the curve. -/
def curve32 : Ed25519 ℤ := SampleKeys.curveOf 1 Int.toNat

end SampleDeposit

end RelaySettlement.LitDepositAddress
