import RelaySettlement.PayloadBuilder.Gateway

/-!
# WithdrawGasPayer

The gas of a withdrawal is paid in hub funds: the payer burns the fee the oracle has signed
from the alias of the spender and records the amount under the hash of the withdraw
parameters.  Payload builders look the amount up under the hash they compute themselves.

Any number of payers may be deployed over one hub.  Their builders are views, so that the
state only changes with payments and with other activity on the hub.
-/

open Evm

namespace RelaySettlement

/-- The storage of a payer. -/
structure WithdrawGasPayer where
  gasPayments : Bytes32 → U256
  gasPayers : Bytes32 → Address

/-- The hub and the payers over it, by address. -/
structure GasWorld where
  hub : Hub
  payers : Address → WithdrawGasPayer

/-- What the payers take from their surroundings.  `oracleMultisig` and `domainSeparator`
are the immutables of the payer at an address. -/
structure GasEnv (χ : Type) where
  hub : Hub.Env
  oracleMultisig : Address → Address
  domainSeparator : Address → Bytes32
  isValidSignatureNow : χ → GasWorld → Address → Bytes32 → Bytes → Bool

namespace WithdrawGasPayer

inductive Error where
  | invalidOracleSignature (oracle : Address)
  | invalidGasFeeAmount (chainId : Bytes)
  | gasAlreadyPaid (withdrawParamsHash : Bytes32)
  | hub (error : Hub.Error)
  deriving DecidableEq

/-- The payer right after deployment. -/
def empty : WithdrawGasPayer where
  gasPayments := fun _ => 0
  gasPayers := fun _ => 0

variable {χ : Type} (env : GasEnv χ)

/-- `PAY_GAS_TYPEHASH`. -/
def payGasTypehash : Bytes32 :=
  env.hub.keccak256 (Abi.utf8
    "PayGas(string chainId,bytes depository,bytes currency,uint256 amount,string spenderChainId,bytes spender,bytes receiver,bytes data,bytes32 nonce,bytes feeCurrency,uint256 feeAmount)")

/-- `_payGasDigest`. -/
def payGasDigest (self : Address) (request : WithdrawRequest) (feeCurrency : Bytes)
    (feeAmount : U256) : Bytes32 :=
  let keccak256 := env.hub.keccak256
  Abi.hashTypedData keccak256 (env.domainSeparator self) (keccak256 (Abi.encode [
    .word (payGasTypehash env), .word (keccak256 request.chainId),
    .word (keccak256 request.depository), .word (keccak256 request.currency),
    .word request.amount, .word (keccak256 request.spenderChainId),
    .word (keccak256 request.spender), .word (keccak256 request.receiver),
    .word (keccak256 request.data), .word request.nonce, .word (keccak256 feeCurrency),
    .word feeAmount]))

/-- The withdraw parameters of a request. -/
def withdrawParams (request : WithdrawRequest) : WithdrawParams where
  chainId := request.chainId
  depository := request.depository
  params := ⟨request.currency, request.amount, request.receiver, request.nonce, request.data⟩

/-- The hub account a payment is burned from. -/
def spenderAlias (request : WithdrawRequest) : Address :=
  Utils.generateAddress env.hub.keccak256 request.spenderChainId request.spender

/-- The hub token a payment is burned in. -/
def tokenId (request : WithdrawRequest) (feeCurrency : Bytes) : U256 :=
  Utils.generateTokenId env.hub.keccak256 request.chainId feeCurrency

/-- `payGas` of the payer at `self`. -/
def payGas (self : Address) (ctx : Ctx χ) (request : WithdrawRequest) (feeCurrency : Bytes)
    (feeAmount : U256) (oracleSignature : Bytes) (world : GasWorld) :
    Except Error GasWorld := do
  require (feeAmount ≠ 0) (.invalidGasFeeAmount request.chainId)
  let digest := payGasDigest env self request feeCurrency feeAmount
  let oracle := env.oracleMultisig self
  require (env.isValidSignatureNow ctx.rest world oracle digest oracleSignature = true)
    (.invalidOracleSignature oracle)
  let payer := world.payers self
  let withdrawParamsHash := (withdrawParams request).hash env.hub.keccak256
  require (payer.gasPayments withdrawParamsHash = 0) (.gasAlreadyPaid withdrawParamsHash)
  let spenderAlias := spenderAlias env request
  let hub ← bubble .hub (world.hub.burn ⟨self, ctx.timestamp⟩ spenderAlias
    (tokenId env request feeCurrency) feeAmount)
  return {
    hub := hub
    payers := set world.payers self {
      gasPayments := set payer.gasPayments withdrawParamsHash feeAmount
      gasPayers := set payer.gasPayers withdrawParamsHash spenderAlias } }

end WithdrawGasPayer

/-! ## The system -/

/-- A payment through the payer at `self`, or a call of anybody to the hub or to a view. -/
inductive GasCall (χ : Type) where
  | payGas (self : Address) (ctx : Ctx χ) (request : WithdrawRequest) (feeCurrency : Bytes)
      (feeAmount : U256) (oracleSignature : Bytes)
  | ledger (call : LedgerCall)

/-- What a call of the system reverts with. -/
inductive GasSystemError where
  | payer (error : WithdrawGasPayer.Error)
  | ledger (error : ERC20View.Error)

/-- One step of the system. -/
def GasWorld.step {χ : Type} (env : GasEnv χ) (call : GasCall χ) (world : GasWorld) :
    Except GasSystemError GasWorld :=
  match call with
  | .payGas self ctx request feeCurrency feeAmount oracleSignature =>
      bubble .payer (WithdrawGasPayer.payGas env self ctx request feeCurrency feeAmount
        oracleSignature world)
  | .ledger call => do
      let hub ← bubble .ledger (world.hub.step env.hub call)
      return { world with hub := hub }

/-- The chain as a builder sees it: the payments recorded so far, in some block and with
some settings. -/
def GasWorld.chain (world : GasWorld) (blockNumber timestamp : U256)
    (configValues : Address → Bytes32 → Option Bytes32) : HubChain where
  blockNumber := blockNumber
  timestamp := timestamp
  configValues := configValues
  gasPayments := fun payer => (world.payers payer).gasPayments

end RelaySettlement
