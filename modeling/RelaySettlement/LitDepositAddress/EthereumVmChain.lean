import RelaySettlement.LitDepositAddress.EthereumVmCalls

/-!
# The chain of EVM deposits

Nothing that is checked ties the chain of a trigger to the chain id of a transaction.  The solver
chooses it with the unsigned transaction, and the signed one carries it.
-/

open Evm

namespace RelaySettlement.LitDepositAddress.EthereumVm

open Js

/-! ## The chain of a signed transaction -/

/-- The chain id that an unsigned transaction names. -/
def unsignedChainId {Rest : Type} (codec : TransactionCodec Rest)
    (transaction : EthereumVmTransaction) : Option ℕ := do
  (← codec.parseTransaction transaction.unsignedTransaction).chainId

/-- viem parses no chain id 0, and writes the chain id of a transaction into the signed one: as a
field, or in the value `v` of a legacy transaction. -/
structure TransactionCodec.WritesChainId {Rest : Type} (codec : TransactionCodec Rest)
    (chainIdOf : Bytes → Option ℕ) : Prop where
  parsed : ∀ text parsed, codec.parseTransaction text = some parsed → parsed.chainId ≠ some 0
  typed : ∀ parsed r s yParity raw, parsed.type ≠ .legacy →
    codec.serializeTransaction parsed (.typed r s yParity) = some raw →
    chainIdOf raw = parsed.chainId
  legacy : ∀ parsed r s v raw, parsed.type = .legacy → 37 ≤ v →
    codec.serializeTransaction parsed (.legacy r s v) = some raw →
    chainIdOf raw = some ((v - 35) / 2).toNat

/-- The values `v` of legacy transactions are numbers that a double holds. -/
def SafeChainId {Rest : Type} (codec : TransactionCodec Rest)
    (transaction : EthereumVmTransaction) : Prop :=
  ∀ parsed, codec.parseTransaction transaction.unsignedTransaction = some parsed →
    parsed.type = .legacy → ∀ chainId, parsed.chainId = some chainId → 36 + 2 * chainId < 2 ^ 53

theorem eip155Value_eq {chainId yParity : ℕ} (bit : yParity ≤ 1)
    (safe : 36 + 2 * chainId < 2 ^ 53) :
    eip155Value chainId yParity = some (35 + 2 * chainId + yParity : ℤ) := by
  have doubled : toDouble (chainId * 2) = some (chainId * 2 : ℚ) := by
    have double := @toDouble_intCast (chainId * 2) (by rw [abs_of_nonneg] <;> omega)
    push_cast at double
    exact double
  have shifted : toDouble (35 + (chainId * 2 : ℚ)) = some (35 + chainId * 2 : ℚ) := by
    have double := @toDouble_intCast (35 + chainId * 2) (by rw [abs_of_nonneg] <;> omega)
    push_cast at double
    exact double
  have value : toDouble ((35 + chainId * 2 : ℚ) + yParity) =
      some ((35 + 2 * chainId + yParity : ℤ) : ℚ) := by
    have double := @toDouble_intCast (35 + 2 * chainId + yParity)
      (by rw [abs_of_nonneg] <;> omega)
    rw [← double]
    push_cast
    ring_nf
  simp only [eip155Value, doubled, shifted, value, some_bind]
  exact if_pos (Rat.den_intCast _)

section Chain

variable {Node Rest : Type} {keccak : Bytes → Bytes32} {codec : TransactionCodec Rest}
  {tree : KeyTree Node} {keys : Secp256k1Keys} {chainIdOf : Bytes → Option ℕ}
  (writes : codec.WritesChainId chainIdOf)

include writes

/-- A signed transaction carries the chain id of the unsigned one. -/
theorem chainIdOf_signed {privateKey : Bytes} {transaction : EthereumVmTransaction}
    {signed : EthereumVmSignedTransaction} (safe : SafeChainId codec transaction)
    (isSigned : signTransactionWithKey keccak codec keys privateKey transaction = some signed) :
    chainIdOf signed.rawTransaction = unsignedChainId codec transaction := by
  simp only [signTransactionWithKey, bind_eq_some, Option.pure_def, Option.some_inj] at isSigned
  obtain ⟨parsed, isParsed, _, _, signature, _, evmSignature, isEvmSignature, raw, isRaw, _, _,
    rfl⟩ := isSigned
  have named : unsignedChainId codec transaction = parsed.chainId := by
    rw [unsignedChainId, isParsed]
    rfl
  rw [named]
  rw [buildSignature] at isEvmSignature
  split at isEvmSignature
  next isLegacy =>
    simp only [bind_eq_some, Option.pure_def, Option.some_inj] at isEvmSignature
    obtain ⟨chainId, isChainId, v, isValue, rfl⟩ := isEvmSignature
    have bit : (if signature.getD 64 0 = 27 then 0 else 1) ≤ 1 := by split <;> decide
    rw [eip155Value_eq bit (safe parsed isParsed isLegacy chainId isChainId)] at isValue
    have positive : chainId ≠ 0 := by
      rintro rfl
      exact writes.parsed _ _ isParsed isChainId
    have large : 37 ≤ v := by
      rw [← Option.some.inj isValue]
      omega
    rw [writes.legacy _ _ _ v _ isLegacy large isRaw, isChainId, ← Option.some.inj isValue]
    congr 1
    omega
  next notLegacy =>
    cases isEvmSignature
    exact writes.typed _ _ _ _ _ notLegacy isRaw

/-- All transactions of a request are signed for a chain exactly if all of them name it. -/
theorem chainIds_of_run {runtime : Runtime} {request : Request EthereumVmTransaction.ofJson}
    {result : SignResult EthereumVmSignedTransaction} {transactions : List EthereumVmTransaction}
    (returned : runVmAction runtime .ethereumVm
      (walletDeriver runtime.keccak codec tree keys) request = some (.signed result))
    (isTransactions : request.params.transactions = some transactions)
    (safe : ∀ transaction ∈ transactions, SafeChainId codec transaction) (chainId : ℕ) :
    (∀ signed ∈ result.signedTransactions, chainIdOf signed.rawTransaction = some chainId) ↔
      ∀ transaction ∈ transactions, unsignedChainId codec transaction = some chainId := by
  obtain ⟨trigger, attestation, order, _, _, transactions', _, _, run⟩ :=
    runVmAction_eq_signed.mp returned
  cases Option.some.inj (isTransactions.symm.trans run.isTransactions)
  obtain ⟨privateKey, _, areSigned⟩ := VmWalletDeriver.keyAt_of_signTransactions _ run.signed
  rw [mapM_eq_some_iff] at areSigned
  generalize result.signedTransactions = signedTransactions at areSigned
  clear returned isTransactions run
  induction areSigned with
  | nil => exact iff_of_true (List.forall_mem_nil _) (List.forall_mem_nil _)
  | cons isSigned _ ih =>
      rw [List.forall_mem_cons] at safe
      rw [List.forall_mem_cons, List.forall_mem_cons, ih safe.2,
        chainIdOf_signed writes safe.1 isSigned]

end Chain

/-- The chain of signed transactions is the one that the unsigned transactions of the solver
name, whatever chain the trigger is for: over any two requests that are signed, all signed
transactions carry one chain id exactly if all unsigned transactions name it. -/
theorem signed_chain_ids_are_unsigned_chain_ids {Node Rest : Type} (codec : TransactionCodec Rest)
    (tree : KeyTree Node) (keys : Secp256k1Keys) (chainIdOf : Bytes → Option ℕ)
    (writes : codec.WritesChainId chainIdOf) (runtime runtime' : Runtime)
    (request request' : Request EthereumVmTransaction.ofJson)
    (result result' : SignResult EthereumVmSignedTransaction)
    (returned : runVmAction runtime .ethereumVm
      (walletDeriver runtime.keccak codec tree keys) request = some (.signed result))
    (returned' : runVmAction runtime' .ethereumVm
      (walletDeriver runtime'.keccak codec tree keys) request' = some (.signed result'))
    (transactions transactions' : List EthereumVmTransaction)
    (isTransactions : request.params.transactions = some transactions)
    (isTransactions' : request'.params.transactions = some transactions')
    (safe : ∀ transaction ∈ transactions ++ transactions', SafeChainId codec transaction)
    (chainId : ℕ) :
    (∀ signed ∈ result.signedTransactions ++ result'.signedTransactions,
        chainIdOf signed.rawTransaction = some chainId) ↔
      ∀ transaction ∈ transactions ++ transactions',
        unsignedChainId codec transaction = some chainId := by
  rw [List.forall_mem_append] at safe
  rw [List.forall_mem_append, List.forall_mem_append,
    chainIds_of_run writes returned isTransactions safe.1,
    chainIds_of_run writes returned' isTransactions' safe.2]

namespace SampleCalls

open SampleDeposit

def chainIdOf (raw : Bytes) : Option ℕ := (readMarked raw).bind readCanonical

theorem writesChainId : (codec (depositData (List.replicate 12 0))).WritesChainId chainIdOf := by
  constructor
  · intro text parsed isParsed
    simp only [codec] at isParsed
    split at isParsed
    next chain _ =>
      cases isParsed
      exact fun same => chain.toNat.succ_ne_zero (Option.some.inj same)
    next => cases isParsed
  · intro parsed r s yParity raw _ isRaw
    obtain ⟨chainId, isChainId, rfl⟩ := Option.map_eq_some_iff.mp isRaw
    rw [chainIdOf, readMarked_writeHex, Option.bind_some, readCanonical_decimal, isChainId]
  · intro parsed r s v raw _ _ isRaw
    cases isRaw
    rw [chainIdOf, readMarked_writeHex, Option.bind_some, readCanonical_decimal]

/-- Keys are the texts of their paths. -/
def tree : KeyTree Bytes where
  hkdf := fun key _ _ _ => key
  fromSeed := fun seed _ => some seed
  derive := fun node segment => some (node ++ segment)
  privateKeyBytes := some
  compressedPublicKeyBytes := id
  compressedPublicKey := id
  extendedKey := id

def keys : Secp256k1Keys where
  toUncompressed := fun key => some (4 :: key)
  sign := fun digest _ => some (0 :: digest ++ digest)

def ethereumDeriver : VmWalletDeriver Bytes EthereumVmTransaction EthereumVmSignedTransaction :=
  walletDeriver keccak (codec (depositData (List.replicate 12 0))) tree keys

def transactionJson (chain : UInt8) : Json :=
  object [("unsignedTransaction", .string (writeHex [chain]))]

/-- The request with a transaction on chain 1. -/
def firstRequest : Request EthereumVmTransaction.ofJson where
  body := body [transactionJson 0]
  params := params [unsigned 0]
  typed := by decide +kernel

/-- The same request with a transaction on chain 10. -/
def secondRequest : Request EthereumVmTransaction.ofJson where
  body := body [transactionJson 9]
  params := params [unsigned 9]
  typed := by decide +kernel

/-- The chain ids of the transactions that are signed. -/
def signedChains (transactions : List EthereumVmTransaction) : Option (List (Option ℕ)) :=
  (ethereumDeriver.signTransactions (Abi.utf8 "ab") [0, 0, 0, 0, 0, 0, 0, 7] transactions).map
    fun result => result.2.map fun signed => chainIdOf signed.rawTransaction

theorem runs_ethereum {request : Request EthereumVmTransaction.ofJson}
    {transactions : List EthereumVmTransaction} {chains : List (Option ℕ)}
    (isParams : request.params = params transactions)
    (isHash : solverSignRequestHash keccak request.body = 7) (nonempty : transactions.length ≠ 0)
    (allowed : verifyTransactions (codec (depositData (List.replicate 12 0)))
      (trigger .number .number) attestation transactions = some ())
    (isSigned : signedChains transactions = some chains) :
    ∃ result, runVmAction runtime .ethereumVm ethereumDeriver request = some (.signed result) ∧
      result.signedTransactions.map (fun signed => chainIdOf signed.rawTransaction) = chains := by
  obtain ⟨⟨wallet, signedTransactions⟩, isResult, isChains⟩ := Option.map_eq_some_iff.mp isSigned
  exact ⟨_, runs isParams isHash nonempty allowed isResult, isChains⟩

/-- The first request is signed for chain 1, the second for chain 10. -/
theorem exists_signed : ∃ result result' : SignResult EthereumVmSignedTransaction,
    runVmAction runtime .ethereumVm ethereumDeriver firstRequest = some (.signed result) ∧
    runVmAction runtime .ethereumVm ethereumDeriver secondRequest = some (.signed result') ∧
    result.signedTransactions.map (fun signed => chainIdOf signed.rawTransaction) = [some 1] ∧
    result'.signedTransactions.map (fun signed => chainIdOf signed.rawTransaction) =
      [some 10] := by
  have isFirst : signedChains [unsigned 0] = some [some 1] := by decide +kernel
  have isSecond : signedChains [unsigned 9] = some [some 10] := by decide +kernel
  obtain ⟨result, returned, chains⟩ :=
    runs_ethereum (show firstRequest.params = params [unsigned 0] from rfl) (by decide +kernel)
      Nat.one_ne_zero (by decide +kernel) isFirst
  obtain ⟨result', returned', chains'⟩ :=
    runs_ethereum (show secondRequest.params = params [unsigned 9] from rfl) (by decide +kernel)
      Nat.one_ne_zero (by decide +kernel) isSecond
  exact ⟨result, result', returned, returned', chains, chains'⟩

end SampleCalls

open SampleDeposit SampleCalls in
/-- One trigger is signed for two chains. -/
theorem one_trigger_signed_for_two_chains :
    (codec (depositData (List.replicate 12 0))).WritesChainId chainIdOf ∧
    ∃ result result' : SignResult EthereumVmSignedTransaction,
      runVmAction runtime .ethereumVm ethereumDeriver firstRequest = some (.signed result) ∧
      runVmAction runtime .ethereumVm ethereumDeriver secondRequest = some (.signed result') ∧
      firstRequest.params.trigger = some (trigger .number .number) ∧
      secondRequest.params.trigger = some (trigger .number .number) ∧
      result.signedTransactions.map (fun signed => chainIdOf signed.rawTransaction) = [some 1] ∧
      result'.signedTransactions.map (fun signed => chainIdOf signed.rawTransaction) =
        [some 10] := by
  obtain ⟨result, result', returned, returned', chains⟩ := exists_signed
  exact ⟨writesChainId, result, result', returned, returned', rfl, rfl, chains⟩

open SampleDeposit SampleCalls in
theorem signed_chain_ids_are_unsigned_chain_ids_sample :
    ∃ result result' : SignResult EthereumVmSignedTransaction,
      runVmAction runtime .ethereumVm ethereumDeriver firstRequest = some (.signed result) ∧
      runVmAction runtime .ethereumVm ethereumDeriver secondRequest = some (.signed result') ∧
      ∀ chainId, (∀ signed ∈ result.signedTransactions ++ result'.signedTransactions,
          chainIdOf signed.rawTransaction = some chainId) ↔
        ∀ transaction ∈ [unsigned 0, unsigned 9],
          unsignedChainId (codec (depositData (List.replicate 12 0))) transaction =
            some chainId := by
  obtain ⟨result, result', returned, returned', _⟩ := exists_signed
  refine ⟨result, result', returned, returned', ?_⟩
  apply signed_chain_ids_are_unsigned_chain_ids _ tree keys _ writesChainId runtime runtime
    firstRequest secondRequest result result' returned returned' [unsigned 0] [unsigned 9] rfl rfl
  intro transaction _ parsed isParsed isLegacy
  simp only [codec] at isParsed
  split at isParsed
  next =>
    cases isParsed
    cases isLegacy
  next => cases isParsed

end RelaySettlement.LitDepositAddress.EthereumVm
