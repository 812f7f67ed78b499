import RelaySettlement.Evm.CallGraph
import RelaySettlement.Evm.Run
import RelaySettlement.Oracle.Store

/-!
# Idempotency stores that ask each other

The source of a store can be an oracle, which in turn asks a store of its own.  A new
source is only compared with the store itself and probed once, before it is linked, so an
oracle of the very store can be added; from then on a key that is not stored is passed
around without end.  All chains of `isExecuted` calls stay finite as long as no source
leads back to the store it is added to.

Gas is the number of nested calls that can still be made.  A source that answers from its
own storage may change that storage at any time.
-/

open Evm

namespace RelaySettlement

/-- A contract that answers `isExecuted`: a store, an oracle with its
`IDEMPOTENCY_STORE`, or a contract that answers from its own storage. -/
inductive IdempotencyContract where
  | store (store : IdempotencyStore)
  | oracle (idempotencyStore : Address)
  | source (executed : Bytes32 → Bool)

/-- The contracts by address. -/
abbrev IdempotencyNetwork := Address → Option IdempotencyContract

namespace IdempotencyNetwork

inductive Error where
  | addressTaken (address : Address)
  | zeroAddress
  | invalidIdempotencyStore (idempotencyStore : Address)
  | unexpectedContract (address : Address)
  | store (error : IdempotencyStore.Error)
  deriving DecidableEq

/-- No contract is deployed. -/
def empty : IdempotencyNetwork := fun _ => none

def hasCode (network : IdempotencyNetwork) (address : Address) : Bool :=
  (network address).isSome

/-- `isExecuted` of the contract at an address; `none` is a revert, and the only way a
call that never returns can end. -/
def isExecuted (network : IdempotencyNetwork) : ℕ → Address → Bytes32 → Option Bool
  | 0, _, _ => none
  | gas + 1, address, idempotencyKey =>
      match network address with
      | none => none
      | some (.source executed) => some (executed idempotencyKey)
      | some (.oracle idempotencyStore) =>
          isExecuted network gas idempotencyStore idempotencyKey
      | some (.store store) =>
          (store.isExecuted (isExecuted network gas) idempotencyKey).toOption

/-! ## Calls -/

/-- What can happen to the network. -/
inductive Call where
  | deployStore (address admin : Address)
  | deployOracle (address idempotencyStore : Address)
  | deploySource (address : Address) (executed : Bytes32 → Bool)
  | recordExecuted (address : Address) (executed : Bytes32 → Bool)
  | setRoles (address : Address) (roles : IdempotencyStore.Role → Address → Bool)
  | addSource (gas : ℕ) (msg : Msg) (address source : Address)
  | markExecuted (gas : ℕ) (msg : Msg) (address : Address) (idempotencyKey : Bytes32)

def storeAt (network : IdempotencyNetwork) (address : Address) : Except Error IdempotencyStore :=
  match network address with
  | some (.store store) => .ok store
  | _ => .error (.unexpectedContract address)

def sourceAt (network : IdempotencyNetwork) (address : Address) :
    Except Error (Bytes32 → Bool) :=
  match network address with
  | some (.source executed) => .ok executed
  | _ => .error (.unexpectedContract address)

/-- A new contract at an address without code. -/
def deploy (network : IdempotencyNetwork) (address : Address)
    (contract : IdempotencyContract) : Except Error IdempotencyNetwork := do
  require (network.hasCode address = false) (.addressTaken address)
  return set network address (some contract)

def step : Call → IdempotencyNetwork → Except Error IdempotencyNetwork
  | .deployStore address admin, network => do
      require (admin ≠ 0) .zeroAddress
      network.deploy address
        (.store (.empty fun role account => role == .admin && account == admin))
  | .deployOracle address idempotencyStore, network => do
      require (idempotencyStore ≠ 0) .zeroAddress
      require (network.hasCode idempotencyStore = true)
        (.invalidIdempotencyStore idempotencyStore)
      network.deploy address (.oracle idempotencyStore)
  | .deploySource address executed, network => network.deploy address (.source executed)
  | .recordExecuted address executed, network => do
      let _ ← network.sourceAt address
      return set network address (some (.source executed))
  | .setRoles address roles, network => do
      let store ← network.storeAt address
      return set network address (some (.store { store with hasRole := roles }))
  | .addSource gas msg address source, network => do
      let store ← network.storeAt address
      let store ← bubble .store
        (store.addSource (network.isExecuted gas) address network.hasCode msg source)
      return set network address (some (.store store))
  | .markExecuted gas msg address idempotencyKey, network => do
      let store ← network.storeAt address
      let store ← bubble .store
        (store.markExecuted (network.isExecuted gas) msg idempotencyKey)
      return set network address (some (.store store))

end IdempotencyNetwork

/-! ## The call graph -/

/-- The contracts that a contract may ask. -/
def IdempotencyContract.asks : IdempotencyContract → List Address
  | .store contents => contents.sources
  | .oracle idempotencyStore => [idempotencyStore]
  | .source _ => []

namespace IdempotencyNetwork

/-- One contract may ask another. -/
def Asks (network : IdempotencyNetwork) (caller callee : Address) : Prop :=
  ∃ contract, network caller = some contract ∧ callee ∈ contract.asks

/-- The source that a call adds does not lead back to the store. -/
def Independent (network : IdempotencyNetwork) : Call → Prop
  | .addSource _ _ address source => ¬ Reaches network.Asks source address
  | _ => True

/-- Every contract that may be asked is there, and every chain of calls is finite. -/
structure Sound (network : IdempotencyNetwork) : Prop where
  deployed : ∀ caller callee, network.Asks caller callee → network.hasCode callee = true
  finite : FiniteCalls network.Asks

variable {network next : IdempotencyNetwork} {address caller callee : Address}
  {contract : IdempotencyContract} {call : Call}

theorem asks_set_of_ne (different : caller ≠ address) :
    Asks (set network address (some contract)) caller callee ↔ network.Asks caller callee := by
  rw [Asks, set_apply, if_neg different, Asks]

theorem asks_set_self :
    Asks (set network address (some contract)) address callee ↔ callee ∈ contract.asks := by
  simp [Asks]

theorem hasCode_set (code : network.hasCode callee = true) :
    hasCode (set network address (some contract)) callee = true := by
  rw [hasCode, set_apply]
  split
  · rfl
  · exact code

/-- A contract that was changed asks what it asked before; a contract that is new, or a
store that gets a source, asks another contract that is there. -/
structure Change (network : IdempotencyNetwork) (call : Call) (address : Address)
    (contract : IdempotencyContract) : Prop where
  asks : ∀ callee ∈ contract.asks, network.Asks address callee ∨
    network.hasCode callee = true ∧
      (network.hasCode address = false ∨ ∃ gas msg, call = .addSource gas msg address callee)

theorem storeAt_eq_ok {store : IdempotencyStore} :
    network.storeAt address = .ok store ↔ network address = some (.store store) := by
  unfold storeAt
  split <;> simp_all

theorem deploy_ok (ok : network.deploy address contract = .ok next)
    (known : ∀ callee ∈ contract.asks, network.hasCode callee = true) :
    next = set network address (some contract) ∧ Change network call address contract := by
  simp only [deploy, bind_eq_ok, require_eq_ok, pure_eq_ok] at ok
  obtain ⟨_, fresh, rfl⟩ := ok
  exact ⟨rfl, ⟨fun callee asked => .inr ⟨known callee asked, .inl fresh⟩⟩⟩

/-- A store that is written without a new source asks what it asked. -/
theorem change_store {store after : IdempotencyStore}
    (here : network address = some (.store store)) (same : after.sources = store.sources) :
    Change network call address (.store after) where
  asks := by
    intro callee asked
    refine .inl ⟨_, here, ?_⟩
    rw [IdempotencyContract.asks, same] at asked
    exact asked

theorem step_changes (ok : step call network = .ok next) :
    ∃ address contract, next = set network address (some contract) ∧
      Change network call address contract := by
  cases call with
  | deployStore address admin =>
      obtain ⟨_, _, deployed⟩ := bind_eq_ok.mp ok
      exact ⟨_, _, deploy_ok deployed (List.forall_mem_nil _)⟩
  | deployOracle address idempotencyStore =>
      simp only [step, bind_eq_ok, require_eq_ok] at ok
      obtain ⟨_, _, _, code, deployed⟩ := ok
      exact ⟨_, _, deploy_ok deployed (List.forall_mem_singleton.mpr code)⟩
  | deploySource address executed =>
      exact ⟨_, _, deploy_ok ok (List.forall_mem_nil _)⟩
  | recordExecuted address executed =>
      simp only [step, bind_eq_ok, pure_eq_ok] at ok
      obtain ⟨_, _, rfl⟩ := ok
      exact ⟨address, _, rfl, ⟨List.forall_mem_nil _⟩⟩
  | setRoles address roles =>
      simp only [step, bind_eq_ok, pure_eq_ok, storeAt_eq_ok] at ok
      obtain ⟨store, here, rfl⟩ := ok
      exact ⟨address, _, rfl, change_store here rfl⟩
  | addSource gas msg address source =>
      simp only [step, bind_eq_ok, pure_eq_ok, storeAt_eq_ok, bubble_eq_ok] at ok
      obtain ⟨store, here, after, added, rfl⟩ := ok
      obtain ⟨_, code, _, sources, _⟩ := IdempotencyStore.addSource_ok added
      refine ⟨address, _, rfl, ⟨?_⟩⟩
      rw [IdempotencyContract.asks, sources, List.forall_mem_append, List.forall_mem_singleton]
      exact ⟨fun callee asked => .inl ⟨_, here, asked⟩, .inr ⟨code, .inr ⟨gas, msg, rfl⟩⟩⟩
  | markExecuted gas msg address idempotencyKey =>
      simp only [step, bind_eq_ok, pure_eq_ok, storeAt_eq_ok, bubble_eq_ok] at ok
      obtain ⟨store, here, after, marked, rfl⟩ := ok
      obtain ⟨_, _, rfl⟩ := IdempotencyStore.markExecuted_ok marked
      exact ⟨address, _, rfl, change_store here rfl⟩

/-- Nothing leads to an address without code, except itself. -/
theorem Sound.not_reaches_fresh (sound : network.Sound) (fresh : network.hasCode address = false)
    (code : network.hasCode callee = true) : ¬ Reaches network.Asks callee address := by
  intro reaches
  rcases Relation.ReflTransGen.cases_tail reaches with same | ⟨caller, _, asked⟩
  · rw [← same, fresh] at code
    cases code
  · rw [sound.deployed caller address asked] at fresh
    cases fresh

theorem Change.sound (change : Change network call address contract) (sound : network.Sound)
    (independent : network.Independent call) :
    Sound (set network address (some contract)) where
  deployed := by
    intro caller callee asked
    apply hasCode_set
    by_cases changed : caller = address
    · subst changed
      rcases change.asks callee (asks_set_self.mp asked) with before | ⟨code, _⟩
      · exact sound.deployed caller callee before
      · exact code
    · exact sound.deployed caller callee ((asks_set_of_ne changed).mp asked)
  finite := by
    apply sound.finite.update address
    · intro caller callee different asked
      exact (asks_set_of_ne different).mp asked
    · intro callee asked
      rcases change.asks callee (asks_set_self.mp asked) with before | ⟨code, fresh | added⟩
      · exact sound.finite.not_reaches before
      · exact sound.not_reaches_fresh fresh code
      · obtain ⟨gas, msg, rfl⟩ := added
        exact independent

theorem empty_sound : Sound empty where
  deployed := by
    rintro caller callee ⟨_, impossible, _⟩
    cases impossible
  finite := by
    apply FiniteCalls.of_no_calls
    rintro caller callee ⟨_, impossible, _⟩
    cases impossible

/-! ## Answers -/

/-- With enough gas the contract at an address answers every key. -/
def Answers (network : IdempotencyNetwork) (address : Address) : Prop :=
  ∃ gas, ∀ more, gas ≤ more → ∀ idempotencyKey,
    (network.isExecuted more address idempotencyKey).isSome

/-- Finitely many contracts that answer do so with one amount of gas. -/
theorem answers_together {addresses : List Address}
    (answers : ∀ address ∈ addresses, network.Answers address) :
    ∃ gas, ∀ address ∈ addresses, ∀ more, gas ≤ more → ∀ idempotencyKey,
      (network.isExecuted more address idempotencyKey).isSome := by
  induction addresses with
  | nil => exact ⟨0, List.forall_mem_nil _⟩
  | cons address addresses ih =>
      rw [List.forall_mem_cons] at answers
      obtain ⟨here, answersHere⟩ := answers.1
      obtain ⟨rest, answersRest⟩ := ih answers.2
      refine ⟨max here rest, List.forall_mem_cons.mpr ⟨?_, ?_⟩⟩
      · intro more enough
        exact answersHere more (le_of_max_le_left enough)
      · intro other member more enough
        exact answersRest other member more (le_of_max_le_right enough)

/-- A contract answers when everything it asks does. -/
theorem answers_of_asks (here : network address = some contract)
    (answers : ∀ callee ∈ contract.asks, network.Answers callee) : network.Answers address := by
  obtain ⟨gas, together⟩ := answers_together answers
  refine ⟨gas + 1, ?_⟩
  intro more enough idempotencyKey
  obtain ⟨more, rfl⟩ := Nat.exists_eq_add_of_le' enough
  rw [← Nat.add_assoc, isExecuted, here]
  have remaining : gas ≤ more + gas := Nat.le_add_left gas more
  cases contract with
  | source executed => rfl
  | oracle idempotencyStore =>
      exact together idempotencyStore (List.mem_singleton_self _) _ remaining idempotencyKey
  | store store =>
      obtain ⟨executed, answered⟩ := IdempotencyStore.isExecuted_answers
        fun source member => together source member _ remaining idempotencyKey
      simp only [answered]
      rfl

theorem Sound.answers (sound : network.Sound) (code : network.hasCode address = true) :
    network.Answers address := by
  induction address using sound.finite.induction with
  | _ address ih =>
      obtain ⟨contract, here⟩ := Option.isSome_iff_exists.mp code
      apply answers_of_asks here
      intro callee asked
      exact ih callee ⟨contract, here, asked⟩
        (sound.deployed address callee ⟨contract, here, asked⟩)

theorem step_sound (call : Call) (network next : IdempotencyNetwork)
    (independent : (∃ next, step call network = .ok next) → network.Independent call)
    (sound : network.Sound) (ok : step call network = .ok next) : next.Sound := by
  obtain ⟨address, contract, rfl, change⟩ := step_changes ok
  exact change.sound sound (independent ⟨_, ok⟩)

/-- In every run in which no source that is added leads back to the store it is added to,
after every part of the run and for every store, `isExecuted` returns for every key. -/
theorem idempotency_store_answers (calls : List Call)
    (independent : Along step (fun network call =>
      (∃ next, step call network = .ok next) → network.Independent call) calls empty)
    (first second : List Call) (split : calls = first ++ second) (address : Address)
    (store : IdempotencyStore) (deployed : run step first empty address = some (.store store)) :
    ∃ gas, ∀ more, gas ≤ more → ∀ idempotencyKey, ∃ executed,
      isExecuted (run step first empty) more address idempotencyKey = some executed := by
  subst split
  have sound : Sound (run step first empty) :=
    run_invariant_along _ Sound step_sound first empty independent.initial empty_sound
  have code : hasCode (run step first empty) address = true := by
    rw [hasCode, deployed]
    rfl
  obtain ⟨gas, answers⟩ := sound.answers code
  refine ⟨gas, ?_⟩
  intro more enough idempotencyKey
  exact Option.isSome_iff_exists.mp (answers more enough idempotencyKey)

/-- A contract leads to another one only through what it asks. -/
theorem not_reaches_of_asks {source target : Address} (different : source ≠ target)
    (here : network source = some contract)
    (apart : ∀ callee ∈ contract.asks, ¬ Reaches network.Asks callee target) :
    ¬ Reaches network.Asks source target := by
  intro reaches
  rcases Relation.ReflTransGen.cases_head reaches with same | ⟨callee, ⟨other, there, asked⟩, rest⟩
  · exact different same
  · obtain rfl : contract = other := Option.some.inj (here.symm.trans there)
    exact apart callee asked rest

namespace SampleNetwork

def admin : Msg := ⟨9, 0⟩

/-- Store 3 honours the keys of an earlier oracle, 2, which uses store 1. -/
def calls : List Call :=
  [.deployStore 1 9, .deployOracle 2 1, .deployStore 3 9, .addSource 8 admin 3 2]

theorem calls_independent : Along step (fun network call =>
    (∃ next, step call network = .ok next) → network.Independent call) calls empty := by
  refine ⟨fun _ => trivial, fun _ => trivial, fun _ => trivial, fun _ => ?_, trivial⟩
  refine not_reaches_of_asks (by decide) rfl (List.forall_mem_singleton.mpr ?_)
  exact not_reaches_of_asks (by decide) rfl (List.forall_mem_nil _)

/-- Store 1 gets its own oracle, 2, as a source. -/
def circular : List Call := [.deployStore 1 9, .deployOracle 2 1, .addSource 8 admin 1 2]

end SampleNetwork

theorem idempotency_store_answers_sample :
    (trace step SampleNetwork.calls empty).length = 4 ∧
      ∃ store, run step SampleNetwork.calls empty 3 = some (.store store) ∧
        store.sources = [2] ∧
        ∃ gas, ∀ more, gas ≤ more → ∀ idempotencyKey, ∃ executed,
          isExecuted (run step SampleNetwork.calls empty) more 3 idempotencyKey =
            some executed :=
  ⟨by decide +kernel, _, rfl, rfl,
    idempotency_store_answers SampleNetwork.calls SampleNetwork.calls_independent
      SampleNetwork.calls [] (List.append_nil _).symm 3 _ rfl⟩

/-- All calls succeed, and from then on the store does not answer any key. -/
theorem idempotency_store_asks_itself :
    (trace step SampleNetwork.circular empty).length = 3 ∧
      ∀ gas idempotencyKey,
        isExecuted (run step SampleNetwork.circular empty) gas 1 idempotencyKey = none := by
  refine ⟨by decide +kernel, ?_⟩
  intro gas idempotencyKey
  obtain ⟨store, here, unstored, sources⟩ : ∃ store : IdempotencyStore,
      run step SampleNetwork.circular empty 1 = some (.store store) ∧
        store.isStored idempotencyKey = false ∧ store.sources = [2] := ⟨_, rfl, rfl, rfl⟩
  have oracle : run step SampleNetwork.circular empty 2 = some (.oracle 1) := rfl
  -- The store and the oracle pass the question on to each other until the gas is spent.
  suffices isExecuted (run step SampleNetwork.circular empty) gas 1 idempotencyKey = none ∧
      isExecuted (run step SampleNetwork.circular empty) gas 2 idempotencyKey = none from this.1
  induction gas with
  | zero => exact ⟨rfl, rfl⟩
  | succ gas ih =>
      constructor
      · simp only [isExecuted, here, IdempotencyStore.isExecuted, unstored, sources,
          IdempotencyStore.anySourceExecuted, ih.2, orRevert, error_bind]
        rfl
      · simp only [isExecuted, oracle, ih.1]

end IdempotencyNetwork

end RelaySettlement
