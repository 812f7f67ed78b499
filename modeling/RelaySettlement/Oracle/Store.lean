import RelaySettlement.Evm.Word

/-!
# RelayOracleIdempotencyStore

The store remembers executed idempotency keys for every oracle that may write to
it, and honours up to five further contracts, its sources, that answer
`isExecuted` from state of their own.  What a source answers is a parameter
`ask`; `none` is a reverting source.
-/

open Evm

namespace RelaySettlement

/-- The store's access-control roles. -/
inductive IdempotencyStore.Role where
  | admin
  | write
  deriving DecidableEq

/-- What a store call reverts with. -/
inductive IdempotencyStore.Error where
  | zeroAddress
  | alreadyExecuted (idempotencyKey : Bytes32)
  | invalidSource (source : Address)
  | sourceAlreadyAdded (source : Address)
  | tooManySources
  | accessControlUnauthorizedAccount (account : Address) (role : IdempotencyStore.Role)
  | sourceReverted (source : Address)
  deriving DecidableEq

/-- `MAX_SOURCES`. -/
def IdempotencyStore.maxSources : ℕ := 5

/-- The store's storage.  `sources` holds the first `sourceCount` entries of the
source array, so `sourceCount` is its length. -/
structure IdempotencyStore where
  hasRole : IdempotencyStore.Role → Address → Bool
  isStored : Bytes32 → Bool
  sources : List Address
  isSource : Address → Bool
  bounded : sources.length ≤ IdempotencyStore.maxSources

namespace IdempotencyStore

/-- The store right after deployment, with some role table. -/
def empty (roles : Role → Address → Bool) : IdempotencyStore where
  hasRole := roles
  isStored := fun _ => false
  sources := []
  isSource := fun _ => false
  bounded := Nat.zero_le _

/-- The `onlyRole` modifier. -/
def onlyRole (store : IdempotencyStore) (msg : Msg) (role : Role) : Except Error Unit :=
  require (store.hasRole role msg.sender = true)
    (.accessControlUnauthorizedAccount msg.sender role)

section Sources

variable (ask : Address → Bytes32 → Option Bool)

/-- The loop of `isExecuted`, which stops at the first source that knows the key. -/
def anySourceExecuted (idempotencyKey : Bytes32) : List Address → Except Error Bool
  | [] => return false
  | source :: sources => do
      if ← orRevert (ask source idempotencyKey) (.sourceReverted source) then
        return true
      anySourceExecuted idempotencyKey sources

def isExecuted (store : IdempotencyStore) (idempotencyKey : Bytes32) : Except Error Bool :=
  if store.isStored idempotencyKey then
    return true
  else
    anySourceExecuted ask idempotencyKey store.sources

def markExecuted (msg : Msg) (idempotencyKey : Bytes32) (store : IdempotencyStore) :
    Except Error IdempotencyStore := do
  store.onlyRole msg .write
  let executed ← store.isExecuted ask idempotencyKey
  require (executed = false) (.alreadyExecuted idempotencyKey)
  return { store with isStored := set store.isStored idempotencyKey true }

/-- `_addSource`: the new source is probed with the zero key. -/
def internalAddSource (self : Address) (hasCode : Address → Bool) (source : Address)
    (store : IdempotencyStore) : Except Error IdempotencyStore := do
  require (source ≠ 0) .zeroAddress
  require (source ≠ self ∧ hasCode source = true) (.invalidSource source)
  require (store.isSource source = false) (.sourceAlreadyAdded source)
  if room : store.sources.length < maxSources then
    let _ ← orRevert (ask source 0) (.invalidSource source)
    return { store with
      sources := store.sources ++ [source]
      isSource := set store.isSource source true
      bounded := by rw [List.length_append]; exact room }
  else
    .error .tooManySources

def addSource (self : Address) (hasCode : Address → Bool) (msg : Msg) (source : Address)
    (store : IdempotencyStore) : Except Error IdempotencyStore := do
  store.onlyRole msg .admin
  store.internalAddSource ask self hasCode source

end Sources

/-! ## What the functions do -/

variable {ask : Address → Bytes32 → Option Bool} {store after : IdempotencyStore}
variable {idempotencyKey : Bytes32}

theorem anySourceExecuted_eq_false {sources : List Address} :
    anySourceExecuted ask idempotencyKey sources = .ok false ↔
      ∀ source ∈ sources, ask source idempotencyKey = some false := by
  induction sources with
  | nil => simp [anySourceExecuted]
  | cons source sources ih =>
      simp only [anySourceExecuted, bind_eq_ok, orRevert_eq_ok, List.mem_cons,
        forall_eq_or_imp, ← ih]
      constructor
      · rintro ⟨answer, answered, rest⟩
        cases answer with
        | true => simp at rest
        | false => exact ⟨answered, rest⟩
      · rintro ⟨answered, rest⟩
        exact ⟨false, answered, rest⟩

theorem anySourceExecuted_answers {sources : List Address}
    (answers : ∀ source ∈ sources, (ask source idempotencyKey).isSome) :
    ∃ executed, anySourceExecuted ask idempotencyKey sources = .ok executed := by
  induction sources with
  | nil => exact ⟨false, rfl⟩
  | cons source sources ih =>
      simp only [List.mem_cons, forall_eq_or_imp] at answers
      obtain ⟨answer, answered⟩ := Option.isSome_iff_exists.mp answers.1
      simp only [anySourceExecuted, bind_eq_ok, orRevert_eq_ok]
      cases answer with
      | true => exact ⟨true, true, answered, rfl⟩
      | false =>
          obtain ⟨executed, rest⟩ := ih answers.2
          exact ⟨executed, false, answered, rest⟩

/-- A key counts as not executed when it is not stored and every source denies
it. -/
theorem isExecuted_eq_false :
    store.isExecuted ask idempotencyKey = .ok false ↔
      store.isStored idempotencyKey = false ∧
        ∀ source ∈ store.sources, ask source idempotencyKey = some false := by
  unfold isExecuted
  cases store.isStored idempotencyKey with
  | true => simp
  | false => simp [anySourceExecuted_eq_false]

/-- A store whose sources answer always answers itself. -/
theorem isExecuted_answers
    (answers : ∀ source ∈ store.sources, (ask source idempotencyKey).isSome) :
    ∃ executed, store.isExecuted ask idempotencyKey = .ok executed := by
  unfold isExecuted
  cases store.isStored idempotencyKey with
  | true => exact ⟨true, rfl⟩
  | false => exact anySourceExecuted_answers answers

/-- A mark is written by a writer, for a key that was not executed. -/
theorem markExecuted_ok {msg : Msg}
    (ok : store.markExecuted ask msg idempotencyKey = .ok after) :
    store.hasRole .write msg.sender = true ∧
      store.isExecuted ask idempotencyKey = .ok false ∧
      after = { store with isStored := set store.isStored idempotencyKey true } := by
  simp only [markExecuted, onlyRole, bind_eq_ok, require_eq_ok, pure_eq_ok] at ok
  obtain ⟨_, writer, executed, asked, _, rfl, rfl⟩ := ok
  exact ⟨writer, asked, rfl⟩

/-- A source is appended by an admin; it has code, is not the store itself, and answered
the probe. -/
theorem addSource_ok {self source : Address} {hasCode : Address → Bool} {msg : Msg}
    (ok : store.addSource ask self hasCode msg source = .ok after) :
    source ≠ self ∧ hasCode source = true ∧ (∃ executed, ask source 0 = some executed) ∧
      after.sources = store.sources ++ [source] ∧ after.isStored = store.isStored := by
  simp only [addSource, internalAddSource, bind_eq_ok, require_eq_ok] at ok
  obtain ⟨_, _, _, _, _, ⟨different, code⟩, _, _, added⟩ := ok
  split at added
  · simp only [bind_eq_ok, orRevert_eq_ok, pure_eq_ok] at added
    obtain ⟨executed, answered, rfl⟩ := added
    exact ⟨different, code, ⟨executed, answered⟩, rfl, rfl⟩
  · cases added

/-- Adding a source marks no key. -/
theorem addSource_isStored {self source : Address} {hasCode : Address → Bool} {msg : Msg}
    (ok : store.addSource ask self hasCode msg source = .ok after) :
    after.isStored = store.isStored :=
  (addSource_ok ok).2.2.2.2

end IdempotencyStore

end RelaySettlement
