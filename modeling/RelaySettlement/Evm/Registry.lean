import RelaySettlement.Evm.Run
import Mathlib.Data.List.Nodup

/-!
# Single-use keys

Contracts prevent replays by marking keys: nonces, digests, idempotency keys.
`Registers` says that between two states a list of pairwise different keys was
marked, none of them marked before and nothing else marked.  It composes along a
run, so a key is used at most once over any run whose steps only use unmarked
keys and mark what they use.
-/

namespace Evm

variable {σ κ ε α : Type} {marked : σ → α → Prop}

/-- Between two states exactly the given keys were marked, each for the first
time. -/
structure Registers (marked : σ → α → Prop) (before after : σ) (keys : List α) : Prop where
  nodup : keys.Nodup
  fresh : ∀ key ∈ keys, ¬ marked before key
  marks : ∀ key, marked after key ↔ marked before key ∨ key ∈ keys

namespace Registers

variable {before after : σ}

theorem unchanged (same : marked after = marked before) :
    Registers marked before after [] where
  nodup := List.nodup_nil
  fresh := by simp
  marks := by simp [same]

theorem single {key : α} (fresh : ¬ marked before key)
    (marks : ∀ other, marked after other ↔ marked before other ∨ other = key) :
    Registers marked before after [key] where
  nodup := List.nodup_singleton key
  fresh := by simpa using fresh
  marks := by simpa using marks

/-- Setting one flag of a table of flags registers its key. -/
theorem flag [DecidableEq α] (flags : σ → α → Bool) {key : α} (fresh : flags before key = false)
    (written : ∀ other, flags after other = if other = key then true else flags before other) :
    Registers (fun state key => flags state key = true) before after [key] := by
  apply single
  · rw [fresh]
    exact Bool.false_ne_true
  · intro other
    rw [written]
    split <;> simp [*]

theorem append {first second third : σ} {keys keys' : List α}
    (here : Registers marked first second keys)
    (later : Registers marked second third keys') :
    Registers marked first third (keys ++ keys') where
  nodup := by
    refine List.nodup_append'.mpr ⟨here.nodup, later.nodup, ?_⟩
    intro key member member'
    exact later.fresh key member' ((here.marks key).mpr (.inr member))
  fresh := by
    intro key member
    rcases List.mem_append.mp member with member | member
    · exact here.fresh key member
    · exact fun already => later.fresh key member ((here.marks key).mpr (.inl already))
  marks := by
    intro key
    rw [later.marks, here.marks, List.mem_append, or_assoc]

/-- The registered keys only depend on the marks of the last state. -/
theorem congr_after {after' : σ} {keys : List α} (registers : Registers marked before after keys)
    (same : ∀ key, marked after' key ↔ marked after key) :
    Registers marked before after' keys where
  nodup := registers.nodup
  fresh := registers.fresh
  marks := fun key => (same key).trans (registers.marks key)

/-- From a state without marks, a key is marked exactly when it was used once. -/
theorem marked_iff_count [DecidableEq α] {keys : List α}
    (registers : Registers marked before after keys) {key : α} (unmarked : ¬ marked before key) :
    marked after key ↔ keys.count key = 1 := by
  rw [registers.marks, or_iff_right unmarked]
  constructor
  · exact List.count_eq_one_of_mem registers.nodup
  · intro once
    exact List.count_pos_iff.mp (by omega)

end Registers

/-- The keys used by the successful calls of a run are registered by the run. -/
theorem run_registers (step : κ → σ → Except ε σ) (condition : σ → κ → Prop) (keys : κ → σ → List α)
    (registers : ∀ call state next, condition state call → step call state = .ok next →
      Registers marked state next (keys call state))
    (calls : List κ) (state : σ) (along : Along step condition calls state) :
    Registers marked state (run step calls state)
      ((trace step calls state).flatMap fun success => keys success.call success.pre) := by
  induction calls generalizing state with
  | nil => exact Registers.unchanged rfl
  | cons call calls ih =>
      obtain ⟨here, later⟩ := along
      cases outcome : step call state with
      | error error =>
          rw [attempt_error outcome] at later
          simpa only [trace, outcome, run_cons, attempt_error outcome] using ih state later
      | ok next =>
          rw [attempt_ok outcome] at later
          simp only [trace, outcome, run_cons, attempt_ok outcome, List.flatMap_cons]
          exact (registers call state next here outcome).append (ih next later)

end Evm
