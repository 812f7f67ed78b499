import RelaySettlement.Evm.Word
import RelaySettlement.Evm.Run

/-!
# Spending limits

An allowance or a budget is a stored word that some calls set and others lower by
what they spend; the maximal word stands for no limit and is never lowered.
`Grant` keeps the value last set and what was spent since.  If every step of a
system obeys `LimitStep`, the stored word follows the grant through every run, and
what is spent after a limited setting and before the next one stays within it.
-/

namespace Evm

/-- What a call does to a stored limit, given the value it sets and the amount it
spends. -/
def LimitStep (sets : Option U256) (spends : ℕ) (before after : U256) : Prop :=
  match sets with
  | some value => after = value
  | none =>
      if before = U256.max then after = U256.max
      else before.toNat = spends + after.toNat

namespace LimitStep

theorem unchanged {before after : U256} (same : after = before) :
    LimitStep none 0 before after := by
  subst same
  by_cases unlimited : after = U256.max
  · simp [LimitStep, unlimited]
  · simp [LimitStep, unlimited]

/-- A call that neither sets nor spends a limit leaves it alone. -/
theorem eq_of_unspent {before after : U256} (limit : LimitStep none 0 before after) :
    after = before := by
  simp only [LimitStep, Nat.zero_add] at limit
  split_ifs at limit with unlimited
  · rw [limit, unlimited]
  · exact BitVec.eq_of_toNat_eq limit.symm

end LimitStep

/-- The standing grant behind a limit: the value last set, and what was moved
since. -/
structure Grant where
  value : U256
  moved : ℕ
  deriving DecidableEq

namespace Grant

/-- Nothing has been granted yet. -/
def initial : Grant := ⟨0, 0⟩

/-- The grant after one more call. -/
def next (sets : Option U256) (spends : ℕ) (grant : Grant) : Grant :=
  match sets with
  | some value => ⟨value, 0⟩
  | none => ⟨grant.value, grant.moved + spends⟩

/-- The stored word is the value set less what was moved since; a maximal value
stays as it is. -/
def Accounts (grant : Grant) (stored : U256) : Prop :=
  if grant.value = U256.max then stored = U256.max
  else grant.value.toNat = grant.moved + stored.toNat

theorem initial_accounts : initial.Accounts 0 := by
  simp [Accounts, initial]

/-- A limited grant never has a maximal word stored. -/
theorem Accounts.limited {grant : Grant} {stored : U256} (accounts : grant.Accounts stored)
    (limited : grant.value ≠ U256.max) : stored ≠ U256.max := by
  intro isMax
  apply limited
  apply BitVec.eq_of_toNat_eq
  have atMost := toNat_le_max grant.value
  rw [Accounts, if_neg limited, isMax, toNat_max] at accounts
  rw [toNat_max]
  omega

/-- One step keeps the stored word in line with the grant. -/
theorem Accounts.next {grant : Grant} {sets : Option U256} {spends : ℕ}
    {before after : U256} (accounts : grant.Accounts before)
    (limit : LimitStep sets spends before after) :
    (grant.next sets spends).Accounts after := by
  cases sets with
  | some value =>
      simp only [LimitStep] at limit
      subst limit
      by_cases unlimited : after = U256.max
      · simp [Grant.next, Accounts, unlimited]
      · simp [Grant.next, Accounts, unlimited]
  | none =>
      simp only [LimitStep] at limit
      by_cases unlimited : grant.value = U256.max
      · simp only [Accounts, if_pos unlimited] at accounts
        rw [if_pos accounts] at limit
        change if grant.value = U256.max then _ else _
        rwa [if_pos unlimited]
      · rw [if_neg (accounts.limited unlimited)] at limit
        simp only [Accounts, if_neg unlimited] at accounts
        change if grant.value = U256.max then _ else
          grant.value.toNat = grant.moved + spends + after.toNat
        rw [if_neg unlimited, accounts, limit, Nat.add_assoc]

end Grant

/-! ## Runs -/

section Runs

variable {σ κ ε : Type} (sets : κ → Option U256) (spends : κ → ℕ)

/-- The grant after a list of successful calls. -/
def Grant.after (successes : List (Transition σ κ)) (grant : Grant) : Grant :=
  successes.foldl (fun grant success => grant.next (sets success.call) (spends success.call))
    grant

variable {sets spends}

/-- Without another setting, a grant keeps its value and adds up what is moved. -/
theorem Grant.after_window {window : List (Transition σ κ)}
    (unset : ∀ success ∈ window, sets success.call = none) (grant : Grant) :
    grant.after sets spends window =
      ⟨grant.value, grant.moved + (window.map fun success => spends success.call).sum⟩ := by
  induction window generalizing grant with
  | nil => rfl
  | cons success window ih =>
      simp only [List.mem_cons, forall_eq_or_imp] at unset
      have here : grant.next (sets success.call) (spends success.call) =
          ⟨grant.value, grant.moved + spends success.call⟩ := by
        rw [unset.1, Grant.next]
      have later := ih unset.2 (grant.next (sets success.call) (spends success.call))
      simp only [Grant.after, List.foldl_cons, List.map_cons, List.sum_cons] at later ⊢
      rw [later, here, Nat.add_assoc]

/-- After a setting and a window without another one, the grant is the value set
and what was moved in the window. -/
theorem Grant.after_setting {earlier window : List (Transition σ κ)}
    {setting : Transition σ κ} {value : U256} (isSet : sets setting.call = some value)
    (unset : ∀ success ∈ window, sets success.call = none) (grant : Grant) :
    grant.after sets spends (earlier ++ setting :: window) =
      ⟨value, (window.map fun success => spends success.call).sum⟩ := by
  have fromSetting : Grant.after sets spends window ⟨value, 0⟩ =
      ⟨value, (window.map fun success => spends success.call).sum⟩ := by
    rw [Grant.after_window unset, Nat.zero_add]
  unfold Grant.after at fromSetting ⊢
  rw [List.foldl_append, List.foldl_cons, isSet]
  exact fromSetting

variable {step : κ → σ → Except ε σ} {condition : σ → κ → Prop} {stored : σ → U256}
variable (limited : ∀ call state next, condition state call → step call state = .ok next →
  LimitStep (sets call) (spends call) (stored state) (stored next))
variable {calls : List κ} {state : σ} {grant : Grant}
variable (along : Along step condition calls state) (accounts : grant.Accounts (stored state))

include limited along accounts

/-- The stored word follows the grant through every run. -/
theorem run_accounts :
    (grant.after sets spends (trace step calls state)).Accounts
      (stored (run step calls state)) := by
  induction calls generalizing state grant with
  | nil => exact accounts
  | cons call calls ih =>
      obtain ⟨here, later⟩ := along
      cases outcome : step call state with
      | error error =>
          rw [attempt_error outcome] at later
          simp only [trace, outcome, run_cons, attempt_error outcome]
          exact ih later accounts
      | ok next =>
          rw [attempt_ok outcome] at later
          simp only [trace, outcome, run_cons, attempt_ok outcome]
          exact ih later (accounts.next (limited call state next here outcome))

/-- What is spent after a limited setting and before the next one is within the
value set. -/
theorem spent_within_setting
    {earlier window later : List (Transition σ κ)} {setting : Transition σ κ} {value : U256}
    (split : trace step calls state = earlier ++ setting :: (window ++ later))
    (isSet : sets setting.call = some value) (notMax : value ≠ U256.max)
    (unset : ∀ success ∈ window, sets success.call = none) :
    (window.map fun success => spends success.call).sum ≤ value.toNat := by
  have upTo : trace step calls state = (earlier ++ setting :: window) ++ later := by
    rw [split, List.append_assoc, List.cons_append]
  obtain ⟨initial, rest, rfl, traced, _⟩ := trace_split upTo
  have atEnd := run_accounts limited along.initial accounts
  rw [traced, Grant.after_setting isSet unset, Grant.Accounts, if_neg notMax] at atEnd
  exact atEnd ▸ Nat.le_add_right _ _

end Runs

end Evm
