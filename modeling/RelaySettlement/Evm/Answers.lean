import RelaySettlement.Evm.Run

/-!
# Calls that answer

A contract function may return a value besides changing the state.  The answers of a run
are what its callers see.  Calls whose answers are hidden and that leave the state
indistinguishable from then on can be left out of a run without any other answer
changing; since what can be distinguished may depend on the time, states are compared
from a time on.
-/

namespace Evm

variable {σ κ ε ρ : Type}

section Answers

variable (exec : κ → σ → Except ε (ρ × σ))

/-- A call that answers, as a step. -/
def stepOf (call : κ) (state : σ) : Except ε σ := Prod.snd <$> exec call state

/-- The answer to a call. -/
def answer (call : κ) (state : σ) : Except ε ρ := Prod.fst <$> exec call state

/-- The answers to the calls of a run, reverts included. -/
def answers : List κ → σ → List (Except ε ρ)
  | [], _ => []
  | call :: calls, state =>
      answer exec call state :: answers calls (attempt (stepOf exec) call state)

/-- The calls of a run whose answers are not hidden. -/
def visibleCalls (hidden : Except ε ρ → Bool) : List κ → σ → List κ
  | [], _ => []
  | call :: calls, state =>
      if hidden (answer exec call state) then
        visibleCalls hidden calls (attempt (stepOf exec) call state)
      else
        call :: visibleCalls hidden calls (attempt (stepOf exec) call state)

end Answers

variable {exec : κ → σ → Except ε (ρ × σ)}

variable {state : σ}

variable {call : κ}

theorem stepOf_ok {next : σ} {result : ρ} (ok : exec call state = .ok (result, next)) :
    stepOf exec call state = .ok next := by
  rw [stepOf, ok]
  rfl

theorem answer_ok {next : σ} {result : ρ} (ok : exec call state = .ok (result, next)) :
    answer exec call state = .ok result := by
  rw [answer, ok]
  rfl

theorem stepOf_error {error : ε} (reverted : exec call state = .error error) :
    stepOf exec call state = .error error := by
  rw [stepOf, reverted]
  rfl

theorem answer_error {error : ε} (reverted : exec call state = .error error) :
    answer exec call state = .error error := by
  rw [answer, reverted]
  rfl

theorem stepOf_eq_ok {next : σ} :
    stepOf exec call state = .ok next ↔ ∃ result, exec call state = .ok (result, next) := by
  constructor
  · intro ok
    cases outcome : exec call state with
    | error error =>
        rw [stepOf_error outcome] at ok
        cases ok
    | ok value =>
        rw [stepOf_ok outcome] at ok
        cases ok
        exact ⟨value.1, rfl⟩
  · rintro ⟨result, ok⟩
    exact stepOf_ok ok

/-- Two systems that answer alike in related states, and stay related, answer every run
alike. -/
theorem answers_simulation {τ : Type} {exec' : κ → τ → Except ε (ρ × τ)} (valid : κ → Prop)
    (related : σ → τ → Prop)
    (simulates : ∀ call state state', valid call → related state state' →
      answer exec call state = answer exec' call state' ∧
        related (attempt (stepOf exec) call state) (attempt (stepOf exec') call state'))
    (calls : List κ) (allValid : ∀ call ∈ calls, valid call) {state' : τ}
    (start : related state state') : answers exec calls state = answers exec' calls state' := by
  induction calls generalizing state state' with
  | nil => rfl
  | cons call calls ih =>
      rw [List.forall_mem_cons] at allValid
      obtain ⟨same, next⟩ := simulates call state state' allValid.1 start
      rw [answers, answers, same, ih allValid.2 next]

/-- Leaving out the calls with hidden answers leaves the other answers as they are. -/
theorem answers_visibleCalls (hidden : Except ε ρ → Bool) (clock : κ → ℕ) (valid : κ → Prop)
    (alike : ℕ → σ → σ → Prop)
    (agree : ∀ now call state state', alike now state state' → now ≤ clock call →
      valid call → answer exec call state = answer exec call state' ∧
        alike (clock call) (attempt (stepOf exec) call state)
          (attempt (stepOf exec) call state'))
    (hide : ∀ now call state state', alike now state state' → now ≤ clock call →
      valid call → hidden (answer exec call state) = true →
        alike (clock call) (attempt (stepOf exec) call state) state')
    (calls : List κ) (ordered : calls.Pairwise fun call later => clock call ≤ clock later)
    (allValid : ∀ call ∈ calls, valid call) {now : ℕ} (notBefore : ∀ call ∈ calls, now ≤ clock call)
    {state' : σ} (start : alike now state state') :
    answers exec (visibleCalls exec hidden calls state) state' =
      (answers exec calls state).filter fun result => !hidden result := by
  induction calls generalizing now state state' with
  | nil => rfl
  | cons call calls ih =>
      rw [List.pairwise_cons] at ordered
      simp only [List.mem_cons, forall_eq_or_imp] at allValid notBefore
      obtain ⟨same, next⟩ := agree now call state state' start notBefore.1 allValid.1
      cases isHidden : hidden (answer exec call state) with
      | true =>
          have skipped := hide now call state state' start notBefore.1 allValid.1 isHidden
          simp only [visibleCalls, answers, isHidden, if_true, List.filter_cons, Bool.not_true,
            Bool.false_eq_true, if_false]
          exact ih ordered.2 allValid.2 ordered.1 skipped
      | false =>
          simp only [visibleCalls, answers, isHidden, Bool.false_eq_true, if_false,
            List.filter_cons, Bool.not_false, if_true, ← same]
          rw [ih ordered.2 allValid.2 ordered.1 next]

end Evm
