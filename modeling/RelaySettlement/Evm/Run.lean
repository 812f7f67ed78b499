import Mathlib.Algebra.BigOperators.Group.List.Basic
import Mathlib.Tactic.Ring

/-!
# Runs of reverting calls

A system is a partial step function on its state: a call either returns a new
state or reverts.  A reverting call changes nothing, so every finite list of
calls has a run, and the successful calls of the run form its trace.  Invariants
and running totals are established once here, from what one step does.
-/

namespace Evm

variable {σ κ ε : Type}

/-- One successful call of a run, with the states around it. -/
structure Transition (σ κ : Type) where
  pre : σ
  call : κ
  post : σ

section Run

variable (step : κ → σ → Except ε σ)

/-- Submit a call: a revert leaves the state as it was. -/
def attempt (call : κ) (state : σ) : σ :=
  match step call state with
  | .ok next => next
  | .error _ => state

/-- The state after a list of calls, each of which may revert. -/
def run : List κ → σ → σ
  | [], state => state
  | call :: calls, state => run calls (attempt step call state)

/-- The successful calls of a run, oldest first. -/
def trace : List κ → σ → List (Transition σ κ)
  | [], _ => []
  | call :: calls, state =>
      match step call state with
      | .ok next => ⟨state, call, next⟩ :: trace calls next
      | .error _ => trace calls state

/-- A condition on the state and the call about to be made, required at every
call of a run. -/
def Along (condition : σ → κ → Prop) : List κ → σ → Prop
  | [], _ => True
  | call :: calls, state =>
      condition state call ∧ Along condition calls (attempt step call state)

end Run

variable {step : κ → σ → Except ε σ}

variable {state : σ} {calls : List κ} {transition : Transition σ κ}

theorem attempt_ok {call : κ} {next : σ} (ok : step call state = .ok next) :
    attempt step call state = next := by
  simp [attempt, ok]

theorem attempt_error {call : κ} {error : ε} (reverted : step call state = .error error) :
    attempt step call state = state := by
  simp [attempt, reverted]

theorem trace_ok {call : κ} {next : σ} (ok : step call state = .ok next) :
    trace step (call :: calls) state = ⟨state, call, next⟩ :: trace step calls next := by
  simp only [trace, ok]

@[simp] theorem run_nil (state : σ) : run step [] state = state := rfl

@[simp] theorem run_cons (call : κ) (calls : List κ) (state : σ) :
    run step (call :: calls) state = run step calls (attempt step call state) := rfl

theorem run_append (first second : List κ) (state : σ) :
    run step (first ++ second) state = run step second (run step first state) := by
  induction first generalizing state with
  | nil => rfl
  | cons call calls ih => exact ih (attempt step call state)

/-- What holds after a submitted call follows from what a successful one does
and from what held before. -/
theorem attempt_induction (motive : σ → Prop) {call : κ} (unchanged : motive state)
    (changed : ∀ next, step call state = .ok next → motive next) :
    motive (attempt step call state) := by
  cases outcome : step call state with
  | error error => rw [attempt_error outcome]; exact unchanged
  | ok next => rw [attempt_ok outcome]; exact changed next outcome

theorem trace_append (first second : List κ) (state : σ) :
    trace step (first ++ second) state =
      trace step first state ++ trace step second (run step first state) := by
  induction first generalizing state with
  | nil => rfl
  | cons call calls ih =>
      cases outcome : step call state with
      | error error =>
          simp only [List.cons_append, trace, outcome, run_cons, attempt_error outcome]
          exact ih state
      | ok next =>
          simp only [List.cons_append, trace, outcome, run_cons, attempt_ok outcome]
          rw [ih next]

theorem Along.initial {condition : σ → κ → Prop} {first second : List κ}
    (along : Along step condition (first ++ second) state) : Along step condition first state := by
  induction first generalizing state with
  | nil => trivial
  | cons call calls ih => exact ⟨along.1, ih along.2⟩

/-- Every way of cutting a trace in two comes from cutting the run in two. -/
theorem trace_split {first second : List (Transition σ κ)}
    (split : trace step calls state = first ++ second) :
    ∃ initial rest, calls = initial ++ rest ∧ trace step initial state = first ∧
      trace step rest (run step initial state) = second := by
  induction calls generalizing state first with
  | nil =>
      simp only [trace, List.nil_eq, List.append_eq_nil_iff] at split
      exact ⟨[], [], rfl, split.1.symm, split.2.symm⟩
  | cons call calls ih =>
      cases first with
      | nil => exact ⟨[], call :: calls, rfl, rfl, split⟩
      | cons head tail =>
          cases outcome : step call state with
          | error error =>
              simp only [trace, outcome] at split
              obtain ⟨initial, rest, rfl, before, after⟩ := ih split
              refine ⟨call :: initial, rest, rfl, ?_, ?_⟩
              · simpa only [trace, outcome] using before
              · simpa only [run_cons, attempt_error outcome] using after
          | ok next =>
              simp only [trace, outcome, List.cons_append, List.cons.injEq] at split
              obtain ⟨initial, rest, rfl, before, after⟩ := ih split.2
              refine ⟨call :: initial, rest, rfl, ?_, ?_⟩
              · simp only [trace, outcome, before, split.1]
              · simpa only [run_cons, attempt_ok outcome] using after

/-- The first success of a run is made in the state the run starts from, and the run goes on
from it to its end. -/
theorem trace_head {later : List (Transition σ κ)}
    (first : trace step calls state = transition :: later) :
    transition.pre = state ∧ transition.call ∈ calls ∧
      ∃ rest, run step rest transition.post = run step calls state := by
  induction calls with
  | nil => simp [trace] at first
  | cons call calls ih =>
      cases outcome : step call state with
      | error error =>
          simp only [trace, outcome] at first
          rw [run_cons, attempt_error outcome]
          exact ⟨(ih first).1, List.mem_cons_of_mem _ (ih first).2.1, (ih first).2.2⟩
      | ok next =>
          rw [trace_ok outcome] at first
          rw [run_cons, attempt_ok outcome, ← (List.cons.inj first).1]
          exact ⟨rfl, List.mem_cons_self, calls, rfl⟩

/-- Each success is made in the state that the successes before it lead to. -/
theorem trace_at {earlier later : List (Transition σ κ)}
    (split : trace step calls state = earlier ++ transition :: later) :
    ∃ initial, trace step initial state = earlier ∧
      run step initial state = transition.pre := by
  obtain ⟨initial, rest, _, before, after⟩ := trace_split split
  exact ⟨initial, before, (trace_head after).1.symm⟩

/-- A list of transitions leads from one state to another, as far as `view`
shows: each begins where the one before it ended. -/
def Linked {α : Type} (view : σ → α) : List (Transition σ κ) → σ → σ → Prop
  | [], first, last => view first = view last
  | transition :: transitions, first, last =>
      view first = view transition.pre ∧ Linked view transitions transition.post last

theorem Linked.trans_eq {α : Type} {view : σ → α} {transitions : List (Transition σ κ)}
    {first last last' : σ} (linked : Linked view transitions first last)
    (same : view last = view last') : Linked view transitions first last' := by
  induction transitions generalizing first with
  | nil => exact Eq.trans linked same
  | cons transition transitions ih => exact ⟨linked.1, ih linked.2⟩

/-- The successful calls lead from the start of a run to its end. -/
theorem trace_linked {α : Type} (view : σ → α) (calls : List κ) (state : σ) :
    Linked view (trace step calls state) state (run step calls state) := by
  induction calls generalizing state with
  | nil => rfl
  | cons call calls ih =>
      cases outcome : step call state with
      | error error =>
          simpa only [trace, outcome, run_cons, attempt_error outcome] using ih state
      | ok next =>
          simp only [trace, outcome, run_cons, attempt_ok outcome]
          exact ⟨rfl, ih next⟩

/-- The calls that revert contribute nothing: making only the successful ones ends
in the same state. -/
theorem run_successes (calls : List κ) (state : σ) :
    run step ((trace step calls state).map fun success => success.call) state =
      run step calls state := by
  induction calls generalizing state with
  | nil => rfl
  | cons call calls ih =>
      cases outcome : step call state with
      | error error =>
          simpa only [trace, outcome, run_cons, attempt_error outcome] using ih state
      | ok next =>
          simpa only [trace, outcome, List.map_cons, run_cons, attempt_ok outcome] using
            ih next

/-! ## Invariants -/

/-- An invariant of single steps, under a condition met along the run, holds at
the end of the run. -/
theorem run_invariant_along (condition : σ → κ → Prop) (invariant : σ → Prop)
    (preserved : ∀ call state next, condition state call → invariant state →
      step call state = .ok next → invariant next)
    (calls : List κ) (state : σ) (along : Along step condition calls state)
    (initial : invariant state) : invariant (run step calls state) := by
  induction calls generalizing state with
  | nil => exact initial
  | cons call calls ih =>
      obtain ⟨here, later⟩ := along
      apply ih _ later
      exact attempt_induction invariant initial fun next ok =>
        preserved call state next here initial ok

theorem along_trivial (calls : List κ) (state : σ) :
    Along step (fun _ _ => True) calls state := by
  induction calls generalizing state with
  | nil => trivial
  | cons call calls ih => exact ⟨trivial, ih _⟩

/-- An invariant of single steps holds at the end of every run. -/
theorem run_invariant (invariant : σ → Prop)
    (preserved : ∀ call state next, invariant state →
      step call state = .ok next → invariant next)
    (calls : List κ) (state : σ) (initial : invariant state) :
    invariant (run step calls state) :=
  run_invariant_along (fun _ _ => True) invariant
    (fun call state next _ => preserved call state next)
    calls state (along_trivial calls state) initial

/-- Every transition of a trace is a successful step taken from a state in which
the invariant and the condition of the run hold. -/
theorem mem_trace_along (condition : σ → κ → Prop) (invariant : σ → Prop)
    (preserved : ∀ call state next, condition state call → invariant state →
      step call state = .ok next → invariant next)
    (calls : List κ) (state : σ) (along : Along step condition calls state)
    (initial : invariant state) :
    ∀ transition ∈ trace step calls state,
      invariant transition.pre ∧ condition transition.pre transition.call ∧
        step transition.call transition.pre = .ok transition.post := by
  induction calls generalizing state with
  | nil => simp [trace]
  | cons call calls ih =>
      obtain ⟨here, later⟩ := along
      cases outcome : step call state with
      | error error =>
          rw [attempt_error outcome] at later
          simpa only [trace, outcome] using ih state later initial
      | ok next =>
          rw [attempt_ok outcome] at later
          simp only [trace, outcome, List.mem_cons, forall_eq_or_imp]
          exact ⟨⟨initial, here, trivial⟩,
            ih next later (preserved call state next here initial outcome)⟩

theorem mem_trace (member : transition ∈ trace step calls state) :
    step transition.call transition.pre = .ok transition.post :=
  (mem_trace_along (fun _ _ => True) (fun _ => True) (fun _ _ _ _ _ _ => trivial)
    calls state (along_trivial calls state) trivial transition member).2.2

theorem call_mem_of_mem_trace (member : transition ∈ trace step calls state) :
    transition.call ∈ calls := by
  obtain ⟨earlier, later, split⟩ := List.append_of_mem member
  obtain ⟨initial, rest, rfl, _, after⟩ := trace_split split
  exact List.mem_append_right initial (trace_head after).2.1

/-- After each transition of a trace, the run goes on to its end. -/
theorem mem_trace_later (member : transition ∈ trace step calls state) :
    ∃ later, run step later transition.post = run step calls state := by
  obtain ⟨earlier, later, split⟩ := List.append_of_mem member
  obtain ⟨initial, rest, rfl, _, after⟩ := trace_split split
  rw [run_append]
  exact (trace_head after).2.2

/-- What a success leaves in the state, and later steps keep, relates it to every later
success. -/
theorem trace_pairwise {related : Transition σ κ → Transition σ κ → Prop}
    (remembers : Transition σ κ → σ → Prop)
    (established : ∀ call state next, step call state = .ok next →
      remembers ⟨state, call, next⟩ next)
    (kept : ∀ earlier call state next, remembers earlier state →
      step call state = .ok next → remembers earlier next)
    (relates : ∀ earlier call state next, remembers earlier state →
      step call state = .ok next → related earlier ⟨state, call, next⟩)
    (calls : List κ) (state : σ) : (trace step calls state).Pairwise related := by
  have later : ∀ earlier calls state, remembers earlier state →
      ∀ success ∈ trace step calls state, related earlier success := by
    intro earlier calls state remembered success member
    obtain ⟨before, _, ok⟩ := mem_trace_along (fun _ _ => True) (remembers earlier)
      (fun call state next _ => kept earlier call state next) calls state
      (along_trivial calls state) remembered success member
    exact relates earlier success.call success.pre success.post before ok
  induction calls generalizing state with
  | nil => exact List.Pairwise.nil
  | cons call calls ih =>
      cases outcome : step call state with
      | error error => simpa only [trace, outcome] using ih state
      | ok next =>
          simp only [trace, outcome, List.pairwise_cons]
          exact ⟨later _ calls next (established call state next outcome), ih next⟩

/-! ## Running totals -/

/-- A quantity that each successful call raises by `gain` and lowers by `loss`
is, after a run, the initial quantity plus all gains minus all losses. -/
theorem run_measure (measure : σ → ℕ) (gain loss : κ → ℕ)
    (balanced : ∀ call state next, step call state = .ok next →
      measure next + loss call = measure state + gain call)
    (calls : List κ) (state : σ) :
    measure (run step calls state) +
        ((trace step calls state).map fun transition => loss transition.call).sum =
      measure state +
        ((trace step calls state).map fun transition => gain transition.call).sum := by
  induction calls generalizing state with
  | nil => simp [trace]
  | cons call calls ih =>
      cases outcome : step call state with
      | error error =>
          simp only [run_cons, attempt_error outcome, trace, outcome]
          exact ih state
      | ok next =>
          have here := balanced call state next outcome
          have later := ih next
          simp only [run_cons, attempt_ok outcome, trace, outcome, List.map_cons,
            List.sum_cons]
          omega

/-- A sum over the entries of a list that have a value. -/
theorem sum_filterMap {α β : Type} (select : α → Option β) (amount : β → ℕ)
    (entries : List α) :
    ((entries.filterMap select).map amount).sum =
      (entries.map fun entry => ((select entry).map amount).getD 0).sum := by
  induction entries with
  | nil => rfl
  | cons entry entries ih =>
      cases selected : select entry with
      | none => simp [selected, ih]
      | some value => simp [selected, ih]

end Evm
