import Mathlib.Logic.Relation
import Mathlib.Order.WellFounded

/-!
# Finite chains of calls

A call graph says which contracts a contract calls.  Every chain of calls is finite when
the graph is well-founded, and it stays so when the calls of one node change, provided
that none of the nodes it now calls led to it before.
-/

namespace Evm

variable {α : Type} {calls calls' : α → α → Prop}

/-- Every chain of calls is finite. -/
def FiniteCalls (calls : α → α → Prop) : Prop :=
  WellFounded fun callee caller => calls caller callee

/-- A chain of calls, possibly empty, leads from one node to another. -/
abbrev Reaches (calls : α → α → Prop) : α → α → Prop := Relation.ReflTransGen calls

namespace FiniteCalls

theorem of_no_calls (none : ∀ caller callee, ¬ calls caller callee) : FiniteCalls calls :=
  ⟨fun _ => Acc.intro _ fun _ called => absurd called (none _ _)⟩

/-- No chain leads back. -/
theorem not_reaches (finite : FiniteCalls calls) {caller callee : α}
    (called : calls caller callee) : ¬ Reaches calls callee caller := by
  intro back
  have cycle : Relation.TransGen calls caller caller := Relation.TransGen.head' called back
  have swapped := Relation.transGen_swap.mpr cycle
  exact finite.transGen.irrefl.irrefl caller swapped

/-- The nodes that do not lead to the changed one have the chains they had. -/
theorem acc_of_not_reaches (finite : FiniteCalls calls) {changed : α}
    (same : ∀ caller callee, caller ≠ changed → calls' caller callee → calls caller callee)
    (node : α) (apart : ¬ Reaches calls node changed) :
    Acc (fun callee caller => calls' caller callee) node := by
  induction node using finite.induction with
  | _ node ih =>
      apply Acc.intro
      intro callee called
      have different : node ≠ changed := by
        rintro rfl
        exact apart Relation.ReflTransGen.refl
      have calledBefore := same node callee different called
      apply ih callee calledBefore
      intro reaches
      exact apart (Relation.ReflTransGen.head calledBefore reaches)

/-- Changing the calls of one node keeps all chains finite when no node it calls led to
it. -/
theorem update (finite : FiniteCalls calls) (changed : α)
    (same : ∀ caller callee, caller ≠ changed → calls' caller callee → calls caller callee)
    (apart : ∀ callee, calls' changed callee → ¬ Reaches calls callee changed) :
    FiniteCalls calls' := by
  have here : Acc (fun callee caller => calls' caller callee) changed := by
    apply Acc.intro
    intro callee called
    exact finite.acc_of_not_reaches same callee (apart callee called)
  constructor
  intro node
  induction node using finite.induction with
  | _ node ih =>
      by_cases isChanged : node = changed
      · subst isChanged
        exact here
      · apply Acc.intro
        intro callee called
        exact ih callee (same node callee isChanged called)

end FiniteCalls

end Evm
