import RelaySettlement.Hub.Effects
import RelaySettlement.Evm.Run

/-!
# Conservation of supply

For every token id the balances of all accounts add up to the supply of the id,
and the supply is what was minted less what was burned.  Both survive arbitrary
interleavings of hub and view calls, since each successful call has one of the
effects of `BookEffect` and every effect is about a single id.
-/

open Evm

namespace RelaySettlement

/-- The balances of every id add up to its supply. -/
def Hub.Conserved (hub : Hub) : Prop :=
  ∀ id, Book.total (hub.book id) = (hub.totalSupply id).toNat

namespace BookEffect

variable {effect : BookEffect} {before after : Hub}

theorem minted_eq_burned {id : U256} (other : effect.tokenId ≠ some id) :
    effect.minted id = effect.burned id := by
  cases effect with
  | none => rfl
  | move source target other amount => rfl
  | mint receiver token amount =>
      have different : token ≠ id := fun same => other (congrArg some same)
      simp [minted, burned, different]
  | burn sender token amount =>
      have different : token ≠ id := fun same => other (congrArg some same)
      simp [minted, burned, different]

/-- An effect changes the supply of an id, and the total of its book, by what it mints and
burns. -/
theorem Applies.supply_total (applies : effect.Applies before after) (id : U256) :
    (after.totalSupply id).toNat + effect.burned id =
        (before.totalSupply id).toNat + effect.minted id ∧
      Book.total (after.book id) + effect.burned id =
        Book.total (before.book id) + effect.minted id := by
  by_cases about : effect.tokenId = some id
  · cases effect with
    | none => simp [tokenId] at about
    | move source target other amount =>
        obtain rfl : other = id := Option.some.inj about
        obtain ⟨covered, moved, supply⟩ := applies.here
        have total := Book.total_move (before.book other) source target _ covered
        rw [← moved] at total
        simp [minted, burned, supply, total]
    | mint receiver other amount =>
        obtain rfl : other = id := Option.some.inj about
        obtain ⟨posted, supply⟩ := applies.here
        have total := Book.total_post (before.book other) receiver amount.toNat
        rw [← posted] at total
        simp [minted, burned, supply, total]
    | burn sender other amount =>
        obtain rfl : other = id := Option.some.inj about
        obtain ⟨covered, taken, supply⟩ := applies.here
        have total := Book.total_take (before.book other) sender _ covered
        rw [← taken] at total
        simp [minted, burned, supply, total]
  · rw [(applies.elsewhere id about).1, (applies.elsewhere id about).2, minted_eq_burned about]
    exact ⟨rfl, rfl⟩

/-- Since book and supply move together, conservation is preserved. -/
theorem Applies.conserved (applies : effect.Applies before after)
    (conserved : before.Conserved) : after.Conserved := by
  intro id
  obtain ⟨supplies, books⟩ := applies.supply_total id
  have here := conserved id
  omega

end BookEffect

theorem Hub.empty_conserved (roles : Hub.Role → Address → Bool) :
    (Hub.empty roles).Conserved := by
  intro id
  have noBalance : (Hub.empty roles).book id = fun _ => 0 := rfl
  have noSupply : ((Hub.empty roles).totalSupply id).toNat = 0 := rfl
  rw [noBalance, noSupply, Book.total_zero]

/-- In every run of hub and view calls from an empty hub, the balances of each id
add up to its supply, the supply is what the successful calls minted less what
they burned, and no successful call touches the books of another id. -/
theorem ledger_conservation (env : Hub.Env) (roles : Hub.Role → Address → Bool)
    (calls : List LedgerCall) (id : U256) :
    let hub := run (Hub.step env) calls (Hub.empty roles)
    let successes := trace (Hub.step env) calls (Hub.empty roles)
    ∑ account, (hub.balanceOf account id).toNat = (hub.totalSupply id).toNat ∧
      (hub.totalSupply id).toNat +
          (successes.map fun success => success.call.bookEffect.burned id).sum =
        (successes.map fun success => success.call.bookEffect.minted id).sum ∧
      ∀ success ∈ successes, success.call.bookEffect.tokenId ≠ some id →
        (∀ account, success.post.balanceOf account id =
            success.pre.balanceOf account id) ∧
          success.post.totalSupply id = success.pre.totalSupply id := by
  intro hub successes
  refine ⟨?_, ?_, ?_⟩
  · have conserved : hub.Conserved := by
      apply run_invariant Hub.Conserved _ _ _ (Hub.empty_conserved roles)
      intro call state next conserved ok
      exact (Hub.step_effects call ok).1.conserved conserved
    rw [← conserved id, Book.total_eq_sum]
    simp only [Hub.book_apply]
  · have balanced : ∀ call state next, Hub.step env call state = .ok next →
        (next.totalSupply id).toNat + call.bookEffect.burned id =
          (state.totalSupply id).toNat + call.bookEffect.minted id :=
      fun call state next ok => ((Hub.step_effects call ok).1.supply_total id).1
    have measured := run_measure (fun state : Hub => (state.totalSupply id).toNat)
      (fun call => call.bookEffect.minted id) (fun call => call.bookEffect.burned id)
      balanced calls (Hub.empty roles)
    have initially : ((Hub.empty roles).totalSupply id).toNat = 0 := rfl
    rwa [initially, Nat.zero_add] at measured
  · intro success member different
    obtain ⟨books, supplies⟩ :=
      (Hub.step_effects success.call (mem_trace member)).1.elsewhere id different
    refine ⟨?_, supplies⟩
    intro account
    exact BitVec.eq_of_toNat_eq (congrFun books account)

end RelaySettlement
