import RelaySettlement.Pool.Events

/-!
# Solvency of the funding pool

The balances of all accounts in a token never add up to more than the pool holds of it.
Deposits are booked at the measured increase of the pool's holdings, payments are booked
in full before they are made, and nothing that token code does in between is booked.
-/

open Evm

namespace RelaySettlement

namespace PoolWorld

variable {χ : Type} {env : PoolEnv χ} {world next : PoolWorld χ}

/-- What the pool holds of each token covers the balances of all accounts. -/
def Solvent (world : PoolWorld χ) : Prop :=
  ∀ token, Book.total (world.pool.book token) ≤ (world.held token).toNat

theorem Quiet.total (quiet : Quiet env world next) (token : Address) :
    Book.total (next.pool.book token) = Book.total (world.pool.book token) := by
  have sameBook : next.pool.book token = world.pool.book token := by
    funext account
    rw [Pool.book_apply, Pool.book_apply, quiet.balances]
  rw [sameBook]

theorem Quiet.solvent (quiet : Quiet env world next) (solvent : world.Solvent) :
    next.Solvent := by
  intro token
  rw [quiet.total token]
  exact (solvent token).trans (quiet.held token)

/-- Booking a deposit adds it to the total of its token. -/
theorem deposit_total {account token : Address} {received : U256}
    (ok : record env (.deposit account token received) world = .ok next) (other : Address) :
    Book.total (next.pool.book other) =
      Book.total (world.pool.book other) + if other = token then received.toNat else 0 := by
  obtain ⟨pool, written, rfl⟩ := record_ok ok
  have applies := (Pool.write_written written).applies other
  by_cases sameToken : other = token
  · rw [if_pos sameToken] at applies ⊢
    rw [applies, Book.total_post]
  · rw [if_neg sameToken] at applies ⊢
    rw [applies, Nat.add_zero]

/-- Booking a payment takes it from the total of its token. -/
theorem payment_total {write : PoolWrite χ} {account token : Address} {amount : U256}
    (effect : write.effect = .take account token amount)
    (ok : record env write world = .ok next) (other : Address) :
    Book.total (next.pool.book other) + (if other = token then amount.toNat else 0) =
      Book.total (world.pool.book other) := by
  obtain ⟨pool, written, rfl⟩ := record_ok ok
  have applies := (Pool.write_written written).applies
  rw [effect] at applies
  obtain ⟨covered, changes⟩ := applies
  have changed := changes other
  by_cases sameToken : other = token
  · subst sameToken
    rw [if_pos rfl] at changed ⊢
    rw [changed]
    exact Book.total_take _ account _ covered
  · rw [if_neg sameToken] at changed ⊢
    rw [changed, Nat.add_zero]

/-- Every event keeps the pool solvent. -/
theorem Happens.solvent (happens : Happens env world next) (solvent : world.Solvent) :
    next.Solvent := by
  cases happens with
  | quiet quiet => exact quiet.solvent solvent
  | @deposits account token received inside booked during arrived books leaves =>
      subst leaves
      intro other
      have sameHeld : booked.held = inside.held := by
        obtain ⟨pool, _, rfl⟩ := record_ok books
        rfl
      have before := solvent other
      have grown := during.held other
      change Book.total (booked.pool.book other) ≤ (booked.held other).toNat
      rw [deposit_total books other, during.total other, sameHeld]
      by_cases sameToken : other = token
      · subst sameToken
        rw [if_pos rfl, arrived]
        exact Nat.add_le_add_right before _
      · rw [if_neg sameToken, Nat.add_zero]
        exact before.trans grown
  | @pays write account token amount remaining booked paid effect permitted books lowered
      during leaves =>
      subst leaves
      intro other
      have sameHeld : booked.held = world.held := by
        obtain ⟨pool, _, rfl⟩ := record_ok books
        rfl
      have before := solvent other
      have booking := payment_total effect books other
      have kept := during.held other
      change Book.total (paid.pool.book other) ≤ (paid.held other).toNat
      rw [during.total other]
      rw [sameHeld] at lowered kept
      simp only [set_apply] at kept
      by_cases sameToken : other = token
      · subst sameToken
        rw [if_pos rfl] at booking kept
        dsimp only at booking ⊢
        omega
      · rw [if_neg sameToken] at booking kept
        dsimp only at booking ⊢
        omega

end PoolWorld

/-- Over every run of pool calls by anybody, with tokens that run arbitrary code when
called, deliver any amount and take at most what the pool transfers: the balances of all
accounts in a token add up to at most what the pool holds of it. -/
theorem pool_solvency {χ : Type} (env : PoolEnv χ) (roles : Pool.Role → Address → Bool)
    (held : Address → U256) (events : List (PoolEvent χ)) (token : Address) :
    let world := run (PoolEvent.step env) events (PoolWorld.deployed χ roles held)
    ∑ account, (world.pool.balances account token).toNat ≤ (world.held token).toNat := by
  intro world
  have initially : (PoolWorld.deployed χ roles held).Solvent := by
    intro token
    have noBalances : (PoolWorld.deployed χ roles held).pool.book token = fun _ => 0 := rfl
    rw [noBalances, Book.total_zero]
    exact Nat.zero_le _
  have solvent : world.Solvent := by
    apply run_invariant PoolWorld.Solvent _ events _ initially
    intro event before after isSolvent ok
    exact (PoolEvent.step_happens ok).solvent isSolvent
  have covered := solvent token
  rw [Book.total_eq_sum] at covered
  exact covered

-- a token that delivers 60 of 100 and tries to withdraw for its depositor meanwhile
example :
    let env : PoolEnv Unit := ⟨fun _ => 0, 0, fun _ _ _ _ _ => true⟩
    let world := run (PoolEvent.step env)
      [.call ⟨⟨2, 0⟩, ()⟩ (.depositFor 2 7 100) true 0
        [.deliver 7 60, .call ⟨⟨2, 0⟩, ()⟩ (.withdraw 7 60 2) true 60 []]]
      (PoolWorld.deployed Unit (fun _ _ => true) fun _ => 0)
    world.pool.balances 2 7 = 60 ∧ world.held 7 = 60 := by
  decide +kernel

end RelaySettlement
