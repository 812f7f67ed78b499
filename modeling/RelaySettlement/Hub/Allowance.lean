import RelaySettlement.Hub.Effects
import RelaySettlement.Evm.Limit

/-!
# Spending authority

One allowance is drawn on through two doors: the hub lowers it itself, while the
view reads it, writes the reduced value back through `approveFor` and then
transfers past the hub's own check.  Whatever the order of calls, what a third
party moves out of an account between two settings of its allowance stays within
the value set, and nobody else changes the allowance.
-/

open Evm

namespace RelaySettlement

/-! ## What the statement speaks about -/

/-- What the chain promises about whoever makes a call: it is not the zero
address, and it is not a view, since a view's code calls the hub only from inside
the view calls of the system. -/
def Hub.External (hub : Hub) (call : LedgerCall) : Prop :=
  call.sender ≠ 0 ∧ ∀ id, hub.erc20Views id ≠ call.sender

/-- `spender` has no authority over `owner` other than an allowance. -/
structure Hub.ThirdParty (hub : Hub) (owner spender : Address) : Prop where
  notOwner : spender ≠ owner
  noRole : hub.hasRole .operator spender = false
  notOperator : hub.operatorApproval owner spender = false
  notView : ∀ id, hub.erc20Views id ≠ spender

namespace LedgerCall

variable (owner spender : Address) (id : U256)

/-- The value a call sets `allowance[owner][spender][id]` to: the owner's
`approve` on the hub or on the view, or a permit of the owner. -/
def setsAllowance : LedgerCall → Option U256
  | .hub msg (.approve grantee tokenId amount) =>
      if msg.sender = owner ∧ grantee = spender ∧ tokenId = id then some amount else none
  | .hub _ (.permit grantor grantee tokenId value _ _ _ _) =>
      if grantor = owner ∧ grantee = spender ∧ tokenId = id then some value else none
  | .view msg tokenId (.approve grantee value) =>
      if msg.sender = owner ∧ grantee = spender ∧ tokenId = id then some value else none
  | _ => none

/-- The amount of `id` that `spender` moves out of `owner` by a call, on the hub
or on the view. -/
def movesOut : LedgerCall → ℕ
  | .hub msg (.transferFrom sender _ tokenId amount) =>
      if msg.sender = spender ∧ sender = owner ∧ tokenId = id then amount.toNat else 0
  | .view msg tokenId (.transferFrom sender _ value) =>
      if msg.sender = spender ∧ sender = owner ∧ tokenId = id then value.toNat else 0
  | _ => 0

/-- The call comes from the owner, or carries the owner's signature over a permit
for this allowance. -/
def SetByOwner (env : Hub.Env) (hub : Hub) : LedgerCall → Prop
  | .hub msg (.approve grantee tokenId _) =>
      msg.sender = owner ∧ grantee = spender ∧ tokenId = id
  | .hub _ (.permit grantor grantee tokenId value deadline v r s) =>
      grantor = owner ∧ grantee = spender ∧ tokenId = id ∧
        env.recover (Hub.permitDigest env owner spender id value (hub.nonces owner)
          deadline) v r s = some owner
  | .view msg tokenId (.approve grantee _) =>
      msg.sender = owner ∧ grantee = spender ∧ tokenId = id
  | _ => False

/-- The call is the spender's own transfer out of the owner. -/
def SpentBySpender : LedgerCall → Prop
  | .hub msg (.transferFrom sender _ tokenId _) =>
      msg.sender = spender ∧ sender = owner ∧ tokenId = id
  | .view msg tokenId (.transferFrom sender _ _) =>
      msg.sender = spender ∧ sender = owner ∧ tokenId = id
  | _ => False

end LedgerCall

/-! ## One call -/

namespace AllowanceEffect

variable (owner spender : Address) (id : U256)

/-- The value an effect sets one entry to. -/
def setsAt : AllowanceEffect → Option U256
  | .set owner' spender' id' value =>
      if owner' = owner ∧ spender' = spender ∧ id' = id then some value else Option.none
  | _ => Option.none

/-- The amount an effect spends from one entry. -/
def spendsAt : AllowanceEffect → ℕ
  | .spend owner' spender' id' amount =>
      if owner' = owner ∧ spender' = spender ∧ id' = id then amount.toNat else 0
  | _ => 0

/-- An effect at one entry of the allowances. -/
theorem Applies.entry {effect : AllowanceEffect} {before after : Hub}
    (applies : effect.Applies before after) :
    LimitStep (effect.setsAt owner spender id) (effect.spendsAt owner spender id)
      (before.allowance owner spender id) (after.allowance owner spender id) := by
  cases effect with
  | none =>
      simp only [Applies] at applies
      exact LimitStep.unchanged (by rw [applies])
  | set owner' spender' id' value =>
      simp only [Applies] at applies
      simp only [setsAt, spendsAt, applies]
      by_cases here : owner' = owner ∧ spender' = spender ∧ id' = id
      · obtain ⟨rfl, rfl, rfl⟩ := here
        simp [LimitStep]
      · rw [if_neg here, set₃_of_ne _ _ here]
        exact LimitStep.unchanged rfl
  | spend owner' spender' id' amount =>
      simp only [Applies] at applies
      simp only [setsAt, spendsAt]
      by_cases here : owner' = owner ∧ spender' = spender ∧ id' = id
      · obtain ⟨rfl, rfl, rfl⟩ := here
        simp only [and_self, if_true, LimitStep]
        split_ifs at applies ⊢ with unlimited
        · rw [applies, unlimited]
        · obtain ⟨remaining, spent, written⟩ := applies
          rw [written]
          simpa using spent
      · have same : after.allowance owner spender id = before.allowance owner spender id := by
          split_ifs at applies with unlimited
          · rw [applies]
          · obtain ⟨remaining, _, written⟩ := applies
            rw [written, set₃_of_ne _ _ here]
        rw [if_neg here]
        exact LimitStep.unchanged same

/-- An effect that neither sets nor spends an entry leaves it alone. -/
theorem Applies.unchanged {effect : AllowanceEffect} {before after : Hub}
    (applies : effect.Applies before after)
    (unset : effect.setsAt owner spender id = Option.none)
    (unspent : effect.spendsAt owner spender id = 0) :
    after.allowance owner spender id = before.allowance owner spender id := by
  have entry := applies.entry owner spender id
  rw [unset, unspent] at entry
  exact entry.eq_of_unspent

end AllowanceEffect

namespace Hub

open AllowanceEffect (setsAt spendsAt)

variable {env : Env} {hub after : Hub} {owner spender : Address} {id : U256}

/-- A third party's transfer on the hub always draws on its allowance. -/
theorem ThirdParty.needsAllowance (third : hub.ThirdParty owner spender) {msg : Msg}
    (bySpender : msg.sender = spender) (tokenId : U256) :
    hub.NeedsAllowance msg owner tokenId := by
  subst bySpender
  refine ⟨third.notOwner, ?_, third.notView tokenId⟩
  simp [isOperator, third.noRole, third.notOperator]

/-- What an outside call sets and spends of one allowance, read off the call. -/
theorem allowanceEffect_entry (id : U256) {call : LedgerCall} (external : hub.External call)
    (third : hub.ThirdParty owner spender) (ok : step env call hub = .ok after) :
    (call.allowanceEffect hub).setsAt owner spender id =
        call.setsAllowance owner spender id ∧
      (call.allowanceEffect hub).spendsAt owner spender id =
        call.movesOut owner spender id := by
  cases call with
  | hub msg call =>
      cases call with
      | approveFor grantor grantee tokenId amount =>
          -- only a view passes the check of `approveFor`, and no view is a caller
          simp only [step, execHub, bubble_eq_ok] at ok
          exact absurd (approveFor_ok ok).1 (external.2 tokenId)
      | transferFrom sender receiver tokenId amount =>
          simp only [LedgerCall.allowanceEffect, LedgerCall.setsAllowance,
            LedgerCall.movesOut]
          by_cases here : msg.sender = spender ∧ sender = owner ∧ tokenId = id
          · obtain ⟨bySpender, rfl, rfl⟩ := here
            rw [if_pos (third.needsAllowance bySpender tokenId)]
            simp [setsAt, spendsAt, bySpender]
          · have elsewhere : ¬ (sender = owner ∧ msg.sender = spender ∧ tokenId = id) :=
              fun entry => here ⟨entry.2.1, entry.1, entry.2.2⟩
            rw [if_neg here]
            split
            · simp [setsAt, spendsAt, elsewhere]
            · simp [setsAt, spendsAt]
      | _ =>
          simp [LedgerCall.allowanceEffect, LedgerCall.setsAllowance, LedgerCall.movesOut,
            setsAt, spendsAt]
  | view msg tokenId call =>
      cases call with
      | transferFrom sender receiver value =>
          simp only [LedgerCall.allowanceEffect, LedgerCall.setsAllowance,
            LedgerCall.movesOut]
          by_cases here : msg.sender = spender ∧ sender = owner ∧ tokenId = id
          · obtain ⟨bySpender, rfl, rfl⟩ := here
            simp [setsAt, spendsAt, bySpender, third.notOwner]
          · have elsewhere : ¬ (sender = owner ∧ msg.sender = spender ∧ tokenId = id) :=
              fun entry => here ⟨entry.2.1, entry.1, entry.2.2⟩
            rw [if_neg here]
            split
            · simp [setsAt, spendsAt]
            · simp [setsAt, spendsAt, elsewhere]
      | _ =>
          simp [LedgerCall.allowanceEffect, LedgerCall.setsAllowance, LedgerCall.movesOut,
            setsAt, spendsAt]

/-- An outside call sets and lowers one allowance as the call says. -/
theorem step_limit (id : U256) {call : LedgerCall} (external : hub.External call)
    (third : hub.ThirdParty owner spender) (ok : step env call hub = .ok after) :
    LimitStep (call.setsAllowance owner spender id) (call.movesOut owner spender id)
      (hub.allowance owner spender id) (after.allowance owner spender id) := by
  obtain ⟨sets, spends⟩ := allowanceEffect_entry id external third ok
  rw [← sets, ← spends]
  exact (step_effects call ok).2.entry owner spender id

end Hub

/-! ## Whole runs -/

section Runs

variable {env : Hub.Env} {owner spender : Address} {id : U256}

/-- What is required of every call of a run: it comes from outside, and the
spender is a third party when it is made. -/
def Hub.Outside (owner spender : Address) (hub : Hub) (call : LedgerCall) : Prop :=
  hub.External call ∧ hub.ThirdParty owner spender

/-- A call that changes one allowance is a setting by its owner or a transfer by
its spender. -/
theorem Hub.step_changes {hub after : Hub} {call : LedgerCall}
    (external : hub.External call) (ok : Hub.step env call hub = .ok after)
    (changed : after.allowance owner spender id ≠ hub.allowance owner spender id) :
    call.SetByOwner owner spender id env hub ∨ call.SpentBySpender owner spender id := by
  have applies := (Hub.step_effects call ok).2
  by_contra neither
  rw [not_or] at neither
  apply changed
  cases call with
  | hub msg call =>
      simp only [Hub.step, bubble_eq_ok] at ok
      cases call with
      | approveFor grantor grantee tokenId amount =>
          exact absurd (approveFor_ok ok).1 (external.2 tokenId)
      | permit grantor grantee tokenId value deadline v r s =>
          -- a permit that went through carries the owner's signature
          have signed := (permit_ok ok).1
          refine applies.unchanged owner spender id (if_neg ?_) rfl
          rintro ⟨rfl, rfl, rfl⟩
          exact neither.1 ⟨rfl, rfl, rfl, signed⟩
      | approve grantee tokenId amount =>
          exact applies.unchanged owner spender id (if_neg neither.1) rfl
      | transferFrom sender receiver tokenId amount =>
          simp only [LedgerCall.allowanceEffect] at applies
          split_ifs at applies with needed
          · refine applies.unchanged owner spender id rfl (if_neg ?_)
            exact fun entry => neither.2 ⟨entry.2.1, entry.1, entry.2.2⟩
          · exact applies.unchanged owner spender id rfl rfl
      | _ => exact applies.unchanged owner spender id rfl rfl
  | view msg tokenId call =>
      cases call with
      | approve grantee value =>
          exact applies.unchanged owner spender id (if_neg neither.1) rfl
      | transfer receiver value => exact applies.unchanged owner spender id rfl rfl
      | transferFrom sender receiver value =>
          simp only [LedgerCall.allowanceEffect] at applies
          split_ifs at applies with isOwner
          · exact applies.unchanged owner spender id rfl rfl
          · refine applies.unchanged owner spender id rfl (if_neg ?_)
            exact fun entry => neither.2 ⟨entry.2.1, entry.1, entry.2.2⟩

end Runs

/-- Over every run of outside calls from an empty hub in which `spender` is a
third party to `owner`: what `spender` moves out of `owner` after a limited
setting and before the next one is within the value set; the stored allowance is
the value last set less what was moved since; and an allowance only changes by a
setting of its owner or a transfer of its spender. -/
theorem allowance_authority (env : Hub.Env) (roles : Hub.Role → Address → Bool)
    (calls : List LedgerCall) (owner spender : Address) (id : U256)
    (along : Along (Hub.step env) (Hub.Outside owner spender) calls (Hub.empty roles)) :
    let hub := run (Hub.step env) calls (Hub.empty roles)
    let successes := trace (Hub.step env) calls (Hub.empty roles)
    let grant := Grant.initial.after (LedgerCall.setsAllowance owner spender id)
      (LedgerCall.movesOut owner spender id) successes
    (∀ earlier setting window later value,
      successes = earlier ++ setting :: (window ++ later) →
      setting.call.setsAllowance owner spender id = some value → value ≠ U256.max →
      (∀ success ∈ window, success.call.setsAllowance owner spender id = none) →
      (window.map fun success => success.call.movesOut owner spender id).sum ≤
        value.toNat) ∧
    (if grant.value = U256.max then hub.allowance owner spender id = U256.max
      else grant.moved ≤ grant.value.toNat ∧
        (hub.allowance owner spender id).toNat = grant.value.toNat - grant.moved) ∧
    ∀ success ∈ successes,
      success.post.allowance owner spender id ≠ success.pre.allowance owner spender id →
      success.call.SetByOwner owner spender id env success.pre ∨
        success.call.SpentBySpender owner spender id := by
  intro hub successes grant
  have limited : ∀ call before after, Hub.Outside owner spender before call →
      Hub.step env call before = .ok after →
      LimitStep (call.setsAllowance owner spender id) (call.movesOut owner spender id)
        (before.allowance owner spender id) (after.allowance owner spender id) :=
    fun call before after outside ok => Hub.step_limit id outside.1 outside.2 ok
  have initially : Grant.initial.Accounts ((Hub.empty roles).allowance owner spender id) :=
    Grant.initial_accounts
  refine ⟨?_, ?_, ?_⟩
  · intro earlier setting window later value split sets notMax unset
    exact spent_within_setting limited along initially split sets notMax unset
  · have accounts : grant.Accounts (hub.allowance owner spender id) :=
      run_accounts limited along initially
    unfold Grant.Accounts at accounts
    split_ifs at accounts ⊢ with unlimited
    · exact accounts
    · omega
  · intro success member changed
    obtain ⟨_, ⟨external, _⟩, ok⟩ := mem_trace_along (Hub.Outside owner spender)
      (fun _ => True) (fun _ _ _ _ _ _ => trivial) calls (Hub.empty roles) along trivial
      success member
    exact Hub.step_changes external ok changed

namespace TwoDoors

/-- Account 1 is the operator. -/
def roles : Hub.Role → Address → Bool := fun _ account => account == 1

/-- Views are deployed at 100, 101, ...; no signature is valid. -/
def env : Hub.Env where
  keccak256 := fun _ => 0
  domainSeparator := 0
  recover := fun _ _ _ _ => none
  createAddress := fun index => BitVec.ofNat 160 (100 + index)

/-- Account 2 grants 20 of token 7 to account 3, who draws on it through the hub,
through the view, and then once more beyond what is left. -/
def calls : List LedgerCall :=
  [.hub ⟨1, 0⟩ (.mint 2 7 50), .hub ⟨2, 0⟩ (.approve 3 7 20),
    .hub ⟨3, 0⟩ (.transferFrom 2 4 7 12), .view ⟨3, 0⟩ 7 (.transferFrom 2 4 6),
    .hub ⟨3, 0⟩ (.transferFrom 2 4 7 3)]

/-- What the outside-call condition needs of a state of this run. -/
theorem outside_of {hub : Hub} {call : LedgerCall} (hasRole : hub.hasRole = roles)
    (approvals : hub.operatorApproval = fun _ _ => false)
    (views : hub.erc20Views = (fun _ => 0) ∨
      hub.erc20Views = fun id => if id = 7 then 100 else 0)
    (sender : call.sender = 1 ∨ call.sender = 2 ∨ call.sender = 3) :
    Hub.Outside 2 3 hub call := by
  have noView : ∀ id (account : Address), account = 1 ∨ account = 2 ∨ account = 3 →
      hub.erc20Views id ≠ account := by
    intro id account named isView
    have small : hub.erc20Views id = 0 ∨ hub.erc20Views id = 100 := by
      rcases views with views | views
      · simp [views]
      · simp only [views]
        split
        · exact .inr rfl
        · exact .inl rfl
    rw [isView] at small
    rcases named with rfl | rfl | rfl <;> revert small <;> decide
  refine ⟨⟨?_, fun id => noView id call.sender sender⟩, ?_⟩
  · rcases sender with is | is | is <;> rw [is] <;> decide
  · exact ⟨by decide, by rw [hasRole]; rfl, by rw [approvals],
      fun id => noView id 3 (.inr (.inr rfl))⟩

theorem along : Along (Hub.step env) (Hub.Outside 2 3) calls (Hub.empty roles) := by
  refine ⟨outside_of rfl rfl (.inl rfl) ?_, outside_of rfl rfl (.inr rfl) ?_,
    outside_of rfl rfl (.inr rfl) ?_, outside_of rfl rfl (.inr rfl) ?_,
    outside_of rfl rfl (.inr rfl) ?_, trivial⟩ <;> decide

end TwoDoors

theorem allowance_authority_two_doors :
    Grant.initial.after (LedgerCall.setsAllowance 2 3 7) (LedgerCall.movesOut 2 3 7)
        (trace (Hub.step TwoDoors.env) TwoDoors.calls (Hub.empty TwoDoors.roles)) =
      ⟨20, 18⟩ ∧
    ((run (Hub.step TwoDoors.env) TwoDoors.calls (Hub.empty TwoDoors.roles)).allowance
      2 3 7).toNat = 20 - 18 := by
  have granted : Grant.initial.after (LedgerCall.setsAllowance 2 3 7)
      (LedgerCall.movesOut 2 3 7)
      (trace (Hub.step TwoDoors.env) TwoDoors.calls (Hub.empty TwoDoors.roles)) =
        ⟨20, 18⟩ := by
    decide +kernel
  have stored := (allowance_authority TwoDoors.env TwoDoors.roles TwoDoors.calls 2 3 7
    TwoDoors.along).2.1
  rw [granted, if_neg (by decide)] at stored
  exact ⟨granted, stored.2⟩

end RelaySettlement
