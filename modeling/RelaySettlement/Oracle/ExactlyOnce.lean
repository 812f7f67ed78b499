import RelaySettlement.Oracle.Core
import RelaySettlement.Evm.Registry

/-!
# Exactly-once execution

A batch is a fold of atomic executions: what a reverting entry did is undone by
its call frame, and the batch goes on with the state of the entries that
succeeded.  Over whole runs of any number of oracle contracts that share a store,
every idempotency key is executed at most once, and a stored key is one whose
execution completed.
-/

open Evm

namespace RelaySettlement

variable {χ μ : Type} {env : OracleEnv χ μ}

/-! ## What an execution does -/

namespace Oracle

variable {self : Address} {ctx : Ctx χ} {world after : OracleWorld μ}

/-- A hub call leaves the rest of the world alone. -/
theorem callHub_frame {amount : U256} {call : Hub → Except Hub.Error Hub}
    (ok : callHub amount call world = .ok after) :
    ∃ hub, after = { world with hub := hub } := by
  unfold callHub at ok
  split at ok
  · simp only [pure_eq_ok] at ok
    exact ⟨_, ok.symm⟩
  · simp only [bind_eq_ok, pure_eq_ok] at ok
    obtain ⟨hub, _, rfl⟩ := ok
    exact ⟨hub, rfl⟩

theorem fastMintFee_frame {feeCalculator : Address} {hubTokenId amount : U256}
    {data : Bytes} {fee : FeeResult}
    (ok : fastMintFee env self ctx feeCalculator hubTokenId amount data world =
      .ok (fee, after)) :
    ∃ modules, after = { world with modules := modules } := by
  unfold fastMintFee at ok
  split at ok
  · simp only [bind_eq_ok, pure_eq_ok, Prod.mk.injEq] at ok
    obtain ⟨_, _, ⟨_, modules⟩, _, _, rfl⟩ := ok
    exact ⟨modules, rfl⟩
  · simp only [pure_eq_ok, Prod.mk.injEq] at ok
    exact ⟨_, ok.2.symm⟩

theorem fastMintRateLimit_frame {rateLimiter : Address} {hubTokenId amount : U256}
    {data : Bytes}
    (ok : fastMintRateLimit env self ctx rateLimiter hubTokenId amount data world =
      .ok after) :
    ∃ modules, after = { world with modules := modules } := by
  unfold fastMintRateLimit at ok
  split at ok
  · simp only [bind_eq_ok, pure_eq_ok] at ok
    obtain ⟨_, _, ⟨_, modules⟩, _, _, _, rfl⟩ := ok
    exact ⟨modules, rfl⟩
  · simp only [pure_eq_ok] at ok
    exact ⟨_, ok.symm⟩

theorem executeFastMint_frame {action : Bytes}
    (ok : executeFastMint env self ctx action world = .ok after) :
    ∃ hub modules, after = { world with hub := hub, modules := modules } := by
  simp only [executeFastMint, bind_eq_ok] at ok
  obtain ⟨_, _, _, _, _, _, _, _, _, _, _, _, _, _, ⟨_, charged⟩, fee, limited, limit,
    paid, pay, mint⟩ := ok
  obtain ⟨modules, rfl⟩ := fastMintFee_frame fee
  obtain ⟨modules', rfl⟩ := fastMintRateLimit_frame limit
  obtain ⟨hub, rfl⟩ := callHub_frame pay
  obtain ⟨hub', rfl⟩ := callHub_frame mint
  exact ⟨hub', modules', rfl⟩

/-- Every action works on the hub and on the modules only. -/
theorem executeAction_frame {action : Bytes}
    (ok : executeAction env self ctx action world = .ok after) :
    ∃ hub modules, after = { world with hub := hub, modules := modules } := by
  simp only [executeAction, bind_eq_ok] at ok
  obtain ⟨actionType, _, ok⟩ := ok
  split_ifs at ok with isMint isBurn isTransfer isFastMint
  · simp only [bind_eq_ok] at ok
    obtain ⟨_, _, _, _, _, _, called⟩ := ok
    obtain ⟨hub, rfl⟩ := callHub_frame called
    exact ⟨hub, _, rfl⟩
  · simp only [bind_eq_ok] at ok
    obtain ⟨_, _, _, _, _, _, called⟩ := ok
    obtain ⟨hub, rfl⟩ := callHub_frame called
    exact ⟨hub, _, rfl⟩
  · simp only [bind_eq_ok] at ok
    obtain ⟨_, _, _, _, _, _, _, _, called⟩ := ok
    obtain ⟨hub, rfl⟩ := callHub_frame called
    exact ⟨hub, _, rfl⟩
  · exact executeFastMint_frame ok

theorem executeActions_frame {actions : List Bytes}
    (ok : executeActions env self ctx actions world = .ok after) :
    ∃ hub modules, after = { world with hub := hub, modules := modules } := by
  induction actions generalizing world with
  | nil =>
      simp only [executeActions, pure_eq_ok] at ok
      exact ⟨_, _, ok.symm⟩
  | cons action actions ih =>
      simp only [executeActions, bind_eq_ok] at ok
      obtain ⟨next, first, rest⟩ := ok
      obtain ⟨_, _, rfl⟩ := executeAction_frame first
      obtain ⟨hub, modules, rfl⟩ := ih rest
      exact ⟨hub, modules, rfl⟩

end Oracle

/-- Whether the store holds a key. -/
def OracleWorld.Stored (world : OracleWorld μ) (key : Bytes32) : Prop :=
  world.store.isStored key = true

/-- One execution as it is submitted to an oracle contract. -/
structure Submission (χ : Type) where
  self : Address
  ctx : Ctx χ
  execution : Oracle.Execution
  oracle : Address
  signature : Bytes

namespace Submission

/-- The idempotency key of the execution. -/
def key (submission : Submission χ) : Bytes32 := submission.execution.idempotencyKey

/-- Call `execute` on the oracle contract. -/
def execute (env : OracleEnv χ μ) (submission : Submission χ) :
    OracleWorld μ → Except Oracle.Error (OracleWorld μ) :=
  Oracle.execute env submission.self submission.ctx submission.execution submission.oracle
    submission.signature

/-- The world with the key of the execution marked. -/
def marked (submission : Submission χ) (world : OracleWorld μ) : OracleWorld μ :=
  { world with
    store := { world.store with isStored := set world.store.isStored submission.key true } }

/-- Everything a successful `execute` went through: the oracle was authorised and
signed this execution, the key was neither stored nor known to a source, and all
actions were applied on top of the mark. -/
structure Completes (env : OracleEnv χ μ) (submission : Submission χ)
    (before after : OracleWorld μ) : Prop where
  authorised : (before.oracles submission.self).hasRole .oracle submission.oracle = true
  signed : env.isValidSignatureNow submission.ctx.rest before submission.oracle
    (Oracle.hashExecution env submission.self submission.execution)
    submission.signature = true
  unstored : before.store.isStored submission.key = false
  unreported : ∀ source ∈ before.store.sources,
    env.sourceIsExecuted submission.ctx.rest before source submission.key = some false
  applied : Oracle.executeActions env submission.self submission.ctx
    submission.execution.actions (submission.marked before) = .ok after

variable {submission : Submission χ} {before after : OracleWorld μ}

theorem execute_ok (ok : submission.execute env before = .ok after) :
    submission.Completes env before after := by
  simp only [execute, Oracle.execute, Oracle.internalExecute, Oracle.isExecuted,
    Oracle.markExecuted, bind_eq_ok, require_eq_ok, bubble_eq_ok, pure_eq_ok] at ok
  obtain ⟨_, asked, _, rfl, _, authorised, _, signed, world, ⟨store, marked, rfl⟩,
    applied⟩ := ok
  obtain ⟨unstored, unreported⟩ := IdempotencyStore.isExecuted_eq_false.mp asked
  obtain ⟨_, _, rfl⟩ := IdempotencyStore.markExecuted_ok marked
  exact ⟨authorised, signed, unstored, unreported, applied⟩

/-- A completed execution changes the store by its own mark only. -/
theorem Completes.store (completes : submission.Completes env before after) :
    after.store = (submission.marked before).store := by
  obtain ⟨hub, modules, rfl⟩ := Oracle.executeActions_frame completes.applied
  rfl

/-- A completed execution registers its key. -/
theorem Completes.registers (completes : submission.Completes env before after) :
    Registers OracleWorld.Stored before after [submission.key] := by
  apply Registers.flag fun (world : OracleWorld μ) key => world.store.isStored key
  · exact completes.unstored
  · intro other
    rw [completes.store]
    simp only [marked, set_apply]

end Submission

/-! ## A batch is a fold of atomic executions -/

/-- One entry of a batch as a submission of its own. -/
def Submission.ofEntry (self : Address) (ctx : Ctx χ) (oracle : Address)
    (entry : Oracle.Execution × Bytes) : Submission χ :=
  ⟨self, ctx, entry.1, oracle, entry.2⟩

namespace Oracle

variable {self : Address} {ctx : Ctx χ} {oracle : Address} {world after : OracleWorld μ}

/-- The actions of an execution do not depend on who submitted it. -/
theorem executeActions_outgoing (actions : List Bytes) :
    executeActions env self (outgoing self ctx) actions world =
      executeActions env self ctx actions world := by
  induction actions generalizing world with
  | nil => rfl
  | cons action actions ih =>
      have here : executeAction env self (outgoing self ctx) action world =
          executeAction env self ctx action world := rfl
      simp only [executeActions, here, ih]

/-- The frame the contract opens for itself executes as the batch's caller would. -/
theorem execute_outgoing (execution : Execution) (signature : Bytes) :
    execute env self (outgoing self ctx) execution oracle signature world =
      (Submission.ofEntry self ctx oracle (execution, signature)).execute env world := by
  have asked : isExecuted env (outgoing self ctx) execution.idempotencyKey world =
      isExecuted env ctx execution.idempotencyKey world := rfl
  have marked : markExecuted env self (outgoing self ctx) execution.idempotencyKey world =
      markExecuted env self ctx execution.idempotencyKey world := rfl
  have rest : (outgoing self ctx).rest = ctx.rest := rfl
  simp only [Submission.execute, Submission.ofEntry, execute, internalExecute, asked, marked,
    rest, executeActions_outgoing]
  rfl

/-- An entry the batch skips would have reverted. -/
theorem execute_skipped {execution : Execution} {signature : Bytes}
    (skipped : isExecuted env ctx execution.idempotencyKey world = .ok true) :
    (Submission.ofEntry self ctx oracle (execution, signature)).execute env world =
      .error (.alreadyExecuted execution.idempotencyKey) := by
  simp [Submission.execute, Submission.ofEntry, execute, skipped, bind, Except.bind, require]

/-- A batch that does not revert as a whole ends where submitting its entries one
by one ends. -/
theorem executeEach_ok {entries : List (Execution × Bytes)}
    (ok : executeEach env self ctx oracle entries world = .ok after) :
    after = run (Submission.execute env)
      (entries.map (Submission.ofEntry self ctx oracle)) world := by
  induction entries generalizing world with
  | nil =>
      simp only [executeEach, pure_eq_ok] at ok
      exact ok.symm
  | cons entry entries ih =>
      obtain ⟨execution, signature⟩ := entry
      simp only [executeEach, bind_eq_ok] at ok
      obtain ⟨executed, asked, ok⟩ := ok
      simp only [List.map_cons, run_cons]
      cases executed with
      | true =>
          rw [attempt_error (execute_skipped asked)]
          exact ih ok
      | false =>
          simp only [Bool.false_eq_true, if_false, execute_outgoing] at ok
          cases outcome :
              (Submission.ofEntry self ctx oracle (execution, signature)).execute env world with
          | error error =>
              simp only [outcome] at ok
              rw [attempt_error outcome]
              exact ih ok
          | ok next =>
              simp only [outcome] at ok
              rw [attempt_ok outcome]
              exact ih ok

/-- The sources configured in a world answer every question, in whatever state
they are asked. -/
def SourcesAnswer (env : OracleEnv χ μ) (ctx : Ctx χ) (world : OracleWorld μ) : Prop :=
  ∀ source ∈ world.store.sources, ∀ later idempotencyKey,
    (env.sourceIsExecuted ctx.rest later source idempotencyKey).isSome

/-- A batch reverts as a whole only if a source does. -/
theorem executeEach_answers (self oracle : Address) (entries : List (Execution × Bytes))
    (answers : SourcesAnswer env ctx world) :
    ∃ after, executeEach env self ctx oracle entries world = .ok after := by
  induction entries generalizing world with
  | nil => exact ⟨world, rfl⟩
  | cons entry entries ih =>
      obtain ⟨execution, signature⟩ := entry
      obtain ⟨executed, asked⟩ := IdempotencyStore.isExecuted_answers
        (fun source member => answers source member world execution.idempotencyKey)
      have asked' : isExecuted env ctx execution.idempotencyKey world = .ok executed :=
        bubble_eq_ok.mpr asked
      simp only [executeEach, bind_eq_ok]
      cases executed with
      | true =>
          obtain ⟨after, rest⟩ := ih answers
          exact ⟨after, true, asked', rest⟩
      | false =>
          refine (?_ : ∃ after, _).imp fun after rest => ⟨false, asked', rest⟩
          simp only [Bool.false_eq_true, if_false, execute_outgoing]
          cases outcome :
              (Submission.ofEntry self ctx oracle (execution, signature)).execute env world with
          | error error => exact ih answers
          | ok next =>
              have sources : next.store.sources = world.store.sources := by
                rw [(Submission.execute_ok outcome).store]
                rfl
              apply ih
              rwa [SourcesAnswer, sources]

end Oracle

/-- `executeMultiple` is the fold of the atomic `execute` over its entries: as
long as the configured sources answer, it returns the world in which every entry
was submitted on its own, a reverting entry leaves the whole world as it was, and
leaving the reverting entries out changes nothing. -/
theorem executeMultiple_eq_run (env : OracleEnv χ μ) (self : Address) (ctx : Ctx χ)
    (executions : List Oracle.Execution) (oracle : Address) (signatures : List Bytes)
    (world : OracleWorld μ) (sameLength : executions.length = signatures.length)
    (answers : Oracle.SourcesAnswer env ctx world) :
    let submissions :=
      (executions.zip signatures).map (Submission.ofEntry self ctx oracle)
    let successes := trace (Submission.execute env) submissions world
    Oracle.executeMultiple env self ctx executions oracle signatures world =
        .ok (run (Submission.execute env) submissions world) ∧
      (∀ submission ∈ submissions, ∀ before error,
        submission.execute env before = .error error →
        attempt (Submission.execute env) submission before = before) ∧
      run (Submission.execute env) (successes.map fun success => success.call) world =
        run (Submission.execute env) submissions world := by
  intro submissions successes
  refine ⟨?_, ?_, run_successes submissions world⟩
  · obtain ⟨after, each⟩ :=
      Oracle.executeEach_answers self oracle (executions.zip signatures) answers
    have ended := Oracle.executeEach_ok each
    simp only [Oracle.executeMultiple, bind_eq_ok, require_eq_ok]
    refine ⟨(), sameLength, ?_⟩
    rw [each, ended]
  · intro submission _ before error reverted
    exact attempt_error reverted

namespace SampleBatch

/-- Every signature `1` is valid, no source is configured, and the rate limiter
counts what it lets through. -/
def surroundings : OracleEnv Unit ℕ where
  hub := ⟨fun _ => 0, 0, fun _ _ _ _ => none, fun index => BitVec.ofNat 160 (100 + index)⟩
  storeAddress := 40
  domainSeparator := fun _ => 0
  hasCode := fun _ _ => true
  isValidSignatureNow := fun _ _ _ _ signature => signature == [1]
  sourceIsExecuted := fun _ _ _ _ => some false
  calculateFee := fun _ _ _ _ _ _ => none
  consume := fun _ world _ _ amount _ => some (true, world.modules + amount.toNat)

/-- Oracle contracts 50 and 51 may write keys and operate the hub; 9 signs. -/
def world : OracleWorld ℕ where
  hub := Hub.empty fun _ account => account == 50 || account == 51
  store := IdempotencyStore.empty fun _ account => account == 50 || account == 51
  oracles := fun _ => ⟨fun _ account => account == 9, fun limiter => limiter == 60,
    fun _ => false⟩
  modules := 0

/-- A fast mint of `amount` of token 7 to account 2, through limiter 60. -/
def fastMint (amount : U256) : Bytes :=
  Abi.encode [.word 3, .address 2, .word 7, .word amount, .address 0, .bytes [],
    .address 60, .bytes []]

/-- A burn of `amount` of token 7 from account 3, which holds nothing. -/
def burn (amount : U256) : Bytes := Abi.encode [.word 1, .address 3, .word 7, .word amount]

/-- The second entry fails in its last action; the third repeats the first key. -/
def executions : List Oracle.Execution :=
  [⟨1, [fastMint 30]⟩, ⟨2, [fastMint 5, burn 1]⟩, ⟨1, [fastMint 8]⟩]

def ctx : Ctx Unit := ⟨⟨4, 0⟩, ()⟩

/-- Source 70 is configured; it reverts when it is asked for key 2. -/
def revertingSource : OracleEnv Unit ℕ :=
  { surroundings with
    sourceIsExecuted := fun _ _ _ key => if key = 2 then none else some false }

def worldWithSource : OracleWorld ℕ :=
  { world with store := { world.store with sources := [70], bounded := by decide } }

end SampleBatch

open SampleBatch in
theorem executeMultiple_eq_run_sample :
    ∃ after,
      Oracle.executeMultiple surroundings 50 ctx executions 9
        [[1], [1], [1]] world = .ok after ∧
      after.hub.balanceOf 2 7 = 30 ∧ after.modules = 30 ∧
      after.store.isStored 1 = true ∧ after.store.isStored 2 = false := by
  have answers : Oracle.SourcesAnswer surroundings ctx world :=
    fun _ _ _ _ => rfl
  refine ⟨_, (executeMultiple_eq_run surroundings 50 ctx
    executions 9 [[1], [1], [1]] world rfl answers).1, ?_⟩
  decide +kernel

open SampleBatch in
/-- Without answers of the sources the batch is no fold: the source that reverts for the
second entry makes the whole batch revert, while one by one the first entry is executed. -/
theorem executeMultiple_reverts_with_source :
    let submissions :=
      (executions.zip [[1], [1], [1]]).map (Submission.ofEntry 50 ctx 9)
    let after := run (Submission.execute revertingSource) submissions worldWithSource
    (∃ error, Oracle.executeMultiple revertingSource 50 ctx executions 9 [[1], [1], [1]]
      worldWithSource = .error error) ∧
      worldWithSource.hub.balanceOf 2 7 = 0 ∧ after.hub.balanceOf 2 7 = 30 ∧
      worldWithSource.store.isStored 1 = false ∧ after.store.isStored 1 = true := by
  intro submissions after
  refine ⟨?_, rfl, by decide +kernel, rfl, by decide +kernel⟩
  have fails : (Oracle.executeMultiple revertingSource 50 ctx executions 9 [[1], [1], [1]]
      worldWithSource).toBool = false := by
    decide +kernel
  cases outcome : Oracle.executeMultiple revertingSource 50 ctx executions 9 [[1], [1], [1]]
      worldWithSource with
  | error error => exact ⟨error, rfl⟩
  | ok next =>
      rw [outcome] at fails
      cases fails

/-! ## Whole runs of the system -/

namespace OracleSystemCall

/-- The executions a call submits, in order. -/
def submissions : OracleSystemCall χ μ → List (Submission χ)
  | .oracle self ctx (.execute execution signer signature) =>
      [⟨self, ctx, execution, signer, signature⟩]
  | .oracle self ctx (.executeMultiple executions signer signatures) =>
      (executions.zip signatures).map (Submission.ofEntry self ctx signer)
  | _ => []

/-- Activity on the hub or the modules that does not come from an oracle. -/
def Outside : OracleSystemCall χ μ → Prop
  | .ledger _ => True
  | .modules _ => True
  | _ => False

end OracleSystemCall

namespace OracleWorld

/-- Only oracle contracts hold the write role, so nobody who calls the store's
`markExecuted` from elsewhere does. -/
def OnlyOraclesWrite (world : OracleWorld μ) : OracleSystemCall χ μ → Prop
  | .store ctx (.markExecuted _) => world.store.hasRole .write ctx.sender = false
  | _ => True

/-- The executions a call completes, each with the worlds around it. -/
def completions (env : OracleEnv χ μ) (call : OracleSystemCall χ μ)
    (world : OracleWorld μ) : List (Transition (OracleWorld μ) (Submission χ)) :=
  trace (Submission.execute env) call.submissions world

/-- The executions completed over a run, oldest first. -/
def completed (env : OracleEnv χ μ) (calls : List (OracleSystemCall χ μ))
    (start : OracleWorld μ) : List (Transition (OracleWorld μ) (Submission χ)) :=
  (trace (step env) calls start).flatMap fun success =>
    completions env success.call success.pre

/-- What the actions of executions work on. -/
def effects (world : OracleWorld μ) : Hub × μ := (world.hub, world.modules)

variable {world next : OracleWorld μ} {call : OracleSystemCall χ μ}

theorem administer_frame {self : Address} {ctx : Ctx χ}
    {change : Oracle → Except Oracle.Error Oracle}
    (ok : Oracle.administer self ctx change world = .ok next) :
    ∃ oracles, next = { world with oracles := oracles } := by
  simp only [Oracle.administer, bind_eq_ok, pure_eq_ok] at ok
  obtain ⟨_, _, _, _, rfl⟩ := ok
  exact ⟨_, rfl⟩

/-- A successful call leaves the store's keys, and unless it comes from outside
also the hub and the modules, as submitting its executions one by one does. -/
theorem step_submits (ok : step env call world = .ok next)
    (writers : world.OnlyOraclesWrite call) :
    let submitted := run (Submission.execute env) call.submissions world
    next.store.isStored = submitted.store.isStored ∧
      (¬ call.Outside → next.effects = submitted.effects) := by
  cases call with
  | oracle self ctx call =>
      simp only [step, bubble_eq_ok] at ok
      cases call with
      | execute execution oracle signature =>
          have executed : attempt (Submission.execute env)
              ⟨self, ctx, execution, oracle, signature⟩ world = next := attempt_ok ok
          simp [OracleSystemCall.submissions, executed]
      | executeMultiple executions oracle signatures =>
          simp only [execOracle, Oracle.executeMultiple, bind_eq_ok] at ok
          obtain ⟨_, _, each⟩ := ok
          simp [OracleSystemCall.submissions, Oracle.executeEach_ok each]
      | addRateLimiter | removeRateLimiter | addFeeCalculator | removeFeeCalculator =>
          simp only [execOracle, Oracle.addRateLimiter, Oracle.removeRateLimiter,
            Oracle.addFeeCalculator, Oracle.removeFeeCalculator] at ok
          obtain ⟨_, rfl⟩ := administer_frame ok
          exact ⟨rfl, fun _ => rfl⟩
      | setRole role account granted =>
          simp only [execOracle, Oracle.setRole, pure_eq_ok] at ok
          subst ok
          exact ⟨rfl, fun _ => rfl⟩
  | store ctx call =>
      simp only [step, bind_eq_ok, bubble_eq_ok, pure_eq_ok] at ok
      obtain ⟨store, ok, rfl⟩ := ok
      cases call with
      | addSource source =>
          exact ⟨IdempotencyStore.addSource_isStored ok, fun _ => rfl⟩
      | markExecuted key =>
          have writer := (IdempotencyStore.markExecuted_ok ok).1
          rw [writers] at writer
          cases writer
      | setRole role account granted =>
          simp only [execStore, pure_eq_ok] at ok
          subst ok
          exact ⟨rfl, fun _ => rfl⟩
  | ledger call =>
      simp only [step, bind_eq_ok, pure_eq_ok] at ok
      obtain ⟨_, _, rfl⟩ := ok
      exact ⟨rfl, fun inside => absurd trivial inside⟩
  | modules change =>
      simp only [step, pure_eq_ok] at ok
      subst ok
      exact ⟨rfl, fun inside => absurd trivial inside⟩

/-- Submitting executions one by one registers the keys of those that complete. -/
theorem submissions_register (submissions : List (Submission χ)) (world : OracleWorld μ) :
    Registers Stored world (run (Submission.execute env) submissions world)
      ((trace (Submission.execute env) submissions world).map fun completion =>
        completion.call.key) := by
  have registers := run_registers (Submission.execute env) (fun _ _ => True)
    (fun submission _ => [submission.key])
    (fun _ _ _ _ ok => (Submission.execute_ok ok).registers)
    submissions world (along_trivial submissions world)
  rwa [← List.map_eq_flatMap] at registers

/-- A successful call registers the keys of the executions it completes. -/
theorem step_registers (writers : world.OnlyOraclesWrite call)
    (ok : step env call world = .ok next) :
    Registers Stored world next
      ((completions env call world).map fun completion => completion.call.key) := by
  apply (submissions_register call.submissions world).congr_after
  intro key
  rw [Stored, (step_submits ok writers).1, Stored]

end OracleWorld

/-- Over every run of oracle contracts that share a store, with any executions,
signatures, sources and interleaving, and with arbitrary outside activity on the
hub and the modules in between: no key is executed twice; a key is stored exactly
when one execution with that key completed; every completed execution was signed
by an authorised oracle, was not known to the store or to any source when it
began, and had all its actions applied; and every call to an oracle or to the
store takes hub and modules through its completed executions and nothing else. -/
theorem exactly_once_execution (env : OracleEnv χ μ) (start : OracleWorld μ)
    (roles : IdempotencyStore.Role → Address → Bool)
    (fresh : start.store = IdempotencyStore.empty roles)
    (calls : List (OracleSystemCall χ μ))
    (along : Along (OracleWorld.step env) OracleWorld.OnlyOraclesWrite calls start) :
    let completed := OracleWorld.completed env calls start
    let keys := completed.map fun completion => completion.call.key
    keys.Nodup ∧
      (∀ key, (run (OracleWorld.step env) calls start).store.isStored key = true ↔
        keys.count key = 1) ∧
      (∀ completion ∈ completed,
        completion.call.Completes env completion.pre completion.post) ∧
      ∀ success ∈ trace (OracleWorld.step env) calls start, ¬ success.call.Outside →
        Linked OracleWorld.effects (OracleWorld.completions env success.call success.pre)
          success.pre success.post := by
  intro completed keys
  have registers : Registers OracleWorld.Stored start
      (run (OracleWorld.step env) calls start) keys := by
    have registered := run_registers (OracleWorld.step env) OracleWorld.OnlyOraclesWrite
      (fun call world => (OracleWorld.completions env call world).map
        fun completion => completion.call.key)
      (fun _ _ _ => OracleWorld.step_registers) calls start along
    rwa [← List.map_flatMap] at registered
  refine ⟨registers.nodup, ?_, ?_, ?_⟩
  · intro key
    exact registers.marked_iff_count (by
      simp [OracleWorld.Stored, fresh, IdempotencyStore.empty])
  · intro completion member
    obtain ⟨success, _, member⟩ := List.mem_flatMap.mp member
    exact Submission.execute_ok (mem_trace member)
  · intro success member inside
    obtain ⟨_, writers, ok⟩ := mem_trace_along OracleWorld.OnlyOraclesWrite (fun _ => True)
      (fun _ _ _ _ _ _ => trivial) calls start along trivial success member
    have linked : Linked OracleWorld.effects
        (OracleWorld.completions env success.call success.pre) success.pre
        (run (Submission.execute env) success.call.submissions success.pre) :=
      trace_linked OracleWorld.effects success.call.submissions success.pre
    exact linked.trans_eq ((OracleWorld.step_submits ok writers).2 inside).symm

/-- The batch on one oracle contract, then its failed key again on another. -/
def SampleBatch.calls : List (OracleSystemCall Unit ℕ) :=
  [.oracle 50 ctx (.executeMultiple executions 9 [[1], [1], [1]]),
    .oracle 51 ctx (.execute ⟨2, [fastMint 5]⟩ 9 [1])]

open SampleBatch in
theorem exactly_once_execution_sample :
    (OracleWorld.completed surroundings calls world).map
        (fun completion => completion.call.key) = [1, 2] ∧
      ∀ key, (run (OracleWorld.step surroundings) calls
        world).store.isStored key = true ↔ [1, 2].count key = 1 := by
  have keys : (OracleWorld.completed surroundings calls
      world).map (fun completion => completion.call.key) = [1, 2] := by
    decide +kernel
  have stored := (exactly_once_execution surroundings world _ rfl
    calls ⟨trivial, trivial, trivial⟩).2.1
  exact ⟨keys, fun key => by rw [← keys]; exact stored key⟩

end RelaySettlement
