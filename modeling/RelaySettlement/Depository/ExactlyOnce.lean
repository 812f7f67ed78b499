import RelaySettlement.Depository.Core
import RelaySettlement.Evm.Registry

/-!
# Depository payouts happen at most once

The used mark of a request is set before the first contract is called, and nothing ever
clears it, so whatever a called contract executes belongs to other requests.  `Completes`
says what any number of events did between two worlds: which requests they executed, none
of them used before, and that the calls made for each request are its call list.  An
execution composes the events of its calls with the calls themselves, and a revert at any
depth goes back to the world before.
-/

open Evm

namespace RelaySettlement

variable {χ : Type} {env : DepositoryEnv χ}

/-! ## What happened between two worlds -/

namespace DepositoryExecution

/-- What the mark of an execution is kept under. -/
def key (execution : DepositoryExecution χ) : DepositoryAt × Bytes32 :=
  (execution.depository, execution.structHash)

/-- The struct hash and the digest of a request on a depository of its kind. -/
def hashes (env : DepositoryEnv χ) :
    DepositoryAt → DepositoryRequest → Option (Bytes32 × Bytes32)
  | .relay self, .relay request =>
      some (RelayDepository.hashCallRequest env.keccak256 env.chainId self request)
  | .gateway self, .gateway request =>
      some (RelayGatewayDepository.hashCallRequest env.keccak256 env.chainId self request)
  | _, _ => none

/-- At a time, the allocator in force had signed the request, which had not expired. -/
structure Authorized (env : DepositoryEnv χ) (timestamp : U256)
    (execution : DepositoryExecution χ) : Prop where
  time : execution.timestamp = timestamp
  hashed : hashes env execution.depository execution.request =
    some (execution.structHash, execution.digest)
  signed : env.isValidSignatureNow execution.rest execution.allocator execution.digest
    execution.signature = true
  unexpired : execution.timestamp ≤ execution.request.expiration

end DepositoryExecution

namespace CallMade

def key (made : CallMade) : DepositoryAt × Bytes32 := (made.depository, made.structHash)

end CallMade

namespace DepositoryWorld

/-- Whether a request is marked as used. -/
def Used (world : DepositoryWorld χ) (key : DepositoryAt × Bytes32) : Prop :=
  (world.depositories key.1).callRequests key.2 = true

/-- The call lists of the executions under a key. -/
def callsOf (key : DepositoryAt × Bytes32) (executions : List (DepositoryExecution χ)) :
    List Depository.Call :=
  (executions.filter (·.key = key)).flatMap (·.request.calls)

/-- The calls made under a key. -/
def callsMade (key : DepositoryAt × Bytes32) (calls : List CallMade) :
    List Depository.Call :=
  (calls.filter (·.key = key)).map (·.call)

theorem callsOf_append (key : DepositoryAt × Bytes32)
    (first second : List (DepositoryExecution χ)) :
    callsOf key (first ++ second) = callsOf key first ++ callsOf key second := by
  rw [callsOf, List.filter_append, List.flatMap_append, callsOf, callsOf]

theorem callsMade_append (key : DepositoryAt × Bytes32) (first second : List CallMade) :
    callsMade key (first ++ second) = callsMade key first ++ callsMade key second := by
  rw [callsMade, List.filter_append, List.map_append, callsMade, callsMade]

variable {executions : List (DepositoryExecution χ)} {execution : DepositoryExecution χ}
  {list : List Depository.Call}

theorem callsOf_of_not_mem {key : DepositoryAt × Bytes32}
    (absent : key ∉ executions.map DepositoryExecution.key) : callsOf key executions = [] := by
  rw [callsOf, List.filter_eq_nil_iff.mpr, List.flatMap_nil]
  intro execution member isKey
  exact absent (List.mem_map.mpr ⟨execution, member, of_decide_eq_true isKey⟩)

/-- Under a key that occurs once, the calls are those of its execution. -/
theorem callsOf_of_mem (nodup : (executions.map DepositoryExecution.key).Nodup)
    (member : execution ∈ executions) :
    callsOf execution.key executions = execution.request.calls := by
  obtain ⟨earlier, later, rfl⟩ := List.append_of_mem member
  rw [List.map_append, List.map_cons, List.nodup_middle, List.nodup_cons,
    List.mem_append, not_or] at nodup
  rw [callsOf_append, callsOf_of_not_mem nodup.1.1, List.nil_append, ← List.singleton_append,
    callsOf_append, callsOf_of_not_mem nodup.1.2, List.append_nil]
  simp [callsOf]

/-- Between two worlds some executions passed their checks, each under a key that was not
used, and some calls were made. -/
structure Records (valid : DepositoryExecution χ → Prop) (before after : DepositoryWorld χ)
    (begun : List (DepositoryExecution χ)) (made : List CallMade) : Prop where
  executions : after.executions = before.executions ++ begun
  calls : after.calls = before.calls ++ made
  registers : Registers Used before after (begun.map DepositoryExecution.key)
  valid : ∀ execution ∈ begun, valid execution

/-- Between two worlds every execution was carried out: the calls made are those of the
executions. -/
def Completes (valid : DepositoryExecution χ → Prop) (before after : DepositoryWorld χ) : Prop :=
  ∃ executions calls, Records valid before after executions calls ∧
    ∀ key, callsMade key calls = callsOf key executions

variable {valid : DepositoryExecution χ → Prop}
  {before after first second third : DepositoryWorld χ}

namespace Records

theorem append {executions executions' : List (DepositoryExecution χ)}
    {calls calls' : List CallMade} (here : Records valid first second executions calls)
    (later : Records valid second third executions' calls') :
    Records valid first third (executions ++ executions') (calls ++ calls') where
  executions := by rw [later.executions, here.executions, List.append_assoc]
  calls := by rw [later.calls, here.calls, List.append_assoc]
  registers := by
    rw [List.map_append]
    exact here.registers.append later.registers
  valid := List.forall_mem_append.mpr ⟨here.valid, later.valid⟩

/-- A key used before is not used again. -/
theorem callsOf_used {executions : List (DepositoryExecution χ)} {calls : List CallMade}
    (records : Records valid before after executions calls) {key : DepositoryAt × Bytes32}
    (used : before.Used key) : callsOf key executions = [] :=
  callsOf_of_not_mem fun member => records.registers.fresh key member used

theorem keeps_used {executions : List (DepositoryExecution χ)} {calls : List CallMade}
    (records : Records valid before after executions calls) {key : DepositoryAt × Bytes32}
    (used : before.Used key) : after.Used key :=
  (records.registers.marks key).mpr (.inl used)

/-- A change that touches no mark and no record. -/
theorem unchanged (marks : after.Used = before.Used)
    (executions : after.executions = before.executions) (calls : after.calls = before.calls) :
    Records valid before after [] [] where
  executions := by rw [executions, List.append_nil]
  calls := by rw [calls, List.append_nil]
  registers := .unchanged marks
  valid := List.forall_mem_nil _

end Records

theorem Completes.unchanged (marks : after.Used = before.Used)
    (executions : after.executions = before.executions) (calls : after.calls = before.calls) :
    Completes valid before after :=
  ⟨[], [], .unchanged marks executions calls, fun _ => rfl⟩

theorem Completes.refl (world : DepositoryWorld χ) : Completes valid world world :=
  .unchanged rfl rfl rfl

theorem Completes.trans (here : Completes valid first second)
    (later : Completes valid second third) : Completes valid first third := by
  obtain ⟨executions, calls, records, complete⟩ := here
  obtain ⟨executions', calls', records', complete'⟩ := later
  refine ⟨_, _, records.append records', ?_⟩
  intro key
  rw [callsMade_append, callsOf_append, complete, complete']

theorem Completes.mono {valid' : DepositoryExecution χ → Prop}
    (completes : Completes valid before after) (weaker : ∀ execution, valid execution →
      valid' execution) : Completes valid' before after := by
  obtain ⟨executions, calls, records, complete⟩ := completes
  exact ⟨executions, calls, ⟨records.executions, records.calls, records.registers,
    fun execution member => weaker execution (records.valid execution member)⟩, complete⟩

/-! ## One execution -/

open DepositoryExecution (Authorized)

/-- A called contract of which only whole executions remain. -/
def Careful (valid : DepositoryExecution χ → Prop) (outcome : Outcome χ) : Prop :=
  ∀ world, Completes valid world (outcome.during world)

theorem Careful.idle : Careful valid (Outcome.idle : Outcome χ) := .refl

theorem Careful.completes {outcome : Outcome χ} (careful : Careful valid outcome)
    (world : DepositoryWorld χ) : Completes valid world (outcome.after world) := by
  rw [Outcome.after]
  split
  · exact careful world
  · exact .refl world

/-- The calls of an execution that has begun: those made under its own key are its call
list, those under any other key belong to executions during the calls. -/
def Calls (valid : DepositoryExecution χ → Prop) (own : DepositoryAt × Bytes32)
    (list : List Depository.Call) (before after : DepositoryWorld χ) : Prop :=
  ∃ executions calls, Records valid before after executions calls ∧
    callsMade own calls = list ∧
    ∀ key, key ≠ own → callsMade key calls = callsOf key executions

/-- What other requests do before the calls of an execution does not count for it. -/
theorem Calls.preceded {own : DepositoryAt × Bytes32} {list : List Depository.Call}
    (used : first.Used own) (here : Completes valid first second)
    (later : second.Used own → Calls valid own list second third) :
    Calls valid own list first third := by
  obtain ⟨executions, calls, records, complete⟩ := here
  obtain ⟨executions', calls', records', made, others⟩ := later (records.keeps_used used)
  refine ⟨_, _, records.append records', ?_, ?_⟩
  · rw [callsMade_append, complete, records.callsOf_used used, made, List.nil_append]
  · intro key different
    rw [callsMade_append, callsOf_append, complete, others key different]

theorem Calls.cons {self : DepositoryAt} {id : Bytes32} {call : Depository.Call}
    {success : Bool} {list : List Depository.Call}
    (rest : Calls valid (self, id) list
      { before with calls := before.calls ++ [⟨self, id, call, success⟩] } after) :
    Calls valid (self, id) (call :: list) before after := by
  obtain ⟨executions, calls, records, made, others⟩ := rest
  have one : Records valid before
      { before with calls := before.calls ++ [⟨self, id, call, success⟩] } []
      [⟨self, id, call, success⟩] :=
    ⟨(List.append_nil _).symm, rfl, .unchanged rfl, List.forall_mem_nil _⟩
  refine ⟨_, _, one.append records, ?_, ?_⟩
  · rw [callsMade_append, made]
    simp [callsMade, CallMade.key]
  · intro key different
    rw [callsMade_append, others key different, List.nil_append]
    simp [callsMade, CallMade.key, different.symm]

/-- The loop makes every call of the list once. -/
theorem executeCalls_calls {self : DepositoryAt} {id : Bytes32} {outcomes : List (Outcome χ)}
    {results : List Depository.CallResult} (careful : ∀ outcome ∈ outcomes, Careful valid outcome)
    (used : before.Used (self, id))
    (ok : executeCalls self id list outcomes before = .ok (results, after)) :
    Calls valid (self, id) list before after := by
  induction list generalizing outcomes before results with
  | nil =>
      cases ok
      exact ⟨[], [], .unchanged rfl rfl rfl, rfl, fun _ _ => rfl⟩
  | cons call list ih =>
      simp only [executeCalls, bind_eq_ok, require_eq_ok, pure_eq_ok, Prod.exists,
        Prod.mk.injEq] at ok
      obtain ⟨_, _, others, world, rest, _, rfl⟩ := ok
      have here : Careful valid (outcomes.headD .idle) := by
        cases outcomes with
        | nil => exact .idle
        | cons outcome outcomes => exact careful outcome List.mem_cons_self
      apply Calls.preceded used (here.completes before)
      intro stillUsed
      apply Calls.cons
      exact ih (fun outcome member => careful outcome (List.mem_of_mem_tail member))
        stillUsed rest

/-- Marking a request as used records its execution. -/
theorem markUsed_records {execution : DepositoryExecution χ}
    (isValid : valid execution)
    (unused : (before.depositories execution.depository).callRequests
      execution.structHash = false) :
    Records valid before (before.markUsed execution) [execution] [] where
  executions := rfl
  calls := (List.append_nil _).symm
  registers := by
    apply Registers.flag fun (world : DepositoryWorld χ) (key : DepositoryAt × Bytes32) =>
      (world.depositories key.1).callRequests key.2
    · exact unused
    · rintro ⟨depository, id⟩
      simp only [markUsed, DepositoryExecution.key, set_apply, Prod.mk.injEq]
      by_cases here : depository = execution.depository
      · subst here
        simp [set_apply]
      · simp [here]
  valid := List.forall_mem_singleton.mpr isValid

/-- An execution is complete once its calls are made. -/
theorem completes_of_calls (execution : DepositoryExecution χ)
    (isValid : valid execution)
    (unused : (before.depositories execution.depository).callRequests
      execution.structHash = false)
    (calls : (before.markUsed execution).Used execution.key →
      Calls valid execution.key execution.request.calls (before.markUsed execution) after) :
    Completes valid before after ∧
      ∃ later, after.executions = before.executions ++ execution :: later := by
  have begun := markUsed_records isValid unused
  have used : (before.markUsed execution).Used execution.key :=
    (begun.registers.marks _).mpr (.inr List.mem_cons_self)
  obtain ⟨executions, made, records, own, others⟩ := calls used
  have both := begun.append records
  refine ⟨⟨_, _, both, ?_⟩, executions, both.executions⟩
  intro key
  rw [List.nil_append, callsOf_append]
  by_cases isOwn : key = execution.key
  · subst isOwn
    rw [own, records.callsOf_used used]
    simp [callsOf]
  · rw [others key isOwn]
    simp [callsOf, Ne.symm isOwn]

variable {timestamp : U256} {self : Address} {signature : Bytes} {rest : χ}
variable {outcomes : List (Outcome χ)} {results : List Depository.CallResult}

/-- The execution that an event asks for, at a time and with the allocator that the depository
has stored. -/
def asked (env : DepositoryEnv χ) (timestamp : U256) (world : DepositoryWorld χ) :
    DepositoryEvent χ → Option (DepositoryExecution χ)
  | .execute self request signature rest _ =>
      let hashes := RelayDepository.hashCallRequest env.keccak256 env.chainId self request
      some ⟨.relay self, .relay request, hashes.1, hashes.2, timestamp,
        (world.depositories (.relay self)).allocator, signature, rest⟩
  | .gatewayExecute self request signature _ rest _ _ _ _ =>
      let hashes := RelayGatewayDepository.hashCallRequest env.keccak256 env.chainId self request
      some ⟨.gateway self, .gateway request, hashes.1, hashes.2, timestamp,
        (world.depositories (.gateway self)).allocator, signature, rest⟩
  | _ => none

/-- An event carries out authorized executions, first of all the one that it asks for. -/
structure Happens (env : DepositoryEnv χ) (timestamp : U256) (event : DepositoryEvent χ)
    (before after : DepositoryWorld χ) : Prop where
  completes : Completes (Authorized env timestamp) before after
  begins : ∀ execution, before.asked env timestamp event = some execution →
    ∃ later, after.executions = before.executions ++ execution :: later

theorem Happens.of_asked {event : DepositoryEvent χ} {execution : DepositoryExecution χ}
    (isAsked : before.asked env timestamp event = some execution)
    (happens : Completes (Authorized env timestamp) before after ∧
      ∃ later, after.executions = before.executions ++ execution :: later) :
    Happens env timestamp event before after := by
  refine ⟨happens.1, ?_⟩
  intro other isOther
  cases isAsked.symm.trans isOther
  exact happens.2

theorem execute_happens {request : RelayDepository.CallRequest} {callees : List (Callee χ)}
    (careful : ∀ outcome ∈ outcomes, Careful (Authorized env timestamp) outcome)
    (ok : execute env timestamp self request signature rest outcomes before =
      .ok (results, after)) :
    Happens env timestamp (.execute self request signature rest callees) before after := by
  simp only [execute, bind_eq_ok, require_eq_ok] at ok
  obtain ⟨_, unexpired, _, signed, _, unused, executed⟩ := ok
  apply Happens.of_asked rfl
  apply completes_of_calls _ ⟨rfl, rfl, signed, BitVec.not_lt.mp unexpired⟩ unused
  intro used
  exact executeCalls_calls careful used executed

theorem gatewayExecute_happens {request : RelayGatewayDepository.CallRequest}
    {attestationPayload : Bytes} {usedBefore usedAfter : Option Bool} {mint : Outcome χ}
    {minter : Callee χ} {callees : List (Callee χ)}
    (careful : ∀ outcome ∈ outcomes, Careful (Authorized env timestamp) outcome)
    (carefulMint : Careful (Authorized env timestamp) mint)
    (ok : gatewayExecute env timestamp self request signature attestationPayload rest
      usedBefore usedAfter mint outcomes before = .ok (results, after)) :
    Happens env timestamp (.gatewayExecute self request signature attestationPayload rest
      usedBefore usedAfter minter callees) before after := by
  simp only [gatewayExecute, bind_eq_ok, require_eq_ok, orRevert_eq_ok] at ok
  obtain ⟨_, unexpired, _, signed, _, _, _, unused, _, _, _, _, _, _, _, _, _, _, executed⟩ :=
    ok
  apply Happens.of_asked rfl
  apply completes_of_calls _ ⟨rfl, rfl, signed, BitVec.not_lt.mp unexpired⟩ unused
  intro used
  apply Calls.preceded used (carefulMint.completes _)
  intro stillUsed
  exact executeCalls_calls careful stillUsed executed

/-- Changing the owner or the allocator touches no mark. -/
theorem used_set (depository : DepositoryAt) (changed : Depository)
    (same : changed.callRequests = (before.depositories depository).callRequests) :
    ({ before with depositories := set before.depositories depository changed } :
      DepositoryWorld χ).Used = before.Used := by
  funext key
  simp only [Used, set_apply]
  split
  next here => rw [same, here]
  · rfl

/-- After a loop that did not revert, every call has returned or may fail. -/
theorem executeCalls_tolerates {depository : DepositoryAt} {id : Bytes32}
    (ok : executeCalls depository id list outcomes before = .ok (results, after)) :
    ∀ pair ∈ list.zip outcomes, pair.2.success = true ∨ pair.1.allowFailure = true := by
  induction list generalizing outcomes before results with
  | nil => exact List.forall_mem_nil _
  | cons call list ih =>
      simp only [executeCalls, bind_eq_ok, require_eq_ok, pure_eq_ok, Prod.exists,
        Prod.mk.injEq] at ok
      obtain ⟨_, tolerated, others, world, rest, _, rfl⟩ := ok
      cases outcomes with
      | nil =>
          rw [List.zip_nil_right]
          exact List.forall_mem_nil _
      | cons outcome outcomes =>
          rw [List.zip_cons_cons, List.forall_mem_cons]
          exact ⟨tolerated, ih rest⟩

end DepositoryWorld

/-! ## Runs -/

open DepositoryWorld (Completes Careful Happens)
open DepositoryExecution (Authorized)

-- The events of a call are smaller than the execution it belongs to, so the four functions
-- of a run are followed together.
mutual
theorem DepositoryEvent.step_happens (env : DepositoryEnv χ) (timestamp : U256) :
    (event : DepositoryEvent χ) → ∀ world next,
      event.step env timestamp world = .ok next → Happens env timestamp event world next
  | .execute self request signature rest callees => by
      intro world next ok
      simp only [DepositoryEvent.step, bind_eq_ok, pure_eq_ok, Prod.exists] at ok
      obtain ⟨results, _, executed, rfl⟩ := ok
      exact DepositoryWorld.execute_happens
        (Callee.outcomes_careful env timestamp callees) executed
  | .gatewayExecute self request signature attestationPayload rest usedBefore usedAfter mint
      callees => by
      intro world next ok
      simp only [DepositoryEvent.step, bind_eq_ok, pure_eq_ok, Prod.exists] at ok
      obtain ⟨results, _, executed, rfl⟩ := ok
      exact DepositoryWorld.gatewayExecute_happens
        (Callee.outcomes_careful env timestamp callees)
        (Callee.outcome_careful env timestamp mint) executed
  | .setAllocator depository sender allocator => by
      intro world next ok
      simp only [DepositoryEvent.step, DepositoryWorld.setAllocator, bind_eq_ok,
        pure_eq_ok] at ok
      obtain ⟨_, _, _, _, rfl⟩ := ok
      exact ⟨.unchanged (DepositoryWorld.used_set depository _ rfl) rfl rfl, nofun⟩
  | .setOwner depository owner => by
      intro world next ok
      simp only [DepositoryEvent.step, pure_eq_ok] at ok
      subst ok
      exact ⟨.unchanged (DepositoryWorld.used_set depository _ rfl) rfl rfl, nofun⟩
  | .call callee => by
      intro world next ok
      simp only [DepositoryEvent.step, bind_eq_ok, require_eq_ok, pure_eq_ok] at ok
      obtain ⟨_, _, rfl⟩ := ok
      exact ⟨(Callee.outcome_careful env timestamp callee).completes world, nofun⟩

theorem DepositoryEvent.runAll_completes (env : DepositoryEnv χ) (timestamp : U256) :
    (events : List (DepositoryEvent χ)) → ∀ world,
      Completes (Authorized env timestamp) world
        (DepositoryEvent.runAll env timestamp events world)
  | [] => by
      intro world
      rw [DepositoryEvent.runAll]
      exact .refl world
  | event :: events => by
      intro world
      rw [DepositoryEvent.runAll]
      cases outcome : event.step env timestamp world with
      | ok next =>
          exact (event.step_happens env timestamp world next outcome).completes.trans
            (DepositoryEvent.runAll_completes env timestamp events next)
      | error error => exact DepositoryEvent.runAll_completes env timestamp events world

theorem Callee.outcome_careful (env : DepositoryEnv χ) (timestamp : U256) :
    (callee : Callee χ) → Careful (Authorized env timestamp) (callee.outcome env timestamp)
  | .callee during success returnData => by
      intro world
      rw [Callee.outcome]
      exact DepositoryEvent.runAll_completes env timestamp during world

theorem Callee.outcomes_careful (env : DepositoryEnv χ) (timestamp : U256) :
    (callees : List (Callee χ)) →
      ∀ outcome ∈ Callee.outcomes env timestamp callees, Careful (Authorized env timestamp) outcome
  | [] => by
      rw [Callee.outcomes]
      exact List.forall_mem_nil _
  | callee :: callees => by
      rw [Callee.outcomes, List.forall_mem_cons]
      exact ⟨callee.outcome_careful env timestamp,
        Callee.outcomes_careful env timestamp callees⟩
end

theorem Callee.outcomes_eq_map (env : DepositoryEnv χ) (timestamp : U256)
    (callees : List (Callee χ)) :
    Callee.outcomes env timestamp callees = callees.map (Callee.outcome env timestamp) := by
  induction callees with
  | nil => rw [Callee.outcomes, List.map_nil]
  | cons callee callees ih => rw [Callee.outcomes, ih, List.map_cons]

theorem Callee.success_outcome (env : DepositoryEnv χ) (timestamp : U256) (callee : Callee χ) :
    (callee.outcome env timestamp).success = callee.success := by
  cases callee with
  | callee during success returnData =>
      rw [Callee.outcome]
      rfl

namespace DepositoryEvent

/-- A call that must not fail reverts in an execution. -/
def MandatoryCallReverts : DepositoryEvent χ → Prop
  | .execute _ request _ _ callees =>
      ∃ pair ∈ request.calls.zip callees,
        pair.1.allowFailure = false ∧ pair.2.success = false
  | .gatewayExecute _ request _ _ _ _ _ _ callees =>
      ∃ pair ∈ request.calls.zip callees,
        pair.1.allowFailure = false ∧ pair.2.success = false
  | _ => False

theorem calls_tolerated {timestamp : U256} {self : DepositoryAt} {id : Bytes32}
    {list : List Depository.Call} {callees : List (Callee χ)}
    {results : List Depository.CallResult} {before after : DepositoryWorld χ}
    (ok : DepositoryWorld.executeCalls self id list (Callee.outcomes env timestamp callees)
      before = .ok (results, after)) :
    ¬ ∃ pair ∈ list.zip callees, pair.1.allowFailure = false ∧ pair.2.success = false := by
  rintro ⟨⟨call, callee⟩, member, mandatory, reverts⟩
  rw [Callee.outcomes_eq_map] at ok
  have tolerated := DepositoryWorld.executeCalls_tolerates ok
    (call, callee.outcome env timestamp) (by
      rw [List.zip_map_right]
      exact List.mem_map.mpr ⟨_, member, rfl⟩)
  rw [Callee.success_outcome, reverts, mandatory] at tolerated
  simp at tolerated

/-- An execution in which such a call reverts reverts as a whole. -/
theorem MandatoryCallReverts.reverts {event : DepositoryEvent χ}
    (mandatory : event.MandatoryCallReverts) (env : DepositoryEnv χ) (timestamp : U256)
    (world : DepositoryWorld χ) : ∃ error, event.step env timestamp world = .error error := by
  cases outcome : event.step env timestamp world with
  | error error => exact ⟨error, rfl⟩
  | ok next =>
      exfalso
      cases event with
      | execute self request signature rest callees =>
          simp only [step, DepositoryWorld.execute, bind_eq_ok, pure_eq_ok, Prod.exists]
            at outcome
          obtain ⟨_, _, ⟨_, _, _, _, _, _, executed⟩, _⟩ := outcome
          exact calls_tolerated executed mandatory
      | gatewayExecute self request signature attestationPayload rest usedBefore usedAfter
          mint callees =>
          simp only [step, DepositoryWorld.gatewayExecute, bind_eq_ok, pure_eq_ok,
            Prod.exists] at outcome
          obtain ⟨_, _, ⟨_, _, _, _, _, _, _, _, _, _, _, _, _, _, _, _, _, _, executed⟩, _⟩ :=
            outcome
          exact calls_tolerated executed mandatory
      | setAllocator | setOwner | call => exact mandatory

end DepositoryEvent

/-- The depositories before anything is recorded. -/
def DepositoryWorld.start (depositories : DepositoryAt → Depository) : DepositoryWorld χ :=
  ⟨depositories, [], []⟩

theorem DepositoryTransaction.run_completes (env : DepositoryEnv χ)
    (transactions : List (DepositoryTransaction χ)) (world : DepositoryWorld χ) :
    Completes (fun execution => ∃ timestamp, execution.Authorized env timestamp) world
      (run (DepositoryTransaction.step env) transactions world) :=
  run_invariant (Completes _ world)
    (fun transaction state next here ok => here.trans
      ((transaction.event.step_happens env transaction.timestamp state next ok).completes.mono
        fun _ authorized => ⟨_, authorized⟩))
    transactions world (.refl world)

open DepositoryWorld in
/-- Over every run of transactions, whatever the called contracts do: a request is executed
at most once on a depository, and on no other than one of its kind; the calls made for it
are its call list, and no call is made without an execution; the mark of a request is set
exactly if it was before the run or the request was executed; each execution had a valid
signature of the allocator in force over the digest of its request, and the request had
not expired.  If a call that must not fail reverts in an execution, at the top of a
transaction or inside another one, nothing of the execution remains.

The executions of a transaction are recorded with its time, and an event that executes a
request, at the top of a transaction or inside another one, is recorded with its signature and
with the allocator that its depository has stored when it begins. -/
theorem depository_exactly_once (env : DepositoryEnv χ)
    (depositories : DepositoryAt → Depository)
    (transactions : List (DepositoryTransaction χ)) :
    let final := run (DepositoryTransaction.step env) transactions (start depositories)
    (final.executions.map fun execution => (execution.depository, execution.request)).Nodup ∧
    (∀ execution ∈ final.executions,
      callsMade execution.key final.calls = execution.request.calls) ∧
    (∀ made ∈ final.calls, ∃ execution ∈ final.executions, execution.key = made.key) ∧
    (∀ depository id, (final.depositories depository).callRequests id = true ↔
      (depositories depository).callRequests id = true ∨
        ∃ execution ∈ final.executions, execution.key = (depository, id)) ∧
    (∀ execution ∈ final.executions,
      DepositoryExecution.hashes env execution.depository execution.request =
        some (execution.structHash, execution.digest) ∧
      env.isValidSignatureNow execution.rest execution.allocator execution.digest
        execution.signature = true ∧
      execution.timestamp ≤ execution.request.expiration) ∧
    (∀ (event : DepositoryEvent χ) (timestamp : U256) (world : DepositoryWorld χ),
      event.MandatoryCallReverts →
        attempt (DepositoryTransaction.step env) ⟨timestamp, event⟩ world = world ∧
        DepositoryEvent.runAll env timestamp [event] world = world) ∧
    (∀ success ∈ trace (DepositoryTransaction.step env) transactions (start depositories),
      ∃ begun, success.post.executions = success.pre.executions ++ begun ∧
        ∀ execution ∈ begun, execution.timestamp = success.call.timestamp) ∧
    ∀ (event : DepositoryEvent χ) (timestamp : U256) (world next : DepositoryWorld χ) execution,
      event.step env timestamp world = .ok next → world.asked env timestamp event = some execution →
      ∃ later, next.executions = world.executions ++ execution :: later := by
  intro final
  obtain ⟨executions, calls, records, complete⟩ :=
    DepositoryTransaction.run_completes env transactions (start depositories)
  have isExecutions : final.executions = executions := records.executions
  have isCalls : final.calls = calls := records.calls
  have nodup := records.registers.nodup
  rw [isExecutions, isCalls]
  refine ⟨?_, ?_, ?_, ?_, ?_, ?_, ?_, ?_⟩
  · -- the keys are images of the depositories and requests
    have image : executions.map DepositoryExecution.key =
        (executions.map fun execution => (execution.depository, execution.request)).map
          fun pair =>
            (pair.1, ((DepositoryExecution.hashes env pair.1 pair.2).getD (0, 0)).1) := by
      rw [List.map_map]
      apply List.map_congr_left
      intro execution member
      obtain ⟨_, authorized⟩ := records.valid execution member
      simp [Function.comp, authorized.hashed, DepositoryExecution.key]
    rw [image] at nodup
    exact nodup.of_map
  · intro execution member
    rw [complete, callsOf_of_mem nodup member]
  · intro made member
    by_contra absent
    have none : callsMade made.key calls = [] := by
      rw [complete, callsOf_of_not_mem]
      intro listed
      obtain ⟨execution, isExecution, isKey⟩ := List.mem_map.mp listed
      exact absent ⟨execution, isExecution, isKey⟩
    rw [callsMade, List.map_eq_nil_iff, List.filter_eq_nil_iff] at none
    exact none made member (decide_eq_true rfl)
  · intro depository id
    have marks := records.registers.marks (depository, id)
    rw [List.mem_map] at marks
    exact marks
  · intro execution member
    obtain ⟨_, _, hashed, signed, unexpired⟩ := records.valid execution member
    exact ⟨hashed, signed, unexpired⟩
  · intro event timestamp world mandatory
    obtain ⟨error, reverted⟩ := mandatory.reverts env timestamp world
    constructor
    · exact attempt_error reverted
    · rw [DepositoryEvent.runAll, reverted]
      simp only [DepositoryEvent.runAll]
  · intro success member
    obtain ⟨begun, _, records, _⟩ :=
      (success.call.event.step_happens env _ _ _ (mem_trace member)).completes
    exact ⟨begun, records.executions, fun execution listed => (records.valid execution listed).time⟩
  · intro event timestamp world next execution ok
    exact (event.step_happens env timestamp world next ok).begins execution

namespace SamplePayouts

/-- A signature of an account is its lowest byte. -/
def surroundings : DepositoryEnv Unit where
  keccak256 := Abi.sampleHash
  chainId := 1
  isValidSignatureNow := fun _ signer _ signature => signature == [UInt8.ofNat signer.toNat]

def pay (target : Address) (allowFailure : Bool) : Depository.Call :=
  ⟨target, [], 10, allowFailure⟩

def outer : RelayDepository.CallRequest := ⟨[pay 50 false, pay 52 true], 1, 100⟩

def inner : RelayDepository.CallRequest := ⟨[pay 51 false], 2, 100⟩

def last : RelayDepository.CallRequest := ⟨[pay 53 false], 3, 100⟩

def minted : RelayGatewayDepository.CallRequest := ⟨Abi.sampleHash [7], [pay 54 false], 1, 100⟩

def attestation : Bytes :=
  Abi.bigEndian 4 0xff6fb334 ++ List.replicate 32 0 ++ Abi.bigEndian 4 1 ++ [7]

def submit (request : RelayDepository.CallRequest) (signature : Bytes)
    (callees : List (Callee Unit)) : DepositoryEvent Unit :=
  .execute 70 request signature () callees

/-- The first callee of the outer request executes the same request again, which reverts,
and the inner one; the second executes the last request and then fails, which is allowed.
The minter executes the inner request again, which reverts.  A call of the last request
fails, which is not allowed, then the allocator is replaced, and its
signature is accepted while the request has not expired. -/
def transactions : List (DepositoryTransaction Unit) :=
  [⟨5, submit outer [9]
      [.callee [submit outer [9] [], submit inner [9] []] true [],
        .callee [submit last [9] []] false []]⟩,
    ⟨6, .gatewayExecute 71 minted [9] attestation () (some false) (some true)
      (.callee [submit inner [9] []] true []) []⟩,
    ⟨7, submit last [9] [.callee [] false []]⟩,
    ⟨8, .setAllocator (.relay 70) 1 10⟩,
    ⟨9, submit last [9] []⟩,
    ⟨101, submit last [10] []⟩,
    ⟨10, submit last [10] []⟩]

/-- Owner 1 and allocator 9. -/
def depositories : DepositoryAt → Depository := fun _ => ⟨1, 9, fun _ => false⟩

end SamplePayouts

open SamplePayouts in
theorem depository_exactly_once_sample :
    let final := run (DepositoryTransaction.step surroundings) transactions
      (DepositoryWorld.start depositories)
    final.executions.map (fun execution => execution.request) =
        [.relay outer, .relay inner, .gateway minted, .relay last] ∧
      final.calls.map (fun made => (made.call.target, made.success)) =
        [(51, true), (50, true), (52, false), (54, true), (53, true)] ∧
      (final.executions.map fun execution =>
        (execution.depository, execution.request)).Nodup :=
  ⟨by decide +kernel, by decide +kernel,
    (depository_exactly_once surroundings depositories transactions).1⟩

end RelaySettlement
