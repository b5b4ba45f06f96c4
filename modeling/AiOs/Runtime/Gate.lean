import Mathlib.Data.List.Perm.Subperm
import AiOs.Runtime.Execution
import AiOs.Runtime.Terminal
import AiOs.Runtime.Failure

/-! The gate executes nothing without authorization. Every operation it retains is bound to
one request of the supervisor, every operation handed to it is executed at most once, and
every execution stands on a decision that was recorded in the same call. -/
namespace AiOs

open Fallible Account

section maps
variable {A O : Type}

namespace ExecutionGate

/-- The two maps of a gate invert each other. -/
def Inverse (gate : ExecutionGate A O) : Prop :=
  ∀ (approvalId : ApprovalId) (operationId : OperationId),
    gate.approvalIndex[approvalId]? = some operationId ↔
      ∃ pending : PendingExecution O,
        gate.pending[operationId]? = some pending ∧ pending.approvalId = approvalId

def retained (gate : ExecutionGate A O) : List (TaskId × O) :=
  gate.pending.toList.map (fun e => (e.2.taskId, e.2.operation))

structure Shrinks (gate after : ExecutionGate A O) : Prop where
  inverse : after.Inverse
  among : ∀ (operationId : OperationId) (pending : PendingExecution O),
    after.pending[operationId]? = some pending → gate.pending[operationId]? = some pending
  retained : after.retained.Subperm gate.retained

theorem Shrinks.refl {gate : ExecutionGate A O} (inverse : gate.Inverse) : Shrinks gate gate :=
  ⟨inverse, fun _ _ present => present, List.Subperm.refl _⟩

theorem Shrinks.trans {a b c : ExecutionGate A O} (first : Shrinks a b) (second : Shrinks b c) :
    Shrinks a c :=
  ⟨second.inverse, fun operationId pending present =>
    first.among operationId pending (second.among operationId pending present),
    second.retained.trans first.retained⟩

theorem Inverse.erase {gate : ExecutionGate A O} (inverse : gate.Inverse)
    {operationId : OperationId} {pending : PendingExecution O}
    (present : gate.pending[operationId]? = some pending) :
    ({ gate with
      pending := gate.pending.erase operationId
      approvalIndex := gate.approvalIndex.erase pending.approvalId } :
        ExecutionGate A O).Inverse :=
  OrdMap.Indexes.remove inverse present

theorem retained_erase {gate : ExecutionGate A O} {operationId : OperationId}
    {pending : PendingExecution O} (present : gate.pending[operationId]? = some pending)
    (index : OrdMap ApprovalId OperationId) :
    gate.retained.Perm ((pending.taskId, pending.operation) ::
      ({ gate with pending := gate.pending.erase operationId, approvalIndex := index } :
        ExecutionGate A O).retained) :=
  (OrdMap.toList_erase_perm present).map _

theorem Inverse.insert {gate : ExecutionGate A O} (inverse : gate.Inverse)
    {operationId : OperationId} (pending : PendingExecution O)
    (new : gate.pending[operationId]? = none)
    (unindexed : gate.approvalIndex[pending.approvalId]? = none) :
    ({ gate with
      pending := gate.pending.insert operationId pending
      approvalIndex := gate.approvalIndex.insert pending.approvalId operationId } :
        ExecutionGate A O).Inverse :=
  OrdMap.Indexes.admit inverse unindexed new

theorem shrinks_dropOperation {gate : ExecutionGate A O} (inverse : gate.Inverse)
    (operationId : OperationId) : Shrinks gate (gate.dropOperation operationId) := by
  unfold dropOperation
  split
  · rename_i pending present
    refine ⟨inverse.erase present, ?_, ?_⟩
    · intro other held there
      rw [OrdMap.get_erase] at there
      split at there
      · cases there
      · exact there
    · exact (List.sublist_cons_self _ _).subperm.trans (retained_erase present _).symm.subperm
  · exact .refl inverse

theorem shrinks_foldl {β : Type} {step : ExecutionGate A O → β → ExecutionGate A O}
    (shrinks : ∀ gate b, Inverse gate → Shrinks gate (step gate b)) (items : List β)
    {gate : ExecutionGate A O} (inverse : gate.Inverse) :
    Shrinks gate (items.foldl step gate) := by
  induction items generalizing gate with
  | nil => exact .refl inverse
  | cons item rest ih =>
    have first := shrinks gate item inverse
    exact first.trans (ih first.inverse)

theorem shrinks_removeTask {gate : ExecutionGate A O} (inverse : gate.Inverse)
    (taskId : TaskId) : Shrinks gate (gate.removeTask taskId) :=
  shrinks_foldl (fun _ operationId inverse => shrinks_dropOperation inverse operationId) _ inverse

theorem shrinks_purgeTerminal {S : Type} {gate : ExecutionGate A O} (inverse : gate.Inverse)
    (supervisor : TaskSupervisor S) : Shrinks gate (gate.purgeTerminal supervisor) :=
  shrinks_foldl (fun _ taskId inverse => shrinks_removeTask inverse taskId) _ inverse

end ExecutionGate

end maps

section calls
variable {S : Type} [LawfulEventStore S] {env : Env} {p after : Process S} {call : Call}

theorem Effect.pending_origin (effect : Effect env p call after) (id : ApprovalId)
    (pending : PendingOperation)
    (present : after.supervisor.pendingOperations[id]? = some pending) :
    p.supervisor.pendingOperations[id]? = some pending ∨ id = askedApproval env p := by
  cases effect with
  | idle quiet => exact .inl (by rw [← quiet.same]; exact present)
  | admits admits => cases admits; exact .inl present
  | launches _ launches => cases launches; exact .inl present
  | allows notes | refuses notes => cases notes; exact .inl present
  | asks asks =>
    cases asks
    rw [OrdMap.get_insert] at present
    split at present
    · rename_i same
      exact .inr same.symm
    · exact .inl present
  | grants grants =>
    cases grants
    rw [OrdMap.get_erase] at present
    split at present
    · cases present
    · exact .inl present
  | denies denies =>
    rw [denies.pending_erased, OrdMap.get_erase] at present
    split at present
    · cases present
    · exact .inl present
  | forgets forgets => exact .inl (by rw [forgets.same] at present; exact present)
  | consumes consumes => cases consumes; exact .inl present
  | finishes _ finishes =>
    obtain ⟨store, record, found, allowed, terminal, appended⟩ := finishes
    rename_i taskId next failure ends
    change (p.supervisor.invalidateApprovals taskId).pendingOperations[id]? = _ at present
    rw [TaskSupervisor.invalidateApprovals_eq, OrdMap.get_foldl_erase] at present
    split at present
    · cases present
    · exact .inl present

omit [LawfulEventStore S] in
theorem Revises.specs {tasks : OrdMap TaskId TaskRecord} (revises : Revises env p call tasks)
    (taskId : TaskId) (record : TaskRecord) (found : tasks[taskId]? = some record) :
    (∃ old, p.supervisor.tasks[taskId]? = some old ∧ old.spec = record.spec) ∨
      ∃ spec, call = .submit spec := by
  have changed : ∀ {owner : TaskId} {old new : TaskRecord},
      p.supervisor.tasks[owner]? = some old →
      (p.supervisor.tasks.insert owner new)[taskId]? = some record → old.spec = new.spec →
      ∃ old, p.supervisor.tasks[taskId]? = some old ∧ old.spec = record.spec := by
    intro owner old new there inserted same
    rw [OrdMap.get_insert] at inserted
    split at inserted
    · rename_i own
      subst own
      cases Option.some.inj inserted
      exact ⟨old, there, same⟩
    · exact ⟨record, inserted, rfl⟩
  cases revises with
  | same => exact .inl ⟨record, found, rfl⟩
  | admitted spec state submitted => exact .inr ⟨spec, submitted⟩
  | launched owner old start there startable => exact .inl (changed there found rfl)
  | moved owner old next there allowed resumed => exact .inl (changed there found rfl)

/-- What every call keeps of the requests and the specifications. -/
structure CallKeeps (env : Env) (p after : Process S) (call : Call) : Prop where
  ids : p.world.ids ≤ after.world.ids
  pending : ∀ (id : ApprovalId) (pending : PendingOperation),
    after.supervisor.pendingOperations[id]? = some pending →
      p.supervisor.pendingOperations[id]? = some pending ∨
        ∃ i, p.world.ids ≤ i ∧ env.uuid i = id.uuid
  specs : ∀ (taskId : TaskId) (record : TaskRecord),
    after.supervisor.tasks[taskId]? = some record →
      (∃ old, p.supervisor.tasks[taskId]? = some old ∧ old.spec = record.spec) ∨
        ∃ spec, call = .submit spec

theorem call_keeps (orderly : Orderly env p) (call : Call) :
    CallKeeps env p (call.run env p).2 call := by
  -- up to the effect, requests only go away and no Task is new
  apply orderly_rule (I := fun q => p.world.ids ≤ q.world.ids ∧
      (∀ (id : ApprovalId) (pending : PendingOperation),
        q.supervisor.pendingOperations[id]? = some pending →
          p.supervisor.pendingOperations[id]? = some pending) ∧
      ∀ (taskId : TaskId) (record : TaskRecord), q.supervisor.tasks[taskId]? = some record →
        ∃ old, p.supervisor.tasks[taskId]? = some old ∧ old.spec = record.spec)
    (J := fun q => CallKeeps env p q call) orderly call
  · rintro a b ⟨ids, pending, specs⟩ quiet
    refine ⟨Nat.le_trans ids quiet.moved.ids, ?_, ?_⟩
    · rw [quiet.same]
      exact pending
    · rw [quiet.same]
      exact specs
  · rintro a b id member _ ⟨ids, pending, specs⟩ closes
    have revises : Revises env a .expireApprovals b.supervisor.tasks := (closes.revises _).1
    refine ⟨?_, ?_, ?_⟩
    · cases closes
      exact ids
    · intro other held present
      rw [closes.pending_erased, OrdMap.get_erase] at present
      split at present
      · cases present
      · exact pending other held present
    · intro taskId record found
      rcases revises.specs taskId record found with ⟨old, there, same⟩ | ⟨_, submitted⟩
      · obtain ⟨oldest, found, kept⟩ := specs taskId old there
        exact ⟨oldest, found, kept.trans same⟩
      · cases submitted
  · rintro a b _ ⟨ids, pending, specs⟩ effect
    obtain ⟨accepted, moved⟩ := effect.moved
    refine ⟨Nat.le_trans ids moved.ids, ?_, ?_⟩
    · intro id held present
      rcases effect.pending_origin id held present with old | rfl
      · exact .inl (pending id held old)
      · exact .inr ⟨a.world.ids + 1, Nat.le_succ_of_le ids, rfl⟩
    · intro taskId record found
      rcases effect.revises.1.specs taskId record found with ⟨old, there, same⟩ | submitted
      · obtain ⟨oldest, found, kept⟩ := specs taskId old there
        exact .inl ⟨oldest, found, kept.trans same⟩
      · exact .inr submitted
  · exact ⟨Nat.le_refl _, fun _ _ present => present, fun _ record found => ⟨record, found, rfl⟩⟩

omit [LawfulEventStore S] in
theorem run_of_exec [EventStore S] {α : Type} (call : Call) {method : SupervisorM S α}
    {answer : Except Stop α} (performs : (call.perform env : SupervisorM S Unit) = discard method)
    (ran : exec method p = (answer, after)) : (call.run env p).2 = after := by
  rw [Call.run, performs, exec_discard, ran]

theorem ClosesAll.moved {p mid : Process S} {closed : List ApprovalId}
    (closes : ClosesAll p closed mid) : ∃ accepted, World.Moved p.world mid.world accepted := by
  induction closes with
  | nil => exact ⟨[], World.Moved.refl _⟩
  | cons first _ ih =>
    obtain ⟨accepted, later⟩ := ih
    cases first
    exact ⟨_, (World.moved_accepted _ _ _).trans later⟩

theorem PassLeads.moved {p mid : Process S} {closed : List ApprovalId}
    (leads : PassLeads env p mid closed) : ∃ accepted, World.Moved p.world mid.world accepted := by
  obtain ⟨_, closes⟩ := leads
  obtain ⟨accepted, moved⟩ := closes.moved
  exact ⟨_, (World.moved_tick _).trans moved⟩

/-- A request that was answered: the pass, and the decision after it. -/
theorem requestOperation_ok (orderly : Orderly env p) {taskId : TaskId}
    {request : CapabilityRequest} {ttl : Duration} {result : OperationAuthorization}
    (answered : exec (requestOperation env taskId request ttl) p = (.ok result, after)) :
    ∃ mid closed, PassLeads env p mid closed ∧ Orderly env mid ∧
      Decides env mid taskId request ttl result after := by
  rcases passed : exec (expireApprovals env) p with ⟨stop | count, mid⟩
  · rw [requestOperation, exec_bind_error passed] at answered
    cases answered
  · rw [requestOperation, exec_bind_ok passed] at answered
    obtain ⟨closed, leads, _⟩ := expireApprovals_ok env p passed
    have ready := orderly.passed env p passed
    have decides := requestAfterPass_cases env mid ready.authorityReady taskId request ttl
    rw [answered] at decides
    exact ⟨mid, closed, leads, ready, decides⟩

theorem requestOperation_asked (orderly : Orderly env p) {taskId : TaskId}
    {request : CapabilityRequest} {ttl : Duration} {approval : ApprovalRequest}
    (answered : exec (requestOperation env taskId request ttl) p =
      (.ok (.approvalRequired approval), after)) :
    ∃ i, p.world.ids ≤ i ∧ i + 2 ≤ after.world.ids ∧ approval.operationId = ⟨env.uuid i⟩ ∧
      approval.approvalId = ⟨env.uuid (i + 1)⟩ ∧
      after.supervisor.pendingOperations[approval.approvalId]? =
        some ⟨taskId, approval.operationId, request⟩ := by
  obtain ⟨mid, closed, leads, ready, decides⟩ := requestOperation_ok orderly answered
  obtain ⟨accepted, moved⟩ := leads.moved
  cases decides with
  | asked ids asks =>
    obtain ⟨approvalIs, _, operationIs⟩ := ids
    refine ⟨mid.world.ids, moved.ids, ?_, operationIs, approvalIs, ?_⟩
    · cases asks
      exact Nat.le_refl _
    · rw [approvalIs, operationIs]
      cases asks
      exact (OrdMap.get_insert _ _ _ _).trans (if_pos rfl)

/-- A request that was approved was in nobody else's hands: the pass did not touch it. -/
theorem approveOperation_ok (orderly : Orderly env p) {id : ApprovalId}
    {snapshot : TaskSnapshot}
    (answered : exec (approveOperation env id) p = (.ok snapshot, after)) :
    ∃ mid closed, PassLeads env p mid closed ∧ Orderly env mid ∧ Untouched p mid id ∧
      Grants env mid id after := by
  rcases passed : exec (expireApprovals env) p with ⟨stop | count, mid⟩
  · rw [approveOperation, exec_bind_error passed] at answered
    cases answered
  · rw [approveOperation, exec_bind_ok passed] at answered
    obtain ⟨closed, leads, _⟩ := expireApprovals_ok env p passed
    have ready := orderly.passed env p passed
    have cases := approveAfterPass_cases env mid ready.authorityReady id
    rw [answered] at cases
    obtain ⟨⟨pending, waiting, _⟩, grants⟩ := cases
    refine ⟨mid, closed, leads, ready, ?_, grants⟩
    rcases pass_processed orderly leads id with untouched | ⟨_, _, _, _, _, gone, _⟩
    · exact untouched
    · rw [waiting] at gone
      cases gone

end calls

section system
variable {S A O Output Err : Type} [LawfulEventStore S] [GuardedOperation O] {env : Env}

/-- Why an operation may be executed: its Task runs, and the policy of the Task's submitted
specification allows the operation, as recorded by the same call; or it asks for an approval,
which was requested, granted and consumed in this order, the last by the same call. The clock
was read right before this last event, and was before the deadline. -/
def Authorized (env : Env) (submitted : List (TaskId × TaskSpec)) (x : Execution S O) : Prop :=
  ∃ record policy, x.moment.supervisor.tasks[x.taskId]? = some record ∧
    record.state = .running ∧ (x.taskId, record.spec) ∈ submitted ∧
    CapabilityPolicy.fromTask record.spec = .ok policy ∧
    ((policy.evaluate (GuardedOperation.capabilityRequest x.operation) = .allow ∧
      (∃ older, x.moment.kinds x.taskId = older ++ [.operationAllowed]) ∧
      ∃ more, x.moment.world.batches =
        x.before.world.batches ++ more ++ [(x.taskId, [.operationAllowed])]) ∨
    (policy.evaluate (GuardedOperation.capabilityRequest x.operation) = .approvalRequired ∧
      ∃ id operationId entry reading,
        entries id (x.moment.kinds x.taskId) = [.approvalRequested id operationId,
          .approvalGranted id operationId, .approvalConsumed id operationId] ∧
        (∃ more, x.moment.world.batches = x.before.world.batches ++ more ++
          [(x.taskId, [.approvalConsumed id operationId])]) ∧
        x.before.supervisor.approvalAuthority.pending[id]? = some entry ∧
        x.before.world.reads ≤ reading ∧ reading + 1 = x.moment.world.reads ∧
        env.clock reading < entry.deadline))

/-- The history of submissions: the Tasks of the supervisor carry the specifications they were
submitted with, and no identifier was given to two of them. -/
structure Submissions (env : Env) (p : Process S) (submitted : List (TaskId × TaskSpec)) :
    Prop where
  specs : ∀ (taskId : TaskId) (record : TaskRecord),
    p.supervisor.tasks[taskId]? = some record → (taskId, record.spec) ∈ submitted
  known : ∀ e ∈ submitted, env.Known p.world.ids e.1.uuid
  once : (submitted.map Prod.fst).Nodup

namespace Submissions
variable {p : Process S} {submitted : List (TaskId × TaskSpec)}

theorem call (history : Submissions env p submitted) (orderly : Orderly env p) (call : Call)
    (other : ∀ spec, call ≠ .submit spec) :
    Submissions env (call.run env p).2 submitted := by
  have keeps := call_keeps orderly call
  refine ⟨?_, fun e member => (history.known e member).mono keeps.ids, history.once⟩
  intro taskId record found
  rcases keeps.specs taskId record found with ⟨old, there, same⟩ | ⟨spec, isSubmit⟩
  · rw [← same]
    exact history.specs taskId old there
  · exact absurd isSubmit (other spec)

omit [LawfulEventStore S] in
theorem reads (history : Submissions env p submitted) (reads : Nat) :
    Submissions env { p with world := { p.world with reads := reads } } submitted :=
  ⟨history.specs, history.known, history.once⟩

theorem submit (history : Submissions env p submitted) (fresh : Function.Injective env.uuid)
    (spec : TaskSpec) :
    Submissions env (exec (AiOs.submit env spec) p).2
      (submitted ++ submission spec (exec (AiOs.submit env spec) p).1) := by
  have cases := submit_cases env p spec
  generalize exec (AiOs.submit env spec) p = out at cases ⊢
  obtain ⟨stop | result, after⟩ := out
  · have quiet : Quiet p after := cases
    change Submissions env after (submitted ++ [])
    rw [List.append_nil]
    refine ⟨?_, fun e member => (history.known e member).mono quiet.moved.ids, history.once⟩
    rw [quiet.same]
    exact history.specs
  rcases cases with ⟨⟨task, rfl⟩, rfl⟩ | ⟨rfl, admits⟩
  · change Submissions env after (submitted ++ [])
    rw [List.append_nil]
    exact history
  obtain ⟨store, unused, room, appended⟩ := admits
  have created : submission spec (.ok (submitResult
      ⟨⟨env.uuid p.world.ids⟩, (submissionEvents spec.validate).1⟩ spec.validate)) =
        [(⟨env.uuid p.world.ids⟩, spec)] := by
    cases spec.validate <;> rfl
  rw [created]
  refine ⟨?_, ?_, ?_⟩
  · intro taskId record found
    rw [OrdMap.get_insert] at found
    split at found
    · rename_i same
      cases Option.some.inj found
      exact List.mem_append_right _ (List.mem_singleton.mpr (same ▸ rfl))
    · exact List.mem_append_left _ (history.specs taskId record found)
  · intro e member
    rcases List.mem_append.mp member with old | new
    · exact (history.known e old).mono (Nat.le_succ _)
    · rw [List.mem_singleton.mp new]
      exact env.known_generated fresh (Nat.lt_succ_self _)
  · rw [List.map_append, List.nodup_append]
    refine ⟨history.once, List.pairwise_singleton _ _, ?_⟩
    intro old oldMember new newMember same
    obtain ⟨e, member, rfl⟩ := List.mem_map.mp oldMember
    rw [List.mem_singleton.mp newMember] at same
    exact history.known e member _ (Nat.le_refl _) (congrArg Id.uuid same).symm

end Submissions

/-- Every retained operation is known under generated identifiers, and the request that the
supervisor keeps under its approval is the request of this operation. -/
structure Bound (env : Env) (p : Process S) (gate : ExecutionGate A O) : Prop where
  known : ∀ (operationId : OperationId) (pending : PendingExecution O),
    gate.pending[operationId]? = some pending →
      env.Known p.world.ids operationId.uuid ∧ env.Known p.world.ids pending.approvalId.uuid
  binds : ∀ (operationId : OperationId) (pending : PendingExecution O)
    (retained : PendingOperation), gate.pending[operationId]? = some pending →
    p.supervisor.pendingOperations[pending.approvalId]? = some retained →
      retained = ⟨pending.taskId, operationId,
        GuardedOperation.capabilityRequest pending.operation⟩

namespace Bound
variable {p : Process S} {gate after : ExecutionGate A O}

theorem call (bound : Bound env p gate) (orderly : Orderly env p) (call : Call) :
    Bound env (call.run env p).2 gate := by
  have keeps := call_keeps orderly call
  constructor
  · intro operationId pending present
    exact ⟨(bound.known operationId pending present).1.mono keeps.ids,
      (bound.known operationId pending present).2.mono keeps.ids⟩
  · intro operationId pending retained present there
    rcases keeps.pending _ retained there with old | ⟨i, future, same⟩
    · exact bound.binds operationId pending retained present old
    · exact absurd same ((bound.known operationId pending present).2 i future)

omit [LawfulEventStore S] in
theorem reads (bound : Bound env p gate) (reads : Nat) :
    Bound env { p with world := { p.world with reads := reads } } gate :=
  ⟨bound.known, bound.binds⟩

omit [LawfulEventStore S] in
theorem among (bound : Bound env p gate) (among : ∀ (operationId : OperationId)
    (pending : PendingExecution O), after.pending[operationId]? = some pending →
      gate.pending[operationId]? = some pending) : Bound env p after :=
  ⟨fun operationId pending present => bound.known operationId pending (among _ _ present),
    fun operationId pending retained present =>
      bound.binds operationId pending retained (among _ _ present)⟩

omit [LawfulEventStore S] in
theorem insert (bound : Bound env p gate) {operationId : OperationId}
    (pending : PendingExecution O) (index : OrdMap ApprovalId OperationId)
    (known : env.Known p.world.ids operationId.uuid ∧
      env.Known p.world.ids pending.approvalId.uuid)
    (asked : p.supervisor.pendingOperations[pending.approvalId]? = some
      ⟨pending.taskId, operationId, GuardedOperation.capabilityRequest pending.operation⟩) :
    Bound env p { gate with
      pending := gate.pending.insert operationId pending, approvalIndex := index } := by
  constructor
  · intro other kept present
    rw [OrdMap.get_insert] at present
    split at present
    · rename_i same
      cases Option.some.inj present
      exact same ▸ known
    · exact bound.known other kept present
  · intro other kept retained present there
    rw [OrdMap.get_insert] at present
    split at present
    · rename_i same
      cases Option.some.inj present
      exact same ▸ Option.some.inj (there.symm.trans asked)
    · exact bound.binds other kept retained present there

end Bound

/-- A gate in front of a supervisor, which may have other users. -/
structure Attached (env : Env) (p : Process S) (gate : ExecutionGate A O) : Prop where
  orderly : Orderly env p
  inverse : gate.Inverse
  bound : Bound env p gate

namespace Attached
variable {p after : Process S} {gate fewer : ExecutionGate A O}

theorem call (attached : Attached env p gate) (fresh : Function.Injective env.uuid)
    (call : Call) : Attached env (call.run env p).2 gate :=
  ⟨attached.orderly.call fresh call, attached.inverse, attached.bound.call attached.orderly call⟩

theorem method {α : Type} (attached : Attached env p gate) (fresh : Function.Injective env.uuid)
    (call : Call) {method : SupervisorM S α}
    (performs : (call.perform env : SupervisorM S Unit) = discard method) :
    Attached env (exec method p).2 gate := by
  have called := attached.call fresh call
  rw [run_of_exec call performs (Prod.eta _).symm] at called
  exact called

omit [LawfulEventStore S] in
theorem reads (attached : Attached env p gate) (reads : Nat) :
    Attached env { p with world := { p.world with reads := reads } } gate :=
  ⟨⟨attached.orderly.registry, attached.orderly.records⟩, attached.inverse,
    attached.bound.reads reads⟩

omit [LawfulEventStore S] in
theorem shrink (attached : Attached env p gate) (shrinks : gate.Shrinks fewer) :
    Attached env p fewer :=
  ⟨attached.orderly, shrinks.inverse, attached.bound.among shrinks.among⟩

omit [LawfulEventStore S] in
theorem adapter (attached : Attached env p gate) (adapter : A) :
    Attached env p { gate with adapter := adapter } :=
  ⟨attached.orderly, attached.inverse, ⟨attached.bound.known, attached.bound.binds⟩⟩

omit [LawfulEventStore S] in
theorem unused (attached : Attached env p gate) {i : Nat} (future : p.world.ids ≤ i) :
    gate.pending[(⟨env.uuid i⟩ : OperationId)]? = none ∧
      gate.approvalIndex[(⟨env.uuid i⟩ : ApprovalId)]? = none := by
  constructor
  · cases present : gate.pending[(⟨env.uuid i⟩ : OperationId)]? with
    | none => rfl
    | some pending => exact absurd rfl ((attached.bound.known _ pending present).1 i future)
  · cases indexed : gate.approvalIndex[(⟨env.uuid i⟩ : ApprovalId)]? with
    | none => rfl
    | some operationId =>
      obtain ⟨pending, present, owner⟩ := (attached.inverse _ operationId).mp indexed
      exact absurd (congrArg Id.uuid owner).symm
        ((attached.bound.known operationId pending present).2 i future)

end Attached

/-- The invariant of the system. The running method of the gate may hold an operation that is
neither retained nor executed. -/
structure Guarded (env : Env) (σ : System S A O) (held : List (TaskId × O)) : Prop where
  coherent : Coherent env σ.process
  inverse : σ.gate.Inverse
  bound : Bound env σ.process σ.gate
  linear : (σ.executed.map (fun x => (x.taskId, x.operation)) ++ σ.gate.retained ++ held).Subperm
    σ.requested
  submissions : Submissions env σ.process σ.submitted
  authorized : ∀ x ∈ σ.executed, Authorized env σ.submitted x

theorem Coherent.reads {p : Process S} (coherent : Coherent env p) (reads : Nat) :
    Coherent env { p with world := { p.world with reads := reads } } :=
  ⟨coherent.registry, coherent.records, coherent.granted, coherent.logs, coherent.ledger⟩

namespace Guarded
variable {σ : System S A O} {held : List (TaskId × O)}

theorem release (guarded : Guarded env σ held) : Guarded env σ [] :=
  { guarded with
    linear := by
      rw [List.append_nil]
      exact (List.sublist_append_left _ held).subperm.trans guarded.linear }

theorem handOver (guarded : Guarded env σ []) (taskId : TaskId) (operation : O) :
    Guarded env { σ with requested := σ.requested ++ [(taskId, operation)] }
      [(taskId, operation)] :=
  { guarded with
    linear := by
      have linear := guarded.linear
      rw [List.append_nil] at linear
      exact (List.subperm_append_right _).mpr linear }

theorem shrink (guarded : Guarded env σ held) {gate : ExecutionGate A O}
    (shrinks : σ.gate.Shrinks gate) : Guarded env { σ with gate := gate } held :=
  { guarded with
    inverse := shrinks.inverse
    bound := guarded.bound.among shrinks.among
    linear := by
      refine List.Subperm.trans ?_ guarded.linear
      rw [List.append_assoc, List.append_assoc]
      exact (List.subperm_append_left _).mpr ((List.subperm_append_right _).mpr shrinks.retained) }

theorem call (guarded : Guarded env σ held) (fresh : Function.Injective env.uuid) (call : Call)
    (other : ∀ spec, call ≠ .submit spec) :
    Guarded env { σ with process := (call.run env σ.process).2 } held := by
  exact { guarded with
    coherent := guarded.coherent.call fresh call
    bound := guarded.bound.call guarded.coherent.orderly call
    submissions := guarded.submissions.call guarded.coherent.orderly call other }

theorem elapse (guarded : Guarded env σ held) (reads : Nat) :
    Guarded env { σ with process := { σ.process with
      world := { σ.process.world with reads := reads } } } held :=
  { guarded with
    coherent := guarded.coherent.reads reads
    bound := guarded.bound.reads reads
    submissions := guarded.submissions.reads reads }

theorem submit (guarded : Guarded env σ held) (fresh : Function.Injective env.uuid)
    (spec : TaskSpec) : Guarded env (σ.direct env (.submit spec)) held := by
  exact { guarded with
    coherent := guarded.coherent.call fresh (.submit spec)
    bound := guarded.bound.call guarded.coherent.orderly (.submit spec)
    submissions := by
      have same : (Call.run env (.submit spec) σ.process).2 =
          (exec (AiOs.submit env spec) σ.process).2 := run_of_exec (.submit spec) rfl rfl
      change Submissions env (Call.run env (.submit spec) σ.process).2 _
      rw [same]
      exact guarded.submissions.submit fresh spec
    authorized := by
      intro x member
      obtain ⟨record, policy, found, running, submitted, rest⟩ := guarded.authorized x member
      exact ⟨record, policy, found, running, List.mem_append_left _ submitted, rest⟩ }

theorem retain {taskId : TaskId} {operation : O}
    (guarded : Guarded env σ [(taskId, operation)]) {operationId : OperationId}
    {approvalId : ApprovalId} (new : σ.gate.pending[operationId]? = none)
    (unindexed : σ.gate.approvalIndex[approvalId]? = none)
    (known : env.Known σ.process.world.ids operationId.uuid ∧
      env.Known σ.process.world.ids approvalId.uuid)
    (asked : σ.process.supervisor.pendingOperations[approvalId]? =
      some ⟨taskId, operationId, GuardedOperation.capabilityRequest operation⟩) :
    Guarded env { σ with gate := { σ.gate with
      pending := σ.gate.pending.insert operationId ⟨taskId, approvalId, operation⟩
      approvalIndex := σ.gate.approvalIndex.insert approvalId operationId } } [] :=
  { guarded with
    inverse := guarded.inverse.insert ⟨taskId, approvalId, operation⟩ new unindexed
    bound := guarded.bound.insert ⟨taskId, approvalId, operation⟩ _ known asked
    linear := by
      have added := (OrdMap.toList_insert_perm
        (⟨taskId, approvalId, operation⟩ : PendingExecution O) new).map
          (fun e => (e.2.taskId, e.2.operation))
      refine List.Subperm.trans (List.Perm.subperm ?_) guarded.linear
      rw [List.append_nil, List.append_assoc]
      refine List.Perm.append_left _ (added.trans ?_)
      exact (List.perm_append_singleton _ _).symm }

theorem take (guarded : Guarded env σ []) {approvalId : ApprovalId} {operationId : OperationId}
    (indexed : σ.gate.approvalIndex[approvalId]? = some operationId)
    {pending : PendingExecution O} (present : σ.gate.pending[operationId]? = some pending) :
    Guarded env { σ with gate := (σ.gate.removePending approvalId operationId).2 }
      [(pending.taskId, pending.operation)] := by
  obtain ⟨found, there, rfl⟩ := (guarded.inverse approvalId operationId).mp indexed
  cases Option.some.inj (present.symm.trans there)
  have among : ∀ (other : OperationId) (kept : PendingExecution O),
      (σ.gate.pending.erase operationId)[other]? = some kept →
        σ.gate.pending[other]? = some kept := by
    intro other kept left
    rw [OrdMap.get_erase] at left
    split at left
    · cases left
    · exact left
  exact { guarded with
    inverse := guarded.inverse.erase present
    bound := guarded.bound.among among
    linear := by
      refine List.Subperm.trans (List.Perm.subperm ?_) guarded.linear
      have taken := ExecutionGate.retained_erase present
        (σ.gate.approvalIndex.erase pending.approvalId)
      rw [List.append_nil, List.append_assoc]
      exact List.Perm.append_left _ ((List.perm_append_singleton _ _).trans taken.symm) }

theorem execute [ExecutionAdapter A O Output Err] {taskId : TaskId} {operation : O}
    (guarded : Guarded env σ [(taskId, operation)]) (before : Process S)
    (allowed : Authorized env σ.submitted ⟨taskId, operation, before, σ.process⟩) :
    Guarded env (σ.executing env before taskId operation) [] :=
  { guarded with
    coherent := guarded.coherent.reads _
    bound := { guarded.bound.reads _ with }
    submissions := guarded.submissions.reads _
    linear := by
      refine List.Subperm.trans (List.Perm.subperm ?_) guarded.linear
      change (List.map _ (σ.executed ++ _) ++ σ.gate.retained ++ []).Perm _
      rw [List.map_append, List.append_nil, List.append_assoc, List.append_assoc]
      exact List.Perm.append_left _ List.perm_append_comm
    authorized := by
      intro x member
      rcases List.mem_append.mp member with old | last
      · exact guarded.authorized x old
      · rw [List.mem_singleton.mp last]
        exact allowed }

end Guarded

section methods
variable [ExecutionAdapter A O Output Err] {β : Type} {σ : System S A O}
  {P : Except (GateStop Err) β × System S A O → Prop}

omit [LawfulEventStore S] [GuardedOperation O] [ExecutionAdapter A O Output Err] in
theorem supervised_rule {α : Type} {method : SupervisorM S α} {f : α → GateM S A O Err β}
    (failed : ∀ stop after out, exec method σ.process = (.error stop, after) →
      P (.error out, { σ with process := after }))
    (answered : ∀ value after, exec method σ.process = (.ok value, after) →
      P (exec (f value) { σ with process := after })) :
    P (exec (supervised method >>= f) σ) := by
  rcases ran : exec method σ.process with ⟨(error | message) | value, after⟩
  · have step : exec (supervised method : GateM S A O Err α) σ =
        (.error (.err (.supervisor error)), { σ with process := after }) := by
      simp only [supervised, exec_bind, exec_modifyGet, ran, exec_throw]
    rw [exec_bind_error step]
    exact failed _ _ _ ran
  · have step : exec (supervised method : GateM S A O Err α) σ =
        (.error (.panic message), { σ with process := after }) := by
      simp only [supervised, exec_bind, exec_modifyGet, ran, exec_throw]
    rw [exec_bind_error step]
    exact failed _ _ _ ran
  · have step : exec (supervised method : GateM S A O Err α) σ =
        (.ok value, { σ with process := after }) := by
      simp only [supervised, exec_bind, exec_modifyGet, ran, exec_pure]
    rw [exec_bind_ok step]
    exact answered value after ran

omit [LawfulEventStore S] [GuardedOperation O] in
theorem callAdapter_rule {before : Process S} {taskId : TaskId} {operation : O}
    {f : Output → GateM S A O Err β}
    (failed : ∀ error, P (.error error, σ.executing env before taskId operation))
    (done : ∀ output, P (exec (f output) (σ.executing env before taskId operation))) :
    P (exec (callAdapter env before taskId operation >>= f) σ) := by
  rcases answered : (ExecutionAdapter.execute env.clock σ.gate.adapter operation
    σ.process.world.reads).1 with error | output
  · have step : exec (callAdapter env before taskId operation : GateM S A O Err Output) σ =
        (.error (.err (.adapter error)), σ.executing env before taskId operation) := by
      simp only [callAdapter, exec_bind, exec_modifyGet, answered, exec_throw]
    rw [exec_bind_error step]
    exact failed _
  · have step : exec (callAdapter env before taskId operation : GateM S A O Err Output) σ =
        (.ok output, σ.executing env before taskId operation) := by
      simp only [callAdapter, exec_bind, exec_modifyGet, answered, exec_pure]
    rw [exec_bind_ok step]
    exact done output

end methods

/-- The decision of an allowed request authorizes its execution. -/
theorem authorized_allowed {p mid after : Process S} {closed : List ApprovalId}
    (leads : PassLeads env p mid closed) {taskId : TaskId} {operation : O}
    (noted : Notes mid taskId (GuardedOperation.capabilityRequest operation) .allow
      .operationAllowed after) {submitted : List (TaskId × TaskSpec)}
    (specs : ∀ (taskId : TaskId) (record : TaskRecord),
      after.supervisor.tasks[taskId]? = some record → (taskId, record.spec) ∈ submitted) :
    Authorized env submitted ⟨taskId, operation, p, after⟩ := by
  obtain ⟨store, record, found, running, valid, decided, appended⟩ := noted
  obtain ⟨accepted, moved⟩ := leads.moved
  refine ⟨record, ⟨record.spec, valid⟩, found, running, specs taskId record found,
    CapabilityPolicy.fromTask_valid valid, .inl ⟨decided, ⟨_, appended.grown.own⟩, accepted, ?_⟩⟩
  rw [(World.moved_accepted _ _ _).batches, moved.batches]

/-- The grant and its consumption authorize the execution of the operation that asked. -/
theorem authorized_consumed {p mid granted after : Process S} {closed : List ApprovalId}
    (leads : PassLeads env p mid closed) {id : ApprovalId} (untouched : Untouched p mid id)
    {taskId : TaskId} {operationId : OperationId} {operation : O}
    (bound : ∀ pending, p.supervisor.pendingOperations[id]? = some pending →
      pending = ⟨taskId, operationId, GuardedOperation.capabilityRequest operation⟩)
    (grants : Grants env mid id granted) (coherent : Coherent env granted)
    {receipt : ApprovalReceipt}
    (consumes : Consumes env granted taskId operationId
      (GuardedOperation.capabilityRequest operation) receipt after)
    {submitted : List (TaskId × TaskSpec)}
    (specs : ∀ (taskId : TaskId) (record : TaskRecord),
      after.supervisor.tasks[taskId]? = some record → (taskId, record.spec) ∈ submitted) :
    Authorized env submitted ⟨taskId, operation, p, after⟩ := by
  obtain ⟨accepted, moved⟩ := leads.moved
  obtain ⟨store, pending, asked, entry, waiting, _, _, registered, _, _⟩ := grants
  cases bound pending (untouched.pending.symm.trans waiting)
  obtain ⟨store, record, approved, found, running, held, owner, exact, valid, decided, early, scope,
    issued, appended⟩ := consumes
  -- the grant that is consumed is the one just made
  have grant : approved = ⟨taskId, GuardedOperation.capabilityRequest operation,
      grantOf id entry⟩ := by
    rw [OrdMap.get_insert, if_pos rfl] at held
    exact (Option.some.inj held).symm
  subst grant
  have settled := coherent.ledger.granted operationId _ held
  have complete := settled.move appended.grown
  let granting := (taskId, grantedEvents id
    ⟨taskId, operationId, GuardedOperation.capabilityRequest operation⟩ asked.state)
  refine ⟨record, ⟨record.spec, valid⟩, found, running, specs taskId record found,
    CapabilityPolicy.fromTask_valid valid, .inr ⟨decided, id, operationId, entry,
      mid.world.reads + 1, ?_, ⟨accepted ++ [granting], ?_⟩, untouched.registered.symm.trans registered, ?_,
      rfl, early⟩⟩
  · have here := complete.here
    rw [entries_single rfl (by simp), if_pos rfl] at here
    exact here
  · rw [((World.moved_tick _).trans (World.moved_accepted _ _ _)).batches,
      ((World.moved_tick _).trans (World.moved_accepted _ _ _)).batches, moved.batches]
    simp only [granting, List.append_assoc, List.nil_append]
    rfl
  · exact Nat.le_succ_of_le moved.reads

section invariant
variable [ExecutionAdapter A O Output Err] {σ : System S A O}

namespace Guarded

theorem supervised {α : Type} {held : List (TaskId × O)} (guarded : Guarded env σ held)
    (fresh : Function.Injective env.uuid) (call : Call) {method : SupervisorM S α}
    (performs : (call.perform env : SupervisorM S Unit) = discard method)
    (other : ∀ spec, call ≠ .submit spec) {answer : Except Stop α} {after : Process S}
    (ran : exec method σ.process = (answer, after)) :
    Guarded env { σ with process := after } held := by
  have called := guarded.call fresh call other
  rw [run_of_exec call performs ran] at called
  exact called

theorem attached {held : List (TaskId × O)} (guarded : Guarded env σ held) :
    Attached env σ.process σ.gate :=
  ⟨guarded.coherent.orderly, guarded.inverse, guarded.bound⟩

theorem request (guarded : Guarded env σ []) (fresh : Function.Injective env.uuid)
    (taskId : TaskId) (operation : O) (ttl : Duration) :
    Guarded env (exec (ExecutionGate.request env taskId operation ttl :
      GateM S A O Err (ExecutionOutcome Output)) σ).2 [] := by
  have handed := guarded.handOver taskId operation
  unfold ExecutionGate.request
  rw [exec_bind_ok (exec_currentSystem σ), exec_bind_ok (exec_handOver taskId operation σ)]
  apply supervised_rule (P := fun out => Guarded env out.2 [])
  · intro stop after out ran
    exact (handed.supervised fresh (.requestOperation _ _ _) rfl nofun ran).release
  intro result after ran
  have called := handed.supervised fresh (.requestOperation _ _ _) rfl nofun ran
  obtain ⟨mid, closed, leads, ready, decides⟩ := requestOperation_ok guarded.coherent.orderly ran
  cases decides with
  | allowed noted =>
    have authorized := authorized_allowed leads noted called.submissions.specs
    apply callAdapter_rule (P := fun out => Guarded env out.2 [])
    · exact fun _ => called.execute _ authorized
    · exact fun _ => called.execute _ authorized
  | denied noted => exact called.release
  | @asked approval _ _ _ =>
    obtain ⟨i, future, used, operationIs, approvalIs, asked⟩ :=
      requestOperation_asked guarded.coherent.orderly ran
    have newOperation : σ.gate.pending[approval.operationId]? = none := by
      rw [operationIs]
      exact (guarded.attached.unused future).1
    have newApproval : σ.gate.approvalIndex[approval.approvalId]? = none := by
      rw [approvalIs]
      exact (guarded.attached.unused (Nat.le_succ_of_le future)).2
    apply modifyGet_rule (P := fun out => Guarded env out.2 [])
    apply modifyGet_rule (P := fun out => Guarded env out.2 [])
    apply ensure_rule (P := fun out => Guarded env out.2 [])
    · intro taken
      rw [newOperation] at taken
      cases taken
    intro _
    apply called.retain newOperation newApproval
    · rw [approvalIs, operationIs]
      exact ⟨env.known_generated fresh (Nat.lt_of_succ_lt used), env.known_generated fresh used⟩
    · exact asked

theorem approveAndExecute (guarded : Guarded env σ []) (fresh : Function.Injective env.uuid)
    (approvalId : ApprovalId) :
    Guarded env (exec (ExecutionGate.approveAndExecute env approvalId :
      GateM S A O Err (Executed Output)) σ).2 [] := by
  unfold ExecutionGate.approveAndExecute
  rw [exec_bind_ok (exec_currentSystem σ)]
  apply okOr_rule (P := fun out => Guarded env out.2 [])
  · exact fun _ => guarded
  intro operationId indexed
  apply ensure_rule (P := fun out => Guarded env out.2 [])
  · exact fun _ => guarded
  intro _
  apply supervised_rule (P := fun out => Guarded env out.2 [])
  · intro stop after out ran
    exact guarded.supervised fresh (.approveOperation _) rfl nofun ran
  intro snapshot granted ran
  have approved := guarded.supervised fresh (.approveOperation _) rfl nofun ran
  obtain ⟨mid, closed, leads, ready, untouched, grants⟩ :=
    approveOperation_ok guarded.coherent.orderly ran
  obtain ⟨pending, present, owner⟩ := (guarded.inverse approvalId operationId).mp indexed
  have taken := approved.take indexed present
  apply modifyGet_rule (P := fun out => Guarded env out.2 [])
  apply okOr_rule (P := fun out => Guarded env out.2 [])
  · exact fun _ => taken.release
  intro removed found
  cases Option.some.inj (present.symm.trans found)
  apply supervised_rule (P := fun out => Guarded env out.2 [])
  · intro stop after out ran
    exact (taken.supervised fresh (.authorizeOperation _ _ _) rfl nofun ran).release
  intro receipt after ran
  have used := taken.supervised fresh (.authorizeOperation _ _ _) rfl nofun ran
  have consumes := authorizeOperation_cases env granted pending.taskId operationId
    (GuardedOperation.capabilityRequest pending.operation)
  rw [ran] at consumes
  have bound : ∀ request, σ.process.supervisor.pendingOperations[approvalId]? = some request →
      request = ⟨pending.taskId, operationId,
        GuardedOperation.capabilityRequest pending.operation⟩ := by
    intro request waiting
    exact guarded.bound.binds operationId pending request present (owner ▸ waiting)
  have authorized := authorized_consumed leads untouched bound grants approved.coherent consumes
    used.submissions.specs
  apply callAdapter_rule (P := fun out => Guarded env out.2 [])
  · exact fun _ => used.execute _ authorized
  · exact fun _ => used.execute _ authorized

theorem deny (guarded : Guarded env σ []) (fresh : Function.Injective env.uuid)
    (approvalId : ApprovalId) :
    Guarded env (exec (ExecutionGate.deny env approvalId : GateM S A O Err TaskSnapshot) σ).2
      [] := by
  unfold ExecutionGate.deny
  rw [exec_bind_ok (exec_currentSystem σ)]
  apply okOr_rule (P := fun out => Guarded env out.2 [])
  · exact fun _ => guarded
  intro operationId indexed
  apply supervised_rule (P := fun out => Guarded env out.2 [])
  · intro stop after out ran
    exact guarded.supervised fresh (.denyOperation _) rfl nofun ran
  intro snapshot after ran
  have denied := guarded.supervised fresh (.denyOperation _) rfl nofun ran
  obtain ⟨pending, present, owner⟩ := (guarded.inverse approvalId operationId).mp indexed
  exact (denied.take indexed present).release

theorem expire (guarded : Guarded env σ []) (fresh : Function.Injective env.uuid) :
    Guarded env (exec (ExecutionGate.expire env : GateM S A O Err Nat) σ).2 [] := by
  unfold ExecutionGate.expire
  apply supervised_rule (P := fun out => Guarded env out.2 [])
  · intro stop after out ran
    exact guarded.supervised fresh .expireApprovals rfl nofun ran
  intro count after ran
  have passed := guarded.supervised fresh .expireApprovals rfl nofun ran
  exact passed.shrink (ExecutionGate.shrinks_purgeTerminal guarded.inverse _)

theorem cancel (guarded : Guarded env σ []) (fresh : Function.Injective env.uuid)
    (taskId : TaskId) :
    Guarded env (exec (ExecutionGate.cancel env taskId : GateM S A O Err Bool) σ).2 [] := by
  unfold ExecutionGate.cancel
  apply supervised_rule (P := fun out => Guarded env out.2 [])
  · intro stop after out ran
    exact guarded.supervised fresh (.cancel taskId) rfl nofun ran
  intro changed after ran
  have cancelled := guarded.supervised fresh (.cancel taskId) rfl nofun ran
  exact cancelled.shrink (ExecutionGate.shrinks_removeTask guarded.inverse taskId)

theorem direct (guarded : Guarded env σ []) (fresh : Function.Injective env.uuid) (call : Call) :
    Guarded env (σ.direct env call) [] := by
  cases call with
  | submit spec => exact guarded.submit fresh spec
  | start taskId =>
    have called := guarded.call fresh (.start taskId) nofun
    unfold System.direct
    dsimp only
    split
    · exact { called with }
    · exact called
  | startExecution taskId =>
    have called := guarded.call fresh (.startExecution taskId) nofun
    unfold System.direct
    dsimp only
    split
    · exact { called with }
    · exact called
  | _ => exact guarded.call fresh _ nofun

theorem run (guarded : Guarded env σ []) (fresh : Function.Injective env.uuid) (act : Act O) :
    Guarded env (σ.run env act) [] := by
  cases act with
  | request taskId operation ttl => exact guarded.request fresh taskId operation ttl
  | approveAndExecute approvalId => exact guarded.approveAndExecute fresh approvalId
  | deny approvalId => exact guarded.deny fresh approvalId
  | expire => exact guarded.expire fresh
  | cancel taskId => exact guarded.cancel fresh taskId
  | direct call => exact guarded.direct fresh call
  | elapse => exact guarded.elapse _

end Guarded

namespace System

/-- A new gate in front of a supervisor that has no Task yet. -/
def start (process : Process S) (adapter : A) : System S A O :=
  ⟨process, .new adapter, [], [], [], []⟩

/-- The runs of one gate and one supervisor, which may be new or restarted. -/
inductive Reached (env : Env) : System S A O → Prop where
  | start {process : Process S} (reached : Daemon.Reached env Daemon.Anything (.up process))
      (empty : process.supervisor.tasks = ∅) (adapter : A) : Reached env (start process adapter)
  | step {σ : System S A O} (reached : Reached env σ) (act : Act O) : Reached env (σ.run env act)

theorem Reached.guarded (fresh : Function.Injective env.uuid) (reached : Reached env σ) :
    Guarded env σ [] := by
  induction reached with
  | @start process reached empty adapter =>
    have nothing (taskId : TaskId) : process.supervisor.tasks[taskId]? = none := by
      rw [empty]
      exact Std.ExtTreeMap.getElem?_empty
    refine ⟨reached.sound fresh, ?_, ⟨?_, ?_⟩, List.Subperm.refl [], ⟨?_, ?_, List.nodup_nil⟩, ?_⟩
    · intro approvalId operationId
      constructor
      · intro indexed
        cases indexed
      · rintro ⟨pending, present, _⟩
        cases present
    · intro operationId pending present
      cases present
    · intro operationId pending retained present
      cases present
    · intro taskId record found
      cases (nothing taskId).symm.trans found
    · intro e member
      cases member
    · intro x member
      cases member
  | step _ act ih => exact ih.run fresh act

theorem Reached.runAll (reached : Reached env σ) (acts : List (Act O)) :
    Reached env (σ.runAll env acts) := by
  induction acts generalizing σ with
  | nil => exact reached
  | cons act rest ih => exact ih (reached.step act)

/-- Execution soundness: whatever the calls, every operation given to the adapter had been
authorized for its running Task, no operation is executed more often than it was handed
over, and the maps of the gate stay inverse. A Task has one submitted specification. -/
theorem executions_authorized (fresh : Function.Injective env.uuid) (reached : Reached env σ) :
    (∀ x ∈ σ.executed, Authorized env σ.submitted x) ∧ (σ.submitted.map Prod.fst).Nodup ∧
      (σ.executed.map (fun x => (x.taskId, x.operation))).Subperm σ.requested ∧
      σ.gate.Inverse := by
  have guarded := reached.guarded fresh
  refine ⟨guarded.authorized, guarded.submissions.once, ?_, guarded.inverse⟩
  have linear := guarded.linear
  rw [List.append_nil] at linear
  exact (List.sublist_append_left _ _).subperm.trans linear

end System

end invariant

end system

namespace Sample

structure Order where
  request : CapabilityRequest
  deriving DecidableEq, Repr

instance : GuardedOperation Order := ⟨Order.request⟩

structure Recorder where
  orders : List Order
  deriving DecidableEq, Repr

instance : ExecutionAdapter Recorder Order Unit Empty :=
  ⟨fun _ recorder order reads => (.ok (), ⟨recorder.orders ++ [order]⟩, reads)⟩

def system (acts : List (Act Order)) : System InMemoryEventStore Recorder Order :=
  (System.start ⟨Daemon.start, .new (store 20)⟩ ⟨[]⟩).runAll Sample.env acts

theorem system_reached (acts : List (Act Order)) : (system acts).Reached Sample.env :=
  System.Reached.runAll (.start (Daemon.reached_new _ _ (store_empty 20)) rfl _) acts

end Sample

set_option maxRecDepth 4000 in
/-- An operation that waited for its approval is executed once and can be requested again. -/
theorem executions_authorized_approved :
    let σ := Sample.system [.direct (.submit Sample.spec), .direct (.start ⟨0⟩),
      .request ⟨0⟩ ⟨Sample.push⟩ (10 ^ 9), .approveAndExecute ⟨2⟩,
      .request ⟨0⟩ ⟨Sample.push⟩ (10 ^ 9)]
    ((∀ x ∈ σ.executed, Authorized Sample.env σ.submitted x) ∧
      (σ.submitted.map Prod.fst).Nodup ∧
      (σ.executed.map (fun x => (x.taskId, x.operation))).Subperm σ.requested ∧
      σ.gate.Inverse) ∧
    σ.executed.map (fun x => (x.taskId, x.operation)) = [(⟨0⟩, ⟨Sample.push⟩)] ∧
      σ.gate.pendingCount = 1 :=
  ⟨System.executions_authorized Sample.uuid_injective (Sample.system_reached _),
    by decide +kernel⟩

end AiOs
