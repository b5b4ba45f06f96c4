import AiOs.Runtime.Supervisor

/-! What each method of the supervisor can do, said once. Every method has one case lemma:
the ways it ends, what was checked on the way, and the exact process it leaves. Later
proofs use these cases and never unfold a method. -/
namespace AiOs

open Fallible

structure Appended {S : Type} [LawfulEventStore S] (store after : S) (taskId : TaskId)
    (kinds : List TaskEventKind) : Prop where
  grows : LogGrows (LawfulEventStore.log store) (LawfulEventStore.log after) taskId kinds
  capacity : LawfulEventStore.capacity after = LawfulEventStore.capacity store
  room : kinds ≠ [] → (LawfulEventStore.log store taskId).length + kinds.length ≤
    LawfulEventStore.capacity store

namespace World

def record (w : World) (taskId : TaskId) (kinds : List TaskEventKind) (accepted : Bool) : World :=
  { w with attempts := w.attempts ++ [⟨taskId, kinds, accepted⟩] }

def batches (w : World) : List (TaskId × List TaskEventKind) :=
  w.attempts.filterMap (fun a => if a.accepted then some (a.taskId, a.kinds) else none)

/-- Time passed and identifiers were used, and the store accepted the given batches. -/
structure Moved (before after : World) (accepted : List (TaskId × List TaskEventKind)) :
    Prop where
  reads : before.reads ≤ after.reads
  ids : before.ids ≤ after.ids
  batches : after.batches = before.batches ++ accepted

theorem Moved.refl (w : World) : Moved w w [] :=
  ⟨Nat.le_refl _, Nat.le_refl _, by simp⟩

theorem Moved.trans {a b c : World} {xs ys : List (TaskId × List TaskEventKind)}
    (first : Moved a b xs) (second : Moved b c ys) : Moved a c (xs ++ ys) :=
  ⟨Nat.le_trans first.reads second.reads, Nat.le_trans first.ids second.ids, by
    rw [second.batches, first.batches, List.append_assoc]⟩

theorem moved_accepted (w : World) (taskId : TaskId) (kinds : List TaskEventKind) :
    Moved w (w.record taskId kinds true) [(taskId, kinds)] :=
  ⟨Nat.le_refl _, Nat.le_refl _, by simp [batches, record]⟩

theorem moved_rejected (w : World) (taskId : TaskId) (kinds : List TaskEventKind) :
    Moved w (w.record taskId kinds false) [] :=
  ⟨Nat.le_refl _, Nat.le_refl _, by simp [batches, record]⟩

def tick (w : World) : World := { w with reads := w.reads + 1 }
def generate (w : World) : World := { w with ids := w.ids + 1 }

theorem moved_tick (w : World) : Moved w w.tick [] :=
  ⟨Nat.le_succ _, Nat.le_refl _, by simp [batches, tick]⟩

theorem moved_generate (w : World) : Moved w w.generate [] :=
  ⟨Nat.le_refl _, Nat.le_succ _, by simp [batches, generate]⟩

end World

section primitives
variable {S : Type} (env : Env)

@[simp] theorem exec_now (p : Process S) :
    exec (now env) p = (.ok (env.clock p.world.reads), ⟨p.world.tick, p.supervisor⟩) := rfl

@[simp] theorem exec_newUuid (p : Process S) :
    exec (newUuid env) p = (.ok (env.uuid p.world.ids), ⟨p.world.generate, p.supervisor⟩) := rfl

@[simp] theorem exec_current (p : Process S) : exec current p = (.ok p.supervisor, p) := rfl

@[simp] theorem exec_update (f : TaskSupervisor S → TaskSupervisor S) (p : Process S) :
    exec (update f) p = (.ok (), ⟨p.world, f p.supervisor⟩) := rfl

@[simp] theorem exec_fail {α : Type} (e : SupervisorError) (p : Process S) :
    exec (fail e : SupervisorM S α) p = (.error (.err e), p) := rfl

theorem exec_withAuthority {α : Type} {f : ApprovalAuthority → α × ApprovalAuthority}
    {p : Process S} {a : α} {authority : ApprovalAuthority}
    (answer : f p.supervisor.approvalAuthority = (a, authority)) :
    exec (withAuthority f) p =
      (.ok a, ⟨p.world, { p.supervisor with approvalAuthority := authority }⟩) := by
  simp only [withAuthority, exec_modifyGet, answer]

@[simp] theorem exec_approvalOr_ok {α : Type} (a : α) (p : Process S) :
    exec (approvalOr (.ok a) : SupervisorM S α) p = (.ok a, p) := rfl

@[simp] theorem exec_approvalOr_error {α : Type} (e : ApprovalError) (p : Process S) :
    exec (approvalOr (.error e) : SupervisorM S α) p = (.error (.err (.approval e)), p) := rfl

@[simp] theorem exec_propose_allowed {state next : TaskState}
    (allowed : state.canTransitionTo next = true) (p : Process S) :
    exec (propose state next) p = (.ok (), p) := by
  simp only [propose, TaskState.transitionTo, allowed, ↓reduceIte, exec_pure]

theorem exec_propose_refused {state next : TaskState}
    (refused : state.canTransitionTo next = false) (p : Process S) :
    exec (propose state next) p = (.error (.err (.invalidStateTransition ⟨state, next⟩)), p) := by
  simp only [propose, TaskState.transitionTo, refused, Bool.false_eq_true, ↓reduceIte, exec_fail]

theorem exec_setState {taskId : TaskId} {state : TaskState} (record : TaskRecord)
    {p : Process S} (found : p.supervisor.tasks[taskId]? = some record) :
    exec (setState taskId state) p = (.ok (), ⟨p.world, { p.supervisor with
      tasks := p.supervisor.tasks.insert taskId { record with state := state } }⟩) := by
  simp only [setState, exec_bind, exec_current, found, exec_okOr_some, exec_update]

theorem exec_evaluateStored {spec : TaskSpec} (valid : spec.Valid) (request : CapabilityRequest)
    (p : Process S) :
    exec (evaluateStored spec request) p =
      (.ok (CapabilityPolicy.evaluate ⟨spec, valid⟩ request), p) := by
  simp only [evaluateStored, CapabilityPolicy.fromTask_valid valid, exec_pure]

/-- A Task lookup, an allowed or refused transition: the two guards most methods start
with. -/
theorem propose_rule {β : Type} {state next : TaskState} {f : Unit → SupervisorM S β}
    {p : Process S} {P : Except Stop β × Process S → Prop}
    (refused : state.canTransitionTo next = false →
      P (.error (.err (.invalidStateTransition ⟨state, next⟩)), p))
    (allowed : state.canTransitionTo next = true → P (exec (f ()) p)) :
    P (exec (propose state next >>= f) p) := by
  cases h : state.canTransitionTo next with
  | false =>
    rw [exec_bind_error (exec_propose_refused h p)]
    exact refused h
  | true =>
    rw [exec_bind_ok (exec_propose_allowed h p)]
    exact allowed h

theorem evaluate_rule {β : Type} {spec : TaskSpec} {request : CapabilityRequest}
    {f : PolicyDecision → SupervisorM S β} {p : Process S} {P : Except Stop β × Process S → Prop}
    (invalid : ¬ spec.Valid →
      P (.error (.panic "stored task specifications must remain valid"), p))
    (evaluated : ∀ valid : spec.Valid,
      P (exec (f (CapabilityPolicy.evaluate ⟨spec, valid⟩ request)) p)) :
    P (exec (evaluateStored spec request >>= f) p) := by
  by_cases valid : spec.Valid
  · rw [exec_bind_ok (exec_evaluateStored valid request p)]
    exact evaluated valid
  · have refused : exec (evaluateStored spec request) p =
        (.error (.panic "stored task specifications must remain valid"), p) := by
      unfold evaluateStored CapabilityPolicy.fromTask
      split
      · rename_i policy made
        split at made
        · rename_i accepted
          exact absurd accepted valid
        · cases made
      · rfl
    rw [exec_bind_error refused]
    exact invalid valid

end primitives

section stores
variable {S : Type} [LawfulEventStore S] (env : Env)

/-- The store answers a batch in one of two ways; a rejected batch only leaves its attempt. -/
theorem tryAppend_cases (p : Process S) (taskId : TaskId) (kinds : List TaskEventKind) :
    (∃ events store, Appended p.supervisor.eventStore store taskId kinds ∧
      exec (tryAppend env taskId kinds) p = (.ok (.ok events),
        ⟨p.world.record taskId kinds true, { p.supervisor with eventStore := store }⟩)) ∨
    (∃ e, exec (tryAppend env taskId kinds) p =
      (.ok (.error e), ⟨p.world.record taskId kinds false, p.supervisor⟩)) := by
  rcases answer : EventStore.appendBatch p.supervisor.eventStore
    (env.io p.world.attempts.length) taskId kinds with ⟨result, store⟩
  cases result with
  | ok events =>
    obtain ⟨grows, capacity⟩ := LawfulEventStore.append_ok answer
    have room : kinds ≠ [] → (LawfulEventStore.log p.supervisor.eventStore taskId).length +
        kinds.length ≤ LawfulEventStore.capacity p.supervisor.eventStore := by
      intro nonempty
      by_contra full
      obtain ⟨e, refused⟩ := LawfulEventStore.append_full nonempty (Nat.lt_of_not_ge full)
      rw [refused] at answer
      cases answer
    refine .inl ⟨events, store, ⟨grows, capacity, room⟩, ?_⟩
    simp only [tryAppend, exec_modifyGet, answer]
    rfl
  | error e =>
    have same := LawfulEventStore.append_error answer
    refine .inr ⟨e, ?_⟩
    simp only [tryAppend, exec_modifyGet, answer, same]
    rfl

theorem rejected_full {p after : Process S} {taskId : TaskId} {kinds : List TaskEventKind}
    {e : EventStoreError} (calm : ∀ i, (env.io i).Calm)
    (bounded : LawfulEventStore.capacity p.supervisor.eventStore < 2 ^ 63)
    (sequenced : Sequenced (LawfulEventStore.log p.supervisor.eventStore taskId))
    (rejected : exec (tryAppend env taskId kinds) p = (.ok (.error e), after)) :
    LawfulEventStore.capacity p.supervisor.eventStore <
      (LawfulEventStore.log p.supervisor.eventStore taskId).length + kinds.length := by
  by_contra fits
  obtain ⟨events, store, accepted⟩ := LawfulEventStore.append_room
    (calm p.world.attempts.length) bounded sequenced (Nat.le_of_not_lt fits)
  simp only [tryAppend, exec_modifyGet, accepted] at rejected
  cases congrArg Prod.fst rejected

theorem tryAppend_rule {β : Type} {p : Process S} {taskId : TaskId} {kinds : List TaskEventKind}
    {f : Except EventStoreError (List TaskEvent) → SupervisorM S β}
    {P : Except Stop β × Process S → Prop}
    (rejected : ∀ e, P (exec (f (.error e)) ⟨p.world.record taskId kinds false, p.supervisor⟩))
    (accepted : ∀ events store, Appended p.supervisor.eventStore store taskId kinds →
      P (exec (f (.ok events))
        ⟨p.world.record taskId kinds true, { p.supervisor with eventStore := store }⟩)) :
    P (exec (tryAppend env taskId kinds >>= f) p) := by
  rcases tryAppend_cases env p taskId kinds with ⟨events, store, appended, h⟩ | ⟨e, h⟩
  · rw [exec_bind_ok h]
    exact accepted events store appended
  · rw [exec_bind_ok h]
    exact rejected e

theorem append_rule {β : Type} {p : Process S} {taskId : TaskId} {kinds : List TaskEventKind}
    {f : Unit → SupervisorM S β} {P : Except Stop β × Process S → Prop}
    (rejected : ∀ e, P (.error (.err (.eventStore e)),
      ⟨p.world.record taskId kinds false, p.supervisor⟩))
    (accepted : ∀ store, Appended p.supervisor.eventStore store taskId kinds →
      P (exec (f ()) ⟨p.world.record taskId kinds true,
        { p.supervisor with eventStore := store }⟩)) :
    P (exec (appendBatch env taskId kinds >>= f) p) := by
  unfold appendBatch
  rw [bind_assoc]
  apply tryAppend_rule env
  · intro e
    exact rejected e
  · intro events store appended
    exact accepted store appended

end stores

/-! The effects: what one successful part of a method does to a process. Each names the
exact process after it. -/
section effects
variable {S : Type} [LawfulEventStore S] (env : Env) (p : Process S)

/-- Nothing but time, identifiers and rejected batches. -/
structure Quiet (after : Process S) : Prop where
  same : after.supervisor = p.supervisor
  moved : World.Moved p.world after.world []

inductive Admits (spec : TaskSpec) : Process S → Prop where
  | mk (store : S)
      (unused : p.supervisor.idempotencyIndex[spec.idempotencyKey]? = none)
      (room : p.supervisor.tasks.size + p.supervisor.recoveredTasks.size < p.supervisor.maxTasks)
      (appended : Appended p.supervisor.eventStore store ⟨env.uuid p.world.ids⟩
        (submissionEvents spec.validate).2) :
      Admits spec
        ⟨p.world.generate.record ⟨env.uuid p.world.ids⟩ (submissionEvents spec.validate).2 true,
          { p.supervisor with
            eventStore := store
            tasks := p.supervisor.tasks.insert ⟨env.uuid p.world.ids⟩
              ⟨spec, (submissionEvents spec.validate).1, none⟩
            idempotencyIndex := p.supervisor.idempotencyIndex.insert spec.idempotencyKey
              ⟨env.uuid p.world.ids⟩ }⟩

inductive Launches (taskId : TaskId) : Process S → Prop where
  | mk (store : S) (record : TaskRecord) (found : p.supervisor.tasks[taskId]? = some record)
      (startable : record.state.canTransitionTo .running = true)
      (appended : Appended p.supervisor.eventStore store taskId
        [.stateTransitioned record.state .running]) :
      Launches taskId
        ⟨(p.world.record taskId [.stateTransitioned record.state .running] true).tick,
          { p.supervisor with
            eventStore := store
            tasks := p.supervisor.tasks.insert taskId { record with
              state := .running, startedAt := some (env.clock p.world.reads) } }⟩

inductive Notes (taskId : TaskId) (request : CapabilityRequest) (decision : PolicyDecision)
    (kind : TaskEventKind) : Process S → Prop where
  | mk (store : S) (record : TaskRecord) (found : p.supervisor.tasks[taskId]? = some record)
      (running : record.state = .running) (valid : record.spec.Valid)
      (decided : CapabilityPolicy.evaluate ⟨record.spec, valid⟩ request = decision)
      (appended : Appended p.supervisor.eventStore store taskId [kind]) :
      Notes taskId request decision kind
        ⟨p.world.record taskId [kind] true, { p.supervisor with eventStore := store }⟩

/-- The identifiers and the events of a new approval request. -/
def askedOperation : OperationId := ⟨env.uuid p.world.ids⟩
def askedApproval : ApprovalId := ⟨env.uuid (p.world.ids + 1)⟩
def askedEvents : List TaskEventKind :=
  [.approvalRequested (askedApproval env p) (askedOperation env p),
    .stateTransitioned .running .waitingApproval]

inductive Asks (taskId : TaskId) (request : CapabilityRequest) (ttl : Duration) :
    Process S → Prop where
  | mk (store : S) (record : TaskRecord) (found : p.supervisor.tasks[taskId]? = some record)
      (running : record.state = .running) (valid : record.spec.Valid)
      (decided : CapabilityPolicy.evaluate ⟨record.spec, valid⟩ request = .approvalRequired)
      (single : ∀ (id : ApprovalId) (pending : PendingOperation),
        p.supervisor.pendingOperations[id]? = some pending → pending.taskId ≠ taskId)
      (unindexed : p.supervisor.approvalAuthority.operationIndex[
        (⟨taskId, askedOperation env p⟩ : OperationKey)]? = none)
      (room : p.supervisor.approvalAuthority.pending.size <
        p.supervisor.approvalAuthority.maxPending)
      (appended : Appended p.supervisor.eventStore store taskId (askedEvents env p)) :
      Asks taskId request ttl
        ⟨p.world.generate.tick.generate.record taskId (askedEvents env p) true,
          { p.supervisor with
            eventStore := store
            approvalAuthority := p.supervisor.approvalAuthority.insert (askedApproval env p)
              ⟨taskId, askedOperation env p, request.action, env.clock p.world.reads + ttl⟩
            pendingOperations := p.supervisor.pendingOperations.insert (askedApproval env p)
              ⟨taskId, askedOperation env p, request⟩
            tasks := p.supervisor.tasks.insert taskId { record with state := .waitingApproval } }⟩

def grantedEvents (id : ApprovalId) (pending : PendingOperation) (state : TaskState) :
    List TaskEventKind :=
  [.approvalGranted id pending.operationId, .stateTransitioned state .running]

def grantOf (id : ApprovalId) (entry : PendingApproval) : ApprovalGrant :=
  ⟨id, entry.taskId, entry.operationId, entry.action, entry.deadline⟩

inductive Grants (id : ApprovalId) : Process S → Prop where
  | mk (store : S) (pending : PendingOperation) (record : TaskRecord) (entry : PendingApproval)
      (waiting : p.supervisor.pendingOperations[id]? = some pending)
      (found : p.supervisor.tasks[pending.taskId]? = some record)
      (resumable : record.state.canTransitionTo .running = true)
      (registered : p.supervisor.approvalAuthority.pending[id]? = some entry)
      (early : env.clock p.world.reads < entry.deadline)
      (appended : Appended p.supervisor.eventStore store pending.taskId
        (grantedEvents id pending record.state)) :
      Grants id
        ⟨p.world.tick.record pending.taskId (grantedEvents id pending record.state) true,
          { p.supervisor with
            eventStore := store
            approvalAuthority := (p.supervisor.approvalAuthority.remove id).2
            pendingOperations := p.supervisor.pendingOperations.erase id
            approvedOperations := p.supervisor.approvedOperations.insert pending.operationId
              ⟨pending.taskId, pending.request, grantOf id entry⟩
            tasks := p.supervisor.tasks.insert pending.taskId { record with state := .running } }⟩

inductive Closes (id : ApprovalId) (closing : PendingOperation → TaskEventKind) :
    Process S → Prop where
  | mk (store : S) (pending : PendingOperation) (record : TaskRecord)
      (waiting : p.supervisor.pendingOperations[id]? = some pending)
      (found : p.supervisor.tasks[pending.taskId]? = some record)
      (failable : record.state.canTransitionTo .failed = true)
      (appended : Appended p.supervisor.eventStore store pending.taskId
        [closing pending, .stateTransitioned record.state .failed]) :
      Closes id closing
        ⟨p.world.record pending.taskId
            [closing pending, .stateTransitioned record.state .failed] true,
          { p.supervisor with
            eventStore := store
            approvalAuthority := (p.supervisor.approvalAuthority.remove id).2
            pendingOperations := p.supervisor.pendingOperations.erase id
            tasks := p.supervisor.tasks.insert pending.taskId { record with state := .failed } }⟩

def expiring (id : ApprovalId) (pending : PendingOperation) : TaskEventKind :=
  .approvalExpired id pending.operationId

def denying (id : ApprovalId) (pending : PendingOperation) : TaskEventKind :=
  .approvalDenied id pending.operationId

structure Forgets (operationId : OperationId) (after : Process S) : Prop where
  moved : World.Moved p.world after.world []
  same : after.supervisor = { p.supervisor with
    approvedOperations := p.supervisor.approvedOperations.erase operationId }

/-- A grant is consumed by a running Task, in time and for exactly its request. -/
inductive Consumes (taskId : TaskId) (operationId : OperationId) (request : CapabilityRequest)
    (receipt : ApprovalReceipt) : Process S → Prop where
  | mk (store : S) (record : TaskRecord) (approved : ApprovedOperation)
      (found : p.supervisor.tasks[taskId]? = some record) (running : record.state = .running)
      (held : p.supervisor.approvedOperations[operationId]? = some approved)
      (owner : approved.taskId = taskId) (exact : approved.request = request)
      (valid : record.spec.Valid)
      (decided : CapabilityPolicy.evaluate ⟨record.spec, valid⟩ request = .approvalRequired)
      (early : env.clock p.world.reads < approved.grant.deadline)
      (scope : approved.grant.taskId = taskId ∧ approved.grant.operationId = operationId)
      (issued : receipt = ⟨approved.grant.approvalId⟩)
      (appended : Appended p.supervisor.eventStore store taskId
        [.approvalConsumed approved.grant.approvalId operationId]) :
      Consumes taskId operationId request receipt
        ⟨p.world.tick.record taskId
            [.approvalConsumed approved.grant.approvalId operationId] true,
          { p.supervisor with
            eventStore := store
            approvedOperations := p.supervisor.approvedOperations.erase operationId }⟩

def finishedEvents (taskId : TaskId) (state next : TaskState) (failure : Option ErrorCode) :
    List TaskEventKind :=
  p.supervisor.revocationEvents taskId ++ failure.toList.map TaskEventKind.taskFailed
    ++ [.stateTransitioned state next]

/-- A Task ends, and everything it still held is revoked in the same batch. -/
inductive Finishes (taskId : TaskId) (next : TaskState) (failure : Option ErrorCode) :
    Process S → Prop where
  | mk (store : S) (record : TaskRecord) (found : p.supervisor.tasks[taskId]? = some record)
      (allowed : record.state.canTransitionTo next = true) (terminal : next.isTerminal = true)
      (appended : Appended p.supervisor.eventStore store taskId
        (finishedEvents p taskId record.state next failure)) :
      Finishes taskId next failure
        ⟨p.world.record taskId (finishedEvents p taskId record.state next failure) true,
          { p.supervisor.invalidateApprovals taskId with
            eventStore := store
            tasks := p.supervisor.tasks.insert taskId { record with state := next } }⟩

end effects

end AiOs
