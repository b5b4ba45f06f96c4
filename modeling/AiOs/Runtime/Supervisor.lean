import AiOs.Lib.Fallible
import AiOs.Runtime.Approval

/-! The Task supervisor of `aios-runtime`, method by method. A method is a computation that
keeps its changes when it fails, as a method on `&mut self` does. The clock, the identifier
generator and the storage outcomes are streams of the environment; the state counts how far
each has been read. -/
namespace AiOs

open Fallible

/-- What a run meets outside the process: successive readings of the monotonic clock,
successive generated UUIDs, and what each `append_batch` call meets. -/
structure Env where
  clock : Nat → Instant
  uuid : Nat → Nat
  io : Nat → AppendIo

/-- One `append_batch` call and whether the store accepted it. -/
structure Attempt where
  taskId : TaskId
  kinds : List TaskEventKind
  accepted : Bool
  deriving DecidableEq, Repr

/-- How far the environment has been read, with every append so far, oldest first. -/
structure World where
  reads : Nat
  ids : Nat
  attempts : List Attempt
  deriving DecidableEq, Repr

structure TaskRecord where
  spec : TaskSpec
  state : TaskState
  startedAt : Option Instant
  deriving DecidableEq, Repr

structure PendingOperation where
  taskId : TaskId
  operationId : OperationId
  request : CapabilityRequest
  deriving DecidableEq, Repr

structure ApprovedOperation where
  taskId : TaskId
  request : CapabilityRequest
  grant : ApprovalGrant
  deriving DecidableEq, Repr

structure TaskExecutionInput where
  goal : String
  capabilityTools : List String
  networkDestinations : List NetworkDestination
  deriving DecidableEq, Repr

structure TaskExecutionContext where
  taskId : TaskId
  budget : Budget
  filesystemCapabilities : List FileCapability
  startedAt : Instant
  deriving DecidableEq, Repr

def Budget.wallTime (budget : Budget) : Duration := Duration.fromSecs budget.wallTimeSeconds.toNat

/-- Time left of the Budget at a reading; both subtractions saturate at zero. -/
def TaskExecutionContext.remainingWallTime (context : TaskExecutionContext) (now : Instant) :
    Duration :=
  context.budget.wallTime - (now - context.startedAt)

inductive SubmitResult where
  | accepted (task : TaskSnapshot)
  | existing (task : TaskSnapshot)
  | rejected (task : TaskSnapshot) (errors : ValidationErrors)

inductive OperationAuthorization where
  | allowed
  | denied (reason : DenialReason)
  | approvalRequired (approval : ApprovalRequest)
  deriving DecidableEq, Repr

inductive SupervisorError where
  | taskNotFound
  | taskNotRunning
  | idempotencyConflict
  | capacityExceeded
  | invalidStateTransition (error : StateTransitionError)
  | eventStore (error : EventStoreError)
  | approval (error : ApprovalError)
  deriving DecidableEq, Repr

/-- How a method stops early: with an error value, or by a failed `expect`. -/
inductive Stop where
  | err (error : SupervisorError)
  | panic (message : String)
  deriving DecidableEq, Repr

structure TaskSupervisor (S : Type) where
  tasks : OrdMap TaskId TaskRecord
  recoveredTasks : OrdMap TaskId TaskState
  idempotencyIndex : OrdMap String TaskId
  eventStore : S
  approvalAuthority : ApprovalAuthority
  pendingOperations : OrdMap ApprovalId PendingOperation
  approvedOperations : OrdMap OperationId ApprovedOperation
  maxTasks : Nat

structure Process (S : Type) where
  world : World
  supervisor : TaskSupervisor S

def defaultMaxTasks : Nat := 10000

namespace TaskSupervisor
variable {S : Type}

/-- `new` and `with_max_tasks` build the same value up to the limit. -/
def empty (eventStore : S) (maxTasks : Nat) : TaskSupervisor S :=
  ⟨∅, ∅, ∅, eventStore, .default, ∅, ∅, maxTasks⟩

def new (eventStore : S) : TaskSupervisor S := empty eventStore defaultMaxTasks

def withMaxTasks (eventStore : S) (maxTasks : Nat) : Except SupervisorError (TaskSupervisor S) :=
  if maxTasks = 0 then .error .capacityExceeded else .ok (empty eventStore maxTasks)

def taskState (s : TaskSupervisor S) (taskId : TaskId) : Option TaskState :=
  match s.tasks[taskId]? with
  | some record => some record.state
  | none => s.recoveredTasks[taskId]?

def get (s : TaskSupervisor S) (taskId : TaskId) : Option TaskSnapshot :=
  (s.taskState taskId).map (fun state => ⟨taskId, state⟩)

def events [EventStore S] (s : TaskSupervisor S) (taskId : TaskId) (afterSequence : Nat) :
    Except SupervisorError (List TaskEvent) :=
  match s.taskState taskId with
  | none => .error .taskNotFound
  | some _ =>
    match EventStore.list s.eventStore taskId afterSequence with
    | .ok events => .ok events
    | .error e => .error (.eventStore e)

def executionContext (s : TaskSupervisor S) (taskId : TaskId) :
    Except SupervisorError TaskExecutionContext :=
  match s.tasks[taskId]? with
  | none => .error .taskNotFound
  | some record =>
    if record.state ≠ .running then .error .taskNotRunning
    else
      match record.startedAt with
      | none => .error .taskNotRunning
      | some startedAt =>
        .ok ⟨taskId, record.spec.budget, record.spec.capabilities.filesystem, startedAt⟩

def wallTimeExceeded (s : TaskSupervisor S) (taskId : TaskId) (now : Instant) :
    Except SupervisorError Bool :=
  match s.tasks[taskId]? with
  | none => .error .taskNotFound
  | some record =>
    if record.state ≠ .running ∧ record.state ≠ .waitingApproval then .error .taskNotRunning
    else
      match record.startedAt with
      | none => .error .taskNotRunning
      | some startedAt => .ok (decide (record.spec.budget.wallTime ≤ now - startedAt))

/-- The closing events of a terminal transition: pending requests first, then grants. -/
def revocationEvents (s : TaskSupervisor S) (taskId : TaskId) : List TaskEventKind :=
  s.pendingOperations.toList.filterMap (fun e =>
      if e.2.taskId = taskId then some (.approvalRevoked e.1 e.2.operationId) else none)
    ++ s.approvedOperations.toList.filterMap (fun e =>
      if e.2.taskId = taskId then some (.approvalRevoked e.2.grant.approvalId e.1) else none)

/-- One turn of the loop that drops pending requests. -/
def dropPending (s : TaskSupervisor S) (approvalId : ApprovalId) : TaskSupervisor S :=
  { s with
    approvalAuthority := (s.approvalAuthority.revoke approvalId).2
    pendingOperations := s.pendingOperations.erase approvalId }

def pendingIds (s : TaskSupervisor S) (taskId : TaskId) : List ApprovalId :=
  s.pendingOperations.toList.filterMap (fun e => if e.2.taskId = taskId then some e.1 else none)

def invalidateApprovals (s : TaskSupervisor S) (taskId : TaskId) : TaskSupervisor S :=
  let dropped := (s.pendingIds taskId).foldl dropPending s
  { dropped with approvedOperations :=
      dropped.approvedOperations.filter (fun _ operation => decide (operation.taskId ≠ taskId)) }

end TaskSupervisor

abbrev SupervisorM (S : Type) := Fallible (Process S) Stop

section
variable {S : Type} (env : Env)

/-- `Instant::now()` -/
def now : SupervisorM S Instant := modifyGet (fun p =>
  (env.clock p.world.reads, { p with world := { p.world with reads := p.world.reads + 1 } }))

/-- `Uuid::now_v7()` -/
def newUuid : SupervisorM S Nat := modifyGet (fun p =>
  (env.uuid p.world.ids, { p with world := { p.world with ids := p.world.ids + 1 } }))

def current : SupervisorM S (TaskSupervisor S) := modifyGet (fun p => (p.supervisor, p))

def update (f : TaskSupervisor S → TaskSupervisor S) : SupervisorM S Unit :=
  modifyGet (fun p => ((), { p with supervisor := f p.supervisor }))

def fail {α : Type} (error : SupervisorError) : SupervisorM S α := throw (.err error)

def withAuthority {α : Type} (f : ApprovalAuthority → α × ApprovalAuthority) : SupervisorM S α :=
  modifyGet (fun p => ((f p.supervisor.approvalAuthority).1,
    { p with supervisor := { p.supervisor with
      approvalAuthority := (f p.supervisor.approvalAuthority).2 } }))

/-- `?` on the authority's answer. -/
def approvalOr {α : Type} : Except ApprovalError α → SupervisorM S α
  | .ok a => pure a
  | .error e => fail (.approval e)

/-- The store's answer to one batch, left to the caller to handle. -/
def tryAppend [EventStore S] (taskId : TaskId) (kinds : List TaskEventKind) :
    SupervisorM S (Except EventStoreError (List TaskEvent)) := modifyGet (fun p =>
  let outcome := EventStore.appendBatch p.supervisor.eventStore
    (env.io p.world.attempts.length) taskId kinds
  let attempt : Attempt := ⟨taskId, kinds, outcome.1.isOk⟩
  (outcome.1,
    ⟨{ p.world with attempts := p.world.attempts ++ [attempt] },
      { p.supervisor with eventStore := outcome.2 }⟩))

/-- `append_batch(..)?` -/
def appendBatch [EventStore S] (taskId : TaskId) (kinds : List TaskEventKind) :
    SupervisorM S Unit := do
  match ← tryAppend env taskId kinds with
  | .ok _ => pure ()
  | .error e => fail (.eventStore e)

/-- `proposed.transition_to(next)?` on a copy of the state. -/
def propose (state next : TaskState) : SupervisorM S Unit :=
  match state.transitionTo next with
  | .ok _ => pure ()
  | .error e => fail (.invalidStateTransition e)

/-- `tasks.get_mut(&task_id).ok_or(TaskNotFound)?.state = state` -/
def setState (taskId : TaskId) (state : TaskState) : SupervisorM S Unit := do
  let s ← current
  let record ← okOr s.tasks[taskId]? (.err .taskNotFound)
  update (fun s => { s with tasks := s.tasks.insert taskId { record with state := state } })

/-- The policy decision for a stored specification, which must be valid. -/
def evaluateStored (spec : TaskSpec) (request : CapabilityRequest) :
    SupervisorM S PolicyDecision :=
  match CapabilityPolicy.fromTask spec with
  | .ok policy => pure (policy.evaluate request)
  | .error _ => throw (.panic "stored task specifications must remain valid")

/-- The state and the batch of a new Task. -/
def submissionEvents : Except ValidationErrors Unit → TaskState × List TaskEventKind
  | .ok () =>
    (.queued,
      [.submitted, .stateTransitioned .submitted .validating,
        .stateTransitioned .validating .queued])
  | .error errors =>
    (.rejected,
      [.submitted, .stateTransitioned .submitted .validating,
        .validationFailed errors.errors.length, .stateTransitioned .validating .rejected])

def submitResult (task : TaskSnapshot) : Except ValidationErrors Unit → SubmitResult
  | .ok () => .accepted task
  | .error errors => .rejected task errors

variable [EventStore S]

def submit (spec : TaskSpec) : SupervisorM S SubmitResult := do
  let s ← current
  match s.idempotencyIndex[spec.idempotencyKey]? with
  | some taskId =>
    let existing ← okOr s.tasks[taskId]? (.err .taskNotFound)
    ensure (decide (existing.spec = spec)) (.err .idempotencyConflict)
    pure (.existing ⟨taskId, existing.state⟩)
  | none =>
    ensure (decide (s.tasks.size + s.recoveredTasks.size < s.maxTasks)) (.err .capacityExceeded)
    let uuid ← newUuid env
    let taskId : TaskId := ⟨uuid⟩
    let state := (submissionEvents spec.validate).1
    appendBatch env taskId (submissionEvents spec.validate).2
    update (fun s => { s with
      tasks := s.tasks.insert taskId ⟨spec, state, none⟩
      idempotencyIndex := s.idempotencyIndex.insert spec.idempotencyKey taskId })
    pure (submitResult ⟨taskId, state⟩ spec.validate)

/-- The batch of a transition, its audit record, and only then the new state. Terminal
transitions revoke what the Task still holds. -/
def applyTransitionWithFailure (taskId : TaskId) (state next : TaskState)
    (failure : Option ErrorCode) : SupervisorM S Unit := do
  let s ← current
  appendBatch env taskId
    ((if next.isTerminal then s.revocationEvents taskId else [])
      ++ failure.toList.map TaskEventKind.taskFailed ++ [.stateTransitioned state next])
  update (fun s => if next.isTerminal then s.invalidateApprovals taskId else s)
  let s ← current
  match s.tasks[taskId]? with
  | some record =>
    update (fun s => { s with tasks := s.tasks.insert taskId { record with state := next } })
  | none =>
    match s.recoveredTasks[taskId]? with
    | some _ => update (fun s => { s with recoveredTasks := s.recoveredTasks.insert taskId next })
    | none => fail .taskNotFound

def applyTransition (taskId : TaskId) (state next : TaskState) : SupervisorM S Unit :=
  applyTransitionWithFailure env taskId state next none

def transition (taskId : TaskId) (next : TaskState) : SupervisorM S Unit := do
  let s ← current
  let state ← okOr (s.taskState taskId) (.err .taskNotFound)
  propose state next
  applyTransition env taskId state next

def start (taskId : TaskId) : SupervisorM S Unit := do
  transition env taskId .running
  let startedAt ← now env
  let s ← current
  let record ← okOr s.tasks[taskId]? (.err .taskNotFound)
  update (fun s => { s with
    tasks := s.tasks.insert taskId { record with startedAt := some startedAt } })

def startExecution (taskId : TaskId) : SupervisorM S TaskExecutionInput := do
  let s ← current
  let record ← okOr s.tasks[taskId]? (.err .taskNotFound)
  start env taskId
  pure ⟨record.spec.goal, record.spec.capabilities.tools,
    match record.spec.capabilities.network with
    | .deny => []
    | .allow destinations => destinations⟩

/-- Denial and expiry close a pending request and fail its Task with the same steps; they
differ in the closing event. -/
def closePending (approvalId : ApprovalId) (pending : PendingOperation)
    (closing : TaskEventKind) : SupervisorM S Unit := do
  let s ← current
  let record ← okOr s.tasks[pending.taskId]? (.err .taskNotFound)
  propose record.state .failed
  appendBatch env pending.taskId [closing, .stateTransitioned record.state .failed]
  update (fun s => s.dropPending approvalId)
  setState pending.taskId .failed

/-- The loop of `expire_approvals`, with the count of requests closed so far. -/
def expireLoop : List ApprovalId → Nat → SupervisorM S Nat
  | [], count => pure count
  | approvalId :: rest, count => do
    let s ← current
    match s.pendingOperations[approvalId]? with
    | none => expireLoop rest count
    | some pending =>
      closePending env approvalId pending (.approvalExpired approvalId pending.operationId)
      expireLoop rest (count + 1)

def expireApprovals : SupervisorM S Nat := do
  let reading ← now env
  let s ← current
  expireLoop env (s.approvalAuthority.expiredIds reading) 0

/-- The approval branch of `request_operation`: register, audit, and only then retain. A
rejected batch takes the registration back. -/
def requestApproval (taskId : TaskId) (state : TaskState) (request : CapabilityRequest)
    (approvalTtl : Duration) : SupervisorM S OperationAuthorization := do
  let s ← current
  ensure (!s.pendingOperations.toList.any (fun e => decide (e.2.taskId = taskId)))
    (.err (.approval .duplicateOperation))
  let operationUuid ← newUuid env
  let operationId : OperationId := ⟨operationUuid⟩
  let reading ← now env
  let approvalUuid ← newUuid env
  let outcome ← withAuthority (fun authority =>
    authority.request taskId operationId request.action approvalTtl reading ⟨approvalUuid⟩)
  let approval ← approvalOr outcome
  let appended ← tryAppend env taskId
    [.approvalRequested approval.approvalId operationId,
      .stateTransitioned state .waitingApproval]
  match appended with
  | .error e =>
    update (fun s => { s with
      approvalAuthority := (s.approvalAuthority.revoke approval.approvalId).2 })
    fail (.eventStore e)
  | .ok _ =>
    update (fun s => { s with pendingOperations :=
      s.pendingOperations.insert approval.approvalId ⟨taskId, operationId, request⟩ })
    setState taskId .waitingApproval
    pure (.approvalRequired approval)

/-- `request_operation` after its expiry pass: the decision is recorded before it is
returned. -/
def requestAfterPass (taskId : TaskId) (request : CapabilityRequest) (approvalTtl : Duration) :
    SupervisorM S OperationAuthorization := do
  let s ← current
  let record ← okOr s.tasks[taskId]? (.err .taskNotFound)
  propose record.state .waitingApproval
  let decision ← evaluateStored record.spec request
  match decision with
  | .allow =>
    appendBatch env taskId [.operationAllowed]
    pure .allowed
  | .deny reason =>
    appendBatch env taskId [.operationDenied reason]
    pure (.denied reason)
  | .approvalRequired => requestApproval env taskId record.state request approvalTtl

def requestOperation (taskId : TaskId) (request : CapabilityRequest) (approvalTtl : Duration) :
    SupervisorM S OperationAuthorization := do
  let _ ← expireApprovals env
  requestAfterPass env taskId request approvalTtl

/-- `approve_operation` after its expiry pass. A rejected batch gives the grant back to the
authority. -/
def approveAfterPass (approvalId : ApprovalId) : SupervisorM S TaskSnapshot := do
  let s ← current
  let pending ← okOr s.pendingOperations[approvalId]? (.err (.approval .notFound))
  let record ← okOr s.tasks[pending.taskId]? (.err .taskNotFound)
  propose record.state .running
  let reading ← now env
  let outcome ← withAuthority (fun authority => authority.approve approvalId reading)
  let grant ← approvalOr outcome
  let appended ← tryAppend env pending.taskId
    [.approvalGranted approvalId pending.operationId,
      .stateTransitioned record.state .running]
  match appended with
  | .error e =>
    update (fun s => { s with approvalAuthority := grant.restore s.approvalAuthority })
    fail (.eventStore e)
  | .ok _ =>
    let s ← current
    let removed ← okOr s.pendingOperations[approvalId]? (.err (.approval .notFound))
    update (fun s => { s with
      pendingOperations := s.pendingOperations.erase approvalId
      approvedOperations := s.approvedOperations.insert pending.operationId
        ⟨pending.taskId, removed.request, grant⟩ })
    setState pending.taskId .running
    pure ⟨pending.taskId, .running⟩

def approveOperation (approvalId : ApprovalId) : SupervisorM S TaskSnapshot := do
  let _ ← expireApprovals env
  approveAfterPass env approvalId

/-- `deny_operation` after its expiry pass. -/
def denyAfterPass (approvalId : ApprovalId) : SupervisorM S TaskSnapshot := do
  let s ← current
  let pending ← okOr s.pendingOperations[approvalId]? (.err (.approval .notFound))
  ensure (s.approvalAuthority.contains approvalId) (.err (.approval .notFound))
  closePending env approvalId pending (.approvalDenied approvalId pending.operationId)
  pure ⟨pending.taskId, .failed⟩

def denyOperation (approvalId : ApprovalId) : SupervisorM S TaskSnapshot := do
  let _ ← expireApprovals env
  denyAfterPass env approvalId

/-- Consumes the approved operation. The entry is gone from the first check on, whatever
the later checks say. -/
def authorizeOperation (taskId : TaskId) (operationId : OperationId)
    (request : CapabilityRequest) : SupervisorM S ApprovalReceipt := do
  let s ← current
  let record ← okOr s.tasks[taskId]? (.err .taskNotFound)
  ensure (decide (record.state = .running)) (.err .taskNotRunning)
  let approved ← okOr s.approvedOperations[operationId]? (.err (.approval .notFound))
  update (fun s => { s with approvedOperations := s.approvedOperations.erase operationId })
  ensure (decide (approved.taskId = taskId ∧ approved.request = request))
    (.err (.approval .scopeMismatch))
  let decision ← evaluateStored record.spec request
  ensure (decide (decision = .approvalRequired)) (.err (.approval .scopeMismatch))
  let reading ← now env
  let receipt ← approvalOr
    (approved.grant.authorize reading taskId operationId request.action)
  appendBatch env taskId [.approvalConsumed approved.grant.approvalId operationId]
  pure receipt

def succeed (taskId : TaskId) : SupervisorM S Unit := transition env taskId .succeeded

def failTask (taskId : TaskId) : SupervisorM S Unit := transition env taskId .failed

def failBudgetExceeded (taskId : TaskId) : SupervisorM S Unit := do
  let s ← current
  let state ← okOr (s.taskState taskId) (.err .taskNotFound)
  propose state .failed
  applyTransitionWithFailure env taskId state .failed (some .budgetExceeded)

def cancel (taskId : TaskId) : SupervisorM S Bool := do
  let s ← current
  let state ← okOr (s.taskState taskId) (.err .taskNotFound)
  if state.isTerminal then pure false
  else
    applyTransition env taskId state .cancelled
    pure true

end

/-- One call of a public method that changes a supervisor. -/
inductive Call where
  | submit (spec : TaskSpec)
  | start (taskId : TaskId)
  | startExecution (taskId : TaskId)
  | requestOperation (taskId : TaskId) (request : CapabilityRequest) (approvalTtl : Duration)
  | approveOperation (approvalId : ApprovalId)
  | denyOperation (approvalId : ApprovalId)
  | authorizeOperation (taskId : TaskId) (operationId : OperationId) (request : CapabilityRequest)
  | expireApprovals
  | succeed (taskId : TaskId)
  | fail (taskId : TaskId)
  | failBudgetExceeded (taskId : TaskId)
  | cancel (taskId : TaskId)
  deriving DecidableEq, Repr

variable {S : Type} [EventStore S]

/-- A call with its value forgotten: success, or how it stopped. -/
def Call.perform (env : Env) : Call → SupervisorM S Unit
  | .submit spec => discard (AiOs.submit env spec)
  | .start taskId => AiOs.start env taskId
  | .startExecution taskId => discard (AiOs.startExecution env taskId)
  | .requestOperation taskId request ttl => discard (AiOs.requestOperation env taskId request ttl)
  | .approveOperation id => discard (AiOs.approveOperation env id)
  | .denyOperation id => discard (AiOs.denyOperation env id)
  | .authorizeOperation taskId id request => discard (AiOs.authorizeOperation env taskId id request)
  | .expireApprovals => discard (AiOs.expireApprovals env)
  | .succeed taskId => AiOs.succeed env taskId
  | .fail taskId => AiOs.failTask env taskId
  | .failBudgetExceeded taskId => AiOs.failBudgetExceeded env taskId
  | .cancel taskId => discard (AiOs.cancel env taskId)

/-- The outcome of one call. -/
def Call.run (env : Env) (call : Call) (p : Process S) : Except Stop Unit × Process S :=
  exec (call.perform env) p

end AiOs
