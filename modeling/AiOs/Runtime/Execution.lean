import AiOs.Runtime.Supervisor

/-! The execution gate of `aios-runtime`: it keeps complete operations while their approval is
pending and hands them to its adapter only after the supervisor has authorized them. The
system around it has one gate, one supervisor and direct calls of the supervisor behind the
gate's back, and it remembers what was handed over, what was executed, and the Tasks that
were submitted and started. -/
namespace AiOs

open Fallible

/-- One adapter-owned operation, with the capability request that trusted code builds for it. -/
class GuardedOperation (O : Type) where
  capabilityRequest : O → CapabilityRequest

/-- Executes one complete operation. An adapter may read the clock; it has no other access to
the process around it. -/
class ExecutionAdapter (A O : Type) (Output Err : outParam Type) where
  execute : (clock : Nat → Instant) → A → O → (reads : Nat) → Except Err Output × A × Nat

structure Executed (Output : Type) where
  output : Output
  approval : Option ApprovalReceipt
  deriving DecidableEq, Repr

inductive ExecutionOutcome (Output : Type) where
  | executed (result : Executed Output)
  | denied (reason : DenialReason)
  | approvalRequired (approval : ApprovalRequest)
  deriving DecidableEq, Repr

inductive ExecutionError (Err : Type) where
  | supervisor (error : SupervisorError)
  | adapter (error : Err)
  | operationNotFound
  deriving DecidableEq, Repr

/-- How a gate method stops early: with an error value, or by a failed assertion. -/
inductive GateStop (Err : Type) where
  | err (error : ExecutionError Err)
  | panic (message : String)
  deriving DecidableEq, Repr

structure PendingExecution (O : Type) where
  taskId : TaskId
  approvalId : ApprovalId
  operation : O
  deriving DecidableEq, Repr

structure ExecutionGate (A O : Type) where
  adapter : A
  pending : OrdMap OperationId (PendingExecution O)
  approvalIndex : OrdMap ApprovalId OperationId

namespace ExecutionGate
variable {A O : Type}

def new (adapter : A) : ExecutionGate A O := ⟨adapter, ∅, ∅⟩

def pendingCount (gate : ExecutionGate A O) : Nat := gate.pending.size

def removePending (gate : ExecutionGate A O) (approvalId : ApprovalId)
    (operationId : OperationId) : Option (PendingExecution O) × ExecutionGate A O :=
  (gate.pending[operationId]?, { gate with
    approvalIndex := gate.approvalIndex.erase approvalId
    pending := gate.pending.erase operationId })

/-- One turn of the loop in `remove_task`. -/
def dropOperation (gate : ExecutionGate A O) (operationId : OperationId) : ExecutionGate A O :=
  match gate.pending[operationId]? with
  | some pending => { gate with
      pending := gate.pending.erase operationId
      approvalIndex := gate.approvalIndex.erase pending.approvalId }
  | none => gate

def removeTask (gate : ExecutionGate A O) (taskId : TaskId) : ExecutionGate A O :=
  (gate.pending.toList.filterMap
    (fun e => if e.2.taskId = taskId then some e.1 else none)).foldl dropOperation gate

def purgeTerminal {S : Type} (gate : ExecutionGate A O) (supervisor : TaskSupervisor S) :
    ExecutionGate A O :=
  (gate.pending.toList.filterMap (fun e =>
    if (supervisor.get e.2.taskId).any (fun task => task.state.isTerminal) then some e.2.taskId
    else none)).foldl removeTask gate

end ExecutionGate

/-- One call of the adapter: the operation and its Task, the process when the gate's method
was entered, and the process when the adapter was called. -/
structure Execution (S O : Type) where
  taskId : TaskId
  operation : O
  before : Process S
  moment : Process S

structure System (S A O : Type) where
  process : Process S
  gate : ExecutionGate A O
  requested : List (TaskId × O)
  executed : List (Execution S O)
  submitted : List (TaskId × TaskSpec)
  started : List (TaskId × Instant)

abbrev GateM (S A O Err : Type) := Fallible (System S A O) (GateStop Err)

section
variable {S A O Output Err : Type} (env : Env)

def currentSystem : GateM S A O Err (System S A O) := modifyGet (fun σ => (σ, σ))

def updateGate (f : ExecutionGate A O → ExecutionGate A O) : GateM S A O Err Unit :=
  modifyGet (fun σ => ((), { σ with gate := f σ.gate }))

/-- A method of the supervisor, with `?` on its answer. -/
def supervised {α : Type} (method : SupervisorM S α) : GateM S A O Err α := do
  let answer ← modifyGet (fun σ : System S A O =>
    ((exec method σ.process).1, { σ with process := (exec method σ.process).2 }))
  match answer with
  | .ok value => pure value
  | .error (.err error) => throw (.err (.supervisor error))
  | .error (.panic message) => throw (.panic message)

/-- The caller hands an operation over. -/
def handOver (taskId : TaskId) (operation : O) : GateM S A O Err Unit :=
  modifyGet (fun σ => ((), { σ with requested := σ.requested ++ [(taskId, operation)] }))

theorem exec_currentSystem (σ : System S A O) :
    exec (currentSystem : GateM S A O Err (System S A O)) σ = (.ok σ, σ) := rfl

theorem exec_updateGate (f : ExecutionGate A O → ExecutionGate A O) (σ : System S A O) :
    exec (updateGate f : GateM S A O Err Unit) σ = (.ok (), { σ with gate := f σ.gate }) := rfl

theorem exec_handOver (taskId : TaskId) (operation : O) (σ : System S A O) :
    exec (handOver taskId operation : GateM S A O Err Unit) σ =
      (.ok (), { σ with requested := σ.requested ++ [(taskId, operation)] }) := rfl

variable [ExecutionAdapter A O Output Err]

def System.executing (σ : System S A O) (before : Process S) (taskId : TaskId) (operation : O) :
    System S A O :=
  let outcome := ExecutionAdapter.execute env.clock σ.gate.adapter operation
    σ.process.world.reads
  { σ with
    process := { σ.process with world := { σ.process.world with reads := outcome.2.2 } }
    gate := { σ.gate with adapter := outcome.2.1 }
    executed := σ.executed ++ [⟨taskId, operation, before, σ.process⟩] }

/-- `self.adapter.execute(operation)` with its error mapped. -/
def callAdapter (before : Process S) (taskId : TaskId) (operation : O) :
    GateM S A O Err Output := do
  let answer ← modifyGet (fun σ : System S A O =>
    ((ExecutionAdapter.execute env.clock σ.gate.adapter operation σ.process.world.reads).1,
      σ.executing env before taskId operation))
  match answer with
  | .ok output => pure output
  | .error error => throw (.err (.adapter error))

variable [EventStore S] [GuardedOperation O]

namespace ExecutionGate

def request (taskId : TaskId) (operation : O) (approvalTtl : Duration) :
    GateM S A O Err (ExecutionOutcome Output) := do
  let σ ← currentSystem
  handOver taskId operation
  let authorization ← supervised (requestOperation env taskId
    (GuardedOperation.capabilityRequest operation) approvalTtl)
  match authorization with
  | .allowed =>
    let output ← callAdapter env σ.process taskId operation
    pure (.executed ⟨output, none⟩)
  | .denied reason => pure (.denied reason)
  | .approvalRequired approval =>
    let previous ← currentSystem
    updateGate (fun gate => { gate with
      pending := gate.pending.insert approval.operationId
        ⟨taskId, approval.approvalId, operation⟩ })
    ensure (previous.gate.pending[approval.operationId]?).isNone
      (.panic "operation identifiers must be unique")
    updateGate (fun gate => { gate with
      approvalIndex := gate.approvalIndex.insert approval.approvalId approval.operationId })
    pure (.approvalRequired approval)

def approveAndExecute (approvalId : ApprovalId) : GateM S A O Err (Executed Output) := do
  let σ ← currentSystem
  let operationId ← okOr σ.gate.approvalIndex[approvalId]? (.err .operationNotFound)
  ensure (σ.gate.pending[operationId]?).isSome (.err .operationNotFound)
  let _ ← supervised (approveOperation env approvalId)
  let removed ← modifyGet (fun σ : System S A O =>
    ((σ.gate.removePending approvalId operationId).1,
      { σ with gate := (σ.gate.removePending approvalId operationId).2 }))
  let pending ← okOr removed (.err .operationNotFound)
  let approval ← supervised (authorizeOperation env pending.taskId operationId
    (GuardedOperation.capabilityRequest pending.operation))
  let output ← callAdapter env σ.process pending.taskId pending.operation
  pure ⟨output, some approval⟩

def deny (approvalId : ApprovalId) : GateM S A O Err TaskSnapshot := do
  let σ ← currentSystem
  let operationId ← okOr σ.gate.approvalIndex[approvalId]? (.err .operationNotFound)
  let task ← supervised (denyOperation env approvalId)
  updateGate (fun gate => (gate.removePending approvalId operationId).2)
  pure task

def expire : GateM S A O Err Nat := do
  let expired ← supervised (expireApprovals env)
  let σ ← currentSystem
  updateGate (fun gate => gate.purgeTerminal σ.process.supervisor)
  pure expired

def cancel (taskId : TaskId) : GateM S A O Err Bool := do
  let changed ← supervised (AiOs.cancel env taskId)
  updateGate (fun gate => gate.removeTask taskId)
  pure changed

end ExecutionGate

/-! The methods as equations: what each makes of the supervisor's answer. -/

/-- A supervisor's stop inside a method of the gate. -/
def GateStop.ofStop : Stop → GateStop Err
  | .err error => .err (.supervisor error)
  | .panic message => .panic message

omit [ExecutionAdapter A O Output Err] [EventStore S] [GuardedOperation O] in
theorem exec_supervised {α : Type} (method : SupervisorM S α) (σ : System S A O) :
    exec (supervised method : GateM S A O Err α) σ =
      ((exec method σ.process).1.mapError GateStop.ofStop,
        { σ with process := (exec method σ.process).2 }) := by
  rcases ran : exec method σ.process with ⟨(error | message) | value, after⟩ <;>
    simp only [supervised, exec_bind, exec_modifyGet, ran, exec_throw, exec_pure,
      Except.mapError, GateStop.ofStop]

omit [EventStore S] [GuardedOperation O] in
theorem exec_callAdapter (before : Process S) (taskId : TaskId) (operation : O)
    (σ : System S A O) :
    exec (callAdapter env before taskId operation : GateM S A O Err Output) σ =
      ((ExecutionAdapter.execute env.clock σ.gate.adapter operation
          σ.process.world.reads).1.mapError (fun error => .err (.adapter error)),
        σ.executing env before taskId operation) := by
  rcases ran : (ExecutionAdapter.execute env.clock σ.gate.adapter operation
      σ.process.world.reads).1 with error | output <;>
    simp only [callAdapter, exec_bind, exec_modifyGet, ran, exec_throw, exec_pure,
      Except.mapError]

namespace ExecutionGate

def retain (gate : ExecutionGate A O) (taskId : TaskId) (approval : ApprovalRequest)
    (operation : O) : ExecutionGate A O :=
  { gate with
    pending := gate.pending.insert approval.operationId ⟨taskId, approval.approvalId, operation⟩
    approvalIndex := gate.approvalIndex.insert approval.approvalId approval.operationId }

def asking (σ : System S A O) (taskId : TaskId) (operation : O) (approvalTtl : Duration) :
    System S A O :=
  { σ with
    process := (exec (requestOperation env taskId
      (GuardedOperation.capabilityRequest operation) approvalTtl) σ.process).2
    requested := σ.requested ++ [(taskId, operation)] }

theorem exec_request (taskId : TaskId) (operation : O) (approvalTtl : Duration)
    (σ : System S A O) :
    exec (request env taskId operation approvalTtl :
        GateM S A O Err (ExecutionOutcome Output)) σ =
      match (exec (requestOperation env taskId
        (GuardedOperation.capabilityRequest operation) approvalTtl) σ.process).1 with
      | .error stop => (.error (.ofStop stop), asking env σ taskId operation approvalTtl)
      | .ok .allowed =>
        (match (ExecutionAdapter.execute env.clock σ.gate.adapter operation
            (asking env σ taskId operation approvalTtl).process.world.reads).1 with
          | .ok output => .ok (.executed ⟨output, none⟩)
          | .error error => .error (.err (.adapter error)),
          (asking env σ taskId operation approvalTtl).executing env σ.process taskId operation)
      | .ok (.denied reason) => (.ok (.denied reason), asking env σ taskId operation approvalTtl)
      | .ok (.approvalRequired approval) =>
        if (σ.gate.pending[approval.operationId]?).isNone then
          (.ok (.approvalRequired approval), { asking env σ taskId operation approvalTtl with
            gate := σ.gate.retain taskId approval operation })
        else
          (.error (.panic "operation identifiers must be unique"),
            { asking env σ taskId operation approvalTtl with
              gate := { σ.gate with
                pending := σ.gate.pending.insert approval.operationId
                  ⟨taskId, approval.approvalId, operation⟩ } }) := by
  unfold request
  rw [exec_bind_ok (exec_currentSystem σ), exec_bind_ok (exec_handOver taskId operation σ),
    exec_bind, exec_supervised]
  rcases ran : exec (requestOperation env taskId
    (GuardedOperation.capabilityRequest operation) approvalTtl) σ.process with ⟨stop | answer, after⟩
  · simp only [Except.mapError, asking, ran]
  · cases answer with
    | allowed =>
      simp only [Except.mapError, asking, ran, exec_bind, exec_callAdapter]
      cases (ExecutionAdapter.execute env.clock σ.gate.adapter operation after.world.reads).1 <;>
        rfl
    | denied reason =>
      simp only [Except.mapError, asking, ran]
      rfl
    | approvalRequired approval =>
      simp only [Except.mapError, asking, ran, exec_bind, exec_currentSystem, exec_updateGate]
      cases (σ.gate.pending[approval.operationId]?).isNone <;> rfl

def approving (σ : System S A O) (approvalId : ApprovalId) (operationId : OperationId) :
    System S A O :=
  { σ with
    process := (exec (approveOperation env approvalId) σ.process).2
    gate := (σ.gate.removePending approvalId operationId).2 }

def consuming (σ : System S A O) (approvalId : ApprovalId) (operationId : OperationId)
    (pending : PendingExecution O) : System S A O :=
  { approving env σ approvalId operationId with
    process := (exec (authorizeOperation env pending.taskId operationId
      (GuardedOperation.capabilityRequest pending.operation))
      (approving env σ approvalId operationId).process).2 }

theorem exec_approveAndExecute (approvalId : ApprovalId) (σ : System S A O) :
    exec (approveAndExecute env approvalId : GateM S A O Err (Executed Output)) σ =
      match σ.gate.approvalIndex[approvalId]? with
      | none => (.error (.err .operationNotFound), σ)
      | some operationId =>
        match σ.gate.pending[operationId]? with
        | none => (.error (.err .operationNotFound), σ)
        | some pending =>
          match (exec (approveOperation env approvalId) σ.process).1 with
          | .error stop => (.error (.ofStop stop),
              { σ with process := (exec (approveOperation env approvalId) σ.process).2 })
          | .ok _ =>
            match (exec (authorizeOperation env pending.taskId operationId
              (GuardedOperation.capabilityRequest pending.operation))
              (approving env σ approvalId operationId).process).1 with
            | .error stop => (.error (.ofStop stop), consuming env σ approvalId operationId pending)
            | .ok approval =>
              (match (ExecutionAdapter.execute env.clock σ.gate.adapter pending.operation
                  (consuming env σ approvalId operationId pending).process.world.reads).1 with
                | .ok output => .ok ⟨output, some approval⟩
                | .error error => .error (.err (.adapter error)),
                (consuming env σ approvalId operationId pending).executing env σ.process
                  pending.taskId pending.operation) := by
  unfold approveAndExecute
  rw [exec_bind_ok (exec_currentSystem σ)]
  cases indexed : σ.gate.approvalIndex[approvalId]? with
  | none => rfl
  | some operationId =>
    rw [exec_bind_ok (exec_okOr_some _ _ _)]
    cases held : σ.gate.pending[operationId]? with
    | none => simp only [held, Option.isSome_none, ensure, exec_bind]; rfl
    | some pending =>
      simp only [Option.isSome_some, ensure, exec_bind, if_true, exec_pure, exec_supervised]
      rcases ran : exec (approveOperation env approvalId) σ.process with ⟨stop | task, after⟩
      · simp only [Except.mapError, held]
      · simp only [Except.mapError, exec_modifyGet, removePending, held, exec_okOr_some, approving,
          ran, consuming]
        rcases used : exec (authorizeOperation env pending.taskId operationId
          (GuardedOperation.capabilityRequest pending.operation)) after with ⟨stop | approval, last⟩
        · rfl
        · simp only [exec_callAdapter]
          cases (ExecutionAdapter.execute env.clock σ.gate.adapter pending.operation
            last.world.reads).1 <;> rfl

omit [ExecutionAdapter A O Output Err] [GuardedOperation O] in
theorem exec_deny (approvalId : ApprovalId) (σ : System S A O) :
    exec (deny env approvalId : GateM S A O Err TaskSnapshot) σ =
      match σ.gate.approvalIndex[approvalId]? with
      | none => (.error (.err .operationNotFound), σ)
      | some operationId =>
        match (exec (denyOperation env approvalId) σ.process).1 with
        | .error stop => (.error (.ofStop stop),
            { σ with process := (exec (denyOperation env approvalId) σ.process).2 })
        | .ok task => (.ok task, { σ with
            process := (exec (denyOperation env approvalId) σ.process).2
            gate := (σ.gate.removePending approvalId operationId).2 }) := by
  unfold deny
  rw [exec_bind_ok (exec_currentSystem σ)]
  cases indexed : σ.gate.approvalIndex[approvalId]? with
  | none => rfl
  | some operationId =>
    rw [exec_bind_ok (exec_okOr_some _ _ _), exec_bind, exec_supervised]
    rcases exec (denyOperation env approvalId) σ.process with ⟨stop | task, after⟩ <;> rfl

omit [ExecutionAdapter A O Output Err] [GuardedOperation O] in
theorem exec_expire (σ : System S A O) :
    exec (expire env : GateM S A O Err Nat) σ =
      match (exec (expireApprovals env) σ.process).1 with
      | .error stop => (.error (.ofStop stop),
          { σ with process := (exec (expireApprovals env) σ.process).2 })
      | .ok expired => (.ok expired, { σ with
          process := (exec (expireApprovals env) σ.process).2
          gate := σ.gate.purgeTerminal (exec (expireApprovals env) σ.process).2.supervisor }) := by
  unfold expire
  rw [exec_bind, exec_supervised]
  rcases exec (expireApprovals env) σ.process with ⟨stop | expired, after⟩ <;> rfl

omit [ExecutionAdapter A O Output Err] [GuardedOperation O] in
theorem exec_cancel (taskId : TaskId) (σ : System S A O) :
    exec (cancel env taskId : GateM S A O Err Bool) σ =
      match (exec (AiOs.cancel env taskId) σ.process).1 with
      | .error stop => (.error (.ofStop stop),
          { σ with process := (exec (AiOs.cancel env taskId) σ.process).2 })
      | .ok changed => (.ok changed, { σ with
          process := (exec (AiOs.cancel env taskId) σ.process).2
          gate := σ.gate.removeTask taskId }) := by
  unfold cancel
  rw [exec_bind, exec_supervised]
  rcases exec (AiOs.cancel env taskId) σ.process with ⟨stop | changed, after⟩ <;> rfl

end ExecutionGate

/-- What can happen in the system: a call of the gate, a call of the supervisor that does not
go through the gate, or a reading of the clock by somebody else. -/
inductive Act (O : Type) where
  | request (taskId : TaskId) (operation : O) (approvalTtl : Duration)
  | approveAndExecute (approvalId : ApprovalId)
  | deny (approvalId : ApprovalId)
  | expire
  | cancel (taskId : TaskId)
  | direct (call : Call)
  | elapse

def submission (spec : TaskSpec) : Except Stop SubmitResult → List (TaskId × TaskSpec)
  | .ok (.accepted task) | .ok (.rejected task _) => [(task.taskId, spec)]
  | _ => []

namespace System

omit [ExecutionAdapter A O Output Err] [GuardedOperation O] in
/-- A call that does not go through the gate, with the history it makes. -/
def direct (σ : System S A O) (call : Call) : System S A O :=
  let after := { σ with process := (call.run env σ.process).2 }
  match call with
  | .submit spec =>
    { after with submitted :=
        σ.submitted ++ submission spec (exec (submit env spec) σ.process).1 }
  | .start taskId | .startExecution taskId =>
    if (call.run env σ.process).1.isOk then
      { after with started := σ.started ++ [(taskId, env.clock σ.process.world.reads)] }
    else after
  | _ => after

omit [ExecutionAdapter A O Output Err] [GuardedOperation O] in
theorem direct_same (σ : System S A O) (call : Call) :
    (σ.direct env call).process = (call.run env σ.process).2 ∧
      (σ.direct env call).gate = σ.gate ∧ (σ.direct env call).requested = σ.requested ∧
      (σ.direct env call).executed = σ.executed := by
  unfold direct
  dsimp only
  split
  · exact ⟨rfl, rfl, rfl, rfl⟩
  · split <;> exact ⟨rfl, rfl, rfl, rfl⟩
  · split <;> exact ⟨rfl, rfl, rfl, rfl⟩
  · exact ⟨rfl, rfl, rfl, rfl⟩

def run (σ : System S A O) : Act O → System S A O
  | .request taskId operation approvalTtl =>
    (exec (ExecutionGate.request env taskId operation approvalTtl) σ).2
  | .approveAndExecute approvalId => (exec (ExecutionGate.approveAndExecute env approvalId) σ).2
  | .deny approvalId =>
    (exec (ExecutionGate.deny env approvalId : GateM S A O Err TaskSnapshot) σ).2
  | .expire => (exec (ExecutionGate.expire env : GateM S A O Err Nat) σ).2
  | .cancel taskId => (exec (ExecutionGate.cancel env taskId : GateM S A O Err Bool) σ).2
  | .direct call => σ.direct env call
  | .elapse => { σ with process := { σ.process with
      world := { σ.process.world with reads := σ.process.world.reads + 1 } } }

def runAll (σ : System S A O) (acts : List (Act O)) : System S A O :=
  acts.foldl (fun σ act => σ.run env act) σ

end System

end

end AiOs
