import AiOs.Agent.Decision
import AiOs.Runtime.Submission

/-! The Agent runtime of `aios-agent`: one model session at a time, driven turn by turn against
a supervisor and up to two gates. The methods keep their changes when they fail. Every call of
the model adapter, of a model session and of an execution adapter is kept in a trace. -/
namespace AiOs.Agent

open Fallible

inductive PendingAdapter where
  | tool
  | network
  deriving DecidableEq, Repr

structure PendingApproval where
  approvalId : ApprovalId
  adapter : PendingAdapter
  deriving DecidableEq, Repr

structure ActiveSession (C : Type) where
  taskId : TaskId
  model : C
  nextStep : Nat
  previousOperationOutput : Option (List UInt8)
  pendingApproval : Option PendingApproval

abbrev ToolGate (H : Type) := ExecutionGate (ToolSite H) ToolOperation
abbrev NetworkGate := ExecutionGate NetworkSite TcpExchangeOperation

/-- The fields of the runtime. The network catalog has no state. -/
structure AgentRuntime (M C H : Type) where
  modelAdapter : M
  toolCatalog : ToolCatalog
  toolGate : ToolGate H
  network : Option NetworkGate
  config : AgentConfig
  active : Option (ActiveSession C)

inductive AgentRunOutcome where
  | completed (output : AgentOutput)
  | waitingApproval (request : ApprovalRequest)
  | denied (reason : DenialReason)
  deriving DecidableEq, Repr

/-- How a method stops early. The last one is a loop that needs more turns than it was given. -/
inductive AgentStop where
  | err (error : AgentError)
  | panic (message : String)
  | unfinished
  deriving DecidableEq, Repr

inductive AgentOperation where
  | tool (operation : ToolOperation)
  | network (operation : TcpExchangeOperation)

/-- What happens around the runtime: a session is asked for, a session decides, an adapter
executes. The bytes of a failed execution are none. -/
inductive AgentEvent (C E : Type) where
  | opened (taskId : TaskId) (request : ModelStartRequest) (answer : Except E C)
  | decided (model : C) (request : ModelTurnRequest) (answer : Except E ModelDecision) (after : C)
  | executed (operation : AgentOperation) (output : Option (List UInt8))

/-- A runtime with its supervisor and the trace, newest event first. -/
structure AgentSystem (S M C E H : Type) where
  process : Process S
  agent : AgentRuntime M C H
  trace : List (AgentEvent C E)

abbrev AgentM (S M C E H : Type) := Fallible (AgentSystem S M C E H) AgentStop

def AgentRuntime.new {M C H : Type} (modelAdapter : M) (toolCatalog : ToolCatalog)
    (toolGate : ToolGate H) (config : AgentConfig) : AgentRuntime M C H :=
  ⟨modelAdapter, toolCatalog, toolGate, none, config, none⟩

def AgentRuntime.withNetworkGate {M C H : Type} (agent : AgentRuntime M C H)
    (gate : NetworkGate) : AgentRuntime M C H :=
  { agent with network := some gate }

def AgentRuntime.activeTask {M C H : Type} (agent : AgentRuntime M C H) : Option TaskId :=
  agent.active.map ActiveSession.taskId

def AgentRuntime.pendingAdapter {M C H : Type} (agent : AgentRuntime M C H) :
    Option PendingAdapter :=
  (agent.active.bind ActiveSession.pendingApproval).map PendingApproval.adapter

/-- The scope a session starts with: granted routes, and granted destinations that the network
catalog accepts. -/
def AgentRuntime.startRequest {M C H : Type} (agent : AgentRuntime M C H)
    (input : TaskExecutionInput) : ModelStartRequest where
  goal := input.goal
  toolRoutes := agent.toolCatalog.routeNamesForTools input.capabilityTools
  networkDestinations :=
    match agent.network with
    | some _ => input.networkDestinations.filter
        (fun destination => (prepareTcpExchange destination.host destination.port []).isOk)
    | none => []

/-- One of the two gates of a runtime, with what the two arms of the source differ in. -/
structure Port (M C H A O Output Err : Type) where
  gate : AgentRuntime M C H → Option (ExecutionGate A O)
  setGate : AgentRuntime M C H → ExecutionGate A O → AgentRuntime M C H
  adapter : PendingAdapter
  operation : O → AgentOperation
  bytes : Output → List UInt8
  exceeded : Err
  failed : AgentError

def toolPort (M C H : Type) :
    Port M C H (ToolSite H) ToolOperation ToolOutput ToolAdapterError where
  gate agent := some agent.toolGate
  setGate agent gate := { agent with toolGate := gate }
  adapter := .tool
  operation := .tool
  bytes := ToolOutput.bytes
  exceeded := .budgetExceeded
  failed := .toolFailed

def networkPort (M C H : Type) :
    Port M C H NetworkSite TcpExchangeOperation TcpExchangeResponse NetworkAdapterError where
  gate := AgentRuntime.network
  setGate agent gate := { agent with network := some gate }
  adapter := .network
  operation := .network
  bytes := TcpExchangeResponse.bytes
  exceeded := .budgetExceeded
  failed := .networkFailed

section
variable {S M C E H : Type} (env : Env)

def currentAgent : AgentM S M C E H (AgentSystem S M C E H) := modifyGet (fun σ => (σ, σ))

def updateAgent (f : AgentRuntime M C H → AgentRuntime M C H) : AgentM S M C E H Unit :=
  modifyGet (fun σ => ((), { σ with agent := f σ.agent }))

/-- `self.active = None` and `self.active = Some(session)` -/
def setActive (active : Option (ActiveSession C)) : AgentM S M C E H Unit :=
  updateAgent (fun agent => { agent with active := active })

/-- `self.active.as_mut().ok_or(InvalidState)?` with one change. -/
def updateActive (f : ActiveSession C → ActiveSession C) : AgentM S M C E H Unit := do
  let σ ← currentAgent
  let active ← okOr σ.agent.active (.err .invalidState)
  setActive (some (f active))

def AgentStop.ofStop : Stop → AgentStop
  | .err error => .err (.supervisor error)
  | .panic message => .panic message

/-- A method of the supervisor, with `?` on its answer. -/
def supervising {α : Type} (method : SupervisorM S α) : AgentM S M C E H α := do
  let answer ← modifyGet (fun σ : AgentSystem S M C E H =>
    ((exec method σ.process).1, { σ with process := (exec method σ.process).2 }))
  match answer with
  | .ok value => pure value
  | .error stop => throw (.ofStop stop)

/-- `supervisor.execution_context(task_id)?.remaining_wall_time()` -/
def remainingFor (taskId : TaskId) : SupervisorM S Duration := do
  let s ← current
  match s.executionContext taskId with
  | .error error => fail error
  | .ok context =>
    let reading ← now env
    pure (context.remainingWallTime reading)

/-- `supervisor.wall_time_exceeded(task_id)`: the clock is read behind the checks. -/
def wallTimeExceededNow (taskId : TaskId) : SupervisorM S Bool := do
  let s ← current
  let p ← get
  match s.wallTimeExceeded taskId (env.clock p.world.reads) with
  | .error error => fail error
  | .ok exceeded =>
    let _ ← now env
    pure exceeded

namespace Port
variable {A O Output Err α : Type} (port : Port M C H A O Output Err)

/-- The gate's own view of the system, with no history yet. -/
def system (σ : AgentSystem S M C E H) (gate : ExecutionGate A O) : System S A O :=
  ⟨σ.process, gate, [], [], [], []⟩

variable [ExecutionAdapter A O Output Err]

/-- One call of the adapter behind a gate, with the bytes it produced. -/
def event (gate : ExecutionGate A O) (x : Execution S O) : AgentEvent C E :=
  .executed (port.operation x.operation)
    ((ExecutionAdapter.execute env.clock gate.adapter x.operation x.moment.world.reads).1.toOption.map
      port.bytes)

/-- The parts go back, with what the adapter was made to do. -/
def absorb (σ : AgentSystem S M C E H) (gate : ExecutionGate A O) (out : System S A O) :
    AgentSystem S M C E H :=
  ⟨out.process, port.setGate σ.agent out.gate,
    (out.executed.map (port.event env gate)).reverse ++ σ.trace⟩

/-- A method of the gate, run on the runtime's own parts. Its answer is left to the caller. -/
def run (method : GateM S A O Err α) : AgentM S M C E H (Except (GateStop Err) α) := do
  let σ ← currentAgent
  let gate ← okOr (port.gate σ.agent) (.err .invalidState)
  modifyGet (fun σ => ((exec method (system σ gate)).1,
    port.absorb env σ gate (exec method (system σ gate)).2))

/-- `map_tool_error` and `map_network_error` -/
def mapError [DecidableEq Err] : ExecutionError Err → AgentError
  | .supervisor error => .supervisor error
  | .adapter error => if error = port.exceeded then .budgetExceeded else port.failed
  | .operationNotFound => port.failed

def propagateGate [DecidableEq Err] (answer : Except (GateStop Err) α) : AgentM S M C E H α :=
  match answer with
  | .ok value => pure value
  | .error (.err error) => throw (.err (port.mapError error))
  | .error (.panic message) => throw (.panic message)

end Port

variable [EventStore S]

/-- The session is dropped before the Task is failed. -/
def failActive (taskId : TaskId) : AgentM S M C E H Unit := do
  setActive none
  supervising (failTask env taskId)

def failBudgetActive (taskId : TaskId) : AgentM S M C E H Unit := do
  setActive none
  supervising (failBudgetExceeded env taskId)

section
variable {A O Output Err : Type} [ContextualOperation O] [ExecutionAdapter A O Output Err]
  [DecidableEq Err]

/-- A prepared operation goes to its gate. The loop goes on only after an execution. -/
def submitTo (port : Port M C H A O Output Err) (taskId : TaskId) (operation : O) :
    AgentM S M C E H (Option AgentRunOutcome) := do
  let σ ← currentAgent
  let outcome ← port.run env
    (requestInContext env taskId operation σ.agent.config.approvalTtl : GateM S A O Err _)
  match outcome with
  | .ok (.executed executed) =>
    updateActive (fun active =>
      { active with previousOperationOutput := some (port.bytes executed.output) })
    pure none
  | .ok (.denied reason) =>
    failActive env taskId
    pure (some (.denied reason))
  | .ok (.approvalRequired request) =>
    updateActive (fun active =>
      { active with pendingApproval := some ⟨request.approvalId, port.adapter⟩ })
    pure (some (.waitingApproval request))
  | .error (.err (.supervisor error)) =>
    setActive none
    throw (.err (.supervisor error))
  | .error (.err (.adapter error)) =>
    if error = port.exceeded then
      failBudgetActive env taskId
      throw (.err .budgetExceeded)
    else
      failActive env taskId
      throw (.err port.failed)
  | .error (.err .operationNotFound) =>
    failActive env taskId
    throw (.err port.failed)
  | .error (.panic message) => throw (.panic message)

end

section
variable [ModelSession C E]

/-- `active.model.decide(request)` on the active session. -/
def decideActive : AgentM S M C E H (Except E ModelDecision) := do
  let σ ← currentAgent
  let active ← okOr σ.agent.active (.err .invalidState)
  let request : ModelTurnRequest := ⟨active.nextStep, active.previousOperationOutput⟩
  let answer := ModelSession.decide active.model request
  modifyGet (fun σ => (answer.1, { σ with
    agent := { σ.agent with active := some { active with model := answer.2 } }
    trace := .decided active.model request answer.1 answer.2 :: σ.trace }))

variable [ToolHandler H]

def follow (taskId : TaskId) (decision : ModelDecision) :
    AgentM S M C E H (Option AgentRunOutcome) := do
  let σ ← currentAgent
  match decision with
  | .finish output =>
    setActive none
    supervising (succeed env taskId)
    pure (some (.completed output))
  | .callTool route arguments _ =>
    match σ.agent.toolCatalog.prepare route arguments with
    | .error _ =>
      failActive env taskId
      throw (.err .invalidDecision)
    | .ok operation => submitTo env (toolPort M C H) taskId operation
  | .tcpExchange host port request _ =>
    match σ.agent.network with
    | none =>
      failActive env taskId
      throw (.err .invalidDecision)
    | some _ =>
      match prepareTcpExchange host port request with
      | .error _ =>
        failActive env taskId
        throw (.err .invalidDecision)
      | .ok operation => submitTo env (networkPort M C H) taskId operation

/-- One turn of the loop in `drive`. -/
def turn : AgentM S M C E H (Option AgentRunOutcome) := do
  let σ ← currentAgent
  let active ← okOr σ.agent.active (.err .invalidState)
  let left ← supervising (remainingFor env active.taskId)
  if left = 0 then
    failBudgetActive env active.taskId
    throw (.err .budgetExceeded)
  else if σ.agent.config.maxSteps < active.nextStep then
    failActive env active.taskId
    throw (.err .stepLimitExceeded)
  else
    let answer ← decideActive
    match answer with
    | .error _ =>
      failActive env active.taskId
      throw (.err .modelFailed)
    | .ok decision =>
      let left ← supervising (remainingFor env active.taskId)
      if left = 0 then
        failBudgetActive env active.taskId
        throw (.err .budgetExceeded)
      else
        updateActive (fun active => { active with nextStep := active.nextStep + 1 })
        follow env active.taskId decision

/-- The loop, for at most so many turns. -/
def driveFor : Nat → AgentM S M C E H AgentRunOutcome
  | 0 => throw .unfinished
  | turns + 1 => do
    match ← turn env with
    | some outcome => pure outcome
    | none => driveFor turns

/-- Every turn uses up a step, and one more turn finds that none is left. -/
def drive : AgentM S M C E H AgentRunOutcome := do
  let σ ← currentAgent
  driveFor env (σ.agent.config.maxSteps + 1)

variable [ModelAdapter M C E]

/-- `self.model_adapter.start_session(request)` -/
def openSession (taskId : TaskId) (request : ModelStartRequest) : AgentM S M C E H (Except E C) :=
  modifyGet (fun σ =>
    let answer := ModelAdapter.startSession σ.agent.modelAdapter request
    (answer.1, { σ with
      agent := { σ.agent with modelAdapter := answer.2 }
      trace := .opened taskId request answer.1 :: σ.trace }))

/-- `start` up to its loop. -/
def openFor (taskId : TaskId) : AgentM S M C E H Unit := do
  let σ ← currentAgent
  ensure σ.agent.active.isNone (.err .capacityExceeded)
  let input ← supervising (startExecution env taskId)
  let answer ← openSession taskId (σ.agent.startRequest input)
  match answer with
  | .error _ =>
    supervising (failTask env taskId)
    throw (.err .modelFailed)
  | .ok model => setActive (some ⟨taskId, model, 1, none, none⟩)

def start (taskId : TaskId) : AgentM S M C E H AgentRunOutcome := do
  openFor env taskId
  drive env

end

/-- The two arms of `approve_and_resume`. -/
def approveThrough {A O Output Err : Type} [GuardedOperation O] [ExecutionAdapter A O Output Err]
    [DecidableEq Err] (port : Port M C H A O Output Err) (taskId : TaskId)
    (approvalId : ApprovalId) : AgentM S M C E H (List UInt8) := do
  let result ← port.run env (ExecutionGate.approveAndExecute env approvalId : GateM S A O Err _)
  match result with
  | .ok executed => pure (port.bytes executed.output)
  | .error (.err (.supervisor error)) => throw (.err (.supervisor error))
  | .error (.err (.adapter error)) =>
    if error = port.exceeded then
      failBudgetActive env taskId
      throw (.err .budgetExceeded)
    else
      failActive env taskId
      throw (.err port.failed)
  | .error (.err .operationNotFound) =>
    failActive env taskId
    throw (.err port.failed)
  | .error (.panic message) => throw (.panic message)

def approveAdapter [ToolHandler H] (taskId : TaskId) (approvalId : ApprovalId) :
    PendingAdapter → AgentM S M C E H (List UInt8)
  | .tool => approveThrough env (toolPort M C H) taskId approvalId
  | .network => approveThrough env (networkPort M C H) taskId approvalId

def requirePending (approvalId : ApprovalId) : AgentM S M C E H (TaskId × PendingAdapter) := do
  let σ ← currentAgent
  let active ← okOr σ.agent.active (.err .invalidState)
  let pending ← okOr active.pendingApproval (.err .invalidState)
  ensure (decide (pending.approvalId = approvalId)) (.err .invalidState)
  pure (active.taskId, pending.adapter)

/-- `approve_and_resume` up to its loop: both arms hand their output to
`resume_with_output`. -/
def takeUp [ToolHandler H] (approvalId : ApprovalId) : AgentM S M C E H Unit := do
  let (taskId, adapter) ← requirePending approvalId
  let output ← approveAdapter env taskId approvalId adapter
  updateActive (fun active =>
    { active with pendingApproval := none, previousOperationOutput := some output })

def approveAndResume [ModelSession C E] [ToolHandler H]
    (approvalId : ApprovalId) : AgentM S M C E H AgentRunOutcome := do
  takeUp env approvalId
  drive env

def denyThrough {A O Output Err : Type} [ExecutionAdapter A O Output Err] [DecidableEq Err]
    (port : Port M C H A O Output Err) (approvalId : ApprovalId) : AgentM S M C E H Unit := do
  let answer ← port.run env (ExecutionGate.deny env approvalId : GateM S A O Err _)
  let _ ← port.propagateGate answer

def denyAdapter [ToolHandler H] (approvalId : ApprovalId) :
    PendingAdapter → AgentM S M C E H Unit
  | .tool => denyThrough env (toolPort M C H) approvalId
  | .network => denyThrough env (networkPort M C H) approvalId

def deny [ToolHandler H] (approvalId : ApprovalId) : AgentM S M C E H Unit := do
  let (_, adapter) ← requirePending approvalId
  denyAdapter env approvalId adapter
  setActive none

def expireThrough {A O Output Err : Type} [ExecutionAdapter A O Output Err] [DecidableEq Err]
    (port : Port M C H A O Output Err) : AgentM S M C E H Nat := do
  let answer ← port.run env (ExecutionGate.expire env : GateM S A O Err _)
  port.propagateGate answer

def expireAdapter [ToolHandler H] : PendingAdapter → AgentM S M C E H Nat
  | .tool => expireThrough env (toolPort M C H)
  | .network => expireThrough env (networkPort M C H)

/-- The Task of the session, when its time is up. -/
def overdrawn : AgentM S M C E H (Option TaskId) := do
  let σ ← currentAgent
  match σ.agent.active with
  | none => pure none
  | some active =>
    let exceeded ← supervising (wallTimeExceededNow env active.taskId)
    pure (if exceeded then some active.taskId else none)

def releaseTerminal : AgentM S M C E H Unit := do
  let σ ← currentAgent
  if σ.agent.active.any (fun active =>
      (σ.process.supervisor.get active.taskId).any (fun task => task.state.isTerminal)) then
    setActive none
  else pure ()

def expire [ToolHandler H] : AgentM S M C E H Nat := do
  let σ ← currentAgent
  let adapter := σ.agent.pendingAdapter.getD .tool
  match ← overdrawn env with
  | some taskId =>
    failBudgetActive env taskId
    let _ ← expireAdapter env adapter
    throw (.err .budgetExceeded)
  | none =>
    let expired ← expireAdapter env adapter
    releaseTerminal
    pure expired

def cancelThrough {A O Output Err : Type} [ExecutionAdapter A O Output Err] [DecidableEq Err]
    (port : Port M C H A O Output Err) (taskId : TaskId) : AgentM S M C E H Bool := do
  let answer ← port.run env (ExecutionGate.cancel env taskId : GateM S A O Err _)
  port.propagateGate answer

def cancelAdapter [ToolHandler H] (taskId : TaskId) : PendingAdapter → AgentM S M C E H Bool
  | .tool => cancelThrough env (toolPort M C H) taskId
  | .network => cancelThrough env (networkPort M C H) taskId

def cancel [ToolHandler H] (taskId : TaskId) : AgentM S M C E H Bool := do
  let σ ← currentAgent
  ensure (!σ.agent.active.any (fun active => decide (active.taskId ≠ taskId)))
    (.err .invalidState)
  let changed ← cancelAdapter env taskId (σ.agent.pendingAdapter.getD .tool)
  setActive none
  pure changed

end

/-- What can happen around a runtime: a call of the Agent, a new network gate, a call of the
supervisor by somebody else, or a reading of the clock. Another gate on the same supervisor
makes calls of the last two kinds. -/
inductive AgentAct where
  | start (taskId : TaskId)
  | approveAndResume (approvalId : ApprovalId)
  | deny (approvalId : ApprovalId)
  | expire
  | cancel (taskId : TaskId)
  | withNetworkGate (site : NetworkSite)
  | direct (call : Call)
  | elapse

namespace AgentSystem
variable {S M C E H : Type} [LawfulEventStore S] [ModelSession C E] [ModelAdapter M C E]
  [ToolHandler H]

def run (env : Env) (σ : AgentSystem S M C E H) : AgentAct → AgentSystem S M C E H
  | .start taskId => (exec (start env taskId) σ).2
  | .approveAndResume approvalId => (exec (approveAndResume env approvalId) σ).2
  | .deny approvalId => (exec (deny env approvalId) σ).2
  | .expire => (exec (expire env) σ).2
  | .cancel taskId => (exec (cancel env taskId) σ).2
  | .withNetworkGate site => { σ with agent := σ.agent.withNetworkGate (.new site) }
  | .direct call => { σ with process := (call.run env σ.process).2 }
  | .elapse => { σ with process := { σ.process with
      world := { σ.process.world with reads := σ.process.world.reads + 1 } } }

/-- A new runtime next to a supervisor that any constructor has made on any store, and all
that can become of the two. -/
inductive Runs (env : Env) : AgentSystem S M C E H → Prop where
  | start {process : Process S} (constructed : Constructed env process) (modelAdapter : M)
      (catalog : ToolCatalog) (site : ToolSite H) (config : AgentConfig) :
      Runs env ⟨process, .new modelAdapter catalog (.new site) config, []⟩
  | step {σ : AgentSystem S M C E H} (runs : Runs env σ) (act : AgentAct) : Runs env (σ.run env act)

def runAll (env : Env) (σ : AgentSystem S M C E H) (acts : List AgentAct) :
    AgentSystem S M C E H :=
  acts.foldl (fun σ act => σ.run env act) σ

theorem Runs.runAll {env : Env} {σ : AgentSystem S M C E H} (runs : Runs env σ)
    (acts : List AgentAct) : Runs env (σ.runAll env acts) := by
  induction acts generalizing σ with
  | nil => exact runs
  | cons act rest ih => exact ih (runs.step act)

end AgentSystem

namespace Sample

structure Counter where
  count : UInt8

instance : ToolHandler Counter where
  execute _ counter _ reads :=
    (.ok ⟨[counter.count], Nat.le_of_ble_eq_true rfl⟩, ⟨counter.count + 1⟩, reads)

def catalog : ToolCatalog where
  definitions := ((∅ : OrdMap String RouteDefinition).insert "push" ⟨"git", "push"⟩).insert
    "status" ⟨"git", "status"⟩

def site : ToolSite Counter where
  adapter := ⟨catalog.definitions,
    ((∅ : OrdMap String Counter).insert "push" ⟨0⟩).insert "status" ⟨10⟩⟩
  outside := ()
  trace := []

abbrev Scripted :=
  AgentSystem InMemoryEventStore ScriptedModelAdapter ScriptedModelSession ScriptedModelError Counter

def toolCall (route : String) : List ModelDecision := (ModelDecision.ofTool route []).toOption.toList

def finish : List ModelDecision := (ModelDecision.ofText "done").toOption.toList

def agentWith (config : AgentConfig) (decisions : List ModelDecision) (acts : List AgentAct) :
    Scripted :=
  AgentSystem.runAll AiOs.Sample.env ⟨⟨Daemon.start, .new (AiOs.Sample.store 20)⟩,
    .new ⟨some decisions⟩ catalog (.new site) config, []⟩ acts

def agent (decisions : List ModelDecision) (acts : List AgentAct) : Scripted :=
  agentWith .default decisions acts

theorem agentWith_runs (config : AgentConfig) (decisions : List ModelDecision)
    (acts : List AgentAct) : (agentWith config decisions acts).Runs AiOs.Sample.env :=
  AgentSystem.Runs.runAll (.start (.new _ _) _ _ _ _) acts

theorem agent_runs (decisions : List ModelDecision) (acts : List AgentAct) :
    (agent decisions acts).Runs AiOs.Sample.env :=
  agentWith_runs .default decisions acts

def hasty : AgentConfig := ⟨4, Duration.fromMillis 1, by decide, by decide, by decide, by decide⟩

end Sample

end AiOs.Agent
