import AiOs.Agent.Runtime

/-! What one turn of the Agent can do, said once. A turn is refused, or it ends the session
together with the Task, or it submits an operation to one of the two gates. The loop has one
rule, and later proofs about it go through these cases. -/
namespace AiOs.Agent

open Fallible

namespace AgentSystem
variable {S M C E H : Type}

def drop (σ : AgentSystem S M C E H) (process : Process S) : AgentSystem S M C E H :=
  { σ with process := process, agent := { σ.agent with active := none } }

def withActive (σ : AgentSystem S M C E H) (active : ActiveSession C) : AgentSystem S M C E H :=
  { σ with agent := { σ.agent with active := some active } }

def ticked (σ : AgentSystem S M C E H) (reads : Nat) : AgentSystem S M C E H :=
  { σ with process := { σ.process with world := { σ.process.world with reads := reads } } }

def heard (σ : AgentSystem S M C E H) (active : ActiveSession C)
    (answer : Except E ModelDecision × C) : AgentSystem S M C E H :=
  { σ with
    agent := { σ.agent with active := some { active with model := answer.2 } }
    trace := .decided active.model ⟨active.nextStep, active.previousOperationOutput⟩
      answer.1 answer.2 :: σ.trace }

end AgentSystem

/-- The session is dropped, then the supervisor ends the Task; its refusal replaces the
answer. -/
def concluded {S M C E H α : Type} (method : SupervisorM S Unit) (answer : Except AgentStop α)
    (σ : AgentSystem S M C E H) : Except AgentStop α × AgentSystem S M C E H :=
  (match (exec method σ.process).1 with
    | .ok () => answer
    | .error stop => .error (.ofStop stop),
    σ.drop (exec method σ.process).2)

section equations
variable {S M C E H : Type} (env : Env)

theorem exec_currentAgent (σ : AgentSystem S M C E H) :
    exec (currentAgent : AgentM S M C E H _) σ = (.ok σ, σ) := rfl

theorem exec_setActive (active : Option (ActiveSession C)) (σ : AgentSystem S M C E H) :
    exec (setActive active : AgentM S M C E H Unit) σ =
      (.ok (), { σ with agent := { σ.agent with active := active } }) := rfl

theorem exec_updateActive {f : ActiveSession C → ActiveSession C} {σ : AgentSystem S M C E H}
    {active : ActiveSession C} (found : σ.agent.active = some active) :
    exec (updateActive f : AgentM S M C E H Unit) σ = (.ok (), σ.withActive (f active)) := by
  unfold updateActive
  rw [exec_bind_ok (exec_currentAgent σ), exec_bind_ok (exec_okOr_found found _ _)]
  rfl

theorem exec_supervising {α : Type} (method : SupervisorM S α) (σ : AgentSystem S M C E H) :
    exec (supervising method : AgentM S M C E H α) σ =
      ((exec method σ.process).1.mapError AgentStop.ofStop,
        { σ with process := (exec method σ.process).2 }) := by
  rcases ran : exec method σ.process with ⟨stop | value, after⟩ <;>
    simp only [supervising, exec_bind, exec_modifyGet, ran, exec_throw, exec_pure,
      Except.mapError]

theorem exec_conclude {α : Type} (method : SupervisorM S Unit) {rest : AgentM S M C E H α}
    {answer : Except AgentStop α} (answers : ∀ τ, exec rest τ = (answer, τ))
    (σ : AgentSystem S M C E H) :
    exec (do setActive none; supervising method; rest) σ = concluded method answer σ := by
  rw [exec_bind_ok (exec_setActive none σ), exec_bind, exec_supervising]
  simp only [concluded, AgentSystem.drop]
  rcases exec method σ.process with ⟨stop | value, after⟩
  · rfl
  · exact answers _

theorem exec_conclude_idle {α : Type} (method : SupervisorM S Unit) {rest : AgentM S M C E H α}
    {answer : Except AgentStop α} (answers : ∀ τ, exec rest τ = (answer, τ))
    {σ : AgentSystem S M C E H} (idle : σ.agent.active = none) :
    exec (do supervising method; rest) σ = concluded method answer σ := by
  rw [← exec_conclude method answers, exec_bind_ok (exec_setActive none σ)]
  obtain ⟨p, ⟨adapter, catalog, gate, network, config, active⟩, trace⟩ := σ
  cases idle
  rfl

theorem exec_remaining_known {taskId : TaskId} {σ : AgentSystem S M C E H}
    {context : TaskExecutionContext}
    (known : σ.process.supervisor.executionContext taskId = .ok context) :
    exec (supervising (remainingFor env taskId) : AgentM S M C E H Duration) σ =
      (.ok (context.remainingWallTime (env.clock σ.process.world.reads)),
        σ.ticked (σ.process.world.reads + 1)) := by
  rw [exec_supervising, remainingFor,
    exec_bind_ok (show exec current σ.process = (.ok σ.process.supervisor, σ.process) from rfl),
    known]
  rfl

theorem exec_remaining_refused {taskId : TaskId} {σ : AgentSystem S M C E H}
    {error : SupervisorError}
    (refused : σ.process.supervisor.executionContext taskId = .error error) :
    exec (supervising (remainingFor env taskId) : AgentM S M C E H Duration) σ =
      (.error (.err (.supervisor error)), σ) := by
  rw [exec_supervising, remainingFor,
    exec_bind_ok (show exec current σ.process = (.ok σ.process.supervisor, σ.process) from rfl),
    refused]
  rfl

theorem exec_wallTimeExceeded (taskId : TaskId) (σ : AgentSystem S M C E H) :
    exec (supervising (wallTimeExceededNow env taskId) : AgentM S M C E H Bool) σ =
      match σ.process.supervisor.wallTimeExceeded taskId (env.clock σ.process.world.reads) with
      | .error error => (.error (.err (.supervisor error)), σ)
      | .ok exceeded => (.ok exceeded, σ.ticked (σ.process.world.reads + 1)) := by
  rw [exec_supervising, wallTimeExceededNow,
    exec_bind_ok (show exec current σ.process = (.ok σ.process.supervisor, σ.process) from rfl),
    exec_bind_ok (exec_get σ.process)]
  cases σ.process.supervisor.wallTimeExceeded taskId (env.clock σ.process.world.reads) <;> rfl

variable [EventStore S]

theorem exec_failActive {α : Type} (taskId : TaskId) {rest : AgentM S M C E H α}
    {answer : Except AgentStop α} (answers : ∀ τ, exec rest τ = (answer, τ))
    (σ : AgentSystem S M C E H) :
    exec (do failActive env taskId; rest) σ = concluded (failTask env taskId) answer σ := by
  rw [← exec_conclude (failTask env taskId) answers, failActive, bind_assoc]

theorem exec_failBudgetActive {α : Type} (taskId : TaskId) {rest : AgentM S M C E H α}
    {answer : Except AgentStop α} (answers : ∀ τ, exec rest τ = (answer, τ))
    (σ : AgentSystem S M C E H) :
    exec (do failBudgetActive env taskId; rest) σ =
      concluded (failBudgetExceeded env taskId) answer σ := by
  rw [← exec_conclude (failBudgetExceeded env taskId) answers, failBudgetActive, bind_assoc]

omit [EventStore S] in
theorem exec_decideActive [ModelSession C E] {σ : AgentSystem S M C E H}
    {active : ActiveSession C} (found : σ.agent.active = some active) :
    exec (decideActive : AgentM S M C E H (Except E ModelDecision)) σ =
      (.ok (ModelSession.decide active.model
          ⟨active.nextStep, active.previousOperationOutput⟩).1,
        σ.heard active (ModelSession.decide active.model
          ⟨active.nextStep, active.previousOperationOutput⟩)) := by
  unfold decideActive
  rw [exec_bind_ok (exec_currentAgent σ), exec_bind_ok (exec_okOr_found found _ _)]
  rfl

end equations

/-- The answers a session and its Task end with, and what the supervisor does for each. -/
inductive Ends {S : Type} [EventStore S] (env : Env) (taskId : TaskId) :
    SupervisorM S Unit → Except AgentStop AgentRunOutcome → Prop where
  | completed (output : AgentOutput) : Ends env taskId (succeed env taskId) (.ok (.completed output))
  | denied (reason : DenialReason) : Ends env taskId (failTask env taskId) (.ok (.denied reason))
  | budget : Ends env taskId (failBudgetExceeded env taskId) (.error (.err .budgetExceeded))
  | failed (error : AgentError) (ending : error ∈ [AgentError.invalidDecision, .stepLimitExceeded,
      .modelFailed, .toolFailed, .networkFailed]) :
      Ends env taskId (failTask env taskId) (.error (.err error))

/-- The operation a decision stands for; the context of its Task is no part of it. -/
def ModelDecision.Describes : ModelDecision → AgentOperation → Prop
  | .callTool route arguments _, .tool operation =>
    operation.route = route ∧ operation.arguments = arguments
  | .tcpExchange host port request _, .network operation =>
    operation.host = host ∧ operation.port = port ∧ operation.request = request
  | _, _ => False

/-- The request that a decision puts to a gate. -/
def AgentRuntime.proposal {M C H : Type} (agent : AgentRuntime M C H) :
    ModelDecision → Option CapabilityRequest
  | .finish _ => none
  | .callTool route arguments _ =>
    (agent.toolCatalog.prepare route arguments).toOption.map GuardedOperation.capabilityRequest
  | .tcpExchange host port request _ =>
    match agent.network with
    | none => none
    | some _ =>
      (prepareTcpExchange host port request).toOption.map GuardedOperation.capabilityRequest

section turn
variable {S M C E H : Type} [EventStore S] [ModelSession C E] [ToolHandler H] (env : Env)

/-- The system when a decision is followed: the session has moved on by one step. -/
def AgentSystem.poised (σ : AgentSystem S M C E H) (active : ActiveSession C)
    (answer : Except E ModelDecision × C) : AgentSystem S M C E H :=
  (((σ.ticked (σ.process.world.reads + 1)).heard active answer).ticked
    (σ.process.world.reads + 2)).withActive
      { active with model := answer.2, nextStep := active.nextStep + 1 }

/-- One turn as an equation. -/
theorem exec_turn {σ : AgentSystem S M C E H} {active : ActiveSession C}
    (found : σ.agent.active = some active) :
    exec (turn env : AgentM S M C E H (Option AgentRunOutcome)) σ =
      match σ.process.supervisor.executionContext active.taskId with
      | .error error => (.error (.err (.supervisor error)), σ)
      | .ok context =>
        if context.remainingWallTime (env.clock σ.process.world.reads) = 0 then
          concluded (failBudgetExceeded env active.taskId) (.error (.err .budgetExceeded))
            (σ.ticked (σ.process.world.reads + 1))
        else if σ.agent.config.maxSteps < active.nextStep then
          concluded (failTask env active.taskId) (.error (.err .stepLimitExceeded))
            (σ.ticked (σ.process.world.reads + 1))
        else
          match ModelSession.decide active.model
            ⟨active.nextStep, active.previousOperationOutput⟩ with
          | (.error error, after) =>
            concluded (failTask env active.taskId) (.error (.err .modelFailed))
              ((σ.ticked (σ.process.world.reads + 1)).heard active (.error error, after))
          | (.ok decision, after) =>
            if context.remainingWallTime (env.clock (σ.process.world.reads + 1)) = 0 then
              concluded (failBudgetExceeded env active.taskId) (.error (.err .budgetExceeded))
                (((σ.ticked (σ.process.world.reads + 1)).heard active (.ok decision, after)).ticked
                  (σ.process.world.reads + 2))
            else exec (follow env active.taskId decision)
              (σ.poised active (.ok decision, after)) := by
  unfold turn
  rw [exec_bind_ok (exec_currentAgent σ), exec_bind_ok (exec_okOr_found found _ _)]
  cases known : σ.process.supervisor.executionContext active.taskId with
  | error error => rw [exec_bind_error (exec_remaining_refused env known)]
  | ok context =>
    rw [exec_bind_ok (exec_remaining_known env known)]
    dsimp only
    split
    · exact exec_failBudgetActive env _ (fun _ => rfl) _
    split
    · exact exec_failActive env _ (fun _ => rfl) _
    rw [exec_bind_ok (exec_decideActive (σ := σ.ticked (σ.process.world.reads + 1)) found)]
    rcases ModelSession.decide active.model
      ⟨active.nextStep, active.previousOperationOutput⟩ with ⟨error | decision, after⟩
    · exact exec_failActive env _ (fun _ => rfl) _
    · let waited := (σ.ticked (σ.process.world.reads + 1)).heard active (.ok decision, after)
      dsimp only
      rw [exec_bind_ok (exec_remaining_known env (σ := waited) known)]
      change exec (if context.remainingWallTime (env.clock (σ.process.world.reads + 1)) = 0
        then _ else _) (waited.ticked (σ.process.world.reads + 2)) = _
      by_cases spent : context.remainingWallTime (env.clock (σ.process.world.reads + 1)) = 0
      · rw [if_pos spent, if_pos spent]
        exact exec_failBudgetActive env _ (fun _ => rfl) _
      · rw [if_neg spent, if_neg spent, exec_bind_ok (exec_updateActive rfl)]
        rfl

omit [ModelSession C E] in
theorem exec_follow (taskId : TaskId) (decision : ModelDecision) (σ : AgentSystem S M C E H) :
    exec (follow env taskId decision : AgentM S M C E H (Option AgentRunOutcome)) σ =
      match decision with
      | .finish output => concluded (succeed env taskId) (.ok (some (.completed output))) σ
      | .callTool route arguments _ =>
        match σ.agent.toolCatalog.prepare route arguments with
        | .error _ => concluded (failTask env taskId) (.error (.err .invalidDecision)) σ
        | .ok operation => exec (submitTo env (toolPort M C H) taskId operation) σ
      | .tcpExchange host port request _ =>
        match σ.agent.network with
        | none => concluded (failTask env taskId) (.error (.err .invalidDecision)) σ
        | some _ =>
          match prepareTcpExchange host port request with
          | .error _ => concluded (failTask env taskId) (.error (.err .invalidDecision)) σ
          | .ok operation => exec (submitTo env (networkPort M C H) taskId operation) σ := by
  unfold follow
  rw [exec_bind_ok (exec_currentAgent σ)]
  cases decision with
  | finish output => exact exec_conclude _ (fun _ => rfl) _
  | callTool route arguments valid =>
    dsimp only
    cases σ.agent.toolCatalog.prepare route arguments with
    | error error => exact exec_failActive env _ (fun _ => rfl) _
    | ok operation => rfl
  | tcpExchange host port request valid =>
    dsimp only
    cases σ.agent.network with
    | none => exact exec_failActive env _ (fun _ => rfl) _
    | some gate =>
      cases prepareTcpExchange host port request with
      | error error => exact exec_failActive env _ (fun _ => rfl) _
      | ok operation => rfl

end turn

abbrev GateProperty := ∀ {A O : Type} [GuardedOperation O], ExecutionGate A O → Prop

/-- Both gates of a runtime have a property. -/
structure AgentRuntime.Gates {M C H : Type} (agent : AgentRuntime M C H) (Q : GateProperty) :
    Prop where
  tool : Q agent.toolGate
  network : ∀ gate, agent.network = some gate → Q gate

def holds {A O : Type} (gate : ExecutionGate A O) (approvalId : ApprovalId) (operation : O) : Prop :=
  ∃ operationId pending, gate.approvalIndex[approvalId]? = some operationId ∧
    gate.pending[operationId]? = some pending ∧ pending.operation = operation

theorem holds_retain {A O : Type} {gate : ExecutionGate A O} {taskId : TaskId}
    {approval : ApprovalRequest} {operation kept : O} :
    holds (gate.retain taskId approval operation) approval.approvalId kept ↔ operation = kept := by
  have index : (gate.retain taskId approval operation).approvalIndex[approval.approvalId]? =
      some approval.operationId := by
    rw [ExecutionGate.retain, OrdMap.get_insert, if_pos rfl]
  have entry : (gate.retain taskId approval operation).pending[approval.operationId]? =
      some ⟨taskId, approval.approvalId, operation⟩ := by
    rw [ExecutionGate.retain, OrdMap.get_insert, if_pos rfl]
  constructor
  · rintro ⟨operationId, pending, indexed, there, rfl⟩
    cases Option.some.inj (index.symm.trans indexed)
    cases Option.some.inj (entry.symm.trans there)
    rfl
  · rintro rfl
    exact ⟨_, _, index, entry, rfl⟩

/-- Entries were taken out of a gate, and nothing was put in. -/
structure Fewer {A O : Type} (gate after : ExecutionGate A O) : Prop where
  index : ∀ (id : ApprovalId) (operationId : OperationId),
    after.approvalIndex[id]? = some operationId → gate.approvalIndex[id]? = some operationId
  pending : ∀ (operationId : OperationId) (kept : PendingExecution O),
    after.pending[operationId]? = some kept → gate.pending[operationId]? = some kept

namespace Fewer
variable {A O : Type} {gate mid after : ExecutionGate A O}

theorem refl (gate : ExecutionGate A O) : Fewer gate gate := ⟨fun _ _ => id, fun _ _ => id⟩

theorem trans (first : Fewer gate mid) (second : Fewer mid after) : Fewer gate after :=
  ⟨fun id operationId there => first.index id operationId (second.index id operationId there),
    fun operationId kept there => first.pending operationId kept (second.pending operationId kept there)⟩

theorem holds (fewer : Fewer gate after) {approvalId : ApprovalId} {operation : O}
    (held : Agent.holds after approvalId operation) : Agent.holds gate approvalId operation := by
  obtain ⟨operationId, pending, indexed, there, same⟩ := held
  exact ⟨operationId, pending, fewer.index _ _ indexed, fewer.pending _ _ there, same⟩

theorem erase (gate : ExecutionGate A O) (approvalId : ApprovalId) (operationId : OperationId) :
    Fewer gate (gate.removePending approvalId operationId).2 := by
  constructor
  · intro id other there
    change (gate.approvalIndex.erase approvalId)[id]? = _ at there
    rw [OrdMap.get_erase] at there
    split at there
    · cases there
    · exact there
  · intro other kept there
    change (gate.pending.erase operationId)[other]? = _ at there
    rw [OrdMap.get_erase] at there
    split at there
    · cases there
    · exact there

theorem foldl {β : Type} {step : ExecutionGate A O → β → ExecutionGate A O}
    (fewer : ∀ gate b, Fewer gate (step gate b)) (items : List β) (gate : ExecutionGate A O) :
    Fewer gate (items.foldl step gate) := by
  induction items generalizing gate with
  | nil => exact refl gate
  | cons item rest ih => exact (fewer gate item).trans (ih (step gate item))

theorem removeTask (gate : ExecutionGate A O) (taskId : TaskId) :
    Fewer gate (gate.removeTask taskId) := by
  apply foldl
  intro gate operationId
  unfold ExecutionGate.dropOperation
  split
  · exact erase gate _ operationId
  · exact refl gate

theorem purgeTerminal {S : Type} (gate : ExecutionGate A O) (supervisor : TaskSupervisor S) :
    Fewer gate (gate.purgeTerminal supervisor) :=
  foldl removeTask _ gate

end Fewer

/-- The runtime keeps an operation under an approval in the gate of an adapter. -/
def AgentRuntime.Retains {M C H : Type} (agent : AgentRuntime M C H) :
    PendingAdapter → ApprovalId → AgentOperation → Prop
  | .tool, approvalId, operation =>
    ∃ kept, holds agent.toolGate approvalId kept ∧ operation = .tool kept
  | .network, approvalId, operation =>
    ∃ gate kept, agent.network = some gate ∧ holds gate approvalId kept ∧ operation = .network kept

/-- Some execution of the operation has these bytes as its output. -/
def AgentOperation.Produces (H : Type) [ToolHandler H] (clock : Nat → Instant) :
    AgentOperation → List UInt8 → Prop
  | .tool operation, bytes => ∃ (site : ToolSite H) (reads : Nat) (output : ToolOutput),
    (ExecutionAdapter.execute clock site operation reads).1 = .ok output ∧ output.bytes = bytes
  | .network operation, bytes =>
    ∃ (site : NetworkSite) (reads : Nat) (output : TcpExchangeResponse),
      (ExecutionAdapter.execute clock site operation reads).1 = .ok output ∧ output.bytes = bytes

namespace Port
variable {M C H A O Output Err : Type}

structure Lawful [ToolHandler H] [ContextualOperation O] [ExecutionAdapter A O Output Err]
    (port : Port M C H A O Output Err) : Prop where
  active : ∀ agent gate, (port.setGate agent gate).active = agent.active
  config : ∀ agent gate, (port.setGate agent gate).config = agent.config
  catalog : ∀ agent gate, (port.setGate agent gate).toolCatalog = agent.toolCatalog
  gates : ∀ {agent gate} {Q : GateProperty}, agent.Gates Q → Q gate →
    (port.setGate agent gate).Gates Q
  own : ∀ {agent gate} {Q : GateProperty}, agent.Gates Q → port.gate agent = some gate → Q gate
  retains : ∀ {agent approvalId operation}, agent.Retains port.adapter approvalId operation ↔
    ∃ gate kept, port.gate agent = some gate ∧ holds gate approvalId kept ∧
      operation = port.operation kept
  apart : ∀ agent gate adapter, adapter ≠ port.adapter →
    (port.setGate agent gate).Retains adapter = agent.Retains adapter
  installed : ∀ agent gate, port.gate (port.setGate agent gate) = some gate
  restored : ∀ {agent gate}, port.gate agent = some gate → port.setGate agent gate = agent
  session : ∀ agent active, port.gate { agent with active := active } = port.gate agent
  failed : port.failed = .toolFailed ∨ port.failed = .networkFailed
  describes : ∀ decision context operation,
    ModelDecision.Describes decision (port.operation operation) →
    ModelDecision.Describes decision (port.operation (ContextualOperation.attach context operation))
  produces : ∀ (clock : Nat → Instant) (adapter : A) (operation : O) (reads : Nat) (output : Output),
    (ExecutionAdapter.execute clock adapter operation reads).1 = .ok output →
    (port.operation operation).Produces H clock (port.bytes output)

theorem toolPort_lawful [ToolHandler H] : (toolPort M C H).Lawful where
  active _ _ := rfl
  config _ _ := rfl
  catalog _ _ := rfl
  gates both new := ⟨new, both.network⟩
  own both found := by
    cases Option.some.inj found
    exact both.tool
  retains {agent approvalId operation} := by
    constructor
    · rintro ⟨kept, held, same⟩
      exact ⟨_, kept, rfl, held, same⟩
    · rintro ⟨gate, kept, found, held, same⟩
      cases Option.some.inj found
      exact ⟨kept, held, same⟩
  apart agent gate adapter other := by
    cases adapter with
    | tool => exact absurd rfl other
    | network => rfl
  installed _ _ := rfl
  restored found := by
    cases Option.some.inj found
    rfl
  session _ _ := rfl
  failed := .inl rfl
  describes decision context operation described := by
    cases decision <;> exact described
  produces clock adapter operation reads output ran := ⟨adapter, reads, output, ran, rfl⟩

theorem networkPort_lawful [ToolHandler H] : (networkPort M C H).Lawful where
  active _ _ := rfl
  config _ _ := rfl
  catalog _ _ := rfl
  gates both new := by
    refine ⟨both.tool, ?_⟩
    intro gate found
    cases Option.some.inj found
    exact new
  own both found := both.network _ found
  retains := Iff.rfl
  apart agent gate adapter other := by
    cases adapter with
    | tool => rfl
    | network => exact absurd rfl other
  installed _ _ := rfl
  restored {agent gate} found := by
    change agent.network = some gate at found
    change { agent with network := some gate } = agent
    rw [← found]
  session _ _ := rfl
  failed := .inr rfl
  describes decision context operation described := by
    cases decision <;> exact described
  produces clock adapter operation reads output ran := ⟨adapter, reads, output, ran, rfl⟩

theorem Lawful.failing [ToolHandler H] [ContextualOperation O]
    [ExecutionAdapter A O Output Err] {port : Port M C H A O Output Err}
    (lawful : port.Lawful) : port.failed ∈ [AgentError.invalidDecision, .stepLimitExceeded,
      .modelFailed, .toolFailed, .networkFailed] := by
  rcases lawful.failed with same | same <;> rw [same] <;> decide

def served {S E : Type} (port : Port M C H A O Output Err) (σ : AgentSystem S M C E H)
    (gate : ExecutionGate A O) (process : Process S) (events : List (AgentEvent C E)) :
    AgentSystem S M C E H :=
  ⟨process, port.setGate σ.agent gate, events ++ σ.trace⟩

section run
variable {S E α : Type} [ExecutionAdapter A O Output Err] {env : Env}
  {port : Port M C H A O Output Err} {σ : AgentSystem S M C E H} {gate : ExecutionGate A O}

theorem exec_run (found : port.gate σ.agent = some gate) (method : GateM S A O Err α) :
    exec (port.run env method : AgentM S M C E H _) σ =
      (.ok (exec method (system σ gate)).1,
        port.absorb env σ gate (exec method (system σ gate)).2) := by
  unfold run
  rw [exec_bind_ok (exec_currentAgent σ), exec_bind_ok (exec_okOr_found found _ _)]
  rfl

theorem exec_run_missing (missing : port.gate σ.agent = none) (method : GateM S A O Err α) :
    exec (port.run env method : AgentM S M C E H _) σ = (.error (.err .invalidState), σ) := by
  unfold run
  rw [exec_bind_ok (exec_currentAgent σ), missing]
  rfl

end run

end Port

section submit
variable {S M C E H A O Output Err : Type} [EventStore S] [ContextualOperation O]
  [ExecutionAdapter A O Output Err] [DecidableEq Err] {env : Env}
  {port : Port M C H A O Output Err} {σ : AgentSystem S M C E H} {gate : ExecutionGate A O}
  {active : ActiveSession C} {context : TaskExecutionContext}

omit [DecidableEq Err] in
theorem exec_requestInContext {taskId : TaskId} {σ : System S A O}
    (known : σ.process.supervisor.executionContext taskId = .ok context) (operation : O)
    (approvalTtl : Duration) :
    exec (requestInContext env taskId operation approvalTtl :
        GateM S A O Err (ExecutionOutcome Output)) σ =
      exec (ExecutionGate.request env taskId (ContextualOperation.attach context operation)
        approvalTtl) σ := by
  unfold requestInContext
  rw [exec_bind_ok (exec_currentSystem σ), known]

variable (env port) in
/-- How a submitted operation ends, by the supervisor's answer to its request. -/
def submitted (σ : AgentSystem S M C E H) (gate : ExecutionGate A O) (active : ActiveSession C)
    (operation : O) : Except Stop OperationAuthorization → Process S →
      Except AgentStop (Option AgentRunOutcome) × AgentSystem S M C E H
  | .error (.err error), after =>
    (.error (.err (.supervisor error)), (port.served σ gate after []).drop after)
  | .error (.panic message), after => (.error (.panic message), port.served σ gate after [])
  | .ok (.denied reason), after =>
    concluded (failTask env active.taskId) (.ok (some (.denied reason)))
      (port.served σ gate after [])
  | .ok (.approvalRequired approval), after =>
    if (gate.pending[approval.operationId]?).isNone then
      (.ok (some (.waitingApproval approval)),
        (port.served σ (gate.retain active.taskId approval operation) after []).withActive
          { active with pendingApproval := some ⟨approval.approvalId, port.adapter⟩ })
    else (.error (.panic "operation identifiers must be unique"),
      port.served σ
        { gate with
          pending := gate.pending.insert approval.operationId
            ⟨active.taskId, approval.approvalId, operation⟩ } after [])
  | .ok .allowed, after =>
    match ExecutionAdapter.execute env.clock gate.adapter operation after.world.reads with
    | (.ok output, adapter, reads) =>
      (.ok none, (port.served σ { gate with adapter := adapter }
        { after with world := { after.world with reads := reads } }
        [.executed (port.operation operation) (some (port.bytes output))]).withActive
          { active with previousOperationOutput := some (port.bytes output) })
    | (.error error, adapter, reads) =>
      let failing := port.served σ { gate with adapter := adapter }
        { after with world := { after.world with reads := reads } }
        [.executed (port.operation operation) none]
      if error = port.exceeded then
        concluded (failBudgetExceeded env active.taskId) (.error (.err .budgetExceeded)) failing
      else concluded (failTask env active.taskId) (.error (.err port.failed)) failing

theorem exec_submitTo [ToolHandler H] (lawful : port.Lawful) (found : port.gate σ.agent = some gate)
    (session : σ.agent.active = some active)
    (known : σ.process.supervisor.executionContext active.taskId = .ok context) (operation : O) :
    exec (submitTo env port active.taskId operation) σ =
      submitted env port σ gate active (ContextualOperation.attach context operation)
        (exec (requestOperation env active.taskId
          (GuardedOperation.capabilityRequest operation) σ.agent.config.approvalTtl) σ.process).1
        (exec (requestOperation env active.taskId
          (GuardedOperation.capabilityRequest operation) σ.agent.config.approvalTtl) σ.process).2 := by
  have kept : ∀ gate process events,
      (port.served σ gate process events).agent.active = some active :=
    fun gate _ _ => (lawful.active σ.agent gate).trans session
  have requested : exec (requestInContext env active.taskId operation
      σ.agent.config.approvalTtl : GateM S A O Err (ExecutionOutcome Output))
        (Port.system σ gate) = _ :=
    (exec_requestInContext (σ := Port.system σ gate) known _ _).trans
      (ExecutionGate.exec_request env _ _ _ _)
  rw [ContextualOperation.capabilityRequest_attach] at requested
  simp only [ExecutionGate.asking, ContextualOperation.capabilityRequest_attach] at requested
  unfold submitTo
  rw [exec_bind_ok (exec_currentAgent σ), exec_bind_ok (Port.exec_run found _)]
  rcases asked : exec (requestOperation env active.taskId
    (GuardedOperation.capabilityRequest operation) σ.agent.config.approvalTtl) σ.process with
    ⟨(error | message) | answer, after⟩
  · simp only [Port.system, asked, GateStop.ofStop] at requested
    rw [Port.system, requested]
    rfl
  · simp only [Port.system, asked, GateStop.ofStop] at requested
    rw [Port.system, requested]
    rfl
  · cases answer with
    | denied reason =>
      simp only [Port.system, asked] at requested
      rw [Port.system, requested]
      exact exec_failActive env _ (fun _ => rfl) _
    | approvalRequired approval =>
      simp only [Port.system, asked] at requested
      cases new : (gate.pending[approval.operationId]?).isNone with
      | true =>
        rw [if_pos new] at requested
        rw [Port.system, requested, submitted, if_pos new]
        exact exec_bind_ok (exec_updateActive (kept _ after []))
      | false =>
        rw [new, if_neg Bool.false_ne_true] at requested
        rw [Port.system, requested, submitted, new, if_neg Bool.false_ne_true]
        rfl
    | allowed =>
      simp only [Port.system, asked] at requested
      rcases ran : ExecutionAdapter.execute env.clock gate.adapter
        (ContextualOperation.attach context operation) after.world.reads with
        ⟨error | output, adapter, reads⟩
      · simp only [ran, System.executing] at requested
        rw [Port.system, requested, submitted, ran]
        simp only [Port.absorb, Port.event, ran, List.nil_append, List.map_cons, List.map_nil,
          List.reverse_singleton]
        by_cases budget : error = port.exceeded
        · rw [if_pos budget, if_pos budget]
          exact exec_failBudgetActive env _ (fun _ => rfl) _
        · rw [if_neg budget, if_neg budget]
          exact exec_failActive env _ (fun _ => rfl) _
      · simp only [ran, System.executing] at requested
        rw [Port.system, requested, submitted, ran]
        simp only [Port.absorb, Port.event, ran, List.nil_append, List.map_cons, List.map_nil,
          List.reverse_singleton]
        exact exec_bind_ok (exec_updateActive (kept _ _ _))

end submit

section rules
variable {S M C E H : Type} [EventStore S] [ModelSession C E] [ToolHandler H] {env : Env}
  {σ : AgentSystem S M C E H} {active : ActiveSession C}

/-- What may lie behind a turn that ends the session: readings of the clock, and a decision. -/
structure Saw (σ : AgentSystem S M C E H) (active : ActiveSession C)
    (τ : AgentSystem S M C E H) : Prop where
  process : ∃ reads, τ.process =
    { σ.process with world := { σ.process.world with reads := reads } }
  agent : ∃ session, τ.agent = { σ.agent with active := session }
  trace : τ.trace = σ.trace ∨ active.nextStep ≤ σ.agent.config.maxSteps ∧
    ∃ answer after, ModelSession.decide active.model
      ⟨active.nextStep, active.previousOperationOutput⟩ = (answer, after) ∧
    τ.trace = .decided active.model
      ⟨active.nextStep, active.previousOperationOutput⟩ answer after :: σ.trace

/-- The session proposes an operation in time. -/
structure Proposes (env : Env) (σ : AgentSystem S M C E H) (active : ActiveSession C)
    (context : TaskExecutionContext) (decision : ModelDecision) (after : C) : Prop where
  known : σ.process.supervisor.executionContext active.taskId = .ok context
  timely : context.remainingWallTime (env.clock σ.process.world.reads) ≠ 0 ∧
    context.remainingWallTime (env.clock (σ.process.world.reads + 1)) ≠ 0
  steps : active.nextStep ≤ σ.agent.config.maxSteps
  decided : ModelSession.decide active.model
    ⟨active.nextStep, active.previousOperationOutput⟩ = (.ok decision, after)

omit [EventStore S] [ModelSession C E] [ToolHandler H] in
theorem describes_prepared {catalog : ToolCatalog} {route : String} {arguments : List String}
    {valid : (isValidIdentifier route && areValidArguments arguments) = true}
    {operation : ToolOperation} (prepared : catalog.prepare route arguments = .ok operation) :
    (ModelDecision.callTool route arguments valid).Describes
      ((toolPort M C H).operation operation) := by
  unfold ToolCatalog.prepare at prepared
  split at prepared
  · cases prepared
  · split at prepared
    · cases prepared
    · cases prepared
      exact ⟨rfl, rfl⟩

omit [EventStore S] [ModelSession C E] [ToolHandler H] in
theorem describes_tcp {host : String} {port : UInt16} {request : List UInt8}
    {valid : isTcpRequest host port request = true} {operation : TcpExchangeOperation}
    (prepared : prepareTcpExchange host port request = .ok operation) :
    (ModelDecision.tcpExchange host port request valid).Describes
      ((networkPort M C H).operation operation) := by
  unfold prepareTcpExchange at prepared
  split at prepared
  · cases prepared
  · cases prepared
    exact ⟨rfl, rfl, rfl⟩

/-- The three ways of one turn. -/
theorem turn_rule {P : Except AgentStop (Option AgentRunOutcome) × AgentSystem S M C E H → Prop}
    (session : σ.agent.active = some active)
    (refused : ∀ error, σ.process.supervisor.executionContext active.taskId = .error error →
      P (.error (.err (.supervisor error)), σ))
    (concludes : ∀ τ method answer context, Saw σ active τ → Ends env active.taskId method answer →
      σ.process.supervisor.executionContext active.taskId = .ok context →
      (∀ context decision after, Proposes env σ active context decision after →
        σ.agent.proposal decision = none) →
      P (concluded method (answer.map some) τ))
    (submits : ∀ {A O Output Err : Type} [ContextualOperation O]
      [ExecutionAdapter A O Output Err] [DecidableEq Err] (port : Port M C H A O Output Err)
      (gate : ExecutionGate A O) (context : TaskExecutionContext) (operation : O)
      (decision : ModelDecision) (after : C) (answer : Except Stop OperationAuthorization)
      (process : Process S), port.Lawful → Proposes env σ active context decision after →
      port.gate σ.agent = some gate → decision.Describes (port.operation operation) →
      σ.agent.proposal decision = some (GuardedOperation.capabilityRequest operation) →
      exec (requestOperation env active.taskId (GuardedOperation.capabilityRequest operation)
        σ.agent.config.approvalTtl) (σ.poised active (.ok decision, after)).process =
          (answer, process) →
      P (submitted env port (σ.poised active (.ok decision, after)) gate
        { active with model := after, nextStep := active.nextStep + 1 }
        (ContextualOperation.attach context operation) answer process)) :
    P (exec (turn env) σ) := by
  rw [exec_turn env session]
  cases known : σ.process.supervisor.executionContext active.taskId with
  | error error => exact refused error known
  | ok context =>
    have quiet : Saw σ active (σ.ticked (σ.process.world.reads + 1)) :=
      ⟨⟨_, rfl⟩, ⟨_, rfl⟩, .inl rfl⟩
    have same : ∀ {other decision after}, Proposes env σ active other decision after →
        other = context := fun proposes => Except.ok.inj (proposes.known.symm.trans known)
    dsimp only
    split
    · rename_i left
      refine concludes _ _ _ _ quiet .budget known fun other decision after proposes => ?_
      exact absurd (same proposes ▸ left) proposes.timely.1
    rename_i left
    split
    · rename_i beyond
      refine concludes _ _ _ _ quiet (.failed .stepLimitExceeded (by decide)) known
        fun other decision after proposes => ?_
      exact absurd proposes.steps (Nat.not_le_of_lt beyond)
    rename_i within
    have steps := Nat.le_of_not_lt within
    rcases decided : ModelSession.decide active.model
      ⟨active.nextStep, active.previousOperationOutput⟩ with ⟨error | decision, after⟩
    · have seen : Saw σ active ((σ.ticked (σ.process.world.reads + 1)).heard active
          (.error error, after)) := ⟨⟨_, rfl⟩, ⟨_, rfl⟩, .inr ⟨steps, _, _, decided, rfl⟩⟩
      refine concludes _ _ _ _ seen (.failed .modelFailed (by decide)) known
        fun other decision after proposes => ?_
      cases decided.symm.trans proposes.decided
    · dsimp only
      split
      · rename_i later
        have seen : Saw σ active (((σ.ticked (σ.process.world.reads + 1)).heard active
            (.ok decision, after)).ticked (σ.process.world.reads + 2)) :=
          ⟨⟨_, rfl⟩, ⟨_, rfl⟩, .inr ⟨steps, _, _, decided, rfl⟩⟩
        refine concludes _ _ _ _ seen .budget known fun other decision after proposes => ?_
        exact absurd (same proposes ▸ later) proposes.timely.2
      rename_i later
      have proposes : Proposes env σ active context decision after :=
        ⟨known, ⟨left, later⟩, steps, decided⟩
      have seen : Saw σ active (σ.poised active (.ok decision, after)) :=
        ⟨⟨_, rfl⟩, ⟨_, rfl⟩, .inr ⟨steps, _, _, decided, rfl⟩⟩
      have alone : σ.agent.proposal decision = none → ∀ context decision after,
          Proposes env σ active context decision after → σ.agent.proposal decision = none := by
        intro nothing other another left proposes
        cases decided.symm.trans proposes.decided
        exact nothing
      have submitting : ∀ {A O Output Err : Type} [ContextualOperation O]
          [ExecutionAdapter A O Output Err] [DecidableEq Err] (port : Port M C H A O Output Err)
          (gate : ExecutionGate A O) (operation : O), port.Lawful → port.gate σ.agent = some gate →
          port.gate (σ.poised active (.ok decision, after)).agent = some gate →
          decision.Describes (port.operation operation) →
          σ.agent.proposal decision = some (GuardedOperation.capabilityRequest operation) →
          P (exec (submitTo env port active.taskId operation)
            (σ.poised active (.ok decision, after))) := by
        intro A O Output Err _ _ _ port gate operation lawful found still described proposal
        have equation : exec (submitTo env port active.taskId operation)
            (σ.poised active (.ok decision, after)) = _ :=
          exec_submitTo lawful still rfl known operation
        rw [equation]
        exact submits port gate context operation decision after _ _ lawful proposes found
          described proposal rfl
      rw [exec_follow]
      cases decision with
      | finish output => exact concludes _ _ _ _ seen (.completed output) known (alone rfl)
      | callTool route arguments valid =>
        dsimp only
        split
        · rename_i error unprepared
          refine concludes _ _ _ _ seen (.failed .invalidDecision (by decide)) known (alone ?_)
          change (σ.agent.toolCatalog.prepare route arguments).toOption.map _ = none
          rw [show σ.agent.toolCatalog.prepare route arguments = .error error from unprepared]
          rfl
        · rename_i operation prepared
          refine submitting _ _ operation Port.toolPort_lawful rfl rfl (describes_prepared prepared) ?_
          change (σ.agent.toolCatalog.prepare route arguments).toOption.map _ = _
          rw [show σ.agent.toolCatalog.prepare route arguments = .ok operation from prepared]
          rfl
      | tcpExchange host port request valid =>
        dsimp only
        split
        · rename_i missing
          refine concludes _ _ _ _ seen (.failed .invalidDecision (by decide)) known (alone ?_)
          simp only [AgentRuntime.proposal]
          rw [show σ.agent.network = none from missing]
        rename_i gate present
        split
        · rename_i error unprepared
          refine concludes _ _ _ _ seen (.failed .invalidDecision (by decide)) known (alone ?_)
          simp only [AgentRuntime.proposal]
          rw [show σ.agent.network = some gate from present, unprepared]
          rfl
        · rename_i operation prepared
          refine submitting _ gate operation Port.networkPort_lawful present present
            (describes_tcp prepared) ?_
          simp only [AgentRuntime.proposal]
          rw [show σ.agent.network = some gate from present, prepared]
          rfl

/-- Where one turn of the loop leads: to the next one, or out of it. -/
def Leads (next : AgentSystem S M C E H → Prop)
    (P : Except AgentStop AgentRunOutcome × AgentSystem S M C E H → Prop) :
    Except AgentStop (Option AgentRunOutcome) × AgentSystem S M C E H → Prop
  | (.ok none, τ) => next τ
  | (.ok (some outcome), τ) => P (.ok outcome, τ)
  | (.error stop, τ) => P (.error stop, τ)

omit [EventStore S] [ModelSession C E] [ToolHandler H] in
theorem leads_concluded {next : AgentSystem S M C E H → Prop}
    {P : Except AgentStop AgentRunOutcome × AgentSystem S M C E H → Prop}
    {method : SupervisorM S Unit} {answer : Except AgentStop AgentRunOutcome}
    (holds : P (concluded method answer σ)) : Leads next P (concluded method (answer.map some) σ) := by
  revert holds
  unfold concluded
  rcases exec method σ.process with ⟨stop | value, after⟩
  · exact id
  · cases answer <;> exact id

/-- The loop, by the number of turns that are left. -/
theorem drive_rule {I : Nat → AgentSystem S M C E H → Prop}
    {P : Except AgentStop AgentRunOutcome × AgentSystem S M C E H → Prop}
    (enough : ∀ σ, I 0 σ → P (.error .unfinished, σ))
    (step : ∀ turns σ, I (turns + 1) σ → Leads (I turns) P (exec (turn env) σ))
    {turns : Nat} (start : I turns σ) : P (exec (driveFor env turns) σ) := by
  induction turns generalizing σ with
  | zero => exact enough σ start
  | succ turns ih =>
    have leads := step turns σ start
    unfold driveFor
    rcases ran : exec (turn env) σ with ⟨stop | (none | outcome), τ⟩
    · rw [ran] at leads
      rw [exec_bind_error ran]
      exact leads
    · rw [ran] at leads
      rw [exec_bind_ok ran]
      exact ih leads
    · rw [ran] at leads
      rw [exec_bind_ok ran]
      exact leads

/-- The session of `drive` has a step left for every turn but the last. -/
theorem exec_drive : exec (drive env : AgentM S M C E H AgentRunOutcome) σ =
    exec (driveFor env (σ.agent.config.maxSteps + 1)) σ := rfl

variable [ModelAdapter M C E]

/-- The system when the model adapter has answered. -/
def AgentSystem.opened (σ : AgentSystem S M C E H) (taskId : TaskId) (input : TaskExecutionInput)
    (process : Process S) : AgentSystem S M C E H :=
  { process := process
    agent := { σ.agent with
      modelAdapter := (ModelAdapter.startSession σ.agent.modelAdapter
        (σ.agent.startRequest input)).2 }
    trace := .opened taskId (σ.agent.startRequest input)
      (ModelAdapter.startSession σ.agent.modelAdapter (σ.agent.startRequest input)).1 :: σ.trace }

omit [ModelSession C E] [ToolHandler H] in
/-- The ways into the loop of `start`, and out before it. -/
theorem openFor_rule {P : Except AgentStop Unit × AgentSystem S M C E H → Prop} {taskId : TaskId}
    (busy : σ.agent.active ≠ none → P (.error (.err .capacityExceeded), σ))
    (refused : ∀ stop process, σ.agent.active = none →
      exec (startExecution env taskId) σ.process = (.error stop, process) →
      P (.error (.ofStop stop), { σ with process := process }))
    (unopened : ∀ input process, σ.agent.active = none →
      exec (startExecution env taskId) σ.process = (.ok input, process) →
      P (concluded (failTask env taskId) (.error (.err .modelFailed))
        (σ.opened taskId input process)))
    (opened : ∀ input process model, σ.agent.active = none →
      exec (startExecution env taskId) σ.process = (.ok input, process) →
      (ModelAdapter.startSession σ.agent.modelAdapter (σ.agent.startRequest input)).1 = .ok model →
      P (.ok (), (σ.opened taskId input process).withActive ⟨taskId, model, 1, none, none⟩)) :
    P (exec (openFor env taskId) σ) := by
  unfold openFor
  rw [exec_bind_ok (exec_currentAgent σ)]
  cases idle : σ.agent.active with
  | some active => exact busy (by rw [idle]; exact Option.some_ne_none active)
  | none =>
    rw [exec_bind_ok (show exec (ensure (none : Option (ActiveSession C)).isNone
      (AgentStop.err .capacityExceeded)) σ = (.ok (), σ) from rfl), exec_bind, exec_supervising]
    rcases ran : exec (startExecution env taskId) σ.process with ⟨stop | input, process⟩
    · exact refused stop process idle ran
    · simp only [Except.mapError]
      rw [exec_bind_ok (show exec (openSession taskId (σ.agent.startRequest input))
        { σ with process := process } = (.ok _, σ.opened taskId input process) from rfl)]
      rcases answered : ModelAdapter.startSession σ.agent.modelAdapter
        (σ.agent.startRequest input) with ⟨error | model, adapter⟩
      · dsimp only
        rw [exec_conclude_idle (σ := σ.opened taskId input process) (failTask env taskId)
          (exec_throw _) idle]
        exact unopened input process idle ran
      · have opens := opened input process model idle ran (by rw [answered])
        exact opens

/-- What came before the loop, and the loop. -/
def Enters (inside : AgentSystem S M C E H → Prop)
    (P : Except AgentStop AgentRunOutcome × AgentSystem S M C E H → Prop) :
    Except AgentStop Unit × AgentSystem S M C E H → Prop
  | (.ok (), τ) => inside τ
  | (.error stop, τ) => P (.error stop, τ)

omit [ModelAdapter M C E] in
theorem enter_rule {P : Except AgentStop AgentRunOutcome × AgentSystem S M C E H → Prop}
    {entry : AgentM S M C E H Unit}
    (enters : Enters (fun τ => P (exec (drive env) τ)) P (exec entry σ)) :
    P (exec (do entry; drive env) σ) := by
  rcases ran : exec entry σ with ⟨stop | _, τ⟩
  · rw [ran] at enters
    rw [exec_bind_error ran]
    exact enters
  · rw [ran] at enters
    rw [exec_bind_ok ran]
    exact enters

omit [EventStore S] [ModelSession C E] [ToolHandler H] [ModelAdapter M C E] in
theorem enters_concluded {inside : AgentSystem S M C E H → Prop}
    {P : Except AgentStop AgentRunOutcome × AgentSystem S M C E H → Prop}
    {method : SupervisorM S Unit} {stop : AgentStop} (holds : P (concluded method (.error stop) σ)) :
    Enters inside P (concluded method (.error stop) σ) := by
  revert holds
  unfold concluded
  rcases exec method σ.process with ⟨early | value, after⟩ <;> exact id

end rules

section approve
variable {S M C E H A O Output Err : Type} [EventStore S] [ToolHandler H]
  [ContextualOperation O] [ExecutionAdapter A O Output Err] [DecidableEq Err]
  {env : Env} {port : Port M C H A O Output Err} {σ : AgentSystem S M C E H}
  {gate : ExecutionGate A O} {active : ActiveSession C}

/-- The supervisor has approved the operation that the gate retains. -/
structure Approved (env : Env) (p : Process S) (gate : ExecutionGate A O)
    (approvalId : ApprovalId) (operationId : OperationId) (pending : PendingExecution O)
    (granted : Process S) : Prop where
  indexed : gate.approvalIndex[approvalId]? = some operationId
  retained : gate.pending[operationId]? = some pending
  approved : ∃ snapshot, exec (approveOperation env approvalId) p = (.ok snapshot, granted)

def spent (gate : ExecutionGate A O) (approvalId : ApprovalId) (operationId : OperationId)
    (adapter : A) : ExecutionGate A O :=
  { (gate.removePending approvalId operationId).2 with adapter := adapter }

variable (env port σ gate) in
/-- The ways an approval ends: the operation is gone, the supervisor stops, or the retained
operation is executed. -/
inductive Approves (taskId : TaskId) (approvalId : ApprovalId) :
    Except AgentStop (List UInt8) × AgentSystem S M C E H → Prop where
  | gone (absent : ∀ operationId, gate.approvalIndex[approvalId]? = some operationId →
      gate.pending[operationId]? = none) :
    Approves taskId approvalId (concluded (failTask env taskId) (.error (.err port.failed))
      (port.served σ gate σ.process []))
  | stopped {stop : Stop} {process : Process S}
      (refused : exec (approveOperation env approvalId) σ.process = (.error stop, process)) :
    Approves taskId approvalId (.error (.ofStop stop), port.served σ gate process [])
  | unused {operationId : OperationId} {pending : PendingExecution O} {granted : Process S}
      {stop : Stop} {process : Process S}
      (approved : Approved env σ.process gate approvalId operationId pending granted)
      (refused : exec (authorizeOperation env pending.taskId operationId
        (GuardedOperation.capabilityRequest pending.operation)) granted = (.error stop, process)) :
    Approves taskId approvalId (.error (.ofStop stop),
      port.served σ (gate.removePending approvalId operationId).2 process [])
  | executed {operationId : OperationId} {pending : PendingExecution O} {granted : Process S}
      {receipt : ApprovalReceipt} {process : Process S} {output : Output} {adapter : A} {reads : Nat}
      (approved : Approved env σ.process gate approvalId operationId pending granted)
      (consumed : exec (authorizeOperation env pending.taskId operationId
        (GuardedOperation.capabilityRequest pending.operation)) granted = (.ok receipt, process))
      (ran : ExecutionAdapter.execute env.clock gate.adapter pending.operation
        process.world.reads = (.ok output, adapter, reads)) :
    Approves taskId approvalId (.ok (port.bytes output),
      port.served σ (spent gate approvalId operationId adapter)
        { process with world := { process.world with reads := reads } }
        [.executed (port.operation pending.operation) (some (port.bytes output))])
  | broke {operationId : OperationId} {pending : PendingExecution O} {granted : Process S}
      {receipt : ApprovalReceipt} {process : Process S} {error : Err} {adapter : A} {reads : Nat}
      {method : SupervisorM S Unit} {stop : AgentStop}
      (approved : Approved env σ.process gate approvalId operationId pending granted)
      (consumed : exec (authorizeOperation env pending.taskId operationId
        (GuardedOperation.capabilityRequest pending.operation)) granted = (.ok receipt, process))
      (ran : ExecutionAdapter.execute env.clock gate.adapter pending.operation
        process.world.reads = (.error error, adapter, reads))
      (ends : Ends env taskId method (.error stop)) :
    Approves taskId approvalId (concluded method (.error stop)
      (port.served σ (spent gate approvalId operationId adapter)
        { process with world := { process.world with reads := reads } }
        [.executed (port.operation pending.operation) none]))

omit [ToolHandler H] in
theorem approveThrough_cases [ToolHandler H] {taskId : TaskId} {approvalId : ApprovalId} (lawful : port.Lawful)
    (found : port.gate σ.agent = some gate) :
    Approves env port σ gate taskId approvalId
      (exec (approveThrough env port taskId approvalId) σ) := by
  have ran : exec (ExecutionGate.approveAndExecute env approvalId :
      GateM S A O Err (Executed Output)) (Port.system σ gate) = _ :=
    ExecutionGate.exec_approveAndExecute env approvalId _
  unfold approveThrough
  rw [exec_bind_ok (Port.exec_run found _)]
  cases indexed : gate.approvalIndex[approvalId]? with
  | none =>
    simp only [Port.system, indexed] at ran
    rw [Port.system, ran, exec_failActive env _ (exec_throw _)]
    exact .gone (fun operationId there => by rw [indexed] at there; cases there)
  | some operationId =>
    cases retained : gate.pending[operationId]? with
    | none =>
      simp only [Port.system, indexed, retained] at ran
      rw [Port.system, ran, exec_failActive env _ (exec_throw _)]
      refine .gone (fun other there => ?_)
      cases Option.some.inj (indexed.symm.trans there)
      exact retained
    | some pending =>
      rcases approval : exec (approveOperation env approvalId) σ.process with
        ⟨stop | snapshot, granted⟩
      · simp only [Port.system, indexed, retained, approval] at ran
        rw [Port.system, ran]
        have stops : Approves env port σ gate taskId approvalId _ := .stopped approval
        cases stop <;> exact stops
      · have approved : Approved env σ.process gate approvalId operationId pending granted :=
          ⟨indexed, retained, snapshot, approval⟩
        simp only [Port.system, indexed, retained, approval, ExecutionGate.consuming,
          ExecutionGate.approving] at ran
        rcases consumed : exec (authorizeOperation env pending.taskId operationId
          (GuardedOperation.capabilityRequest pending.operation)) granted with
          ⟨stop | receipt, process⟩
        · simp only [consumed] at ran
          rw [Port.system, ran]
          have stops : Approves env port σ gate taskId approvalId _ := .unused approved consumed
          cases stop <;> exact stops
        · rcases execution : ExecutionAdapter.execute env.clock gate.adapter pending.operation
            process.world.reads with ⟨error | output, adapter, reads⟩
          · simp only [consumed, execution, System.executing, ExecutionGate.removePending] at ran
            rw [Port.system, ran]
            simp only [Port.absorb, Port.event, execution, List.nil_append, List.map_cons,
              List.map_nil, List.reverse_singleton]
            by_cases budget : error = port.exceeded
            · rw [if_pos budget, exec_failBudgetActive env _ (exec_throw _)]
              exact .broke approved consumed execution .budget
            · rw [if_neg budget, exec_failActive env _ (exec_throw _)]
              exact .broke approved consumed execution (.failed port.failed lawful.failing)
          · simp only [consumed, execution, System.executing, ExecutionGate.removePending] at ran
            rw [Port.system, ran]
            simp only [Port.absorb, Port.event, execution, List.nil_append, List.map_cons,
              List.map_nil, List.reverse_singleton]
            exact .executed approved consumed execution

omit [EventStore S] [ToolHandler H] in
theorem andThen_concluded {α β : Type} {method : SupervisorM S Unit} {stop : AgentStop}
    {f : α → AgentM S M C E H β} {σ : AgentSystem S M C E H} :
    andThen f (concluded method (.error stop) σ) = concluded method (.error stop) σ := by
  unfold concluded
  rcases exec method σ.process with ⟨early | value, after⟩ <;> rfl

omit [ContextualOperation O] [ExecutionAdapter A O Output Err] [DecidableEq Err] in
/-- Only the approval that the session waits for goes further. -/
theorem takeUp_rule {P : Except AgentStop Unit × AgentSystem S M C E H → Prop}
    {approvalId : ApprovalId}
    (unknown : P (.error (.err .invalidState), σ))
    (through : ∀ active pending, σ.agent.active = some active →
      active.pendingApproval = some pending → pending.approvalId = approvalId →
      P (exec (do
        let output ← approveAdapter env active.taskId approvalId pending.adapter
        updateActive (fun active => { active with
          pendingApproval := none, previousOperationOutput := some output })) σ)) :
    P (exec (takeUp env approvalId) σ) := by
  unfold takeUp requirePending
  simp only [bind_assoc]
  rw [exec_bind_ok (exec_currentAgent σ)]
  apply okOr_rule (P := P)
  · exact fun _ => unknown
  intro active session
  apply okOr_rule (P := P)
  · exact fun _ => unknown
  intro pending waits
  apply ensure_rule (P := P)
  · exact fun _ => unknown
  intro same
  exact through active pending session waits (of_decide_eq_true same)

end approve

end AiOs.Agent
