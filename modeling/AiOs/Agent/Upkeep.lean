import AiOs.Agent.Turns
import AiOs.Runtime.Facade
import AiOs.Runtime.Safety

/-! What the methods of the Agent keep, by what their parts keep. Whatever the Agent does, its
supervisor only sees calls, and both gates stay attached to it. -/
namespace AiOs.Agent

open Fallible

section walk
variable {S M C E H : Type} [EventStore S] {env : Env} {I : AgentSystem S M C E H → Prop}

omit [EventStore S] in
theorem keeps_currentAgent :
    Keeps I (currentAgent : AgentM S M C E H (AgentSystem S M C E H)) :=
  fun _ holds => holds

omit [EventStore S] in
theorem keeps_propagateGate {A O Output Err α : Type} [DecidableEq Err]
    (port : Port M C H A O Output Err) (answer : Except (GateStop Err) α) :
    Keeps I (port.propagateGate answer : AgentM S M C E H α) := by
  rcases answer with (error | message) | value
  · exact keeps_throw _
  · exact keeps_throw _
  · exact keeps_pure value

omit [EventStore S] in
theorem keeps_requirePending (approvalId : ApprovalId) :
    Keeps I (requirePending approvalId : AgentM S M C E H (TaskId × PendingAdapter)) :=
  keeps_currentAgent.bind fun _ => (keeps_okOr _ _).bind fun _ =>
    (keeps_okOr _ _).bind fun _ => (keeps_ensure _ _).bind fun _ => keeps_pure _

variable [ToolHandler H]

theorem keeps_denyAdapter {approvalId : ApprovalId}
    (through : ∀ {A O Output Err : Type} [ContextualOperation O]
      [ExecutionAdapter A O Output Err] (port : Port M C H A O Output Err), port.Lawful →
      Keeps I (port.run env (ExecutionGate.deny env approvalId : GateM S A O Err _)))
    (adapter : PendingAdapter) :
    Keeps I (denyAdapter env approvalId adapter : AgentM S M C E H Unit) := by
  cases adapter with
  | tool =>
    exact (through _ Port.toolPort_lawful).bind fun answer =>
      (keeps_propagateGate _ answer).bind fun _ => keeps_pure ()
  | network =>
    exact (through _ Port.networkPort_lawful).bind fun answer =>
      (keeps_propagateGate _ answer).bind fun _ => keeps_pure ()

theorem keeps_deny {approvalId : ApprovalId} (dropping : Keeps I (setActive none))
    (denying : ∀ adapter, Keeps I (denyAdapter env approvalId adapter)) :
    Keeps I (deny env approvalId : AgentM S M C E H Unit) :=
  (keeps_requirePending approvalId).bind fun (_, adapter) => (denying adapter).bind fun _ =>
    dropping

theorem keeps_expireAdapter
    (through : ∀ {A O Output Err : Type} [ContextualOperation O]
      [ExecutionAdapter A O Output Err] (port : Port M C H A O Output Err), port.Lawful →
      Keeps I (port.run env (ExecutionGate.expire env : GateM S A O Err _)))
    (adapter : PendingAdapter) :
    Keeps I (expireAdapter env adapter : AgentM S M C E H Nat) := by
  cases adapter with
  | tool => exact (through _ Port.toolPort_lawful).bind (keeps_propagateGate _)
  | network => exact (through _ Port.networkPort_lawful).bind (keeps_propagateGate _)

theorem keeps_expire (dropping : Keeps I (setActive none))
    (failing : ∀ taskId, Keeps I (supervising (failBudgetExceeded env taskId)))
    (reading : ∀ taskId, Keeps I (supervising (wallTimeExceededNow env taskId)))
    (expiring : ∀ adapter, Keeps I (expireAdapter env adapter)) :
    Keeps I (expire env : AgentM S M C E H Nat) := by
  have overdrawn : Keeps I (overdrawn env : AgentM S M C E H _) := by
    refine keeps_currentAgent.bind fun σ => ?_
    cases σ.agent.active with
    | none => exact keeps_pure none
    | some active => exact (reading active.taskId).bind fun _ => keeps_pure _
  have release : Keeps I (releaseTerminal : AgentM S M C E H Unit) := by
    refine keeps_currentAgent.bind fun σ => ?_
    split
    · exact dropping
    · exact keeps_pure ()
  refine keeps_currentAgent.bind fun σ => overdrawn.bind fun exceeded => ?_
  cases exceeded with
  | none => exact (expiring _).bind fun expired => release.bind fun _ => keeps_pure expired
  | some taskId =>
    exact (dropping.bind fun _ => failing taskId).bind fun _ => (expiring _).bind fun _ =>
      keeps_throw _

theorem keeps_cancelAdapter {taskId : TaskId}
    (through : ∀ {A O Output Err : Type} [ContextualOperation O]
      [ExecutionAdapter A O Output Err] (port : Port M C H A O Output Err), port.Lawful →
      Keeps I (port.run env (ExecutionGate.cancel env taskId : GateM S A O Err _)))
    (adapter : PendingAdapter) :
    Keeps I (cancelAdapter env taskId adapter : AgentM S M C E H Bool) := by
  cases adapter with
  | tool => exact (through _ Port.toolPort_lawful).bind (keeps_propagateGate _)
  | network => exact (through _ Port.networkPort_lawful).bind (keeps_propagateGate _)

theorem keeps_cancel {taskId : TaskId} (dropping : Keeps I (setActive none))
    (cancelling : ∀ adapter, Keeps I (cancelAdapter env taskId adapter)) :
    Keeps I (cancel env taskId : AgentM S M C E H Bool) :=
  keeps_currentAgent.bind fun _ => (keeps_ensure _ _).bind fun _ =>
    (cancelling _).bind fun changed => dropping.bind fun _ => keeps_pure changed

end walk

section steady
variable {S M C E H : Type} [LawfulEventStore S] [ToolHandler H] {env : Env}

/-- A property of the supervisor and the two gates that their own methods keep. -/
structure Steady (env : Env) (I : AgentSystem S M C E H → Prop) : Prop where
  call : ∀ (σ : AgentSystem S M C E H) (call : Call), I σ →
    I { σ with process := (call.run env σ.process).2 }
  reads : ∀ (σ : AgentSystem S M C E H) (reads : Nat), I σ → I (σ.ticked reads)
  gate : ∀ {A O Output Err : Type} [ContextualOperation O] [ExecutionAdapter A O Output Err]
    (port : Port M C H A O Output Err), port.Lawful → ∀ (σ : AgentSystem S M C E H)
    (gate : ExecutionGate A O) (act : Act O), port.gate σ.agent = some gate → act.gated = true →
    I σ → I (port.absorb env σ gate ((Port.system σ gate).run env act))
  rest : ∀ (σ τ : AgentSystem S M C E H), τ.process = σ.process →
    τ.agent.toolGate = σ.agent.toolGate → τ.agent.network = σ.agent.network → I σ → I τ

namespace Steady
variable {I : AgentSystem S M C E H → Prop}

theorem setActive (steady : Steady env I) (active : Option (ActiveSession C)) :
    Keeps I (setActive active : AgentM S M C E H Unit) :=
  fun σ holds => steady.rest σ _ rfl rfl rfl holds

theorem updateActive (steady : Steady env I) (f : ActiveSession C → ActiveSession C) :
    Keeps I (updateActive f : AgentM S M C E H Unit) :=
  keeps_currentAgent.bind fun _ => (keeps_okOr _ _).bind fun _ => steady.setActive _

theorem supervising (steady : Steady env I) {α : Type} (call : Call) {method : SupervisorM S α}
    (performs : (call.perform env : SupervisorM S Unit) = discard method) :
    Keeps I (supervising method : AgentM S M C E H α) := by
  intro σ holds
  have called := steady.call σ call holds
  rw [run_of_exec call performs (Prod.eta _).symm] at called
  rw [exec_supervising]
  exact called

theorem performing (steady : Steady env I) (call : Call) :
    Keeps I (Agent.supervising (call.perform env) : AgentM S M C E H Unit) := by
  intro σ holds
  rw [exec_supervising]
  exact steady.call σ call holds

theorem remaining (steady : Steady env I) (taskId : TaskId) :
    Keeps I (Agent.supervising (remainingFor env taskId) : AgentM S M C E H Duration) := by
  intro σ holds
  cases known : σ.process.supervisor.executionContext taskId with
  | error error =>
    rw [exec_remaining_refused env known]
    exact holds
  | ok context =>
    rw [exec_remaining_known env known]
    exact steady.reads σ _ holds

theorem exceeded (steady : Steady env I) (taskId : TaskId) :
    Keeps I (Agent.supervising (wallTimeExceededNow env taskId) : AgentM S M C E H Bool) := by
  intro σ holds
  rw [exec_wallTimeExceeded]
  split
  · exact holds
  · exact steady.reads σ _ holds

section port
variable {A O Output Err α : Type} [ContextualOperation O] [ExecutionAdapter A O Output Err]
  {port : Port M C H A O Output Err}

/-- A method of the gate is one of its acts, or it does nothing. -/
theorem run (steady : Steady env I) (lawful : port.Lawful) {method : GateM S A O Err α}
    (acts : ∀ σ : System S A O, (exec method σ).2 = σ ∨
      ∃ act : Act O, act.gated = true ∧ (exec method σ).2 = σ.run env act) :
    Keeps I (port.run env method : AgentM S M C E H _) := by
  intro σ holds
  cases found : port.gate σ.agent with
  | none =>
    rw [Port.exec_run_missing found]
    exact holds
  | some gate =>
    rw [Port.exec_run found]
    rcases acts (Port.system σ gate) with same | ⟨act, gated, same⟩
    · rw [same]
      have restored : port.setGate σ.agent gate = σ.agent := lawful.restored found
      exact steady.rest σ (port.absorb env σ gate (Port.system σ gate)) rfl
        (congrArg AgentRuntime.toolGate restored) (congrArg AgentRuntime.network restored) holds
    · rw [same]
      exact steady.gate port lawful σ gate act found gated holds

variable [DecidableEq Err]

theorem failActive (steady : Steady env I) (taskId : TaskId) :
    Keeps I (failActive env taskId : AgentM S M C E H Unit) :=
  (steady.setActive none).bind fun _ => steady.performing (.fail taskId)

theorem failBudgetActive (steady : Steady env I) (taskId : TaskId) :
    Keeps I (failBudgetActive env taskId : AgentM S M C E H Unit) :=
  (steady.setActive none).bind fun _ => steady.performing (.failBudgetExceeded taskId)

theorem submitTo (steady : Steady env I) (lawful : port.Lawful) (taskId : TaskId) (operation : O) :
    Keeps I (submitTo env port taskId operation : AgentM S M C E H _) := by
  have requests : ∀ (ttl : Duration) (σ : System S A O),
      (exec (requestInContext env taskId operation ttl : GateM S A O Err _) σ).2 = σ ∨
        ∃ act : Act O, act.gated = true ∧
          (exec (requestInContext env taskId operation ttl : GateM S A O Err _) σ).2 =
            σ.run env act := by
    intro ttl σ
    cases known : σ.process.supervisor.executionContext taskId with
    | error error =>
      left
      unfold requestInContext
      rw [exec_bind_ok (exec_currentSystem σ), known]
      rfl
    | ok context =>
      right
      refine ⟨.request taskId (ContextualOperation.attach context operation) ttl, rfl, ?_⟩
      rw [exec_requestInContext known]
      rfl
  refine keeps_currentAgent.bind fun σ => (steady.run lawful (requests _)).bind fun outcome => ?_
  rcases outcome with ((error | error | _) | message) | executed | reason | request
  · exact (steady.setActive none).bind fun _ => keeps_throw _
  · dsimp only
    split
    · exact (steady.failBudgetActive taskId).bind fun _ => keeps_throw _
    · exact (steady.failActive taskId).bind fun _ => keeps_throw _
  · exact (steady.failActive taskId).bind fun _ => keeps_throw _
  · exact keeps_throw _
  · exact (steady.updateActive _).bind fun _ => keeps_pure _
  · exact (steady.failActive taskId).bind fun _ => keeps_pure _
  · exact (steady.updateActive _).bind fun _ => keeps_pure _

end port

section model
variable [ModelSession C E]

theorem decideActive (steady : Steady env I) :
    Keeps I (decideActive : AgentM S M C E H (Except E ModelDecision)) :=
  keeps_currentAgent.bind fun _ => (keeps_okOr _ _).bind fun _ => fun σ holds =>
    steady.rest σ _ rfl rfl rfl holds

omit [ModelSession C E] in
theorem follow (steady : Steady env I) (taskId : TaskId) (decision : ModelDecision) :
    Keeps I (follow env taskId decision : AgentM S M C E H _) := by
  have invalid : Keeps I (do
      Agent.failActive env taskId
      throw (.err .invalidDecision) : AgentM S M C E H (Option AgentRunOutcome)) :=
    (steady.failActive taskId).bind fun _ => keeps_throw _
  refine keeps_currentAgent.bind fun σ => ?_
  cases decision with
  | finish output =>
    exact (steady.setActive none).bind fun _ => (steady.performing (.succeed taskId)).bind
      fun _ => keeps_pure _
  | callTool route arguments valid =>
    dsimp only
    split
    · exact invalid
    · exact steady.submitTo Port.toolPort_lawful taskId _
  | tcpExchange host port request valid =>
    dsimp only
    split
    · exact invalid
    · split
      · exact invalid
      · exact steady.submitTo Port.networkPort_lawful taskId _

theorem turn (steady : Steady env I) : Keeps I (turn env : AgentM S M C E H _) := by
  refine keeps_currentAgent.bind fun σ => (keeps_okOr _ _).bind fun active =>
    (steady.remaining active.taskId).bind fun left => ?_
  split
  · exact (steady.failBudgetActive _).bind fun _ => keeps_throw _
  split
  · exact (steady.failActive _).bind fun _ => keeps_throw _
  refine steady.decideActive.bind fun answer => ?_
  cases answer with
  | error error => exact (steady.failActive _).bind fun _ => keeps_throw _
  | ok decision =>
    refine (steady.remaining active.taskId).bind fun left => ?_
    split
    · exact (steady.failBudgetActive _).bind fun _ => keeps_throw _
    · exact (steady.updateActive _).bind fun _ => steady.follow active.taskId decision

theorem driveFor (steady : Steady env I) (turns : Nat) :
    Keeps I (driveFor env turns : AgentM S M C E H AgentRunOutcome) := by
  induction turns with
  | zero => exact keeps_throw _
  | succ turns ih =>
    refine steady.turn.bind fun outcome => ?_
    cases outcome with
    | none => exact ih
    | some outcome => exact keeps_pure outcome

theorem drive (steady : Steady env I) :
    Keeps I (drive env : AgentM S M C E H AgentRunOutcome) :=
  keeps_currentAgent.bind fun _ => steady.driveFor _

omit [ModelSession C E] in
theorem openFor [ModelAdapter M C E] (steady : Steady env I) (taskId : TaskId) :
    Keeps I (openFor env taskId : AgentM S M C E H Unit) := by
  have opening : ∀ request, Keeps I (openSession taskId request : AgentM S M C E H (Except E C)) :=
    fun request σ holds => steady.rest σ _ rfl rfl rfl holds
  refine keeps_currentAgent.bind fun σ => (keeps_ensure _ _).bind fun _ =>
    (steady.supervising (.startExecution taskId) rfl).bind fun input =>
    (opening _).bind fun answer => ?_
  cases answer with
  | error error => exact (steady.performing (.fail taskId)).bind fun _ => keeps_throw _
  | ok model => exact steady.setActive _

theorem start [ModelAdapter M C E] (steady : Steady env I) (taskId : TaskId) :
    Keeps I (start env taskId : AgentM S M C E H AgentRunOutcome) :=
  (steady.openFor taskId).bind fun _ => steady.drive

omit [ModelSession C E] in
theorem approveThrough {A O Output Err : Type} [ContextualOperation O]
    [ExecutionAdapter A O Output Err] [DecidableEq Err] {port : Port M C H A O Output Err}
    (steady : Steady env I) (lawful : port.Lawful) (taskId : TaskId) (approvalId : ApprovalId) :
    Keeps I (approveThrough env port taskId approvalId : AgentM S M C E H (List UInt8)) := by
  refine (steady.run lawful fun σ => .inr ⟨.approveAndExecute approvalId, rfl, rfl⟩).bind
    fun result => ?_
  rcases result with ((error | error | _) | message) | executed
  · exact keeps_throw _
  · dsimp only
    split
    · exact (steady.failBudgetActive taskId).bind fun _ => keeps_throw _
    · exact (steady.failActive taskId).bind fun _ => keeps_throw _
  · exact (steady.failActive taskId).bind fun _ => keeps_throw _
  · exact keeps_throw _
  · exact keeps_pure _

omit [ModelSession C E] in
theorem takeUp (steady : Steady env I) (approvalId : ApprovalId) :
    Keeps I (takeUp env approvalId : AgentM S M C E H Unit) := by
  refine (keeps_requirePending approvalId).bind fun (taskId, adapter) => ?_
  refine Keeps.bind ?_ fun _ => steady.updateActive _
  cases adapter with
  | tool => exact steady.approveThrough Port.toolPort_lawful taskId approvalId
  | network => exact steady.approveThrough Port.networkPort_lawful taskId approvalId

theorem approveAndResume (steady : Steady env I) (approvalId : ApprovalId) :
    Keeps I (approveAndResume env approvalId : AgentM S M C E H AgentRunOutcome) :=
  (steady.takeUp approvalId).bind fun _ => steady.drive

omit [ModelSession C E] in
theorem deny (steady : Steady env I) (approvalId : ApprovalId) :
    Keeps I (deny env approvalId : AgentM S M C E H Unit) :=
  keeps_deny (steady.setActive none) (keeps_denyAdapter fun _ lawful =>
    steady.run lawful fun _ => .inr ⟨.deny approvalId, rfl, rfl⟩)

omit [ModelSession C E] in
theorem expireAdapter (steady : Steady env I) (adapter : PendingAdapter) :
    Keeps I (expireAdapter env adapter : AgentM S M C E H Nat) :=
  keeps_expireAdapter (fun _ lawful => steady.run lawful fun _ => .inr ⟨.expire, rfl, rfl⟩) adapter

omit [ModelSession C E] in
theorem expire (steady : Steady env I) : Keeps I (expire env : AgentM S M C E H Nat) :=
  keeps_expire (steady.setActive none) (fun taskId => steady.performing (.failBudgetExceeded taskId))
    steady.exceeded steady.expireAdapter

omit [ModelSession C E] in
theorem cancel (steady : Steady env I) (taskId : TaskId) :
    Keeps I (cancel env taskId : AgentM S M C E H Bool) :=
  keeps_cancel (steady.setActive none) (keeps_cancelAdapter fun _ lawful =>
    steady.run lawful fun _ => .inr ⟨.cancel taskId, rfl, rfl⟩)

end model

end Steady

/-- What can become of a process: calls of its supervisor, and readings of the clock. -/
inductive Evolves (env : Env) (p : Process S) : Process S → Prop where
  | refl : Evolves env p p
  | call {mid : Process S} (evolves : Evolves env p mid) (call : Call) :
      Evolves env p (call.run env mid).2
  | reads {mid : Process S} (evolves : Evolves env p mid) (reads : Nat) :
      Evolves env p { mid with world := { mid.world with reads := reads } }

namespace Evolves
variable {p after : Process S}

theorem method {α : Type} {mid : Process S} (evolves : Evolves env p mid) (call : Call)
    {method : SupervisorM S α} {answer : Except Stop α}
    (performs : (call.perform env : SupervisorM S Unit) = discard method)
    (ran : exec method mid = (answer, after)) : Evolves env p after := by
  have called := evolves.call call
  rw [run_of_exec call performs ran] at called
  exact called

theorem orderly (evolves : Evolves env p after) (fresh : Function.Injective env.uuid)
    (orderly : Orderly env p) : Orderly env after := by
  induction evolves with
  | refl => exact orderly
  | call _ call ih => exact ih.call fresh call
  | reads _ reads ih => exact ⟨ih.registry, ih.records⟩

theorem attached {A O : Type} [GuardedOperation O] {gate : ExecutionGate A O}
    (evolves : Evolves env p after) (fresh : Function.Injective env.uuid)
    (attached : Attached env p gate) : Attached env after gate := by
  induction evolves with
  | refl => exact attached
  | call _ call ih => exact ih.call fresh call
  | reads _ reads ih => exact ih.reads reads

/-- A gate only calls its supervisor and its adapter. -/
theorem gate {A O Output Err : Type} [GuardedOperation O] [ExecutionAdapter A O Output Err]
    {σ : System S A O} (evolves : Evolves env p σ.process) {act : Act O}
    (gated : act.gated = true) : Evolves env p (σ.run env act).process := by
  have stable : Stable env (fun out : System S A O => Evolves env p out.process) :=
    ⟨fun _ call _ evolves => evolves.call call, fun _ _ _ evolves => evolves,
      fun _ _ _ _ evolves => evolves.reads _⟩
  apply stable.run gated
  cases act <;> exact evolves

end Evolves

theorem steady_evolves (p : Process S) :
    Steady env (fun σ : AgentSystem S M C E H => Evolves env p σ.process) where
  call _ call evolves := evolves.call call
  reads _ reads evolves := evolves.reads reads
  gate _ _ σ gate _ _ gated evolves := evolves.gate (σ := Port.system σ gate) gated
  rest _ _ same _ _ evolves := by
    rw [same]
    exact evolves

/-- Both gates stand in front of the supervisor. -/
def Joined (env : Env) (σ : AgentSystem S M C E H) : Prop :=
  σ.agent.Gates (fun gate => Attached env σ.process gate)

omit [LawfulEventStore S] [ToolHandler H] in
theorem Joined.orderly {σ : AgentSystem S M C E H} (joined : Joined env σ) :
    Orderly env σ.process := joined.tool.orderly

theorem Joined.served {A O Output Err : Type} [ContextualOperation O]
    [ExecutionAdapter A O Output Err] {port : Port M C H A O Output Err} {σ : AgentSystem S M C E H} (joined : Joined env σ)
    (fresh : Function.Injective env.uuid) (lawful : port.Lawful) {process : Process S}
    (evolves : Evolves env σ.process process) {gate : ExecutionGate A O}
    (attached : Attached env process gate) (events : List (AgentEvent C E)) :
    Joined env (port.served σ gate process events) :=
  lawful.gates (Q := fun gate => Attached env process gate)
    ⟨evolves.attached fresh joined.tool,
      fun gate found => evolves.attached fresh (joined.network gate found)⟩ attached

theorem steady_joined (fresh : Function.Injective env.uuid) :
    Steady env (Joined env : AgentSystem S M C E H → Prop) where
  call _ call joined :=
    ⟨joined.tool.call fresh call, fun gate found => (joined.network gate found).call fresh call⟩
  reads _ reads joined :=
    ⟨joined.tool.reads reads, fun gate found => (joined.network gate found).reads reads⟩
  gate port lawful σ gate act found gated joined := by
    have own : Attached env σ.process gate :=
      lawful.own (Q := fun gate => Attached env σ.process gate) joined found
    exact joined.served fresh lawful (Evolves.gate (σ := Port.system σ gate) .refl gated)
      (Attached.run (σ := Port.system σ gate) own fresh act) _
  rest σ τ process tool network joined := by
    refine ⟨?_, fun gate found => ?_⟩
    · rw [process, tool]
      exact joined.tool
    · rw [process]
      exact joined.network gate (network ▸ found)

theorem AgentSystem.Runs.joined [ModelSession C E] [ModelAdapter M C E]
    {σ : AgentSystem S M C E H} (fresh : Function.Injective env.uuid) (runs : Runs env σ) :
    Joined env σ := by
  have steady : Steady env (Joined env : AgentSystem S M C E H → Prop) := steady_joined fresh
  induction runs with
  | start constructed modelAdapter catalog site config =>
    exact ⟨System.attached_start constructed.registered.1 site, nofun⟩
  | @step σ runs act ih =>
    cases act with
    | start taskId => exact steady.start taskId σ ih
    | approveAndResume approvalId => exact steady.approveAndResume approvalId σ ih
    | deny approvalId => exact steady.deny approvalId σ ih
    | expire => exact steady.expire σ ih
    | cancel taskId => exact steady.cancel taskId σ ih
    | withNetworkGate site =>
      refine ⟨ih.tool, fun gate found => ?_⟩
      cases Option.some.inj found
      exact System.attached_start ih.orderly site
    | direct call => exact steady.call σ call ih
    | elapse => exact steady.reads σ _ ih

end steady

end AiOs.Agent
