import AiOs.Agent.Conversation
import AiOs.Agent.Release
import AiOs.Runtime.Requests
import Mathlib.Logic.Relation

/-! What becomes of a Task whose session is dropped. Every exit of the loop ends the Task that
it lets go, but for one: an error of the supervisor about a proposed operation drops the
session and leaves the Task as it is. -/
namespace AiOs.Agent

open Fallible

section attempts
variable {S : Type} [LawfulEventStore S] {env : Env} {p after : Process S}

namespace Evolves

theorem attempted (evolves : Evolves env p after) : p.world.attempts <+: after.world.attempts := by
  induction evolves with
  | refl => exact List.prefix_refl _
  | @call mid _ call ih => exact attempted_call call mid ih
  | reads _ _ ih => exact ih

theorem failable (evolves : Evolves env p after) (fresh : Function.Injective env.uuid)
    (orderly : Orderly env p) {taskId : TaskId} (failable : Failable p taskId) :
    Failable after taskId := by
  have both : Orderly env after ∧ Failable after taskId := by
    induction evolves with
    | refl => exact ⟨orderly, failable⟩
    | call _ call ih => exact ⟨ih.1.call fresh call, ih.1.call_failable call ih.2⟩
    | reads _ reads ih => exact ⟨⟨ih.1.registry, ih.1.records⟩, ih.2⟩
  exact both.2

end Evolves

theorem Ends.evolves {taskId : TaskId} {method : SupervisorM S Unit}
    {answer : Except AgentStop AgentRunOutcome} (ends : Ends env taskId method answer)
    (p : Process S) : Evolves env p (exec method p).2 := by
  cases ends with
  | completed output => exact Evolves.refl.call (.succeed taskId)
  | denied reason => exact Evolves.refl.call (.fail taskId)
  | budget => exact Evolves.refl.call (.failBudgetExceeded taskId)
  | failed error ending => exact Evolves.refl.call (.fail taskId)

end attempts

section attended
variable {S M C E H : Type}

/-- The slot is free only if the Task has ended. -/
def Attended (σ : AgentSystem S M C E H) (taskId : TaskId) : Prop :=
  σ.agent.activeTask = none → Terminal σ taskId

theorem attended_of_session {σ : AgentSystem S M C E H} {active : ActiveSession C}
    (session : σ.agent.active = some active) (taskId : TaskId) : Attended σ taskId := by
  intro free
  rw [AgentRuntime.activeTask, session] at free
  cases free

theorem terminal_iff_taskState {σ : AgentSystem S M C E H} {taskId : TaskId} {state : TaskState}
    (known : σ.process.supervisor.taskState taskId = some state) :
    Terminal σ taskId ↔ state.isTerminal = true := by
  rw [Terminal, TaskSupervisor.get, known]
  exact Iff.rfl

theorem running_of_context {s : TaskSupervisor S} {taskId : TaskId}
    {context : TaskExecutionContext} (known : s.executionContext taskId = .ok context) :
    s.taskState taskId = some .running := by
  unfold TaskSupervisor.executionContext at known
  split at known
  · cases known
  · rename_i record found
    split at known
    · cases known
    · rename_i running
      rw [TaskSupervisor.taskState_of_record found, Decidable.not_not.mp running]

variable [LawfulEventStore S] {env : Env} {σ : AgentSystem S M C E H} {taskId : TaskId}

/-- A Task that runs ends with its session, and so does a Task that may fail when the session
has failed. -/
theorem Ends.terminal {p : Process S} {method : SupervisorM S Unit}
    {answer : Except AgentStop AgentRunOutcome} (ends : Ends env taskId method answer)
    (fresh : Function.Injective env.uuid) (orderly : Orderly env p)
    (evolves : Evolves env p σ.process)
    (endable : σ.process.supervisor.taskState taskId = some .running ∨
      answer.isOk = false ∧ Failable σ.process taskId)
    (undisturbed : Undisturbed p (exec method σ.process).2) :
    Terminal (σ.drop (exec method σ.process).2) taskId := by
  have there := evolves.orderly fresh orderly
  have recovered := there.recoveredTerminal
  have quiet := (undisturbed.split evolves.attempted (ends.evolves σ.process).attempted).2
  have ended : ∀ next failure,
      StopsOr σ.process (fun _ after => Finishes σ.process taskId next failure after)
        (exec method σ.process) →
      (Terminal σ taskId ∨ (exec method σ.process).1 = .ok ()) →
      Terminal (σ.drop (exec method σ.process).2) taskId := by
    intro next failure cases either
    rcases ran : exec method σ.process with ⟨stop | ⟨⟩, after⟩
    · rw [ran] at cases either
      have quiet : Quiet σ.process after := cases
      have before := either.resolve_right nofun
      unfold Terminal at before ⊢
      rw [AgentSystem.drop, quiet.same]
      exact before
    · rw [ran] at cases
      have finishes : Finishes σ.process taskId next failure after := cases
      have reported := (ended_of_finishes finishes σ).reported
      obtain ⟨store, record, found, allowed, terminal, appended⟩ := finishes
      rw [Terminal, reported]
      exact terminal
  -- a Task that has not ended has a record, and its state allows the transition
  have failing : (∀ record, σ.process.supervisor.tasks[taskId]? = some record →
      record.state.canTransitionTo .failed = true → (exec method σ.process).1 = .ok ()) →
      Failable σ.process taskId → Terminal σ taskId ∨ (exec method σ.process).1 = .ok () := by
    rintro succeeds ⟨state, known, terminal | allowed⟩
    · exact .inl ((terminal_iff_taskState known).mpr terminal)
    · obtain ⟨record, found, rfl⟩ := record_of_open _ recovered known
        (TaskState.not_terminal_of_transition allowed)
      exact .inr (succeeds record found allowed)
  have failable : Failable σ.process taskId := by
    rcases endable with running | ⟨_, failable⟩
    · exact ⟨.running, running, .inr rfl⟩
    · exact failable
  cases ends with
  | completed output =>
    have running := endable.resolve_right (fun failed => Bool.noConfusion failed.1)
    obtain ⟨record, found, state⟩ := record_of_open _ recovered running rfl
    have allowed : record.state.canTransitionTo .succeeded = true := by
      rw [state]
      rfl
    exact ended _ _ (succeed_cases env _ recovered taskId)
      (.inr (transition_undisturbed found allowed rfl quiet))
  | denied reason =>
    exact ended _ _ (failTask_cases env _ recovered taskId) (failing (fun record found allowed =>
      transition_undisturbed found allowed rfl quiet) failable)
  | budget =>
    exact ended _ _ (failBudgetExceeded_cases env _ recovered taskId) (failing
      (fun record found allowed => failBudgetExceeded_undisturbed found allowed quiet) failable)
  | failed error ending =>
    exact ended _ _ (failTask_cases env _ recovered taskId) (failing (fun record found allowed =>
      transition_undisturbed found allowed rfl quiet) failable)

/-- What an exit of a call that began in `p` has to do: without a rejected batch it lets go of
an open Task exactly when it is not safe. -/
def Attends (p : Process S) (taskId : TaskId) (safe : Prop)
    (out : Except AgentStop AgentRunOutcome × AgentSystem S M C E H) : Prop :=
  Undisturbed p out.2.process → (Attended out.2 taskId ↔ safe)

/-- What a turn after which the loop goes on has to do. -/
def Proceeds (p : Process S) (taskId : TaskId) (safe : Prop) (σ : AgentSystem S M C E H) : Prop :=
  Undisturbed p σ.process → safe ∧ ∃ next, σ.agent.active = some next ∧ next.taskId = taskId

theorem Ends.attends {p : Process S} {method : SupervisorM S Unit} {safe : Prop}
    {answer : Except AgentStop AgentRunOutcome} (ends : Ends env taskId method answer)
    (fresh : Function.Injective env.uuid) (orderly : Orderly env p)
    (evolves : Evolves env p σ.process)
    (running : Undisturbed p σ.process →
      safe ∧ σ.process.supervisor.taskState taskId = some .running) :
    Attends p taskId safe (concluded method answer σ) := by
  intro undisturbed
  have split := undisturbed.split evolves.attempted (ends.evolves σ.process).attempted
  obtain ⟨safe, running⟩ := running split.1
  have terminal := ends.terminal fresh orderly evolves (.inl running) undisturbed
  exact ⟨fun _ => safe, fun _ _ => terminal⟩

end attended

section loop
variable {S M C E H : Type} [LawfulEventStore S] {env : Env} {σ : AgentSystem S M C E H}
  {active : ActiveSession C}

/-- A turn begins here that lets go of a running Task: the session proposes an operation in
time, and the supervisor refuses the request for it. -/
def Loses [ModelSession C E] (env : Env) (σ : AgentSystem S M C E H) : Prop :=
  ∃ active context decision after request, σ.agent.active = some active ∧
    Proposes env σ active context decision after ∧ σ.agent.proposal decision = some request ∧
    Strands env (σ.poised active (.ok decision, after)).process active.taskId request
      σ.agent.config.approvalTtl

omit [LawfulEventStore S] in
theorem loses_iff [ModelSession C E] (session : σ.agent.active = some active)
    {context : TaskExecutionContext} {decision : ModelDecision} {after : C}
    {request : CapabilityRequest} (proposes : Proposes env σ active context decision after)
    (proposal : σ.agent.proposal decision = some request) :
    Loses env σ ↔ Strands env (σ.poised active (.ok decision, after)).process active.taskId request
      σ.agent.config.approvalTtl := by
  constructor
  · rintro ⟨other, context, another, left, asked, there, decides, proposed, strands⟩
    cases Option.some.inj (session.symm.trans there)
    cases proposes.decided.symm.trans decides.decided
    cases Option.some.inj (proposal.symm.trans proposed)
    exact strands
  · exact fun strands =>
      ⟨active, context, decision, after, request, session, proposes, proposal, strands⟩

section port
variable {A O Output Err : Type} [ToolHandler H] [ContextualOperation O]
  [ExecutionAdapter A O Output Err] [DecidableEq Err] {port : Port M C H A O Output Err} {gate : ExecutionGate A O}

theorem submitted_attends (fresh : Function.Injective env.uuid) (joined : Joined env σ)
    (lawful : port.Lawful) (session : σ.agent.active = some active)
    (running : σ.process.supervisor.taskState active.taskId = some .running) (operation : O)
    {request : CapabilityRequest} {answer : Except Stop OperationAuthorization}
    {process : Process S}
    (asked : exec (requestOperation env active.taskId request σ.agent.config.approvalTtl)
      σ.process = (answer, process)) :
    Leads (Proceeds σ.process active.taskId
        (¬ Strands env σ.process active.taskId request σ.agent.config.approvalTtl))
      (Attends σ.process active.taskId
        (¬ Strands env σ.process active.taskId request σ.agent.config.approvalTtl))
      (submitted env port σ gate active operation answer process) := by
  have evolves : Evolves env σ.process process :=
    Evolves.refl.method (.requestOperation active.taskId request _) rfl asked
  have resolves : Undisturbed σ.process process → Resolves env σ.process active.taskId request
      σ.agent.config.approvalTtl (answer, process) := by
    intro undisturbed
    rw [← asked]
    apply requestOperation_resolves joined.orderly running σ.agent.config.ttlPositive
      σ.agent.config.ttlBounded
    rw [asked]
    exact undisturbed
  rcases answer with (error | message) | allowed | reason | approval
  · intro undisturbed
    obtain ⟨_, ⟨strands, running⟩ | ⟨open_, failed⟩⟩ := resolves undisturbed
    · have live : ¬ Terminal ((port.served σ gate process []).drop process) active.taskId := by
        rw [terminal_iff_taskState running]
        exact Bool.false_ne_true
      exact ⟨fun attended => absurd (attended rfl) live, fun open_ => absurd strands open_⟩
    · have terminal : Terminal ((port.served σ gate process []).drop process) active.taskId :=
        (terminal_iff_taskState failed).mpr rfl
      exact ⟨fun _ => open_, fun _ _ => terminal⟩
  · intro undisturbed
    exact absurd (resolves undisturbed).1 id
  · rcases ran : ExecutionAdapter.execute env.clock gate.adapter operation
      process.world.reads with ⟨error | output, adapter, reads⟩
    · rw [submitted, ran]
      dsimp only
      split
      · exact leads_concluded (Ends.attends .budget fresh joined.orderly (evolves.reads reads)
          resolves)
      · exact leads_concluded (Ends.attends (.failed _ lawful.failing) fresh joined.orderly
          (evolves.reads reads) resolves)
    · rw [submitted, ran]
      exact fun undisturbed => ⟨(resolves undisturbed).1, _, rfl, rfl⟩
  · exact leads_concluded (Ends.attends (.denied reason) fresh joined.orderly evolves resolves)
  · simp only [submitted]
    split
    · intro undisturbed
      exact ⟨fun _ => resolves undisturbed, fun _ => attended_of_session rfl _⟩
    · intro undisturbed
      exact ⟨fun _ => resolves undisturbed,
        fun _ => attended_of_session ((lawful.active σ.agent _).trans session) _⟩

end port

variable [ModelSession C E] [ToolHandler H]

theorem turn_attends (fresh : Function.Injective env.uuid) (joined : Joined env σ)
    (session : σ.agent.active = some active) :
    Leads (Proceeds σ.process active.taskId (¬ Loses env σ))
      (Attends σ.process active.taskId (¬ Loses env σ)) (exec (turn env) σ) := by
  apply turn_rule session
  · intro error refused _
    refine ⟨fun _ => ?_, fun _ => attended_of_session session _⟩
    rintro ⟨other, context, decision, after, request, there, proposes, _⟩
    cases Option.some.inj (session.symm.trans there)
    cases refused.symm.trans proposes.known
  · intro τ method answer context saw ends known alone
    obtain ⟨reads, same⟩ := saw.process
    have evolves : Evolves env σ.process τ.process := by
      rw [same]
      exact Evolves.refl.reads reads
    have running : τ.process.supervisor.taskState active.taskId = some .running := by
      rw [same]
      exact running_of_context known
    have open_ : ¬ Loses env σ := by
      rintro ⟨other, context, decision, after, request, there, proposes, proposal, _⟩
      cases Option.some.inj (session.symm.trans there)
      cases (alone context decision after proposes).symm.trans proposal
    exact leads_concluded (ends.attends fresh joined.orderly evolves fun _ => ⟨open_, running⟩)
  · intro A O Output Err _ _ _ port gate context operation decision after answer process lawful
      proposes found described proposal asked
    rw [loses_iff session proposes proposal]
    let poised := σ.poised active (.ok decision, after)
    let next : ActiveSession C := { active with model := after, nextStep := active.nextStep + 1 }
    have session : poised.agent.active = some next := rfl
    exact submitted_attends fresh (joined.poised fresh active (.ok decision, after)) lawful session
      (running_of_context proposes.known) (ContextualOperation.attach context operation) asked

def Turned (env : Env) (σ τ : AgentSystem S M C E H) : Prop := exec (turn env) σ = (.ok none, τ)

theorem turned_unique {τ υ : AgentSystem S M C E H} (first : Turned env σ τ)
    (second : Turned env σ υ) : υ = τ := by
  cases first.symm.trans second
  rfl

theorem drive_attends (fresh : Function.Injective env.uuid) {turns : Nat} (joined : Joined env σ)
    (session : σ.agent.active = some active)
    (finished : (exec (driveFor env turns) σ).1 ≠ .error .unfinished)
    (undisturbed : Undisturbed σ.process (exec (driveFor env turns) σ).2.process) :
    Attended (exec (driveFor env turns) σ).2 active.taskId ↔
      ∀ τ, Relation.ReflTransGen (Turned env) σ τ → ¬ Loses env τ := by
  induction turns generalizing σ active with
  | zero => exact absurd rfl finished
  | succ turns ih =>
    have leads : Leads _ _ (exec (turn env) σ) := turn_attends fresh joined session
    have kept : Joined env (exec (turn env) σ).2 := (steady_joined fresh).turn σ joined
    have evolves : Evolves env σ.process (exec (turn env) σ).2.process :=
      (steady_evolves σ.process).turn σ .refl
    have last : (∀ υ, ¬ Turned env σ υ) →
        ((∀ τ, Relation.ReflTransGen (Turned env) σ τ → ¬ Loses env τ) ↔ ¬ Loses env σ) := by
      intro halted
      refine ⟨fun never => never σ .refl, fun open_ τ turned => ?_⟩
      rcases Relation.ReflTransGen.cases_head turned with rfl | ⟨υ, next, _⟩
      · exact open_
      · exact absurd next (halted υ)
    unfold driveFor at finished undisturbed ⊢
    rcases ran : exec (turn env) σ with ⟨stop | (none | outcome), τ⟩
    · rw [exec_bind_error ran] at undisturbed ⊢
      rw [ran] at leads
      rw [last fun υ turned => by cases ran.symm.trans turned]
      exact leads undisturbed
    · rw [exec_bind_ok ran] at finished undisturbed ⊢
      rw [ran] at leads kept evolves
      have rest : Evolves env τ.process (exec (driveFor env turns) τ).2.process :=
        (steady_evolves τ.process).driveFor turns τ .refl
      obtain ⟨before, behind⟩ := undisturbed.split evolves.attempted rest.attempted
      obtain ⟨open_, next, there, owner⟩ := leads before
      rw [← owner, ih kept there finished behind]
      refine ⟨fun never υ turned => ?_, fun never υ turned => never υ (.head ran turned)⟩
      rcases Relation.ReflTransGen.cases_head turned with rfl | ⟨mid, first, behind⟩
      · exact open_
      · cases turned_unique ran first
        exact never υ behind
    · rw [exec_bind_ok ran] at undisturbed ⊢
      rw [ran] at leads
      rw [last fun υ turned => by cases ran.symm.trans turned]
      exact leads undisturbed

end loop

section calls
variable {S M C E H : Type} [LawfulEventStore S] {env : Env} {σ : AgentSystem S M C E H}
  {active : ActiveSession C} {taskId : TaskId}

section port
variable {A O Output Err : Type} [ToolHandler H] [ContextualOperation O]
  [ExecutionAdapter A O Output Err] [DecidableEq Err] {port : Port M C H A O Output Err}

theorem approved_attends (fresh : Function.Injective env.uuid) (joined : Joined env σ)
    (lawful : port.Lawful) (session : σ.agent.active = some active)
    (failable : Failable σ.process active.taskId) {approvalId : ApprovalId} :
    Enters (fun τ => ∃ next, τ.agent.active = some next ∧ next.taskId = active.taskId)
      (Attends σ.process active.taskId True) (exec (do
        let output ← approveThrough env port active.taskId approvalId
        updateActive (fun active => { active with
          pendingApproval := none, previousOperationOutput := some output })) σ) := by
  have kept : ∀ (gate : ExecutionGate A O) (process : Process S) (events : List (AgentEvent C E)),
      Attended (port.served σ gate process events) active.taskId :=
    fun gate _ _ => attended_of_session ((lawful.active σ.agent gate).trans session) _
  cases found : port.gate σ.agent with
  | none =>
    have missing : exec (approveThrough env port active.taskId approvalId) σ =
        (.error (.err .invalidState), σ) := exec_bind_error (Port.exec_run_missing found _)
    rw [exec_bind_error missing]
    exact fun _ => iff_of_true (attended_of_session session _) trivial
  | some gate =>
    have approves : Approves env port σ gate active.taskId approvalId _ :=
      approveThrough_cases lawful found
    rw [exec_andThen]
    generalize exec (approveThrough env port active.taskId approvalId) σ = out at approves ⊢
    cases approves with
    | gone _ =>
      rw [andThen_concluded]
      refine enters_concluded fun undisturbed => iff_of_true (fun _ => ?_) trivial
      exact Ends.terminal (.failed _ lawful.failing) fresh joined.orderly .refl
        (.inr ⟨rfl, failable⟩) undisturbed
    | stopped _ => exact fun _ => iff_of_true (kept _ _ _) trivial
    | unused _ _ => exact fun _ => iff_of_true (kept _ _ _) trivial
    | @broke operationId pending granted receipt process error adapter reads _ _ approved consumed _
        ends =>
      have evolves := approved.evolves consumed reads
      rw [andThen_concluded]
      refine enters_concluded fun undisturbed => iff_of_true (fun _ => ?_) trivial
      exact ends.terminal fresh joined.orderly evolves
        (.inr ⟨rfl, evolves.failable fresh joined.orderly failable⟩) undisturbed
    | executed approved consumed _ =>
      rw [andThen, exec_updateActive ((lawful.active σ.agent _).trans session)]
      exact ⟨_, rfl, rfl⟩

end port

theorem takeUp_attends [ToolHandler H] (fresh : Function.Injective env.uuid)
    (joined : Joined env σ) (session : σ.agent.active = some active)
    (failable : Failable σ.process active.taskId) (approvalId : ApprovalId) :
    Enters (fun τ => ∃ next, τ.agent.active = some next ∧ next.taskId = active.taskId)
      (Attends σ.process active.taskId True) (exec (takeUp env approvalId) σ) := by
  apply takeUp_rule
  · exact fun _ => iff_of_true (attended_of_session session _) trivial
  · intro own pending there waits same
    cases Option.some.inj (session.symm.trans there)
    cases pending.adapter with
    | tool => exact approved_attends fresh joined Port.toolPort_lawful session failable
    | network => exact approved_attends fresh joined Port.networkPort_lawful session failable

theorem openFor_attends [ModelAdapter M C E] (fresh : Function.Injective env.uuid)
    (orderly : Orderly env σ.process) (idle : σ.agent.active = none) {input : TaskExecutionInput}
    {process : Process S}
    (moved : exec (startExecution env taskId) σ.process = (.ok input, process)) :
    Enters (fun τ => ∃ next, τ.agent.active = some next ∧ next.taskId = taskId)
      (Attends σ.process taskId True) (exec (openFor env taskId) σ) := by
  apply openFor_rule
  · exact fun busy => absurd idle busy
  · intro stop after _ refused
    cases moved.symm.trans refused
  · intro other after _ started
    have evolves : Evolves env σ.process after :=
      Evolves.refl.method (.startExecution taskId) rfl started
    have running : after.supervisor.taskState taskId = some .running := by
      have launches := startExecution_cases env σ.process orderly.recoveredTerminal taskId
      rw [started] at launches
      obtain ⟨store, record, found, startable, appended⟩ := launches
      have launched : (σ.process.supervisor.tasks.insert taskId { record with
          state := .running, startedAt := some (env.clock σ.process.world.reads) })[taskId]? =
            some _ := (OrdMap.get_insert _ _ _ _).trans (if_pos rfl)
      rw [TaskSupervisor.taskState_of_record launched]
    exact enters_concluded (Ends.attends (.failed .modelFailed (by decide)) fresh orderly evolves
      fun _ => ⟨trivial, running⟩)
  · exact fun _ _ _ _ _ _ => ⟨_, rfl, rfl⟩

variable [ModelSession C E] [ToolHandler H]

/-- A turn of the loop behind `entry` begins in `τ`. -/
def Begins (env : Env) (entry : AgentM S M C E H Unit) (σ τ : AgentSystem S M C E H) : Prop :=
  ∃ υ, exec entry σ = (.ok (), υ) ∧ Relation.ReflTransGen (Turned env) υ τ

/-- A call that drives a session, by what it does before its loop. -/
theorem call_attends (fresh : Function.Injective env.uuid) {entry : AgentM S M C E H Unit}
    (kept : Joined env (exec entry σ).2)
    (evolves : Evolves env σ.process (exec entry σ).2.process)
    (enters : Enters (fun τ => ∃ next, τ.agent.active = some next ∧ next.taskId = taskId)
      (Attends σ.process taskId True) (exec entry σ))
    (finished : (exec (do entry; drive env) σ).1 ≠ .error .unfinished)
    (undisturbed : Undisturbed σ.process (exec (do entry; drive env) σ).2.process) :
    Attended (exec (do entry; drive env) σ).2 taskId ↔
      ∀ τ, Begins env entry σ τ → ¬ Loses env τ := by
  rcases ran : exec entry σ with ⟨stop | ⟨⟩, υ⟩
  · rw [exec_bind_error ran] at undisturbed ⊢
    rw [ran] at enters
    refine iff_of_true ((enters undisturbed).mpr trivial) ?_
    rintro τ ⟨other, entered, _⟩
    cases ran.symm.trans entered
  · rw [exec_bind_ok ran, exec_drive] at finished undisturbed
    rw [exec_bind_ok ran, exec_drive]
    rw [ran] at enters kept evolves
    obtain ⟨active, session, rfl⟩ := enters
    have rest : Evolves env υ.process (exec (drive env) υ).2.process :=
      (steady_evolves υ.process).drive υ .refl
    have behind := (undisturbed.split evolves.attempted rest.attempted).2
    rw [drive_attends fresh kept session finished behind]
    constructor
    · rintro never τ ⟨other, entered, turned⟩
      cases ran.symm.trans entered
      exact never τ turned
    · exact fun never τ turned => never τ ⟨υ, ran, turned⟩

end calls

theorem startExecution_running {S : Type} [EventStore S] {env : Env} {p : Process S}
    {taskId : TaskId} {record : TaskRecord} (found : p.supervisor.tasks[taskId]? = some record)
    (running : record.state = .running) :
    exec (startExecution env taskId) p =
      (.error (.err (.invalidStateTransition ⟨.running, .running⟩)), p) := by
  unfold startExecution AiOs.start transition
  simp only [bind_assoc]
  rw [exec_bind_ok (exec_current p), exec_bind_ok (exec_okOr_found found _ _),
    exec_bind_ok (exec_current p), exec_bind_ok
      (exec_okOr_found (TaskSupervisor.taskState_of_record found) _ _), running]
  exact exec_bind_error (exec_propose_refused rfl p)

/-- Whom the Agent lets go. A call that has taken its Task into its hands, and during which no
batch is rejected, leaves the slot free with an open Task exactly when one of its turns begins
with a proposal that the supervisor refuses to register. A call on a Task that somebody else
runs takes nothing into its hands. -/
theorem AgentSystem.task_attended_iff {S M C E H : Type} [LawfulEventStore S] [ModelSession C E]
    [ModelAdapter M C E] [ToolHandler H] {env : Env} {σ : AgentSystem S M C E H}
    (fresh : Function.Injective env.uuid) (runs : Runs env σ) (taskId : TaskId) :
    (σ.agent.activeTask = none →
      ((exec (startExecution env taskId) σ.process).1.isOk = true →
        Undisturbed σ.process (σ.run env (.start taskId)).process →
        (Attended (σ.run env (.start taskId)) taskId ↔
          ∀ τ, Begins env (openFor env taskId) σ τ → ¬ Loses env τ)) ∧
      (σ.process.supervisor.taskState taskId = some .running →
        exec (start env taskId) σ = (.error (.err (.supervisor
          (.invalidStateTransition ⟨.running, .running⟩))), σ))) ∧
    (σ.agent.activeTask = some taskId →
      σ.process.supervisor.taskState taskId = some .running ∨
        σ.process.supervisor.taskState taskId = some .waitingApproval →
      ∀ approvalId, Undisturbed σ.process (σ.run env (.approveAndResume approvalId)).process →
        (Attended (σ.run env (.approveAndResume approvalId)) taskId ↔
          ∀ τ, Begins env (takeUp env approvalId) σ τ → ¬ Loses env τ)) := by
  have joined := runs.joined fresh
  refine ⟨fun free => ⟨?_, ?_⟩, ?_⟩
  · intro moved undisturbed
    have idle := Option.map_eq_none_iff.mp free
    rcases started : exec (startExecution env taskId) σ.process with ⟨stop | input, process⟩
    · rw [started] at moved
      cases moved
    · exact call_attends fresh ((steady_joined fresh).openFor taskId σ joined)
        ((steady_evolves σ.process).openFor taskId σ .refl)
        (openFor_attends fresh joined.orderly idle started) (runs.talks.start taskId).2 undisturbed
  · intro running
    have idle := Option.map_eq_none_iff.mp free
    obtain ⟨record, found, state⟩ :=
      record_of_open σ.process joined.orderly.recoveredTerminal running rfl
    have refuses : exec (startExecution env taskId) σ.process = _ :=
      startExecution_running found state
    have unopened : exec (openFor env taskId) σ = (.error (.err (.supervisor
        (.invalidStateTransition ⟨.running, .running⟩))), σ) := by
      apply openFor_rule (P := fun out => out = (.error (.err (.supervisor
        (.invalidStateTransition ⟨.running, .running⟩))), σ))
      · exact fun busy => absurd idle busy
      · intro stop process _ refused
        cases refuses.symm.trans refused
        rfl
      · intro input process _ started
        cases refuses.symm.trans started
      · intro input process model _ started _
        cases refuses.symm.trans started
    exact exec_bind_error unopened
  · intro owner state approvalId undisturbed
    obtain ⟨active, session, rfl⟩ := Option.map_eq_some_iff.mp owner
    have failable : Failable σ.process active.taskId := by
      rcases state with running | waiting
      · exact ⟨.running, running, .inr rfl⟩
      · exact ⟨.waitingApproval, waiting, .inr rfl⟩
    exact call_attends fresh ((steady_joined fresh).takeUp approvalId σ joined)
      ((steady_evolves σ.process).takeUp approvalId σ .refl)
      (takeUp_attends fresh joined session failable approvalId)
      (runs.talks.approveAndResume approvalId).2 undisturbed

namespace Sample

/-- A Task that waits for an approval which somebody else has asked for. -/
def foreign : Scripted :=
  agent (toolCall "push") [.direct (.submit AiOs.Sample.spec), .direct (.start ⟨0⟩),
    .direct (.requestOperation ⟨0⟩ AiOs.Sample.push (10 ^ 9))]

set_option maxRecDepth 4000 in
/-- The Agent takes the Task up, its session proposes an operation that needs an approval, and
the Task already has one: the session is gone and the Task runs on. -/
theorem task_left_running :
    let after := foreign.run AiOs.Sample.env (.start ⟨0⟩)
    foreign.Runs AiOs.Sample.env ∧ foreign.agent.activeTask = none ∧
      (exec (startExecution AiOs.Sample.env ⟨0⟩) foreign.process).1.isOk = true ∧
      Undisturbed foreign.process after.process ∧ after.agent.activeTask = none ∧
      after.process.supervisor.taskState ⟨0⟩ = some .running ∧ ¬ Terminal after ⟨0⟩ :=
  ⟨agent_runs _ _, by decide +kernel⟩

def untouched : Scripted := agent (toolCall "push") [.direct (.submit AiOs.Sample.spec)]

/-- The same decision and then the end, up to where the Task waits for its approval. -/
def suspended : Scripted :=
  agent (toolCall "push" ++ finish) [.direct (.submit AiOs.Sample.spec), .start ⟨0⟩]

set_option maxRecDepth 4000 in
/-- A start leaves the Task waiting with its session, and a resumption leaves it ended without
one; no turn of either has lost it. -/
theorem task_attended_waiting :
    ((Attended (untouched.run AiOs.Sample.env (.start ⟨0⟩)) ⟨0⟩ ↔
      ∀ τ, Begins AiOs.Sample.env (openFor AiOs.Sample.env ⟨0⟩) untouched τ →
        ¬ Loses AiOs.Sample.env τ) ∧
      (untouched.run AiOs.Sample.env (.start ⟨0⟩)).agent.activeTask = some ⟨0⟩) ∧
    (Attended (suspended.run AiOs.Sample.env (.approveAndResume ⟨2⟩)) ⟨0⟩ ↔
      ∀ τ, Begins AiOs.Sample.env (takeUp AiOs.Sample.env ⟨2⟩) suspended τ →
        ¬ Loses AiOs.Sample.env τ) ∧
    (suspended.run AiOs.Sample.env (.approveAndResume ⟨2⟩)).agent.activeTask = none ∧
    Terminal (suspended.run AiOs.Sample.env (.approveAndResume ⟨2⟩)) ⟨0⟩ := by
  have idle : untouched.agent.activeTask = none := by decide +kernel
  have moved : (exec (startExecution AiOs.Sample.env ⟨0⟩) untouched.process).1.isOk = true := by
    decide +kernel
  have started : Undisturbed untouched.process
      (untouched.run AiOs.Sample.env (.start ⟨0⟩)).process := by decide +kernel
  have active : suspended.agent.activeTask = some ⟨0⟩ := by decide +kernel
  have waits : suspended.process.supervisor.taskState ⟨0⟩ = some .waitingApproval := by
    decide +kernel
  have resumed : Undisturbed suspended.process
      (suspended.run AiOs.Sample.env (.approveAndResume ⟨2⟩)).process := by decide +kernel
  refine ⟨⟨((AgentSystem.task_attended_iff AiOs.Sample.uuid_injective (agent_runs _ _) ⟨0⟩).1
    idle).1 moved started, by decide +kernel⟩, (AgentSystem.task_attended_iff
    AiOs.Sample.uuid_injective (agent_runs _ _) ⟨0⟩).2 active (.inr waits) ⟨2⟩ resumed, ?_⟩
  decide +kernel

end Sample

end AiOs.Agent
