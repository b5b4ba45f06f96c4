import AiOs.Agent.Upkeep

/-! What the Agent reports is what the supervisor has recorded: every answer of a call that
drives a session comes with the state of the Task that it stands for. -/
namespace AiOs.Agent

open Fallible

section outcome
variable {S M C E H : Type} [LawfulEventStore S]

/-- The slot is free and the Task has ended, in the supervisor and at the end of its log. -/
structure Ended (σ : AgentSystem S M C E H) (taskId : TaskId) (state : TaskState)
    (failure : Option ErrorCode) : Prop where
  free : σ.agent.activeTask = none
  reported : σ.process.supervisor.get taskId = some ⟨taskId, state⟩
  logged : ∃ before source, σ.process.kinds taskId =
    before ++ failure.toList.map TaskEventKind.taskFailed ++ [.stateTransitioned source state]

/-- The session waits, and its request is pending in the supervisor and in exactly the gate
that the session has recorded. -/
structure Waits (σ : AgentSystem S M C E H) (taskId : TaskId) (request : ApprovalRequest) :
    Prop where
  active : σ.agent.activeTask = some taskId
  reported : σ.process.supervisor.get taskId = some ⟨taskId, .waitingApproval⟩
  requested : ∃ pending, σ.process.supervisor.pendingOperations[request.approvalId]? = some pending ∧
    pending.taskId = taskId
  retained : ∃ adapter,
    σ.agent.active.bind ActiveSession.pendingApproval = some ⟨request.approvalId, adapter⟩ ∧
      ∀ other, (∃ operation, σ.agent.Retains other request.approvalId operation) ↔ other = adapter

/-- The answer of a call agrees with what the call leaves. An error of the supervisor is the
supervisor's own answer. -/
def Agrees (before : AgentSystem S M C E H) (taskId : TaskId) :
    Except AgentStop AgentRunOutcome × AgentSystem S M C E H → Prop
  | (.ok (.completed _), σ) => Ended σ taskId .succeeded none
  | (.ok (.denied _), σ) => Ended σ taskId .failed none
  | (.ok (.waitingApproval request), σ) => Waits σ taskId request
  | (.error (.err .budgetExceeded), σ) => Ended σ taskId .failed (some .budgetExceeded)
  | (.error (.err .invalidDecision), σ) | (.error (.err .stepLimitExceeded), σ)
  | (.error (.err .modelFailed), σ) | (.error (.err .toolFailed), σ)
  | (.error (.err .networkFailed), σ) => Ended σ taskId .failed none
  | (.error (.err .invalidState), σ) => σ = before
  | (.error (.err .capacityExceeded), σ) => σ = before ∧ before.agent.active ≠ none
  | (.error (.err .invalidConfig), _) => False
  | (.error (.err (.supervisor _)), _) | (.error (.panic _), _) | (.error .unfinished, _) => True

theorem ended_of_finishes {p after : Process S} {taskId : TaskId} {next : TaskState}
    {failure : Option ErrorCode} (finishes : Finishes p taskId next failure after)
    (σ : AgentSystem S M C E H) : Ended (σ.drop after) taskId next failure := by
  obtain ⟨store, record, found, allowed, terminal, appended⟩ := finishes
  refine ⟨rfl, ?_, ?_⟩
  · have moved : (p.supervisor.tasks.insert taskId { record with state := next })[taskId]? =
        some { record with state := next } := (OrdMap.get_insert _ _ _ _).trans (if_pos rfl)
    change Option.map _ (TaskSupervisor.taskState _ taskId) = _
    rw [TaskSupervisor.taskState_of_record moved]
    rfl
  · refine ⟨p.kinds taskId ++ p.supervisor.revocationEvents taskId, record.state, ?_⟩
    change kindsOf (LawfulEventStore.log store taskId) = _
    rw [appended.grows.own, finishedEvents]
    simp only [Process.kinds, List.append_assoc]

section conclude
variable {env : Env} {before τ : AgentSystem S M C E H} {taskId : TaskId}

theorem agrees_ofStop (stop : Stop) :
    Agrees before taskId (.error (.ofStop stop), τ) := by
  cases stop <;> exact trivial

theorem agrees_concluded (orderly : Orderly env τ.process) {method : SupervisorM S Unit}
    {answer : Except AgentStop AgentRunOutcome} (ends : Ends env taskId method answer) :
    Agrees before taskId (concluded method answer τ) := by
  have finished : ∀ next failure,
      StopsOr τ.process (fun _ after => Finishes τ.process taskId next failure after)
        (exec method τ.process) →
      (∀ after, Ended (τ.drop after) taskId next failure →
        Agrees before taskId (answer, τ.drop after)) →
      Agrees before taskId (concluded method answer τ) := by
    intro next failure cases agrees
    unfold concluded
    rcases ran : exec method τ.process with ⟨stop | ⟨⟩, after⟩
    · exact agrees_ofStop stop
    · rw [ran] at cases
      exact agrees after (ended_of_finishes cases τ)
  have recovered := orderly.recoveredTerminal
  cases ends with
  | completed output => exact finished _ _ (succeed_cases env _ recovered taskId) fun _ => id
  | denied reason => exact finished _ _ (failTask_cases env _ recovered taskId) fun _ => id
  | budget => exact finished _ _ (failBudgetExceeded_cases env _ recovered taskId) fun _ => id
  | failed error ending =>
    apply finished _ _ (failTask_cases env _ recovered taskId)
    intro after ended
    cases error <;> first | exact ended | simp at ending

end conclude

omit [LawfulEventStore S] in
theorem Joined.unretained {env : Env} {σ : AgentSystem S M C E H} (joined : Joined env σ) {i : Nat}
    (future : σ.process.world.ids ≤ i) (adapter : PendingAdapter) (operation : AgentOperation) :
    ¬ σ.agent.Retains adapter ⟨env.uuid i⟩ operation := by
  cases adapter with
  | tool =>
    rintro ⟨kept, ⟨operationId, pending, indexed, _⟩, _⟩
    rw [(joined.tool.unused future).2] at indexed
    cases indexed
  | network =>
    rintro ⟨gate, kept, found, ⟨operationId, pending, indexed, _⟩, _⟩
    rw [((joined.network gate found).unused future).2] at indexed
    cases indexed

omit [LawfulEventStore S] in
theorem Joined.withActive {env : Env} {σ : AgentSystem S M C E H} (joined : Joined env σ)
    (active : ActiveSession C) : Joined env (σ.withActive active) :=
  ⟨joined.tool, joined.network⟩

variable [ToolHandler H]

theorem Joined.poised {env : Env} {σ : AgentSystem S M C E H} (joined : Joined env σ)
    (fresh : Function.Injective env.uuid) (active : ActiveSession C)
    (answer : Except E ModelDecision × C) : Joined env (σ.poised active answer) :=
  (steady_joined fresh).rest (σ.ticked (σ.process.world.reads + 2)) _ rfl rfl rfl
    ((steady_joined fresh).reads σ _ joined)

section port
variable {A O Output Err : Type} [ContextualOperation O] [ExecutionAdapter A O Output Err]
  [DecidableEq Err] {env : Env} {port : Port M C H A O Output Err}
  {before σ : AgentSystem S M C E H} {gate : ExecutionGate A O} {active : ActiveSession C}
  {context : TaskExecutionContext} {operation : O}

omit [DecidableEq Err] in
theorem waits_retained (joined : Joined env σ)
    (lawful : port.Lawful) {request : CapabilityRequest} {ttl : Duration} {process : Process S}
    {approval : ApprovalRequest}
    (asked : exec (requestOperation env active.taskId request ttl) σ.process =
      (.ok (.approvalRequired approval), process)) :
    Waits ((port.served σ (gate.retain active.taskId approval operation) process []).withActive
      { active with pendingApproval := some ⟨approval.approvalId, port.adapter⟩ })
      active.taskId approval := by
  obtain ⟨i, future, _, _, approvalIs, pending⟩ := requestOperation_asked joined.orderly asked
  obtain ⟨mid, closed, leads, ready, decides⟩ := requestOperation_ok joined.orderly asked
  have own : port.gate { port.setGate σ.agent (gate.retain active.taskId approval operation) with
      active := some { active with
        pendingApproval := some ⟨approval.approvalId, port.adapter⟩ } } =
      some (gate.retain active.taskId approval operation) :=
    (lawful.session _ _).trans (lawful.installed _ _)
  refine ⟨rfl, ?_, ⟨_, pending, rfl⟩, port.adapter, rfl, fun other => ⟨?_, ?_⟩⟩
  · cases decides with
    | asked _ asks =>
      obtain ⟨store, record, found, running, valid, decided, single, unindexed, room, appended⟩ :=
        asks
      have moved : (mid.supervisor.tasks.insert active.taskId
          { record with state := .waitingApproval })[active.taskId]? =
            some { record with state := .waitingApproval } :=
        (OrdMap.get_insert _ _ _ _).trans (if_pos rfl)
      change Option.map _ (TaskSupervisor.taskState _ active.taskId) = _
      rw [TaskSupervisor.taskState_of_record moved]
      rfl
  · rintro ⟨kept, retained⟩
    by_contra apart
    have same := lawful.apart σ.agent (gate.retain active.taskId approval operation) other apart
    have there : σ.agent.Retains other approval.approvalId kept := by
      rw [← same]
      cases other <;> exact retained
    rw [approvalIs] at there
    exact joined.unretained (Nat.le_succ_of_le future) other kept there
  · rintro rfl
    exact ⟨_, lawful.retains.mpr ⟨_, operation, own, holds_retain.mpr rfl, rfl⟩⟩

theorem agrees_submitted (fresh : Function.Injective env.uuid) (joined : Joined env σ)
    (lawful : port.Lawful) {request : CapabilityRequest} {ttl : Duration}
    {answer : Except Stop OperationAuthorization} {process : Process S}
    (asked : exec (requestOperation env active.taskId request ttl) σ.process = (answer, process)) :
    Leads (fun τ => ∃ session, τ.agent.active = some session ∧ session.taskId = active.taskId)
      (Agrees before active.taskId) (submitted env port σ gate active operation answer process) := by
  have orderly : Orderly env process := by
    have evolves : Evolves env σ.process process :=
      Evolves.refl.method (.requestOperation active.taskId request ttl) rfl asked
    exact evolves.orderly fresh joined.orderly
  rcases answer with (error | message) | allowed | reason | approval
  · exact trivial
  · exact trivial
  · have later : ∀ reads, Orderly env { process with world := { process.world with reads := reads } } :=
      fun reads => (Evolves.refl.reads reads).orderly fresh orderly
    rcases ran : ExecutionAdapter.execute env.clock gate.adapter operation
      process.world.reads with ⟨error | output, adapter, reads⟩
    · rw [submitted, ran]
      dsimp only
      split
      · exact leads_concluded (agrees_concluded (later reads) .budget)
      · exact leads_concluded (agrees_concluded (later reads) (.failed _ lawful.failing))
    · rw [submitted, ran]
      exact ⟨_, rfl, rfl⟩
  · exact leads_concluded (agrees_concluded orderly (.denied reason))
  · simp only [submitted]
    split
    · exact waits_retained joined lawful asked
    · exact trivial

omit [DecidableEq Err] in
/-- What the two calls of the supervisor and the execution leave. -/
theorem Approved.evolves {p granted process : Process S} {approvalId : ApprovalId}
    {operationId : OperationId} {pending : PendingExecution O} {receipt : ApprovalReceipt}
    (approved : Approved env p gate approvalId operationId pending granted)
    (consumed : exec (authorizeOperation env pending.taskId operationId
      (GuardedOperation.capabilityRequest pending.operation)) granted = (.ok receipt, process))
    (reads : Nat) :
    Evolves env p { process with world := { process.world with reads := reads } } := by
  obtain ⟨snapshot, approval⟩ := approved.approved
  have first : Evolves env p granted :=
    Evolves.refl.method (.approveOperation approvalId) rfl approval
  exact (first.method (.authorizeOperation pending.taskId operationId
    (GuardedOperation.capabilityRequest pending.operation)) rfl consumed).reads reads

/-- An approval that was not executed ends its session, or it is the supervisor's answer. An
executed one leads into the loop, with both gates attached. -/
theorem agrees_approved (fresh : Function.Injective env.uuid) (joined : Joined env σ)
    (lawful : port.Lawful) (session : σ.agent.active = some active) {approvalId : ApprovalId} :
    Enters (fun τ => ∃ session, τ.agent.active = some session ∧ session.taskId = active.taskId ∧
        Joined env τ) (Agrees σ active.taskId) (exec (do
      let output ← approveThrough env port active.taskId approvalId
      updateActive (fun active => { active with
        pendingApproval := none, previousOperationOutput := some output })) σ) := by
  cases found : port.gate σ.agent with
  | none =>
    have missing : exec (approveThrough env port active.taskId approvalId) σ =
        (.error (.err .invalidState), σ) := exec_bind_error (Port.exec_run_missing found _)
    rw [exec_bind_error missing]
    exact rfl
  | some gate =>
    have approves : Approves env port σ gate active.taskId approvalId _ :=
      approveThrough_cases lawful found
    have attached : Attached env σ.process gate :=
      lawful.own (Q := fun gate => Attached env σ.process gate) joined found
    rw [exec_andThen]
    generalize exec (approveThrough env port active.taskId approvalId) σ = out at approves ⊢
    cases approves with
    | gone _ =>
      rw [andThen_concluded]
      have orderly : Orderly env (port.served σ gate σ.process []).process := joined.orderly
      exact enters_concluded (agrees_concluded orderly (.failed _ lawful.failing))
    | stopped _ => exact agrees_ofStop _
    | unused _ _ => exact agrees_ofStop _
    | broke approved consumed _ ends =>
      rw [andThen_concluded]
      exact enters_concluded
        (agrees_concluded ((approved.evolves consumed _).orderly fresh joined.orderly) ends)
    | @executed operationId pending granted receipt process output adapter reads approved consumed =>
      rw [andThen, exec_updateActive ((lawful.active σ.agent _).trans session)]
      have evolves := approved.evolves consumed reads
      have kept := evolves.attached fresh attached
      have taken : Attached env { process with world := { process.world with reads := reads } }
          (spent gate approvalId operationId adapter) :=
        (Attached.remove (σ := (⟨_, gate, [], [], [], []⟩ : System S A O)) kept
          approved.indexed).adapter adapter
      refine ⟨_, rfl, rfl, ?_⟩
      exact (joined.served fresh lawful evolves taken _).withActive _

end port

section calls
variable [ModelSession C E] {env : Env} {before σ : AgentSystem S M C E H}
  {taskId : TaskId}

theorem agrees_turn (fresh : Function.Injective env.uuid) (joined : Joined env σ)
    {active : ActiveSession C} (session : σ.agent.active = some active) :
    Leads (fun τ => ∃ session, τ.agent.active = some session ∧ session.taskId = active.taskId)
      (Agrees before active.taskId) (exec (turn env) σ) := by
  apply turn_rule session
  · exact fun _ _ => trivial
  · intro τ method answer context saw ends _ _
    obtain ⟨reads, same⟩ := saw.process
    have orderly : Orderly env τ.process := by
      rw [same]
      exact (Evolves.refl.reads reads).orderly fresh joined.orderly
    exact leads_concluded (agrees_concluded orderly ends)
  · intro A O Output Err _ _ _ port gate context operation decision after answer process lawful
      proposes found described _ asked
    exact agrees_submitted fresh (joined.poised fresh active _) lawful asked

theorem agrees_drive (fresh : Function.Injective env.uuid) (joined : Joined env σ)
    {active : ActiveSession C} (session : σ.agent.active = some active) :
    Agrees before active.taskId (exec (drive env) σ) := by
  rw [exec_drive]
  refine drive_rule (I := fun _ τ => ∃ session, τ.agent.active = some session ∧
    session.taskId = active.taskId ∧ Joined env τ) ?_ ?_ ⟨active, session, rfl, joined⟩
  · exact fun _ _ => trivial
  · rintro turns τ ⟨own, session, same, joined⟩
    have kept : Joined env (exec (turn env) τ).2 := (steady_joined fresh).turn τ joined
    have leads : Leads _ (Agrees before own.taskId) (exec (turn env) τ) :=
      agrees_turn fresh joined session
    rw [same] at leads
    generalize exec (turn env) τ = out at kept leads ⊢
    rcases out with ⟨stop | (none | outcome), υ⟩
    · exact leads
    · obtain ⟨next, session, owner⟩ := leads
      exact ⟨next, session, owner, kept⟩
    · exact leads

theorem agrees_start [ModelAdapter M C E] (fresh : Function.Injective env.uuid)
    (joined : Joined env σ) (taskId : TaskId) : Agrees σ taskId (exec (start env taskId) σ) := by
  apply enter_rule
  have kept : Joined env (exec (openFor env taskId) σ).2 :=
    (steady_joined fresh).openFor taskId σ joined
  have launched : ∀ {answer process}, exec (startExecution env taskId) σ.process =
      (answer, process) → Orderly env process := by
    intro answer process started
    have evolves : Evolves env σ.process process :=
      Evolves.refl.method (.startExecution taskId) rfl started
    exact evolves.orderly fresh joined.orderly
  revert kept
  apply openFor_rule (P := fun out => Joined env out.2 →
    Enters (fun τ => Agrees σ taskId (exec (drive env) τ)) (Agrees σ taskId) out)
  · exact fun busy _ => ⟨rfl, busy⟩
  · exact fun stop _ _ _ _ => agrees_ofStop stop
  · intro input process _ started _
    exact enters_concluded (agrees_concluded (launched started)
      (.failed .modelFailed (by decide)))
  · intro input process model _ _ _ joined
    exact agrees_drive fresh joined rfl

theorem agrees_approveAndResume (fresh : Function.Injective env.uuid) (joined : Joined env σ)
    {active : ActiveSession C} (session : σ.agent.active = some active) (approvalId : ApprovalId) :
    Agrees σ active.taskId (exec (approveAndResume env approvalId) σ) := by
  apply enter_rule
  apply takeUp_rule
  · exact rfl
  · intro own pending there waits same
    cases Option.some.inj (session.symm.trans there)
    have resumes : Enters (fun τ => ∃ session, τ.agent.active = some session ∧
        session.taskId = active.taskId ∧ Joined env τ) (Agrees σ active.taskId) (exec (do
        let output ← approveAdapter env active.taskId approvalId pending.adapter
        updateActive (fun active => { active with
          pendingApproval := none, previousOperationOutput := some output })) σ) := by
      cases pending.adapter with
      | tool => exact agrees_approved fresh joined Port.toolPort_lawful session
      | network => exact agrees_approved fresh joined Port.networkPort_lawful session
    revert resumes
    generalize exec (do
      let output ← approveAdapter env active.taskId approvalId pending.adapter
      updateActive (fun active => { active with
        pendingApproval := none, previousOperationOutput := some output })) σ = out
    rcases out with ⟨stop | _, τ⟩
    · exact id
    · rintro ⟨next, session, owner, joined⟩
      rw [← owner]
      exact agrees_drive fresh joined session

end calls

end outcome

/-- The Agent's answer agrees with the durable Task: in every run, for every call that starts
or resumes a session. Without a session there is no Task to resume. -/
theorem AgentSystem.outcome_agrees {S M C E H : Type} [LawfulEventStore S] [ModelSession C E]
    [ModelAdapter M C E] [ToolHandler H] {env : Env} {σ : AgentSystem S M C E H}
    (fresh : Function.Injective env.uuid) (runs : Runs env σ) :
    (∀ taskId, Agrees σ taskId (exec (start env taskId) σ)) ∧
      ∀ approvalId,
        (∀ taskId, σ.agent.activeTask = some taskId →
          Agrees σ taskId (exec (approveAndResume env approvalId) σ)) ∧
        (σ.agent.activeTask = none →
          exec (approveAndResume env approvalId) σ = (.error (.err .invalidState), σ)) := by
  have joined := runs.joined fresh
  refine ⟨agrees_start fresh joined, fun approvalId => ⟨?_, ?_⟩⟩
  · intro taskId owner
    obtain ⟨active, session, rfl⟩ := Option.map_eq_some_iff.mp owner
    exact agrees_approveAndResume fresh joined session approvalId
  · intro idle
    have none := Option.map_eq_none_iff.mp idle
    unfold approveAndResume takeUp requirePending
    simp only [bind_assoc]
    rw [exec_bind_ok (exec_currentAgent σ), none]
    rfl

set_option maxRecDepth 4000 in
/-- A session that waits, and the same session when it was resumed. -/
theorem outcome_agrees_resumed :
    let σ := Sample.agent (Sample.toolCall "push" ++ Sample.finish)
      [.direct (.submit AiOs.Sample.spec), .start ⟨0⟩]
    ((∀ taskId, Agrees σ taskId (exec (start AiOs.Sample.env taskId) σ)) ∧
      ∀ approvalId,
        (∀ taskId, σ.agent.activeTask = some taskId →
          Agrees σ taskId (exec (approveAndResume AiOs.Sample.env approvalId) σ)) ∧
        (σ.agent.activeTask = none →
          exec (approveAndResume AiOs.Sample.env approvalId) σ = (.error (.err .invalidState), σ))) ∧
    σ.agent.activeTask = some ⟨0⟩ ∧
      (exec (approveAndResume AiOs.Sample.env ⟨2⟩) σ).1.isOk = true ∧
      (exec (approveAndResume AiOs.Sample.env ⟨2⟩) σ).2.agent.activeTask = none :=
  ⟨AgentSystem.outcome_agrees AiOs.Sample.uuid_injective (Sample.agent_runs _ _),
    by decide +kernel, by decide +kernel, by decide +kernel⟩

end AiOs.Agent
