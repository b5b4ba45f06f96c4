import AiOs.Runtime.Submission
import AiOs.Runtime.Gate

/-! Panic freedom. Only the policy of a stored specification can make a method of the
supervisor panic, and both methods that build one look at a running Task first, whose
specification is valid. The gate asserts that the identifiers it inserts are new, and they
are generated in the same call. -/
namespace AiOs

open Fallible

def Stop.IsError : Stop → Prop
  | .err _ => True
  | .panic _ => False

section methods
variable {S : Type} (env : Env)

theorem propose_errors (state next : TaskState) :
    Raises Stop.IsError (propose state next : SupervisorM S Unit) := by
  unfold propose
  split
  · exact raises_pure ()
  · exact raises_throw trivial

theorem approvalOr_errors {α : Type} (answer : Except ApprovalError α) :
    Raises Stop.IsError (approvalOr answer : SupervisorM S α) := by
  cases answer with
  | ok value => exact raises_pure value
  | error e => exact raises_throw trivial

theorem setState_errors (taskId : TaskId) (state : TaskState) :
    Raises Stop.IsError (setState taskId state : SupervisorM S Unit) :=
  (raises_modifyGet _).bind fun _ => (raises_okOr trivial).bind fun _ => raises_modifyGet _

variable [EventStore S]

theorem appendBatch_errors (taskId : TaskId) (kinds : List TaskEventKind) :
    Raises Stop.IsError (appendBatch env taskId kinds : SupervisorM S Unit) := by
  unfold appendBatch
  refine (raises_modifyGet _).bind ?_
  rintro (e | events)
  · exact raises_throw trivial
  · exact raises_pure ()

theorem submit_errors (spec : TaskSpec) :
    Raises Stop.IsError (submit env spec : SupervisorM S SubmitResult) := by
  unfold submit
  refine (raises_modifyGet _).bind fun s => ?_
  split
  · exact (raises_okOr trivial).bind fun _ => (raises_ensure trivial).bind fun _ => raises_pure _
  · exact (raises_ensure trivial).bind fun _ => (raises_modifyGet _).bind fun _ =>
      (appendBatch_errors env _ _).bind fun _ => (raises_modifyGet _).bind fun _ => raises_pure _

theorem applyTransition_errors (taskId : TaskId) (state next : TaskState)
    (failure : Option ErrorCode) :
    Raises Stop.IsError
      (applyTransitionWithFailure env taskId state next failure : SupervisorM S Unit) := by
  unfold applyTransitionWithFailure
  refine (raises_modifyGet _).bind fun _ => (appendBatch_errors env _ _).bind fun _ =>
    (raises_modifyGet _).bind fun _ => (raises_modifyGet _).bind fun s => ?_
  split
  · exact raises_modifyGet _
  · split
    · exact raises_modifyGet _
    · exact raises_throw trivial

theorem transition_errors (taskId : TaskId) (next : TaskState) :
    Raises Stop.IsError (transition env taskId next : SupervisorM S Unit) :=
  (raises_modifyGet _).bind fun _ => (raises_okOr trivial).bind fun _ =>
    (propose_errors _ _).bind fun _ => applyTransition_errors env _ _ _ none

theorem start_errors (taskId : TaskId) :
    Raises Stop.IsError (start env taskId : SupervisorM S Unit) :=
  (transition_errors env _ _).bind fun _ => (raises_modifyGet _).bind fun _ =>
    (raises_modifyGet _).bind fun _ => (raises_okOr trivial).bind fun _ => raises_modifyGet _

theorem startExecution_errors (taskId : TaskId) :
    Raises Stop.IsError (startExecution env taskId : SupervisorM S TaskExecutionInput) :=
  (raises_modifyGet _).bind fun _ => (raises_okOr trivial).bind fun _ =>
    (start_errors env _).bind fun _ => raises_pure _

theorem failBudgetExceeded_errors (taskId : TaskId) :
    Raises Stop.IsError (failBudgetExceeded env taskId : SupervisorM S Unit) :=
  (raises_modifyGet _).bind fun _ => (raises_okOr trivial).bind fun _ =>
    (propose_errors _ _).bind fun _ => applyTransition_errors env _ _ _ _

theorem cancel_errors (taskId : TaskId) :
    Raises Stop.IsError (cancel env taskId : SupervisorM S Bool) := by
  unfold cancel
  refine (raises_modifyGet _).bind fun _ => (raises_okOr trivial).bind fun state => ?_
  split
  · exact raises_pure _
  · exact (applyTransition_errors env _ _ _ _).bind fun _ => raises_pure _

theorem closePending_errors (id : ApprovalId) (pending : PendingOperation)
    (closing : TaskEventKind) :
    Raises Stop.IsError (closePending env id pending closing : SupervisorM S Unit) :=
  (raises_modifyGet _).bind fun _ => (raises_okOr trivial).bind fun _ =>
    (propose_errors _ _).bind fun _ => (appendBatch_errors env _ _).bind fun _ =>
      (raises_modifyGet _).bind fun _ => setState_errors _ _

theorem expireLoop_errors (ids : List ApprovalId) (count : Nat) :
    Raises Stop.IsError (expireLoop env ids count : SupervisorM S Nat) := by
  induction ids generalizing count with
  | nil => exact raises_pure _
  | cons id rest ih =>
    unfold expireLoop
    refine (raises_modifyGet _).bind fun s => ?_
    split
    · exact ih _
    · exact (closePending_errors env _ _ _).bind fun _ => ih _

theorem expireApprovals_errors :
    Raises Stop.IsError (expireApprovals env : SupervisorM S Nat) :=
  (raises_modifyGet _).bind fun _ => (raises_modifyGet _).bind fun _ => expireLoop_errors env _ _

theorem requestApproval_errors (taskId : TaskId) (state : TaskState)
    (request : CapabilityRequest) (ttl : Duration) :
    Raises Stop.IsError
      (requestApproval env taskId state request ttl : SupervisorM S OperationAuthorization) := by
  refine (raises_modifyGet _).bind fun _ => (raises_ensure trivial).bind fun _ =>
    (raises_modifyGet _).bind fun _ => (raises_modifyGet _).bind fun _ =>
    (raises_modifyGet _).bind fun _ => (raises_modifyGet _).bind fun _ =>
    (approvalOr_errors _).bind fun _ => (raises_modifyGet _).bind ?_
  rintro (e | events)
  · exact (raises_modifyGet _).bind fun _ => raises_throw trivial
  · exact (raises_modifyGet _).bind fun _ => (setState_errors _ _).bind fun _ => raises_pure _

theorem approveAfterPass_errors (id : ApprovalId) :
    Raises Stop.IsError (approveAfterPass env id : SupervisorM S TaskSnapshot) := by
  refine (raises_modifyGet _).bind fun _ => (raises_okOr trivial).bind fun _ =>
    (raises_okOr trivial).bind fun _ => (propose_errors _ _).bind fun _ =>
    (raises_modifyGet _).bind fun _ => (raises_modifyGet _).bind fun _ =>
    (approvalOr_errors _).bind fun _ => (raises_modifyGet _).bind ?_
  rintro (e | events)
  · exact (raises_modifyGet _).bind fun _ => raises_throw trivial
  · exact (raises_modifyGet _).bind fun _ => (raises_okOr trivial).bind fun _ =>
      (raises_modifyGet _).bind fun _ => (setState_errors _ _).bind fun _ => raises_pure _

theorem denyAfterPass_errors (id : ApprovalId) :
    Raises Stop.IsError (denyAfterPass env id : SupervisorM S TaskSnapshot) :=
  (raises_modifyGet _).bind fun _ => (raises_okOr trivial).bind fun _ =>
    (raises_ensure trivial).bind fun _ => (closePending_errors env _ _ _).bind fun _ =>
      raises_pure _

theorem failInterrupted_errors (tasks : List (TaskId × TaskState)) :
    Raises Stop.IsError (failInterrupted env tasks : SupervisorM S Unit) := by
  induction tasks with
  | nil => exact raises_pure ()
  | cons entry rest ih =>
    exact (appendBatch_errors env _ _).bind fun _ => (raises_modifyGet _).bind fun _ => ih

theorem recover_errors [RecoverableEventStore S] (world : World) (store : S) (maxTasks : Nat)
    (stop : Stop) (stopped : (recover env world store maxTasks).1 = .error stop) :
    stop.IsError := by
  unfold recover at stopped
  split at stopped
  · cases stopped
    trivial
  split at stopped
  · cases stopped
    trivial
  split at stopped
  · cases stopped
    trivial
  split at stopped
  · cases stopped
    trivial
  split at stopped
  · cases stopped
    trivial
  rename_i recovered _ supervisor _
  split at stopped
  · rename_i failed
    cases stopped
    exact failInterrupted_errors env _ _ stop (congrArg Prod.fst failed)
  · cases stopped

end methods

section supervisor
variable {S : Type} [LawfulEventStore S] {env : Env} {p : Process S}

/-- The outcome of a call that did not panic. -/
def Sane {α : Type} (out : Except Stop α × Process S) : Prop :=
  ∀ stop, out.1 = .error stop → stop.IsError

omit [LawfulEventStore S] in
/-- The policy of a Task in the table can be built while the Task is not rejected. -/
theorem evaluate_sane {β : Type} (orderly : Orderly env p) {taskId : TaskId} {record : TaskRecord}
    (found : p.supervisor.tasks[taskId]? = some record) (kept : record.state ≠ .rejected)
    {request : CapabilityRequest} {f : PolicyDecision → SupervisorM S β}
    (continues : ∀ decision, Raises Stop.IsError (f decision)) :
    Sane (exec (evaluateStored record.spec request >>= f) p) := by
  apply evaluate_rule (P := Sane)
  · intro invalid
    exact absurd (orderly.records.valid taskId record found kept) invalid
  · intro valid
    exact continues _ p

theorem requestAfterPass_sane (orderly : Orderly env p) (taskId : TaskId)
    (request : CapabilityRequest) (ttl : Duration) :
    Sane (exec (requestAfterPass env taskId request ttl) p) := by
  unfold requestAfterPass
  rw [exec_bind_ok (exec_current p)]
  apply okOr_rule (P := Sane)
  · rintro _ stop ⟨⟩
    trivial
  intro record found
  apply propose_rule (P := Sane)
  · rintro _ stop ⟨⟩
    trivial
  intro allowed
  have running := TaskState.transition_to_waiting.mp allowed
  apply evaluate_sane orderly found (by rw [running]; exact nofun)
  intro decision
  cases decision with
  | allow => exact (appendBatch_errors env _ _).bind fun _ => raises_pure _
  | deny reason => exact (appendBatch_errors env _ _).bind fun _ => raises_pure _
  | approvalRequired => exact requestApproval_errors env _ _ _ _

theorem authorizeOperation_sane (orderly : Orderly env p) (taskId : TaskId)
    (operationId : OperationId) (request : CapabilityRequest) :
    Sane (exec (authorizeOperation env taskId operationId request) p) := by
  unfold authorizeOperation
  rw [exec_bind_ok (exec_current p)]
  apply okOr_rule (P := Sane)
  · rintro _ stop ⟨⟩
    trivial
  intro record found
  apply ensure_rule (P := Sane)
  · rintro _ stop ⟨⟩
    trivial
  intro running
  apply okOr_rule (P := Sane)
  · rintro _ stop ⟨⟩
    trivial
  intro approved held
  rw [exec_bind_ok (exec_update _ _)]
  apply ensure_rule (P := Sane)
  · rintro _ stop ⟨⟩
    trivial
  intro _
  have erased : Orderly env ⟨p.world, { p.supervisor with
      approvedOperations := p.supervisor.approvedOperations.erase operationId }⟩ :=
    ⟨orderly.registry, orderly.records⟩
  have kept : record.state ≠ .rejected := by
    rw [of_decide_eq_true running]
    exact nofun
  apply evaluate_sane erased found kept
  intro decision
  exact (raises_ensure trivial).bind fun _ => (raises_modifyGet _).bind fun _ =>
    (approvalOr_errors _).bind fun _ => (appendBatch_errors env _ _).bind fun _ => raises_pure _

/-- A method with a pass, whose rest is sane where the pass leaves the process. -/
theorem pass_sane {α : Type} (orderly : Orderly env p) {body : SupervisorM S α}
    (rest : ∀ mid, Orderly env mid → Sane (exec body mid)) :
    Sane (exec (expireApprovals env >>= fun _ => body) p) := by
  apply bind_rule (P := Sane)
  · rintro stop after ran other ⟨⟩
    exact expireApprovals_errors env p stop (congrArg Prod.fst ran)
  · intro count mid ran
    exact rest mid (orderly.passed env p ran)

theorem requestOperation_sane (orderly : Orderly env p) (taskId : TaskId)
    (request : CapabilityRequest) (ttl : Duration) :
    Sane (exec (requestOperation env taskId request ttl) p) :=
  pass_sane orderly fun _ there => requestAfterPass_sane there taskId request ttl

theorem call_sane (orderly : Orderly env p) (call : Call) : Sane (call.run env p) := by
  -- a call panics when its method does
  have forgets : ∀ {α : Type} {method : SupervisorM S α}, Sane (exec method p) →
      Sane (exec (discard method) p) :=
    fun sane stop raised => sane stop (exec_discard_error.mp raised)
  cases call with
  | submit spec => exact (submit_errors env spec).discard p
  | start taskId => exact start_errors env taskId p
  | startExecution taskId => exact (startExecution_errors env taskId).discard p
  | requestOperation taskId request ttl =>
    exact forgets (requestOperation_sane orderly taskId request ttl)
  | approveOperation id =>
    exact forgets (pass_sane orderly fun mid _ => approveAfterPass_errors env id mid)
  | denyOperation id =>
    exact forgets (pass_sane orderly fun mid _ => denyAfterPass_errors env id mid)
  | authorizeOperation taskId operationId request =>
    exact forgets (authorizeOperation_sane orderly taskId operationId request)
  | expireApprovals => exact (expireApprovals_errors env).discard p
  | succeed taskId => exact transition_errors env taskId _ p
  | fail taskId => exact transition_errors env taskId _ p
  | failBudgetExceeded taskId => exact failBudgetExceeded_errors env taskId p
  | cancel taskId => exact (cancel_errors env taskId).discard p

end supervisor

section gate
variable {S A O Output Err : Type} [LawfulEventStore S] [GuardedOperation O]
  [ExecutionAdapter A O Output Err] {env : Env} {σ : System S A O}

omit [LawfulEventStore S] in
theorem Attached.executing (attached : Attached env σ.process σ.gate) (before : Process S)
    (taskId : TaskId) (operation : O) :
    Attached env (σ.executing env before taskId operation).process
      (σ.executing env before taskId operation).gate :=
  (attached.reads _).adapter _

theorem Attached.new (attached : Attached env σ.process σ.gate) {taskId : TaskId}
    {request : CapabilityRequest} {ttl : Duration} {approval : ApprovalRequest}
    (answered : (exec (requestOperation env taskId request ttl) σ.process).1 =
      .ok (.approvalRequired approval)) :
    σ.gate.pending[approval.operationId]? = none ∧
      σ.gate.approvalIndex[approval.approvalId]? = none := by
  obtain ⟨i, future, _, operationIs, approvalIs, _⟩ := requestOperation_asked attached.orderly
    (Prod.ext answered rfl)
  rw [operationIs, approvalIs]
  exact ⟨(attached.unused future).1, (attached.unused (Nat.le_succ_of_le future)).2⟩

theorem Attached.retain (attached : Attached env σ.process σ.gate)
    (fresh : Function.Injective env.uuid) {taskId : TaskId} {operation : O} {ttl : Duration}
    {approval : ApprovalRequest}
    (answered : (exec (requestOperation env taskId (GuardedOperation.capabilityRequest operation)
      ttl) σ.process).1 = .ok (.approvalRequired approval)) :
    Attached env (ExecutionGate.asking env σ taskId operation ttl).process
      (σ.gate.retain taskId approval operation) := by
  obtain ⟨i, future, used, operationIs, approvalIs, asked⟩ :=
    requestOperation_asked attached.orderly (Prod.ext answered rfl)
  obtain ⟨newOperation, newApproval⟩ := attached.new answered
  have called : Attached env (ExecutionGate.asking env σ taskId operation ttl).process σ.gate :=
    attached.method fresh (.requestOperation taskId _ ttl) rfl
  refine ⟨called.orderly, attached.inverse.insert ⟨taskId, approval.approvalId, operation⟩
    newOperation newApproval, ?_⟩
  apply called.bound.insert ⟨taskId, approval.approvalId, operation⟩ _ ?_ asked
  rw [operationIs, approvalIs]
  exact ⟨env.known_generated fresh (Nat.lt_of_succ_lt used), env.known_generated fresh used⟩

omit [LawfulEventStore S] [ExecutionAdapter A O Output Err] in
theorem Attached.remove (attached : Attached env σ.process σ.gate) {approvalId : ApprovalId}
    {operationId : OperationId}
    (indexed : σ.gate.approvalIndex[approvalId]? = some operationId) :
    Attached env σ.process (σ.gate.removePending approvalId operationId).2 := by
  obtain ⟨pending, present, rfl⟩ := (attached.inverse approvalId operationId).mp indexed
  refine ⟨attached.orderly, attached.inverse.erase present, attached.bound.among ?_⟩
  intro other kept left
  change (σ.gate.pending.erase operationId)[other]? = some kept at left
  rw [OrdMap.get_erase] at left
  split at left
  · cases left
  · exact left

theorem Attached.run (attached : Attached env σ.process σ.gate)
    (fresh : Function.Injective env.uuid) (act : Act O) :
    Attached env (σ.run env act).process (σ.run env act).gate := by
  cases act with
  | request taskId operation ttl =>
    have called : Attached env (ExecutionGate.asking env σ taskId operation ttl).process
        (ExecutionGate.asking env σ taskId operation ttl).gate :=
      attached.method fresh (.requestOperation taskId _ ttl) rfl
    simp only [System.run, ExecutionGate.exec_request]
    split
    · exact called
    · exact called.executing _ _ _
    · exact called
    · rename_i approval answered
      rw [if_pos (by rw [(attached.new answered).1]; rfl)]
      exact attached.retain fresh answered
  | approveAndExecute approvalId =>
    have called : Attached env (exec (approveOperation env approvalId) σ.process).2 σ.gate :=
      attached.method fresh (.approveOperation approvalId) rfl
    simp only [System.run, ExecutionGate.exec_approveAndExecute]
    split
    · exact attached
    · rename_i operationId indexed
      have taken : Attached env (ExecutionGate.approving env σ approvalId operationId).process
          (ExecutionGate.approving env σ approvalId operationId).gate :=
        Attached.remove (σ := { σ with
          process := (exec (approveOperation env approvalId) σ.process).2 }) called indexed
      split
      · exact attached
      · rename_i pending present
        have used : Attached env
            (ExecutionGate.consuming env σ approvalId operationId pending).process
            (ExecutionGate.consuming env σ approvalId operationId pending).gate :=
          taken.method fresh (.authorizeOperation pending.taskId operationId _) rfl
        split
        · exact called
        · split
          · exact used
          · exact used.executing _ _ _
  | deny approvalId =>
    have called : Attached env (exec (denyOperation env approvalId) σ.process).2 σ.gate :=
      attached.method fresh (.denyOperation approvalId) rfl
    simp only [System.run, ExecutionGate.exec_deny]
    split
    · exact attached
    · rename_i operationId indexed
      split
      · exact called
      · exact Attached.remove (σ := { σ with
          process := (exec (denyOperation env approvalId) σ.process).2 }) called indexed
  | expire =>
    have called : Attached env (exec (expireApprovals env) σ.process).2 σ.gate :=
      attached.method fresh .expireApprovals rfl
    simp only [System.run, ExecutionGate.exec_expire]
    split
    · exact called
    · exact called.shrink (ExecutionGate.shrinks_purgeTerminal called.inverse _)
  | cancel taskId =>
    have called : Attached env (exec (cancel env taskId) σ.process).2 σ.gate :=
      attached.method fresh (.cancel taskId) rfl
    simp only [System.run, ExecutionGate.exec_cancel]
    split
    · exact called
    · exact called.shrink (ExecutionGate.shrinks_removeTask called.inverse _)
  | direct call =>
    obtain ⟨process, gate, _, _⟩ := System.direct_same env σ call
    rw [System.run, process, gate]
    exact attached.call fresh call
  | elapse => exact attached.reads _

namespace System

/-- The runs of a gate in front of a supervisor that any constructor has made on any store.
Everything that happens before the gate exists, or through another gate, is a direct call. -/
inductive Runs (env : Env) : System S A O → Prop where
  | start {process : Process S} (constructed : Constructed env process) (adapter : A) :
      Runs env (start process adapter)
  | step {σ : System S A O} (runs : Runs env σ) (act : Act O) : Runs env (σ.run env act)

omit [LawfulEventStore S] [ExecutionAdapter A O Output Err] in
theorem attached_start {process : Process S} (orderly : Orderly env process) (adapter : A) :
    Attached env (start process adapter : System S A O).process
      (start process adapter : System S A O).gate := by
  refine ⟨orderly, ?_, ⟨?_, ?_⟩⟩
  · intro approvalId operationId
    constructor
    · intro indexed
      cases indexed
    · rintro ⟨pending, present, _⟩
      cases present
  · intro operationId pending present
    cases present
  · intro operationId pending retained present
    cases present

theorem Runs.attached (fresh : Function.Injective env.uuid) (runs : Runs env σ) :
    Attached env σ.process σ.gate := by
  induction runs with
  | start constructed adapter => exact attached_start constructed.registered.1 adapter
  | step _ act ih => exact ih.run fresh act

theorem Runs.runAll (runs : Runs env σ) (acts : List (Act O)) : Runs env (σ.runAll env acts) := by
  induction acts generalizing σ with
  | nil => exact runs
  | cons act rest ih => exact ih (runs.step act)

/-- How an act ends for its caller. -/
def answer (env : Env) (σ : System S A O) : Act O → Except (GateStop Err) Unit
  | .request taskId operation approvalTtl =>
    (exec (ExecutionGate.request env taskId operation approvalTtl) σ).1.map (fun _ => ())
  | .approveAndExecute approvalId =>
    (exec (ExecutionGate.approveAndExecute env approvalId) σ).1.map (fun _ => ())
  | .deny approvalId =>
    (exec (ExecutionGate.deny env approvalId : GateM S A O Err TaskSnapshot) σ).1.map
      (fun _ => ())
  | .expire => (exec (ExecutionGate.expire env : GateM S A O Err Nat) σ).1.map (fun _ => ())
  | .cancel taskId =>
    (exec (ExecutionGate.cancel env taskId : GateM S A O Err Bool) σ).1.map (fun _ => ())
  | .direct call => (call.run env σ.process).1.mapError .ofStop
  | .elapse => .ok ()

omit [LawfulEventStore S] [GuardedOperation O] [ExecutionAdapter A O Output Err] in
theorem ofStop_ne_panic {α : Type} {out : Except Stop α × Process S} (sane : Sane out)
    {stop : Stop} (stopped : out.1 = .error stop) (message : String) :
    (GateStop.ofStop stop : GateStop Err) ≠ .panic message := by
  have error := sane stop stopped
  cases stop with
  | err e => exact nofun
  | panic text => cases error

theorem answer_ne_panic (attached : Attached env σ.process σ.gate)
    (fresh : Function.Injective env.uuid) (act : Act O) (message : String) :
    σ.answer env act ≠ .error (.panic message) := by
  have orderly := attached.orderly
  intro panics
  cases act with
  | request taskId operation ttl =>
    simp only [answer, ExecutionGate.exec_request] at panics
    split at panics
    · rename_i stop stopped
      exact ofStop_ne_panic (requestOperation_sane orderly _ _ _) stopped message
        (Except.error.inj panics)
    · split at panics <;> cases panics
    · cases panics
    · rename_i approval answered
      rw [if_pos (by rw [(attached.new answered).1]; rfl)] at panics
      cases panics
  | approveAndExecute approvalId =>
    simp only [answer, ExecutionGate.exec_approveAndExecute] at panics
    split at panics
    · cases panics
    · split at panics
      · cases panics
      · split at panics
        · rename_i stop stopped
          exact ofStop_ne_panic (pass_sane orderly fun mid _ => approveAfterPass_errors env _ mid)
            stopped message (Except.error.inj panics)
        · have granted : Attached env (exec (approveOperation env approvalId) σ.process).2 σ.gate :=
            attached.method fresh (.approveOperation approvalId) rfl
          split at panics
          · rename_i stop stopped
            exact ofStop_ne_panic (authorizeOperation_sane granted.orderly _ _ _) stopped message
              (Except.error.inj panics)
          · split at panics <;> cases panics
  | deny approvalId =>
    simp only [answer, ExecutionGate.exec_deny] at panics
    split at panics
    · cases panics
    · split at panics
      · rename_i stop stopped
        exact ofStop_ne_panic (pass_sane orderly fun mid _ => denyAfterPass_errors env _ mid)
          stopped message (Except.error.inj panics)
      · cases panics
  | expire =>
    simp only [answer, ExecutionGate.exec_expire] at panics
    split at panics
    · rename_i stop stopped
      exact ofStop_ne_panic (expireApprovals_errors env σ.process) stopped message
        (Except.error.inj panics)
    · cases panics
  | cancel taskId =>
    simp only [answer, ExecutionGate.exec_cancel] at panics
    split at panics
    · rename_i stop stopped
      exact ofStop_ne_panic (cancel_errors env taskId σ.process) stopped message
        (Except.error.inj panics)
    · cases panics
  | direct call =>
    simp only [answer] at panics
    cases stopped : (call.run env σ.process).1 with
    | ok value =>
      rw [stopped] at panics
      cases panics
    | error stop =>
      rw [stopped] at panics
      exact ofStop_ne_panic (call_sane orderly call) stopped message (Except.error.inj panics)
  | elapse => cases panics

/-- Panic freedom. In every run of any supervisor and gate: the Tasks that can still run have
valid specifications, those that have started have a start instant, an identifier that the
gate inserts is new, and so no method panics. A running Task has an execution context. -/
theorem panic_free (fresh : Function.Injective env.uuid) (runs : Runs env σ) :
    (∀ (taskId : TaskId) (record : TaskRecord),
      σ.process.supervisor.tasks[taskId]? = some record →
      record.state = .queued ∨ record.state = .running ∨ record.state = .waitingApproval →
        record.spec.validate = .ok ()) ∧
    (∀ (taskId : TaskId) (record : TaskRecord),
      σ.process.supervisor.tasks[taskId]? = some record →
      record.state = .running ∨ record.state = .waitingApproval →
        record.startedAt.isSome = true) ∧
    (∀ (taskId : TaskId) (operation : O) (approvalTtl : Duration) (approval : ApprovalRequest),
      (exec (requestOperation env taskId (GuardedOperation.capabilityRequest operation)
        approvalTtl) σ.process).1 = .ok (.approvalRequired approval) →
        σ.gate.pending[approval.operationId]? = none) ∧
    (∀ (call : Call) (message : String),
      (call.run env σ.process).1 ≠ .error (.panic message)) ∧
    (∀ (act : Act O) (message : String), σ.answer env act ≠ .error (.panic message)) ∧
    (∀ [RecoverableEventStore S] (world : World) (store : S) (maxTasks : Nat) (message : String),
      (recover env world store maxTasks).1 ≠ .error (.panic message)) ∧
    ∀ taskId, σ.process.supervisor.taskState taskId = some .running →
      ∃ context, σ.process.supervisor.executionContext taskId = .ok context := by
  have attached := runs.attached fresh
  have records := attached.orderly.records
  refine ⟨?_, records.started, fun _ _ _ _ answered => (attached.new answered).1, ?_,
    answer_ne_panic attached fresh, ?_, ?_⟩
  · rintro taskId record found live
    apply records.valid taskId record found
    rintro rejected
    rw [rejected] at live
    rcases live with live | live | live <;> cases live
  · intro call message panics
    exact call_sane attached.orderly call (.panic message) panics
  · intro _ world store maxTasks message panics
    exact recover_errors env world store maxTasks (.panic message) panics
  · intro taskId running
    obtain ⟨record, found, state⟩ := record_of_open σ.process attached.orderly.recoveredTerminal
      running rfl
    obtain ⟨startedAt, started⟩ := Option.isSome_iff_exists.mp
      (records.started taskId record found (.inl state))
    refine ⟨⟨taskId, record.spec.budget, record.spec.capabilities.filesystem, startedAt⟩, ?_⟩
    simp [TaskSupervisor.executionContext, found, state, started]

end System

end gate

namespace Sample

set_option maxRecDepth 4000 in
/-- A waiting Task with a retained operation, and one whose submission was rejected. -/
theorem panic_free_waiting :
    let σ := system [.direct (.submit spec), .direct (.submit { spec with idempotencyKey := "" }),
      .direct (.start ⟨0⟩), .request ⟨0⟩ ⟨push⟩ (10 ^ 9)]
    σ.process.supervisor.taskState ⟨0⟩ = some .waitingApproval ∧
      σ.process.supervisor.taskState ⟨1⟩ = some .rejected ∧ σ.gate.pendingCount = 1 ∧
      spec.validate = .ok () ∧
      ∀ message, σ.answer env (.approveAndExecute ⟨3⟩) ≠ .error (.panic message) := by
  intro σ
  have runs : System.Runs env σ := System.Runs.runAll (.start (.new _ _) _) _
  obtain ⟨valid, _, _, _, calm, _, _⟩ := System.panic_free uuid_injective runs
  have found : σ.process.supervisor.tasks[(⟨0⟩ : TaskId)]? =
      some ⟨spec, .waitingApproval, some 0⟩ := by decide +kernel
  exact ⟨by decide +kernel, by decide +kernel, by decide +kernel,
    valid ⟨0⟩ _ found (.inr (.inr rfl)), calm _⟩

end Sample

end AiOs
