import AiOs.Runtime.Facade

/-! The context of an operation, in every run behind a facade. A waiting Task may be started
behind the gate's back, which gives it a new start instant; its retained operation then
carries an old one, but it can no longer be approved. So whatever is executed carries the
context that its Task has at that moment. -/
namespace AiOs

open Fallible

section
variable {S O : Type} [LawfulEventStore S] [ContextualOperation O] {env : Env}
  {p mid after : Process S}

/-- The operation carries the identifier, the Budget and the start instant that its Task has
now. -/
def OwnContext (p : Process S) (taskId : TaskId) (operation : O) : Prop :=
  ∃ record startedAt, p.supervisor.tasks[taskId]? = some record ∧
    record.startedAt = some startedAt ∧
    ContextualOperation.executionContext operation =
      some ⟨taskId, record.spec.budget, record.spec.capabilities.filesystem, startedAt⟩

/-- A retained operation that can still be approved carries the context of its Task. -/
def Fitting (p : Process S) (retained : PendingExecution O) : Prop :=
  ∀ request record, p.supervisor.pendingOperations[retained.approvalId]? = some request →
    p.supervisor.tasks[retained.taskId]? = some record → record.state = .waitingApproval →
      OwnContext p retained.taskId retained.operation

omit [LawfulEventStore S] in
theorem OwnContext.of_task {taskId : TaskId} {operation : O} (own : OwnContext p taskId operation)
    (same : after.supervisor.tasks[taskId]? = p.supervisor.tasks[taskId]?) :
    OwnContext after taskId operation := by
  obtain ⟨record, startedAt, found, started, context⟩ := own
  exact ⟨record, startedAt, same.trans found, started, context⟩

omit [LawfulEventStore S] in
theorem OwnContext.of_state {taskId : TaskId} {operation : O}
    (own : OwnContext p taskId operation) {record : TaskRecord} (state : TaskState)
    (found : p.supervisor.tasks[taskId]? = some record)
    (changed : after.supervisor.tasks[taskId]? = some { record with state := state }) :
    OwnContext after taskId operation := by
  obtain ⟨old, startedAt, there, started, context⟩ := own
  cases Option.some.inj (found.symm.trans there)
  exact ⟨_, startedAt, changed, started, context⟩

namespace Fitting
variable {retained : PendingExecution O}

omit [LawfulEventStore S] in
theorem of_same (fitting : Fitting p retained) (same : after.supervisor = p.supervisor) :
    Fitting after retained := by
  unfold Fitting OwnContext
  rw [same]
  exact fitting

omit [LawfulEventStore S] in
theorem retask (fitting : Fitting p retained) {taskId : TaskId} {record : TaskRecord}
    (among : ∀ request, after.supervisor.pendingOperations[retained.approvalId]? = some request →
      p.supervisor.pendingOperations[retained.approvalId]? = some request)
    (tasks : after.supervisor.tasks = p.supervisor.tasks.insert taskId record)
    (resting : record.state ≠ .waitingApproval) : Fitting after retained := by
  intro request found present there waits
  have same : after.supervisor.tasks[retained.taskId]? =
      p.supervisor.tasks[retained.taskId]? := by
    rw [tasks, OrdMap.get_insert] at there ⊢
    split at there
    · cases Option.some.inj there
      exact absurd waits resting
    · rename_i distinct
      rw [if_neg distinct]
  rw [same] at there
  exact (fitting request found (among request present) there waits).of_task same

theorem closes (fitting : Fitting p retained) {id : ApprovalId}
    {closing : PendingOperation → TaskEventKind} (closes : Closes p id closing after) :
    Fitting after retained := by
  have erased := closes.pending_erased
  obtain ⟨store, pending, record, waiting, found, failable, appended⟩ := closes
  refine fitting.retask ?_ rfl (by simp)
  intro request present
  rw [erased, OrdMap.get_erase] at present
  split at present
  · cases present
  · exact present

theorem closesAll (fitting : Fitting p retained) {closed : List ApprovalId}
    (closes : ClosesAll p closed after) : Fitting after retained := by
  induction closes with
  | nil => exact fitting
  | cons first _ ih => exact ih (fitting.closes first)

/-- The request that the supervisor keeps for a retained operation is one of its Task, and its
identifier is not generated again. -/
structure Tied (env : Env) (p : Process S) (retained : PendingExecution O) : Prop where
  known : env.Known p.world.ids retained.approvalId.uuid
  owner : ∀ request, p.supervisor.pendingOperations[retained.approvalId]? = some request →
    request.taskId = retained.taskId

theorem effect (fitting : Fitting p retained) (tied : Tied env p retained) {call : Call}
    (effect : Effect env p call after) : Fitting after retained := by
  have kept : ∀ request, after.supervisor.pendingOperations[retained.approvalId]? = some request →
      p.supervisor.pendingOperations[retained.approvalId]? = some request := by
    intro request present
    rcases effect.pending_origin _ request present with old | new
    · exact old
    · exact absurd (congrArg Id.uuid new).symm (tied.known _ (Nat.le_succ _))
  cases effect with
  | idle quiet => exact fitting.of_same quiet.same
  | admits admits =>
    cases admits
    refine fitting.retask kept rfl ?_
    unfold submissionEvents
    split <;> simp
  | launches _ launches =>
    cases launches
    exact fitting.retask kept rfl (by simp)
  | allows notes | refuses notes =>
    cases notes
    exact fitting
  | asks asks =>
    obtain ⟨store, record, found, running, valid, decided, single, unindexed, room, appended⟩ := asks
    intro request waiting present there waits
    have old := kept request present
    have distinct := single _ request old
    rw [tied.owner request old] at distinct
    have same : ∀ (new : TaskRecord) (taskId : TaskId), retained.taskId ≠ taskId →
        (p.supervisor.tasks.insert taskId new)[retained.taskId]? =
          p.supervisor.tasks[retained.taskId]? := by
      intro new taskId other
      rw [OrdMap.get_insert, if_neg (Ne.symm other)]
    rw [same _ _ distinct] at there
    exact (fitting request waiting old there waits).of_task (same _ _ distinct)
  | grants grants =>
    cases grants
    exact fitting.retask kept rfl (by simp)
  | denies denies => exact fitting.closes denies
  | forgets forgets =>
    unfold Fitting OwnContext
    rw [forgets.same]
    exact fitting
  | consumes consumes =>
    cases consumes
    exact fitting
  | finishes _ finishes =>
    obtain ⟨store, record, found, allowed, terminal, appended⟩ := finishes
    refine fitting.retask kept rfl ?_
    rintro waits
    dsimp only at waits
    rw [waits] at terminal
    cases terminal

theorem call (fitting : Fitting p retained) (tied : Tied env p retained) (orderly : Orderly env p)
    (call : Call) : Fitting (call.run env p).2 retained := by
  apply orderly_rule (I := fun q => Fitting q retained ∧ Tied env q retained)
    (J := fun q => Fitting q retained) orderly call
  · rintro a b ⟨fitting, tied⟩ quiet
    refine ⟨fitting.of_same quiet.same, tied.known.mono quiet.moved.ids, ?_⟩
    rw [quiet.same]
    exact tied.owner
  · rintro a b id _ _ ⟨fitting, tied⟩ closes
    refine ⟨fitting.closes closes, ?_, ?_⟩
    · cases closes
      exact tied.known
    · intro request present
      rw [closes.pending_erased, OrdMap.get_erase] at present
      split at present
      · cases present
      · exact tied.owner request present
  · rintro a b _ ⟨fitting, tied⟩ effect
    exact fitting.effect tied effect
  · exact ⟨fitting, tied⟩

end Fitting

theorem ClosesAll.task_kept {closed : List ApprovalId} (closes : ClosesAll p closed mid)
    {taskId : TaskId} {record : TaskRecord} (found : mid.supervisor.tasks[taskId]? = some record)
    (open_ : record.state ≠ .failed) : p.supervisor.tasks[taskId]? = some record := by
  induction closes with
  | nil => exact found
  | cons first _ ih =>
    have there := ih found
    obtain ⟨store, pending, old, waiting, present, failable, appended⟩ := first
    rw [OrdMap.get_insert] at there
    split at there
    · cases Option.some.inj there
      exact absurd rfl open_
    · exact there

omit [LawfulEventStore S] in
theorem OwnContext.answered {taskId : TaskId} {context : TaskExecutionContext}
    (answered : p.supervisor.executionContext taskId = .ok context) (operation : O) :
    OwnContext p taskId (ContextualOperation.attach context operation) := by
  unfold TaskSupervisor.executionContext at answered
  split at answered
  · cases answered
  rename_i record found
  split at answered
  · cases answered
  split at answered
  · cases answered
  rename_i startedAt started
  cases answered
  exact ⟨record, startedAt, found, started, ContextualOperation.executionContext_attach _ _⟩

/-- The context that a facade asks for is still the Task's own when its request is answered. -/
theorem requestOperation_context (orderly : Orderly env p) {taskId : TaskId} {operation : O}
    (own : OwnContext p taskId operation) {request : CapabilityRequest} {ttl : Duration}
    {result : OperationAuthorization}
    (ran : exec (requestOperation env taskId request ttl) p = (.ok result, after)) :
    OwnContext after taskId operation := by
  obtain ⟨mid, closed, ⟨_, closes⟩, _, decides⟩ := requestOperation_ok orderly ran
  have kept : ∀ record, mid.supervisor.tasks[taskId]? = some record → record.state = .running →
      OwnContext mid taskId operation := by
    intro record found running
    have before : p.supervisor.tasks[taskId]? = some record :=
      closes.task_kept found (by rw [running]; exact nofun)
    exact own.of_task (found.trans before.symm)
  cases decides with
  | allowed noted =>
    obtain ⟨store, record, found, running, _⟩ := noted
    exact (kept record found running).of_task rfl
  | denied noted =>
    obtain ⟨store, record, found, running, _⟩ := noted
    exact (kept record found running).of_task rfl
  | asked _ asks =>
    obtain ⟨store, record, found, running, _⟩ := asks
    exact (kept record found running).of_state .waitingApproval found
      ((OrdMap.get_insert _ _ _ _).trans (if_pos rfl))

theorem approveOperation_context (orderly : Orderly env p) {retained : PendingExecution O}
    (fitting : Fitting p retained) (tied : Fitting.Tied env p retained) {snapshot : TaskSnapshot}
    (ran : exec (approveOperation env retained.approvalId) p = (.ok snapshot, after)) :
    OwnContext after retained.taskId retained.operation := by
  obtain ⟨mid, closed, ⟨_, closes⟩, ready, untouched, grants⟩ := approveOperation_ok orderly ran
  obtain ⟨store, pending, record, entry, waiting, found, resumable, _⟩ := grants
  have owner : pending.taskId = retained.taskId :=
    tied.owner pending (untouched.pending.symm.trans waiting)
  have waits : record.state = .waitingApproval := by
    obtain ⟨held, there, live⟩ := ready.registry.live _ pending waiting
    cases Option.some.inj (found.symm.trans there)
    rcases live with running | waits
    · rw [running] at resumable
      cases resumable
    · exact waits
  rw [owner] at found
  have ticked : Fitting p.ticked retained := fitting
  have own := ticked.closesAll closes pending record waiting found waits
  refine own.of_state .running found ?_
  change (mid.supervisor.tasks.insert pending.taskId _)[retained.taskId]? = _
  rw [OrdMap.get_insert, if_pos owner]

end

section system
variable {S A O Output Err : Type} [LawfulEventStore S] [ContextualOperation O]
  [ExecutionAdapter A O Output Err] {env : Env} {σ : System S A O}

/-- What is retained fits and what was executed carried its Task's context. -/
structure Placed (σ : System S A O) : Prop where
  retained : ∀ (operationId : OperationId) (retained : PendingExecution O),
    σ.gate.pending[operationId]? = some retained → Fitting σ.process retained
  executed : ∀ x ∈ σ.executed, OwnContext x.moment x.taskId x.operation

omit [LawfulEventStore S] [ExecutionAdapter A O Output Err] in
theorem Bound.tied {p : Process S} {gate : ExecutionGate A O} (bound : Bound env p gate)
    {operationId : OperationId} {retained : PendingExecution O}
    (present : gate.pending[operationId]? = some retained) : Fitting.Tied env p retained where
  known := (bound.known operationId retained present).2
  owner := by
    intro request waiting
    rw [bound.binds operationId retained request present waiting]

namespace Placed

theorem supervised (placed : Placed σ) {held : List (TaskId × O)} (guarded : Guarded env σ held)
    {α : Type} (call : Call) {method : SupervisorM S α}
    (performs : (call.perform env : SupervisorM S Unit) = discard method)
    {answer : Except Stop α} {after : Process S}
    (ran : exec method σ.process = (answer, after)) : Placed { σ with process := after } := by
  refine ⟨?_, placed.executed⟩
  intro operationId retained present
  rw [← run_of_exec call performs ran]
  exact (placed.retained operationId retained present).call (guarded.bound.tied present)
    guarded.coherent.orderly call

omit [LawfulEventStore S] [ExecutionAdapter A O Output Err] in
theorem among (placed : Placed σ) {gate : ExecutionGate A O}
    (among : ∀ (operationId : OperationId) (retained : PendingExecution O),
      gate.pending[operationId]? = some retained → σ.gate.pending[operationId]? = some retained) :
    Placed { σ with gate := gate } :=
  ⟨fun operationId retained present => placed.retained operationId retained (among _ _ present),
    placed.executed⟩

omit [LawfulEventStore S] [ExecutionAdapter A O Output Err] in
theorem removed (placed : Placed σ) (approvalId : ApprovalId) (operationId : OperationId) :
    Placed { σ with gate := (σ.gate.removePending approvalId operationId).2 } := by
  apply placed.among
  intro other retained present
  change (σ.gate.pending.erase operationId)[other]? = some retained at present
  rw [OrdMap.get_erase] at present
  split at present
  · cases present
  · exact present

omit [LawfulEventStore S] in
theorem executes (placed : Placed σ) (before : Process S) {taskId : TaskId} {operation : O}
    (own : OwnContext σ.process taskId operation) :
    Placed (σ.executing env before taskId operation) := by
  refine ⟨placed.retained, ?_⟩
  intro x member
  rcases List.mem_append.mp member with old | new
  · exact placed.executed x old
  · rw [List.mem_singleton.mp new]
    exact own

theorem request (placed : Placed σ) (guarded : Guarded env σ []) {taskId : TaskId} {operation : O}
    (own : OwnContext σ.process taskId operation) (ttl : Duration) :
    Placed (exec (ExecutionGate.request env taskId operation ttl :
      GateM S A O Err (ExecutionOutcome Output)) σ).2 := by
  have handed := guarded.handOver taskId operation
  have same : Placed { σ with requested := σ.requested ++ [(taskId, operation)] } :=
    ⟨placed.retained, placed.executed⟩
  unfold ExecutionGate.request
  rw [exec_bind_ok (exec_currentSystem σ), exec_bind_ok (exec_handOver taskId operation σ)]
  apply supervised_rule (P := fun out => Placed out.2)
  · intro stop after out ran
    exact same.supervised handed (.requestOperation _ _ _) rfl ran
  intro result after ran
  have called := same.supervised handed (.requestOperation _ _ _) rfl ran
  have still : OwnContext after taskId operation :=
    requestOperation_context guarded.coherent.orderly own ran
  cases result with
  | allowed =>
    apply callAdapter_rule (P := fun out => Placed out.2)
    · exact fun _ => called.executes _ still
    · exact fun _ => called.executes _ still
  | denied reason => exact called
  | approvalRequired approval =>
    have kept : ∀ index, Placed ({ σ with
        process := after, requested := σ.requested ++ [(taskId, operation)]
        gate := { σ.gate with
          pending := σ.gate.pending.insert approval.operationId
            ⟨taskId, approval.approvalId, operation⟩
          approvalIndex := index } } : System S A O) := by
      intro index
      refine ⟨?_, placed.executed⟩
      intro operationId retained present
      change (σ.gate.pending.insert _ _)[operationId]? = some retained at present
      rw [OrdMap.get_insert] at present
      split at present
      · cases Option.some.inj present
        exact fun _ _ _ _ _ => still
      · exact called.retained operationId retained present
    apply modifyGet_rule (P := fun out => Placed out.2)
    apply modifyGet_rule (P := fun out => Placed out.2)
    apply ensure_rule (P := fun out => Placed out.2)
    · exact fun _ => kept _
    · exact fun _ => kept _

theorem approveAndExecute (placed : Placed σ) (guarded : Guarded env σ [])
    (fresh : Function.Injective env.uuid) (approvalId : ApprovalId) :
    Placed (exec (ExecutionGate.approveAndExecute env approvalId :
      GateM S A O Err (Executed Output)) σ).2 := by
  unfold ExecutionGate.approveAndExecute
  rw [exec_bind_ok (exec_currentSystem σ)]
  apply okOr_rule (P := fun out => Placed out.2)
  · exact fun _ => placed
  intro operationId indexed
  apply ensure_rule (P := fun out => Placed out.2)
  · exact fun _ => placed
  intro _
  apply supervised_rule (P := fun out => Placed out.2)
  · intro stop after out ran
    exact placed.supervised guarded (.approveOperation _) rfl ran
  intro snapshot granted ran
  obtain ⟨retained, present, rfl⟩ := (guarded.inverse approvalId operationId).mp indexed
  have approved := placed.supervised guarded (.approveOperation _) rfl ran
  have own := approveOperation_context guarded.coherent.orderly
    (placed.retained operationId retained present) (guarded.bound.tied present) ran
  have taken := approved.removed retained.approvalId operationId
  have left := (guarded.supervised fresh (.approveOperation _) rfl nofun ran).take indexed present
  apply modifyGet_rule (P := fun out => Placed out.2)
  apply okOr_rule (P := fun out => Placed out.2)
  · exact fun _ => taken
  intro removed found
  cases Option.some.inj (present.symm.trans found)
  apply supervised_rule (P := fun out => Placed out.2)
  · intro stop after out ran
    exact taken.supervised left (.authorizeOperation _ _ _) rfl ran
  intro receipt after ran
  have used := taken.supervised left (.authorizeOperation _ _ _) rfl ran
  have still : OwnContext after retained.taskId retained.operation := by
    have consumes := authorizeOperation_cases env granted retained.taskId operationId
      (GuardedOperation.capabilityRequest retained.operation)
    rw [ran] at consumes
    cases consumes
    exact own.of_task rfl
  apply callAdapter_rule (P := fun out => Placed out.2)
  · exact fun _ => used.executes _ still
  · exact fun _ => used.executes _ still

theorem run (placed : Placed σ) (guarded : Guarded env σ []) (fresh : Function.Injective env.uuid)
    {act : Act O}
    (own : ∀ taskId operation ttl, act = .request taskId operation ttl →
      OwnContext σ.process taskId operation) : Placed (σ.run env act) := by
  cases act with
  | request taskId operation ttl => exact placed.request guarded (own _ _ _ rfl) ttl
  | approveAndExecute approvalId => exact placed.approveAndExecute guarded fresh approvalId
  | deny approvalId =>
    change Placed (exec (ExecutionGate.deny env approvalId : GateM S A O Err TaskSnapshot) σ).2
    unfold ExecutionGate.deny
    rw [exec_bind_ok (exec_currentSystem σ)]
    apply okOr_rule (P := fun out => Placed out.2)
    · exact fun _ => placed
    intro operationId indexed
    apply supervised_rule (P := fun out => Placed out.2)
    · intro stop after out ran
      exact placed.supervised guarded (.denyOperation _) rfl ran
    intro snapshot after ran
    exact (placed.supervised guarded (.denyOperation _) rfl ran).removed approvalId operationId
  | expire =>
    change Placed (exec (ExecutionGate.expire env : GateM S A O Err Nat) σ).2
    unfold ExecutionGate.expire
    apply supervised_rule (P := fun out => Placed out.2)
    · intro stop after out ran
      exact placed.supervised guarded .expireApprovals rfl ran
    intro count after ran
    exact (placed.supervised guarded .expireApprovals rfl ran).among
      (ExecutionGate.shrinks_purgeTerminal guarded.inverse _).among
  | cancel taskId =>
    change Placed (exec (ExecutionGate.cancel env taskId : GateM S A O Err Bool) σ).2
    unfold ExecutionGate.cancel
    apply supervised_rule (P := fun out => Placed out.2)
    · intro stop after out ran
      exact placed.supervised guarded (.cancel taskId) rfl ran
    intro changed after ran
    exact (placed.supervised guarded (.cancel taskId) rfl ran).among
      (ExecutionGate.shrinks_removeTask guarded.inverse taskId).among
  | direct call =>
    obtain ⟨process, gate, _, executed⟩ := System.direct_same env σ call
    refine ⟨?_, ?_⟩
    · change ∀ operationId retained, (σ.direct env call).gate.pending[operationId]? = _ → _
      rw [gate]
      intro operationId retained present
      change Fitting (σ.direct env call).process retained
      rw [process]
      exact (placed.retained operationId retained present).call (guarded.bound.tied present)
        guarded.coherent.orderly call
    · change ∀ x ∈ (σ.direct env call).executed, _
      rw [executed]
      exact placed.executed
  | elapse => exact ⟨placed.retained, placed.executed⟩

end Placed

namespace System

/-- The runs of a gate behind its facade, with the acts that `permitted` allows and any calls
of the supervisor in between. -/
inductive Fronted (env : Env) (origin : A) (permitted : Act O → Prop) : System S A O → Prop where
  | start {process : Process S} (reached : Daemon.Reached env Daemon.Anything (.up process))
      (empty : process.supervisor.tasks = ∅) :
      Fronted env origin permitted (start process origin)
  | step {σ : System S A O} (fronted : Fronted env origin permitted σ) (act : Act O)
      (allowed : permitted act) : Fronted env origin permitted (σ.serve env act)

variable {origin : A} {permitted : Act O → Prop}

theorem Fronted.reached (fronted : Fronted env origin permitted σ) : Reached env σ := by
  induction fronted with
  | start reached empty => exact .start reached empty origin
  | @step σ _ act _ ih =>
    rcases serve_cases env σ act with same | ⟨_, _, _, _, _, _, same⟩ | ⟨_, same⟩
    · rw [same]
      exact ih
    · rw [same]
      exact ih.step _
    · rw [same]
      exact ih.step _

theorem Fronted.serveAll (fronted : Fronted env origin permitted σ) {acts : List (Act O)}
    (all : ∀ act ∈ acts, permitted act) : Fronted env origin permitted (σ.serveAll env acts) := by
  induction acts generalizing σ with
  | nil => exact fronted
  | cons act rest ih =>
    exact ih (fronted.step act (all act List.mem_cons_self))
      (fun other member => all other (List.mem_cons_of_mem _ member))

theorem Fronted.placed (fresh : Function.Injective env.uuid)
    (fronted : Fronted env origin permitted σ) : Placed σ := by
  induction fronted with
  | start reached empty => exact ⟨nofun, nofun⟩
  | @step σ fronted act allowed ih =>
    have guarded := fronted.reached.guarded fresh
    rcases serve_cases env σ act with same | ⟨taskId, operation, ttl, context, _, answered, same⟩ |
      ⟨other, same⟩
    · rw [same]
      exact ih
    · rw [same]
      apply ih.run guarded fresh
      intro owner requested lifetime asked
      cases asked
      exact .answered answered operation
    · rw [same]
      exact ih.run guarded fresh (fun taskId operation ttl asked =>
        absurd asked (other taskId operation ttl))

/-- One act of the gate or beside it: the adapter is what its calls made of it, and only a
request hands something over. -/
theorem run_replayed (act : Act O) (replayed : σ.gate.adapter = replay env origin σ.executed) :
    (σ.run env act).gate.adapter = replay env origin (σ.run env act).executed ∧
      (σ.run env act).requested = (σ.entered act).requested := by
  cases act with
  | direct call =>
    obtain ⟨_, gate, requested, executed⟩ := direct_same env σ call
    refine ⟨?_, requested⟩
    change (σ.direct env call).gate.adapter = replay env origin (σ.direct env call).executed
    rw [gate, executed]
    exact replayed
  | elapse => exact ⟨replayed, rfl⟩
  | request taskId operation ttl =>
    exact ⟨(stable_replay env origin).run rfl replayed,
      ((stable_histories env _ _ _).run rfl ⟨rfl, rfl, rfl⟩).1⟩
  | _ =>
    exact ⟨(stable_replay env origin).run rfl replayed,
      ((stable_histories env _ _ _).run rfl ⟨rfl, rfl, rfl⟩).1⟩

theorem Fronted.replayed (fronted : Fronted env origin permitted σ) :
    σ.gate.adapter = replay env origin σ.executed := by
  induction fronted with
  | start reached empty => rfl
  | @step σ _ act _ ih =>
    rcases serve_cases env σ act with same | ⟨_, _, _, _, _, _, same⟩ | ⟨_, same⟩
    · rw [same]
      exact ih
    · rw [same]
      exact (run_replayed _ ih).1
    · rw [same]
      exact (run_replayed _ ih).1

theorem Fronted.requested (fronted : Fronted env origin permitted σ) :
    ∀ e ∈ σ.requested, ∃ operation ttl context, permitted (.request e.1 operation ttl) ∧
      e.2 = ContextualOperation.attach context operation := by
  induction fronted with
  | start reached empty => nofun
  | @step σ fronted act allowed ih =>
    rcases serve_cases env σ act with same | ⟨taskId, operation, ttl, context, rfl, _, same⟩ |
      ⟨other, same⟩
    · rw [same]
      exact ih
    · rw [same, (run_replayed _ fronted.replayed).2]
      intro e member
      rcases List.mem_append.mp member with old | new
      · exact ih e old
      · cases List.mem_singleton.mp new
        exact ⟨operation, ttl, context, allowed, rfl⟩
    · rw [same, (run_replayed _ fronted.replayed).2]
      cases act with
      | request taskId operation ttl => exact absurd rfl (other taskId operation ttl)
      | _ => exact ih

end System

end system

end AiOs
