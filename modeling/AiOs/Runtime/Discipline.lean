import AiOs.Runtime.Daemon

/-! Runs that start Tasks as documented, from the queue. There a request is only retained
while its Task waits, so every batch is legal where it is appended, and every log replays to
the state that the supervisor reports. -/
namespace AiOs

open Account

variable {S : Type}

theorem taskState_own {t : TaskSupervisor S} {tasks : OrdMap TaskId TaskRecord} {taskId : TaskId}
    {record : TaskRecord} (changed : t.tasks = tasks.insert taskId record) :
    t.taskState taskId = some record.state := by
  apply TaskSupervisor.taskState_of_record
  rw [changed, OrdMap.get_insert, if_pos rfl]

theorem taskState_other (s : TaskSupervisor S) {t : TaskSupervisor S} {taskId : TaskId}
    {record : TaskRecord} (changed : t.tasks = s.tasks.insert taskId record)
    (recovered : t.recoveredTasks = s.recoveredTasks) {other : TaskId} (distinct : other ≠ taskId) :
    t.taskState other = s.taskState other := by
  unfold TaskSupervisor.taskState
  rw [changed, recovered, OrdMap.get_insert, if_neg (Ne.symm distinct)]

/-- "Move a queued Task to running": no start of a Task that waits for an approval. -/
def Documented (p : Process S) : Call → Prop
  | .start taskId | .startExecution taskId =>
    p.supervisor.taskState taskId ≠ some .waitingApproval
  | _ => True

instance (p : Process S) (call : Call) : Decidable (Documented p call) :=
  match call with
  | .start _ | .startExecution _ => inferInstanceAs (Decidable (_ ≠ _))
  | .submit _ | .requestOperation .. | .approveOperation _ | .denyOperation _
  | .authorizeOperation .. | .expireApprovals | .succeed _ | .fail _ | .failBudgetExceeded _
  | .cancel _ => isTrue trivial

theorem documented_quiet {p after : Process S} {call : Call} (documented : Documented p call) (quiet : Quiet p after) :
    Documented after call := by
  obtain ⟨same, _⟩ := quiet
  cases call <;> first | trivial | (simpa only [Documented, same] using documented)

variable [LawfulEventStore S]

/-- The Tasks with a retained request are waiting. -/
def Waits (pendingOperations : OrdMap ApprovalId PendingOperation)
    (tasks : OrdMap TaskId TaskRecord) : Prop :=
  ∀ (id : ApprovalId) (pending : PendingOperation), pendingOperations[id]? = some pending →
    ∃ record, tasks[pending.taskId]? = some record ∧ record.state = .waitingApproval

/-- Every known Task's log replays to its state. -/
def Mirrored (states : TaskId → Option TaskState) (kinds : TaskId → List TaskEventKind) : Prop :=
  ∀ taskId state, states taskId = some state → Replays (kinds taskId) state

structure Faithful (p : Process S) : Prop where
  waits : Waits p.supervisor.pendingOperations p.supervisor.tasks
  mirrored : Mirrored p.supervisor.taskState p.kinds

theorem Waits.update {before after : OrdMap ApprovalId PendingOperation}
    {tasks : OrdMap TaskId TaskRecord} (waits : Waits before tasks) {taskId : TaskId}
    {record : TaskRecord}
    (kept : ∀ (id : ApprovalId) (pending : PendingOperation), after[id]? = some pending →
      (before[id]? = some pending ∧ pending.taskId ≠ taskId) ∨
        (pending.taskId = taskId ∧ record.state = .waitingApproval)) :
    Waits after (tasks.insert taskId record) := by
  intro id pending present
  rw [OrdMap.get_insert]
  rcases kept id pending present with ⟨old, distinct⟩ | ⟨owner, state⟩
  · rw [if_neg (Ne.symm distinct)]
    exact waits id pending old
  · rw [if_pos owner.symm]
    exact ⟨record, rfl, state⟩

theorem Mirrored.move {states after : TaskId → Option TaskState}
    {kinds grownKinds : TaskId → List TaskEventKind} (mirrored : Mirrored states kinds)
    {taskId : TaskId} {batch : List TaskEventKind} (grown : Grown kinds grownKinds taskId batch)
    {next : TaskState} (own : after taskId = some next)
    (others : ∀ other, other ≠ taskId → after other = states other)
    (replays : Replays (kinds taskId ++ batch) next) : Mirrored after grownKinds := by
  intro other found reported
  by_cases same : other = taskId
  · subst same
    cases Option.some.inj (own.symm.trans reported)
    rw [grown.own]
    exact replays
  · rw [others other same] at reported
    rw [grown.others other same]
    exact mirrored other found reported

/-- A change of one record with the batch that records it. -/
theorem Mirrored.change {p after : Process S}
    (mirrored : Mirrored p.supervisor.taskState p.kinds) {taskId : TaskId} {changed : TaskRecord}
    (tasks : after.supervisor.tasks = p.supervisor.tasks.insert taskId changed)
    (recovered : after.supervisor.recoveredTasks = p.supervisor.recoveredTasks)
    {batch : List TaskEventKind} (grown : Grown p.kinds after.kinds taskId batch)
    (replays : Replays (p.kinds taskId ++ batch) changed.state) :
    Mirrored after.supervisor.taskState after.kinds :=
  mirrored.move grown (taskState_own tasks)
    (fun _ => taskState_other p.supervisor tasks recovered) replays

theorem Mirrored.transition {p after : Process S}
    (mirrored : Mirrored p.supervisor.taskState p.kinds) {taskId : TaskId} {record : TaskRecord}
    (found : p.supervisor.tasks[taskId]? = some record) {changed : TaskRecord}
    (tasks : after.supervisor.tasks = p.supervisor.tasks.insert taskId changed)
    (recovered : after.supervisor.recoveredTasks = p.supervisor.recoveredTasks)
    {batch : List TaskEventKind} (grown : Grown p.kinds after.kinds taskId batch)
    (legal : Continues record.state batch changed.state) :
    Mirrored after.supervisor.taskState after.kinds := by
  have replays := mirrored taskId record.state (TaskSupervisor.taskState_of_record found)
  exact mirrored.change tasks recovered grown (replays.append legal)

theorem Mirrored.note {states : TaskId → Option TaskState}
    {kinds grownKinds : TaskId → List TaskEventKind} (mirrored : Mirrored states kinds)
    {taskId : TaskId} {batch : List TaskEventKind} (grown : Grown kinds grownKinds taskId batch)
    {state : TaskState} (known : states taskId = some state)
    (legal : Continues state batch state) : Mirrored states grownKinds :=
  mirrored.move grown known (fun _ _ => rfl) ((mirrored taskId state known).append legal)

theorem transition_continues {state next : TaskState}
    (allowed : state.canTransitionTo next = true) :
    Continues state [.stateTransitioned state next] next := by
  simp [Continues, replayKind, allowed]

variable {env : Env} {p after : Process S}

namespace Faithful

theorem quiet (faithful : Faithful p) (quiet : Quiet p after) : Faithful after := by
  obtain ⟨same, _⟩ := quiet
  obtain ⟨world, supervisor⟩ := after
  cases same
  exact ⟨faithful.waits, faithful.mirrored⟩

theorem admits (coherent : Coherent env p) (faithful : Faithful p) {spec : TaskSpec}
    (admits : Admits env p spec after) : Faithful after := by
  obtain ⟨store, unused, room, appended⟩ := admits
  obtain ⟨noTask, noRecovered⟩ := coherent.unused_task
  have fresh : p.kinds ⟨env.uuid p.world.ids⟩ = [] := by
    rw [Process.kinds, coherent.unused_log]
    rfl
  constructor
  · apply faithful.waits.update
    intro id pending present
    refine .inl ⟨present, ?_⟩
    intro owner
    obtain ⟨record, found, _⟩ := faithful.waits id pending present
    rw [owner, noTask] at found
    cases found
  · refine faithful.mirrored.change rfl rfl appended.grown ?_
    rw [fresh]
    cases spec.validate with
    | ok _ => rfl
    | error errors => rfl

theorem launches (faithful : Faithful p) {taskId : TaskId}
    (documented : p.supervisor.taskState taskId ≠ some .waitingApproval)
    (launches : Launches env p taskId after) : Faithful after := by
  obtain ⟨store, record, found, startable, appended⟩ := launches
  have notWaiting : record.state ≠ .waitingApproval := by
    intro waiting
    exact documented (waiting ▸ TaskSupervisor.taskState_of_record found)
  constructor
  · apply faithful.waits.update
    intro id pending present
    refine .inl ⟨present, ?_⟩
    intro owner
    obtain ⟨other, there, waiting⟩ := faithful.waits id pending present
    rw [owner] at there
    cases Option.some.inj (found.symm.trans there)
    exact notWaiting waiting
  · exact faithful.mirrored.transition found rfl rfl appended.grown
      (transition_continues startable)

theorem notes (faithful : Faithful p) {taskId : TaskId} {request : CapabilityRequest}
    {decision : PolicyDecision} {kind : TaskEventKind}
    (notes : Notes p taskId request decision kind after)
    (legal : Continues .running [kind] .running) : Faithful after := by
  obtain ⟨store, record, found, running, _, _, appended⟩ := notes
  have known := TaskSupervisor.taskState_of_record found
  rw [running] at known
  exact ⟨faithful.waits, faithful.mirrored.note appended.grown known legal⟩

theorem asks (faithful : Faithful p) {taskId : TaskId} {request : CapabilityRequest}
    {ttl : Duration} (asks : Asks env p taskId request ttl after) : Faithful after := by
  obtain ⟨store, record, found, running, _, _, single, _, _, appended⟩ := asks
  constructor
  · apply faithful.waits.update
    intro id pending present
    rw [OrdMap.get_insert] at present
    split at present
    · cases Option.some.inj present
      exact .inr ⟨rfl, rfl⟩
    · exact .inl ⟨present, single id pending present⟩
  · refine faithful.mirrored.transition found rfl rfl appended.grown ?_
    rw [running]
    rfl

theorem grants (coherent : Coherent env p) (faithful : Faithful p) {id : ApprovalId}
    (grants : Grants env p id after) : Faithful after := by
  obtain ⟨store, pending, record, entry, waiting, found, _, _, _, appended⟩ := grants
  obtain ⟨holder, there, state⟩ := faithful.waits id pending waiting
  cases Option.some.inj (found.symm.trans there)
  constructor
  · apply faithful.waits.update
    intro other held kept
    rw [OrdMap.get_erase] at kept
    split at kept
    · cases kept
    · rename_i distinct
      exact .inl ⟨kept, fun owner =>
        distinct (coherent.registry.single id other pending held waiting kept owner.symm)⟩
  · refine faithful.mirrored.transition found rfl rfl appended.grown ?_
    rw [state]
    rfl

theorem closes (coherent : Coherent env p) (faithful : Faithful p) {id : ApprovalId}
    {closing : PendingOperation → TaskEventKind} (closes : Closes p id closing after)
    (legal : ∀ pending, Continues .waitingApproval
      [closing pending, .stateTransitioned .waitingApproval .failed] .failed) :
    Faithful after := by
  obtain ⟨store, pending, record, waiting, found, _, appended⟩ := closes
  obtain ⟨holder, there, state⟩ := faithful.waits id pending waiting
  cases Option.some.inj (found.symm.trans there)
  constructor
  · apply faithful.waits.update
    intro other held kept
    rw [OrdMap.get_erase] at kept
    split at kept
    · cases kept
    · rename_i distinct
      exact .inl ⟨kept, fun owner =>
        distinct (coherent.registry.single id other pending held waiting kept owner.symm)⟩
  · refine faithful.mirrored.transition found rfl rfl appended.grown ?_
    rw [state]
    exact legal pending

theorem forgets (faithful : Faithful p) {operationId : OperationId}
    (forgets : Forgets p operationId after) : Faithful after := by
  obtain ⟨_, same⟩ := forgets
  obtain ⟨world, supervisor⟩ := after
  cases same
  exact ⟨faithful.waits, faithful.mirrored⟩

theorem consumes (faithful : Faithful p) {taskId : TaskId} {operationId : OperationId}
    {request : CapabilityRequest} {receipt : ApprovalReceipt}
    (consumes : Consumes env p taskId operationId request receipt after) : Faithful after := by
  obtain ⟨store, record, approved, found, running, _, _, _, _, _, _, _, _, appended⟩ := consumes
  have known := TaskSupervisor.taskState_of_record found
  rw [running] at known
  exact ⟨faithful.waits, faithful.mirrored.note appended.grown known rfl⟩

theorem finishes_continues (coherent : Coherent env p) (faithful : Faithful p) {taskId : TaskId}
    {record : TaskRecord} (found : p.supervisor.tasks[taskId]? = some record) {next : TaskState}
    (allowed : record.state.canTransitionTo next = true) {failure : Option ErrorCode}
    (failed : failure ≠ none → next = .failed) :
    Continues record.state (finishedEvents p taskId record.state next failure) next := by
  have revoked : Continues record.state (p.supervisor.revocationEvents taskId) record.state := by
    by_cases nothing : p.supervisor.revocationEvents taskId = []
    · rw [nothing]
      rfl
    · apply revocations_continue
      · obtain ⟨kind, member⟩ := List.exists_mem_of_ne_nil _ nothing
        simp only [TaskSupervisor.revocationEvents, List.mem_append, List.mem_filterMap] at member
        rcases member with ⟨e, present, selected⟩ | ⟨e, present, selected⟩
        · split at selected
          · rename_i owner
            obtain ⟨holder, there, state⟩ :=
              faithful.waits e.1 e.2 (OrdMap.mem_toList_pair.mp present)
            rw [owner] at there
            cases Option.some.inj (found.symm.trans there)
            exact .inr state
          · cases selected
        · split at selected
          · rename_i owner
            obtain ⟨holder, there, started⟩ :=
              coherent.granted.owned e.1 e.2 (OrdMap.mem_toList_pair.mp present)
            rw [owner] at there
            cases Option.some.inj (found.symm.trans there)
            exact TaskState.live_of_started started
              (TaskState.not_terminal_of_transition allowed)
          · cases selected
      · exact fun kind member => revocationEvents_revoked taskId member
  unfold finishedEvents
  rw [List.append_assoc]
  apply revoked.append
  cases failure with
  | none => exact transition_continues allowed
  | some code =>
    cases failed (Option.some_ne_none code)
    have live := TaskState.not_terminal_of_transition allowed
    simp [Continues, replayKind, live]

theorem finishes (coherent : Coherent env p) (faithful : Faithful p) {taskId : TaskId}
    {next : TaskState} {failure : Option ErrorCode} (failed : failure ≠ none → next = .failed)
    (finishes : Finishes p taskId next failure after) : Faithful after := by
  obtain ⟨store, record, found, allowed, terminal, appended⟩ := finishes
  have legal := finishes_continues coherent faithful found allowed failed
  constructor
  · rw [TaskSupervisor.invalidateApprovals_eq]
    apply faithful.waits.update
    intro id pending kept
    rw [OrdMap.get_foldl_erase] at kept
    split at kept
    · cases kept
    · rename_i notDropped
      exact .inl ⟨kept, fun owner =>
        notDropped (TaskSupervisor.mem_pendingIds.mpr ⟨pending, kept, owner⟩)⟩
  · rw [TaskSupervisor.invalidateApprovals_eq]
    exact faithful.mirrored.transition found rfl rfl appended.grown legal

theorem expires (coherent : Coherent env p) (faithful : Faithful p) {id : ApprovalId}
    (expires : Closes p id (expiring id) after) : Faithful after :=
  closes coherent faithful expires (fun _ => rfl)

theorem effect (coherent : Coherent env p) (faithful : Faithful p) {call : Call}
    (documented : Documented p call) (effect : Effect env p call after) : Faithful after := by
  cases effect with
  | idle quiet => exact faithful.quiet quiet
  | admits admits => exact Faithful.admits coherent faithful admits
  | launches start launches =>
    rcases start with rfl | rfl
    · exact faithful.launches documented launches
    · exact faithful.launches documented launches
  | allows notes => exact faithful.notes notes rfl
  | refuses notes => exact faithful.notes notes rfl
  | asks asks => exact faithful.asks asks
  | grants grants => exact Faithful.grants coherent faithful grants
  | denies denies => exact closes coherent faithful denies (fun _ => rfl)
  | forgets forgets => exact faithful.forgets forgets
  | consumes consumes => exact faithful.consumes consumes
  | finishes ends finishes =>
    refine Faithful.finishes coherent faithful ?_ finishes
    rcases ends with ⟨_, _, rfl⟩ | ⟨_, _, rfl⟩ | ⟨_, rfl, _⟩ | ⟨_, _, rfl⟩
    · exact fun some => absurd rfl some
    · exact fun some => absurd rfl some
    · exact fun _ => rfl
    · exact fun some => absurd rfl some

theorem call (coherent : Coherent env p) (faithful : Faithful p) (call : Call)
    (documented : Documented p call) : Faithful (call.run env p).2 := by
  apply call_rule (I := fun q => Faithful q ∧ Documented q call) coherent call
  · rintro a b ⟨faithful, documented⟩ quiet
    exact ⟨faithful.quiet quiet, documented_quiet documented quiet⟩
  · rintro a b id member coherent ⟨faithful, documented⟩ closes
    refine ⟨expires coherent faithful closes, ?_⟩
    -- a start has no expiry pass, and every other call is documented anywhere
    cases call <;> trivial
  · rintro a b coherent ⟨faithful, documented⟩ effect
    exact Faithful.effect coherent faithful documented effect
  · exact ⟨faithful, documented⟩

end Faithful

namespace Daemon

/-- A documented run keeps every log faithful to the reported state. -/
theorem Reached.faithful (fresh : Function.Injective env.uuid)
    (reached : Reached env Documented (.up p)) : Faithful p := by
  obtain ⟨store, empty, run⟩ := reached
  generalize target : Daemon.up p = d at run
  induction run generalizing p with
  | refl => cases target
  | @tail middle last path step ih =>
    have sound : Sound env middle := Reached.sound fresh ⟨store, empty, path⟩
    cases step with
    | call call allowed =>
      cases target
      exact Faithful.call sound (ih rfl) call allowed
    | crash => cases target
    | built made =>
      cases target
      obtain ⟨maxTasks, rfl⟩ := built_empty made
      constructor
      · intro id pending present
        simp [TaskSupervisor.empty] at present
      · intro taskId state reported
        simp [TaskSupervisor.taskState, TaskSupervisor.empty] at reported
    | recovered result =>
      cases target
      rename_i world later store after maxTasks supervisor
      have ends := recover_cases env world store maxTasks
      rw [result] at ends
      have done := recover_ok ends
      have kept : supervisor.eventStore = after := by rw [done.fields]; rfl
      constructor
      · intro id pending present
        rw [done.fields] at present
        simp [TaskSupervisor.empty] at present
      · intro taskId state reported
        have none : supervisor.tasks[taskId]? = none := by
          rw [done.fields]
          exact Std.ExtTreeMap.getElem?_empty
        rw [TaskSupervisor.taskState_of_recovered none] at reported
        obtain ⟨old, accepted, rfl⟩ := (done.states taskId state).mp reported
        rw [Process.kinds, kept]
        exact (accepted_iff.mp (done.completes.closed accepted).2).2
    | unrecovered => cases target

end Daemon

end AiOs
