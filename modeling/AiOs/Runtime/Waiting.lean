import AiOs.Runtime.Discipline

/-! Approval waits. Every change of the Task table is one of four, so what moves a Task out
of its wait, and what sets its start instant, can be read off. -/
namespace AiOs

variable {S : Type} [LawfulEventStore S]

/-- What one effect does to the Task table. -/
inductive Revises (env : Env) (p : Process S) (call : Call) : OrdMap TaskId TaskRecord → Prop where
  | same : Revises env p call p.supervisor.tasks
  | admitted (spec : TaskSpec) (state : TaskState) (submitted : call = .submit spec) :
      Revises env p call (p.supervisor.tasks.insert ⟨env.uuid p.world.ids⟩ ⟨spec, state, none⟩)
  | launched (taskId : TaskId) (record : TaskRecord)
      (start : call = .start taskId ∨ call = .startExecution taskId)
      (found : p.supervisor.tasks[taskId]? = some record)
      (startable : record.state.canTransitionTo .running = true) :
      Revises env p call (p.supervisor.tasks.insert taskId
        { record with state := .running, startedAt := some (env.clock p.world.reads) })
  | moved (taskId : TaskId) (record : TaskRecord) (next : TaskState)
      (found : p.supervisor.tasks[taskId]? = some record)
      (allowed : record.state.canTransitionTo next = true)
      (resumed : next = .running → ∃ id pending, call = .approveOperation id ∧
        p.supervisor.pendingOperations[id]? = some pending ∧ pending.taskId = taskId) :
      Revises env p call (p.supervisor.tasks.insert taskId { record with state := next })

variable {env : Env} {p after : Process S} {call : Call}

theorem Closes.revises {id : ApprovalId} {closing : PendingOperation → TaskEventKind}
    (closes : Closes p id closing after) (call : Call) :
    Revises env p call after.supervisor.tasks ∧
      after.supervisor.recoveredTasks = p.supervisor.recoveredTasks := by
  obtain ⟨store, pending, record, waiting, found, failable, appended⟩ := closes
  exact ⟨.moved pending.taskId record .failed found failable nofun, rfl⟩

theorem Effect.revises (effect : Effect env p call after) :
    Revises env p call after.supervisor.tasks ∧
      after.supervisor.recoveredTasks = p.supervisor.recoveredTasks := by
  cases effect with
  | idle quiet =>
    rw [quiet.same]
    exact ⟨.same, rfl⟩
  | admits admits =>
    obtain ⟨store, unused, room, appended⟩ := admits
    exact ⟨.admitted _ _ rfl, rfl⟩
  | launches start launches =>
    obtain ⟨store, record, found, startable, appended⟩ := launches
    exact ⟨.launched _ record start found startable, rfl⟩
  | allows notes =>
    obtain ⟨store, record, found, running, valid, decided, appended⟩ := notes
    exact ⟨.same, rfl⟩
  | refuses notes =>
    obtain ⟨store, record, found, running, valid, decided, appended⟩ := notes
    exact ⟨.same, rfl⟩
  | asks asks =>
    obtain ⟨store, record, found, running, valid, decided, single, unindexed, room, appended⟩ :=
      asks
    exact ⟨.moved _ record .waitingApproval found
      (TaskState.transition_to_waiting.mpr running) nofun, rfl⟩
  | grants grants =>
    obtain ⟨store, pending, record, entry, waiting, found, resumable, registered, early,
      appended⟩ := grants
    exact ⟨.moved _ record .running found resumable
      (fun _ => ⟨_, pending, rfl, waiting, rfl⟩), rfl⟩
  | denies denies => exact denies.revises _
  | forgets forgets =>
    rw [forgets.same]
    exact ⟨.same, rfl⟩
  | consumes consumes =>
    obtain ⟨store, record, approved, found, running, held, owner, exact, valid, decided, early,
      scope, issued, appended⟩ := consumes
    exact ⟨.same, rfl⟩
  | finishes ends finishes =>
    obtain ⟨store, record, found, allowed, terminal, appended⟩ := finishes
    rw [TaskSupervisor.invalidateApprovals_eq]
    refine ⟨.moved _ record _ found allowed ?_, rfl⟩
    rintro rfl
    cases terminal

theorem Closes.taskState {id : ApprovalId} {closing : PendingOperation → TaskEventKind}
    (closes : Closes p id closing after) (taskId : TaskId) :
    after.supervisor.taskState taskId = some .failed ∨
      after.supervisor.taskState taskId = p.supervisor.taskState taskId := by
  obtain ⟨store, pending, record, waiting, found, failable, appended⟩ := closes
  by_cases same : taskId = pending.taskId
  · subst same
    left
    simp only [TaskSupervisor.taskState, OrdMap.get_insert, ↓reduceIte]
  · right
    simp only [TaskSupervisor.taskState, OrdMap.get_insert, if_neg (Ne.symm same)]

theorem Revises.taskState (coherent : Coherent env p)
    (revises : Revises env p call after.supervisor.tasks)
    (recovered : after.supervisor.recoveredTasks = p.supervisor.recoveredTasks)
    {taskId : TaskId} {state next : TaskState}
    (before : p.supervisor.taskState taskId = some state)
    (reported : after.supervisor.taskState taskId = some next) :
    next = state ∨ state.canTransitionTo next = true ∧
      (next = .running → (call = .start taskId ∨ call = .startExecution taskId) ∨
        ∃ id pending, call = .approveOperation id ∧
          p.supervisor.pendingOperations[id]? = some pending ∧ pending.taskId = taskId) := by
  have unchanged : after.supervisor.taskState taskId = p.supervisor.taskState taskId →
      next = state := fun same => Option.some.inj (reported.symm.trans (same.trans before))
  have elsewhere : ∀ {other : TaskId} {record : TaskRecord},
      after.supervisor.tasks = p.supervisor.tasks.insert other record → taskId ≠ other →
        next = state :=
    fun tasks distinct => unchanged (taskState_other p.supervisor tasks recovered distinct)
  generalize changed : after.supervisor.tasks = tasks at revises
  cases revises with
  | same =>
    refine .inl (unchanged ?_)
    simp only [TaskSupervisor.taskState, changed, recovered]
  | admitted spec first submitted =>
    refine .inl (elsewhere changed ?_)
    rintro rfl
    obtain ⟨noTask, noRecovered⟩ := coherent.unused_task
    rw [TaskSupervisor.taskState_of_recovered noTask, noRecovered] at before
    cases before
  | launched owner record start found startable =>
    by_cases same : taskId = owner
    · subst same
      rw [taskState_own changed] at reported
      rw [TaskSupervisor.taskState_of_record found] at before
      cases reported
      cases before
      exact .inr ⟨startable, fun _ => .inl start⟩
    · exact .inl (elsewhere changed same)
  | moved owner record target found allowed resumed =>
    by_cases same : taskId = owner
    · subst same
      rw [taskState_own changed] at reported
      rw [TaskSupervisor.taskState_of_record found] at before
      cases reported
      cases before
      exact .inr ⟨allowed, fun running => .inr (resumed running)⟩
    · exact .inl (elsewhere changed same)

/-- A start instant stays as long as no waiting Task is started. -/
theorem Revises.startedAt (coherent : Coherent env p) (documented : Documented p call)
    {tasks : OrdMap TaskId TaskRecord} (revises : Revises env p call tasks) {taskId : TaskId}
    {record : TaskRecord} (found : p.supervisor.tasks[taskId]? = some record)
    {instant : Instant} (started : record.startedAt = some instant) :
    ∃ later, tasks[taskId]? = some later ∧ later.startedAt = some instant := by
  cases revises with
  | same => exact ⟨record, found, started⟩
  | admitted spec state submitted =>
    refine ⟨record, ?_, started⟩
    rw [OrdMap.get_insert, if_neg]
    · exact found
    · rintro rfl
      rw [coherent.unused_task.1] at found
      cases found
  | launched owner other start there startable =>
    rw [OrdMap.get_insert]
    split
    · rename_i same
      subst same
      cases Option.some.inj (found.symm.trans there)
      rcases TaskState.transition_to_running.mp startable with queued | waiting
      · rw [coherent.records.unstarted _ record found queued] at started
        cases started
      · have known := TaskSupervisor.taskState_of_record found
        rw [waiting] at known
        rcases start with rfl | rfl <;> exact absurd known documented
    · exact ⟨record, found, started⟩
  | moved owner other next there allowed resumed =>
    rw [OrdMap.get_insert]
    split
    · rename_i same
      subst same
      cases Option.some.inj (found.symm.trans there)
      exact ⟨_, rfl, started⟩
    · exact ⟨record, found, started⟩

/-- What the wait for an approval is, in a process and for the calls from it. -/
structure ApprovalCoherent (env : Env) (permitted : Process S → Call → Prop) (p : Process S) :
    Prop where
  waiting : ∀ taskId, p.supervisor.taskState taskId = some .waitingApproval ↔
    ∃! id : ApprovalId, ∃ pending : PendingOperation,
      p.supervisor.pendingOperations[id]? = some pending ∧ pending.taskId = taskId
  resumes : ∀ call, permitted p call → ∀ taskId,
    p.supervisor.taskState taskId = some .waitingApproval →
    (call.run env p).2.supervisor.taskState taskId = some .running →
    ∃ id pending, call = .approveOperation id ∧
      p.supervisor.pendingOperations[id]? = some pending ∧ pending.taskId = taskId
  started : ∀ call, permitted p call → ∀ (taskId : TaskId) (record : TaskRecord) instant,
    p.supervisor.tasks[taskId]? = some record → record.startedAt = some instant →
    ∃ later, (call.run env p).2.supervisor.tasks[taskId]? = some later ∧
      later.startedAt = some instant
  settled : ∀ taskId state before kind after, p.supervisor.taskState taskId = some state →
    p.kinds taskId = before ++ kind :: after → kind.settles = true →
    Replays before .waitingApproval

theorem waiting_iff (coherent : Coherent env p) (faithful : Faithful p) (taskId : TaskId) :
    p.supervisor.taskState taskId = some .waitingApproval ↔
      ∃! id : ApprovalId, ∃ pending : PendingOperation,
        p.supervisor.pendingOperations[id]? = some pending ∧ pending.taskId = taskId := by
  constructor
  · intro known
    obtain ⟨record, found, state⟩ := record_of_open p coherent.recoveredTerminal known rfl
    obtain ⟨id, pending, present, owner⟩ := coherent.registry.waiting taskId record found state
    refine ⟨id, ⟨pending, present, owner⟩, ?_⟩
    rintro other ⟨held, there, sameOwner⟩
    exact coherent.registry.single other id held pending there present
      (sameOwner.trans owner.symm)
  · rintro ⟨id, ⟨pending, present, rfl⟩, _⟩
    obtain ⟨record, found, state⟩ := faithful.waits id pending present
    rw [TaskSupervisor.taskState_of_record found, state]

theorem resumes_by_approval (coherent : Coherent env p) (documented : Documented p call)
    {taskId : TaskId} (waits : p.supervisor.taskState taskId = some .waitingApproval)
    (runs : (call.run env p).2.supervisor.taskState taskId = some .running) :
    ∃ id pending, call = .approveOperation id ∧
      p.supervisor.pendingOperations[id]? = some pending ∧ pending.taskId = taskId := by
  revert runs
  -- up to the effect the Task waits or has failed, and requests only go away
  apply call_rule (I := fun q => (q.supervisor.taskState taskId = some .waitingApproval ∨
      q.supervisor.taskState taskId = some .failed) ∧
      (∀ (id : ApprovalId) (pending : PendingOperation),
        q.supervisor.pendingOperations[id]? = some pending →
          p.supervisor.pendingOperations[id]? = some pending) ∧ Documented q call)
    (J := fun q => q.supervisor.taskState taskId = some .running →
      ∃ id pending, call = .approveOperation id ∧
        p.supervisor.pendingOperations[id]? = some pending ∧ pending.taskId = taskId)
    coherent call
  · rintro a b ⟨state, among, documented⟩ quiet
    refine ⟨?_, ?_, documented_quiet documented quiet⟩
    · rw [quiet.same]
      exact state
    · rw [quiet.same]
      exact among
  · rintro a b id member _ ⟨state, among, documented⟩ closes
    refine ⟨?_, ?_, ?_⟩
    · rcases closes.taskState taskId with failed | same
      · exact .inr failed
      · rw [same]
        exact state
    · intro other pending present
      rw [closes.pending_erased, OrdMap.get_erase] at present
      split at present
      · cases present
      · exact among other pending present
    · cases call <;> trivial
  · rintro a b coherent ⟨state, among, documented⟩ effect runs
    obtain ⟨revises, recovered⟩ := effect.revises
    rcases state with waits | failed
    · rcases revises.taskState coherent recovered waits runs with same | ⟨_, resumed⟩
      · cases same
      · rcases resumed rfl with start | ⟨id, pending, approved, present, owner⟩
        · rcases start with rfl | rfl <;> exact absurd waits documented
        · exact ⟨id, pending, approved, among id pending present, owner⟩
    · rcases revises.taskState coherent recovered failed runs with same | ⟨allowed, _⟩
      · cases same
      · cases allowed
  · exact ⟨.inl waits, fun _ _ present => present, documented⟩

theorem startedAt_stays (coherent : Coherent env p) (documented : Documented p call)
    {taskId : TaskId} {record : TaskRecord} {instant : Instant}
    (found : p.supervisor.tasks[taskId]? = some record)
    (started : record.startedAt = some instant) :
    ∃ later, (call.run env p).2.supervisor.tasks[taskId]? = some later ∧
      later.startedAt = some instant := by
  apply call_rule (I := fun q => (∃ record, q.supervisor.tasks[taskId]? = some record ∧
      record.startedAt = some instant) ∧ Documented q call)
    (J := fun q => ∃ later, q.supervisor.tasks[taskId]? = some later ∧
      later.startedAt = some instant) coherent call
  · rintro a b ⟨known, documented⟩ quiet
    refine ⟨?_, documented_quiet documented quiet⟩
    rw [quiet.same]
    exact known
  · rintro a b id member coherent ⟨⟨record, found, started⟩, _⟩ closes
    refine ⟨?_, ?_⟩
    · have revises : Revises env a .expireApprovals b.supervisor.tasks :=
        (closes.revises .expireApprovals).1
      have documented : Documented a .expireApprovals := trivial
      exact revises.startedAt coherent documented found started
    · cases call <;> trivial
  · rintro a b coherent ⟨⟨record, found, started⟩, documented⟩ effect
    exact effect.revises.1.startedAt coherent documented found started
  · exact ⟨⟨record, found, started⟩, documented⟩

namespace Daemon

/-- In documented runs a Task waits exactly for one retained request, only its approval
resumes it, and the wait neither resets the start instant nor takes a foreign outcome. -/
theorem approvals_coherent {env : Env} (fresh : Function.Injective env.uuid) {p : Process S}
    (reached : Reached env Documented (.up p)) : ApprovalCoherent env Documented p := by
  have coherent : Coherent env p := reached.sound fresh
  have faithful := reached.faithful fresh
  refine ⟨waiting_iff coherent faithful, ?_, ?_, ?_⟩
  · intro call documented taskId waits runs
    exact resumes_by_approval coherent documented waits runs
  · intro call documented taskId record instant found started
    exact startedAt_stays coherent documented found started
  · intro taskId state before kind after known log settles
    have replays := faithful.mirrored taskId state known
    rw [log] at replays
    exact replays.settled settles

end Daemon

namespace Sample

def waiting : List Call := [.submit spec, .start ⟨0⟩, .requestOperation ⟨0⟩ push (10 ^ 9)]

end Sample

set_option maxRecDepth 4000 in
theorem approvals_coherent_waiting :
    (Sample.process 20 Sample.waiting).supervisor.taskState ⟨0⟩ = some .waitingApproval ∧
      ApprovalCoherent Sample.env Documented (Sample.process 20 Sample.waiting) :=
  ⟨by decide +kernel, Daemon.approvals_coherent Sample.uuid_injective
    (Sample.process_reached (by decide +kernel))⟩

set_option maxRecDepth 4000 in
/-- A second start of the waiting Task: it runs although nothing was approved, its request
is still retained, and its wall time starts again. -/
theorem approvals_incoherent_restarted :
    Daemon.Reached Sample.env Daemon.Anything (.up (Sample.process 20 Sample.waiting)) ∧
    ¬ ApprovalCoherent Sample.env Daemon.Anything (Sample.process 20 Sample.waiting) ∧
    (Sample.process 20 (Sample.waiting ++ [.start ⟨0⟩])).supervisor.taskState ⟨0⟩ =
      some .running ∧
    (Sample.process 20 (Sample.waiting ++ [.start ⟨0⟩])).supervisor.pendingOperations[
      (⟨2⟩ : ApprovalId)]? = some ⟨⟨0⟩, ⟨1⟩, Sample.push⟩ ∧
    ((Sample.process 20 Sample.waiting).supervisor.tasks[(⟨0⟩ : TaskId)]?.bind
      TaskRecord.startedAt) = some 0 ∧
    ((Sample.process 20 (Sample.waiting ++ [.start ⟨0⟩])).supervisor.tasks[(⟨0⟩ : TaskId)]?.bind
      TaskRecord.startedAt) = some 3000000 := by
  refine ⟨Sample.process_reached (by decide), ?_, by decide +kernel, by decide +kernel,
    by decide +kernel, by decide +kernel⟩
  intro coherent
  have waits : (Sample.process 20 Sample.waiting).supervisor.taskState ⟨0⟩ =
      some .waitingApproval := by decide +kernel
  have runs : ((Call.start ⟨0⟩).run Sample.env
      (Sample.process 20 Sample.waiting)).2.supervisor.taskState ⟨0⟩ = some .running := by
    decide +kernel
  obtain ⟨id, pending, approved, _⟩ := coherent.resumes (.start ⟨0⟩) trivial ⟨0⟩ waits runs
  cases approved

end AiOs
