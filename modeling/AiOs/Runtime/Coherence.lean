import AiOs.Runtime.Ledger

/-! The invariant of every run of the supervisor, kept by every effect. It assumes that the
identifier generator never repeats itself, and nothing about the clock, the storage outcomes
or the order of the calls. -/
namespace AiOs

open Account

variable {S : Type} [LawfulEventStore S]

def Process.kinds (p : Process S) (taskId : TaskId) : List TaskEventKind :=
  kindsOf (LawfulEventStore.log p.supervisor.eventStore taskId)

/-- Logs are numbered from one on, and only generated identifiers have one. -/
structure Logs (env : Env) (ids : Nat) (log : TaskId → List TaskEvent) : Prop where
  sequenced : ∀ taskId, Sequenced (log taskId)
  known : ∀ taskId, log taskId ≠ [] → env.Known ids taskId.uuid

structure Coherent (env : Env) (p : Process S) : Prop where
  registry : Registry env p.world.ids p.supervisor.approvalAuthority
    p.supervisor.pendingOperations p.supervisor.tasks
  records : Records env p.world.ids p.supervisor.tasks p.supervisor.recoveredTasks
  granted : Granted p.supervisor.tasks p.supervisor.approvedOperations
  logs : Logs env p.world.ids (LawfulEventStore.log p.supervisor.eventStore)
  ledger : Ledger env p.world.ids p.kinds p.supervisor.pendingOperations
    p.supervisor.approvedOperations

theorem Appended.grown {store after : S} {taskId : TaskId} {batch : List TaskEventKind}
    (appended : Appended store after taskId batch) :
    Grown (fun t => kindsOf (LawfulEventStore.log store t))
      (fun t => kindsOf (LawfulEventStore.log after t)) taskId batch :=
  ⟨appended.grows.own, fun other distinct => congrArg kindsOf (appended.grows.others other distinct)⟩

theorem Logs.later {env : Env} {ids after : Nat} {log : TaskId → List TaskEvent}
    (logs : Logs env ids log) (le : ids ≤ after) : Logs env after log :=
  ⟨logs.sequenced, fun taskId present => (logs.known taskId present).mono le⟩

theorem Logs.grow {env : Env} {ids more : Nat} {store after : S} {taskId : TaskId}
    {batch : List TaskEventKind} (logs : Logs env ids (LawfulEventStore.log store))
    (appended : Appended store after taskId batch) (le : ids ≤ more)
    (known : env.Known more taskId.uuid) : Logs env more (LawfulEventStore.log after) := by
  constructor
  · intro other
    by_cases same : other = taskId
    · exact same ▸ appended.grows.sequenced (logs.sequenced taskId)
    · rw [appended.grows.others other same]
      exact logs.sequenced other
  · intro other present
    by_cases same : other = taskId
    · exact same ▸ known
    · rw [appended.grows.others other same] at present
      exact (logs.known other present).mono le

variable {env : Env} {p after : Process S}

/-- The part of the invariant that holds on any store: requests and records are in order. -/
structure Orderly (env : Env) (p : Process S) : Prop where
  registry : Registry env p.world.ids p.supervisor.approvalAuthority
    p.supervisor.pendingOperations p.supervisor.tasks
  records : Records env p.world.ids p.supervisor.tasks p.supervisor.recoveredTasks

namespace Orderly

omit [LawfulEventStore S] in
theorem recoveredTerminal (orderly : Orderly env p) : RecoveredTerminal p.supervisor :=
  orderly.records.terminal

omit [LawfulEventStore S] in
theorem authorityReady (orderly : Orderly env p) : AuthorityReady env p where
  indexed := orderly.registry.indexed
  limit := orderly.registry.limit
  fresh := by
    intro i future
    cases found : p.supervisor.approvalAuthority.pending[(⟨env.uuid i⟩ : ApprovalId)]? with
    | none => rfl
    | some entry =>
      obtain ⟨pending, present⟩ := orderly.registry.retained _ entry found
      exact absurd rfl (orderly.registry.known _ pending present i future)

omit [LawfulEventStore S] in
theorem unused_task (orderly : Orderly env p) :
    p.supervisor.tasks[(⟨env.uuid p.world.ids⟩ : TaskId)]? = none ∧
      p.supervisor.recoveredTasks[(⟨env.uuid p.world.ids⟩ : TaskId)]? = none := by
  constructor
  · cases found : p.supervisor.tasks[(⟨env.uuid p.world.ids⟩ : TaskId)]? with
    | none => rfl
    | some record => exact absurd rfl (orderly.records.known _ record found _ (Nat.le_refl _))
  · cases found : p.supervisor.recoveredTasks[(⟨env.uuid p.world.ids⟩ : TaskId)]? with
    | none => rfl
    | some state =>
      exact absurd rfl (orderly.records.knownRecovered _ state found _ (Nat.le_refl _))

omit [LawfulEventStore S] in
theorem quiet (orderly : Orderly env p) (quiet : Quiet p after) : Orderly env after := by
  obtain ⟨same, moved⟩ := quiet
  obtain ⟨world, supervisor⟩ := after
  cases same
  exact ⟨orderly.registry.later moved.ids, orderly.records.later moved.ids⟩

theorem admits (fresh : Function.Injective env.uuid) (orderly : Orderly env p)
    {spec : TaskSpec} (admits : Admits env p spec after) : Orderly env after := by
  obtain ⟨store, unused, room, appended⟩ := admits
  have step : p.world.ids ≤ p.world.ids + 1 := Nat.le_succ _
  obtain ⟨noTask, noRecovered⟩ := orderly.unused_task
  constructor
  · apply (orderly.registry.later step).retask
    · intro id pending present owner
      obtain ⟨record, found, _⟩ := orderly.registry.live id pending present
      rw [owner, noTask] at found
      cases found
    · intro waits
      cases valid : spec.validate <;> simp [valid, submissionEvents] at waits
  · apply (orderly.records.later step).insert noRecovered
    · intro accepted
      cases valid : spec.validate with
      | ok _ => exact valid
      | error errors => simp [valid, submissionEvents] at accepted
    · exact fun _ => rfl
    · intro live
      cases valid : spec.validate <;> simp [valid, submissionEvents, TaskState.Live] at live
    · exact Env.known_generated fresh (Nat.lt_succ_self _)

theorem launches (orderly : Orderly env p) {taskId : TaskId}
    (launches : Launches env p taskId after) : Orderly env after := by
  obtain ⟨store, record, found, startable, appended⟩ := launches
  have notRejected : record.state ≠ .rejected := by
    intro rejected
    rw [rejected] at startable
    cases startable
  constructor
  · apply orderly.registry.retask
    · exact fun _ _ _ _ => .inl rfl
    · exact nofun
  · exact orderly.records.step found notRejected .running (some _) nofun (fun _ => rfl)

theorem notes (orderly : Orderly env p) {taskId : TaskId} {request : CapabilityRequest}
    {decision : PolicyDecision} {kind : TaskEventKind}
    (notes : Notes p taskId request decision kind after) : Orderly env after := by
  obtain ⟨store, record, found, _, _, _, appended⟩ := notes
  exact ⟨orderly.registry, orderly.records⟩

theorem asks (fresh : Function.Injective env.uuid) (orderly : Orderly env p) {taskId : TaskId}
    {request : CapabilityRequest} {ttl : Duration} (asks : Asks env p taskId request ttl after) :
    Orderly env after := by
  obtain ⟨store, record, found, running, valid, decided, single, unindexed, room, appended⟩ := asks
  have step : p.world.ids ≤ p.world.ids + 2 := Nat.le_add_right _ _
  have used : env.Known (p.world.ids + 2) (askedApproval env p).uuid :=
    Env.known_generated fresh (Nat.lt_succ_self _)
  have notRejected : record.state ≠ .rejected := by simp [running]
  constructor
  · exact orderly.registry.ask
      ⟨taskId, askedOperation env p, request.action, env.clock p.world.reads + ttl⟩
      ⟨taskId, askedOperation env p, request⟩ single unindexed
      (orderly.authorityReady.fresh _ (Nat.le_succ _)) ⟨rfl, rfl, rfl⟩ rfl step used
  · apply (orderly.records.later step).step found notRejected .waitingApproval _ nofun
    exact fun _ => orderly.records.started taskId record found (.inl running)

theorem grants (orderly : Orderly env p) {id : ApprovalId} (grants : Grants env p id after) :
    Orderly env after := by
  obtain ⟨store, pending, record, entry, waiting, found, resumable, registered, early,
    appended⟩ := grants
  have notRejected : record.state ≠ .rejected := by
    intro rejected
    rw [rejected] at resumable
    cases resumable
  obtain ⟨holder, held, live⟩ := orderly.registry.live id pending waiting
  cases Option.some.inj (found.symm.trans held)
  constructor
  · exact orderly.registry.close waiting (by simp)
  · apply orderly.records.step found notRejected .running _ nofun
    exact fun _ => orderly.records.started pending.taskId record found live

theorem closes (orderly : Orderly env p) {id : ApprovalId}
    {closing : PendingOperation → TaskEventKind} (closes : Closes p id closing after) :
    Orderly env after := by
  obtain ⟨store, pending, record, waiting, found, failable, appended⟩ := closes
  have notRejected : record.state ≠ .rejected := by
    intro rejected
    rw [rejected] at failable
    cases failable
  constructor
  · exact orderly.registry.close waiting (by simp)
  · exact orderly.records.step found notRejected .failed _ nofun
      (fun live => by cases live <;> contradiction)

omit [LawfulEventStore S] in
theorem forgets (orderly : Orderly env p) {operationId : OperationId}
    (forgets : Forgets p operationId after) : Orderly env after := by
  obtain ⟨moved, same⟩ := forgets
  obtain ⟨world, supervisor⟩ := after
  cases same
  exact ⟨orderly.registry.later moved.ids, orderly.records.later moved.ids⟩

theorem consumes (orderly : Orderly env p) {taskId : TaskId} {operationId : OperationId}
    {request : CapabilityRequest} {receipt : ApprovalReceipt}
    (consumes : Consumes env p taskId operationId request receipt after) : Orderly env after := by
  cases consumes
  exact ⟨orderly.registry, orderly.records⟩

theorem finishes (orderly : Orderly env p) {taskId : TaskId} {next : TaskState}
    {failure : Option ErrorCode} (finishes : Finishes p taskId next failure after) :
    Orderly env after := by
  obtain ⟨store, record, found, allowed, terminal, appended⟩ := finishes
  have notRejected : record.state ≠ .rejected := by
    intro rejected
    rw [rejected] at allowed
    cases next <;> cases allowed
  have ended : next ≠ .waitingApproval ∧ next ≠ .queued ∧ ¬ next.Live := by
    refine ⟨?_, ?_, ?_⟩
    · rintro rfl
      cases terminal
    · rintro rfl
      cases terminal
    · rintro (rfl | rfl) <;> cases terminal
  constructor
  · exact orderly.registry.finish taskId ended.1
  · rw [TaskSupervisor.invalidateApprovals_eq]
    exact orderly.records.step found notRejected next _ ended.2.1 (fun live => absurd live ended.2.2)

end Orderly

namespace Coherent

theorem orderly (coherent : Coherent env p) : Orderly env p :=
  ⟨coherent.registry, coherent.records⟩

theorem recoveredTerminal (coherent : Coherent env p) : RecoveredTerminal p.supervisor :=
  coherent.records.terminal

theorem authorityReady (coherent : Coherent env p) : AuthorityReady env p :=
  coherent.orderly.authorityReady

theorem unused_task (coherent : Coherent env p) :
    p.supervisor.tasks[(⟨env.uuid p.world.ids⟩ : TaskId)]? = none ∧
      p.supervisor.recoveredTasks[(⟨env.uuid p.world.ids⟩ : TaskId)]? = none :=
  coherent.orderly.unused_task

theorem unused_log (coherent : Coherent env p) :
    LawfulEventStore.log p.supervisor.eventStore ⟨env.uuid p.world.ids⟩ = [] := by
  by_contra present
  exact coherent.logs.known _ present _ (Nat.le_refl _) rfl

theorem quiet (coherent : Coherent env p) (quiet : Quiet p after) : Coherent env after := by
  obtain ⟨registry, records⟩ := coherent.orderly.quiet quiet
  obtain ⟨same, moved⟩ := quiet
  obtain ⟨world, supervisor⟩ := after
  cases same
  exact ⟨registry, records, coherent.granted, coherent.logs.later moved.ids,
    coherent.ledger.later moved.ids⟩

theorem admits (fresh : Function.Injective env.uuid) (coherent : Coherent env p)
    {spec : TaskSpec} (admits : Admits env p spec after) : Coherent env after := by
  obtain ⟨registry, records⟩ := coherent.orderly.admits fresh admits
  obtain ⟨noTask, _⟩ := coherent.unused_task
  obtain ⟨store, unused, room, appended⟩ := admits
  have step : p.world.ids ≤ p.world.ids + 1 := Nat.le_succ _
  have known : env.Known (p.world.ids + 1) (env.uuid p.world.ids) :=
    Env.known_generated fresh (Nat.lt_succ_self _)
  refine ⟨registry, records, ?_, ?_, ?_⟩
  · exact coherent.granted.retask (.inr noTask)
  · exact coherent.logs.grow appended step known
  · apply coherent.ledger.grow_plain appended.grown step
    intro kind member
    cases valid : spec.validate <;> simp [valid, submissionEvents] at member <;>
      rcases member with rfl | rfl | rfl | rfl <;> rfl

theorem launches (coherent : Coherent env p) {taskId : TaskId}
    (launches : Launches env p taskId after) : Coherent env after := by
  obtain ⟨registry, records⟩ := coherent.orderly.launches launches
  obtain ⟨store, record, found, startable, appended⟩ := launches
  have known := coherent.records.known taskId record found
  refine ⟨registry, records, ?_, ?_, ?_⟩
  · exact coherent.granted.retask (.inl ⟨nofun, nofun, nofun⟩)
  · exact coherent.logs.grow appended (Nat.le_refl _) known
  · exact coherent.ledger.grow_plain appended.grown (Nat.le_refl _) (by simp [TaskEventKind.approval])

theorem notes (coherent : Coherent env p) {taskId : TaskId} {request : CapabilityRequest}
    {decision : PolicyDecision} {kind : TaskEventKind} (plain : kind.approval = none)
    (notes : Notes p taskId request decision kind after) : Coherent env after := by
  obtain ⟨registry, records⟩ := coherent.orderly.notes notes
  obtain ⟨store, record, found, _, _, _, appended⟩ := notes
  have known := coherent.records.known taskId record found
  exact ⟨registry, records, coherent.granted,
    coherent.logs.grow appended (Nat.le_refl _) known,
    coherent.ledger.grow_plain appended.grown (Nat.le_refl _) (by simpa using plain)⟩

theorem asks (fresh : Function.Injective env.uuid) (coherent : Coherent env p) {taskId : TaskId}
    {request : CapabilityRequest} {ttl : Duration} (asks : Asks env p taskId request ttl after) :
    Coherent env after := by
  obtain ⟨registry, records⟩ := coherent.orderly.asks fresh asks
  obtain ⟨store, record, found, running, valid, decided, single, unindexed, room, appended⟩ := asks
  have step : p.world.ids ≤ p.world.ids + 2 := Nat.le_add_right _ _
  have used : env.Known (p.world.ids + 2) (askedApproval env p).uuid :=
    Env.known_generated fresh (Nat.lt_succ_self _)
  have unused : ¬ env.Known p.world.ids (askedApproval env p).uuid :=
    fun known => known (p.world.ids + 1) (Nat.le_succ _) rfl
  have known := coherent.records.known taskId record found
  refine ⟨registry, records, ?_, ?_, ?_⟩
  · exact coherent.granted.retask (.inl ⟨nofun, nofun, nofun⟩)
  · exact coherent.logs.grow appended step (known.mono step)
  · exact coherent.ledger.ask ⟨taskId, askedOperation env p, request⟩ rfl rfl appended.grown
      step unused used

theorem grants (coherent : Coherent env p) {id : ApprovalId} (grants : Grants env p id after) :
    Coherent env after := by
  obtain ⟨registry, records⟩ := coherent.orderly.grants grants
  obtain ⟨store, pending, record, entry, waiting, found, resumable, registered, early,
    appended⟩ := grants
  have known := coherent.records.known pending.taskId record found
  obtain ⟨other, there, sameTask, sameOperation, sameAction⟩ :=
    coherent.registry.registered id pending waiting
  cases Option.some.inj (registered.symm.trans there)
  refine ⟨registry, records, ?_, ?_, ?_⟩
  · have resumed : Granted (p.supervisor.tasks.insert pending.taskId
        { record with state := .running }) p.supervisor.approvedOperations :=
      coherent.granted.retask (.inl ⟨nofun, nofun, nofun⟩)
    exact resumed.insert ⟨pending.taskId, pending.request, grantOf id entry⟩
      ⟨sameTask, sameOperation, sameAction⟩ Std.ExtTreeMap.getElem?_insert_self ⟨nofun, nofun, nofun⟩
  · exact coherent.logs.grow appended (Nat.le_refl _) known
  · apply coherent.ledger.settle waiting rfl rfl appended.grown (linear_granted _ _)
    intro operationId approved held
    rw [OrdMap.get_insert] at held
    split at held
    · rename_i same
      cases Option.some.inj held
      exact .inr ⟨rfl, rfl, rfl, same.symm⟩
    · exact .inl held

theorem closes (coherent : Coherent env p) {id : ApprovalId}
    {closing : PendingOperation → TaskEventKind}
    (about : ∀ pending, (closing pending).approval = some id)
    (ends : ∀ pending, Linear id pending.operationId
      [.approvalRequested id pending.operationId, closing pending])
    (closes : Closes p id closing after) : Coherent env after := by
  obtain ⟨registry, records⟩ := coherent.orderly.closes closes
  obtain ⟨store, pending, record, waiting, found, failable, appended⟩ := closes
  have known := coherent.records.known pending.taskId record found
  refine ⟨registry, records, ?_, ?_, ?_⟩
  · exact coherent.granted.retask (.inl ⟨nofun, nofun, nofun⟩)
  · exact coherent.logs.grow appended (Nat.le_refl _) known
  · exact coherent.ledger.settle waiting (about pending) rfl appended.grown (ends pending)
      (fun _ _ held => .inl held)

theorem expires (coherent : Coherent env p) {id : ApprovalId}
    (expires : Closes p id (expiring id) after) : Coherent env after :=
  coherent.closes (fun _ => rfl) (fun _ => linear_chain _ _ (by simp [approvalChains, expiring]))
    expires

theorem denies (coherent : Coherent env p) {id : ApprovalId}
    (denies : Closes p id (denying id) after) : Coherent env after :=
  coherent.closes (fun _ => rfl) (fun _ => linear_chain _ _ (by simp [approvalChains, denying]))
    denies

theorem erased_among {approvedOperations : OrdMap OperationId ApprovedOperation}
    {operationId other : OperationId} {approved : ApprovedOperation}
    (held : (approvedOperations.erase operationId)[other]? = some approved) :
    approvedOperations[other]? = some approved := by
  rw [OrdMap.get_erase] at held
  split at held
  · cases held
  · exact held

theorem forgets (coherent : Coherent env p) {operationId : OperationId}
    (forgets : Forgets p operationId after) : Coherent env after := by
  obtain ⟨registry, records⟩ := coherent.orderly.forgets forgets
  obtain ⟨moved, same⟩ := forgets
  obtain ⟨world, supervisor⟩ := after
  cases same
  exact ⟨registry, records, coherent.granted.shrink (fun _ _ => erased_among),
    coherent.logs.later moved.ids,
    (coherent.ledger.later moved.ids).shrink (fun _ _ => erased_among)⟩

theorem consumes (coherent : Coherent env p) {taskId : TaskId} {operationId : OperationId}
    {request : CapabilityRequest} {receipt : ApprovalReceipt}
    (consumes : Consumes env p taskId operationId request receipt after) : Coherent env after := by
  obtain ⟨store, record, approved, found, _, held, owner, _, _, _, _, _, _, appended⟩ := consumes
  have known := coherent.records.known taskId record found
  subst owner
  exact ⟨coherent.registry, coherent.records, coherent.granted.shrink (fun _ _ => erased_among),
    coherent.logs.grow appended (Nat.le_refl _) known,
    coherent.ledger.consume held appended.grown⟩

theorem finishes (coherent : Coherent env p) {taskId : TaskId} {next : TaskState}
    {failure : Option ErrorCode} (finishes : Finishes p taskId next failure after) :
    Coherent env after := by
  obtain ⟨registry, records⟩ := coherent.orderly.finishes finishes
  obtain ⟨store, record, found, allowed, terminal, appended⟩ := finishes
  have known := coherent.records.known taskId record found
  refine ⟨registry, records, ?_, ?_, ?_⟩
  · rw [TaskSupervisor.invalidateApprovals_eq]
    apply (coherent.granted.shrink ?_).retask (.inl (TaskState.started_of_terminal terminal))
    intro operationId approved kept
    rw [OrdMap.get_filter, Option.filter_eq_some_iff] at kept
    exact kept.1
  · exact coherent.logs.grow appended (Nat.le_refl _) known
  · apply coherent.ledger.finish taskId
      (failure.toList.map TaskEventKind.taskFailed ++ [.stateTransitioned record.state next])
    · intro kind member
      simp only [List.mem_append, List.mem_map, List.mem_singleton] at member
      rcases member with ⟨code, _, rfl⟩ | rfl <;> rfl
    · have grown := appended.grown
      rw [finishedEvents, List.append_assoc] at grown
      exact grown

end Coherent

end AiOs
