import AiOs.Runtime.Waiting

/-! Terminal Tasks. What a Task still holds when it ends is closed in the batch that ends it,
as long as no request is denied or expires while its Task also holds an unused grant. -/
namespace AiOs

open Fallible

variable {S : Type} [LawfulEventStore S] {env : Env} {p after : Process S}

/-- The events that end an approval without using it. -/
def TaskEventKind.Closing (id : ApprovalId) (operationId : OperationId) (kind : TaskEventKind) :
    Prop :=
  kind = .approvalRevoked id operationId ∨ kind = .approvalDenied id operationId ∨
    kind = .approvalExpired id operationId

/-- A batch with the last transition of a Task and a closing event for everything that the
Task holds. -/
structure ClosedBy (p : Process S) (taskId : TaskId) (next : TaskState)
    (batch : List TaskEventKind) : Prop where
  ends : ∃ state, .stateTransitioned state next ∈ batch
  requests : ∀ (id : ApprovalId) (pending : PendingOperation),
    p.supervisor.pendingOperations[id]? = some pending → pending.taskId = taskId →
      ∃ kind ∈ batch, kind.Closing id pending.operationId
  grants : ∀ (operationId : OperationId) (approved : ApprovedOperation),
    p.supervisor.approvedOperations[operationId]? = some approved → approved.taskId = taskId →
      ∃ kind ∈ batch, kind.Closing approved.grant.approvalId operationId

/-- One accepted batch ends the Task, and no grant of it is left. -/
def Ends (p after : Process S) (taskId : TaskId) (next : TaskState) : Prop :=
  (∃ batch, after.world.batches = p.world.batches ++ [(taskId, batch)] ∧
    ClosedBy p taskId next batch) ∧
  ∀ (operationId : OperationId) (approved : ApprovedOperation),
    after.supervisor.approvedOperations[operationId]? = some approved → approved.taskId ≠ taskId

/-- The requests that a call may close by denial or expiry. -/
def Call.closing (env : Env) (p : Process S) (call : Call) : List ApprovalId :=
  call.expired env p ++ match call with
    | .denyOperation id => [id]
    | _ => []

/-- No call is to deny, or finds overdue, a request of a Task that holds an unused grant, whether it
then succeeds or not. -/
def Clean (env : Env) (p : Process S) (call : Call) : Prop :=
  ∀ id ∈ call.closing env p, ∀ entry ∈ p.supervisor.approvedOperations.toList,
    p.supervisor.pendingOperations[id]?.map PendingOperation.taskId ≠ some entry.2.taskId

instance (env : Env) (p : Process S) : DecidablePred (Clean env p) :=
  fun call => inferInstanceAs (Decidable (∀ id ∈ call.closing env p,
    ∀ entry ∈ p.supervisor.approvedOperations.toList,
      p.supervisor.pendingOperations[id]?.map PendingOperation.taskId ≠ some entry.2.taskId))

/-- A Task with this request holds no grant. -/
def NoGrant (p : Process S) (id : ApprovalId) : Prop :=
  ∀ (pending : PendingOperation) (operationId : OperationId) (approved : ApprovedOperation),
    p.supervisor.pendingOperations[id]? = some pending →
    p.supervisor.approvedOperations[operationId]? = some approved →
    approved.taskId ≠ pending.taskId

omit [LawfulEventStore S] in
theorem Clean.noGrant {call : Call} (clean : Clean env p call) {id : ApprovalId}
    (member : id ∈ call.closing env p) : NoGrant p id := by
  intro pending operationId approved present held owner
  apply clean id member (operationId, approved) (OrdMap.mem_toList_pair.mpr held)
  rw [present, Option.map_some, owner]

/-- Grants belong to Tasks that have not ended. -/
def Unspent (p : Process S) : Prop :=
  ∀ (operationId : OperationId) (approved : ApprovedOperation) (state : TaskState),
    p.supervisor.approvedOperations[operationId]? = some approved →
    p.supervisor.taskState approved.taskId = some state → state.isTerminal = false

section steps
variable {taskId : TaskId} {next : TaskState}

omit [LawfulEventStore S] in
theorem terminal_or_owner (p : Process S) {owner : TaskId} {record : TaskRecord}
    (reported : after.supervisor.taskState taskId = some next)
    (tasks : after.supervisor.tasks = p.supervisor.tasks.insert owner record)
    (recovered : after.supervisor.recoveredTasks = p.supervisor.recoveredTasks) :
    p.supervisor.taskState taskId = some next ∨ taskId = owner ∧ record.state = next := by
  by_cases same : taskId = owner
  · subst same
    rw [taskState_own tasks] at reported
    exact .inr ⟨rfl, Option.some.inj reported⟩
  · rw [taskState_other p.supervisor tasks recovered same] at reported
    exact .inl reported

theorem Closes.ends (coherent : Coherent env p) {id : ApprovalId}
    {closing : PendingOperation → TaskEventKind} (closes : Closes p id closing after)
    (kind : ∀ pending, (closing pending).Closing id pending.operationId) (clean : NoGrant p id)
    (reported : after.supervisor.taskState taskId = some next) :
    p.supervisor.taskState taskId = some next ∨ Ends p after taskId next := by
  obtain ⟨store, pending, record, waiting, found, failable, appended⟩ := closes
  rcases terminal_or_owner p reported rfl rfl with same | ⟨rfl, rfl⟩
  · exact .inl same
  refine .inr ⟨⟨_, (World.moved_accepted _ _ _).batches, ?_⟩, ?_⟩
  · refine ⟨⟨record.state, by simp⟩, ?_, ?_⟩
    · intro other held present owner
      cases coherent.registry.single other id held pending present waiting owner
      cases Option.some.inj (waiting.symm.trans present)
      exact ⟨_, List.mem_cons_self, kind pending⟩
    · intro operationId approved held owner
      exact absurd owner (clean pending operationId approved waiting held)
  · intro operationId approved held
    exact clean pending operationId approved waiting held

theorem Admits.ends (coherent : Coherent env p) {spec : TaskSpec} (admits : Admits env p spec after)
    (reported : after.supervisor.taskState taskId = some next) :
    p.supervisor.taskState taskId = some next ∨ Ends p after taskId next := by
  obtain ⟨store, unused, room, appended⟩ := admits
  rcases terminal_or_owner p reported rfl rfl with same | ⟨rfl, rfl⟩
  · exact .inl same
  have new := coherent.unused_task.1
  -- nobody holds anything for a Task that is only now generated
  have nothing : ∀ (operationId : OperationId) (approved : ApprovedOperation),
      p.supervisor.approvedOperations[operationId]? = some approved →
        approved.taskId ≠ ⟨env.uuid p.world.ids⟩ := by
    intro operationId approved held owner
    obtain ⟨record, found, _⟩ := coherent.granted.owned operationId approved held
    rw [owner, new] at found
    cases found
  refine .inr ⟨⟨_, (World.moved_accepted _ _ _).batches, ?_⟩, nothing⟩
  refine ⟨⟨.validating, ?_⟩, ?_, ?_⟩
  · cases spec.validate <;> simp [submissionEvents]
  · intro id pending present owner
    obtain ⟨record, found, _⟩ := coherent.registry.live id pending present
    rw [owner, new] at found
    cases found
  · intro operationId approved held owner
    exact absurd owner (nothing operationId approved held)

theorem Finishes.ends {owner : TaskId} {state : TaskState} {failure : Option ErrorCode}
    (finishes : Finishes p owner state failure after)
    (reported : after.supervisor.taskState taskId = some next) :
    p.supervisor.taskState taskId = some next ∨ Ends p after taskId next := by
  obtain ⟨store, record, found, allowed, terminal, appended⟩ := finishes
  have recovered : (p.supervisor.invalidateApprovals owner).recoveredTasks =
      p.supervisor.recoveredTasks := by rw [TaskSupervisor.invalidateApprovals_eq]
  rcases terminal_or_owner p reported rfl recovered with same | ⟨rfl, rfl⟩
  · exact .inl same
  refine .inr ⟨⟨_, (World.moved_accepted _ _ _).batches, ?_⟩, ?_⟩
  · refine ⟨⟨record.state, by simp [finishedEvents]⟩, ?_, ?_⟩
    · intro id pending present same
      refine ⟨.approvalRevoked id pending.operationId, ?_, .inl rfl⟩
      simp only [finishedEvents, TaskSupervisor.revocationEvents, List.mem_append,
        List.mem_filterMap]
      exact .inl (.inl (.inl ⟨(id, pending), OrdMap.mem_toList_pair.mpr present, if_pos same⟩))
    · intro operationId approved held same
      refine ⟨.approvalRevoked approved.grant.approvalId operationId, ?_, .inl rfl⟩
      simp only [finishedEvents, TaskSupervisor.revocationEvents, List.mem_append,
        List.mem_filterMap]
      exact .inl (.inl (.inr
        ⟨(operationId, approved), OrdMap.mem_toList_pair.mpr held, if_pos same⟩))
  · intro operationId approved held
    change (p.supervisor.invalidateApprovals taskId).approvedOperations[operationId]? = _ at held
    rw [TaskSupervisor.invalidateApprovals_eq, OrdMap.get_filter] at held
    exact of_decide_eq_true (Option.filter_eq_some_iff.mp held).2

/-- A terminal Task never moves again. -/
theorem Revises.terminal (coherent : Coherent env p) {call : Call}
    (revises : Revises env p call after.supervisor.tasks)
    (recovered : after.supervisor.recoveredTasks = p.supervisor.recoveredTasks)
    (before : p.supervisor.taskState taskId = some next) (terminal : next.isTerminal = true) :
    after.supervisor.taskState taskId = some next := by
  generalize changed : after.supervisor.tasks = tasks at revises
  -- the changed record is one of another Task, since this one could not move
  have elsewhere : ∀ {owner : TaskId} {record : TaskRecord}, taskId ≠ owner →
      tasks = p.supervisor.tasks.insert owner record →
      after.supervisor.taskState taskId = some next := by
    intro owner record distinct inserted
    rw [taskState_other p.supervisor (changed.trans inserted) recovered distinct, before]
  have fixed : ∀ {record : TaskRecord} {target : TaskState},
      p.supervisor.tasks[taskId]? = some record →
      record.state.canTransitionTo target ≠ true := by
    intro record target found allowed
    rw [TaskSupervisor.taskState_of_record found] at before
    cases Option.some.inj before
    rw [TaskState.not_terminal_of_transition allowed] at terminal
    cases terminal
  cases revises with
  | same =>
    simp only [TaskSupervisor.taskState, changed, recovered]
    exact before
  | admitted spec first submitted =>
    refine elsewhere ?_ rfl
    rintro rfl
    obtain ⟨noTask, noRecovered⟩ := coherent.unused_task
    rw [TaskSupervisor.taskState_of_recovered noTask, noRecovered] at before
    cases before
  | launched owner record start found startable =>
    refine elsewhere ?_ rfl
    rintro rfl
    exact fixed found startable
  | moved owner record target found allowed resumed =>
    refine elsewhere ?_ rfl
    rintro rfl
    exact fixed found allowed

end steps

theorem Effect.moved {call : Call} (effect : Effect env p call after) :
    ∃ accepted, World.Moved p.world after.world accepted := by
  cases effect with
  | idle quiet => exact ⟨_, quiet.moved⟩
  | admits admits =>
    cases admits
    exact ⟨_, (World.moved_generate _).trans (World.moved_accepted _ _ _)⟩
  | launches _ launches =>
    cases launches
    exact ⟨_, (World.moved_accepted _ _ _).trans (World.moved_tick _)⟩
  | allows notes | refuses notes =>
    cases notes
    exact ⟨_, World.moved_accepted _ _ _⟩
  | asks asks =>
    cases asks
    exact ⟨_, (((World.moved_generate _).trans (World.moved_tick _)).trans
      (World.moved_generate _)).trans (World.moved_accepted _ _ _)⟩
  | grants grants =>
    cases grants
    exact ⟨_, (World.moved_tick _).trans (World.moved_accepted _ _ _)⟩
  | denies denies =>
    cases denies
    exact ⟨_, World.moved_accepted _ _ _⟩
  | forgets forgets => exact ⟨_, forgets.moved⟩
  | consumes consumes =>
    cases consumes
    exact ⟨_, (World.moved_tick _).trans (World.moved_accepted _ _ _)⟩
  | finishes _ finishes =>
    cases finishes
    exact ⟨_, World.moved_accepted _ _ _⟩

/-- What a step does about ended Tasks and about grants. -/
structure Settles (p after : Process S) : Prop where
  batches : ∃ more, after.world.batches = p.world.batches ++ more
  stays : ∀ taskId state, p.supervisor.taskState taskId = some state → state.isTerminal = true →
    after.supervisor.taskState taskId = some state
  ends : ∀ taskId state, after.supervisor.taskState taskId = some state →
    state.isTerminal = true →
      p.supervisor.taskState taskId = some state ∨ Ends p after taskId state
  approved : ∀ (operationId : OperationId) (approved : ApprovedOperation),
    after.supervisor.approvedOperations[operationId]? = some approved →
      p.supervisor.approvedOperations[operationId]? = some approved ∨
        after.supervisor.taskState approved.taskId = some .running

theorem Closes.settles (coherent : Coherent env p) {id : ApprovalId}
    {closing : PendingOperation → TaskEventKind} (closes : Closes p id closing after)
    (kind : ∀ pending, (closing pending).Closing id pending.operationId) (clean : NoGrant p id) :
    Settles p after where
  batches := by
    cases closes
    exact ⟨_, (World.moved_accepted _ _ _).batches⟩
  stays := by
    intro taskId state before terminal
    have revises : Revises env p .expireApprovals after.supervisor.tasks ∧ _ := closes.revises _
    exact revises.1.terminal coherent revises.2 before terminal
  ends := fun _ _ reported _ => closes.ends coherent kind clean reported
  approved := by
    intro operationId approved held
    cases closes
    exact .inl held

theorem Effect.ends (coherent : Coherent env p) {call : Call} (effect : Effect env p call after)
    (clean : ∀ id, call = .denyOperation id → NoGrant p id) {taskId : TaskId} {next : TaskState}
    (reported : after.supervisor.taskState taskId = some next)
    (terminal : next.isTerminal = true) :
    p.supervisor.taskState taskId = some next ∨ Ends p after taskId next := by
  cases effect with
  | idle quiet => exact .inl (by rw [← quiet.same]; exact reported)
  | admits admits => exact admits.ends coherent reported
  | launches _ launches =>
    obtain ⟨store, record, found, startable, appended⟩ := launches
    rcases terminal_or_owner p reported rfl rfl with same | ⟨_, rfl⟩
    · exact .inl same
    · cases terminal
  | allows notes | refuses notes =>
    cases notes
    exact .inl reported
  | asks asks =>
    cases asks
    rcases terminal_or_owner p reported rfl rfl with same | ⟨_, rfl⟩
    · exact .inl same
    · cases terminal
  | grants grants =>
    cases grants
    rcases terminal_or_owner p reported rfl rfl with same | ⟨_, rfl⟩
    · exact .inl same
    · cases terminal
  | denies denies =>
    exact denies.ends coherent (fun _ => .inr (.inl rfl)) (clean _ rfl) reported
  | forgets forgets =>
    rw [forgets.same] at reported
    exact .inl reported
  | consumes consumes =>
    cases consumes
    exact .inl reported
  | finishes _ finishes => exact finishes.ends reported

theorem Effect.settles (coherent : Coherent env p) {call : Call}
    (effect : Effect env p call after)
    (clean : ∀ id, call = .denyOperation id → NoGrant p id) : Settles p after where
  batches := by
    obtain ⟨accepted, moved⟩ := effect.moved
    exact ⟨accepted, moved.batches⟩
  stays := fun _ _ before terminal =>
    effect.revises.1.terminal coherent effect.revises.2 before terminal
  ends := fun _ _ reported terminal => effect.ends coherent clean reported terminal
  approved := by
    intro operationId approved held
    cases effect with
    | idle quiet => exact .inl (by rw [← quiet.same]; exact held)
    | admits admits => cases admits; exact .inl held
    | launches _ launches => cases launches; exact .inl held
    | allows notes | refuses notes => cases notes; exact .inl held
    | asks asks => cases asks; exact .inl held
    | grants grants =>
      obtain ⟨store, pending, record, entry, waiting, found, resumable, registered, early,
        appended⟩ := grants
      rw [OrdMap.get_insert] at held
      split at held
      · cases Option.some.inj held
        right
        simp only [TaskSupervisor.taskState, OrdMap.get_insert, ↓reduceIte]
      · exact .inl held
    | denies denies => cases denies; exact .inl held
    | forgets forgets =>
      rw [forgets.same, OrdMap.get_erase] at held
      split at held
      · cases held
      · exact .inl held
    | consumes consumes =>
      cases consumes
      rw [OrdMap.get_erase] at held
      split at held
      · cases held
      · exact .inl held
    | finishes _ finishes =>
      obtain ⟨store, record, found, allowed, terminal, appended⟩ := finishes
      rename_i taskId next failure ends
      change (p.supervisor.invalidateApprovals taskId).approvedOperations[operationId]? = _ at held
      rw [TaskSupervisor.invalidateApprovals_eq, OrdMap.get_filter] at held
      exact .inl (Option.filter_eq_some_iff.mp held).1

omit [LawfulEventStore S] in
theorem Unspent.settles (unspent : Unspent p) (settles : Settles p after) : Unspent after := by
  intro operationId approved state held reported
  by_contra terminal
  rw [Bool.not_eq_false] at terminal
  rcases settles.approved operationId approved held with old | running
  · rcases settles.ends _ state reported terminal with before | ⟨_, none⟩
    · rw [unspent operationId approved state old before] at terminal
      cases terminal
    · exact none operationId approved held rfl
  · cases Option.some.inj (reported.symm.trans running)
    cases terminal

/-- The process in the middle of a pass holds the same grants and no other requests. -/
structure Midway (p q : Process S) : Prop where
  approved : q.supervisor.approvedOperations = p.supervisor.approvedOperations
  pending : ∀ (id : ApprovalId) (pending : PendingOperation),
    q.supervisor.pendingOperations[id]? = some pending →
      p.supervisor.pendingOperations[id]? = some pending

omit [LawfulEventStore S] in
theorem Midway.noGrant {q : Process S} (midway : Midway p q) {id : ApprovalId}
    (clean : NoGrant p id) : NoGrant q id := by
  intro pending operationId approved present held
  rw [midway.approved] at held
  exact clean pending operationId approved (midway.pending id pending present) held

theorem Midway.closes {a b : Process S} (midway : Midway p a) {id : ApprovalId}
    {closing : PendingOperation → TaskEventKind} (closes : Closes a id closing b) :
    Midway p b where
  approved := by
    cases closes
    exact midway.approved
  pending := by
    intro other pending present
    rw [closes.pending_erased, OrdMap.get_erase] at present
    split at present
    · cases present
    · exact midway.pending other pending present

/-- Up to here the Task has not ended and holds what it held, or one of the batches since
`p` ended it. -/
def OpenOrEnded (p q : Process S) (taskId : TaskId) : Prop :=
  ∃ new, q.world.batches = p.world.batches ++ new ∧
    ((∀ state, q.supervisor.taskState taskId = some state → state.isTerminal = false) ∧
      (∀ (id : ApprovalId) (pending : PendingOperation),
        p.supervisor.pendingOperations[id]? = some pending → pending.taskId = taskId →
          q.supervisor.pendingOperations[id]? = some pending) ∨
    ∃ state batch, q.supervisor.taskState taskId = some state ∧ state.isTerminal = true ∧
      (taskId, batch) ∈ new ∧ ClosedBy p taskId state batch)

omit [LawfulEventStore S] in
/-- The batch that ends a Task in a later step closes what it held in `p`. -/
theorem OpenOrEnded.settles {q after : Process S} {taskId : TaskId}
    (before : OpenOrEnded p q taskId) (midway : Midway p q) (settles : Settles q after)
    {state : TaskState} (reported : after.supervisor.taskState taskId = some state)
    (terminal : state.isTerminal = true) :
    ∃ new batch, after.world.batches = p.world.batches ++ new ∧ (taskId, batch) ∈ new ∧
      ClosedBy p taskId state batch := by
  obtain ⟨new, batches, opened | ⟨old, batch, ended, final, member, closed⟩⟩ := before
  · rcases settles.ends taskId state reported terminal with same | ⟨⟨batch, more, closed⟩, _⟩
    · rw [opened.1 state same] at terminal
      cases terminal
    · refine ⟨new ++ [(taskId, batch)], batch, ?_, by simp, closed.ends, ?_, ?_⟩
      · rw [more, batches, List.append_assoc]
      · intro id pending present owner
        exact closed.requests id pending (opened.2 id pending present owner) owner
      · intro operationId approved held owner
        exact closed.grants operationId approved (midway.approved ▸ held) owner
  · obtain ⟨more, later⟩ := settles.batches
    have same := settles.stays taskId old ended final
    cases Option.some.inj (same.symm.trans reported)
    exact ⟨new ++ more, batch, by rw [later, batches, List.append_assoc],
      List.mem_append_left _ member, closed⟩

theorem Closes.fails {id : ApprovalId} {closing : PendingOperation → TaskEventKind}
    (closes : Closes p id closing after) {pending : PendingOperation}
    (present : p.supervisor.pendingOperations[id]? = some pending) :
    after.supervisor.taskState pending.taskId = some .failed := by
  obtain ⟨store, held, record, waiting, found, failable, appended⟩ := closes
  cases Option.some.inj (waiting.symm.trans present)
  simp only [TaskSupervisor.taskState, OrdMap.get_insert, ↓reduceIte]

theorem OpenOrEnded.closes {a b : Process S} {taskId : TaskId} (before : OpenOrEnded p a taskId)
    (midway : Midway p a) {id : ApprovalId} {closing : PendingOperation → TaskEventKind}
    (closes : Closes a id closing b) (settles : Settles a b) : OpenOrEnded p b taskId := by
  by_cases ends : ∃ state, b.supervisor.taskState taskId = some state ∧ state.isTerminal = true
  · obtain ⟨state, reported, terminal⟩ := ends
    obtain ⟨new, batch, batches, member, closed⟩ := before.settles midway settles reported terminal
    exact ⟨new, batches, .inr ⟨state, batch, reported, terminal, member, closed⟩⟩
  · obtain ⟨new, batches, ⟨_, held⟩ | ⟨old, _, ended, final, _⟩⟩ := before
    · obtain ⟨more, later⟩ := settles.batches
      refine ⟨new ++ more, by rw [later, batches, List.append_assoc], .inl ⟨?_, ?_⟩⟩
      · intro state reported
        by_contra terminal
        exact ends ⟨state, reported, Bool.not_eq_false _ ▸ terminal⟩
      · intro other pending present owner
        have there := held other pending present owner
        rw [closes.pending_erased, OrdMap.get_erase]
        split
        · rename_i same
          subst same
          exact absurd ⟨.failed, owner ▸ closes.fails there, rfl⟩ ends
        · exact there
    · exact absurd ⟨old, settles.stays taskId old ended final, final⟩ ends

/-- No Task that has ended holds anything, and whatever ends a Task closes what it held, in
the batch of its last transition. -/
structure EndedHoldNothing (env : Env) (permitted : Process S → Call → Prop) (p : Process S) :
    Prop where
  nothing : ∀ taskId state, p.supervisor.taskState taskId = some state →
    state.isTerminal = true →
      (∀ (id : ApprovalId) (pending : PendingOperation),
        p.supervisor.pendingOperations[id]? = some pending → pending.taskId ≠ taskId) ∧
      (∀ (operationId : OperationId) (approved : ApprovedOperation),
        p.supervisor.approvedOperations[operationId]? = some approved →
          approved.taskId ≠ taskId) ∧
      ∀ (id : ApprovalId) (entry : PendingApproval),
        p.supervisor.approvalAuthority.pending[id]? = some entry → entry.taskId ≠ taskId
  closing : ∀ call, permitted p call → ∀ taskId state,
    (∀ before, p.supervisor.taskState taskId = some before → before.isTerminal = false) →
    (call.run env p).2.supervisor.taskState taskId = some state → state.isTerminal = true →
    ∃ new batch, (call.run env p).2.world.batches = p.world.batches ++ new ∧
      (taskId, batch) ∈ new ∧ ClosedBy p taskId state batch

theorem clean_call {J : Process S → Prop} (coherent : Coherent env p) {call : Call}
    (clean : Clean env p call) {I : Process S → Prop}
    (quiet : ∀ a b, I a → Quiet a b → I b)
    (expires : ∀ a b id, Midway p a → Closes a id (expiring id) b → Settles a b → I a → I b)
    (effect : ∀ a b, Midway p a → Settles a b → I a → J b) (holds : I p) :
    J (call.run env p).2 := by
  apply call_rule (I := fun q => Midway p q ∧ I q) (J := J) coherent call
  · rintro a b ⟨midway, holds⟩ still
    refine ⟨?_, quiet a b holds still⟩
    exact ⟨by rw [still.same]; exact midway.approved, by rw [still.same]; exact midway.pending⟩
  · rintro a b id member coherent ⟨midway, holds⟩ closes
    have free := midway.noGrant (clean.noGrant (List.mem_append_left _ member))
    have settles := closes.settles coherent (fun _ => .inr (.inr rfl)) free
    exact ⟨midway.closes closes, expires a b id midway closes settles holds⟩
  · rintro a b coherent ⟨midway, holds⟩ own
    refine effect a b midway (own.settles coherent ?_) holds
    rintro id rfl
    exact midway.noGrant (clean.noGrant (List.mem_append_right _ List.mem_cons_self))
  · exact ⟨⟨rfl, fun _ _ present => present⟩, holds⟩

theorem Unspent.call (coherent : Coherent env p) (unspent : Unspent p) {call : Call}
    (clean : Clean env p call) : Unspent (call.run env p).2 := by
  apply clean_call (I := Unspent) (J := Unspent) coherent clean
  · intro a b unspent quiet
    unfold Unspent
    rw [quiet.same]
    exact unspent
  · intro a b id _ _ settles unspent
    exact unspent.settles settles
  · intro a b _ settles unspent
    exact unspent.settles settles
  · exact unspent

theorem ended_closed (coherent : Coherent env p) {call : Call} (clean : Clean env p call)
    {taskId : TaskId}
    (opened : ∀ before, p.supervisor.taskState taskId = some before → before.isTerminal = false)
    {state : TaskState} (reported : (call.run env p).2.supervisor.taskState taskId = some state)
    (terminal : state.isTerminal = true) :
    ∃ new batch, (call.run env p).2.world.batches = p.world.batches ++ new ∧
      (taskId, batch) ∈ new ∧ ClosedBy p taskId state batch := by
  revert reported
  apply clean_call (I := fun q => OpenOrEnded p q taskId)
    (J := fun q => q.supervisor.taskState taskId = some state →
      ∃ new batch, q.world.batches = p.world.batches ++ new ∧ (taskId, batch) ∈ new ∧
        ClosedBy p taskId state batch) coherent clean
  · rintro a b ⟨new, batches, rest⟩ quiet
    refine ⟨new, ?_, ?_⟩
    · rw [quiet.moved.batches, batches, List.append_nil]
    · rw [quiet.same]
      exact rest
  · intro a b id midway closes settles before
    exact before.closes midway closes settles
  · intro a b midway settles before reported
    exact before.settles midway settles reported terminal
  · exact ⟨[], by simp, .inl ⟨opened, fun _ _ present _ => present⟩⟩

theorem ended_holds_nothing (coherent : Coherent env p) (unspent : Unspent p) {taskId : TaskId}
    {state : TaskState} (known : p.supervisor.taskState taskId = some state)
    (terminal : state.isTerminal = true) :
    (∀ (id : ApprovalId) (pending : PendingOperation),
      p.supervisor.pendingOperations[id]? = some pending → pending.taskId ≠ taskId) ∧
    (∀ (operationId : OperationId) (approved : ApprovedOperation),
      p.supervisor.approvedOperations[operationId]? = some approved →
        approved.taskId ≠ taskId) ∧
    ∀ (id : ApprovalId) (entry : PendingApproval),
      p.supervisor.approvalAuthority.pending[id]? = some entry → entry.taskId ≠ taskId := by
  have requests : ∀ (id : ApprovalId) (pending : PendingOperation),
      p.supervisor.pendingOperations[id]? = some pending → pending.taskId ≠ taskId := by
    rintro id pending present rfl
    obtain ⟨record, found, live⟩ := coherent.registry.live id pending present
    rw [TaskSupervisor.taskState_of_record found] at known
    cases Option.some.inj known
    rcases live with running | waits
    · rw [running] at terminal
      cases terminal
    · rw [waits] at terminal
      cases terminal
  refine ⟨requests, ?_, ?_⟩
  · rintro operationId approved held rfl
    rw [unspent operationId approved state held known] at terminal
    cases terminal
  · intro id entry registered owner
    obtain ⟨pending, present⟩ := coherent.registry.retained id entry registered
    obtain ⟨other, same, ofTask, _⟩ := coherent.registry.registered id pending present
    cases Option.some.inj (registered.symm.trans same)
    exact requests id pending present (ofTask.symm.trans owner)

namespace Daemon

theorem Reached.unspent (fresh : Function.Injective env.uuid)
    (reached : Reached env (Clean env) (.up p)) : Unspent p := by
  refine Reached.rule fresh (I := Unspent) ?_ ?_ reached
  · intro world store maxTasks recovered operationId approved state held
    simp [TaskSupervisor.empty] at held
  · intro q call coherent unspent clean
    exact unspent.call coherent clean

/-- In runs that never deny or expire a request of a Task with an unused grant, ended Tasks
hold nothing and every end closes all that was held. -/
theorem ended_tasks_hold_nothing {env : Env} (fresh : Function.Injective env.uuid)
    {p : Process S} (reached : Reached env (Clean env) (.up p)) :
    EndedHoldNothing env (Clean env) p where
  nothing := fun _ _ known terminal =>
    ended_holds_nothing (reached.sound fresh) (reached.unspent fresh) known terminal
  closing := fun _ clean _ _ opened reported terminal =>
    ended_closed (reached.sound fresh) clean opened reported terminal

end Daemon

namespace Sample

def asksAgain : List Call :=
  [.submit spec, .start ⟨0⟩, .requestOperation ⟨0⟩ push (10 ^ 9), .approveOperation ⟨2⟩,
    .requestOperation ⟨0⟩ push (10 ^ 9)]

end Sample

set_option maxRecDepth 4000 in
/-- The Task with a grant and a request is cancelled: both are revoked. -/
theorem ended_tasks_hold_nothing_cancelled :
    (Sample.process 20 (Sample.asksAgain ++ [.cancel ⟨0⟩])).supervisor.taskState ⟨0⟩ =
      some .cancelled ∧
    EndedHoldNothing Sample.env (Clean Sample.env)
      (Sample.process 20 (Sample.asksAgain ++ [.cancel ⟨0⟩])) :=
  ⟨by decide +kernel, Daemon.ended_tasks_hold_nothing Sample.uuid_injective
    (Sample.process_reached (by decide +kernel))⟩

set_option maxRecDepth 4000 in
/-- The second request is denied: the Task has failed, its first grant is still there, and
the batch that failed it does not mention it. -/
theorem denied_task_keeps_grant :
    Daemon.Reached Sample.env Daemon.Anything
      (.up (Sample.process 20 (Sample.asksAgain ++ [.denyOperation ⟨4⟩]))) ∧
    ¬ EndedHoldNothing Sample.env Daemon.Anything
      (Sample.process 20 (Sample.asksAgain ++ [.denyOperation ⟨4⟩])) ∧
    ((Sample.process 20 (Sample.asksAgain ++ [.denyOperation ⟨4⟩])).world.attempts.getLast?.map
      Attempt.kinds) =
        some [.approvalDenied ⟨4⟩ ⟨3⟩, .stateTransitioned .waitingApproval .failed] := by
  refine ⟨Sample.process_reached (by decide), ?_, by decide +kernel⟩
  intro holds
  have failed : (Sample.process 20 (Sample.asksAgain ++ [.denyOperation ⟨4⟩])).supervisor.taskState
      ⟨0⟩ = some .failed := by decide +kernel
  have kept : ((Sample.process 20
      (Sample.asksAgain ++ [.denyOperation ⟨4⟩])).supervisor.approvedOperations[
        (⟨1⟩ : OperationId)]?).map ApprovedOperation.taskId = some ⟨0⟩ := by decide +kernel
  obtain ⟨approved, held, owner⟩ := Option.map_eq_some_iff.mp kept
  exact (holds.nothing ⟨0⟩ .failed failed rfl).2.1 ⟨1⟩ approved held owner

end AiOs
