import AiOs.Runtime.Attempts

/-! When the steps of a running Task succeed although no batch is rejected. A Task that may end
or start does so. A request that needs an approval is registered unless its Task has another
one that outlives the expiry pass, the authority stays full, or the deadline is too far away. -/
namespace AiOs

open Fallible

section undisturbed
variable {S : Type} [LawfulEventStore S] {env : Env} {p after : Process S} {taskId : TaskId}

omit [LawfulEventStore S] in
theorem disturbed_append {world : World} (same : world.attempts = p.world.attempts)
    (taskId : TaskId) (kinds : List TaskEventKind) (supervisor : TaskSupervisor S) :
    ¬ Undisturbed p ⟨world.record taskId kinds false, supervisor⟩ := by
  have rejected : (⟨taskId, kinds, false⟩ : Attempt).accepted = false := rfl
  have attempts : (world.record taskId kinds false).attempts =
      p.world.attempts ++ [] ++ [⟨taskId, kinds, false⟩] := by
    rw [World.record, same, List.append_nil]
  exact disturbed_of_rejected rejected attempts

theorem applyTransition_undisturbed {record : TaskRecord} {next : TaskState}
    (found : p.supervisor.tasks[taskId]? = some record) (terminal : next.isTerminal = true)
    (failure : Option ErrorCode) :
    Undisturbed p (exec (applyTransitionWithFailure env taskId record.state next failure) p).2 →
      (exec (applyTransitionWithFailure env taskId record.state next failure) p).1 = .ok () := by
  unfold applyTransitionWithFailure
  rw [exec_bind_ok (exec_current p)]
  apply append_rule env (P := fun out => Undisturbed p out.2 → out.1 = .ok ())
  · exact fun _ undisturbed => absurd undisturbed (disturbed_append rfl _ _ _)
  · intro store appended _
    simp only [terminal, ↓reduceIte, exec_bind, exec_update, exec_current,
      TaskSupervisor.invalidateApprovals_store, TaskSupervisor.invalidateApprovals_tasks, found]

theorem transition_undisturbed {record : TaskRecord} {next : TaskState}
    (found : p.supervisor.tasks[taskId]? = some record)
    (allowed : record.state.canTransitionTo next = true) (terminal : next.isTerminal = true)
    (undisturbed : Undisturbed p (exec (transition env taskId next) p).2) :
    (exec (transition env taskId next) p).1 = .ok () := by
  have same : exec (transition env taskId next) p =
      exec (applyTransition env taskId record.state next) p := by
    unfold transition
    rw [exec_bind_ok (exec_current p), exec_bind_ok
      (exec_okOr_found (TaskSupervisor.taskState_of_record found) _ _),
      exec_bind_ok (exec_propose_allowed allowed p)]
  rw [same] at undisturbed ⊢
  exact applyTransition_undisturbed found terminal none undisturbed

theorem failBudgetExceeded_undisturbed {record : TaskRecord}
    (found : p.supervisor.tasks[taskId]? = some record)
    (allowed : record.state.canTransitionTo .failed = true)
    (undisturbed : Undisturbed p (exec (failBudgetExceeded env taskId) p).2) :
    (exec (failBudgetExceeded env taskId) p).1 = .ok () := by
  have same : exec (failBudgetExceeded env taskId) p = exec
      (applyTransitionWithFailure env taskId record.state .failed (some .budgetExceeded)) p := by
    unfold failBudgetExceeded
    rw [exec_bind_ok (exec_current p), exec_bind_ok
      (exec_okOr_found (TaskSupervisor.taskState_of_record found) _ _),
      exec_bind_ok (exec_propose_allowed allowed p)]
  rw [same] at undisturbed ⊢
  exact applyTransition_undisturbed found rfl _ undisturbed

end undisturbed

section failable
variable {S : Type} [LawfulEventStore S] {env : Env} {p after : Process S} {taskId : TaskId}

omit [LawfulEventStore S] in
/-- The Task has ended, or the table lets it fail. -/
def Failable (p : Process S) (taskId : TaskId) : Prop :=
  ∃ state, p.supervisor.taskState taskId = some state ∧
    (state.isTerminal = true ∨ state.canTransitionTo .failed = true)

theorem failable_of_transition {state next : TaskState}
    (failable : state.isTerminal = true ∨ state.canTransitionTo .failed = true)
    (allowed : state.canTransitionTo next = true) :
    next.isTerminal = true ∨ next.canTransitionTo .failed = true := by
  have live := TaskState.not_terminal_of_transition allowed
  rw [live, TaskState.transition_to_failed] at failable
  obtain rfl | rfl := failable.resolve_left Bool.false_ne_true
  · cases next <;> simp_all [TaskState.canTransitionTo, TaskState.isTerminal]
  · cases next <;> simp_all [TaskState.canTransitionTo, TaskState.isTerminal]

theorem Effect.failable {call : Call} (orderly : Orderly env p) (effect : Effect env p call after)
    (failable : Failable p taskId) : Failable after taskId := by
  obtain ⟨revises, recovered⟩ := effect.revises
  obtain ⟨state, known, either⟩ := failable
  generalize changed : after.supervisor.tasks = tasks at revises
  have elsewhere : ∀ {other : TaskId} {record : TaskRecord}, taskId ≠ other →
      tasks = p.supervisor.tasks.insert other record → Failable after taskId := by
    intro other record distinct inserted
    exact ⟨state, (taskState_other p.supervisor (changed.trans inserted) recovered
      distinct).trans known, either⟩
  have own : ∀ {record moved : TaskRecord}, p.supervisor.tasks[taskId]? = some record →
      record.state.canTransitionTo moved.state = true →
      tasks = p.supervisor.tasks.insert taskId moved → Failable after taskId := by
    intro record moved found allowed inserted
    rw [TaskSupervisor.taskState_of_record found] at known
    cases Option.some.inj known
    exact ⟨_, taskState_own (changed.trans inserted), failable_of_transition either allowed⟩
  cases revises with
  | same =>
    refine ⟨state, ?_, either⟩
    simp only [TaskSupervisor.taskState, changed, recovered]
    exact known
  | admitted spec first submitted =>
    refine elsewhere ?_ rfl
    rintro rfl
    obtain ⟨noTask, noRecovered⟩ := orderly.unused_task
    rw [TaskSupervisor.taskState_of_recovered noTask, noRecovered] at known
    cases known
  | launched owner record start found startable =>
    by_cases same : taskId = owner
    · subst same
      exact own found startable rfl
    · exact elsewhere same rfl
  | moved owner record target found allowed resumed =>
    by_cases same : taskId = owner
    · subst same
      exact own found allowed rfl
    · exact elsewhere same rfl

theorem Orderly.call_failable (orderly : Orderly env p) (call : Call)
    (failable : Failable p taskId) : Failable (call.run env p).2 taskId := by
  refine orderly_rule orderly call (I := fun q => Failable q taskId)
    (J := fun q => Failable q taskId) ?_ ?_ ?_ failable
  · intro a b failable quiet
    rw [Failable, quiet.same]
    exact failable
  · rintro a b id _ _ ⟨state, known, either⟩ closes
    rcases closes.taskState taskId with failed | same
    · exact ⟨.failed, failed, .inl rfl⟩
    · exact ⟨state, same.trans known, either⟩
  · intro a b there failable effect
    exact effect.failable there failable

end failable

section register
variable {S : Type} {env : Env} {p : Process S} {taskId : TaskId} {request : CapabilityRequest}
  {ttl : Duration}

theorem isValidAction_of_approvalRequired {policy : CapabilityPolicy}
    (decided : policy.evaluate request = .approvalRequired) : isValidAction request.action = true := by
  cases request with
  | file path access =>
    have both : ∀ access : FileAccess, isValidAction access.action = true := by
      intro access
      cases access <;> decide
    exact both access
  | network host transport port =>
    have egress : isValidAction "network.egress" = true := by decide
    exact egress
  | tool tool action =>
    simp only [CapabilityPolicy.evaluate, CapabilityPolicy.evaluateTool] at decided
    split at decided
    · cases decided
    · rename_i valid
      rw [Bool.or_eq_true, not_or] at valid
      rw [Bool.not_eq_true', Bool.not_eq_false, Bool.not_eq_true', Bool.not_eq_false] at valid
      exact valid.2

theorem ApprovalAuthority.request_isOk {authority : ApprovalAuthority} {operationId : OperationId}
    {action : String} {now : Instant} {id : ApprovalId} (valid : isValidAction action = true)
    (limit : authority.maxTtl = defaultMaxTtl) (lower : Duration.fromMillis 1 ≤ ttl)
    (upper : ttl ≤ defaultMaxTtl)
    (unindexed : authority.operationIndex[(⟨taskId, operationId⟩ : OperationKey)]? = none) :
    (authority.request taskId operationId action ttl now id).1.isOk = true ↔
      authority.pending.size < authority.maxPending ∧ now.checkedAdd ttl ≠ none := by
  have absent : authority.operationIndex.contains ⟨taskId, operationId⟩ = false := by
    rw [Std.ExtTreeMap.contains_eq_isSome_getElem?, unindexed]
    rfl
  have whole : durationMs ttl = some (ttl / 10 ^ 6) := by
    unfold durationMs
    apply if_pos
    exact Nat.lt_of_le_of_lt (Nat.div_le_div_right upper) (by decide)
  unfold ApprovalAuthority.request
  rw [valid, limit, absent, if_neg (by simp [Nat.not_lt.mpr lower, Nat.not_lt.mpr upper]),
    if_neg Bool.false_ne_true]
  split
  · rename_i full
    exact ⟨nofun, fun room => absurd room.1 (Nat.not_lt.mpr full)⟩
  · rename_i room
    split
    · rename_i beyond
      exact ⟨nofun, fun within => absurd beyond within.2⟩
    · rename_i deadline within
      rw [whole, within]
      exact ⟨fun _ => ⟨Nat.lt_of_not_le room, nofun⟩, fun _ => rfl⟩

theorem Registry.unindexed {ids : Nat} {authority : ApprovalAuthority}
    {pendingOperations : OrdMap ApprovalId PendingOperation} {tasks : OrdMap TaskId TaskRecord}
    (registry : Registry env ids authority pendingOperations tasks)
    (free : ¬ HasPending pendingOperations taskId) (operationId : OperationId) :
    authority.operationIndex[(⟨taskId, operationId⟩ : OperationKey)]? = none := by
  cases indexed : authority.operationIndex[(⟨taskId, operationId⟩ : OperationKey)]? with
  | none => rfl
  | some id =>
    obtain ⟨entry, registered, key⟩ := (registry.indexed _ id).mp indexed
    obtain ⟨pending, retained⟩ := registry.retained id entry registered
    obtain ⟨same, there, matched⟩ := registry.registered id pending retained
    cases Option.some.inj (registered.symm.trans there)
    have owner : entry.taskId = taskId := congrArg LexPair.first key
    exact absurd ⟨id, pending, retained, matched.1.symm.trans owner⟩ free

/-- What keeps a request of a Task out of the registry. -/
def Barred (env : Env) (p : Process S) (taskId : TaskId) (ttl : Duration) : Prop :=
  HasPending p.supervisor.pendingOperations taskId ∨
    p.supervisor.approvalAuthority.maxPending ≤ p.supervisor.approvalAuthority.pending.size ∨
    (env.clock p.world.reads).checkedAdd ttl = none

variable [LawfulEventStore S]

theorem requestApproval_undisturbed (orderly : Orderly env p) {record : TaskRecord}
    (found : p.supervisor.tasks[taskId]? = some record)
    (valid : isValidAction request.action = true) (lower : Duration.fromMillis 1 ≤ ttl)
    (upper : ttl ≤ defaultMaxTtl) :
    Undisturbed p (exec (requestApproval env taskId record.state request ttl) p).2 →
      ((exec (requestApproval env taskId record.state request ttl) p).1.isOk = true ↔
        ¬ Barred env p taskId ttl) := by
  unfold requestApproval
  rw [exec_bind_ok (exec_current p)]
  apply ensure_rule (P := fun out => Undisturbed p out.2 → (out.1.isOk = true ↔
    ¬ Barred env p taskId ttl))
  · intro occupied _
    simp only [Bool.not_eq_false', List.any_eq_true, decide_eq_true_eq] at occupied
    obtain ⟨⟨id, pending⟩, member, owner⟩ := occupied
    have own : HasPending p.supervisor.pendingOperations taskId :=
      ⟨id, pending, OrdMap.mem_toList.mp member, owner⟩
    exact ⟨nofun, fun free => absurd (.inl own) free⟩
  intro unoccupied
  have free : ¬ HasPending p.supervisor.pendingOperations taskId := by
    rintro ⟨id, pending, present, owner⟩
    simp only [Bool.not_eq_true', List.any_eq_false, decide_eq_true_eq] at unoccupied
    exact unoccupied _ (OrdMap.mem_toList.mpr present) owner
  rw [exec_bind_ok (exec_newUuid env p), exec_bind_ok (exec_now env _),
    exec_bind_ok (exec_newUuid env _)]
  have registers : (p.supervisor.approvalAuthority.request taskId (askedOperation env p)
      request.action ttl (env.clock p.world.reads) (askedApproval env p)).1.isOk = true ↔ _ :=
    ApprovalAuthority.request_isOk valid orderly.registry.limit lower upper
      (orderly.registry.unindexed free (askedOperation env p))
  rcases asked : p.supervisor.approvalAuthority.request taskId (askedOperation env p)
    request.action ttl (env.clock p.world.reads) (askedApproval env p) with ⟨outcome, authority⟩
  rw [asked] at registers
  rw [exec_bind_ok (exec_withAuthority asked)]
  cases outcome with
  | error e =>
    intro _
    refine ⟨nofun, fun open_ => ?_⟩
    unfold Barred at open_
    rw [not_or, not_or, Nat.not_le] at open_
    exact absurd (registers.mpr open_.2) Bool.false_ne_true
  | ok approval =>
    have room := registers.mp rfl
    have open_ : ¬ Barred env p taskId ttl := by
      rintro (own | full | beyond)
      · exact free own
      · exact absurd room.1 (Nat.not_lt.mpr full)
      · exact room.2 beyond
    rw [exec_bind_ok (exec_approvalOr_ok _ _)]
    apply tryAppend_rule env (P := fun out => Undisturbed p out.2 → (out.1.isOk = true ↔
      ¬ Barred env p taskId ttl))
    · intro _ undisturbed
      have same : p.world.generate.tick.generate.attempts = p.world.attempts := rfl
      exact absurd undisturbed (disturbed_append same _ _ _)
    · intro events store appended _
      rw [exec_bind_ok (exec_update _ _), exec_bind_ok (exec_setState record _)]
      · exact ⟨fun _ => open_, fun _ => rfl⟩
      · exact found

/-- The policy of a Task wants an approval for a request. -/
def NeedsApproval (p : Process S) (taskId : TaskId) (request : CapabilityRequest) : Prop :=
  ∃ record, p.supervisor.tasks[taskId]? = some record ∧ ∃ valid : record.spec.Valid,
    CapabilityPolicy.evaluate ⟨record.spec, valid⟩ request = .approvalRequired

theorem requestAfterPass_undisturbed (orderly : Orderly env p) {record : TaskRecord}
    (found : p.supervisor.tasks[taskId]? = some record) (running : record.state = .running)
    (lower : Duration.fromMillis 1 ≤ ttl) (upper : ttl ≤ defaultMaxTtl) :
    Undisturbed p (exec (requestAfterPass env taskId request ttl) p).2 →
      ((exec (requestAfterPass env taskId request ttl) p).1.isOk = true ↔
        ¬ (NeedsApproval p taskId request ∧ Barred env p taskId ttl)) := by
  have valid : record.spec.Valid :=
    orderly.records.valid taskId record found (by rw [running]; exact nofun)
  have needs : NeedsApproval p taskId request ↔
      CapabilityPolicy.evaluate ⟨record.spec, valid⟩ request = .approvalRequired := by
    constructor
    · rintro ⟨other, there, _, decided⟩
      cases Option.some.inj (found.symm.trans there)
      exact decided
    · exact fun decided => ⟨record, found, valid, decided⟩
  unfold requestAfterPass
  rw [exec_bind_ok (exec_current p), exec_bind_ok (exec_okOr_found found _ _), exec_bind_ok
    (exec_propose_allowed (TaskState.transition_to_waiting.mpr running) p),
    exec_bind_ok (exec_evaluateStored valid request p), needs]
  -- a decision without an approval is only noted
  have noted : ∀ (kinds : List TaskEventKind) (answer : OperationAuthorization) {barred : Prop},
      ¬ barred → Undisturbed p (exec (appendBatch env taskId kinds >>= fun _ =>
        (pure answer : SupervisorM S OperationAuthorization)) p).2 →
      ((exec (appendBatch env taskId kinds >>= fun _ =>
        (pure answer : SupervisorM S OperationAuthorization)) p).1.isOk = true ↔ ¬ barred) := by
    intro kinds answer barred open_
    apply append_rule env (P := fun out => Undisturbed p out.2 → (out.1.isOk = true ↔ ¬ barred))
    · exact fun _ undisturbed => absurd undisturbed (disturbed_append rfl _ _ _)
    · exact fun _ _ _ => ⟨fun _ => open_, fun _ => rfl⟩
  cases decided : CapabilityPolicy.evaluate ⟨record.spec, valid⟩ request with
  | allow => exact noted _ _ (fun barred => by cases barred.1)
  | deny reason => exact noted _ _ (fun barred => by cases barred.1)
  | approvalRequired =>
    intro undisturbed
    rw [requestApproval_undisturbed orderly found (isValidAction_of_approvalRequired decided)
      lower upper undisturbed]
    exact ⟨fun open_ barred => open_ barred.2, fun open_ barred => open_ ⟨rfl, barred⟩⟩

end register

section pass
variable {S : Type} [LawfulEventStore S] {env : Env} {p mid : Process S} {taskId : TaskId}

omit [LawfulEventStore S] in
/-- The approvals that outlive the expiry pass of the next call. -/
def lasting (env : Env) (p : Process S) : List ApprovalId :=
  p.supervisor.approvalAuthority.pending.keys.filter (fun id => decide (id ∉ overdue env p))

theorem ClosesAll.limits {closed : List ApprovalId} (closes : ClosesAll p closed mid) :
    mid.supervisor.approvalAuthority.maxPending = p.supervisor.approvalAuthority.maxPending ∧
      mid.world.reads = p.world.reads := by
  induction closes with
  | nil => exact ⟨rfl, rfl⟩
  | cons first _ ih =>
    obtain ⟨store, pending, record, waiting, found, failable, appended⟩ := first
    exact ⟨ih.1.trans (ApprovalAuthority.remove_limits _ _).1, ih.2⟩

theorem passed_request (orderly : Orderly env p) {count : Nat}
    (passed : exec (expireApprovals env) p = (.ok count, mid)) (id : ApprovalId) :
    (id ∈ overdue env p → mid.supervisor.pendingOperations[id]? = none) ∧
      (id ∉ overdue env p → Untouched p mid id) := by
  obtain ⟨closed, leads, _, gone⟩ := expireApprovals_ok env p passed
  refine ⟨gone id, fun kept => ?_⟩
  rcases pass_processed orderly leads id with untouched | ⟨expired, _⟩
  · exact untouched
  · exact absurd expired kept

theorem passed_size (orderly : Orderly env p) {count : Nat}
    (passed : exec (expireApprovals env) p = (.ok count, mid)) :
    mid.supervisor.approvalAuthority.pending.size = (lasting env p).length := by
  have there := orderly.passed env p passed
  have same : ∀ id, id ∈ mid.supervisor.approvalAuthority.pending.keys ↔ id ∈ lasting env p := by
    intro id
    rw [lasting, List.mem_filter, decide_eq_true_eq, Std.ExtTreeMap.mem_keys,
      Std.ExtTreeMap.mem_keys, OrdMap.mem_iff, OrdMap.mem_iff]
    constructor
    · rintro ⟨entry, registered⟩
      obtain ⟨pending, retained⟩ := there.registry.retained id entry registered
      have kept : id ∉ overdue env p := by
        intro late
        rw [(passed_request orderly passed id).1 late] at retained
        cases retained
      have untouched := (passed_request orderly passed id).2 kept
      exact ⟨⟨entry, untouched.registered.symm.trans registered⟩, kept⟩
    · rintro ⟨⟨entry, registered⟩, kept⟩
      have untouched := (passed_request orderly passed id).2 kept
      exact ⟨entry, untouched.registered.trans registered⟩
  have both := (List.perm_ext_iff_of_nodup Std.ExtTreeMap.nodup_keys
    (Std.ExtTreeMap.nodup_keys.filter _)).mpr same
  rw [← Std.ExtTreeMap.length_keys]
  exact both.length_eq

/-- A Task has a request after the pass when it had one that is not overdue. -/
theorem passed_hasPending (orderly : Orderly env p) {count : Nat}
    (passed : exec (expireApprovals env) p = (.ok count, mid)) :
    HasPending mid.supervisor.pendingOperations taskId ↔
      ∃ id ∈ p.supervisor.pendingIds taskId, id ∉ overdue env p := by
  constructor
  · rintro ⟨id, pending, present, owner⟩
    have kept : id ∉ overdue env p := by
      intro late
      rw [(passed_request orderly passed id).1 late] at present
      cases present
    have untouched := (passed_request orderly passed id).2 kept
    exact ⟨id, TaskSupervisor.mem_pendingIds.mpr
      ⟨pending, untouched.pending.symm.trans present, owner⟩, kept⟩
  · rintro ⟨id, member, kept⟩
    obtain ⟨pending, present, owner⟩ := TaskSupervisor.mem_pendingIds.mp member
    have untouched := (passed_request orderly passed id).2 kept
    exact ⟨id, pending, untouched.pending.trans present, owner⟩

/-- The pass fails a Task whose request is overdue, and leaves a Task without one. -/
theorem passed_task (orderly : Orderly env p) {count : Nat}
    (passed : exec (expireApprovals env) p = (.ok count, mid)) :
    ((∃ id ∈ p.supervisor.pendingIds taskId, id ∈ overdue env p) →
      ∃ record, mid.supervisor.tasks[taskId]? = some record ∧ record.state = .failed) ∧
    ((∀ id ∈ p.supervisor.pendingIds taskId, id ∉ overdue env p) →
      mid.supervisor.tasks[taskId]? = p.supervisor.tasks[taskId]?) := by
  obtain ⟨closed, leads, _, gone⟩ := expireApprovals_ok env p passed
  constructor
  · rintro ⟨id, member, late⟩
    obtain ⟨pending, present, owner⟩ := TaskSupervisor.mem_pendingIds.mp member
    rcases pass_processed orderly leads id with untouched | ⟨_, processed⟩
    · have closed := untouched.pending.symm.trans (gone id late)
      rw [present] at closed
      cases closed
    · obtain ⟨other, record, there, found, _, _, failed, _⟩ := processed
      cases Option.some.inj (present.symm.trans there)
      rw [owner] at failed
      exact ⟨_, failed, rfl⟩
  · intro kept
    have foreign : ∀ id ∈ closed, ∀ pending,
        p.ticked.supervisor.pendingOperations[id]? = some pending → pending.taskId ≠ taskId := by
      intro id member pending present owner
      exact kept id (TaskSupervisor.mem_pendingIds.mpr ⟨pending, present, owner⟩)
        (leads.1.subset member)
    exact (leads.2.sameTask foreign).record

/-- A request that is refused while its Task keeps running: the policy wants an approval, and
the Task has one that is not overdue, or it has none and there is no place or no deadline for
another. -/
def Strands (env : Env) (p : Process S) (taskId : TaskId) (request : CapabilityRequest)
    (ttl : Duration) : Prop :=
  NeedsApproval p taskId request ∧
    ((∃ id ∈ p.supervisor.pendingIds taskId, id ∉ overdue env p) ∨
      p.supervisor.pendingIds taskId = [] ∧
        (p.supervisor.approvalAuthority.maxPending ≤ (lasting env p).length ∨
          (env.clock (p.world.reads + 1)).checkedAdd ttl = none))

/-- How a request of a running Task ends when no batch is rejected. -/
def Resolves (env : Env) (p : Process S) (taskId : TaskId) (request : CapabilityRequest)
    (ttl : Duration) : Except Stop OperationAuthorization × Process S → Prop
  | (.ok (.approvalRequired _), _) => ¬ Strands env p taskId request ttl
  | (.ok _, after) => ¬ Strands env p taskId request ttl ∧
      after.supervisor.taskState taskId = some .running
  | (.error stop, after) => stop.IsError ∧ (Strands env p taskId request ttl ∧
      after.supervisor.taskState taskId = some .running ∨
    ¬ Strands env p taskId request ttl ∧ after.supervisor.taskState taskId = some .failed)

variable {request : CapabilityRequest} {ttl : Duration}

omit [LawfulEventStore S] in
/-- The Task whose request is overdue has no other one. -/
theorem not_strands_of_overdue (orderly : Orderly env p)
    (late : ∃ id ∈ p.supervisor.pendingIds taskId, id ∈ overdue env p) :
    ¬ Strands env p taskId request ttl := by
  obtain ⟨id, member, late⟩ := late
  rintro ⟨_, ⟨other, among, kept⟩ | ⟨none, _⟩⟩
  · obtain ⟨pending, present, owner⟩ := TaskSupervisor.mem_pendingIds.mp member
    obtain ⟨held, there, same⟩ := TaskSupervisor.mem_pendingIds.mp among
    have one := orderly.registry.single id other pending held present there
      (owner.trans same.symm)
    exact kept (one ▸ late)
  · rw [none] at member
    cases member

theorem strands_iff_barred (orderly : Orderly env p) {count : Nat}
    (passed : exec (expireApprovals env) p = (.ok count, mid))
    (inTime : ∀ id ∈ p.supervisor.pendingIds taskId, id ∉ overdue env p) :
    Strands env p taskId request ttl ↔
      NeedsApproval mid taskId request ∧ Barred env mid taskId ttl := by
  obtain ⟨closed, leads, _⟩ := expireApprovals_ok env p passed
  have limits := leads.2.limits
  have reads : mid.world.reads = p.world.reads + 1 := limits.2
  have limit : mid.supervisor.approvalAuthority.maxPending =
      p.supervisor.approvalAuthority.maxPending := limits.1
  unfold Strands Barred NeedsApproval
  rw [(passed_task orderly passed).2 inTime, passed_hasPending orderly passed,
    passed_size orderly passed, limit, reads]
  refine and_congr_right fun _ => ⟨?_, ?_⟩
  · exact fun barred => barred.imp id And.right
  · rintro (own | room)
    · exact .inl own
    · cases own : p.supervisor.pendingIds taskId with
      | nil => exact .inr ⟨rfl, room⟩
      | cons id rest =>
        have member : id ∈ p.supervisor.pendingIds taskId := by
          rw [own]
          exact List.mem_cons_self
        exact .inl ⟨id, List.mem_cons_self, inTime id member⟩

theorem requestOperation_resolves (orderly : Orderly env p)
    (running : p.supervisor.taskState taskId = some .running)
    (lower : Duration.fromMillis 1 ≤ ttl) (upper : ttl ≤ defaultMaxTtl)
    (undisturbed : Undisturbed p (exec (requestOperation env taskId request ttl) p).2) :
    Resolves env p taskId request ttl (exec (requestOperation env taskId request ttl) p) := by
  have sane := requestOperation_sane orderly taskId request ttl
  obtain ⟨record, found, state⟩ := record_of_open p orderly.recoveredTerminal running rfl
  unfold requestOperation at undisturbed sane ⊢
  rcases passed : exec (expireApprovals env) p with ⟨stop | count, mid⟩
  · rw [exec_bind_error passed] at undisturbed
    obtain ⟨_, _, _, _, _, made, attempt, rejected, attempts⟩ :=
      expireApprovals_rejected orderly passed
    exact absurd undisturbed (disturbed_of_rejected rejected attempts)
  rw [exec_bind_ok passed] at undisturbed sane ⊢
  have there := orderly.passed env p passed
  by_cases late : ∃ id ∈ p.supervisor.pendingIds taskId, id ∈ overdue env p
  · obtain ⟨ended, now, failed⟩ := (passed_task orderly passed).1 late
    have refused : ended.state.canTransitionTo .waitingApproval = false := by
      rw [failed]
      rfl
    have stops : exec (requestAfterPass env taskId request ttl) mid =
        (.error (.err (.invalidStateTransition ⟨ended.state, .waitingApproval⟩)), mid) := by
      unfold requestAfterPass
      rw [exec_bind_ok (exec_current mid), exec_bind_ok (exec_okOr_found now _ _),
        exec_bind_error (exec_propose_refused refused mid)]
    rw [stops]
    refine ⟨trivial, .inr ⟨not_strands_of_overdue orderly late, ?_⟩⟩
    rw [TaskSupervisor.taskState_of_record now, failed]
  · have inTime : ∀ id ∈ p.supervisor.pendingIds taskId, id ∉ overdue env p :=
      fun id member expired => late ⟨id, member, expired⟩
    have still := ((passed_task orderly passed).2 inTime).trans found
    have first : p.world.attempts <+: mid.world.attempts := by
      have kept : Attempted p.world.attempts (exec (expireApprovals env) p).2 :=
        attempted_expireApprovals p (List.prefix_refl p.world.attempts)
      rw [passed] at kept
      exact kept
    have second : Attempted mid.world.attempts
        (exec (requestAfterPass env taskId request ttl) mid).2 :=
      attempted_requestAfterPass taskId request ttl mid (List.prefix_refl mid.world.attempts)
    have answers := requestAfterPass_undisturbed there still state lower upper
      (undisturbed.split first second).2
    rw [← strands_iff_barred orderly passed inTime] at answers
    have effect := requestAfterPass_cases env mid there.authorityReady taskId request ttl
    generalize exec (requestAfterPass env taskId request ttl) mid = out at answers effect sane ⊢
    obtain ⟨stop | answer, after⟩ := out
    · have quiet : Quiet mid after := effect
      refine ⟨sane stop rfl, .inl ⟨?_, ?_⟩⟩
      · by_contra open_
        exact absurd (answers.mpr open_) Bool.false_ne_true
      · rw [quiet.same, TaskSupervisor.taskState_of_record still, state]
    · have open_ := answers.mp rfl
      cases effect with
      | allowed noted | denied noted =>
        obtain ⟨store, _, _, _, _, _, _⟩ := noted
        exact ⟨open_, (TaskSupervisor.taskState_of_record still).trans (congrArg some state)⟩
      | asked _ _ => exact open_

end pass

end AiOs
