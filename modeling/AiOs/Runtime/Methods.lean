import AiOs.Runtime.Steps

/-! One case lemma for each method: a method either stops with nothing done, or it has
exactly the effect of its name. The methods with an expiry pass describe their cases from
the process that the pass leaves. -/
namespace AiOs

open Fallible

variable {S : Type}

namespace TaskSupervisor

theorem foldl_dropPending (ids : List ApprovalId) (s : TaskSupervisor S) :
    (ids.foldl dropPending s) = { s with
      approvalAuthority := ids.foldl (fun a id => (a.remove id).2) s.approvalAuthority
      pendingOperations := ids.foldl (fun m id => m.erase id) s.pendingOperations } := by
  induction ids generalizing s with
  | nil => rfl
  | cons id rest ih =>
    rw [List.foldl_cons, ih]
    rfl

theorem invalidateApprovals_eq (s : TaskSupervisor S) (taskId : TaskId) :
    s.invalidateApprovals taskId = { s with
      approvalAuthority :=
        (s.pendingIds taskId).foldl (fun a id => (a.remove id).2) s.approvalAuthority
      pendingOperations := (s.pendingIds taskId).foldl (fun m id => m.erase id) s.pendingOperations
      approvedOperations :=
        s.approvedOperations.filter (fun _ operation => decide (operation.taskId ≠ taskId)) } := by
  simp only [invalidateApprovals, foldl_dropPending]

theorem invalidateApprovals_store (s : TaskSupervisor S) (store : S) (taskId : TaskId) :
    ({ s with eventStore := store } : TaskSupervisor S).invalidateApprovals taskId =
      { s.invalidateApprovals taskId with eventStore := store } := by
  rw [invalidateApprovals_eq, invalidateApprovals_eq]
  rfl

theorem invalidateApprovals_tasks (s : TaskSupervisor S) (taskId : TaskId) :
    (s.invalidateApprovals taskId).tasks = s.tasks := by
  rw [invalidateApprovals_eq]

theorem mem_pendingIds {s : TaskSupervisor S} {taskId : TaskId} {id : ApprovalId} :
    id ∈ s.pendingIds taskId ↔
      ∃ pending, s.pendingOperations[id]? = some pending ∧ pending.taskId = taskId := by
  simp only [pendingIds, List.mem_filterMap, OrdMap.mem_toList_pair]
  constructor
  · rintro ⟨⟨other, pending⟩, present, selected⟩
    split at selected
    · rename_i owner
      cases Option.some.inj selected
      exact ⟨pending, present, owner⟩
    · cases selected
  · rintro ⟨pending, present, owner⟩
    exact ⟨(id, pending), present, if_pos owner⟩

theorem taskState_of_record {s : TaskSupervisor S} {taskId : TaskId} {record : TaskRecord}
    (found : s.tasks[taskId]? = some record) : s.taskState taskId = some record.state := by
  simp only [taskState, found]

theorem taskState_of_recovered {s : TaskSupervisor S} {taskId : TaskId}
    (missing : s.tasks[taskId]? = none) : s.taskState taskId = s.recoveredTasks[taskId]? := by
  simp only [taskState, missing]

end TaskSupervisor

/-- Recovery never leaves a Task that could still move. -/
def RecoveredTerminal (s : TaskSupervisor S) : Prop :=
  ∀ (taskId : TaskId) (state : TaskState), s.recoveredTasks[taskId]? = some state →
    state.isTerminal = true

/-- What the two rollback paths rely on: the authority's maps invert each other, the
lifetime limit is the default one, and no future identifier is registered yet. -/
structure AuthorityReady (env : Env) (p : Process S) : Prop where
  indexed : p.supervisor.approvalAuthority.Indexed
  limit : p.supervisor.approvalAuthority.maxTtl = defaultMaxTtl
  fresh : ∀ i, p.world.ids ≤ i →
    p.supervisor.approvalAuthority.pending[(⟨env.uuid i⟩ : ApprovalId)]? = none

theorem Quiet.refl (p : Process S) : Quiet p p := ⟨rfl, World.Moved.refl _⟩

theorem quiet_rejected (p : Process S) (taskId : TaskId) (kinds : List TaskEventKind) :
    Quiet p ⟨p.world.record taskId kinds false, p.supervisor⟩ :=
  ⟨rfl, World.moved_rejected _ _ _⟩

/-- The process at the start of a pass. -/
def Process.ticked (p : Process S) : Process S := ⟨p.world.tick, p.supervisor⟩

theorem quiet_ticked (p : Process S) : Quiet p p.ticked := ⟨rfl, World.moved_tick _⟩

/-- A method that stopped has done nothing; one that returned has had an effect. -/
def StopsOr {α : Type} (p : Process S) (effect : α → Process S → Prop) :
    Except Stop α × Process S → Prop
  | (.error _, after) => Quiet p after
  | (.ok value, after) => effect value after

/-- A transition that the table allows is one of a Task the supervisor runs: recovered
Tasks are terminal. -/
theorem record_of_open (p : Process S) (recovered : RecoveredTerminal p.supervisor) {taskId : TaskId}
    {state : TaskState} (known : p.supervisor.taskState taskId = some state)
    (live : state.isTerminal = false) :
    ∃ record, p.supervisor.tasks[taskId]? = some record ∧ record.state = state := by
  cases found : p.supervisor.tasks[taskId]? with
  | some record =>
    rw [TaskSupervisor.taskState_of_record found] at known
    exact ⟨record, rfl, Option.some.inj known⟩
  | none =>
    rw [TaskSupervisor.taskState_of_recovered found] at known
    rw [recovered taskId state known] at live
    cases live

variable [LawfulEventStore S] (env : Env) (p : Process S)

theorem submit_cases (spec : TaskSpec) :
    StopsOr p (fun result after =>
      ((∃ task, result = .existing task) ∧ after = p) ∨
        (result = submitResult ⟨⟨env.uuid p.world.ids⟩, (submissionEvents spec.validate).1⟩
          spec.validate ∧ Admits env p spec after))
      (exec (submit env spec) p) := by
  unfold submit
  rw [exec_bind_ok (exec_current p)]
  split
  · apply okOr_rule
    · exact fun _ => Quiet.refl p
    · intro existing found
      apply ensure_rule
      · exact fun _ => Quiet.refl p
      · exact fun _ => .inl ⟨⟨_, rfl⟩, rfl⟩
  · rename_i unused
    apply ensure_rule
    · exact fun _ => Quiet.refl p
    · intro room
      rw [exec_bind_ok (exec_newUuid env p)]
      apply append_rule env
      · exact fun _ => ⟨rfl, (World.moved_generate _).trans (World.moved_rejected _ _ _)⟩
      · exact fun store appended =>
          .inr ⟨rfl, .mk store unused (of_decide_eq_true room) appended⟩

/-- The shared tail of every terminal transition, for a Task the supervisor runs. -/
theorem applyTransition_cases {taskId : TaskId} {record : TaskRecord}
    (found : p.supervisor.tasks[taskId]? = some record) {next : TaskState}
    (allowed : record.state.canTransitionTo next = true) (terminal : next.isTerminal = true)
    (failure : Option ErrorCode) :
    StopsOr p (fun _ after => Finishes p taskId next failure after)
      (exec (applyTransitionWithFailure env taskId record.state next failure) p) := by
  unfold applyTransitionWithFailure
  rw [exec_bind_ok (exec_current p)]
  apply append_rule env
  · exact fun _ => quiet_rejected p _ _
  · intro store appended
    simp only [terminal, ↓reduceIte] at appended ⊢
    simp only [exec_bind, exec_update, exec_current, TaskSupervisor.invalidateApprovals_store,
      TaskSupervisor.invalidateApprovals_tasks, found]
    exact Finishes.mk store record found allowed terminal appended

theorem transition_cases (recovered : RecoveredTerminal p.supervisor) (taskId : TaskId)
    {next : TaskState} (terminal : next.isTerminal = true) :
    StopsOr p (fun _ after => Finishes p taskId next none after)
      (exec (transition env taskId next) p) := by
  unfold transition
  rw [exec_bind_ok (exec_current p)]
  apply okOr_rule
  · exact fun _ => Quiet.refl p
  · intro state known
    apply propose_rule
    · exact fun _ => Quiet.refl p
    · intro allowed
      obtain ⟨record, found, rfl⟩ := record_of_open p recovered known
        (TaskState.not_terminal_of_transition allowed)
      exact applyTransition_cases env p found allowed terminal none

theorem succeed_cases (recovered : RecoveredTerminal p.supervisor) (taskId : TaskId) :
    StopsOr p (fun _ after => Finishes p taskId .succeeded none after)
      (exec (succeed env taskId) p) :=
  transition_cases env p recovered taskId rfl

theorem failTask_cases (recovered : RecoveredTerminal p.supervisor) (taskId : TaskId) :
    StopsOr p (fun _ after => Finishes p taskId .failed none after)
      (exec (failTask env taskId) p) :=
  transition_cases env p recovered taskId rfl

theorem failBudgetExceeded_cases (recovered : RecoveredTerminal p.supervisor) (taskId : TaskId) :
    StopsOr p (fun _ after => Finishes p taskId .failed (some .budgetExceeded) after)
      (exec (failBudgetExceeded env taskId) p) := by
  unfold failBudgetExceeded
  rw [exec_bind_ok (exec_current p)]
  apply okOr_rule
  · exact fun _ => Quiet.refl p
  · intro state known
    apply propose_rule
    · exact fun _ => Quiet.refl p
    · intro allowed
      obtain ⟨record, found, rfl⟩ := record_of_open p recovered known
        (TaskState.not_terminal_of_transition allowed)
      exact applyTransition_cases env p found allowed rfl _

theorem cancel_cases (recovered : RecoveredTerminal p.supervisor) (taskId : TaskId) :
    StopsOr p (fun changed after =>
      (changed = false ∧ after = p) ∨ (changed = true ∧ Finishes p taskId .cancelled none after))
      (exec (cancel env taskId) p) := by
  unfold cancel
  rw [exec_bind_ok (exec_current p)]
  apply okOr_rule
  · exact fun _ => Quiet.refl p
  · intro state known
    split
    · exact .inl ⟨rfl, rfl⟩
    · rename_i notTerminal
      have live : state.isTerminal = false := Bool.eq_false_iff.mpr notTerminal
      obtain ⟨record, found, rfl⟩ := record_of_open p recovered known live
      have applied : StopsOr p (fun _ after => Finishes p taskId .cancelled none after)
          (exec (applyTransition env taskId record.state .cancelled) p) :=
        applyTransition_cases env p found (TaskState.transition_to_cancelled.mpr live) rfl none
      apply bind_rule
      · intro stop after h
        rw [h] at applied
        exact applied
      · intro _ after h
        rw [h] at applied
        exact .inr ⟨rfl, applied⟩

/-- A start is a launch of a queued Task or, through the same edge, of a waiting one. -/
theorem start_cases (recovered : RecoveredTerminal p.supervisor) (taskId : TaskId) :
    StopsOr p (fun _ after => Launches env p taskId after) (exec (start env taskId) p) := by
  unfold start transition
  rw [bind_assoc, exec_bind_ok (exec_current p), bind_assoc]
  apply okOr_rule
  · exact fun _ => Quiet.refl p
  · intro state known
    rw [bind_assoc]
    apply propose_rule
    · exact fun _ => Quiet.refl p
    · intro allowed
      obtain ⟨record, found, rfl⟩ := record_of_open p recovered known
        (TaskState.not_terminal_of_transition allowed)
      unfold applyTransition applyTransitionWithFailure
      rw [bind_assoc, exec_bind_ok (exec_current p), bind_assoc]
      apply append_rule env
      · exact fun _ => quiet_rejected p _ _
      · intro store appended
        simp only [TaskState.isTerminal, Bool.false_eq_true, ↓reduceIte, exec_bind, exec_update,
          exec_current, found, exec_now, Std.ExtTreeMap.getElem?_insert_self, exec_okOr_some]
        have twice : ∀ first second : TaskRecord,
            (p.supervisor.tasks.insert taskId first).insert taskId second =
              p.supervisor.tasks.insert taskId second := by
          intro first second
          apply OrdMap.ext
          intro other
          simp only [OrdMap.get_insert]
          split <;> rfl
        rw [twice]
        exact Launches.mk store record found allowed appended

theorem startExecution_cases (recovered : RecoveredTerminal p.supervisor) (taskId : TaskId) :
    StopsOr p (fun _ after => Launches env p taskId after)
      (exec (startExecution env taskId) p) := by
  unfold startExecution
  rw [exec_bind_ok (exec_current p)]
  apply okOr_rule
  · exact fun _ => Quiet.refl p
  · intro record found
    have started := start_cases env p recovered taskId
    apply bind_rule
    · intro stop after h
      rw [h] at started
      exact started
    · intro _ after h
      rw [h] at started
      exact started

/-- Denial and expiry share these steps. -/
theorem closePending_cases {id : ApprovalId} {pending : PendingOperation}
    (waiting : p.supervisor.pendingOperations[id]? = some pending)
    (closing : PendingOperation → TaskEventKind) :
    StopsOr p (fun _ after => Closes p id closing after)
      (exec (closePending env id pending (closing pending)) p) := by
  unfold closePending
  rw [exec_bind_ok (exec_current p)]
  apply okOr_rule
  · exact fun _ => Quiet.refl p
  · intro record found
    apply propose_rule
    · exact fun _ => Quiet.refl p
    · intro failable
      apply append_rule env
      · exact fun _ => quiet_rejected p _ _
      · intro store appended
        rw [exec_bind_ok (exec_update _ _), exec_setState record]
        · exact Closes.mk store pending record waiting found failable appended
        · exact found

/-- Expired requests that close one after the other. -/
inductive ClosesAll : Process S → List ApprovalId → Process S → Prop where
  | nil (p : Process S) : ClosesAll p [] p
  | cons {p mid after : Process S} {id : ApprovalId} {rest : List ApprovalId}
      (first : Closes p id (expiring id) mid) (others : ClosesAll mid rest after) :
      ClosesAll p (id :: rest) after

/-- A pass over `ids` closes some of them in order. It ends early when one cannot close,
and otherwise leaves none of them pending. -/
def PassEnds (p : Process S) (ids : List ApprovalId) (count : Nat) :
    Except Stop Nat × Process S → Prop
  | (.error _, after) =>
    ∃ closed mid, closed.Sublist ids ∧ ClosesAll p closed mid ∧ Quiet mid after
  | (.ok total, after) =>
    ∃ closed, closed.Sublist ids ∧ ClosesAll p closed after ∧ total = count + closed.length ∧
      ∀ id ∈ ids, after.supervisor.pendingOperations[id]? = none

theorem Closes.pending_erased {p after : Process S} {id : ApprovalId}
    {closing : PendingOperation → TaskEventKind} (closes : Closes p id closing after) :
    after.supervisor.pendingOperations = p.supervisor.pendingOperations.erase id := by
  cases closes
  rfl

theorem ClosesAll.still_closed {p after : Process S} {ids : List ApprovalId}
    (closes : ClosesAll p ids after) {id : ApprovalId}
    (gone : p.supervisor.pendingOperations[id]? = none) :
    after.supervisor.pendingOperations[id]? = none := by
  induction closes with
  | nil => exact gone
  | cons first _ ih =>
    apply ih
    rw [first.pending_erased, OrdMap.get_erase, gone]
    exact ite_self _

theorem expireLoop_cases (ids : List ApprovalId) (count : Nat) :
    PassEnds p ids count (exec (expireLoop env ids count) p) := by
  induction ids generalizing p count with
  | nil =>
    rw [expireLoop, exec_pure]
    exact ⟨[], List.Sublist.slnil, .nil p, rfl, fun _ h => by cases h⟩
  | cons id rest ih =>
    rw [expireLoop, exec_bind_ok (exec_current p)]
    split
    · rename_i gone
      have tail := ih p count
      generalize exec (expireLoop env rest count) p = out at tail ⊢
      obtain ⟨result, after⟩ := out
      cases result with
      | error stop =>
        obtain ⟨closed, mid, among, closes, quiet⟩ := tail
        exact ⟨closed, mid, among.cons id, closes, quiet⟩
      | ok total =>
        obtain ⟨closed, among, closes, sum, none⟩ := tail
        refine ⟨closed, among.cons id, closes, sum, ?_⟩
        intro other member
        rcases List.mem_cons.mp member with rfl | member
        · exact closes.still_closed gone
        · exact none other member
    · rename_i pending waiting
      have head := closePending_cases env p waiting (expiring id)
      apply bind_rule
      · intro stop after h
        rw [expiring, h] at head
        exact ⟨[], p, List.nil_sublist _, .nil p, head⟩
      · intro _ mid h
        rw [expiring, h] at head
        have first : Closes p id (expiring id) mid := head
        have tail := ih mid (count + 1)
        generalize exec (expireLoop env rest (count + 1)) mid = out at tail ⊢
        obtain ⟨result, after⟩ := out
        cases result with
        | error stop =>
          obtain ⟨closed, last, among, closes, quiet⟩ := tail
          exact ⟨id :: closed, last, among.cons_cons id, .cons first closes, quiet⟩
        | ok total =>
          obtain ⟨closed, among, closes, sum, none⟩ := tail
          refine ⟨id :: closed, among.cons_cons id, .cons first closes, ?_, ?_⟩
          · rw [sum, List.length_cons]
            omega
          · intro other member
            rcases List.mem_cons.mp member with rfl | member
            · apply closes.still_closed
              rw [first.pending_erased, OrdMap.get_erase, if_pos rfl]
            · exact none other member

/-- The identifiers of a request that the authority has registered. -/
def askedRequest (taskId : TaskId) (approval : ApprovalRequest) : Prop :=
  approval.approvalId = askedApproval env p ∧ approval.taskId = taskId ∧
    approval.operationId = askedOperation env p

theorem requestApproval_cases (ready : AuthorityReady env p) {taskId : TaskId}
    {record : TaskRecord} (found : p.supervisor.tasks[taskId]? = some record)
    (running : record.state = .running) (valid : record.spec.Valid) {request : CapabilityRequest}
    (decided : CapabilityPolicy.evaluate ⟨record.spec, valid⟩ request = .approvalRequired)
    (ttl : Duration) :
    StopsOr p (fun result after =>
      ∃ approval, result = .approvalRequired approval ∧ askedRequest env p taskId approval ∧
        Asks env p taskId request ttl after)
      (exec (requestApproval env taskId record.state request ttl) p) := by
  unfold requestApproval
  rw [running, exec_bind_ok (exec_current p)]
  apply ensure_rule
  · exact fun _ => Quiet.refl p
  intro unoccupied
  have single : ∀ (id : ApprovalId) (pending : PendingOperation),
      p.supervisor.pendingOperations[id]? = some pending → pending.taskId ≠ taskId := by
    intro id pending present same
    have member := OrdMap.mem_toList.mpr present
    simp only [Bool.not_eq_true', List.any_eq_false, decide_eq_true_eq] at unoccupied
    exact unoccupied _ member same
  rw [exec_bind_ok (exec_newUuid env p), exec_bind_ok (exec_now env _),
    exec_bind_ok (exec_newUuid env _)]
  have passed : World.Moved p.world p.world.generate.tick.generate [] :=
    ((World.moved_generate _).trans (World.moved_tick _)).trans (World.moved_generate _)
  rcases asked : p.supervisor.approvalAuthority.request taskId (askedOperation env p)
    request.action ttl (env.clock p.world.reads) (askedApproval env p) with ⟨outcome, authority⟩
  rw [exec_bind_ok (exec_withAuthority asked)]
  cases outcome with
  | error e =>
    have same := ApprovalAuthority.request_error (ready.limit ▸ by decide) asked
    subst same
    exact ⟨rfl, passed⟩
  | ok approval =>
    obtain ⟨unindexed, room, ofId, ofTask, ofOperation, inserted⟩ :=
      ApprovalAuthority.request_ok asked
    subst inserted
    rw [exec_bind_ok (exec_approvalOr_ok _ _), ofId]
    apply tryAppend_rule env
    · intro e
      let entry : PendingApproval :=
        ⟨taskId, askedOperation env p, request.action, env.clock p.world.reads + ttl⟩
      have newKey : p.supervisor.approvalAuthority.operationIndex[entry.key]? = none := unindexed
      have restored := ApprovalAuthority.remove_insert
        (ready.fresh (p.world.ids + 1) (Nat.le_succ _)) newKey
      refine ⟨?_, passed.trans (World.moved_rejected _ _ _)⟩
      exact congrArg (fun a => { p.supervisor with approvalAuthority := a }) restored
    · intro events store appended
      rw [exec_bind_ok (exec_update _ _), exec_bind_ok (exec_setState record _)]
      · refine ⟨approval, rfl, ⟨ofId, ofTask, ofOperation⟩, ?_⟩
        exact Asks.mk store record found running valid decided single unindexed room appended
      · exact found

/-- What a decided request has done, for each answer. -/
inductive Decides (taskId : TaskId) (request : CapabilityRequest) (ttl : Duration) :
    OperationAuthorization → Process S → Prop where
  | allowed {after : Process S}
      (noted : Notes p taskId request .allow .operationAllowed after) :
      Decides taskId request ttl .allowed after
  | denied {reason : DenialReason} {after : Process S}
      (noted : Notes p taskId request (.deny reason) (.operationDenied reason) after) :
      Decides taskId request ttl (.denied reason) after
  | asked {approval : ApprovalRequest} {after : Process S}
      (ids : askedRequest env p taskId approval) (asks : Asks env p taskId request ttl after) :
      Decides taskId request ttl (.approvalRequired approval) after

theorem requestAfterPass_cases (ready : AuthorityReady env p) (taskId : TaskId)
    (request : CapabilityRequest) (ttl : Duration) :
    StopsOr p (fun result after => Decides env p taskId request ttl result after)
      (exec (requestAfterPass env taskId request ttl) p) := by
  unfold requestAfterPass
  rw [exec_bind_ok (exec_current p)]
  apply okOr_rule
  · exact fun _ => Quiet.refl p
  intro record found
  apply propose_rule
  · exact fun _ => Quiet.refl p
  intro allowed
  have running := TaskState.transition_to_waiting.mp allowed
  apply evaluate_rule
  · exact fun _ => Quiet.refl p
  intro valid
  cases decided : CapabilityPolicy.evaluate ⟨record.spec, valid⟩ request with
  | allow =>
    apply append_rule env
    · exact fun _ => quiet_rejected p _ _
    · exact fun store appended => .allowed (.mk store record found running valid decided appended)
  | deny reason =>
    apply append_rule env
    · exact fun _ => quiet_rejected p _ _
    · exact fun store appended => .denied (.mk store record found running valid decided appended)
  | approvalRequired =>
    have asks := requestApproval_cases env p ready found running valid decided ttl
    dsimp only
    generalize exec (requestApproval env taskId record.state request ttl) p = out at asks ⊢
    obtain ⟨result, after⟩ := out
    cases result with
    | error stop => exact asks
    | ok result =>
      obtain ⟨approval, rfl, ids, asks⟩ := asks
      exact .asked ids asks

theorem approveAfterPass_cases (ready : AuthorityReady env p) (id : ApprovalId) :
    StopsOr p (fun snapshot after =>
      (∃ pending, p.supervisor.pendingOperations[id]? = some pending ∧
        snapshot = ⟨pending.taskId, .running⟩) ∧ Grants env p id after)
      (exec (approveAfterPass env id) p) := by
  unfold approveAfterPass
  rw [exec_bind_ok (exec_current p)]
  apply okOr_rule
  · exact fun _ => Quiet.refl p
  intro pending waiting
  apply okOr_rule
  · exact fun _ => Quiet.refl p
  intro record found
  apply propose_rule
  · exact fun _ => Quiet.refl p
  intro resumable
  rw [exec_bind_ok (exec_now env p)]
  rcases asked : p.supervisor.approvalAuthority.approve id (env.clock p.world.reads)
    with ⟨outcome, authority⟩
  rw [exec_bind_ok (exec_withAuthority asked)]
  cases outcome with
  | error e =>
    have same := ApprovalAuthority.approve_error asked
    subst same
    exact ⟨rfl, World.moved_tick _⟩
  | ok grant =>
    obtain ⟨entry, registered, early, rfl, rfl⟩ := ApprovalAuthority.approve_ok asked
    rw [exec_bind_ok (exec_approvalOr_ok _ _)]
    apply tryAppend_rule env
    · intro e
      have restored := ApprovalAuthority.restore_remove ready.indexed registered
      refine ⟨?_, (World.moved_tick _).trans (World.moved_rejected _ _ _)⟩
      exact congrArg (fun a => { p.supervisor with approvalAuthority := a }) restored
    · intro events store appended
      rw [exec_bind_ok (exec_current _)]
      -- the entry looked up before the append is still the one removed after it
      rw [exec_bind_ok (exec_okOr_found waiting _ _)]
      rw [exec_bind_ok (exec_update _ _), exec_bind_ok (exec_setState record _)]
      · exact ⟨⟨pending, waiting, rfl⟩,
          Grants.mk store pending record entry waiting found resumable registered early appended⟩
      · exact found

theorem denyAfterPass_cases (id : ApprovalId) :
    StopsOr p (fun snapshot after =>
      (∃ pending, p.supervisor.pendingOperations[id]? = some pending ∧
        snapshot = ⟨pending.taskId, .failed⟩) ∧ Closes p id (denying id) after)
      (exec (denyAfterPass env id) p) := by
  unfold denyAfterPass
  rw [exec_bind_ok (exec_current p)]
  apply okOr_rule
  · exact fun _ => Quiet.refl p
  intro pending waiting
  apply ensure_rule
  · exact fun _ => Quiet.refl p
  intro _
  have closes := closePending_cases env p waiting (denying id)
  apply bind_rule
  · intro stop after h
    rw [denying, h] at closes
    exact closes
  · intro _ after h
    rw [denying, h] at closes
    exact ⟨⟨pending, waiting, rfl⟩, closes⟩

/-- Consumption gives the entry up before its last checks. -/
def ConsumesOr (taskId : TaskId) (operationId : OperationId) (request : CapabilityRequest) :
    Except Stop ApprovalReceipt × Process S → Prop
  | (.error _, after) => Quiet p after ∨ Forgets p operationId after
  | (.ok receipt, after) => Consumes env p taskId operationId request receipt after

theorem authorizeOperation_cases (taskId : TaskId) (operationId : OperationId)
    (request : CapabilityRequest) :
    ConsumesOr env p taskId operationId request
      (exec (authorizeOperation env taskId operationId request) p) := by
  unfold authorizeOperation
  rw [exec_bind_ok (exec_current p)]
  apply okOr_rule
  · exact fun _ => .inl (Quiet.refl p)
  intro record found
  apply ensure_rule
  · exact fun _ => .inl (Quiet.refl p)
  intro running
  apply okOr_rule
  · exact fun _ => .inl (Quiet.refl p)
  intro approved held
  rw [exec_bind_ok (exec_update _ _)]
  apply ensure_rule
  · exact fun _ => .inr ⟨World.Moved.refl _, rfl⟩
  intro exact
  obtain ⟨owner, exact⟩ := of_decide_eq_true exact
  apply evaluate_rule
  · exact fun _ => .inr ⟨World.Moved.refl _, rfl⟩
  intro valid
  apply ensure_rule
  · exact fun _ => .inr ⟨World.Moved.refl _, rfl⟩
  intro decided
  rw [exec_bind_ok (exec_now env _)]
  cases authorized : approved.grant.authorize (env.clock p.world.reads) taskId operationId
    request.action with
  | error e =>
    rw [exec_bind_error (exec_approvalOr_error _ _)]
    exact .inr ⟨World.moved_tick _, rfl⟩
  | ok receipt =>
    obtain ⟨early, scope, issued⟩ := ApprovalGrant.authorize_ok authorized
    rw [exec_bind_ok (exec_approvalOr_ok _ _)]
    apply append_rule env
    · exact fun _ => .inr ⟨(World.moved_tick _).trans (World.moved_rejected _ _ _), rfl⟩
    · intro store appended
      exact Consumes.mk store record approved found (of_decide_eq_true running) held owner exact
        valid (of_decide_eq_true decided) early scope issued appended

end AiOs
