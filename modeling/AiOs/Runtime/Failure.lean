import AiOs.Runtime.Daemon

/-! What a failed call leaves. The expiry pass in front of a call closes requests one by one
and each of them in full; everything after the pass happens or does not happen. -/
namespace AiOs

open Fallible

variable {S : Type} [LawfulEventStore S] {env : Env}

structure SameTask (p after : Process S) (taskId : TaskId) : Prop where
  record : after.supervisor.tasks[taskId]? = p.supervisor.tasks[taskId]?
  log : LawfulEventStore.log after.supervisor.eventStore taskId =
    LawfulEventStore.log p.supervisor.eventStore taskId

structure Untouched (p after : Process S) (id : ApprovalId) : Prop where
  pending : after.supervisor.pendingOperations[id]? = p.supervisor.pendingOperations[id]?
  registered : after.supervisor.approvalAuthority.pending[id]? =
    p.supervisor.approvalAuthority.pending[id]?
  task : ∀ pending, p.supervisor.pendingOperations[id]? = some pending →
    SameTask p after pending.taskId

/-- An expired request that was closed in full: both of its entries are gone, its Task has
failed, and the log says so. -/
def Processed (p after : Process S) (id : ApprovalId) : Prop :=
  ∃ pending record, p.supervisor.pendingOperations[id]? = some pending ∧
    p.supervisor.tasks[pending.taskId]? = some record ∧
    after.supervisor.pendingOperations[id]? = none ∧
    after.supervisor.approvalAuthority.pending[id]? = none ∧
    after.supervisor.tasks[pending.taskId]? = some { record with state := .failed } ∧
    after.kinds pending.taskId = p.kinds pending.taskId ++
      [.approvalExpired id pending.operationId, .stateTransitioned record.state .failed]

section frames
variable {p mid after : Process S}

theorem SameTask.trans {taskId : TaskId} (first : SameTask p mid taskId)
    (second : SameTask mid after taskId) : SameTask p after taskId :=
  ⟨second.record.trans first.record, second.log.trans first.log⟩

theorem Untouched.trans {id : ApprovalId} (first : Untouched p mid id)
    (second : Untouched mid after id) : Untouched p after id where
  pending := second.pending.trans first.pending
  registered := second.registered.trans first.registered
  task := fun pending present =>
    (first.task pending present).trans (second.task pending (first.pending.trans present))

theorem Untouched.of_same {id : ApprovalId} (same : after.supervisor = p.supervisor) :
    Untouched p after id where
  pending := by rw [same]
  registered := by rw [same]
  task := fun _ _ => ⟨by rw [same], by rw [same]⟩

theorem Closes.sameTask {id : ApprovalId} {closing : PendingOperation → TaskEventKind}
    (closes : Closes p id closing after) {taskId : TaskId}
    (foreign : ∀ pending, p.supervisor.pendingOperations[id]? = some pending →
      pending.taskId ≠ taskId) : SameTask p after taskId := by
  obtain ⟨store, pending, record, waiting, found, failable, appended⟩ := closes
  have distinct := foreign pending waiting
  constructor
  · rw [OrdMap.get_insert, if_neg distinct]
  · exact appended.grows.others taskId (Ne.symm distinct)

theorem Closes.untouched (orderly : Orderly env p) {id : ApprovalId}
    {closing : PendingOperation → TaskEventKind} (closes : Closes p id closing after)
    {other : ApprovalId} (distinct : other ≠ id) : Untouched p after other where
  pending := by rw [closes.pending_erased, OrdMap.get_erase, if_neg (Ne.symm distinct)]
  registered := by
    cases closes
    rw [ApprovalAuthority.remove_pending, if_neg (Ne.symm distinct)]
  task := by
    intro pending present
    apply closes.sameTask
    intro closed waiting owner
    exact distinct (orderly.registry.single other id pending closed present waiting owner.symm)

theorem Closes.processed {id : ApprovalId} (closes : Closes p id (expiring id) after) :
    Processed p after id := by
  obtain ⟨store, pending, record, waiting, found, failable, appended⟩ := closes
  refine ⟨pending, record, waiting, found, ?_, ?_, ?_, appended.grown.own⟩
  · rw [OrdMap.get_erase, if_pos rfl]
  · rw [ApprovalAuthority.remove_pending, if_pos rfl]
  · rw [OrdMap.get_insert, if_pos rfl]

variable {closed : List ApprovalId}

theorem ClosesAll.sameTask (closes : ClosesAll p closed after) {taskId : TaskId}
    (foreign : ∀ id ∈ closed, ∀ pending, p.supervisor.pendingOperations[id]? = some pending →
      pending.taskId ≠ taskId) : SameTask p after taskId := by
  induction closes with
  | nil => exact ⟨rfl, rfl⟩
  | cons first _ ih =>
    refine (first.sameTask (foreign _ List.mem_cons_self)).trans (ih ?_)
    intro id member pending present
    rw [first.pending_erased, OrdMap.get_erase] at present
    split at present
    · cases present
    · exact foreign id (List.mem_cons_of_mem _ member) pending present

theorem ClosesAll.untouched (orderly : Orderly env p) (closes : ClosesAll p closed after)
    {id : ApprovalId} (absent : id ∉ closed) : Untouched p after id := by
  induction closes with
  | nil => exact .of_same rfl
  | cons first _ ih =>
    rw [List.mem_cons, not_or] at absent
    exact (first.untouched orderly absent.1).trans (ih (orderly.closes first) absent.2)

/-- Closing one request keeps what was done about the others, since they are requests of
other Tasks. -/
theorem ClosesAll.processed (orderly : Orderly env p) (closes : ClosesAll p closed after)
    (distinct : closed.Nodup) {id : ApprovalId} (member : id ∈ closed) :
    Processed p after id := by
  induction closes with
  | nil => cases member
  | @cons p mid after head rest first others ih =>
    rw [List.nodup_cons] at distinct
    have orderlyMid := orderly.closes first
    rcases List.mem_cons.mp member with rfl | later
    · obtain ⟨pending, record, waiting, found, gone, revoked, failed, logged⟩ := first.processed
      have kept := others.untouched orderlyMid distinct.1
      have same : SameTask mid after pending.taskId := by
        apply others.sameTask
        intro other among held present owner
        have before := present
        rw [first.pending_erased, OrdMap.get_erase] at before
        split at before
        · cases before
        · rename_i apart
          exact apart (orderly.registry.single id other pending held waiting before owner.symm)
      refine ⟨pending, record, waiting, found, kept.pending.trans gone,
        kept.registered.trans revoked, same.record.trans failed, ?_⟩
      rw [← logged]
      exact congrArg kindsOf same.log
    · have apart : id ≠ head := by
        rintro rfl
        exact distinct.1 later
      have kept := first.untouched orderly apart
      obtain ⟨pending, record, waiting, found, gone, revoked, failed, logged⟩ :=
        ih orderlyMid distinct.2 later
      rw [kept.pending] at waiting
      have same := kept.task pending waiting
      refine ⟨pending, record, waiting, same.record.symm.trans found, gone, revoked, failed, ?_⟩
      rw [logged, Process.kinds, Process.kinds, same.log]

end frames

variable {p : Process S}

/-- After a pass, failed or not, every request is untouched, or expired and closed in full. -/
theorem pass_processed (orderly : Orderly env p) {mid : Process S} {closed : List ApprovalId}
    (leads : PassLeads env p mid closed) (id : ApprovalId) :
    Untouched p mid id ∨
      id ∈ p.supervisor.approvalAuthority.expiredIds (env.clock p.world.reads) ∧
        Processed p mid id := by
  obtain ⟨among, closes⟩ := leads
  have ready := orderly.quiet (quiet_ticked p)
  by_cases member : id ∈ closed
  · have distinct := among.nodup (ApprovalAuthority.expiredIds_nodup _ _)
    exact .inr ⟨among.subset member, closes.processed ready distinct member⟩
  · have start : Untouched p p.ticked id := .of_same rfl
    exact .inl (start.trans (closes.untouched ready member))

/-- What a failed call may leave. Only the methods with a pass, and the one that takes a
grant out before it checks it, may leave anything else than what they found. -/
def Call.FailureLeaves (env : Env) (p after : Process S) : Call → Prop
  | .submit _ | .start _ | .startExecution _ | .succeed _ | .fail _ | .failBudgetExceeded _
  | .cancel _ => after.supervisor = p.supervisor
  | .requestOperation .. | .approveOperation _ | .denyOperation _ | .expireApprovals =>
    after.supervisor = (exec (AiOs.expireApprovals env) p).2.supervisor ∧
      ∀ id, Untouched p after id ∨
        id ∈ p.supervisor.approvalAuthority.expiredIds (env.clock p.world.reads) ∧
          Processed p after id
  | .authorizeOperation _ operationId _ =>
    after.supervisor = p.supervisor ∨ after.supervisor = { p.supervisor with
      approvedOperations := p.supervisor.approvedOperations.erase operationId }

omit [LawfulEventStore S] in
theorem StopsOr.same {α : Type} {effect : α → Process S → Prop}
    {out : Except Stop α × Process S} (cases : StopsOr p effect out) {stop : Stop}
    (failed : out.1 = .error stop) : out.2.supervisor = p.supervisor := by
  obtain ⟨result, after⟩ := out
  cases failed
  have quiet : Quiet p after := cases
  exact quiet.same

theorem expireApprovals_leads (env : Env) (p : Process S) :
    ∃ closed mid, PassLeads env p mid closed ∧
      (exec (expireApprovals env) p).2.supervisor = mid.supervisor := by
  rcases passed : exec (expireApprovals env) p with ⟨_ | count, after⟩
  · obtain ⟨closed, mid, leads, quiet⟩ := expireApprovals_error env p passed
    exact ⟨closed, mid, leads, quiet.same⟩
  · obtain ⟨closed, leads, _⟩ := expireApprovals_ok env p passed
    exact ⟨closed, after, leads, rfl⟩

theorem processed_of_same {mid after : Process S} (same : after.supervisor = mid.supervisor)
    {id : ApprovalId} (processed : Processed p mid id) : Processed p after id := by
  unfold Processed Process.kinds at *
  rw [same]
  exact processed

theorem leaves_processed (orderly : Orderly env p) {after : Process S}
    (same : after.supervisor = (exec (expireApprovals env) p).2.supervisor) (id : ApprovalId) :
    Untouched p after id ∨
      id ∈ p.supervisor.approvalAuthority.expiredIds (env.clock p.world.reads) ∧
        Processed p after id := by
  obtain ⟨closed, mid, leads, ended⟩ := expireApprovals_leads env p
  rcases pass_processed orderly leads id with untouched | ⟨expired, processed⟩
  · exact .inl (untouched.trans (.of_same (same.trans ended)))
  · exact .inr ⟨expired, processed_of_same (same.trans ended) processed⟩

/-- A method with a pass whose rest stops leaves what the pass left. -/
theorem pass_failure (orderly : Orderly env p) {α : Type} {body : SupervisorM S α}
    {effect : Process S → α → Process S → Prop}
    (rest : ∀ count mid, exec (expireApprovals env) p = (.ok count, mid) →
      StopsOr mid (effect mid) (exec body mid)) {stop : Stop}
    (failed : (exec (expireApprovals env >>= fun _ => body) p).1 = .error stop) :
    (exec (expireApprovals env >>= fun _ => body) p).2.supervisor =
        (exec (expireApprovals env) p).2.supervisor ∧
      ∀ id, Untouched p (exec (expireApprovals env >>= fun _ => body) p).2 id ∨
        id ∈ p.supervisor.approvalAuthority.expiredIds (env.clock p.world.reads) ∧
          Processed p (exec (expireApprovals env >>= fun _ => body) p).2 id := by
  have same : (exec (expireApprovals env >>= fun _ => body) p).2.supervisor =
      (exec (expireApprovals env) p).2.supervisor := by
    rcases passed : exec (expireApprovals env) p with ⟨_ | count, mid⟩
    · rw [exec_bind_error passed]
    · rw [exec_bind_ok passed] at failed ⊢
      exact (rest count mid passed).same failed
  exact ⟨same, fun id => leaves_processed orderly same id⟩

theorem failure_leaves (orderly : Orderly env p) (call : Call) {stop : Stop}
    (failed : (call.run env p).1 = .error stop) :
    call.FailureLeaves env p (call.run env p).2 := by
  have recovered := orderly.recoveredTerminal
  have ready : ∀ count mid, exec (expireApprovals env) p = (.ok count, mid) →
      AuthorityReady env mid :=
    fun count mid passed => (orderly.passed env p passed).authorityReady
  cases call with
  | submit spec =>
    have stopped := exec_discard_error.mp failed
    rw [Call.run, Call.perform, exec_discard]
    exact (submit_cases env p spec).same stopped
  | start taskId => exact (start_cases env p recovered taskId).same failed
  | startExecution taskId =>
    have stopped := exec_discard_error.mp failed
    rw [Call.run, Call.perform, exec_discard]
    exact (startExecution_cases env p recovered taskId).same stopped
  | requestOperation taskId request ttl =>
    have stopped := exec_discard_error.mp failed
    rw [Call.run, Call.perform, exec_discard]
    exact pass_failure orderly (fun count mid passed =>
      requestAfterPass_cases env mid (ready count mid passed) taskId request ttl) stopped
  | approveOperation id =>
    have stopped := exec_discard_error.mp failed
    rw [Call.run, Call.perform, exec_discard]
    exact pass_failure orderly (fun count mid passed =>
      approveAfterPass_cases env mid (ready count mid passed) id) stopped
  | denyOperation id =>
    have stopped := exec_discard_error.mp failed
    rw [Call.run, Call.perform, exec_discard]
    exact pass_failure orderly (fun _ mid _ => denyAfterPass_cases env mid id) stopped
  | authorizeOperation taskId operationId request =>
    have stopped := exec_discard_error.mp failed
    rw [Call.run, Call.perform, exec_discard]
    have cases := authorizeOperation_cases env p taskId operationId request
    generalize exec (authorizeOperation env taskId operationId request) p = out at cases stopped ⊢
    obtain ⟨_ | receipt, after⟩ := out
    · rcases cases with quiet | forgets
      · exact .inl quiet.same
      · exact .inr forgets.same
    · cases stopped
  | expireApprovals =>
    rw [Call.run, Call.perform, exec_discard]
    exact ⟨rfl, fun id => leaves_processed orderly rfl id⟩
  | succeed taskId => exact (succeed_cases env p recovered taskId).same failed
  | fail taskId => exact (failTask_cases env p recovered taskId).same failed
  | failBudgetExceeded taskId =>
    exact (failBudgetExceeded_cases env p recovered taskId).same failed
  | cancel taskId =>
    have stopped := exec_discard_error.mp failed
    rw [Call.run, Call.perform, exec_discard]
    exact (cancel_cases env p recovered taskId).same stopped

namespace Daemon

/-- In every state of every run, whatever the storage does, a failed call changes nothing
beyond the requests its pass has closed in full and the grant an authorization gives up. -/
theorem failed_call_leaves {env : Env} (fresh : Function.Injective env.uuid) {p : Process S}
    (reached : Reached env Anything (.up p)) (call : Call) (stop : Stop)
    (failed : (call.run env p).1 = .error stop) :
    call.FailureLeaves env p (call.run env p).2 :=
  failure_leaves (reached.sound fresh).orderly call failed

end Daemon

set_option maxRecDepth 4000 in
/-- An approval request whose two events do not fit: the registration is taken back. -/
theorem failed_request_leaves :
    ((Call.requestOperation ⟨0⟩ Sample.push (10 ^ 9)).run Sample.env
      (Sample.process 5 [.submit Sample.spec, .start ⟨0⟩])).1 =
        .error (.err (.eventStore .capacityExceeded)) ∧
    (Call.requestOperation ⟨0⟩ Sample.push (10 ^ 9)).FailureLeaves Sample.env
      (Sample.process 5 [.submit Sample.spec, .start ⟨0⟩])
      ((Call.requestOperation ⟨0⟩ Sample.push (10 ^ 9)).run Sample.env
        (Sample.process 5 [.submit Sample.spec, .start ⟨0⟩])).2 := by
  have failed : ((Call.requestOperation ⟨0⟩ Sample.push (10 ^ 9)).run Sample.env
      (Sample.process 5 [.submit Sample.spec, .start ⟨0⟩])).1 =
        .error (.err (.eventStore .capacityExceeded)) := by decide +kernel
  exact ⟨failed, Daemon.failed_call_leaves Sample.uuid_injective
    (Sample.process_reached (by decide)) _ _ failed⟩

end AiOs
