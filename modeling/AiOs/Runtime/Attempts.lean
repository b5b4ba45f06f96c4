import AiOs.Runtime.Retention

/-! The batches that a process has tried to append. No method takes an attempt back, so a
call in which no batch was rejected is made of steps in which none was; and without a
rejected batch the steps that close a request or end a Task do not fail. -/
namespace AiOs

open Fallible

section methods
variable {S : Type} {env : Env} {made : List Attempt}

/-- Nothing of what was attempted is forgotten. -/
def Attempted (made : List Attempt) (p : Process S) : Prop := made <+: p.world.attempts

theorem attempted_modifyGet {α : Type} {f : Process S → α × Process S}
    (same : ∀ p, (f p).2.world.attempts = p.world.attempts) :
    Keeps (Attempted made) (modifyGet f : SupervisorM S α) := by
  apply keeps_modifyGet
  intro p attempted
  rw [Attempted, same]
  exact attempted

theorem attempted_current : Keeps (Attempted made) (current : SupervisorM S (TaskSupervisor S)) :=
  attempted_modifyGet fun _ => rfl

theorem attempted_update (f : TaskSupervisor S → TaskSupervisor S) :
    Keeps (Attempted made) (update f : SupervisorM S Unit) := attempted_modifyGet fun _ => rfl

theorem attempted_now : Keeps (Attempted made) (now env : SupervisorM S Instant) :=
  attempted_modifyGet fun _ => rfl

theorem attempted_newUuid : Keeps (Attempted made) (newUuid env : SupervisorM S Nat) :=
  attempted_modifyGet fun _ => rfl

theorem attempted_withAuthority {α : Type} (f : ApprovalAuthority → α × ApprovalAuthority) :
    Keeps (Attempted made) (withAuthority f : SupervisorM S α) := attempted_modifyGet fun _ => rfl

theorem attempted_propose (state next : TaskState) :
    Keeps (Attempted made) (propose state next : SupervisorM S Unit) := by
  unfold propose
  split
  · exact keeps_pure ()
  · exact keeps_throw _

theorem attempted_approvalOr {α : Type} (answer : Except ApprovalError α) :
    Keeps (Attempted made) (approvalOr answer : SupervisorM S α) := by
  cases answer with
  | ok value => exact keeps_pure value
  | error e => exact keeps_throw _

theorem attempted_setState (taskId : TaskId) (state : TaskState) :
    Keeps (Attempted made) (setState taskId state : SupervisorM S Unit) :=
  attempted_current.bind fun _ => (keeps_okOr _ _).bind fun _ => attempted_update _

theorem attempted_evaluateStored (spec : TaskSpec) (request : CapabilityRequest) :
    Keeps (Attempted made) (evaluateStored spec request : SupervisorM S PolicyDecision) := by
  unfold evaluateStored
  split
  · exact keeps_pure _
  · exact keeps_throw _

variable [EventStore S]

theorem attempted_tryAppend (taskId : TaskId) (kinds : List TaskEventKind) :
    Keeps (Attempted made) (tryAppend env taskId kinds : SupervisorM S _) := by
  apply keeps_modifyGet
  intro p attempted
  exact attempted.trans (List.prefix_append _ _)

theorem attempted_appendBatch (taskId : TaskId) (kinds : List TaskEventKind) :
    Keeps (Attempted made) (appendBatch env taskId kinds : SupervisorM S Unit) := by
  refine (attempted_tryAppend taskId kinds).bind ?_
  rintro (e | events)
  · exact keeps_throw _
  · exact keeps_pure ()

theorem attempted_submit (spec : TaskSpec) :
    Keeps (Attempted made) (submit env spec : SupervisorM S SubmitResult) := by
  refine attempted_current.bind fun s => ?_
  split
  · exact (keeps_okOr _ _).bind fun _ => (keeps_ensure _ _).bind fun _ => keeps_pure _
  · exact (keeps_ensure _ _).bind fun _ => attempted_newUuid.bind fun _ =>
      (attempted_appendBatch _ _).bind fun _ => (attempted_update _).bind fun _ => keeps_pure _

theorem attempted_applyTransition (taskId : TaskId) (state next : TaskState)
    (failure : Option ErrorCode) :
    Keeps (Attempted made)
      (applyTransitionWithFailure env taskId state next failure : SupervisorM S Unit) := by
  refine attempted_current.bind fun _ => (attempted_appendBatch _ _).bind fun _ =>
    (attempted_update _).bind fun _ => attempted_current.bind fun s => ?_
  split
  · exact attempted_update _
  · split
    · exact attempted_update _
    · exact keeps_throw _

theorem attempted_transition (taskId : TaskId) (next : TaskState) :
    Keeps (Attempted made) (transition env taskId next : SupervisorM S Unit) :=
  attempted_current.bind fun _ => (keeps_okOr _ _).bind fun _ =>
    (attempted_propose _ _).bind fun _ => attempted_applyTransition _ _ _ none

theorem attempted_start (taskId : TaskId) :
    Keeps (Attempted made) (start env taskId : SupervisorM S Unit) :=
  (attempted_transition _ _).bind fun _ => attempted_now.bind fun _ =>
    attempted_current.bind fun _ => (keeps_okOr _ _).bind fun _ => attempted_update _

theorem attempted_closePending (id : ApprovalId) (pending : PendingOperation)
    (closing : TaskEventKind) :
    Keeps (Attempted made) (closePending env id pending closing : SupervisorM S Unit) :=
  attempted_current.bind fun _ => (keeps_okOr _ _).bind fun _ =>
    (attempted_propose _ _).bind fun _ => (attempted_appendBatch _ _).bind fun _ =>
      (attempted_update _).bind fun _ => attempted_setState _ _

theorem attempted_expireLoop (ids : List ApprovalId) (count : Nat) :
    Keeps (Attempted made) (expireLoop env ids count : SupervisorM S Nat) := by
  induction ids generalizing count with
  | nil => exact keeps_pure _
  | cons id rest ih =>
    unfold expireLoop
    refine attempted_current.bind fun s => ?_
    split
    · exact ih _
    · exact (attempted_closePending _ _ _).bind fun _ => ih _

theorem attempted_expireApprovals :
    Keeps (Attempted made) (expireApprovals env : SupervisorM S Nat) :=
  attempted_now.bind fun _ => attempted_current.bind fun _ => attempted_expireLoop _ _

theorem attempted_requestApproval (taskId : TaskId) (state : TaskState)
    (request : CapabilityRequest) (ttl : Duration) :
    Keeps (Attempted made)
      (requestApproval env taskId state request ttl : SupervisorM S OperationAuthorization) := by
  refine attempted_current.bind fun _ => (keeps_ensure _ _).bind fun _ =>
    attempted_newUuid.bind fun _ => attempted_now.bind fun _ => attempted_newUuid.bind fun _ =>
    (attempted_withAuthority _).bind fun _ => (attempted_approvalOr _).bind fun _ =>
    (attempted_tryAppend _ _).bind ?_
  rintro (e | events)
  · exact (attempted_update _).bind fun _ => keeps_throw _
  · exact (attempted_update _).bind fun _ => (attempted_setState _ _).bind fun _ => keeps_pure _

theorem attempted_requestAfterPass (taskId : TaskId) (request : CapabilityRequest)
    (ttl : Duration) :
    Keeps (Attempted made)
      (requestAfterPass env taskId request ttl : SupervisorM S OperationAuthorization) := by
  refine attempted_current.bind fun _ => (keeps_okOr _ _).bind fun _ =>
    (attempted_propose _ _).bind fun _ => (attempted_evaluateStored _ _).bind fun decision => ?_
  cases decision with
  | allow => exact (attempted_appendBatch _ _).bind fun _ => keeps_pure _
  | deny reason => exact (attempted_appendBatch _ _).bind fun _ => keeps_pure _
  | approvalRequired => exact attempted_requestApproval _ _ _ _

theorem attempted_approveAfterPass (id : ApprovalId) :
    Keeps (Attempted made) (approveAfterPass env id : SupervisorM S TaskSnapshot) := by
  refine attempted_current.bind fun _ => (keeps_okOr _ _).bind fun _ =>
    (keeps_okOr _ _).bind fun _ => (attempted_propose _ _).bind fun _ =>
    attempted_now.bind fun _ => (attempted_withAuthority _).bind fun _ =>
    (attempted_approvalOr _).bind fun _ => (attempted_tryAppend _ _).bind ?_
  rintro (e | events)
  · exact (attempted_update _).bind fun _ => keeps_throw _
  · exact attempted_current.bind fun _ => (keeps_okOr _ _).bind fun _ =>
      (attempted_update _).bind fun _ => (attempted_setState _ _).bind fun _ => keeps_pure _

theorem attempted_denyAfterPass (id : ApprovalId) :
    Keeps (Attempted made) (denyAfterPass env id : SupervisorM S TaskSnapshot) :=
  attempted_current.bind fun _ => (keeps_okOr _ _).bind fun _ => (keeps_ensure _ _).bind fun _ =>
    (attempted_closePending _ _ _).bind fun _ => keeps_pure _

theorem attempted_authorizeOperation (taskId : TaskId) (operationId : OperationId)
    (request : CapabilityRequest) :
    Keeps (Attempted made)
      (authorizeOperation env taskId operationId request : SupervisorM S ApprovalReceipt) :=
  attempted_current.bind fun _ => (keeps_okOr _ _).bind fun _ => (keeps_ensure _ _).bind fun _ =>
    (keeps_okOr _ _).bind fun _ => (attempted_update _).bind fun _ =>
    (keeps_ensure _ _).bind fun _ => (attempted_evaluateStored _ _).bind fun _ =>
    (keeps_ensure _ _).bind fun _ => attempted_now.bind fun _ =>
    (attempted_approvalOr _).bind fun _ => (attempted_appendBatch _ _).bind fun _ => keeps_pure _

theorem attempted_cancel (taskId : TaskId) :
    Keeps (Attempted made) (cancel env taskId : SupervisorM S Bool) := by
  refine attempted_current.bind fun _ => (keeps_okOr _ _).bind fun state => ?_
  split
  · exact keeps_pure _
  · exact (attempted_applyTransition _ _ _ _).bind fun _ => keeps_pure _

theorem attempted_call (call : Call) :
    Keeps (Attempted made) (call.perform env : SupervisorM S Unit) := by
  cases call with
  | submit spec => exact (attempted_submit spec).discard
  | start taskId => exact attempted_start taskId
  | startExecution taskId =>
    exact (attempted_current.bind fun _ => (keeps_okOr _ _).bind fun _ =>
      (attempted_start taskId).bind fun _ => keeps_pure _).discard
  | requestOperation taskId request ttl =>
    exact (attempted_expireApprovals.bind fun _ => attempted_requestAfterPass _ _ _).discard
  | approveOperation id =>
    exact (attempted_expireApprovals.bind fun _ => attempted_approveAfterPass id).discard
  | denyOperation id =>
    exact (attempted_expireApprovals.bind fun _ => attempted_denyAfterPass id).discard
  | authorizeOperation taskId id request =>
    exact (attempted_authorizeOperation taskId id request).discard
  | expireApprovals => exact attempted_expireApprovals.discard
  | succeed taskId => exact attempted_transition taskId _
  | fail taskId => exact attempted_transition taskId _
  | failBudgetExceeded taskId =>
    exact attempted_current.bind fun _ => (keeps_okOr _ _).bind fun _ =>
      (attempted_propose _ _).bind fun _ => attempted_applyTransition _ _ _ _
  | cancel taskId => exact (attempted_cancel taskId).discard

end methods

section undisturbed
variable {S : Type}

/-- No batch was rejected from the one process to the other. -/
def Undisturbed (p after : Process S) : Prop :=
  ∀ attempt ∈ after.world.attempts.drop p.world.attempts.length, attempt.accepted = true

instance (p after : Process S) : Decidable (Undisturbed p after) :=
  inferInstanceAs (Decidable (∀ attempt ∈
    after.world.attempts.drop p.world.attempts.length, attempt.accepted = true))

variable {p mid after : Process S}

theorem disturbed_of_rejected {made : List Attempt} {attempt : Attempt}
    (rejected : attempt.accepted = false)
    (attempts : after.world.attempts = p.world.attempts ++ made ++ [attempt]) :
    ¬ Undisturbed p after := by
  intro undisturbed
  have accepted := undisturbed attempt (by
    rw [attempts, List.append_assoc, List.drop_left]
    exact List.mem_append_right _ (List.mem_singleton_self _))
  rw [rejected] at accepted
  cases accepted

theorem Undisturbed.split (undisturbed : Undisturbed p after)
    (first : p.world.attempts <+: mid.world.attempts)
    (second : mid.world.attempts <+: after.world.attempts) :
    Undisturbed p mid ∧ Undisturbed mid after := by
  obtain ⟨early, before⟩ := first
  obtain ⟨late, whole⟩ := second
  unfold Undisturbed at undisturbed ⊢
  rw [← whole, List.drop_left]
  rw [← whole, ← before, List.append_assoc, List.drop_left] at undisturbed
  rw [← before, List.drop_left]
  exact ⟨fun attempt there => undisturbed attempt (List.mem_append_left _ there),
    fun attempt there => undisturbed attempt (List.mem_append_right _ there)⟩

end undisturbed

end AiOs
