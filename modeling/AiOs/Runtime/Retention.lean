import AiOs.Runtime.Safety
import AiOs.Runtime.Facade

/-! What a gate retains. An operation should be kept only while the supervisor holds the
request for it. The gate's maps and the supervisor's maps move together in every call but
one: an expiry pass that runs inside a call about something else closes requests without the
gate. -/
namespace AiOs

open Fallible

section supervisor
variable {S : Type} [LawfulEventStore S] {env : Env} {p after : Process S}

/-- The authority keeps to its limit. -/
def Capped (p : Process S) : Prop :=
  p.supervisor.approvalAuthority.pending.size ≤ p.supervisor.approvalAuthority.maxPending

def overdue (env : Env) (p : Process S) : List ApprovalId :=
  p.supervisor.approvalAuthority.expiredIds (env.clock p.world.reads)

def Call.ended : Call → Option TaskId
  | .succeed taskId | .fail taskId | .failBudgetExceeded taskId | .cancel taskId => some taskId
  | _ => none

/-- The calls that the gate has methods for. -/
def Call.approvalRelated : Call → Bool
  | .requestOperation .. | .approveOperation _ | .denyOperation _ | .authorizeOperation ..
  | .expireApprovals | .cancel _ => true
  | _ => false

theorem ApprovalAuthority.foldl_remove_size (ids : List ApprovalId)
    (authority : ApprovalAuthority) :
    (ids.foldl (fun a id => (a.remove id).2) authority).pending.size ≤ authority.pending.size ∧
      (ids.foldl (fun a id => (a.remove id).2) authority).maxPending = authority.maxPending := by
  induction ids generalizing authority with
  | nil => exact ⟨Nat.le_refl _, rfl⟩
  | cons id rest ih =>
    obtain ⟨size, limit⟩ := ih (authority.remove id).2
    exact ⟨Nat.le_trans size (authority.remove_size id),
      limit.trans (authority.remove_limits id).1⟩

omit [LawfulEventStore S] in
theorem Capped.remove (capped : Capped p) (ids : List ApprovalId)
    (removed : after.supervisor.approvalAuthority =
      ids.foldl (fun a id => (a.remove id).2) p.supervisor.approvalAuthority) : Capped after := by
  obtain ⟨size, limit⟩ := p.supervisor.approvalAuthority.foldl_remove_size ids
  rw [Capped, removed, limit]
  exact Nat.le_trans size capped

theorem Capped.closes (capped : Capped p) {id : ApprovalId}
    {closing : PendingOperation → TaskEventKind} (closes : Closes p id closing after) :
    Capped after := by
  cases closes
  exact capped.remove [id] rfl

theorem Capped.effect (capped : Capped p) (orderly : Orderly env p) {call : Call}
    (effect : Effect env p call after) : Capped after := by
  cases effect with
  | idle quiet =>
    rw [Capped, quiet.same]
    exact capped
  | admits admits => cases admits; exact capped
  | launches _ launches => cases launches; exact capped
  | allows notes | refuses notes => cases notes; exact capped
  | asks asks =>
    obtain ⟨store, record, found, running, valid, decided, single, unindexed, room, appended⟩ :=
      asks
    have unused : p.supervisor.approvalAuthority.pending[askedApproval env p]? = none :=
      orderly.authorityReady.fresh _ (Nat.le_succ p.world.ids)
    change (p.supervisor.approvalAuthority.pending.insert _ _).size ≤ _
    rw [OrdMap.size_insert_new _ unused]
    exact room
  | grants grants =>
    rename_i id
    cases grants
    exact capped.remove [id] rfl
  | denies denies => exact capped.closes denies
  | forgets forgets =>
    rw [Capped, forgets.same]
    exact capped
  | consumes consumes => cases consumes; exact capped
  | finishes _ finishes =>
    cases finishes
    apply capped.remove (p.supervisor.pendingIds _)
    change (p.supervisor.invalidateApprovals _).approvalAuthority = _
    rw [TaskSupervisor.invalidateApprovals_eq]

theorem Constructed.capped (constructed : Constructed env p) : Capped p := by
  have empty : ∀ (store : S) (maxTasks : Nat) (recovered : OrdMap TaskId TaskState) (world : World),
      Capped ⟨world, { TaskSupervisor.empty store maxTasks with recoveredTasks := recovered }⟩ :=
    fun _ _ _ _ => Nat.zero_le _
  cases constructed with
  | new world store => exact empty store _ ∅ world
  | withMaxTasks made =>
    obtain ⟨maxTasks, rfl⟩ := Daemon.built_empty (.inr ⟨_, made⟩)
    exact empty _ maxTasks ∅ _
  | @recovered _ world later store after maxTasks supervisor unused made =>
    have ends := recover_cases env world store maxTasks
    rw [made] at ends
    rw [(recover_ok ends).fields]
    exact empty _ _ _ _

theorem Capped.call (capped : Capped p) (orderly : Orderly env p) (call : Call) :
    Capped (call.run env p).2 := by
  refine orderly_rule (I := Capped) (J := Capped) orderly call ?_ ?_ ?_ capped
  · intro a b kept quiet
    rw [Capped, quiet.same]
    exact kept
  · intro a b id _ _ kept closes
    exact kept.closes closes
  · intro a b there kept effect
    exact kept.effect there effect

theorem Finishes.requests {taskId : TaskId} {next : TaskState} {failure : Option ErrorCode}
    (finishes : Finishes p taskId next failure after) {id : ApprovalId}
    {pending : PendingOperation} (held : p.supervisor.pendingOperations[id]? = some pending)
    (apart : pending.taskId ≠ taskId) :
    after.supervisor.pendingOperations[id]? = some pending := by
  obtain ⟨store, record, found, allowed, terminal, appended⟩ := finishes
  change (p.supervisor.invalidateApprovals taskId).pendingOperations[id]? = _
  rw [TaskSupervisor.invalidateApprovals_eq, OrdMap.get_foldl_erase, if_neg]
  · exact held
  · rw [TaskSupervisor.mem_pendingIds]
    rintro ⟨other, there, owner⟩
    cases Option.some.inj (held.symm.trans there)
    exact apart owner

theorem Finishes.stores {taskId : TaskId} {next : TaskState}
    {failure : Option ErrorCode} (finishes : Finishes p taskId next failure after) :
    p.world.batches.length < after.world.batches.length := by
  obtain ⟨store, record, found, allowed, terminal, appended⟩ := finishes
  have moved := World.moved_accepted p.world taskId (finishedEvents p taskId record.state next failure)
  rw [moved.batches, List.length_append]
  exact Nat.lt_succ_self _

/-- A call that has nothing to do with approvals leaves the requests of Tasks it does not end, and
those of any Task when it stores nothing. -/
theorem outer_requests (orderly : Orderly env p) {call : Call}
    (outer : call.approvalRelated = false) {id : ApprovalId} {pending : PendingOperation}
    (held : p.supervisor.pendingOperations[id]? = some pending)
    (apart : call.ended = some pending.taskId →
      (call.run env p).2.world.batches = p.world.batches) :
    (call.run env p).2.supervisor.pendingOperations[id]? = some pending := by
  have nothing : call.expired env p = [] := by
    cases call <;> first | rfl | cases outer
  revert apart
  refine orderly_rule (I := fun q => q.supervisor.pendingOperations[id]? = some pending ∧
      p.world.batches.length ≤ q.world.batches.length)
    (J := fun q => (call.ended = some pending.taskId → q.world.batches = p.world.batches) →
      q.supervisor.pendingOperations[id]? = some pending) orderly call ?_ ?_ ?_
      ⟨held, Nat.le_refl _⟩
  · rintro a b ⟨kept, longer⟩ quiet
    rw [quiet.same, quiet.moved.batches, List.append_nil]
    exact ⟨kept, longer⟩
  · intro a b other member
    rw [nothing] at member
    cases member
  · rintro a b _ ⟨kept, longer⟩ effect apart
    cases effect with
    | idle quiet =>
      rw [quiet.same]
      exact kept
    | admits admits => cases admits; exact kept
    | launches _ launches => cases launches; exact kept
    | finishes ends finishes =>
      apply finishes.requests kept
      intro owner
      have ended : call.ended = some pending.taskId := by
        rw [owner]
        rcases ends with ⟨rfl, _⟩ | ⟨rfl, _⟩ | ⟨rfl, _⟩ | ⟨rfl, _⟩ <;> rfl
      have stored := finishes.stores
      rw [apart ended] at stored
      omega
    | _ => cases outer

theorem pass_idle {mid : Process S} {closed : List ApprovalId} (leads : PassLeads env p mid closed)
    (prompt : overdue env p = []) : mid = p.ticked := by
  obtain ⟨among, closes⟩ := leads
  have none : closed = [] := List.sublist_nil.mp (prompt ▸ among)
  subst none
  cases closes
  rfl

theorem failed_requests (orderly : Orderly env p) {call : Call} {stop : Stop}
    (failed : (call.run env p).1 = .error stop) (prompt : call.expired env p = [])
    (id : ApprovalId) :
    (call.run env p).2.supervisor.pendingOperations[id]? =
      p.supervisor.pendingOperations[id]? := by
  have leaves := failure_leaves orderly call failed
  generalize (call.run env p).2 = after at leaves ⊢
  cases call with
  | requestOperation | approveOperation | denyOperation | expireApprovals =>
    rcases leaves.2 id with untouched | ⟨expired, _⟩
    · exact untouched.pending
    · change p.supervisor.approvalAuthority.expiredIds (env.clock p.world.reads) = [] at prompt
      rw [prompt] at expired
      cases expired
  | authorizeOperation =>
    rcases leaves with same | same <;> rw [same]
  | _ =>
    have same : after.supervisor = p.supervisor := leaves
    rw [same]

theorem Grants.pending_erased {id : ApprovalId} (grants : Grants env p id after) :
    after.supervisor.pendingOperations = p.supervisor.pendingOperations.erase id := by
  cases grants
  rfl

theorem denyOperation_ok {id : ApprovalId} {snapshot : TaskSnapshot}
    (answered : exec (denyOperation env id) p = (.ok snapshot, after)) :
    ∃ mid closed, PassLeads env p mid closed ∧ Closes mid id (denying id) after := by
  rcases passed : exec (expireApprovals env) p with ⟨stop | count, mid⟩
  · rw [denyOperation, exec_bind_error passed] at answered
    cases answered
  · rw [denyOperation, exec_bind_ok passed] at answered
    obtain ⟨closed, leads, _⟩ := expireApprovals_ok env p passed
    have cases := denyAfterPass_cases env mid id
    rw [answered] at cases
    exact ⟨mid, closed, leads, cases.2⟩

theorem authorizeOperation_requests (env : Env) (p : Process S) (taskId : TaskId)
    (operationId : OperationId) (request : CapabilityRequest) :
    (exec (authorizeOperation env taskId operationId request) p).2.supervisor.pendingOperations =
      p.supervisor.pendingOperations := by
  have cases := authorizeOperation_cases env p taskId operationId request
  generalize exec (authorizeOperation env taskId operationId request) p = out at cases ⊢
  obtain ⟨stop | receipt, after⟩ := out
  · rcases cases with quiet | forgets
    · rw [quiet.same]
    · rw [forgets.same]
  · have consumes : Consumes env p taskId operationId request receipt after := cases
    cases consumes
    rfl

theorem closePending_rejected (orderly : Orderly env p) {id : ApprovalId}
    {pending : PendingOperation} {closing : TaskEventKind} {stop : Stop}
    (waiting : p.supervisor.pendingOperations[id]? = some pending)
    (failed : exec (closePending env id pending closing) p = (.error stop, after)) :
    after.supervisor = p.supervisor ∧
      ∃ attempt : Attempt, attempt.accepted = false ∧
        after.world.attempts = p.world.attempts ++ [attempt] := by
  obtain ⟨record, found, live⟩ := orderly.registry.live id pending waiting
  have failable : record.state.canTransitionTo .failed = true := by
    rcases live with running | waits
    · rw [running]
      rfl
    · rw [waits]
      rfl
  let rejects (out : Except Stop Unit × Process S) : Prop :=
    out.1 = .error stop → out.2.supervisor = p.supervisor ∧
      ∃ attempt : Attempt, attempt.accepted = false ∧
        out.2.world.attempts = p.world.attempts ++ [attempt]
  have ends : rejects (exec (closePending env id pending closing) p) := by
    unfold closePending
    rw [exec_bind_ok (exec_current p), exec_bind_ok (exec_okOr_found found _ _),
      exec_bind_ok (exec_propose_allowed failable p)]
    apply append_rule env (P := rejects)
    · exact fun e _ => ⟨rfl, _, rfl, rfl⟩
    · intro store appended stopped
      rw [exec_bind_ok (exec_update _ _), exec_setState record] at stopped
      · cases stopped
      · exact found
  rw [failed] at ends
  exact ends rfl

/-- A pass that stops has closed fewer requests than it had to, and the last batch it tried
was rejected. -/
theorem expireLoop_rejected (orderly : Orderly env p) (ids : List ApprovalId) (count : Nat)
    {stop : Stop} (failed : exec (expireLoop env ids count) p = (.error stop, after)) :
    ∃ closed mid, ClosesAll p closed mid ∧ closed.length < ids.length ∧
      after.supervisor = mid.supervisor ∧ ∃ made attempt, attempt.accepted = false ∧
        after.world.attempts = p.world.attempts ++ made ++ [attempt] := by
  induction ids generalizing p count with
  | nil => cases failed
  | cons id rest ih =>
    rw [expireLoop, exec_bind_ok (exec_current p)] at failed
    cases waiting : p.supervisor.pendingOperations[id]? with
    | none =>
      simp only [waiting] at failed
      obtain ⟨closed, mid, closes, fewer, same, made⟩ := ih orderly count failed
      exact ⟨closed, mid, closes, Nat.lt_succ_of_lt fewer, same, made⟩
    | some pending =>
      simp only [waiting] at failed
      change exec (closePending env id pending (expiring id pending) >>= fun _ =>
        expireLoop env rest (count + 1)) p = _ at failed
      have first := closePending_cases env p waiting (expiring id)
      rcases closed : exec (closePending env id pending (expiring id pending)) p with
        ⟨early | _, mid⟩
      · rw [exec_bind_error closed] at failed
        cases failed
        obtain ⟨same, attempt, rejected, attempts⟩ := closePending_rejected orderly waiting closed
        exact ⟨[], p, .nil p, Nat.succ_pos _, same, [], attempt, rejected, by simpa using attempts⟩
      · rw [exec_bind_ok closed] at failed
        rw [closed] at first
        have closes : Closes p id (expiring id) mid := first
        obtain ⟨others, last, rest, fewer, same, made, attempt, rejected, attempts⟩ :=
          ih (orderly.closes closes) (count + 1) failed
        refine ⟨id :: others, last, .cons closes rest, Nat.succ_lt_succ fewer, same, ?_⟩
        obtain ⟨store, held, record, _, _, _, _⟩ := closes
        refine ⟨⟨held.taskId, [expiring id held, .stateTransitioned record.state .failed], true⟩
          :: made, attempt, rejected, ?_⟩
        rw [attempts]
        simp only [World.record, List.append_assoc, List.cons_append, List.nil_append]

theorem expireApprovals_rejected (orderly : Orderly env p) {stop : Stop}
    (failed : exec (expireApprovals env) p = (.error stop, after)) :
    ∃ closed mid, ClosesAll p.ticked closed mid ∧ closed.length < (overdue env p).length ∧
      after.supervisor = mid.supervisor ∧ ∃ made attempt, attempt.accepted = false ∧
        after.world.attempts = p.world.attempts ++ made ++ [attempt] := by
  have unfolded : exec (expireApprovals env) p =
      exec (expireLoop env (overdue env p) 0) p.ticked := by
    unfold expireApprovals
    rw [exec_bind_ok (exec_now env _), exec_bind_ok (exec_current _)]
    rfl
  rw [unfolded] at failed
  exact expireLoop_rejected (orderly.quiet (quiet_ticked p)) _ 0 failed

end supervisor

section maps
variable {A O : Type}

namespace ExecutionGate

theorem foldl_dropOperation_pending (ids : List OperationId) (gate : ExecutionGate A O) :
    (ids.foldl dropOperation gate).pending = ids.foldl (fun m id => m.erase id) gate.pending := by
  have drop : ∀ (gate : ExecutionGate A O) (id : OperationId),
      (gate.dropOperation id).pending = gate.pending.erase id := by
    intro gate id
    unfold dropOperation
    split
    · rfl
    · rename_i missing
      apply OrdMap.ext
      intro other
      rw [OrdMap.get_erase]
      split
      · rename_i same
        rw [← same, missing]
      · rfl
  induction ids generalizing gate with
  | nil => rfl
  | cons id rest ih => rw [List.foldl_cons, List.foldl_cons, ih, drop]

theorem removeTask_pending {gate : ExecutionGate A O} {taskId : TaskId}
    {operationId : OperationId} {pending : PendingExecution O} :
    (gate.removeTask taskId).pending[operationId]? = some pending ↔
      gate.pending[operationId]? = some pending ∧ pending.taskId ≠ taskId := by
  have selected : operationId ∈ gate.pending.toList.filterMap
        (fun e => if e.2.taskId = taskId then some e.1 else none) ↔
      ∃ held, gate.pending[operationId]? = some held ∧ held.taskId = taskId := by
    rw [List.mem_filterMap]
    constructor
    · rintro ⟨⟨id, held⟩, member, chosen⟩
      split at chosen
      · rename_i own
        cases Option.some.inj chosen
        exact ⟨held, OrdMap.mem_toList.mp member, own⟩
      · cases chosen
    · rintro ⟨held, found, own⟩
      exact ⟨(operationId, held), OrdMap.mem_toList.mpr found, if_pos own⟩
  rw [removeTask, foldl_dropOperation_pending, OrdMap.get_foldl_erase]
  constructor
  · intro left
    split at left
    · cases left
    · rename_i kept
      exact ⟨left, fun own => kept (selected.mpr ⟨pending, left, own⟩)⟩
  · rintro ⟨found, apart⟩
    rw [if_neg]
    · exact found
    · intro member
      obtain ⟨held, there, own⟩ := selected.mp member
      cases Option.some.inj (found.symm.trans there)
      exact apart own

theorem foldl_removeTask_pending (taskIds : List TaskId) {gate : ExecutionGate A O}
    {operationId : OperationId} {pending : PendingExecution O} :
    (taskIds.foldl removeTask gate).pending[operationId]? = some pending ↔
      gate.pending[operationId]? = some pending ∧ pending.taskId ∉ taskIds := by
  induction taskIds generalizing gate with
  | nil => simp
  | cons taskId rest ih =>
    rw [List.foldl_cons, ih, removeTask_pending, List.mem_cons, not_or, and_assoc]

theorem purgeTerminal_pending {S : Type} {gate : ExecutionGate A O}
    {supervisor : TaskSupervisor S} {operationId : OperationId} {pending : PendingExecution O}
    (left : (gate.purgeTerminal supervisor).pending[operationId]? = some pending) :
    gate.pending[operationId]? = some pending ∧
      ∀ state, supervisor.taskState pending.taskId = some state → state.isTerminal = false := by
  obtain ⟨found, kept⟩ := (foldl_removeTask_pending _).mp left
  refine ⟨found, fun state reported => ?_⟩
  by_contra terminal
  apply kept
  refine List.mem_filterMap.mpr ⟨(operationId, pending), OrdMap.mem_toList.mpr found, ?_⟩
  rw [if_pos]
  rw [TaskSupervisor.get, reported]
  exact Bool.of_not_eq_false terminal

end ExecutionGate

end maps

section gate
variable {S A O Output Err : Type} [LawfulEventStore S] [GuardedOperation O] {env : Env}
  {p after : Process S} {gate : ExecutionGate A O}

/-- The supervisor holds the request of every operation that the gate retains. -/
def Backed (p : Process S) (gate : ExecutionGate A O) : Prop :=
  ∀ (operationId : OperationId) (pending : PendingExecution O),
    gate.pending[operationId]? = some pending →
      ∃ request, p.supervisor.pendingOperations[pending.approvalId]? = some request

def Holds (p after : Process S) : Prop :=
  ∀ (id : ApprovalId) (request : PendingOperation),
    p.supervisor.pendingOperations[id]? = some request →
      after.supervisor.pendingOperations[id]? = some request

omit [LawfulEventStore S] [GuardedOperation O] in
theorem Backed.holds (backed : Backed p gate) (holds : Holds p after) : Backed after gate := by
  intro operationId pending retained
  obtain ⟨request, held⟩ := backed operationId pending retained
  exact ⟨request, holds _ request held⟩

theorem holds_failed {α : Type} (orderly : Orderly env p) (call : Call) {method : SupervisorM S α}
    (performs : (call.perform env : SupervisorM S Unit) = discard method) {stop : Stop}
    (failed : (exec method p).1 = .error stop) (prompt : call.expired env p = []) :
    Holds p (exec method p).2 := by
  intro id request held
  have stopped : (call.run env p).1 = .error stop := by
    rw [Call.run, performs]
    exact exec_discard_error.mpr failed
  have same := failed_requests orderly stopped prompt id
  rw [run_of_exec call performs (Prod.eta _).symm] at same
  exact same.trans held

theorem holds_request (orderly : Orderly env p) {taskId : TaskId} {request : CapabilityRequest}
    {ttl : Duration} {result : OperationAuthorization}
    (answered : exec (requestOperation env taskId request ttl) p = (.ok result, after))
    (prompt : overdue env p = []) : Holds p after := by
  intro id kept held
  obtain ⟨mid, closed, leads, ready, decides⟩ := requestOperation_ok orderly answered
  cases pass_idle leads prompt
  cases decides with
  | allowed noted => cases noted; exact held
  | denied noted => cases noted; exact held
  | asked ids asks =>
    cases asks
    change (p.supervisor.pendingOperations.insert _ _)[id]? = _
    rw [OrdMap.get_insert, if_neg]
    · exact held
    · rintro rfl
      exact orderly.registry.known _ kept held _ (Nat.le_succ _) rfl

omit [LawfulEventStore S] in
theorem backed_removed (attached : Attached env p gate) (backed : Backed p gate)
    {approvalId : ApprovalId} {operationId : OperationId}
    (indexed : gate.approvalIndex[approvalId]? = some operationId)
    (erased : after.supervisor.pendingOperations =
      p.supervisor.pendingOperations.erase approvalId) :
    Backed after (gate.removePending approvalId operationId).2 := by
  intro other pending left
  change (gate.pending.erase operationId)[other]? = some pending at left
  rw [OrdMap.get_erase] at left
  split at left
  · cases left
  · rename_i distinct
    obtain ⟨request, held⟩ := backed other pending left
    refine ⟨request, ?_⟩
    rw [erased, OrdMap.get_erase, if_neg]
    · exact held
    · rintro rfl
      have own := (attached.inverse pending.approvalId other).mpr ⟨pending, left, rfl⟩
      exact distinct (Option.some.inj (indexed.symm.trans own))

theorem backed_finished (attached : Attached env p gate) (backed : Backed p gate)
    {taskId : TaskId} {next : TaskState} {failure : Option ErrorCode}
    (finishes : Finishes p taskId next failure after) :
    Backed after (gate.removeTask taskId) := by
  intro operationId pending left
  obtain ⟨found, apart⟩ := ExecutionGate.removeTask_pending.mp left
  obtain ⟨request, held⟩ := backed operationId pending found
  refine ⟨request, finishes.requests held ?_⟩
  rw [attached.bound.binds operationId pending request found held]
  exact apart

variable [ExecutionAdapter A O Output Err] {σ : System S A O}

/-- Every approval-related call goes through the gate. -/
def Act.throughGate : Act O → Bool
  | .direct call => !call.approvalRelated
  | _ => true

/-- The step closes no request behind the gate's back: no approval is overdue when a call
about one operation starts its pass, a pass that stops has closed nothing, and a direct call that
ends a Task stores nothing while the gate retains an operation of it. -/
def Act.Prompt (env : Env) (σ : System S A O) : Act O → Prop
  | .request .. => overdue env σ.process = []
  | .approveAndExecute approvalId | .deny approvalId =>
    σ.gate.approvalIndex[approvalId]? = none ∨ overdue env σ.process = []
  | .expire =>
    (overdue env σ.process).length ≤ 1 ∨
      ∀ attempt ∈ (σ.run env .expire).process.world.attempts.drop
        σ.process.world.attempts.length, attempt.accepted = true
  | .direct call => ∀ e ∈ σ.gate.pending.toList, call.ended = some e.2.taskId →
      (σ.run env (.direct call)).process.world.batches = σ.process.world.batches
  | .cancel _ | .elapse => True

instance (env : Env) (σ : System S A O) (act : Act O) : Decidable (act.Prompt env σ) :=
  match act with
  | .request .. => inferInstanceAs (Decidable (_ = []))
  | .approveAndExecute _ | .deny _ => inferInstanceAs (Decidable (_ ∨ _))
  | .expire => inferInstanceAs (Decidable (_ ∨ _))
  | .direct call =>
    inferInstanceAs (Decidable (∀ e ∈ σ.gate.pending.toList, call.ended = some e.2.taskId →
      (σ.run env (.direct call)).process.world.batches = σ.process.world.batches))
  | .cancel _ | .elapse => isTrue trivial

theorem backed_request (attached : Attached env σ.process σ.gate)
    (backed : Backed σ.process σ.gate) (taskId : TaskId) (operation : O) (ttl : Duration)
    (prompt : overdue env σ.process = []) :
    Backed (σ.run env (.request taskId operation ttl)).process
      (σ.run env (.request taskId operation ttl)).gate := by
  have orderly := attached.orderly
  simp only [System.run, ExecutionGate.exec_request]
  split
  · rename_i stop failed
    exact backed.holds (holds_failed orderly (.requestOperation taskId _ ttl) rfl failed prompt)
  · rename_i answered
    have kept : Backed (ExecutionGate.asking env σ taskId operation ttl).process σ.gate :=
      backed.holds (holds_request orderly (Prod.ext answered rfl) prompt)
    exact kept
  · rename_i reason answered
    exact backed.holds (holds_request orderly (Prod.ext answered rfl) prompt)
  · rename_i approval answered
    have kept := backed.holds (holds_request orderly (Prod.ext answered rfl) prompt)
    rw [if_pos (by rw [(attached.new answered).1]; rfl)]
    intro operationId pending retained
    change (σ.gate.pending.insert approval.operationId _)[operationId]? = some pending at retained
    rw [OrdMap.get_insert] at retained
    split at retained
    · cases Option.some.inj retained
      obtain ⟨_, _, _, _, _, asked⟩ := requestOperation_asked orderly (Prod.ext answered rfl)
      exact ⟨_, asked⟩
    · exact kept operationId pending retained

theorem backed_approve (attached : Attached env σ.process σ.gate)
    (backed : Backed σ.process σ.gate) (approvalId : ApprovalId)
    (prompt : σ.gate.approvalIndex[approvalId]? = none ∨ overdue env σ.process = []) :
    Backed (σ.run env (.approveAndExecute approvalId)).process
      (σ.run env (.approveAndExecute approvalId)).gate := by
  have orderly := attached.orderly
  simp only [System.run, ExecutionGate.exec_approveAndExecute]
  split
  · exact backed
  rename_i operationId indexed
  have prompt : overdue env σ.process = [] := by
    rcases prompt with unknown | prompt
    · rw [unknown] at indexed
      cases indexed
    · exact prompt
  split
  · exact backed
  rename_i pending present
  split
  · rename_i stop failed
    exact backed.holds (holds_failed orderly (.approveOperation approvalId) rfl failed prompt)
  rename_i task answered
  have taken : Backed (ExecutionGate.approving env σ approvalId operationId).process
      (ExecutionGate.approving env σ approvalId operationId).gate := by
    obtain ⟨mid, closed, leads, _, _, grants⟩ :=
      approveOperation_ok orderly (Prod.ext answered rfl)
    cases pass_idle leads prompt
    exact backed_removed attached backed indexed grants.pending_erased
  have used : Backed (ExecutionGate.consuming env σ approvalId operationId pending).process
      (ExecutionGate.approving env σ approvalId operationId).gate := by
    apply taken.holds
    intro id request held
    change (exec (authorizeOperation env pending.taskId operationId _)
      (ExecutionGate.approving env σ approvalId operationId).process).2.supervisor.pendingOperations[
        id]? = _
    rw [authorizeOperation_requests]
    exact held
  split
  · exact used
  · exact used

theorem backed_deny (attached : Attached env σ.process σ.gate)
    (backed : Backed σ.process σ.gate) (approvalId : ApprovalId)
    (prompt : σ.gate.approvalIndex[approvalId]? = none ∨ overdue env σ.process = []) :
    Backed (σ.run env (.deny approvalId)).process (σ.run env (.deny approvalId)).gate := by
  simp only [System.run, ExecutionGate.exec_deny]
  split
  · exact backed
  rename_i operationId indexed
  have prompt : overdue env σ.process = [] := by
    rcases prompt with unknown | prompt
    · rw [unknown] at indexed
      cases indexed
    · exact prompt
  split
  · rename_i stop failed
    exact backed.holds
      (holds_failed attached.orderly (.denyOperation approvalId) rfl failed prompt)
  · rename_i task answered
    obtain ⟨mid, closed, leads, denies⟩ := denyOperation_ok (Prod.ext answered rfl)
    cases pass_idle leads prompt
    exact backed_removed attached backed indexed denies.pending_erased

theorem backed_expire (attached : Attached env σ.process σ.gate)
    (backed : Backed σ.process σ.gate) (prompt : Act.Prompt env σ .expire) :
    Backed (σ.run env .expire).process (σ.run env .expire).gate := by
  have orderly := attached.orderly
  simp only [Act.Prompt, System.run, ExecutionGate.exec_expire] at prompt ⊢
  split
  · -- the pass has stopped: nothing may have been closed
    rename_i stop failed
    simp only [failed] at prompt
    obtain ⟨closed, mid, closes, fewer, same, made, attempt, rejected, attempts⟩ :=
      expireApprovals_rejected orderly (Prod.ext failed rfl)
    rcases prompt with short | accepted
    · have none : closed = [] := List.length_eq_zero_iff.mp (by omega)
      subst none
      cases closes
      apply backed.holds
      intro id request held
      change (exec (expireApprovals env) σ.process).2.supervisor.pendingOperations[id]? = _
      rw [same]
      exact held
    · have member : attempt ∈ (exec (expireApprovals env) σ.process).2.world.attempts.drop
          σ.process.world.attempts.length := by
        rw [attempts, List.append_assoc]
        rw [List.drop_left]
        exact List.mem_append_right _ (List.mem_singleton_self _)
      rw [accepted attempt member] at rejected
      cases rejected
  · -- the requests that were closed belong to Tasks that have failed now
    rename_i count passed
    obtain ⟨closed, leads, _⟩ := expireApprovals_ok env σ.process (Prod.ext passed rfl)
    intro operationId pending left
    obtain ⟨found, live⟩ := ExecutionGate.purgeTerminal_pending left
    obtain ⟨request, held⟩ := backed operationId pending found
    rcases pass_processed orderly leads pending.approvalId with untouched | ⟨_, processed⟩
    · exact ⟨request, untouched.pending.trans held⟩
    · obtain ⟨closedRequest, record, waiting, _, _, _, failed, _⟩ := processed
      cases Option.some.inj (held.symm.trans waiting)
      rw [attached.bound.binds operationId pending request found held] at failed
      have terminal := live .failed (TaskSupervisor.taskState_of_record failed)
      cases terminal

theorem backed_cancel (attached : Attached env σ.process σ.gate)
    (backed : Backed σ.process σ.gate) (taskId : TaskId) :
    Backed (σ.run env (.cancel taskId)).process (σ.run env (.cancel taskId)).gate := by
  have orderly := attached.orderly
  have cases := cancel_cases env σ.process orderly.recoveredTerminal taskId
  simp only [System.run, ExecutionGate.exec_cancel]
  generalize exec (cancel env taskId) σ.process = out at cases ⊢
  obtain ⟨stop | changed, after⟩ := out
  · have quiet : Quiet σ.process after := cases
    apply backed.holds
    intro id request held
    rw [quiet.same]
    exact held
  · rcases cases with ⟨_, rfl⟩ | ⟨_, finishes⟩
    · intro operationId pending left
      exact backed operationId pending (ExecutionGate.removeTask_pending.mp left).1
    · exact backed_finished attached backed finishes

theorem backed_direct (attached : Attached env σ.process σ.gate)
    (backed : Backed σ.process σ.gate) {call : Call} (outer : call.approvalRelated = false)
    (prompt : Act.Prompt env σ (.direct call)) :
    Backed (σ.run env (.direct call)).process (σ.run env (.direct call)).gate := by
  obtain ⟨process, gate, _, _⟩ := System.direct_same env σ call
  rw [System.run, process, gate]
  intro operationId pending found
  obtain ⟨request, held⟩ := backed operationId pending found
  refine ⟨request, outer_requests attached.orderly outer held ?_⟩
  rw [attached.bound.binds operationId pending request found held]
  intro ended
  have still := prompt (operationId, pending) (OrdMap.mem_toList.mpr found) ended
  rwa [System.run, process] at still

theorem backed_run (attached : Attached env σ.process σ.gate) (backed : Backed σ.process σ.gate)
    {act : Act O} (through : act.throughGate = true) (prompt : act.Prompt env σ) :
    Backed (σ.run env act).process (σ.run env act).gate := by
  cases act with
  | request taskId operation ttl =>
    exact backed_request attached backed taskId operation ttl prompt
  | approveAndExecute approvalId => exact backed_approve attached backed approvalId prompt
  | deny approvalId => exact backed_deny attached backed approvalId prompt
  | expire => exact backed_expire attached backed prompt
  | cancel taskId => exact backed_cancel attached backed taskId
  | direct call =>
    have outer : call.approvalRelated = false := by simpa [Act.throughGate] using through
    exact backed_direct attached backed outer prompt
  | elapse => exact backed

omit [GuardedOperation O] in
theorem stable_capped (fresh : Function.Injective env.uuid) :
    Stable env (fun σ : System S A O => Orderly env σ.process ∧ Capped σ.process) where
  call _ call _ holds := ⟨holds.1.call fresh call, holds.2.call holds.1 call⟩
  gate _ _ _ holds := holds
  execute _ _ _ _ holds := ⟨⟨holds.1.registry, holds.1.records⟩, holds.2⟩

theorem capped_run (fresh : Function.Injective env.uuid) (orderly : Orderly env σ.process)
    (capped : Capped σ.process) (act : Act O) : Capped (σ.run env act).process := by
  have inside : act.gated = true → Capped (σ.run env act).process := by
    intro gated
    have entered : Orderly env (σ.entered act).process ∧ Capped (σ.entered act).process := by
      cases act <;> exact ⟨orderly, capped⟩
    exact ((stable_capped fresh).run gated entered).2
  cases act with
  | direct call =>
    rw [System.run, (System.direct_same env σ call).1]
    exact capped.call orderly call
  | elapse => exact capped
  | _ => exact inside rfl

/-- Retention as it is documented: only operations with a pending approval are retained, so
that the authority bounds their number, and none of them belongs to a terminal Task. -/
structure RetentionBounded (σ : System S A O) : Prop where
  backed : ∀ (operationId : OperationId) (pending : PendingExecution O),
    σ.gate.pending[operationId]? = some pending →
      pending.approvalId ∈ σ.process.supervisor.pendingOperations
  bounded : σ.gate.pendingCount ≤ σ.process.supervisor.approvalAuthority.maxPending
  live : ∀ (operationId : OperationId) (pending : PendingExecution O),
    σ.gate.pending[operationId]? = some pending →
      ∃ state, σ.process.supervisor.taskState pending.taskId = some state ∧
        state.isTerminal = false

omit [LawfulEventStore S] [ExecutionAdapter A O Output Err] in
theorem Backed.retention (backed : Backed σ.process σ.gate)
    (attached : Attached env σ.process σ.gate) (capped : Capped σ.process) :
    RetentionBounded σ where
  backed operationId pending retained :=
    OrdMap.mem_iff.mpr (backed operationId pending retained)
  bounded := by
    refine Nat.le_trans (OrdMap.size_le_of_injective (fun _ pending => pending.approvalId) ?_ ?_)
      capped
    · intro operationId pending retained
      obtain ⟨request, held⟩ := backed operationId pending retained
      obtain ⟨entry, registered, _⟩ := attached.orderly.registry.registered _ request held
      exact ⟨entry, registered⟩
    · intro one other first second present there same
      have indexed := (attached.inverse _ one).mpr ⟨first, present, same⟩
      have again := (attached.inverse _ other).mpr ⟨second, there, rfl⟩
      exact Option.some.inj (indexed.symm.trans again)
  live operationId pending retained := by
    obtain ⟨request, held⟩ := backed operationId pending retained
    obtain ⟨record, found, live⟩ := attached.orderly.registry.live _ request held
    rw [attached.bound.binds operationId pending request retained held] at found
    refine ⟨record.state, TaskSupervisor.taskState_of_record found, ?_⟩
    rcases live with state | state <;> rw [state] <;> rfl

namespace System

/-- The runs in which every approval-related call goes through the gate and every step meets
the condition. -/
inductive Prompts (env : Env) : System S A O → Prop where
  | start {process : Process S} (constructed : Constructed env process) (adapter : A) :
      Prompts env (start process adapter)
  | step {σ : System S A O} (runs : Prompts env σ) (act : Act O)
      (through : act.throughGate = true) (prompt : act.Prompt env σ) : Prompts env (σ.run env act)

def PromptAll (env : Env) : System S A O → List (Act O) → Prop
  | _, [] => True
  | σ, act :: rest =>
    act.throughGate = true ∧ act.Prompt env σ ∧ PromptAll env (σ.run env act) rest

instance decidablePromptAll (env : Env) :
    ∀ (σ : System S A O) (acts : List (Act O)), Decidable (PromptAll env σ acts)
  | _, [] => isTrue trivial
  | σ, act :: rest =>
    have := decidablePromptAll env (σ.run env act) rest
    inferInstanceAs (Decidable (act.throughGate = true ∧ act.Prompt env σ ∧ _))

theorem Prompts.runAll (runs : Prompts env σ) {acts : List (Act O)}
    (all : PromptAll env σ acts) : Prompts env (σ.runAll env acts) := by
  induction acts generalizing σ with
  | nil => exact runs
  | cons act rest ih => exact ih (runs.step act all.1 all.2.1) all.2.2

/-- Gate retention: in every state of every such run. -/
theorem retention_bounded (fresh : Function.Injective env.uuid) (runs : Prompts env σ) :
    RetentionBounded σ := by
  have kept : Attached env σ.process σ.gate ∧ Capped σ.process ∧ Backed σ.process σ.gate := by
    induction runs with
    | start constructed adapter =>
      refine ⟨attached_start constructed.registered.1 adapter, ?_, ?_⟩
      · exact constructed.capped
      · intro operationId pending retained
        cases retained
    | step _ act through prompt ih =>
      obtain ⟨attached, capped, backed⟩ := ih
      exact ⟨attached.run fresh act, capped_run fresh attached.orderly capped act,
        backed_run attached backed through prompt⟩
  exact kept.2.2.retention kept.1 kept.2.1

end System

end gate

namespace Sample

def second : TaskSpec := { spec with idempotencyKey := "second" }

def overtaken : List (Act Order) :=
  [.direct (.submit spec), .direct (.submit second), .direct (.start ⟨0⟩), .direct (.start ⟨1⟩),
    .request ⟨0⟩ ⟨push⟩ (10 ^ 6), .request ⟨1⟩ ⟨push⟩ (10 ^ 9)]

set_option maxRecDepth 4000 in
/-- The gate keeps the operation of a Task that has failed and whose approval is gone. -/
theorem retention_unbounded_overtaken :
    overtaken.all Act.throughGate = true ∧ System.Runs env (system overtaken) ∧
      ¬ RetentionBounded (system overtaken) := by
  refine ⟨by decide, System.Runs.runAll (.start (.new _ _) _) _, ?_⟩
  intro retention
  have kept : (system overtaken).gate.pending[(⟨2⟩ : OperationId)]? =
      some ⟨⟨0⟩, ⟨3⟩, ⟨push⟩⟩ := by decide +kernel
  obtain ⟨state, reported, live⟩ := retention.live ⟨2⟩ _ kept
  have failed : (system overtaken).process.supervisor.taskState ⟨0⟩ = some .failed := by
    decide +kernel
  cases Option.some.inj (failed.symm.trans reported)
  cases live

/-- Two Tasks wait in time, one is approved, and the other one ends at its expiry. The first waits
again and cannot be ended as succeeded. -/
def punctual : List (Act Order) :=
  [.direct (.submit spec), .direct (.submit second), .direct (.start ⟨0⟩), .direct (.start ⟨1⟩),
    .request ⟨0⟩ ⟨push⟩ (10 ^ 9), .request ⟨1⟩ ⟨push⟩ (4 * 10 ^ 6), .approveAndExecute ⟨3⟩,
    .expire, .request ⟨0⟩ ⟨push⟩ (10 ^ 9), .direct (.succeed ⟨0⟩)]

set_option maxRecDepth 4000 in
theorem retention_bounded_punctual :
    RetentionBounded (system punctual) ∧ (system punctual).gate.pendingCount = 1 ∧
      (system punctual).process.supervisor.taskState ⟨1⟩ = some .failed := by
  have all : System.PromptAll env (system []) punctual := by decide +kernel
  exact ⟨System.retention_bounded uuid_injective
    (System.Prompts.runAll (.start (.new _ _) _) all), by decide +kernel⟩

end Sample

end AiOs
