import AiOs.Runtime.Failure

/-! How Tasks block each other. The pass in front of a call works on the requests of all
Tasks, and the call fails with it. With storage that fails only by capacity this is the one
way in which a full log of another Task is felt, and it is felt exactly when an expired
request cannot be recorded. -/
namespace AiOs

open Fallible

variable {S : Type} [LawfulEventStore S] {env : Env} {p : Process S}

structure OnlyCapacity (env : Env) (p : Process S) : Prop where
  calm : ∀ i, (env.io i).Calm
  bounded : LawfulEventStore.capacity p.supervisor.eventStore < 2 ^ 63

def Room (p : Process S) (taskId : TaskId) (events : Nat) : Prop :=
  (LawfulEventStore.log p.supervisor.eventStore taskId).length + events ≤
    LawfulEventStore.capacity p.supervisor.eventStore

/-- One of the requests belongs to a Task whose log cannot take the two events of its
expiry. -/
def Blocked (p : Process S) (ids : List ApprovalId) : Prop :=
  ∃ id ∈ ids, ∃ pending, p.supervisor.pendingOperations[id]? = some pending ∧
    ¬ Room p pending.taskId 2

/-- A part that fails only for lack of space: it ends well where there is enough, and with a
storage error where there is not. -/
def FitsOr {α : Type} (enough : Prop) (effect : Process S → Prop) :
    Except Stop α × Process S → Prop
  | (.ok _, after) => enough ∧ effect after
  | (.error (.err (.eventStore _)), _) => ¬ enough
  | (.error _, _) => False

/-- A batch that is rejected although storage fails only by capacity did not fit. -/
theorem tryAppend_capacity {β : Type} {taskId : TaskId} {kinds : List TaskEventKind}
    {f : Except EventStoreError (List TaskEvent) → SupervisorM S β}
    {P : Except Stop β × Process S → Prop} (only : OnlyCapacity env p)
    (sequenced : Sequenced (LawfulEventStore.log p.supervisor.eventStore taskId))
    (full : ∀ e, ¬ Room p taskId kinds.length →
      P (exec (f (.error e)) ⟨p.world.record taskId kinds false, p.supervisor⟩))
    (fits : ∀ events store, Appended p.supervisor.eventStore store taskId kinds →
      P (exec (f (.ok events))
        ⟨p.world.record taskId kinds true, { p.supervisor with eventStore := store }⟩)) :
    P (exec (tryAppend env taskId kinds >>= f) p) := by
  rcases tryAppend_cases env p taskId kinds with ⟨events, store, appended, h⟩ | ⟨e, h⟩
  · rw [exec_bind_ok h]
    exact fits events store appended
  · rw [exec_bind_ok h]
    have overflow := rejected_full env only.calm only.bounded sequenced h
    exact full e (Nat.not_le.mpr overflow)

theorem append_capacity {β : Type} {taskId : TaskId} {kinds : List TaskEventKind}
    {f : Unit → SupervisorM S β} {P : Except Stop β × Process S → Prop}
    (only : OnlyCapacity env p)
    (sequenced : Sequenced (LawfulEventStore.log p.supervisor.eventStore taskId))
    (full : ∀ e, ¬ Room p taskId kinds.length → P (.error (.err (.eventStore e)),
      ⟨p.world.record taskId kinds false, p.supervisor⟩))
    (fits : ∀ store, Appended p.supervisor.eventStore store taskId kinds →
      P (exec (f ()) ⟨p.world.record taskId kinds true,
        { p.supervisor with eventStore := store }⟩)) :
    P (exec (appendBatch env taskId kinds >>= f) p) := by
  unfold appendBatch
  rw [bind_assoc]
  apply tryAppend_capacity only sequenced
  · exact full
  · intro events store appended
    exact fits store appended

theorem closePending_capacity (coherent : Coherent env p) (only : OnlyCapacity env p)
    {id : ApprovalId} {pending : PendingOperation}
    (waiting : p.supervisor.pendingOperations[id]? = some pending)
    (closing : PendingOperation → TaskEventKind) :
    FitsOr (Room p pending.taskId 2) (Closes p id closing)
      (exec (closePending env id pending (closing pending)) p) := by
  obtain ⟨record, found, live⟩ := coherent.registry.live id pending waiting
  have failable : record.state.canTransitionTo .failed = true := by
    rcases live with running | waits
    · rw [running]
      rfl
    · rw [waits]
      rfl
  unfold closePending
  rw [exec_bind_ok (exec_current p), exec_bind_ok (exec_okOr_found found _ _),
    exec_bind_ok (exec_propose_allowed failable p)]
  apply append_capacity only (coherent.logs.sequenced pending.taskId)
  · intro e overflow
    exact overflow
  · intro store appended
    rw [exec_bind_ok (exec_update _ _), exec_setState record]
    · exact ⟨appended.room (List.cons_ne_nil _ _),
        Closes.mk store pending record waiting found failable appended⟩
    · exact found

theorem Closes.capacity {mid : Process S} {id : ApprovalId}
    {closing : PendingOperation → TaskEventKind} (closes : Closes p id closing mid) :
    LawfulEventStore.capacity mid.supervisor.eventStore =
      LawfulEventStore.capacity p.supervisor.eventStore := by
  obtain ⟨store, pending, record, waiting, found, failable, appended⟩ := closes
  exact appended.capacity

theorem OnlyCapacity.closes {mid : Process S} (only : OnlyCapacity env p) {id : ApprovalId}
    {closing : PendingOperation → TaskEventKind} (closes : Closes p id closing mid) :
    OnlyCapacity env mid :=
  ⟨only.calm, closes.capacity ▸ only.bounded⟩

/-- Closing one request moves no other Task's log and no capacity. -/
theorem Closes.blocked_iff {mid : Process S} (coherent : Coherent env p) {id : ApprovalId}
    {closing : PendingOperation → TaskEventKind} (closes : Closes p id closing mid)
    (fits : ∀ pending, p.supervisor.pendingOperations[id]? = some pending →
      Room p pending.taskId 2) (rest : List ApprovalId) :
    Blocked p (id :: rest) ↔ Blocked mid rest := by
  constructor
  · rintro ⟨other, member, pending, present, full⟩
    have apart : other ≠ id := by
      rintro rfl
      exact full (fits pending present)
    have kept := closes.untouched coherent.orderly apart
    refine ⟨other, (List.mem_cons.mp member).resolve_left apart, pending,
      kept.pending.trans present, ?_⟩
    rw [Room, (kept.task pending present).log, closes.capacity]
    exact full
  · rintro ⟨other, member, pending, present, full⟩
    have apart : other ≠ id := by
      rintro rfl
      rw [closes.pending_erased, OrdMap.get_erase, if_pos rfl] at present
      cases present
    have kept := closes.untouched coherent.orderly apart
    rw [kept.pending] at present
    refine ⟨other, List.mem_cons_of_mem _ member, pending, present, ?_⟩
    rw [Room, (kept.task pending present).log, closes.capacity] at full
    exact full

/-- The pass fails with a storage error exactly when one of its requests is blocked, and
otherwise comes to its end. -/
theorem expireLoop_capacity (coherent : Coherent env p) (only : OnlyCapacity env p)
    (ids : List ApprovalId) (count : Nat) :
    FitsOr (¬ Blocked p ids) (fun _ => True) (exec (expireLoop env ids count) p) := by
  induction ids generalizing p count with
  | nil =>
    refine ⟨?_, trivial⟩
    rintro ⟨id, member, _⟩
    cases member
  | cons id rest ih =>
    rw [expireLoop, exec_bind_ok (exec_current p)]
    cases waiting : p.supervisor.pendingOperations[id]? with
    | none =>
      have same : Blocked p (id :: rest) ↔ Blocked p rest := by
        constructor
        · rintro ⟨other, member, pending, present, full⟩
          rcases List.mem_cons.mp member with rfl | later
          · rw [waiting] at present
            cases present
          · exact ⟨other, later, pending, present, full⟩
        · rintro ⟨other, member, rest⟩
          exact ⟨other, List.mem_cons_of_mem _ member, rest⟩
      rw [same]
      exact ih coherent only count
    | some pending =>
      have closing := closePending_capacity coherent only waiting (expiring id)
      rw [expiring] at closing
      apply bind_rule
      · intro stop after failed
        rw [failed] at closing
        rcases stop with (_ | _ | _ | _ | _ | e | _) | _
        all_goals first | exact closing.elim | skip
        intro unblocked
        exact unblocked ⟨id, List.mem_cons_self, pending, waiting, closing⟩
      · intro _ mid closed
        rw [closed] at closing
        obtain ⟨fits, closes⟩ := closing
        have room : ∀ held, p.supervisor.pendingOperations[id]? = some held →
            Room p held.taskId 2 := by
          intro held present
          cases Option.some.inj (waiting.symm.trans present)
          exact fits
        rw [closes.blocked_iff coherent room rest]
        exact ih (coherent.expires closes) (only.closes closes) (count + 1)

/-- A part that meets a storage error only in a given situation. -/
def StorageErrorOnly {α : Type} (situation : Prop) : Except Stop α × Process S → Prop
  | (.error (.err (.eventStore _)), _) => situation
  | _ => True

/-- How many events a request of a running Task appends to its log. -/
def requestedEvents (s : TaskSupervisor S) (taskId : TaskId) (request : CapabilityRequest) :
    Nat :=
  match s.tasks[taskId]? with
  | none => 0
  | some record =>
    match CapabilityPolicy.fromTask record.spec with
    | .error _ => 0
    | .ok policy => if policy.evaluate request = .approvalRequired then 2 else 1

omit [LawfulEventStore S] in
theorem requestedEvents_eq {taskId : TaskId} {record : TaskRecord} {s : TaskSupervisor S}
    (found : s.tasks[taskId]? = some record) (valid : record.spec.Valid)
    (request : CapabilityRequest) :
    requestedEvents s taskId request =
      if CapabilityPolicy.evaluate ⟨record.spec, valid⟩ request = .approvalRequired then 2
      else 1 := by
  simp only [requestedEvents, found, CapabilityPolicy.fromTask_valid valid]

theorem requestApproval_capacity (coherent : Coherent env p) (only : OnlyCapacity env p)
    (taskId : TaskId) (state : TaskState) (request : CapabilityRequest) (ttl : Duration) :
    StorageErrorOnly (¬ Room p taskId 2)
      (exec (requestApproval env taskId state request ttl) p) := by
  unfold requestApproval
  rw [exec_bind_ok (exec_current p)]
  apply ensure_rule
  · exact fun _ => trivial
  intro _
  rw [exec_bind_ok (exec_newUuid env p), exec_bind_ok (exec_now env _),
    exec_bind_ok (exec_newUuid env _)]
  rcases asked : p.supervisor.approvalAuthority.request taskId (askedOperation env p)
    request.action ttl (env.clock p.world.reads) (askedApproval env p) with ⟨outcome, authority⟩
  rw [exec_bind_ok (exec_withAuthority asked)]
  cases outcome with
  | error e => trivial
  | ok approval =>
    rw [exec_bind_ok (exec_approvalOr_ok _ _)]
    -- the registration is in another field than the store
    refine tryAppend_capacity ?_ ?_ ?_ ?_
    · exact ⟨only.calm, only.bounded⟩
    · exact coherent.logs.sequenced taskId
    · intro e full
      exact full
    · intro events store appended
      rw [exec_bind_ok (exec_update _ _)]
      unfold setState
      rw [bind_assoc, exec_bind_ok (exec_current _), bind_assoc]
      apply okOr_rule
      · exact fun _ => trivial
      · exact fun _ _ => trivial

theorem requestAfterPass_capacity (coherent : Coherent env p) (only : OnlyCapacity env p)
    (taskId : TaskId) (request : CapabilityRequest) (ttl : Duration) :
    StorageErrorOnly (∃ record, p.supervisor.tasks[taskId]? = some record ∧
        record.state = .running ∧ ¬ Room p taskId (requestedEvents p.supervisor taskId request))
      (exec (requestAfterPass env taskId request ttl) p) := by
  unfold requestAfterPass
  rw [exec_bind_ok (exec_current p)]
  apply okOr_rule
  · exact fun _ => trivial
  intro record found
  apply propose_rule
  · exact fun _ => trivial
  intro allowed
  have running := TaskState.transition_to_waiting.mp allowed
  apply evaluate_rule
  · exact fun _ => trivial
  intro valid
  have needs := requestedEvents_eq found valid request
  cases decided : CapabilityPolicy.evaluate ⟨record.spec, valid⟩ request with
  | allow =>
    apply append_capacity only (coherent.logs.sequenced taskId)
    · intro e full
      rw [decided, if_neg (by decide)] at needs
      exact ⟨record, found, running, needs ▸ full⟩
    · exact fun _ _ => trivial
  | deny reason =>
    apply append_capacity only (coherent.logs.sequenced taskId)
    · intro e full
      rw [decided, if_neg (by simp)] at needs
      exact ⟨record, found, running, needs ▸ full⟩
    · exact fun _ _ => trivial
  | approvalRequired =>
    have asks := requestApproval_capacity coherent only taskId record.state request ttl
    rw [decided, if_pos rfl] at needs
    dsimp only
    generalize exec (requestApproval env taskId record.state request ttl) p = out at asks ⊢
    rcases out with ⟨((_ | _ | _ | _ | _ | e | _) | _) | _, after⟩
    all_goals first | trivial | skip
    exact ⟨record, found, running, needs ▸ asks⟩

theorem approveAfterPass_capacity (coherent : Coherent env p) (only : OnlyCapacity env p)
    (id : ApprovalId) :
    StorageErrorOnly (∃ pending, p.supervisor.pendingOperations[id]? = some pending ∧
        ¬ Room p pending.taskId 2)
      (exec (approveAfterPass env id) p) := by
  unfold approveAfterPass
  rw [exec_bind_ok (exec_current p)]
  apply okOr_rule
  · exact fun _ => trivial
  intro pending waiting
  apply okOr_rule
  · exact fun _ => trivial
  intro record found
  apply propose_rule
  · exact fun _ => trivial
  intro resumable
  rw [exec_bind_ok (exec_now env p)]
  rcases asked : p.supervisor.approvalAuthority.approve id (env.clock p.world.reads)
    with ⟨outcome, authority⟩
  rw [exec_bind_ok (exec_withAuthority asked)]
  cases outcome with
  | error e => trivial
  | ok grant =>
    rw [exec_bind_ok (exec_approvalOr_ok _ _)]
    refine tryAppend_capacity ?_ ?_ ?_ ?_
    · exact ⟨only.calm, only.bounded⟩
    · exact coherent.logs.sequenced pending.taskId
    · intro e full
      exact ⟨pending, waiting, full⟩
    · intro events store appended
      rw [exec_bind_ok (exec_current _), exec_bind_ok (exec_okOr_found waiting _ _),
        exec_bind_ok (exec_update _ _), exec_bind_ok (exec_setState record _)]
      · trivial
      · exact found

theorem denyAfterPass_capacity (coherent : Coherent env p) (only : OnlyCapacity env p)
    (id : ApprovalId) :
    StorageErrorOnly (∃ pending, p.supervisor.pendingOperations[id]? = some pending ∧
        ¬ Room p pending.taskId 2)
      (exec (denyAfterPass env id) p) := by
  unfold denyAfterPass
  rw [exec_bind_ok (exec_current p)]
  apply okOr_rule
  · exact fun _ => trivial
  intro pending waiting
  apply ensure_rule
  · exact fun _ => trivial
  intro _
  have closing := closePending_capacity coherent only waiting (denying id)
  rw [denying] at closing
  apply bind_rule
  · intro stop after failed
    rw [failed] at closing
    rcases stop with (_ | _ | _ | _ | _ | e | _) | _
    all_goals first | trivial | skip
    exact ⟨pending, waiting, closing⟩
  · exact fun _ _ _ => trivial

theorem ClosesAll.capacity {closed : List ApprovalId} {mid : Process S}
    (closes : ClosesAll p closed mid) :
    LawfulEventStore.capacity mid.supervisor.eventStore =
      LawfulEventStore.capacity p.supervisor.eventStore := by
  induction closes with
  | nil => rfl
  | cons first _ ih => exact ih.trans first.capacity

theorem pass_sameTask {mid : Process S} {closed : List ApprovalId} (coherent : Coherent env p)
    (leads : PassLeads env p mid closed) {taskId : TaskId} {record : TaskRecord}
    (found : mid.supervisor.tasks[taskId]? = some record) (running : record.state = .running) :
    SameTask p mid taskId := by
  obtain ⟨among, closes⟩ := leads
  have distinct := among.nodup (ApprovalAuthority.expiredIds_nodup _ _)
  have start : SameTask p p.ticked taskId := ⟨rfl, rfl⟩
  refine start.trans (closes.sameTask ?_)
  rintro id member pending present rfl
  obtain ⟨held, before, waiting, _, _, _, failed, _⟩ :=
    closes.processed (coherent.quiet (quiet_ticked p)).orderly distinct member
  cases Option.some.inj (waiting.symm.trans present)
  cases Option.some.inj (found.symm.trans failed)
  cases running

/-- A call about the Task itself whose events have room in the Task's log. The request it
approves or denies is not expired. -/
def OwnRoom (env : Env) (p : Process S) (taskId : TaskId) : Call → Prop
  | .requestOperation owner request _ =>
    owner = taskId ∧ Room p taskId (requestedEvents p.supervisor taskId request)
  | .approveOperation id | .denyOperation id =>
    (∃ pending, p.supervisor.pendingOperations[id]? = some pending ∧ pending.taskId = taskId ∧
      id ∉ p.supervisor.approvalAuthority.expiredIds (env.clock p.world.reads)) ∧
      Room p taskId 2
  | _ => False

/-- A method with a pass: when its own part meets no storage error, the pass decides. -/
theorem pass_capacity {α : Type} {body : SupervisorM S α} (coherent : Coherent env p)
    (only : OnlyCapacity env p)
    (own : ∀ count mid, exec (expireApprovals env) p = (.ok count, mid) →
      StorageErrorOnly False (exec body mid)) :
    (∃ e, (exec (expireApprovals env >>= fun _ => body) p).1 = .error (.err (.eventStore e))) ↔
      Blocked p (p.supervisor.approvalAuthority.expiredIds (env.clock p.world.reads)) := by
  have pass : FitsOr
      (¬ Blocked p (p.supervisor.approvalAuthority.expiredIds (env.clock p.world.reads)))
      (fun _ => True) (exec (expireApprovals env) p) := by
    unfold expireApprovals
    rw [exec_bind_ok (exec_now env p), exec_bind_ok (exec_current _)]
    exact expireLoop_capacity (coherent.quiet (quiet_ticked p)) ⟨only.calm, only.bounded⟩ _ 0
  rcases passed : exec (expireApprovals env) p with ⟨stop | count, mid⟩
  · rw [exec_bind_error passed]
    rw [passed] at pass
    rcases stop with (_ | _ | _ | _ | _ | e | _) | _
    all_goals first | exact pass.elim | skip
    exact ⟨fun _ => not_not.mp pass, fun _ => ⟨e, rfl⟩⟩
  · rw [exec_bind_ok passed]
    rw [passed] at pass
    refine ⟨?_, fun blocked => absurd blocked pass.1⟩
    rintro ⟨e, failed⟩
    have clean := own count mid passed
    generalize exec body mid = out at clean failed
    obtain ⟨result, after⟩ := out
    cases failed
    exact clean.elim

omit [LawfulEventStore S] in
theorem StorageErrorOnly.mono {α : Type} {situation weaker : Prop}
    {out : Except Stop α × Process S} (only : StorageErrorOnly situation out)
    (implied : situation → weaker) : StorageErrorOnly weaker out := by
  rcases out with ⟨((_ | _ | _ | _ | _ | e | _) | _) | _, after⟩
  all_goals first | trivial | skip
  exact implied only

theorem storage_error_iff_blocked (coherent : Coherent env p) (only : OnlyCapacity env p)
    {taskId : TaskId} {call : Call} (own : OwnRoom env p taskId call) :
    (∃ e, (call.run env p).1 = .error (.err (.eventStore e))) ↔
      Blocked p (p.supervisor.approvalAuthority.expiredIds (env.clock p.world.reads)) := by
  -- what holds after a pass that came to its end
  have after : ∀ {count mid}, exec (expireApprovals env) p = (.ok count, mid) →
      OnlyCapacity env mid ∧ (∀ taskId n, SameTask p mid taskId → Room p taskId n →
        Room mid taskId n) ∧ ∃ closed, PassLeads env p mid closed := by
    intro count mid passed
    obtain ⟨closed, leads, _⟩ := expireApprovals_ok env p passed
    have capacity := leads.2.capacity
    refine ⟨⟨only.calm, capacity ▸ only.bounded⟩, ?_, closed, leads⟩
    intro taskId n same room
    rw [Room, same.log, capacity]
    exact room
  -- the request of a call that approves or denies is out of the pass's reach
  have kept : ∀ {count mid id pending}, exec (expireApprovals env) p = (.ok count, mid) →
      p.supervisor.pendingOperations[id]? = some pending →
      id ∉ p.supervisor.approvalAuthority.expiredIds (env.clock p.world.reads) →
      Room p pending.taskId 2 → ¬ ∃ held : PendingOperation,
        mid.supervisor.pendingOperations[id]? = some held ∧ ¬ Room mid held.taskId 2 := by
    rintro count mid id pending passed present unexpired room ⟨held, there, full⟩
    obtain ⟨_, grows, closed, leads⟩ := after passed
    rcases pass_processed coherent.orderly leads id with untouched | ⟨expired, _⟩
    · rw [untouched.pending, present] at there
      cases there
      exact full (grows _ 2 (untouched.task pending present) room)
    · exact unexpired expired
  cases call with
  | requestOperation owner request ttl =>
    obtain ⟨rfl, room⟩ := own
    simp only [Call.run, Call.perform, exec_discard_error]
    refine pass_capacity coherent only ?_
    intro count mid passed
    obtain ⟨still, grows, closed, leads⟩ := after passed
    refine (requestAfterPass_capacity (coherent.passed env p passed) still owner request ttl).mono
      ?_
    rintro ⟨record, found, running, full⟩
    have same := pass_sameTask coherent leads found running
    apply full
    have needs : requestedEvents mid.supervisor owner request =
        requestedEvents p.supervisor owner request := by
      simp only [requestedEvents, same.record]
    rw [needs]
    exact grows owner _ same room
  | approveOperation id =>
    obtain ⟨⟨pending, present, rfl, unexpired⟩, room⟩ := own
    simp only [Call.run, Call.perform, exec_discard_error]
    refine pass_capacity coherent only ?_
    intro count mid passed
    exact (approveAfterPass_capacity (coherent.passed env p passed) (after passed).1 id).mono
      (kept passed present unexpired room)
  | denyOperation id =>
    obtain ⟨⟨pending, present, rfl, unexpired⟩, room⟩ := own
    simp only [Call.run, Call.perform, exec_discard_error]
    refine pass_capacity coherent only ?_
    intro count mid passed
    exact (denyAfterPass_capacity (coherent.passed env p passed) (after passed).1 id).mono
      (kept passed present unexpired room)
  | _ => exact own.elim

namespace Daemon

/-- With storage that fails only by capacity, a call about a Task with enough room in its
own log meets a storage error if and only if the expiry of another request does not fit. -/
theorem approvals_blocked_iff {env : Env} (fresh : Function.Injective env.uuid) {p : Process S}
    (reached : Reached env Anything (.up p)) (only : OnlyCapacity env p) (taskId : TaskId)
    (call : Call) (own : OwnRoom env p taskId call) :
    (∃ e, (call.run env p).1 = .error (.err (.eventStore e))) ↔
      ∃ id ∈ p.supervisor.approvalAuthority.expiredIds (env.clock p.world.reads), ∃ pending,
        p.supervisor.pendingOperations[id]? = some pending ∧ ¬ Room p pending.taskId 2 :=
  storage_error_iff_blocked (reached.sound fresh) only own

end Daemon

namespace Sample

def crowded : List Call :=
  [.submit spec, .start ⟨0⟩, .requestOperation ⟨0⟩ push (10 ^ 6),
    .submit { spec with idempotencyKey := "other" }, .start ⟨3⟩]

def otherRequest : Call := .requestOperation ⟨3⟩ push (10 ^ 9)

theorem env_only_capacity {p : Process InMemoryEventStore}
    (bounded : p.supervisor.eventStore.maxEventsPerTask < 2 ^ 63) : OnlyCapacity Sample.env p :=
  ⟨fun _ => ⟨rfl, rfl, fun _ => Nat.two_pow_pos 63⟩, bounded⟩

end Sample

set_option maxRecDepth 4000 in
/-- The second Task's request fails although its own log has room, and it succeeds where the
first Task's log has room, too. -/
theorem request_blocked_by_other :
    Daemon.Reached Sample.env Daemon.Anything (.up (Sample.process 7 Sample.crowded)) ∧
    Room (Sample.process 7 Sample.crowded) ⟨3⟩
      (requestedEvents (Sample.process 7 Sample.crowded).supervisor ⟨3⟩ Sample.push) ∧
    (Sample.otherRequest.run Sample.env (Sample.process 7 Sample.crowded)).1 =
      .error (.err (.eventStore .capacityExceeded)) ∧
    (Sample.otherRequest.run Sample.env (Sample.process 8 Sample.crowded)).1 = .ok () := by
  refine ⟨Sample.process_reached (by decide), ?_, by decide +kernel, by decide +kernel⟩
  unfold Room
  decide +kernel

set_option maxRecDepth 4000 in
theorem request_unblocked_with_room :
    ¬ ∃ e, (Sample.otherRequest.run Sample.env (Sample.process 8 Sample.crowded)).1 =
      .error (.err (.eventStore e)) := by
  have own : OwnRoom Sample.env (Sample.process 8 Sample.crowded) ⟨3⟩ Sample.otherRequest := by
    refine ⟨rfl, ?_⟩
    unfold Room
    decide +kernel
  rw [Daemon.approvals_blocked_iff Sample.uuid_injective (Sample.process_reached (by decide))
    (Sample.env_only_capacity (by decide +kernel)) ⟨3⟩ Sample.otherRequest own]
  have expired : (Sample.process 8 Sample.crowded).supervisor.approvalAuthority.expiredIds
      (Sample.env.clock (Sample.process 8 Sample.crowded).world.reads) = [⟨2⟩] := by
    decide +kernel
  have held : (Sample.process 8 Sample.crowded).supervisor.pendingOperations[
      (⟨2⟩ : ApprovalId)]? = some ⟨⟨0⟩, ⟨1⟩, Sample.push⟩ := by decide +kernel
  rw [expired]
  rintro ⟨id, member, pending, present, full⟩
  rw [List.mem_singleton] at member
  subst member
  cases Option.some.inj (held.symm.trans present)
  apply full
  unfold Room
  decide +kernel

end AiOs
