import AiOs.Runtime.Retention

/-! One approval in three places: the two maps of the authority and one of the two maps of
the supervisor. The authority is first taken alone, under any sequence of its calls; then the
maps are compared in every run, and the expiry pass is followed through its loop. -/
namespace AiOs

open Fallible

section authority

inductive AuthorityCall where
  | request (taskId : TaskId) (operationId : OperationId) (action : String) (ttl : Duration)
  | approve (id : ApprovalId)
  | deny (id : ApprovalId)
  | revoke (id : ApprovalId)
  | expiredIds
  | pendingCount
  | restore

/-- An authority in use. The supervisor gives a grant back in the call after the approval or
not at all, so only the grant of the last call is at hand. -/
structure Custody where
  authority : ApprovalAuthority
  grant : Option ApprovalGrant
  ids : Nat

/-- One call at a reading of the clock. A request takes the next generated identifier. -/
def Custody.call (env : Env) (c : Custody) (now : Instant) : AuthorityCall → Custody
  | .request taskId operationId action ttl =>
    ⟨(c.authority.request taskId operationId action ttl now ⟨env.uuid c.ids⟩).2, none, c.ids + 1⟩
  | .approve id =>
    ⟨(c.authority.approve id now).2, (c.authority.approve id now).1.toOption, c.ids⟩
  | .deny id => ⟨(c.authority.deny id now).2, none, c.ids⟩
  | .revoke id => ⟨(c.authority.revoke id).2, none, c.ids⟩
  | .expiredIds => ⟨c.authority, none, c.ids⟩
  | .pendingCount => ⟨(c.authority.pendingCount now).2, none, c.ids⟩
  | .restore =>
    match c.grant with
    | none => c
    | some grant => ⟨grant.restore c.authority, none, c.ids⟩

def Custody.run (env : Env) (c : Custody) (calls : List (Instant × AuthorityCall)) : Custody :=
  calls.foldl (fun c call => c.call env call.1 call.2) c

/-- What every call keeps, for an authority built with this capacity. -/
structure ApprovalAuthority.Kept (env : Env) (ids maxPending : Nat) (a : ApprovalAuthority) :
    Prop where
  indexed : a.Indexed
  capacity : a.maxPending = maxPending
  bounded : a.pending.size ≤ maxPending
  limit : a.maxTtl ≤ maxMaxTtl
  known : ∀ (id : ApprovalId) (entry : PendingApproval), a.pending[id]? = some entry →
    env.Known ids id.uuid

/-- The invariant of an authority in use: a grant at hand can be given back. -/
structure Custody.Sound (env : Env) (maxPending : Nat) (c : Custody) : Prop where
  kept : c.authority.Kept env c.ids maxPending
  returnable : ∀ grant, c.grant = some grant →
    (grant.restore c.authority).Kept env c.ids maxPending

variable {env : Env} {ids maxPending : Nat} {a : ApprovalAuthority}

namespace ApprovalAuthority

theorem Kept.remove (kept : a.Kept env ids maxPending) (id : ApprovalId) :
    (a.remove id).2.Kept env ids maxPending where
  indexed := kept.indexed.remove id
  capacity := (a.remove_limits id).1.trans kept.capacity
  bounded := Nat.le_trans (a.remove_size id) kept.bounded
  limit := Nat.le_trans (Nat.le_of_eq (a.remove_limits id).2) kept.limit
  known := by
    intro other entry present
    rw [remove_pending] at present
    split at present
    · cases present
    · exact kept.known other entry present

theorem Kept.foldl_remove (kept : a.Kept env ids maxPending) (expired : List ApprovalId) :
    (expired.foldl (fun a id => (a.remove id).2) a).Kept env ids maxPending := by
  induction expired generalizing a with
  | nil => exact kept
  | cons id rest ih => exact ih (kept.remove id)

theorem Kept.request (fresh : Function.Injective env.uuid) (kept : a.Kept env ids maxPending)
    (taskId : TaskId) (operationId : OperationId) (action : String) (ttl : Duration)
    (now : Instant) :
    (a.request taskId operationId action ttl now ⟨env.uuid ids⟩).2.Kept env (ids + 1)
      maxPending := by
  have later : a.Kept env (ids + 1) maxPending :=
    { kept with known := fun id entry present => (kept.known id entry present).mono (Nat.le_succ _) }
  rcases requested : a.request taskId operationId action ttl now ⟨env.uuid ids⟩ with
    ⟨result, after⟩
  cases result with
  | error e =>
    cases request_error kept.limit requested
    exact later
  | ok approval =>
    obtain ⟨unindexed, room, _, _, _, rfl⟩ := request_ok requested
    have unused : a.pending[(⟨env.uuid ids⟩ : ApprovalId)]? = none := by
      cases found : a.pending[(⟨env.uuid ids⟩ : ApprovalId)]? with
      | none => rfl
      | some entry => exact absurd rfl (kept.known _ entry found ids (Nat.le_refl _))
    refine ⟨kept.indexed.insert unused unindexed, kept.capacity, ?_, kept.limit, ?_⟩
    · change (a.pending.insert _ _).size ≤ _
      rw [OrdMap.size_insert_new _ unused, ← kept.capacity]
      exact room
    · intro id entry present
      change (a.pending.insert _ _)[id]? = some entry at present
      rw [OrdMap.get_insert] at present
      split at present
      · rename_i same
        exact same ▸ Env.known_generated fresh (Nat.lt_succ_self ids)
      · exact later.known id entry present

theorem deny_after (a : ApprovalAuthority) (id : ApprovalId) (now : Instant) :
    (a.deny id now).2 = a ∨ (a.deny id now).2 = (a.remove id).2 := by
  cases found : a.pending[id]? with
  | none => simp [deny, found]
  | some entry =>
    by_cases late : entry.deadline ≤ now
    · simp [deny, found, late]
    · simp [deny, found, late, remove_present found]

theorem restore_approve {after : ApprovalAuthority} {id : ApprovalId} {now : Instant}
    {grant : ApprovalGrant} (indexed : a.Indexed)
    (approved : a.approve id now = (.ok grant, after)) : grant.restore after = a := by
  obtain ⟨entry, present, _, rfl, rfl⟩ := approve_ok approved
  exact restore_remove indexed present

end ApprovalAuthority

theorem Custody.Sound.call (fresh : Function.Injective env.uuid) {c : Custody}
    (sound : c.Sound env maxPending) (now : Instant) (call : AuthorityCall) :
    (c.call env now call).Sound env maxPending := by
  -- every call but an approval leaves no grant at hand
  have plain : ∀ {a : ApprovalAuthority} {ids : Nat}, a.Kept env ids maxPending →
      (⟨a, none, ids⟩ : Custody).Sound env maxPending :=
    fun kept => ⟨kept, fun _ held => by cases held⟩
  cases call with
  | request taskId operationId action ttl =>
    exact plain (sound.kept.request fresh taskId operationId action ttl now)
  | approve id =>
    rcases approved : c.authority.approve id now with ⟨result, after⟩
    simp only [Custody.call, approved]
    cases result with
    | error e =>
      cases ApprovalAuthority.approve_error approved
      exact plain sound.kept
    | ok grant =>
      have back := ApprovalAuthority.restore_approve sound.kept.indexed approved
      obtain ⟨entry, present, _, _, rfl⟩ := ApprovalAuthority.approve_ok approved
      refine ⟨sound.kept.remove id, ?_⟩
      intro held same
      cases Option.some.inj same
      simp only [back]
      exact sound.kept
  | deny id =>
    apply plain
    rcases c.authority.deny_after id now with same | removed
    · rw [same]
      exact sound.kept
    · rw [removed]
      exact sound.kept.remove id
  | revoke id => exact plain (sound.kept.remove id)
  | expiredIds => exact plain sound.kept
  | pendingCount => exact plain (sound.kept.foldl_remove _)
  | restore =>
    cases held : c.grant with
    | none =>
      simp only [Custody.call, held]
      exact sound
    | some grant =>
      simp only [Custody.call, held]
      exact plain (sound.returnable grant held)

theorem Custody.Sound.run (fresh : Function.Injective env.uuid) {c : Custody}
    (sound : c.Sound env maxPending) (calls : List (Instant × AuthorityCall)) :
    (c.run env calls).Sound env maxPending := by
  induction calls generalizing c with
  | nil => exact sound
  | cons first rest ih => exact ih (sound.call fresh first.1 first.2)

theorem Custody.sound_new {maxTtl : Duration}
    (made : ApprovalAuthority.new maxPending maxTtl = .ok a) (ids : Nat) :
    (⟨a, none, ids⟩ : Custody).Sound env maxPending := by
  unfold ApprovalAuthority.new at made
  split at made
  · cases made
  · rename_i accepted
    cases made
    refine ⟨⟨?_, rfl, Nat.zero_le _, ?_, by simp⟩, fun _ held => by cases held⟩
    · intro key id
      simp
    · simp only [not_or, Nat.not_lt] at accepted
      exact accepted.2.2.2

end authority

/-! Operation identifiers, which the ledger does not follow: no two approvals share one. -/

structure Apart (env : Env) (ids : Nat) (pendingOperations : OrdMap ApprovalId PendingOperation)
    (approvedOperations : OrdMap OperationId ApprovedOperation) : Prop where
  known : ∀ (id : ApprovalId) (pending : PendingOperation),
    pendingOperations[id]? = some pending → env.Known ids pending.operationId.uuid
  knownGranted : ∀ (operationId : OperationId) (approved : ApprovedOperation),
    approvedOperations[operationId]? = some approved → env.Known ids operationId.uuid
  ungranted : ∀ (id : ApprovalId) (pending : PendingOperation),
    pendingOperations[id]? = some pending → approvedOperations[pending.operationId]? = none
  distinct : ∀ (a b : ApprovalId) (x y : PendingOperation), pendingOperations[a]? = some x →
    pendingOperations[b]? = some y → x.operationId = y.operationId → a = b

namespace Apart
variable {env : Env} {ids : Nat} {pendingOperations : OrdMap ApprovalId PendingOperation}
  {approvedOperations : OrdMap OperationId ApprovedOperation}

theorem empty (env : Env) (ids : Nat) : Apart env ids ∅ ∅ := by
  constructor <;> simp

theorem shrink (apart : Apart env ids pendingOperations approvedOperations) {more : Nat}
    (le : ids ≤ more) {pendingAfter : OrdMap ApprovalId PendingOperation}
    {approvedAfter : OrdMap OperationId ApprovedOperation}
    (pendingAmong : ∀ (id : ApprovalId) (pending : PendingOperation),
      pendingAfter[id]? = some pending → pendingOperations[id]? = some pending)
    (approvedAmong : ∀ (operationId : OperationId) (approved : ApprovedOperation),
      approvedAfter[operationId]? = some approved →
        approvedOperations[operationId]? = some approved) :
    Apart env more pendingAfter approvedAfter where
  known := fun id pending present => (apart.known id pending (pendingAmong _ _ present)).mono le
  knownGranted := fun operationId approved held =>
    (apart.knownGranted operationId approved (approvedAmong _ _ held)).mono le
  ungranted := by
    intro id pending present
    have none := apart.ungranted id pending (pendingAmong _ _ present)
    cases held : approvedAfter[pending.operationId]? with
    | none => rfl
    | some approved =>
      rw [approvedAmong _ _ held] at none
      cases none
  distinct := fun a b x y ha hb =>
    apart.distinct a b x y (pendingAmong _ _ ha) (pendingAmong _ _ hb)

theorem ask (apart : Apart env ids pendingOperations approvedOperations) {more : Nat}
    (le : ids ≤ more) (id : ApprovalId) (pending : PendingOperation)
    (unused : ¬ env.Known ids pending.operationId.uuid)
    (used : env.Known more pending.operationId.uuid) :
    Apart env more (pendingOperations.insert id pending) approvedOperations := by
  have other : ∀ (old : ApprovalId) (held : PendingOperation),
      pendingOperations[old]? = some held → held.operationId ≠ pending.operationId := by
    intro old held present same
    exact unused (same ▸ apart.known old held present)
  have split : ∀ (a : ApprovalId) (x : PendingOperation),
      (pendingOperations.insert id pending)[a]? = some x →
        a = id ∧ x = pending ∨ pendingOperations[a]? = some x := by
    intro a x present
    rw [OrdMap.get_insert] at present
    split at present
    · rename_i same
      exact .inl ⟨same.symm, (Option.some.inj present).symm⟩
    · exact .inr present
  constructor
  · intro a x present
    rcases split a x present with ⟨rfl, rfl⟩ | old
    · exact used
    · exact (apart.known a x old).mono le
  · intro operationId approved held
    exact (apart.knownGranted operationId approved held).mono le
  · intro a x present
    rcases split a x present with ⟨rfl, rfl⟩ | old
    · cases held : approvedOperations[x.operationId]? with
      | none => rfl
      | some approved => exact absurd (apart.knownGranted _ approved held) unused
    · exact apart.ungranted a x old
  · intro a b x y ha hb same
    rcases split a x ha with ⟨rfl, rfl⟩ | first
    · rcases split b y hb with ⟨rfl, rfl⟩ | second
      · rfl
      · exact absurd same.symm (other b y second)
    · rcases split b y hb with ⟨rfl, rfl⟩ | second
      · exact absurd same (other a x first)
      · exact apart.distinct a b x y first second same

theorem grant (apart : Apart env ids pendingOperations approvedOperations) {id : ApprovalId}
    {pending : PendingOperation} (present : pendingOperations[id]? = some pending)
    (approved : ApprovedOperation) :
    Apart env ids (pendingOperations.erase id)
      (approvedOperations.insert pending.operationId approved) := by
  have kept : ∀ (a : ApprovalId) (x : PendingOperation),
      (pendingOperations.erase id)[a]? = some x → id ≠ a ∧ pendingOperations[a]? = some x := by
    intro a x there
    rw [OrdMap.get_erase] at there
    split at there
    · cases there
    · rename_i different
      exact ⟨different, there⟩
  constructor
  · intro a x there
    exact apart.known a x (kept a x there).2
  · intro operationId held there
    rw [OrdMap.get_insert] at there
    split at there
    · rename_i same
      exact same ▸ apart.known id pending present
    · exact apart.knownGranted operationId held there
  · intro a x there
    obtain ⟨different, old⟩ := kept a x there
    rw [OrdMap.get_insert, if_neg]
    · exact apart.ungranted a x old
    · exact fun same => different (apart.distinct id a pending x present old same)
  · intro a b x y ha hb
    exact apart.distinct a b x y (kept a x ha).2 (kept b y hb).2

end Apart

section supervisor
variable {S : Type} [LawfulEventStore S] {env : Env} {p after : Process S}

/-- Requests and grants of one process share no operation identifier. -/
def OperationsApart (env : Env) (p : Process S) : Prop :=
  Apart env p.world.ids p.supervisor.pendingOperations p.supervisor.approvedOperations

omit [LawfulEventStore S] in
theorem erased_pending {pendingOperations : OrdMap ApprovalId PendingOperation}
    {ids : List ApprovalId} {id : ApprovalId} {pending : PendingOperation}
    (kept : (ids.foldl (fun m k => m.erase k) pendingOperations)[id]? = some pending) :
    pendingOperations[id]? = some pending := by
  rw [OrdMap.get_foldl_erase] at kept
  split at kept
  · cases kept
  · exact kept

theorem OperationsApart.closes (apart : OperationsApart env p) {id : ApprovalId}
    {closing : PendingOperation → TaskEventKind} (closes : Closes p id closing after) :
    OperationsApart env after := by
  cases closes
  refine apart.shrink (Nat.le_refl _) ?_ (fun _ _ held => held)
  intro other pending kept
  exact @erased_pending _ [id] other pending kept

theorem OperationsApart.effect (fresh : Function.Injective env.uuid)
    (apart : OperationsApart env p) {call : Call} (effect : Effect env p call after) :
    OperationsApart env after := by
  have same : ∀ more, p.world.ids ≤ more → Apart env more p.supervisor.pendingOperations
      p.supervisor.approvedOperations :=
    fun more le => apart.shrink le (fun _ _ present => present) (fun _ _ held => held)
  cases effect with
  | idle quiet =>
    rw [OperationsApart, quiet.same]
    exact same _ quiet.moved.ids
  | admits admits =>
    cases admits
    exact same _ (Nat.le_succ _)
  | launches _ launches =>
    cases launches
    exact same _ (Nat.le_refl _)
  | allows notes | refuses notes =>
    cases notes
    exact same _ (Nat.le_refl _)
  | asks asks =>
    cases asks
    apply apart.ask (Nat.le_add_right _ 2)
    · exact fun known => known p.world.ids (Nat.le_refl _) rfl
    · exact Env.known_generated fresh (Nat.lt_add_of_pos_right Nat.zero_lt_two)
  | grants grants =>
    obtain ⟨store, pending, record, entry, waiting, found, resumable, registered, early, appended⟩ :=
      grants
    exact apart.grant waiting _
  | denies denies => exact apart.closes denies
  | forgets forgets =>
    rw [OperationsApart, forgets.same]
    exact apart.shrink forgets.moved.ids (fun _ _ present => present)
      (fun _ _ held => Coherent.erased_among held)
  | consumes consumes =>
    cases consumes
    exact apart.shrink (Nat.le_refl _) (fun _ _ present => present)
      (fun _ _ held => Coherent.erased_among held)
  | finishes _ finishes =>
    cases finishes
    refine apart.shrink (Nat.le_refl _) ?_ ?_
    · intro id pending kept
      change (p.supervisor.invalidateApprovals _).pendingOperations[id]? = _ at kept
      rw [TaskSupervisor.invalidateApprovals_eq] at kept
      exact erased_pending kept
    · intro operationId approved kept
      change (p.supervisor.invalidateApprovals _).approvedOperations[operationId]? = _ at kept
      rw [TaskSupervisor.invalidateApprovals_eq, OrdMap.get_filter] at kept
      exact (Option.filter_eq_some_iff.mp kept).1

theorem OperationsApart.call (fresh : Function.Injective env.uuid)
    (apart : OperationsApart env p) (orderly : Orderly env p) (call : Call) :
    OperationsApart env (call.run env p).2 := by
  refine orderly_rule (I := OperationsApart env) (J := OperationsApart env) orderly call ?_ ?_ ?_
    apart
  · intro a b kept quiet
    exact @OperationsApart.effect _ _ _ _ _ fresh kept call (.idle quiet)
  · intro a b id _ _ kept closes
    exact kept.closes closes
  · intro a b _ kept effect
    exact kept.effect fresh effect

/-! The expiry pass, one iteration at a time. -/

/-- The iterations of the loop of `expire_approvals`: from `p`, with `ids` ahead, it comes to
the state `q` with `id` next. -/
inductive Visits (env : Env) : Process S → List ApprovalId → Process S → ApprovalId → Prop where
  | here (p : Process S) (id : ApprovalId) (rest : List ApprovalId) :
      Visits env p (id :: rest) p id
  | skipped {p q : Process S} {id other : ApprovalId} {rest : List ApprovalId}
      (unknown : p.supervisor.pendingOperations[id]? = none)
      (later : Visits env p rest q other) : Visits env p (id :: rest) q other
  | closed {p mid q : Process S} {id other : ApprovalId} {rest : List ApprovalId}
      {pending : PendingOperation}
      (waiting : p.supervisor.pendingOperations[id]? = some pending)
      (ran : exec (closePending env id pending (.approvalExpired id pending.operationId)) p =
        (.ok (), mid))
      (later : Visits env mid rest q other) : Visits env p (id :: rest) q other

structure AllPending (p : Process S) (ids : List ApprovalId) : Prop where
  distinct : ids.Nodup
  pending : ∀ id ∈ ids, ∃ pending, p.supervisor.pendingOperations[id]? = some pending

theorem AllPending.closes {id : ApprovalId} {rest : List ApprovalId} (waits : AllPending p (id :: rest))
    {closing : PendingOperation → TaskEventKind} (closes : Closes p id closing after) :
    AllPending after rest := by
  obtain ⟨absent, distinct⟩ := List.nodup_cons.mp waits.distinct
  refine ⟨distinct, ?_⟩
  intro other member
  obtain ⟨pending, present⟩ := waits.pending other (List.mem_cons_of_mem _ member)
  refine ⟨pending, ?_⟩
  rw [closes.pending_erased, OrdMap.get_erase, if_neg]
  · exact present
  · rintro rfl
    exact absent member

/-- No iteration meets an unknown approval. -/
theorem Visits.waiting {ids : List ApprovalId} {q : Process S} {id : ApprovalId}
    (visits : Visits env p ids q id) (waits : AllPending p ids) :
    ∃ pending, q.supervisor.pendingOperations[id]? = some pending := by
  induction visits with
  | here p id rest => exact waits.pending id List.mem_cons_self
  | @skipped p q id other rest unknown later ih =>
    obtain ⟨pending, present⟩ := waits.pending id List.mem_cons_self
    rw [unknown] at present
    cases present
  | @closed p mid q id other rest pending waiting ran later ih =>
    have closing := closePending_cases env p waiting (expiring id)
    rw [expiring, ran] at closing
    exact ih (waits.closes closing)

/-- A part that can only stop at a rejected audit batch. -/
def StopsAtStore {α : Type} (out : Except Stop α × Process S) : Prop :=
  ∀ stop, out.1 = .error stop → ∃ e, stop = .err (.eventStore e)

theorem closePending_stops (orderly : Orderly env p) {id : ApprovalId}
    {pending : PendingOperation} (waiting : p.supervisor.pendingOperations[id]? = some pending)
    (closing : TaskEventKind) : StopsAtStore (exec (closePending env id pending closing) p) := by
  obtain ⟨record, found, live⟩ := orderly.registry.live id pending waiting
  have failable : record.state.canTransitionTo .failed = true := by
    rcases live with running | waits
    · rw [running]
      rfl
    · rw [waits]
      rfl
  unfold closePending
  rw [exec_bind_ok (exec_current p), exec_bind_ok (exec_okOr_found found _ _),
    exec_bind_ok (exec_propose_allowed failable p)]
  apply append_rule env (P := StopsAtStore)
  · intro e stop failed
    exact ⟨e, (Except.error.inj failed).symm⟩
  · intro store appended stop failed
    rw [exec_bind_ok (exec_update _ _), exec_setState record] at failed
    · cases failed
    · exact found

/-- The loop closes every approval ahead of it, or stops at a rejected audit batch. -/
theorem expireLoop_closes {ids : List ApprovalId} (orderly : Orderly env p)
    (waits : AllPending p ids) (count : Nat) {result : Except Stop Nat}
    (ran : exec (expireLoop env ids count) p = (result, after)) :
    (result = .ok (count + ids.length) ∧ ClosesAll p ids after) ∨
      ∃ e, result = .error (.err (.eventStore e)) := by
  induction ids generalizing p count with
  | nil =>
    rw [expireLoop, exec_pure] at ran
    cases ran
    exact .inl ⟨rfl, .nil _⟩
  | cons id rest ih =>
    obtain ⟨pending, waiting⟩ := waits.pending id List.mem_cons_self
    rw [expireLoop, exec_bind_ok (exec_current p), waiting] at ran
    have closing := closePending_cases env p waiting (expiring id)
    rcases first : exec (closePending env id pending (expiring id pending)) p with ⟨head, mid⟩
    rw [first] at closing
    rw [expiring] at first
    cases head with
    | error stop =>
      obtain ⟨e, rfl⟩ := closePending_stops orderly waiting _ stop (congrArg Prod.fst first)
      dsimp only at ran
      rw [exec_bind_error first] at ran
      cases ran
      exact .inr ⟨e, rfl⟩
    | ok _ =>
      dsimp only at ran
      rw [exec_bind_ok first] at ran
      rcases ih (orderly.closes closing) (waits.closes closing) (count + 1) ran with
        ⟨total, others⟩ | stopped
      · refine .inl ⟨?_, .cons closing others⟩
        rw [total, List.length_cons]
        congr 1
        omega
      · exact .inr stopped

theorem ClosesAll.authority {ids : List ApprovalId} (closes : ClosesAll p ids after)
    (id : ApprovalId) :
    after.supervisor.approvalAuthority.pending[id]? =
      if id ∈ ids then none else p.supervisor.approvalAuthority.pending[id]? := by
  induction closes with
  | nil => simp
  | @cons p mid after closed rest first others ih =>
    have removed : mid.supervisor.approvalAuthority =
        (p.supervisor.approvalAuthority.remove closed).2 := by
      cases first
      rfl
    rw [ih, removed, ApprovalAuthority.remove_pending]
    by_cases own : closed = id
    · simp [own]
    · simp [own, Ne.symm own]

/-- The maps of one process in step with each other, and an expiry pass that leaves out no
approval. -/
structure ApprovalsInStep (env : Env) (p : Process S) : Prop where
  inverse : p.supervisor.approvalAuthority.Indexed
  bounded : p.supervisor.approvalAuthority.pending.size ≤
    p.supervisor.approvalAuthority.maxPending
  keys : ∀ id : ApprovalId, id ∈ p.supervisor.approvalAuthority.pending ↔
    id ∈ p.supervisor.pendingOperations
  matched : ∀ (id : ApprovalId) (entry : PendingApproval) (pending : PendingOperation),
    p.supervisor.approvalAuthority.pending[id]? = some entry →
      p.supervisor.pendingOperations[id]? = some pending → SameOperation entry pending
  apart : ∀ (id : ApprovalId) (pending : PendingOperation) (operationId : OperationId)
    (approved : ApprovedOperation), p.supervisor.pendingOperations[id]? = some pending →
      p.supervisor.approvedOperations[operationId]? = some approved →
        id ≠ approved.grant.approvalId ∧ pending.operationId ≠ operationId
  visited : ∀ (q : Process S) (id : ApprovalId), Visits env p.ticked (overdue env p) q id →
    ∃ pending, q.supervisor.pendingOperations[id]? = some pending
  passes : ∀ (count : Nat) (after : Process S), exec (expireApprovals env) p = (.ok count, after) →
    count = (overdue env p).length ∧ ClosesAll p.ticked (overdue env p) after ∧
      ∀ (id : ApprovalId) (entry : PendingApproval),
        after.supervisor.approvalAuthority.pending[id]? = some entry →
          env.clock p.world.reads < entry.deadline
  stops : StopsAtStore (exec (expireApprovals env) p)

theorem Coherent.allPending (coherent : Coherent env p) :
    AllPending p.ticked (overdue env p) := by
  refine ⟨ApprovalAuthority.expiredIds_nodup _ _, ?_⟩
  intro id member
  obtain ⟨entry, present, _⟩ := ApprovalAuthority.mem_expiredIds.mp member
  exact coherent.registry.retained id entry present

theorem Coherent.pass (coherent : Coherent env p) {result : Except Stop Nat}
    (ran : exec (expireApprovals env) p = (result, after)) :
    (result = .ok (overdue env p).length ∧ ClosesAll p.ticked (overdue env p) after) ∨
      ∃ e, result = .error (.err (.eventStore e)) := by
  unfold expireApprovals at ran
  rw [exec_bind_ok (exec_now env p), exec_bind_ok (exec_current _)] at ran
  have ended := expireLoop_closes (coherent.quiet (quiet_ticked p)).orderly coherent.allPending 0 ran
  rwa [Nat.zero_add] at ended

theorem Coherent.inStep (coherent : Coherent env p) (capped : Capped p)
    (apart : OperationsApart env p) : ApprovalsInStep env p where
  inverse := coherent.registry.indexed
  bounded := capped
  keys := by
    intro id
    rw [OrdMap.mem_iff, OrdMap.mem_iff]
    constructor
    · rintro ⟨entry, present⟩
      exact coherent.registry.retained id entry present
    · rintro ⟨pending, present⟩
      obtain ⟨entry, found, _⟩ := coherent.registry.registered id pending present
      exact ⟨entry, found⟩
  matched := by
    intro id entry pending present waiting
    obtain ⟨found, there, same⟩ := coherent.registry.registered id pending waiting
    cases Option.some.inj (present.symm.trans there)
    exact same
  apart := by
    intro id pending operationId approved waiting held
    refine ⟨coherent.ledger.pending_ne_granted waiting held, ?_⟩
    rintro rfl
    rw [apart.ungranted id pending waiting] at held
    cases held
  visited := fun q id visits => visits.waiting coherent.allPending
  passes := by
    intro count after ran
    rcases coherent.pass ran with ⟨total, closes⟩ | ⟨e, failed⟩
    · refine ⟨Except.ok.inj total, closes, ?_⟩
      intro id entry present
      rw [closes.authority] at present
      split at present
      · cases present
      · rename_i absent
        by_contra late
        exact absent (ApprovalAuthority.mem_expiredIds.mpr ⟨entry, present, Nat.le_of_not_lt late⟩)
    · cases failed
  stops := by
    intro stop failed
    rcases ran : exec (expireApprovals env) p with ⟨result, after⟩
    rw [ran] at failed
    rcases coherent.pass ran with ⟨total, _⟩ | ⟨e, same⟩
    · cases total.symm.trans failed
    · exact ⟨e, Except.error.inj (failed.symm.trans same)⟩

theorem Daemon.Reached.inStep (fresh : Function.Injective env.uuid)
    {permitted : Process S → Call → Prop} (reached : Daemon.Reached env permitted (.up p)) :
    ApprovalsInStep env p := by
  have coherent : Coherent env p := Daemon.Reached.sound fresh reached
  have both : Capped p ∧ OperationsApart env p := by
    apply Daemon.Reached.rule (I := fun p => Capped p ∧ OperationsApart env p) fresh _ _ reached
    · intro world store maxTasks recovered
      exact ⟨Nat.zero_le _, Apart.empty env world.ids⟩
    · rintro p call coherent ⟨capped, apart⟩ _
      exact ⟨capped.call coherent.orderly call, apart.call fresh coherent.orderly call⟩
  exact coherent.inStep both.1 both.2

/-- An authority under any sequence of calls has two maps that invert each other and keep to
its capacity, and an approval is undone by giving its grant back. In every process of every
run, the authority, the retained requests and the unused grants speak of the same approvals,
and the expiry pass neither skips one nor leaves one open. -/
theorem approvals_in_step (fresh : Function.Injective env.uuid) :
    (∀ (maxPending : Nat) (maxTtl : Duration) (authority : ApprovalAuthority) (ids : Nat)
      (calls : List (Instant × AuthorityCall)),
      ApprovalAuthority.new maxPending maxTtl = .ok authority →
        let reached := (Custody.run env ⟨authority, none, ids⟩ calls).authority
        reached.Indexed ∧ reached.pending.size ≤ maxPending ∧
          reached.operationIndex.size = reached.pending.size ∧
          ∀ id now grant after, reached.approve id now = (.ok grant, after) →
            grant.restore after = reached) ∧
    ∀ (permitted : Process S → Call → Prop) (p : Process S),
      Daemon.Reached env permitted (.up p) → ApprovalsInStep env p := by
  constructor
  · intro maxPending maxTtl authority ids calls made
    have kept := ((Custody.sound_new made ids).run fresh calls).kept
    exact ⟨kept.indexed, kept.bounded, OrdMap.Indexes.size_eq kept.indexed,
      fun id now grant after approved =>
        ApprovalAuthority.restore_approve kept.indexed approved⟩
  · intro permitted p reached
    exact reached.inStep fresh

end supervisor

set_option maxRecDepth 4000 in
/-- A process with one approval pending. -/
theorem approvals_in_step_pending :
    ApprovalsInStep Sample.env (Sample.process 20 (Sample.consumed.take 3)) ∧
      (Sample.process 20 (Sample.consumed.take 3)).supervisor.pendingOperations.toList.map
        Prod.fst = [⟨2⟩] :=
  ⟨(approvals_in_step Sample.uuid_injective).2 Daemon.Anything _
    (Sample.process_reached (by decide)), by decide +kernel⟩

end AiOs
