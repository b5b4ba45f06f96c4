import AiOs.Runtime.Methods

/-! The supervisor's registries stay in step. `Registry` ties the authority, the retained
requests and the Task states together; `Records` covers the Task table itself. Both are
stated over the maps they mention, with one lemma for each kind of change, and both hold in
every run, also in one that starts a waiting Task. -/
namespace AiOs

variable {S : Type}

/-- An identifier that the generator will not produce again. -/
def Env.Known (env : Env) (ids : Nat) (uuid : Nat) : Prop := ∀ i, ids ≤ i → env.uuid i ≠ uuid

theorem Env.Known.mono {env : Env} {ids later uuid : Nat} (known : env.Known ids uuid)
    (le : ids ≤ later) : env.Known later uuid :=
  fun i hi => known i (Nat.le_trans le hi)

theorem Env.known_generated {env : Env} (fresh : Function.Injective env.uuid) {i ids : Nat}
    (used : i < ids) : env.Known ids (env.uuid i) := by
  intro j later same
  rw [fresh same] at later
  omega

def TaskState.Live (state : TaskState) : Prop := state = .running ∨ state = .waitingApproval

def TaskState.Started (state : TaskState) : Prop :=
  state ≠ .submitted ∧ state ≠ .validating ∧ state ≠ .queued

theorem TaskState.started_of_terminal {state : TaskState} (terminal : state.isTerminal = true) :
    state.Started := by
  refine ⟨?_, ?_, ?_⟩ <;> rintro rfl <;> cases terminal

theorem TaskState.live_of_started {state : TaskState} (started : state.Started)
    (running : state.isTerminal = false) : state.Live := by
  cases state <;> simp_all [TaskState.Started, TaskState.Live, TaskState.isTerminal]

/-- The authority's entry and the retained request speak of the same operation. -/
def SameOperation (entry : PendingApproval) (pending : PendingOperation) : Prop :=
  entry.taskId = pending.taskId ∧ entry.operationId = pending.operationId ∧
    entry.action = pending.request.action

def HasPending (pendingOperations : OrdMap ApprovalId PendingOperation) (taskId : TaskId) :
    Prop :=
  ∃ (id : ApprovalId) (pending : PendingOperation),
    pendingOperations[id]? = some pending ∧ pending.taskId = taskId

/-- The authority and the retained requests agree, each Task has at most one of them, and
only live Tasks do; a waiting Task has one. -/
structure Registry (env : Env) (ids : Nat) (authority : ApprovalAuthority)
    (pendingOperations : OrdMap ApprovalId PendingOperation) (tasks : OrdMap TaskId TaskRecord) :
    Prop where
  indexed : authority.Indexed
  limit : authority.maxTtl = defaultMaxTtl
  registered : ∀ (id : ApprovalId) (pending : PendingOperation),
    pendingOperations[id]? = some pending →
      ∃ entry, authority.pending[id]? = some entry ∧ SameOperation entry pending
  retained : ∀ (id : ApprovalId) (entry : PendingApproval),
    authority.pending[id]? = some entry → ∃ pending, pendingOperations[id]? = some pending
  single : ∀ (a b : ApprovalId) (x y : PendingOperation), pendingOperations[a]? = some x →
    pendingOperations[b]? = some y → x.taskId = y.taskId → a = b
  live : ∀ (id : ApprovalId) (pending : PendingOperation),
    pendingOperations[id]? = some pending →
      ∃ record, tasks[pending.taskId]? = some record ∧ record.state.Live
  waiting : ∀ (taskId : TaskId) (record : TaskRecord), tasks[taskId]? = some record →
    record.state = .waitingApproval → HasPending pendingOperations taskId
  known : ∀ (id : ApprovalId) (pending : PendingOperation),
    pendingOperations[id]? = some pending → env.Known ids id.uuid

namespace Registry
variable {env : Env} {ids : Nat} {authority : ApprovalAuthority}
  {pendingOperations : OrdMap ApprovalId PendingOperation} {tasks : OrdMap TaskId TaskRecord}

theorem empty (env : Env) (ids : Nat) : Registry env ids .default ∅ ∅ where
  indexed := by
    intro key id
    simp [ApprovalAuthority.default]
  limit := rfl
  registered := by simp
  retained := by simp [ApprovalAuthority.default]
  single := by simp
  live := by simp
  waiting := by simp
  known := by simp

theorem later (registry : Registry env ids authority pendingOperations tasks) {after : Nat}
    (le : ids ≤ after) : Registry env after authority pendingOperations tasks :=
  { registry with known := fun id pending present => (registry.known id pending present).mono le }

theorem retask (registry : Registry env ids authority pendingOperations tasks) {taskId : TaskId}
    {record : TaskRecord}
    (live : ∀ (id : ApprovalId) (pending : PendingOperation),
      pendingOperations[id]? = some pending → pending.taskId = taskId → record.state.Live)
    (waiting : record.state = .waitingApproval → HasPending pendingOperations taskId) :
    Registry env ids authority pendingOperations (tasks.insert taskId record) :=
  { registry with
    live := by
      intro id pending present
      rw [OrdMap.get_insert]
      split
      · rename_i same
        exact ⟨record, rfl, live id pending present same.symm⟩
      · exact registry.live id pending present
    waiting := by
      intro other found inserted state
      rw [OrdMap.get_insert] at inserted
      split at inserted
      · rename_i same
        cases Option.some.inj inserted
        obtain ⟨id, pending, present, owner⟩ := waiting state
        exact ⟨id, pending, present, owner.trans same⟩
      · exact registry.waiting other found inserted state }

theorem ask (registry : Registry env ids authority pendingOperations tasks) {id : ApprovalId}
    (entry : PendingApproval) (pending : PendingOperation) {record : TaskRecord}
    (single : ∀ (other : ApprovalId) (held : PendingOperation),
      pendingOperations[other]? = some held → held.taskId ≠ pending.taskId)
    (unindexed : authority.operationIndex[entry.key]? = none)
    (unused : authority.pending[id]? = none) (matched : SameOperation entry pending)
    (state : record.state = .waitingApproval) {after : Nat} (le : ids ≤ after)
    (known : env.Known after id.uuid) :
    Registry env after (authority.insert id entry) (pendingOperations.insert id pending)
      (tasks.insert pending.taskId record) where
  indexed := registry.indexed.insert unused unindexed
  limit := registry.limit
  registered := by
    intro other held present
    rw [OrdMap.get_insert] at present
    simp only [ApprovalAuthority.insert, OrdMap.get_insert]
    split at present
    · rename_i same
      cases Option.some.inj present
      exact ⟨entry, if_pos same, matched⟩
    · rename_i distinct
      rw [if_neg distinct]
      exact registry.registered other held present
  retained := by
    intro other found present
    simp only [ApprovalAuthority.insert, OrdMap.get_insert] at present ⊢
    split at present
    · rename_i same
      exact ⟨pending, if_pos same⟩
    · rename_i distinct
      rw [if_neg distinct]
      exact registry.retained other found present
  single := by
    intro a b x y ha hb sameTask
    rw [OrdMap.get_insert] at ha hb
    split at ha <;> split at hb
    · rename_i first second
      exact first.symm.trans second
    · cases Option.some.inj ha
      exact absurd sameTask.symm (single b y hb)
    · cases Option.some.inj hb
      exact absurd sameTask (single a x ha)
    · exact registry.single a b x y ha hb sameTask
  live := by
    intro other held present
    rw [OrdMap.get_insert] at present ⊢
    split at present
    · cases Option.some.inj present
      exact ⟨record, if_pos rfl, .inr state⟩
    · rw [if_neg (Ne.symm (single other held present))]
      exact registry.live other held present
  waiting := by
    intro taskId found inserted waits
    rw [OrdMap.get_insert] at inserted
    split at inserted
    · rename_i same
      exact ⟨id, pending, Std.ExtTreeMap.getElem?_insert_self, same⟩
    · obtain ⟨other, held, present, owner⟩ := registry.waiting taskId found inserted waits
      have distinct : ¬ id = other := by
        rintro rfl
        obtain ⟨registered, there, _⟩ := registry.registered id held present
        rw [unused] at there
        cases there
      exact ⟨other, held, by rw [OrdMap.get_insert, if_neg distinct, present], owner⟩
  known := by
    intro other held present
    rw [OrdMap.get_insert] at present
    split at present
    · rename_i same
      exact same ▸ known
    · exact (registry.known other held present).mono le

/-- Requests leave the authority and the retained ones together. All requests of one Task
that leaves go at once, so that its new state is free. -/
theorem drop (registry : Registry env ids authority pendingOperations tasks) {taskId : TaskId}
    {record : TaskRecord} {after : ApprovalAuthority}
    {kept : OrdMap ApprovalId PendingOperation} (dropped : ApprovalId → Prop)
    (indexed : after.Indexed) (limit : after.maxTtl = authority.maxTtl)
    (authorityKept : ∀ id, dropped id → after.pending[id]? = none)
    (authoritySame : ∀ id, ¬ dropped id → after.pending[id]? = authority.pending[id]?)
    (pendingKept : ∀ id, dropped id → kept[id]? = none)
    (pendingSame : ∀ id, ¬ dropped id → kept[id]? = pendingOperations[id]?)
    (all : ∀ (id : ApprovalId) (pending : PendingOperation),
      pendingOperations[id]? = some pending → (dropped id ↔ pending.taskId = taskId))
    (state : record.state ≠ .waitingApproval) :
    Registry env ids after kept (tasks.insert taskId record) := by
  have back : ∀ (id : ApprovalId) (pending : PendingOperation), kept[id]? = some pending →
      ¬ dropped id ∧ pendingOperations[id]? = some pending := by
    intro id pending present
    have notDropped : ¬ dropped id := by
      intro isDropped
      rw [pendingKept id isDropped] at present
      cases present
    exact ⟨notDropped, (pendingSame id notDropped).symm.trans present⟩
  refine ⟨indexed, limit.trans registry.limit, ?_, ?_, ?_, ?_, ?_, ?_⟩
  · intro id pending present
    obtain ⟨notDropped, old⟩ := back id pending present
    rw [authoritySame id notDropped]
    exact registry.registered id pending old
  · intro id entry present
    have notDropped : ¬ dropped id := by
      intro isDropped
      rw [authorityKept id isDropped] at present
      cases present
    rw [pendingSame id notDropped]
    exact registry.retained id entry ((authoritySame id notDropped).symm.trans present)
  · intro a b x y ha hb sameTask
    exact registry.single a b x y (back a x ha).2 (back b y hb).2 sameTask
  · intro id pending present
    obtain ⟨notDropped, old⟩ := back id pending present
    have distinct : ¬ taskId = pending.taskId :=
      fun same => notDropped ((all id pending old).mpr same.symm)
    rw [OrdMap.get_insert, if_neg distinct]
    exact registry.live id pending old
  · intro other found inserted waits
    rw [OrdMap.get_insert] at inserted
    split at inserted
    · cases Option.some.inj inserted
      exact absurd waits state
    · rename_i distinct
      obtain ⟨id, pending, old, owner⟩ := registry.waiting other found inserted waits
      have notDropped : ¬ dropped id :=
        fun isDropped => distinct (((all id pending old).mp isDropped).symm.trans owner)
      exact ⟨id, pending, (pendingSame id notDropped).trans old, owner⟩
  · intro id pending present
    exact registry.known id pending (back id pending present).2

theorem close (registry : Registry env ids authority pendingOperations tasks) {id : ApprovalId}
    {pending : PendingOperation} (present : pendingOperations[id]? = some pending)
    {record : TaskRecord} (state : record.state ≠ .waitingApproval) :
    Registry env ids (authority.remove id).2 (pendingOperations.erase id)
      (tasks.insert pending.taskId record) := by
  apply registry.drop (fun other => id = other) (registry.indexed.remove id)
    (authority.remove_limits id).2
  · intro other same
    rw [ApprovalAuthority.remove_pending, if_pos same]
  · intro other distinct
    rw [ApprovalAuthority.remove_pending, if_neg distinct]
  · intro other same
    rw [OrdMap.get_erase, if_pos same]
  · intro other distinct
    rw [OrdMap.get_erase, if_neg distinct]
  · intro other held there
    constructor
    · rintro rfl
      cases Option.some.inj (present.symm.trans there)
      rfl
    · intro sameTask
      exact registry.single id other pending held present there sameTask.symm
  · exact state

theorem finish {s : TaskSupervisor S}
    (registry : Registry env ids s.approvalAuthority s.pendingOperations s.tasks) (taskId : TaskId)
    {record : TaskRecord} (state : record.state ≠ .waitingApproval) :
    Registry env ids (s.invalidateApprovals taskId).approvalAuthority
      (s.invalidateApprovals taskId).pendingOperations (s.tasks.insert taskId record) := by
  rw [TaskSupervisor.invalidateApprovals_eq]
  apply registry.drop (fun id => id ∈ s.pendingIds taskId) (registry.indexed.foldl_remove _)
    (ApprovalAuthority.foldl_remove_limits _ _)
  · intro id dropped
    rw [ApprovalAuthority.foldl_remove_pending, if_pos dropped]
  · intro id kept
    rw [ApprovalAuthority.foldl_remove_pending, if_neg kept]
  · intro id dropped
    rw [OrdMap.get_foldl_erase, if_pos dropped]
  · intro id kept
    rw [OrdMap.get_foldl_erase, if_neg kept]
  · intro id pending present
    rw [TaskSupervisor.mem_pendingIds]
    constructor
    · rintro ⟨found, there, owner⟩
      cases Option.some.inj (present.symm.trans there)
      exact owner
    · intro owner
      exact ⟨pending, present, owner⟩
  · exact state

end Registry

/-- The Task table: recovered Tasks are terminal and apart, accepted specifications are
valid, and the start instant is set from the first run on. -/
structure Records (env : Env) (ids : Nat) (tasks : OrdMap TaskId TaskRecord)
    (recoveredTasks : OrdMap TaskId TaskState) : Prop where
  terminal : ∀ (taskId : TaskId) (state : TaskState), recoveredTasks[taskId]? = some state →
    state.isTerminal = true
  apart : ∀ (taskId : TaskId) (record : TaskRecord), tasks[taskId]? = some record →
    recoveredTasks[taskId]? = none
  valid : ∀ (taskId : TaskId) (record : TaskRecord), tasks[taskId]? = some record →
    record.state ≠ .rejected → record.spec.Valid
  unstarted : ∀ (taskId : TaskId) (record : TaskRecord), tasks[taskId]? = some record →
    record.state = .queued → record.startedAt = none
  started : ∀ (taskId : TaskId) (record : TaskRecord), tasks[taskId]? = some record →
    record.state.Live → record.startedAt.isSome = true
  known : ∀ (taskId : TaskId) (record : TaskRecord), tasks[taskId]? = some record →
    env.Known ids taskId.uuid
  knownRecovered : ∀ (taskId : TaskId) (state : TaskState),
    recoveredTasks[taskId]? = some state → env.Known ids taskId.uuid

namespace Records
variable {env : Env} {ids : Nat} {tasks : OrdMap TaskId TaskRecord}
  {recoveredTasks : OrdMap TaskId TaskState}

theorem later (records : Records env ids tasks recoveredTasks) {after : Nat} (le : ids ≤ after) :
    Records env after tasks recoveredTasks :=
  { records with
    known := fun taskId record found => (records.known taskId record found).mono le
    knownRecovered := fun taskId state found =>
      (records.knownRecovered taskId state found).mono le }

theorem insert (records : Records env ids tasks recoveredTasks) {taskId : TaskId}
    {record : TaskRecord} (apart : recoveredTasks[taskId]? = none)
    (valid : record.state ≠ .rejected → record.spec.Valid)
    (unstarted : record.state = .queued → record.startedAt = none)
    (started : record.state.Live → record.startedAt.isSome = true)
    (known : env.Known ids taskId.uuid) :
    Records env ids (tasks.insert taskId record) recoveredTasks := by
  -- a property of every record that the new one has too
  have lift : ∀ {P : TaskId → TaskRecord → Prop}, P taskId record →
      (∀ other found, tasks[other]? = some found → P other found) →
      ∀ (other : TaskId) (found : TaskRecord),
        (tasks.insert taskId record)[other]? = some found → P other found := by
    intro P new old other found present
    rw [OrdMap.get_insert] at present
    split at present
    · rename_i same
      cases Option.some.inj present
      exact same ▸ new
    · exact old other found present
  exact {
    terminal := records.terminal
    apart := lift apart records.apart
    valid := lift valid records.valid
    unstarted := lift unstarted records.unstarted
    started := lift started records.started
    known := lift known records.known
    knownRecovered := records.knownRecovered }

theorem step (records : Records env ids tasks recoveredTasks) {taskId : TaskId}
    {record : TaskRecord} (found : tasks[taskId]? = some record)
    (notRejected : record.state ≠ .rejected) (next : TaskState) (startedAt : Option Instant)
    (left : next ≠ .queued) (started : next.Live → startedAt.isSome = true) :
    Records env ids
      (tasks.insert taskId { record with state := next, startedAt := startedAt })
      recoveredTasks := by
  apply records.insert (records.apart taskId record found)
  · exact fun _ => records.valid taskId record found notRejected
  · exact fun queued => absurd queued left
  · exact started
  · exact records.known taskId record found

end Records

/-- Unused grants belong to Tasks that have run, and carry the scope of their request. -/
structure Granted (tasks : OrdMap TaskId TaskRecord)
    (approvedOperations : OrdMap OperationId ApprovedOperation) : Prop where
  scope : ∀ (operationId : OperationId) (approved : ApprovedOperation),
    approvedOperations[operationId]? = some approved →
      approved.grant.taskId = approved.taskId ∧ approved.grant.operationId = operationId ∧
        approved.grant.action = approved.request.action
  owned : ∀ (operationId : OperationId) (approved : ApprovedOperation),
    approvedOperations[operationId]? = some approved →
      ∃ record, tasks[approved.taskId]? = some record ∧ record.state.Started

namespace Granted
variable {tasks : OrdMap TaskId TaskRecord}
  {approvedOperations : OrdMap OperationId ApprovedOperation}

theorem retask (granted : Granted tasks approvedOperations) {taskId : TaskId}
    {record : TaskRecord} (state : record.state.Started ∨ tasks[taskId]? = none) :
    Granted (tasks.insert taskId record) approvedOperations :=
  { granted with
    owned := by
      intro operationId approved held
      obtain ⟨found, present, ran⟩ := granted.owned operationId approved held
      rw [OrdMap.get_insert]
      split
      · rename_i same
        rcases state with started | new
        · exact ⟨record, rfl, started⟩
        · rw [same, present] at new
          cases new
      · exact ⟨found, present, ran⟩ }

theorem shrink (granted : Granted tasks approvedOperations)
    {fewer : OrdMap OperationId ApprovedOperation}
    (among : ∀ (operationId : OperationId) (approved : ApprovedOperation),
      fewer[operationId]? = some approved → approvedOperations[operationId]? = some approved) :
    Granted tasks fewer :=
  ⟨fun operationId approved held => granted.scope operationId approved (among _ _ held),
    fun operationId approved held => granted.owned operationId approved (among _ _ held)⟩

theorem insert (granted : Granted tasks approvedOperations) {operationId : OperationId}
    (approved : ApprovedOperation)
    (scope : approved.grant.taskId = approved.taskId ∧ approved.grant.operationId = operationId ∧
      approved.grant.action = approved.request.action)
    {record : TaskRecord} (found : tasks[approved.taskId]? = some record)
    (ran : record.state.Started) :
    Granted tasks (approvedOperations.insert operationId approved) := by
  constructor
  · intro other held present
    rw [OrdMap.get_insert] at present
    split at present
    · rename_i same
      cases Option.some.inj present
      exact same ▸ scope
    · exact granted.scope other held present
  · intro other held present
    rw [OrdMap.get_insert] at present
    split at present
    · cases Option.some.inj present
      exact ⟨record, found, ran⟩
    · exact granted.owned other held present

end Granted

end AiOs
