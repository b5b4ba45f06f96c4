import AiOs.Runtime.Event

/-! The approval authority of `aios-runtime`: pending requests in two maps that invert each
other, and linear grants. Clock readings and generated identifiers are arguments here; the
supervisor supplies them. -/
namespace AiOs

/-- A reading of the monotonic clock, in nanoseconds. -/
abbrev Instant := Nat

/-- A time span, in nanoseconds. -/
abbrev Duration := Nat

def Duration.fromSecs (seconds : Nat) : Duration := seconds * 10 ^ 9
def Duration.fromMillis (milliseconds : Nat) : Duration := milliseconds * 10 ^ 6

/-- `Instant::checked_add`: seconds are kept in a signed 64-bit number. -/
def Instant.checkedAdd (now : Instant) (span : Duration) : Option Instant :=
  if now + span < 2 ^ 63 * 10 ^ 9 then some (now + span) else none

def defaultMaxPendingApprovals : Nat := 1024
def defaultMaxTtl : Duration := Duration.fromSecs (15 * 60)
def maxMaxPendingApprovals : Nat := 65536
def maxMaxTtl : Duration := Duration.fromSecs (24 * 60 * 60)

/-- What a user interface may present for one approval request. -/
structure ApprovalRequest where
  approvalId : ApprovalId
  taskId : TaskId
  operationId : OperationId
  action : String
  expiresAfterMs : Nat
  deriving DecidableEq, Repr

structure ApprovalReceipt where
  approvalId : ApprovalId
  deriving DecidableEq, Repr

inductive ApprovalError where
  | invalidConfig
  | invalidRequest
  | duplicateOperation
  | capacityExceeded
  | notFound
  | expired
  | scopeMismatch
  deriving DecidableEq, Repr

structure PendingApproval where
  taskId : TaskId
  operationId : OperationId
  action : String
  deadline : Instant
  deriving DecidableEq, Repr

structure ApprovalGrant where
  approvalId : ApprovalId
  taskId : TaskId
  operationId : OperationId
  action : String
  deadline : Instant
  deriving DecidableEq, Repr

/-- Consumes the grant: the caller has given it up whatever the result is. -/
def ApprovalGrant.authorize (grant : ApprovalGrant) (now : Instant) (taskId : TaskId)
    (operationId : OperationId) (action : String) : Except ApprovalError ApprovalReceipt :=
  if grant.deadline ≤ now then .error .expired
  else if grant.taskId ≠ taskId ∨ grant.operationId ≠ operationId ∨ grant.action ≠ action then
    .error .scopeMismatch
  else .ok ⟨grant.approvalId⟩

abbrev OperationKey := LexPair TaskId OperationId

def PendingApproval.key (pending : PendingApproval) : OperationKey :=
  ⟨pending.taskId, pending.operationId⟩

/-- Bounded authority for pending requests. -/
structure ApprovalAuthority where
  pending : OrdMap ApprovalId PendingApproval
  operationIndex : OrdMap OperationKey ApprovalId
  maxPending : Nat
  maxTtl : Duration

def isValidAction (action : String) : Bool := isValidIdentifier action maxActionBytes

def durationMs (span : Duration) : Option Nat :=
  if span / 10 ^ 6 < 2 ^ 64 then some (span / 10 ^ 6) else none

namespace ApprovalAuthority

def new (maxPending : Nat) (maxTtl : Duration) : Except ApprovalError ApprovalAuthority :=
  if maxPending = 0 ∨ maxMaxPendingApprovals < maxPending ∨ maxTtl = 0 ∨ maxMaxTtl < maxTtl then
    .error .invalidConfig
  else .ok ⟨∅, ∅, maxPending, maxTtl⟩

/-- The configuration of every supervisor. -/
def default : ApprovalAuthority := ⟨∅, ∅, defaultMaxPendingApprovals, defaultMaxTtl⟩

def insert (authority : ApprovalAuthority) (approvalId : ApprovalId) (pending : PendingApproval) :
    ApprovalAuthority :=
  { authority with
    pending := authority.pending.insert approvalId pending
    operationIndex := authority.operationIndex.insert pending.key approvalId }

/-- Registers one operation. The conversion of the lifetime comes after the insertion, so
its failure would leave the entry behind. -/
def request (authority : ApprovalAuthority) (taskId : TaskId) (operationId : OperationId)
    (action : String) (ttl : Duration) (now : Instant) (approvalId : ApprovalId) :
    Except ApprovalError ApprovalRequest × ApprovalAuthority :=
  if !isValidAction action || decide (ttl < Duration.fromMillis 1)
      || decide (authority.maxTtl < ttl) then
    (.error .invalidRequest, authority)
  else if authority.operationIndex.contains ⟨taskId, operationId⟩ then
    (.error .duplicateOperation, authority)
  else if authority.maxPending ≤ authority.pending.size then
    (.error .capacityExceeded, authority)
  else
    match now.checkedAdd ttl with
    | none => (.error .invalidRequest, authority)
    | some deadline =>
      let inserted := authority.insert approvalId ⟨taskId, operationId, action, deadline⟩
      match durationMs ttl with
      | none => (.error .invalidRequest, inserted)
      | some expiresAfterMs =>
        (.ok ⟨approvalId, taskId, operationId, action, expiresAfterMs⟩, inserted)

def remove (authority : ApprovalAuthority) (approvalId : ApprovalId) :
    Option PendingApproval × ApprovalAuthority :=
  match authority.pending[approvalId]? with
  | none => (none, authority)
  | some pending =>
    (some pending, { authority with
      pending := authority.pending.erase approvalId
      operationIndex := authority.operationIndex.erase pending.key })

def approve (authority : ApprovalAuthority) (approvalId : ApprovalId) (now : Instant) :
    Except ApprovalError ApprovalGrant × ApprovalAuthority :=
  match authority.pending[approvalId]? with
  | none => (.error .notFound, authority)
  | some pending =>
    if pending.deadline ≤ now then (.error .expired, authority)
    else
      match authority.remove approvalId with
      | (none, after) => (.error .notFound, after)
      | (some pending, after) =>
        (.ok ⟨approvalId, pending.taskId, pending.operationId, pending.action, pending.deadline⟩,
          after)

def deny (authority : ApprovalAuthority) (approvalId : ApprovalId) (now : Instant) :
    Except ApprovalError Unit × ApprovalAuthority :=
  match authority.pending[approvalId]? with
  | none => (.error .notFound, authority)
  | some pending =>
    if pending.deadline ≤ now then (.error .expired, authority)
    else
      match authority.remove approvalId with
      | (none, after) => (.error .notFound, after)
      | (some _, after) => (.ok (), after)

def contains (authority : ApprovalAuthority) (approvalId : ApprovalId) : Bool :=
  authority.pending.contains approvalId

def revoke (authority : ApprovalAuthority) (approvalId : ApprovalId) : Bool × ApprovalAuthority :=
  ((authority.remove approvalId).1.isSome, (authority.remove approvalId).2)

def expiredIds (authority : ApprovalAuthority) (now : Instant) : List ApprovalId :=
  authority.pending.toList.filterMap
    (fun e => if e.2.deadline ≤ now then some e.1 else none)

def purgeExpired (authority : ApprovalAuthority) (now : Instant) : ApprovalAuthority :=
  (authority.expiredIds now).foldl (fun current id => (current.remove id).2) authority

def pendingCount (authority : ApprovalAuthority) (now : Instant) : Nat × ApprovalAuthority :=
  ((authority.purgeExpired now).pending.size, authority.purgeExpired now)

/-- The two maps invert each other. -/
def Indexed (authority : ApprovalAuthority) : Prop :=
  ∀ (key : OperationKey) (id : ApprovalId), authority.operationIndex[key]? = some id ↔
    ∃ pending : PendingApproval, authority.pending[id]? = some pending ∧ pending.key = key

end ApprovalAuthority

/-- Gives an unused grant back after a failed audit batch. -/
def ApprovalGrant.restore (grant : ApprovalGrant) (authority : ApprovalAuthority) :
    ApprovalAuthority :=
  authority.insert grant.approvalId
    ⟨grant.taskId, grant.operationId, grant.action, grant.deadline⟩

theorem ApprovalGrant.authorize_ok {grant : ApprovalGrant} {now : Instant} {taskId : TaskId}
    {operationId : OperationId} {action : String} {receipt : ApprovalReceipt}
    (authorized : grant.authorize now taskId operationId action = .ok receipt) :
    now < grant.deadline ∧ (grant.taskId = taskId ∧ grant.operationId = operationId) ∧
      receipt = ⟨grant.approvalId⟩ := by
  unfold ApprovalGrant.authorize at authorized
  split at authorized
  · cases authorized
  · rename_i early
    split at authorized
    · cases authorized
    · rename_i scope
      rw [not_or, not_or, not_not, not_not] at scope
      cases authorized
      exact ⟨Nat.lt_of_not_ge early, ⟨scope.1, scope.2.1⟩, rfl⟩

namespace ApprovalAuthority

theorem remove_missing {authority : ApprovalAuthority} {id : ApprovalId}
    (missing : authority.pending[id]? = none) : authority.remove id = (none, authority) := by
  simp only [remove, missing]

theorem remove_present {authority : ApprovalAuthority} {id : ApprovalId}
    {pending : PendingApproval} (present : authority.pending[id]? = some pending) :
    authority.remove id = (some pending, { authority with
      pending := authority.pending.erase id
      operationIndex := authority.operationIndex.erase pending.key }) := by
  simp only [remove, present]

theorem remove_pending (authority : ApprovalAuthority) (id other : ApprovalId) :
    (authority.remove id).2.pending[other]? =
      if id = other then none else authority.pending[other]? := by
  cases found : authority.pending[id]? with
  | none =>
    rw [remove_missing found]
    split
    · rename_i same
      rw [← same, found]
    · rfl
  | some pending =>
    rw [remove_present found]
    exact OrdMap.get_erase _ _ _

theorem remove_limits (authority : ApprovalAuthority) (id : ApprovalId) :
    (authority.remove id).2.maxPending = authority.maxPending ∧
      (authority.remove id).2.maxTtl = authority.maxTtl := by
  unfold remove
  split <;> exact ⟨rfl, rfl⟩

theorem remove_size (authority : ApprovalAuthority) (id : ApprovalId) :
    (authority.remove id).2.pending.size ≤ authority.pending.size := by
  cases found : authority.pending[id]? with
  | none => rw [remove_missing found]
  | some removed =>
    rw [remove_present found]
    exact Std.ExtTreeMap.size_erase_le

theorem Indexed.remove {authority : ApprovalAuthority} (indexed : authority.Indexed)
    (id : ApprovalId) : (authority.remove id).2.Indexed := by
  cases found : authority.pending[id]? with
  | none =>
    rw [remove_missing found]
    exact indexed
  | some removed =>
    rw [remove_present found]
    exact OrdMap.Indexes.remove indexed found

theorem foldl_remove_pending (ids : List ApprovalId) (authority : ApprovalAuthority)
    (other : ApprovalId) :
    (ids.foldl (fun a id => (a.remove id).2) authority).pending[other]? =
      if other ∈ ids then none else authority.pending[other]? := by
  induction ids generalizing authority with
  | nil => simp
  | cons id rest ih =>
    rw [List.foldl_cons, ih, remove_pending]
    by_cases first : id = other
    · simp [first]
    · by_cases later : other ∈ rest
      · simp [later]
      · simp [later, first, Ne.symm first]

theorem foldl_remove_limits (ids : List ApprovalId) (authority : ApprovalAuthority) :
    (ids.foldl (fun a id => (a.remove id).2) authority).maxTtl = authority.maxTtl := by
  induction ids generalizing authority with
  | nil => rfl
  | cons id rest ih =>
    rw [List.foldl_cons, ih]
    exact (authority.remove_limits id).2

theorem Indexed.foldl_remove {authority : ApprovalAuthority} (indexed : authority.Indexed)
    (ids : List ApprovalId) : (ids.foldl (fun a id => (a.remove id).2) authority).Indexed := by
  induction ids generalizing authority with
  | nil => exact indexed
  | cons id rest ih => exact ih (indexed.remove id)

theorem Indexed.insert {authority : ApprovalAuthority} (indexed : authority.Indexed)
    {id : ApprovalId} {pending : PendingApproval} (newId : authority.pending[id]? = none)
    (newKey : authority.operationIndex[pending.key]? = none) :
    (authority.insert id pending).Indexed :=
  OrdMap.Indexes.admit indexed newKey newId

theorem remove_insert {authority : ApprovalAuthority} {id : ApprovalId}
    {pending : PendingApproval} (newId : authority.pending[id]? = none)
    (newKey : authority.operationIndex[pending.key]? = none) :
    ((authority.insert id pending).remove id).2 = authority := by
  have present : (authority.insert id pending).pending[id]? = some pending := by
    simp [ApprovalAuthority.insert]
  rw [remove_present present]
  obtain ⟨entries, index, maxPending, maxTtl⟩ := authority
  simp only [ApprovalAuthority.insert, OrdMap.erase_insert_new _ newId,
    OrdMap.erase_insert_new _ newKey]

theorem restore_remove {authority : ApprovalAuthority} (indexed : authority.Indexed)
    {id : ApprovalId} {pending : PendingApproval}
    (present : authority.pending[id]? = some pending) :
    ApprovalGrant.restore
      ⟨id, pending.taskId, pending.operationId, pending.action, pending.deadline⟩
      (authority.remove id).2 = authority := by
  have known : authority.operationIndex[pending.key]? = some id :=
    (indexed pending.key id).mpr ⟨pending, present, rfl⟩
  rw [remove_present present]
  obtain ⟨entries, index, maxPending, maxTtl⟩ := authority
  simp only [ApprovalGrant.restore, ApprovalAuthority.insert]
  exact congrArg₂ (fun e i => (⟨e, i, maxPending, maxTtl⟩ : ApprovalAuthority))
    (OrdMap.insert_erase_same present) (OrdMap.insert_erase_same known)

theorem approve_ok {authority after : ApprovalAuthority} {id : ApprovalId} {now : Instant}
    {grant : ApprovalGrant} (approved : authority.approve id now = (.ok grant, after)) :
    ∃ pending, authority.pending[id]? = some pending ∧ now < pending.deadline ∧
      grant = ⟨id, pending.taskId, pending.operationId, pending.action, pending.deadline⟩ ∧
      after = (authority.remove id).2 := by
  unfold approve at approved
  split at approved
  · cases approved
  · rename_i pending present
    split at approved
    · cases approved
    · rename_i early
      rw [remove_present present] at approved ⊢
      cases approved
      exact ⟨pending, present, Nat.lt_of_not_ge early, rfl, rfl⟩

theorem approve_error {authority after : ApprovalAuthority} {id : ApprovalId} {now : Instant}
    {e : ApprovalError} (refused : authority.approve id now = (.error e, after)) :
    after = authority := by
  unfold approve at refused
  split at refused
  · exact (congrArg Prod.snd refused).symm
  · rename_i pending present
    split at refused
    · exact (congrArg Prod.snd refused).symm
    · rw [remove_present present] at refused
      cases refused

theorem request_ok {authority after : ApprovalAuthority} {taskId : TaskId}
    {operationId : OperationId} {action : String} {ttl : Duration} {now : Instant}
    {id : ApprovalId} {approval : ApprovalRequest}
    (requested : authority.request taskId operationId action ttl now id = (.ok approval, after)) :
    authority.operationIndex[(⟨taskId, operationId⟩ : OperationKey)]? = none ∧
      authority.pending.size < authority.maxPending ∧
      approval.approvalId = id ∧ approval.taskId = taskId ∧ approval.operationId = operationId ∧
      after = authority.insert id ⟨taskId, operationId, action, now + ttl⟩ := by
  unfold request at requested
  split at requested
  · cases requested
  split at requested
  · cases requested
  rename_i free
  split at requested
  · cases requested
  rename_i room
  have unused : authority.operationIndex[(⟨taskId, operationId⟩ : OperationKey)]? = none :=
    Std.ExtTreeMap.getElem?_eq_none_of_contains_eq_false (Bool.eq_false_iff.mpr free)
  unfold Instant.checkedAdd at requested
  split at requested
  · cases requested
  rename_i deadline sum
  split at sum
  · cases Option.some.inj sum
    dsimp only at requested
    split at requested
    · cases requested
    · cases requested
      exact ⟨unused, Nat.lt_of_not_ge room, rfl, rfl, rfl, rfl⟩
  · cases sum

/-- With a lifetime limit that the constructor accepts the late conversion cannot fail, so a
refused request leaves the authority as it was. -/
theorem request_error {authority after : ApprovalAuthority} {taskId : TaskId}
    {operationId : OperationId} {action : String} {ttl : Duration} {now : Instant}
    {id : ApprovalId} {e : ApprovalError} (limit : authority.maxTtl ≤ maxMaxTtl)
    (refused : authority.request taskId operationId action ttl now id = (.error e, after)) :
    after = authority := by
  unfold request at refused
  split at refused
  · exact (congrArg Prod.snd refused).symm
  rename_i accepted
  split at refused
  · exact (congrArg Prod.snd refused).symm
  split at refused
  · exact (congrArg Prod.snd refused).symm
  split at refused
  · exact (congrArg Prod.snd refused).symm
  have short : ttl ≤ maxMaxTtl := by
    simp only [Bool.or_eq_true, decide_eq_true_eq, not_or, Nat.not_lt] at accepted
    exact Nat.le_trans accepted.2 limit
  have converts : ttl / 10 ^ 6 < 2 ^ 64 := by
    have bound : maxMaxTtl < 2 ^ 64 := by decide
    exact Nat.lt_of_le_of_lt (Nat.div_le_self _ _) (Nat.lt_of_le_of_lt short bound)
  simp only [durationMs, if_pos converts] at refused
  cases refused

theorem mem_expiredIds {authority : ApprovalAuthority} {now : Instant} {id : ApprovalId} :
    id ∈ authority.expiredIds now ↔
      ∃ pending, authority.pending[id]? = some pending ∧ pending.deadline ≤ now := by
  simp only [expiredIds, List.mem_filterMap, OrdMap.mem_toList_pair]
  constructor
  · rintro ⟨⟨other, pending⟩, present, selected⟩
    split at selected
    · rename_i late
      cases Option.some.inj selected
      exact ⟨pending, present, late⟩
    · cases selected
  · rintro ⟨pending, present, late⟩
    exact ⟨(id, pending), present, if_pos late⟩

theorem expiredIds_nodup (authority : ApprovalAuthority) (now : Instant) :
    (authority.expiredIds now).Nodup := by
  have distinct : authority.pending.toList.Pairwise (fun a b => ¬ compare a.1 b.1 = .eq) :=
    Std.ExtTreeMap.distinct_keys_toList
  refine List.Pairwise.filterMap _ ?_ distinct
  intro a b different x hx y hy same
  subst same
  split at hx
  · split at hy
    · cases Option.some.inj hx
      have equal : b.1 = a.1 := Option.some.inj hy
      exact different (by rw [equal]; exact Std.compare_self)
    · cases hy
  · cases hx

end ApprovalAuthority

end AiOs
