import Mathlib.Data.List.Basic
import AiOs.Lib.Account
import AiOs.Runtime.Registry

/-! The audit log as a ledger of approvals. Every approval has an account in the logs, and
its entries are a prefix of one of five chains. Retained requests stand at the first entry
of their chain and unused grants at the second. -/
namespace AiOs

open Account

def TaskEventKind.approval : TaskEventKind → Option ApprovalId
  | .approvalRequested id _ | .approvalGranted id _ | .approvalDenied id _
  | .approvalExpired id _ | .approvalRevoked id _ | .approvalConsumed id _ => some id
  | _ => none

instance : Account.Keyed TaskEventKind ApprovalId := ⟨TaskEventKind.approval⟩

/-- The complete lives of one approval of one operation. -/
def approvalChains (id : ApprovalId) (operationId : OperationId) : List (List TaskEventKind) :=
  [[.approvalRequested id operationId, .approvalDenied id operationId],
    [.approvalRequested id operationId, .approvalExpired id operationId],
    [.approvalRequested id operationId, .approvalRevoked id operationId],
    [.approvalRequested id operationId, .approvalGranted id operationId,
      .approvalConsumed id operationId],
    [.approvalRequested id operationId, .approvalGranted id operationId,
      .approvalRevoked id operationId]]

/-- The entries so far are the beginning of a complete life. -/
def Linear (id : ApprovalId) (operationId : OperationId) (events : List TaskEventKind) : Prop :=
  ∃ chain ∈ approvalChains id operationId, events <+: chain

section chains
variable (id : ApprovalId) (operationId : OperationId)

theorem linear_nil : Linear id operationId [] :=
  ⟨_, List.mem_cons_self, List.nil_prefix⟩

theorem linear_requested : Linear id operationId [.approvalRequested id operationId] :=
  ⟨_, List.mem_cons_self, ⟨_, rfl⟩⟩

theorem linear_granted :
    Linear id operationId [.approvalRequested id operationId, .approvalGranted id operationId] :=
  ⟨[.approvalRequested id operationId, .approvalGranted id operationId,
    .approvalConsumed id operationId], by simp [approvalChains], ⟨_, rfl⟩⟩

theorem linear_chain {chain : List TaskEventKind} (member : chain ∈ approvalChains id operationId) :
    Linear id operationId chain :=
  ⟨chain, member, List.prefix_refl _⟩

end chains

theorem entries_plain {batch : List TaskEventKind} (plain : ∀ kind ∈ batch, kind.approval = none)
    (id : ApprovalId) : entries id batch = [] := by
  apply entries_eq_nil
  intro kind member about
  have found : kind.approval = some id := about
  rw [plain kind member] at found
  cases found

theorem entries_single {event : TaskEventKind} {id : ApprovalId}
    (about : event.approval = some id) {rest : List TaskEventKind}
    (plain : ∀ kind ∈ rest, kind.approval = none) (other : ApprovalId) :
    entries other (event :: rest) = if id = other then [event] else [] := by
  simp only [entries_cons, Keyed.key, about, entries_plain plain, Option.some.injEq]

/-- Where each approval stands in the logs. -/
structure Ledger (env : Env) (ids : Nat) (logs : TaskId → List TaskEventKind)
    (pendingOperations : OrdMap ApprovalId PendingOperation)
    (approvedOperations : OrdMap OperationId ApprovedOperation) : Prop where
  requested : ∀ (id : ApprovalId) (pending : PendingOperation),
    pendingOperations[id]? = some pending →
      Settled logs id pending.taskId [.approvalRequested id pending.operationId]
  granted : ∀ (operationId : OperationId) (approved : ApprovedOperation),
    approvedOperations[operationId]? = some approved →
      Settled logs approved.grant.approvalId approved.taskId
        [.approvalRequested approved.grant.approvalId operationId,
          .approvalGranted approved.grant.approvalId operationId]
  linear : ∀ id : ApprovalId, ∃ home operationId events,
    Settled logs id home events ∧ Linear id operationId events
  known : ∀ (id : ApprovalId) (taskId : TaskId), entries id (logs taskId) ≠ [] →
    env.Known ids id.uuid

namespace Ledger
variable {env : Env} {ids : Nat} {logs after : TaskId → List TaskEventKind}
  {pendingOperations : OrdMap ApprovalId PendingOperation}
  {approvedOperations : OrdMap OperationId ApprovedOperation}

theorem later (ledger : Ledger env ids logs pendingOperations approvedOperations) {more : Nat}
    (le : ids ≤ more) : Ledger env more logs pendingOperations approvedOperations :=
  { ledger with known := fun id taskId mentioned => (ledger.known id taskId mentioned).mono le }

theorem shrink (ledger : Ledger env ids logs pendingOperations approvedOperations)
    {fewer : OrdMap OperationId ApprovedOperation}
    (among : ∀ (operationId : OperationId) (approved : ApprovedOperation),
      fewer[operationId]? = some approved → approvedOperations[operationId]? = some approved) :
    Ledger env ids logs pendingOperations fewer :=
  { ledger with
    granted := fun operationId approved held =>
      ledger.granted operationId approved (among operationId approved held) }

/-- One batch on the log of a Task. Each approval either has no part in it or moves along
its chain; what the maps hold afterwards has not moved, or is described anew. -/
theorem grow (ledger : Ledger env ids logs pendingOperations approvedOperations)
    {taskId : TaskId} {batch : List TaskEventKind}
    (grown : Grown logs after taskId batch)
    {pendingAfter : OrdMap ApprovalId PendingOperation}
    {approvedAfter : OrdMap OperationId ApprovedOperation} {more : Nat} (le : ids ≤ more)
    (moves : ∀ id, entries id batch = [] ∨
      env.Known more id.uuid ∧ ∃ operationId events, Settled logs id taskId events ∧
        Linear id operationId (events ++ entries id batch))
    (requested : ∀ (id : ApprovalId) (pending : PendingOperation),
      pendingAfter[id]? = some pending →
        (pendingOperations[id]? = some pending ∧ entries id batch = []) ∨
        Settled after id pending.taskId [.approvalRequested id pending.operationId])
    (granted : ∀ (operationId : OperationId) (approved : ApprovedOperation),
      approvedAfter[operationId]? = some approved →
        (approvedOperations[operationId]? = some approved ∧
          entries approved.grant.approvalId batch = []) ∨
        Settled after approved.grant.approvalId approved.taskId
          [.approvalRequested approved.grant.approvalId operationId,
            .approvalGranted approved.grant.approvalId operationId]) :
    Ledger env more after pendingAfter approvedAfter := by
  constructor
  · intro id pending present
    rcases requested id pending present with ⟨old, untouched⟩ | new
    · exact (ledger.requested id pending old).keep grown untouched
    · exact new
  · intro operationId approved held
    rcases granted operationId approved held with ⟨old, untouched⟩ | new
    · exact (ledger.granted operationId approved old).keep grown untouched
    · exact new
  · intro id
    rcases moves id with untouched | ⟨_, operationId, events, account, linear⟩
    · obtain ⟨home, operationId, events, account, linear⟩ := ledger.linear id
      exact ⟨home, operationId, events, account.keep grown untouched, linear⟩
    · exact ⟨taskId, operationId, _, account.move grown, linear⟩
  · intro id other mentioned
    rcases moves id with untouched | ⟨known, _⟩
    · refine (ledger.known id other ?_).mono le
      intro absent
      apply mentioned
      by_cases isOwner : other = taskId
      · subst isOwner
        rw [grown.own, entries_append, absent, untouched]
        rfl
      · rw [grown.others other isOwner]
        exact absent
    · exact known

theorem grow_plain (ledger : Ledger env ids logs pendingOperations approvedOperations)
    {taskId : TaskId} {batch : List TaskEventKind}
    (grown : Grown logs after taskId batch) {more : Nat} (le : ids ≤ more)
    (plain : ∀ kind ∈ batch, kind.approval = none) :
    Ledger env more after pendingOperations approvedOperations := by
  have untouched := entries_plain plain
  apply ledger.grow grown le
  · exact fun id => .inl (untouched id)
  · exact fun id pending present => .inl ⟨present, untouched id⟩
  · exact fun operationId approved held => .inl ⟨held, untouched _⟩

theorem pending_ne_granted (ledger : Ledger env ids logs pendingOperations approvedOperations)
    {id : ApprovalId} {pending : PendingOperation} {operationId : OperationId}
    {approved : ApprovedOperation} (present : pendingOperations[id]? = some pending)
    (held : approvedOperations[operationId]? = some approved) :
    id ≠ approved.grant.approvalId := by
  intro same
  have first := ledger.requested id pending present
  have second := ledger.granted operationId approved held
  rw [← same] at second
  have equal := (first.home_unique second (by simp)).2
  simp at equal

theorem granted_unique (ledger : Ledger env ids logs pendingOperations approvedOperations)
    {a b : OperationId} {x y : ApprovedOperation} (ha : approvedOperations[a]? = some x)
    (hb : approvedOperations[b]? = some y) (same : x.grant.approvalId = y.grant.approvalId) :
    a = b := by
  have first := ledger.granted a x ha
  have second := ledger.granted b y hb
  rw [← same] at second
  have equal := (first.home_unique second (by simp)).2
  simp only [List.cons.injEq, TaskEventKind.approvalRequested.injEq] at equal
  exact equal.1.2

theorem ask (ledger : Ledger env ids logs pendingOperations approvedOperations)
    {taskId : TaskId} {id : ApprovalId} (pending : PendingOperation) {next : TaskEventKind}
    (owner : pending.taskId = taskId) (plain : next.approval = none)
    (grown : Grown logs after taskId
      [.approvalRequested id pending.operationId, next])
    {more : Nat} (le : ids ≤ more) (unused : ¬ env.Known ids id.uuid)
    (used : env.Known more id.uuid) :
    Ledger env more after (pendingOperations.insert id pending) approvedOperations := by
  have only : ∀ other, entries other [.approvalRequested id pending.operationId, next] =
      if id = other then [.approvalRequested id pending.operationId] else [] :=
    entries_single rfl (by simpa using plain)
  have absent : ∀ t, entries id (logs t) = [] := by
    intro t
    by_contra mentioned
    exact unused (ledger.known id t mentioned)
  have fresh : Settled logs id taskId [] := .fresh absent taskId
  have opened : Settled after id taskId [.approvalRequested id pending.operationId] := by
    have moved := fresh.move grown
    rw [only, if_pos rfl] at moved
    exact moved
  apply ledger.grow grown le
  · intro other
    rw [only]
    split
    · rename_i same
      subst same
      exact .inr ⟨used, pending.operationId, [], fresh, linear_requested _ _⟩
    · exact .inl rfl
  · intro other held present
    rw [OrdMap.get_insert] at present
    split at present
    · rename_i same
      subst same
      cases Option.some.inj present
      exact .inr (owner ▸ opened)
    · rename_i distinct
      exact .inl ⟨present, by rw [only, if_neg distinct]⟩
  · intro operationId approved held
    refine .inl ⟨held, ?_⟩
    rw [only, if_neg]
    rintro rfl
    have mentioned := (ledger.granted operationId approved held).here
    rw [absent] at mentioned
    cases mentioned

theorem settle (ledger : Ledger env ids logs pendingOperations approvedOperations)
    {id : ApprovalId} {pending : PendingOperation}
    (present : pendingOperations[id]? = some pending) {event next : TaskEventKind}
    (about : event.approval = some id) (plain : next.approval = none)
    (grown : Grown logs after pending.taskId [event, next])
    (outcome : Linear id pending.operationId
      [.approvalRequested id pending.operationId, event])
    {approvedAfter : OrdMap OperationId ApprovedOperation}
    (granted : ∀ (operationId : OperationId) (approved : ApprovedOperation),
      approvedAfter[operationId]? = some approved →
        approvedOperations[operationId]? = some approved ∨
        (event = .approvalGranted id pending.operationId ∧ approved.grant.approvalId = id ∧
          approved.taskId = pending.taskId ∧ operationId = pending.operationId)) :
    Ledger env ids after (pendingOperations.erase id) approvedAfter := by
  have only : ∀ other, entries other [event, next] = if id = other then [event] else [] :=
    entries_single about (by simpa using plain)
  have account := ledger.requested id pending present
  have mentioned : env.Known ids id.uuid := by
    apply ledger.known id pending.taskId
    rw [account.here]
    exact nofun
  apply ledger.grow grown (Nat.le_refl ids)
  · intro other
    rw [only]
    split
    · rename_i same
      subst same
      exact .inr ⟨mentioned, pending.operationId, _, account, outcome⟩
    · exact .inl rfl
  · intro other held kept
    rw [OrdMap.get_erase] at kept
    split at kept
    · cases kept
    · rename_i distinct
      exact .inl ⟨kept, by rw [only, if_neg distinct]⟩
  · intro operationId approved held
    rcases granted operationId approved held with old | ⟨rfl, rfl, owner, rfl⟩
    · refine .inl ⟨old, ?_⟩
      rw [only, if_neg (ledger.pending_ne_granted present old)]
    · right
      have moved := account.move grown
      rw [only, if_pos rfl] at moved
      exact owner ▸ moved

theorem consume (ledger : Ledger env ids logs pendingOperations approvedOperations)
    {operationId : OperationId} {approved : ApprovedOperation}
    (held : approvedOperations[operationId]? = some approved)
    (grown : Grown logs after approved.taskId
      [.approvalConsumed approved.grant.approvalId operationId]) :
    Ledger env ids after pendingOperations (approvedOperations.erase operationId) := by
  have only : ∀ other,
      entries other [TaskEventKind.approvalConsumed approved.grant.approvalId operationId] =
        if approved.grant.approvalId = other then
          [.approvalConsumed approved.grant.approvalId operationId] else [] :=
    entries_single rfl (by simp)
  have account := ledger.granted operationId approved held
  have mentioned : env.Known ids approved.grant.approvalId.uuid := by
    apply ledger.known _ approved.taskId
    rw [account.here]
    exact nofun
  apply ledger.grow grown (Nat.le_refl ids)
  · intro other
    rw [only]
    split
    · rename_i same
      subst same
      exact .inr ⟨mentioned, operationId, _, account,
        linear_chain _ _ (by simp [approvalChains])⟩
    · exact .inl rfl
  · intro id pending present
    refine .inl ⟨present, ?_⟩
    rw [only, if_neg (Ne.symm (ledger.pending_ne_granted present held))]
  · intro other kept found
    rw [OrdMap.get_erase] at found
    split at found
    · cases found
    · rename_i distinct
      refine .inl ⟨found, ?_⟩
      rw [only, if_neg (fun same => distinct (ledger.granted_unique held found same))]

end Ledger

section revocation
variable {S : Type} {env : Env} {ids : Nat} {logs : TaskId → List TaskEventKind}
  {s : TaskSupervisor S} (taskId : TaskId) (id : ApprovalId)

/-- The revocations of retained requests mention an approval once, if at all. -/
theorem entries_revokedPending (pendingOperations : OrdMap ApprovalId PendingOperation) :
    entries id (pendingOperations.toList.filterMap (fun e =>
      if e.2.taskId = taskId then some (TaskEventKind.approvalRevoked e.1 e.2.operationId)
      else none)) =
      pendingOperations[id]?.toList.filterMap (fun pending =>
        if pending.taskId = taskId then some (.approvalRevoked id pending.operationId)
        else none) := by
  have keyed : entries id (pendingOperations.toList.filterMap (fun e =>
      if e.2.taskId = taskId then some (TaskEventKind.approvalRevoked e.1 e.2.operationId)
      else none)) =
      (pendingOperations.toList.filter (fun e => decide (e.1 = id))).filterMap (fun e =>
        if e.2.taskId = taskId then some (.approvalRevoked e.1 e.2.operationId) else none) := by
    rw [entries, List.filter_filterMap, List.filterMap_filter]
    apply List.filterMap_congr
    intro e _
    split <;> simp [Keyed.key, TaskEventKind.approval, Option.filter]
  rw [keyed, OrdMap.filter_toList_key, List.filterMap_map]
  rfl

theorem entries_revokedGrants {approvedOperations : OrdMap OperationId ApprovedOperation}
    {operationId : OperationId} {approved : ApprovedOperation}
    (held : approvedOperations[operationId]? = some approved)
    (unique : ∀ (other : OperationId) (found : ApprovedOperation),
      approvedOperations[other]? = some found →
        found.grant.approvalId = approved.grant.approvalId → other = operationId) :
    entries approved.grant.approvalId (approvedOperations.toList.filterMap (fun e =>
      if e.2.taskId = taskId then
        some (TaskEventKind.approvalRevoked e.2.grant.approvalId e.1) else none)) =
      if approved.taskId = taskId then
        [.approvalRevoked approved.grant.approvalId operationId] else [] := by
  have keyed : entries approved.grant.approvalId (approvedOperations.toList.filterMap (fun e =>
      if e.2.taskId = taskId then
        some (TaskEventKind.approvalRevoked e.2.grant.approvalId e.1) else none)) =
      (approvedOperations.toList.filter (fun e => decide (e.1 = operationId))).filterMap (fun e =>
        if e.2.taskId = taskId then
          some (.approvalRevoked e.2.grant.approvalId e.1) else none) := by
    rw [entries, List.filter_filterMap, List.filterMap_filter]
    apply List.filterMap_congr
    intro e member
    have present := OrdMap.mem_toList_pair.mp member
    have same : e.2.grant.approvalId = approved.grant.approvalId ↔ e.1 = operationId := by
      constructor
      · exact unique e.1 e.2 present
      · intro key
        rw [key, held] at present
        rw [Option.some.inj present]
    split <;> simp [Keyed.key, TaskEventKind.approval, Option.filter, same]
  rw [keyed, OrdMap.filter_toList_key, held]
  simp only [Option.toList_some, List.map_cons, List.map_nil, List.filterMap_cons,
    List.filterMap_nil]
  split
  · rename_i none
    split at none
    · cases none
    · rename_i other
      rw [if_neg other]
  · rename_i event some
    split at some
    · rename_i owner
      rw [if_pos owner, ← Option.some.inj some]
    · cases some

/-- A Task's revocations mention an approval once: as its request, as its grant, or not. -/
theorem revocationEvents_entries
    (ledger : Ledger env ids logs s.pendingOperations s.approvedOperations) :
    (∃ pending, s.pendingOperations[id]? = some pending ∧ pending.taskId = taskId ∧
      entries id (s.revocationEvents taskId) = [.approvalRevoked id pending.operationId]) ∨
    (∃ operationId approved, s.approvedOperations[operationId]? = some approved ∧
      approved.taskId = taskId ∧ approved.grant.approvalId = id ∧
      entries id (s.revocationEvents taskId) = [.approvalRevoked id operationId]) ∨
    (entries id (s.revocationEvents taskId) = [] ∧
      (∀ pending, s.pendingOperations[id]? = some pending → pending.taskId ≠ taskId) ∧
      ∀ (operationId : OperationId) (approved : ApprovedOperation),
        s.approvedOperations[operationId]? = some approved →
          approved.grant.approvalId = id → approved.taskId ≠ taskId) := by
  have grants_nil : (∀ (operationId : OperationId) (approved : ApprovedOperation),
      s.approvedOperations[operationId]? = some approved → approved.grant.approvalId ≠ id) →
      entries id (s.approvedOperations.toList.filterMap (fun e =>
        if e.2.taskId = taskId then
          some (TaskEventKind.approvalRevoked e.2.grant.approvalId e.1) else none)) = [] := by
    intro none
    apply entries_eq_nil
    intro kind member about
    obtain ⟨e, present, selected⟩ := List.mem_filterMap.mp member
    split at selected
    · cases Option.some.inj selected
      exact none e.1 e.2 (OrdMap.mem_toList_pair.mp present) (Option.some.inj about)
    · cases selected
  simp only [TaskSupervisor.revocationEvents, entries_append, entries_revokedPending]
  cases present : s.pendingOperations[id]? with
  | some pending =>
    have none := grants_nil (fun operationId approved held =>
      (ledger.pending_ne_granted present held).symm)
    by_cases owner : pending.taskId = taskId
    · exact .inl ⟨pending, rfl, owner, by simp [owner, none]⟩
    · refine .inr (.inr ⟨by simp [owner, none], ?_, ?_⟩)
      · rintro _ ⟨⟩
        exact owner
      · intro operationId approved held same
        exact absurd same.symm (ledger.pending_ne_granted present held)
  | none =>
    right
    by_cases granted : ∃ (operationId : OperationId) (approved : ApprovedOperation),
        s.approvedOperations[operationId]? = some approved ∧ approved.grant.approvalId = id
    · obtain ⟨operationId, approved, held, rfl⟩ := granted
      have once := entries_revokedGrants taskId held
        (fun other found there same => ledger.granted_unique there held same)
      by_cases owner : approved.taskId = taskId
      · exact .inl ⟨operationId, approved, held, owner, rfl, by simp [once, owner]⟩
      · refine .inr ⟨by simp [once, owner], nofun, ?_⟩
        intro other found there same
        cases ledger.granted_unique there held same
        rw [Option.some.inj (there.symm.trans held)]
        exact owner
    · have none : ∀ (operationId : OperationId) (approved : ApprovedOperation),
          s.approvedOperations[operationId]? = some approved →
            approved.grant.approvalId ≠ id :=
        fun operationId approved held same => granted ⟨operationId, approved, held, same⟩
      refine .inr ⟨by simp [grants_nil none], nofun, ?_⟩
      intro operationId approved held same
      exact absurd same (none operationId approved held)

theorem revocationEvents_revoked {kind : TaskEventKind}
    (member : kind ∈ s.revocationEvents taskId) : ∃ a o, kind = .approvalRevoked a o := by
  simp only [TaskSupervisor.revocationEvents, List.mem_append, List.mem_filterMap] at member
  rcases member with ⟨e, _, selected⟩ | ⟨e, _, selected⟩
  · split at selected
    · exact ⟨_, _, (Option.some.inj selected).symm⟩
    · cases selected
  · split at selected
    · exact ⟨_, _, (Option.some.inj selected).symm⟩
    · cases selected

/-- The end of a Task revokes what it held and nothing else. -/
theorem Ledger.finish (ledger : Ledger env ids logs s.pendingOperations s.approvedOperations)
    (rest : List TaskEventKind) (plain : ∀ kind ∈ rest, kind.approval = none)
    {after : TaskId → List TaskEventKind}
    (grown : Grown logs after taskId (s.revocationEvents taskId ++ rest)) :
    Ledger env ids after (s.invalidateApprovals taskId).pendingOperations
      (s.invalidateApprovals taskId).approvedOperations := by
  have only : ∀ id, entries id (s.revocationEvents taskId ++ rest) =
      entries id (s.revocationEvents taskId) := by
    intro id
    rw [entries_append, entries_plain plain, List.append_nil]
  rw [TaskSupervisor.invalidateApprovals_eq]
  apply ledger.grow grown (Nat.le_refl ids)
  · intro id
    rw [only]
    rcases revocationEvents_entries taskId id ledger with
      ⟨pending, present, rfl, once⟩ | ⟨operationId, approved, held, rfl, rfl, once⟩ | ⟨none, _⟩
    · have account := ledger.requested id pending present
      refine .inr ⟨ledger.known id pending.taskId (by rw [account.here]; exact nofun),
        pending.operationId, _, account, ?_⟩
      rw [once]
      exact linear_chain _ _ (by simp [approvalChains])
    · have account := ledger.granted operationId approved held
      refine .inr ⟨ledger.known _ approved.taskId (by rw [account.here]; exact nofun),
        operationId, _, account, ?_⟩
      rw [once]
      exact linear_chain _ _ (by simp [approvalChains])
    · exact .inl none
  · intro id pending kept
    rw [OrdMap.get_foldl_erase] at kept
    split at kept
    · cases kept
    · rename_i notDropped
      have foreign : pending.taskId ≠ taskId :=
        fun owner => notDropped (TaskSupervisor.mem_pendingIds.mpr ⟨pending, kept, owner⟩)
      refine .inl ⟨kept, ?_⟩
      rw [only]
      rcases revocationEvents_entries taskId id ledger with
        ⟨found, there, owner, _⟩ | ⟨operationId, approved, held, _, same, _⟩ | ⟨none, _⟩
      · cases Option.some.inj (kept.symm.trans there)
        exact absurd owner foreign
      · exact absurd same.symm (ledger.pending_ne_granted kept held)
      · exact none
  · intro operationId approved kept
    rw [OrdMap.get_filter, Option.filter_eq_some_iff] at kept
    obtain ⟨held, foreign⟩ := kept
    refine .inl ⟨held, ?_⟩
    rw [only]
    rcases revocationEvents_entries taskId approved.grant.approvalId ledger with
      ⟨found, there, _, _⟩ | ⟨other, found, there, owner, same, _⟩ | ⟨none, _⟩
    · exact absurd rfl (ledger.pending_ne_granted there held)
    · cases ledger.granted_unique there held same
      cases Option.some.inj (held.symm.trans there)
      exact absurd owner (of_decide_eq_true foreign)
    · exact none

end revocation

end AiOs
