import AiOs.Lib.Checks
import AiOs.Core.Policy
import AiOs.Core.State
import AiOs.Lib.OrdMap

/-! Audit events, the store interface and the process-local store of `aios-runtime`.
What the outside world contributes to one `append_batch` call is an argument of the model:
the wall clock readings and, for a store on a disk, how far its transaction gets. -/
namespace AiOs

/-- The three kinds of UUID the runtime generates. -/
inductive IdKind where
  | task
  | approval
  | operation

/-- A UUID as the number its bytes spell, tagged with what it identifies. -/
structure Id (kind : IdKind) where
  uuid : Nat
  deriving DecidableEq, Repr

abbrev TaskId := Id .task
abbrev ApprovalId := Id .approval
abbrev OperationId := Id .operation

namespace Id
variable {kind : IdKind}

instance : Ord (Id kind) := ⟨compareOn Id.uuid⟩

instance : Std.TransOrd (Id kind) :=
  inferInstanceAs (Std.TransCmp (compareOn (Id.uuid : Id kind → Nat)))

instance : Std.LawfulEqOrd (Id kind) where
  compare_self := by
    intro a
    exact Nat.compare_eq_eq.mpr rfl
  eq_of_compare := by
    intro a b h
    obtain ⟨x⟩ := a
    obtain ⟨y⟩ := b
    exact congrArg Id.mk (Nat.compare_eq_eq.mp h)

end Id

/-- Audit-safe event payloads. -/
inductive TaskEventKind where
  | submitted
  | stateTransitioned (source target : TaskState)
  | validationFailed (errorCount : Nat)
  | taskFailed (code : ErrorCode)
  | operationAllowed
  | operationDenied (reason : DenialReason)
  | approvalRequested (approvalId : ApprovalId) (operationId : OperationId)
  | approvalGranted (approvalId : ApprovalId) (operationId : OperationId)
  | approvalDenied (approvalId : ApprovalId) (operationId : OperationId)
  | approvalExpired (approvalId : ApprovalId) (operationId : OperationId)
  | approvalRevoked (approvalId : ApprovalId) (operationId : OperationId)
  | approvalConsumed (approvalId : ApprovalId) (operationId : OperationId)
  deriving DecidableEq, Repr

structure TaskEvent where
  taskId : TaskId
  sequence : Nat
  occurredAtUnixMs : Nat
  kind : TaskEventKind
  deriving DecidableEq, Repr

inductive EventStoreError where
  | capacityExceeded
  | sequenceExhausted
  | corrupt
  | insecurePermissions
  | unavailable
  deriving DecidableEq, Repr

structure TaskSnapshot where
  taskId : TaskId
  state : TaskState
  deriving DecidableEq, Repr

/-- What one `append_batch` call meets outside the process: whether a transaction opens
and can count, whether it then writes and commits, and the wall clock. -/
structure AppendIo where
  reachable : Bool
  durable : Bool
  unixTimeMs : Nat → Nat

/-- Storage works and the wall clock fits the signed column. -/
def AppendIo.Calm (io : AppendIo) : Prop :=
  io.reachable = true ∧ io.durable = true ∧ ∀ i, io.unixTimeMs i < 2 ^ 63

def TaskEvent.now (taskId : TaskId) (sequence unixTimeMs : Nat) (kind : TaskEventKind) :
    Except EventStoreError TaskEvent :=
  if sequence = 0 then .error .sequenceExhausted else .ok ⟨taskId, sequence, unixTimeMs, kind⟩

/-- Append-only storage used by the supervisor. -/
class EventStore (S : Type) where
  appendBatch : S → AppendIo → TaskId → List TaskEventKind →
    Except EventStoreError (List TaskEvent) × S
  list : S → TaskId → Nat → Except EventStoreError (List TaskEvent)

/-- A store that can reconstruct public Task snapshots. -/
class RecoverableEventStore (S : Type) [EventStore S] where
  recoverTaskSnapshots : S → Except EventStoreError (List TaskSnapshot)

/-- The loop that numbers a batch: consecutive sequences, one clock reading each. -/
def numberEvents (io : AppendIo) (taskId : TaskId) (firstSequence : Nat) :
    Nat → List TaskEventKind → Except EventStoreError (List TaskEvent)
  | _, [] => .ok []
  | offset, kind :: rest =>
    match checkedAdd firstSequence offset with
    | none => .error .sequenceExhausted
    | some sequence =>
      match TaskEvent.now taskId sequence (io.unixTimeMs offset) kind with
      | .error e => .error e
      | .ok event =>
        match numberEvents io taskId firstSequence (offset + 1) rest with
        | .error e => .error e
        | .ok events => .ok (event :: events)

/-- A log whose sequences are exactly one to its length. -/
def Sequenced (events : List TaskEvent) : Prop :=
  events.map TaskEvent.sequence = List.range' 1 events.length

def kindsOf (events : List TaskEvent) : List TaskEventKind := events.map TaskEvent.kind

theorem numberEvents_ok {io : AppendIo} {taskId : TaskId} {first offset : Nat}
    {kinds : List TaskEventKind} {events : List TaskEvent}
    (numbered : numberEvents io taskId first offset kinds = .ok events) :
    kindsOf events = kinds ∧
      events.map TaskEvent.sequence = List.range' (first + offset) kinds.length ∧
      ∀ e ∈ events, e.taskId = taskId := by
  induction kinds generalizing offset events with
  | nil =>
    cases Except.ok.inj numbered
    exact ⟨rfl, rfl, by simp⟩
  | cons kind rest ih =>
    simp only [numberEvents, TaskEvent.now] at numbered
    split at numbered
    · cases numbered
    · rename_i sequence fits
      have sum := checkedAdd_some fits
      subst sequence
      split at numbered
      · cases numbered
      · rename_i event made
        split at made
        · cases made
        · cases Except.ok.inj made
          split at numbered
          · cases numbered
          · rename_i tail numberedTail
            cases Except.ok.inj numbered
            obtain ⟨kinds, sequences, owners⟩ := ih numberedTail
            refine ⟨?_, ?_, ?_⟩
            · simpa [kindsOf] using kinds
            · simpa [List.range'_succ, Nat.add_assoc] using sequences
            · intro e he
              rcases List.mem_cons.mp he with rfl | he
              · rfl
              · exact owners e he

theorem numberEvents_fits (io : AppendIo) (taskId : TaskId) {first : Nat} (offset : Nat)
    (kinds : List TaskEventKind) (positive : 0 < first)
    (fits : first + offset + kinds.length ≤ 2 ^ 64) :
    ∃ events, numberEvents io taskId first offset kinds = .ok events := by
  induction kinds generalizing offset with
  | nil => exact ⟨[], rfl⟩
  | cons kind rest ih =>
    have small : first + offset < 2 ^ 64 := by simp at fits; omega
    have nonzero : ¬ first + offset = 0 := by omega
    obtain ⟨events, numbered⟩ := ih (offset + 1) (by simp at fits ⊢; omega)
    refine ⟨⟨taskId, first + offset, io.unixTimeMs offset, kind⟩ :: events, ?_⟩
    simp only [numberEvents, checkedAdd, TaskEvent.now, if_pos small, if_neg nonzero, numbered]

theorem Sequenced.append {log events : List TaskEvent} (sequenced : Sequenced log)
    (next : events.map TaskEvent.sequence = List.range' (log.length + 1) events.length) :
    Sequenced (log ++ events) := by
  unfold Sequenced at *
  rw [List.map_append, sequenced, next, List.length_append, ← List.range'_append]
  simp [Nat.add_comm]

/-- One accepted batch: the Task's log grows by the batch and no other log moves. -/
structure LogGrows (before after : TaskId → List TaskEvent) (taskId : TaskId)
    (kinds : List TaskEventKind) : Prop where
  own : kindsOf (after taskId) = kindsOf (before taskId) ++ kinds
  grown : before taskId <+: after taskId
  others : ∀ other, other ≠ taskId → after other = before other
  sequenced : Sequenced (before taskId) → Sequenced (after taskId)

theorem grows_nothing (log : TaskId → List TaskEvent) (taskId : TaskId) :
    LogGrows log log taskId [] :=
  ⟨by simp, List.prefix_refl _, fun _ _ => rfl, id⟩

/-- What the supervisor relies on: an accepted batch lands at the end of one log, a
rejected batch changes nothing, and capacity is the only reason to reject in calm
conditions. -/
class LawfulEventStore (S : Type) extends EventStore S where
  log : S → TaskId → List TaskEvent
  capacity : S → Nat
  list_all : ∀ {store : S} {taskId : TaskId}, Sequenced (log store taskId) →
    EventStore.list store taskId 0 = .ok (log store taskId)
  append_ok : ∀ {store after : S} {io : AppendIo} {taskId : TaskId}
    {kinds : List TaskEventKind} {events : List TaskEvent},
    EventStore.appendBatch store io taskId kinds = (.ok events, after) →
      LogGrows (log store) (log after) taskId kinds ∧ capacity after = capacity store
  append_error : ∀ {store after : S} {io : AppendIo} {taskId : TaskId}
    {kinds : List TaskEventKind} {e : EventStoreError},
    EventStore.appendBatch store io taskId kinds = (.error e, after) → after = store
  append_room : ∀ {store : S} {io : AppendIo} {taskId : TaskId} {kinds : List TaskEventKind},
    io.Calm → capacity store < 2 ^ 63 → Sequenced (log store taskId) →
      (log store taskId).length + kinds.length ≤ capacity store →
      ∃ events after, EventStore.appendBatch store io taskId kinds = (.ok events, after)
  append_full : ∀ {store : S} {io : AppendIo} {taskId : TaskId} {kinds : List TaskEventKind},
    kinds ≠ [] → capacity store < (log store taskId).length + kinds.length →
      ∃ e, EventStore.appendBatch store io taskId kinds = (.error e, store)

/-- Bounded, process-local event store. -/
structure InMemoryEventStore where
  events : OrdMap TaskId (List TaskEvent)
  maxEventsPerTask : Nat

namespace InMemoryEventStore

def new (maxEventsPerTask : Nat) : Except EventStoreError InMemoryEventStore :=
  if maxEventsPerTask = 0 then .error .capacityExceeded else .ok ⟨∅, maxEventsPerTask⟩

def existing (store : InMemoryEventStore) (taskId : TaskId) : List TaskEvent :=
  store.events[taskId]?.getD []

/-- `entry(task_id).or_default().extend(appended)` -/
def extend (store : InMemoryEventStore) (taskId : TaskId) (appended : List TaskEvent) :
    InMemoryEventStore :=
  { store with events := store.events.insert taskId (store.existing taskId ++ appended) }

/-- All checks come before the one insertion, so a rejected batch leaves no trace. -/
def appendBatch (store : InMemoryEventStore) (io : AppendIo) (taskId : TaskId)
    (kinds : List TaskEventKind) : Except EventStoreError (List TaskEvent) × InMemoryEventStore :=
  if kinds.isEmpty then (.ok [], store)
  else
    match checkedAdd (store.existing taskId).length kinds.length with
    | none => (.error .capacityExceeded, store)
    | some resultingLength =>
      if store.maxEventsPerTask < resultingLength then (.error .capacityExceeded, store)
      else
        match checkedAdd (store.existing taskId).length 1 with
        | none => (.error .sequenceExhausted, store)
        | some firstSequence =>
          match numberEvents io taskId firstSequence 0 kinds with
          | .error e => (.error e, store)
          | .ok appended =>
            (.ok appended, store.extend taskId appended)

def list (store : InMemoryEventStore) (taskId : TaskId) (afterSequence : Nat) :
    Except EventStoreError (List TaskEvent) :=
  .ok ((store.existing taskId).filter (fun e => decide (afterSequence < e.sequence)))

instance : EventStore InMemoryEventStore := ⟨appendBatch, list⟩

theorem existing_extend (store : InMemoryEventStore) (taskId other : TaskId)
    (appended : List TaskEvent) :
    (store.extend taskId appended).existing other =
      if taskId = other then store.existing taskId ++ appended else store.existing other := by
  simp only [existing, extend, OrdMap.get_insert]
  split <;> rfl

/-- The three ways an append ends: nothing to do, a full insertion, or no change. -/
theorem appendBatch_cases (store : InMemoryEventStore) (io : AppendIo) (taskId : TaskId)
    (kinds : List TaskEventKind) :
    (kinds = [] ∧ store.appendBatch io taskId kinds = (.ok [], store)) ∨
    (∃ events, (store.existing taskId).length + kinds.length ≤ store.maxEventsPerTask ∧
      numberEvents io taskId ((store.existing taskId).length + 1) 0 kinds = .ok events ∧
      store.appendBatch io taskId kinds = (.ok events, store.extend taskId events)) ∨
    ∃ e, kinds ≠ [] ∧ store.appendBatch io taskId kinds = (.error e, store) := by
  rcases eq_or_ne kinds [] with rfl | nonempty
  · exact .inl ⟨rfl, rfl⟩
  have some_kinds : kinds.isEmpty = false := List.isEmpty_eq_false_iff.mpr nonempty
  simp only [appendBatch, some_kinds, Bool.false_eq_true, ↓reduceIte]
  right
  split
  · exact .inr ⟨_, nonempty, rfl⟩
  · rename_i resulting added
    split
    · exact .inr ⟨_, nonempty, rfl⟩
    · rename_i room
      have total := checkedAdd_some added
      split
      · exact .inr ⟨_, nonempty, rfl⟩
      · rename_i first next
        have following := checkedAdd_some next
        split
        · exact .inr ⟨_, nonempty, rfl⟩
        · rename_i events numbered
          exact .inl ⟨events, by omega, following ▸ numbered, rfl⟩

theorem appendBatch_room (store : InMemoryEventStore) (io : AppendIo) {taskId : TaskId}
    {kinds : List TaskEventKind} (nonempty : kinds ≠ []) (limit : store.maxEventsPerTask < 2 ^ 64)
    (room : (store.existing taskId).length + kinds.length ≤ store.maxEventsPerTask) :
    ∃ events, numberEvents io taskId ((store.existing taskId).length + 1) 0 kinds = .ok events ∧
      store.appendBatch io taskId kinds = (.ok events, store.extend taskId events) := by
  have some_kinds : kinds.isEmpty = false := List.isEmpty_eq_false_iff.mpr nonempty
  have positive : 0 < kinds.length := List.length_pos_iff.mpr nonempty
  obtain ⟨events, numbered⟩ := numberEvents_fits io taskId 0 kinds
    (Nat.succ_pos (store.existing taskId).length) (by omega)
  refine ⟨events, numbered, ?_⟩
  have total : (store.existing taskId).length + kinds.length < 2 ^ 64 := by omega
  have following : (store.existing taskId).length + 1 < 2 ^ 64 := by omega
  simp only [appendBatch, some_kinds, checkedAdd, if_pos total, if_pos following,
    if_neg (Nat.not_lt.mpr room), numbered, Bool.false_eq_true, ↓reduceIte]

theorem appendBatch_full (store : InMemoryEventStore) (io : AppendIo) {taskId : TaskId}
    {kinds : List TaskEventKind} (nonempty : kinds ≠ [])
    (full : store.maxEventsPerTask < (store.existing taskId).length + kinds.length) :
    store.appendBatch io taskId kinds = (.error .capacityExceeded, store) := by
  have some_kinds : kinds.isEmpty = false := List.isEmpty_eq_false_iff.mpr nonempty
  simp only [appendBatch, some_kinds, checkedAdd, Bool.false_eq_true, ↓reduceIte]
  split
  · rfl
  · rename_i total added
    split at added
    · cases Option.some.inj added
      rw [if_pos full]
    · cases added

theorem grows_extend (store : InMemoryEventStore) {io : AppendIo} {taskId : TaskId}
    {kinds : List TaskEventKind} {events : List TaskEvent}
    (numbered :
      numberEvents io taskId ((store.existing taskId).length + 1) 0 kinds = .ok events) :
    LogGrows store.existing (store.extend taskId events).existing taskId kinds := by
  obtain ⟨ofKinds, sequences, _⟩ := numberEvents_ok numbered
  have own : (store.extend taskId events).existing taskId = store.existing taskId ++ events := by
    rw [existing_extend, if_pos rfl]
  have length : events.length = kinds.length := by rw [← ofKinds, kindsOf, List.length_map]
  constructor
  · rw [own, kindsOf, List.map_append, ← kindsOf, ← kindsOf, ofKinds]
  · exact own ▸ List.prefix_append _ _
  · intro other distinct
    rw [existing_extend, if_neg (Ne.symm distinct)]
  · intro sequenced
    rw [own]
    exact sequenced.append (by simpa [length] using sequences)

instance : LawfulEventStore InMemoryEventStore where
  log := existing
  capacity := maxEventsPerTask
  list_all := by
    intro store taskId sequenced
    refine congrArg Except.ok (List.filter_eq_self.mpr ?_)
    intro e member
    have inRange : e.sequence ∈ List.range' 1 (store.existing taskId).length :=
      sequenced ▸ List.mem_map_of_mem member
    simp only [List.mem_range'_1] at inRange
    simp
    omega
  append_ok := by
    intro store after io taskId kinds events accepted
    change store.appendBatch io taskId kinds = _ at accepted
    rcases store.appendBatch_cases io taskId kinds with
      ⟨rfl, h⟩ | ⟨events, _, numbered, h⟩ | ⟨e, _, h⟩
    · cases h.symm.trans accepted
      exact ⟨grows_nothing _ _, rfl⟩
    · cases h.symm.trans accepted
      exact ⟨store.grows_extend numbered, rfl⟩
    · cases h.symm.trans accepted
  append_error := by
    intro store after io taskId kinds e rejected
    change store.appendBatch io taskId kinds = _ at rejected
    rcases store.appendBatch_cases io taskId kinds with ⟨_, h⟩ | ⟨_, _, _, h⟩ | ⟨_, _, h⟩
    · cases h.symm.trans rejected
    · cases h.symm.trans rejected
    · exact (congrArg Prod.snd (h.symm.trans rejected)).symm
  append_room := by
    intro store io taskId kinds _ bounded _ room
    rcases eq_or_ne kinds [] with rfl | nonempty
    · exact ⟨[], store, rfl⟩
    obtain ⟨events, _, appended⟩ := store.appendBatch_room io nonempty (by omega) room
    exact ⟨events, store.extend taskId events, appended⟩
  append_full := by
    intro store io taskId kinds nonempty full
    exact ⟨_, store.appendBatch_full io nonempty full⟩

end InMemoryEventStore

end AiOs
