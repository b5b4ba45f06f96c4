import AiOs.Storage.Replay
import Mathlib.Data.List.Dedup

/-! The SQLite event store of `aios-storage-sqlite`. The table has the primary key
(task_id, sequence) and no row id, so it is a map in key order; the queries are selections
of its traversal. A transaction that does not commit leaves the table as it was. -/
namespace AiOs

/-- The columns beside the key. The JSON text of a kind is read as the kind it encodes. -/
structure Row where
  occurredAtUnixMs : Nat
  kind : TaskEventKind
  deriving DecidableEq, Repr

/-- Persistent store on one table. The field `checked` is the table's own constraint: a
positive sequence in a signed 64-bit column. -/
structure SqliteEventStore where
  taskEvents : OrdMap (LexPair TaskId Nat) Row
  maxEventsPerTask : Nat
  checked : ∀ key ∈ taskEvents, 0 < key.second ∧ key.second < 2 ^ 63

namespace SqliteEventStore

theorem checked_empty (key : LexPair TaskId Nat)
    (member : key ∈ (∅ : OrdMap (LexPair TaskId Nat) Row)) :
    0 < key.second ∧ key.second < 2 ^ 63 :=
  absurd member Std.ExtTreeMap.not_mem_empty

/-- A new database: `open` and `open_in_memory` both refuse a zero limit. -/
def openEmpty (maxEventsPerTask : Nat) : Except EventStoreError SqliteEventStore :=
  if maxEventsPerTask = 0 then .error .capacityExceeded
  else .ok ⟨∅, maxEventsPerTask, checked_empty⟩

def eventOf (entry : LexPair TaskId Nat × Row) : TaskEvent :=
  ⟨entry.1.first, entry.1.second, entry.2.occurredAtUnixMs, entry.2.kind⟩

/-- `SELECT ... WHERE task_id = ?1 ORDER BY sequence` -/
def rowsOf (store : SqliteEventStore) (taskId : TaskId) : List TaskEvent :=
  (store.taskEvents.toList.filter (fun e => decide (e.1.first = taskId))).map eventOf

/-- `COALESCE(MAX(sequence), 0)` -/
def lastSequence (events : List TaskEvent) : Nat :=
  (events.map TaskEvent.sequence).foldl max 0

/-- One `INSERT`: the key must be new and the row must satisfy the table's constraint. -/
def insertRow (store : SqliteEventStore) (event : TaskEvent) : Option SqliteEventStore :=
  let key : LexPair TaskId Nat := ⟨event.taskId, event.sequence⟩
  if h : (0 < event.sequence ∧ event.sequence < 2 ^ 63) ∧ key ∉ store.taskEvents then
    some ⟨store.taskEvents.insert key ⟨event.occurredAtUnixMs, event.kind⟩,
      store.maxEventsPerTask, by
        intro other member
        rcases Std.ExtTreeMap.mem_insert.mp member with same | old
        · rw [← Std.LawfulEqCmp.eq_of_compare same]
          exact h.1
        · exact store.checked other old⟩
  else none

/-- The loop over a batch inside the open transaction. -/
def insertBatch (io : AppendIo) (taskId : TaskId) (firstSequence : Nat) :
    Nat → List TaskEventKind → SqliteEventStore →
      Except EventStoreError (List TaskEvent × SqliteEventStore)
  | _, [], store => .ok ([], store)
  | offset, kind :: rest, store =>
    match checkedAdd firstSequence offset with
    | none => .error .sequenceExhausted
    | some sequence =>
      match TaskEvent.now taskId sequence (io.unixTimeMs offset) kind with
      | .error e => .error e
      | .ok event =>
        if 2 ^ 63 ≤ event.sequence ∨ 2 ^ 63 ≤ event.occurredAtUnixMs then
          .error .sequenceExhausted
        else
          match store.insertRow event with
          | none => .error .unavailable
          | some store =>
            match insertBatch io taskId firstSequence (offset + 1) rest store with
            | .error e => .error e
            | .ok (events, store) => .ok (event :: events, store)

/-- Every early return drops the transaction, which rolls it back. -/
def appendBatch (store : SqliteEventStore) (io : AppendIo) (taskId : TaskId)
    (kinds : List TaskEventKind) : Except EventStoreError (List TaskEvent) × SqliteEventStore :=
  if kinds.isEmpty then (.ok [], store)
  else if !io.reachable then (.error .unavailable, store)
  else
    match checkedAdd (store.rowsOf taskId).length kinds.length with
    | none => (.error .capacityExceeded, store)
    | some resultingCount =>
      if store.maxEventsPerTask < resultingCount then (.error .capacityExceeded, store)
      else
        match checkedAdd (lastSequence (store.rowsOf taskId)) 1 with
        | none => (.error .sequenceExhausted, store)
        | some firstSequence =>
          match insertBatch io taskId firstSequence 0 kinds store with
          | .error e => (.error e, store)
          | .ok (appended, after) =>
            if io.durable then (.ok appended, after) else (.error .unavailable, store)

def list (store : SqliteEventStore) (taskId : TaskId) (afterSequence : Nat) :
    Except EventStoreError (List TaskEvent) :=
  if 2 ^ 63 ≤ afterSequence then .error .sequenceExhausted
  else .ok ((store.rowsOf taskId).filter (fun e => decide (afterSequence < e.sequence)))

/-- `SELECT DISTINCT task_id ... ORDER BY task_id` -/
def taskIds (store : SqliteEventStore) : List TaskId :=
  (store.taskEvents.keys.map LexPair.first).dedup

def recoverTaskSnapshots (store : SqliteEventStore) :
    Except EventStoreError (List TaskSnapshot) :=
  store.taskIds.mapM (fun taskId => do
    let events ← store.list taskId 0
    recoverSnapshot taskId events)

instance : EventStore SqliteEventStore := ⟨appendBatch, list⟩

instance : RecoverableEventStore SqliteEventStore := ⟨recoverTaskSnapshots⟩

theorem mem_rowsOf {store : SqliteEventStore} {taskId : TaskId} {event : TaskEvent} :
    event ∈ store.rowsOf taskId ↔ event.taskId = taskId ∧
      store.taskEvents[(⟨event.taskId, event.sequence⟩ : LexPair TaskId Nat)]? =
        some ⟨event.occurredAtUnixMs, event.kind⟩ := by
  simp only [rowsOf, List.mem_map, List.mem_filter, OrdMap.mem_toList_pair, decide_eq_true_eq]
  constructor
  · rintro ⟨⟨⟨owner, sequence⟩, row⟩, ⟨stored, rfl⟩, rfl⟩
    exact ⟨rfl, stored⟩
  · rintro ⟨rfl, stored⟩
    exact ⟨(⟨event.taskId, event.sequence⟩, ⟨event.occurredAtUnixMs, event.kind⟩), ⟨stored, rfl⟩,
      rfl⟩

theorem rowsOf_checked {store : SqliteEventStore} {taskId : TaskId} {event : TaskEvent}
    (member : event ∈ store.rowsOf taskId) : 0 < event.sequence ∧ event.sequence < 2 ^ 63 := by
  obtain ⟨_, stored⟩ := mem_rowsOf.mp member
  refine store.checked ⟨event.taskId, event.sequence⟩ ?_
  rw [Std.ExtTreeMap.mem_iff_isSome_getElem?, stored]
  rfl

theorem sequenced_length {store : SqliteEventStore} {taskId : TaskId}
    (sequenced : Sequenced (store.rowsOf taskId)) : (store.rowsOf taskId).length < 2 ^ 63 := by
  rcases Nat.eq_zero_or_pos (store.rowsOf taskId).length with zero | positive
  · omega
  · have last : (store.rowsOf taskId).length ∈ (store.rowsOf taskId).map TaskEvent.sequence := by
      rw [sequenced, List.mem_range'_1]
      omega
    obtain ⟨event, member, same⟩ := List.mem_map.mp last
    exact same ▸ (rowsOf_checked member).2

theorem le_foldl_max (xs : List Nat) (start : Nat) :
    start ≤ xs.foldl max start ∧ ∀ x ∈ xs, x ≤ xs.foldl max start := by
  induction xs generalizing start with
  | nil => simp
  | cons x xs ih =>
    obtain ⟨base, rest⟩ := ih (max start x)
    simp only [List.foldl_cons, List.mem_cons, forall_eq_or_imp]
    exact ⟨by omega, by omega, rest⟩

theorem le_lastSequence {events : List TaskEvent} {event : TaskEvent} (member : event ∈ events) :
    event.sequence ≤ lastSequence events :=
  (le_foldl_max _ 0).2 _ (List.mem_map_of_mem member)

theorem foldl_max_range' (start length : Nat) :
    (List.range' (start + 1) length).foldl max start = start + length := by
  induction length generalizing start with
  | zero => rfl
  | succ length ih =>
    rw [List.range'_succ, List.foldl_cons, Nat.max_eq_right (Nat.le_succ start), ih]
    omega

theorem lastSequence_sequenced {events : List TaskEvent} (sequenced : Sequenced events) :
    lastSequence events = events.length := by
  rw [lastSequence, sequenced, foldl_max_range' 0, Nat.zero_add]

theorem insertRow_grows {store after : SqliteEventStore} {event : TaskEvent}
    (inserted : store.insertRow event = some after)
    (largest : ∀ e ∈ store.rowsOf event.taskId, e.sequence < event.sequence) :
    after.rowsOf event.taskId = store.rowsOf event.taskId ++ [event] ∧
      (∀ other, other ≠ event.taskId → after.rowsOf other = store.rowsOf other) ∧
      after.maxEventsPerTask = store.maxEventsPerTask := by
  unfold insertRow at inserted
  dsimp only at inserted
  split at inserted
  · cases Option.some.inj inserted
    refine ⟨?_, ?_, rfl⟩
    · have last := OrdMap.filter_toList_insert_last store.taskEvents
        ⟨event.taskId, event.sequence⟩ ⟨event.occurredAtUnixMs, event.kind⟩
        (fun key => decide (key.first = event.taskId)) (by simp) (by
          intro e member selected
          have owner : e.1.first = event.taskId := by simpa using selected
          have less := largest (eventOf e) (List.mem_map_of_mem
            (List.mem_filter.mpr ⟨member, selected⟩))
          simp only [LexPair.compare_def, owner, Std.compare_self, Ordering.eq_then]
          exact Nat.compare_eq_lt.mpr less)
      simp only [rowsOf, last, List.map_append, List.map_cons, List.map_nil, eventOf]
    · intro other distinct
      have same := OrdMap.filter_toList_insert_other store.taskEvents
        ⟨event.taskId, event.sequence⟩ ⟨event.occurredAtUnixMs, event.kind⟩
        (fun key => decide (key.first = other)) (by simpa using Ne.symm distinct)
      simp only [rowsOf, same]
  · cases inserted

theorem insertRow_free (store : SqliteEventStore) (event : TaskEvent)
    (positive : 0 < event.sequence) (bounded : event.sequence < 2 ^ 63)
    (largest : ∀ e ∈ store.rowsOf event.taskId, e.sequence < event.sequence) :
    ∃ after, store.insertRow event = some after := by
  have free : (⟨event.taskId, event.sequence⟩ : LexPair TaskId Nat) ∉ store.taskEvents := by
    intro stored
    obtain ⟨row, found⟩ := Option.isSome_iff_exists.mp
      (Std.ExtTreeMap.mem_iff_isSome_getElem?.mp stored)
    have member : (⟨event.taskId, event.sequence, row.occurredAtUnixMs, row.kind⟩ : TaskEvent) ∈
        store.rowsOf event.taskId := mem_rowsOf.mpr ⟨rfl, found⟩
    have less := largest _ member
    exact Nat.lt_irrefl _ less
  unfold insertRow
  dsimp only
  rw [dif_pos ⟨⟨positive, bounded⟩, free⟩]
  exact ⟨_, rfl⟩

theorem insertBatch_grows {io : AppendIo} {taskId : TaskId} {first offset : Nat}
    {kinds : List TaskEventKind} {store after : SqliteEventStore} {events : List TaskEvent}
    (inserted : insertBatch io taskId first offset kinds store = .ok (events, after))
    (largest : ∀ e ∈ store.rowsOf taskId, e.sequence < first + offset) :
    after.rowsOf taskId = store.rowsOf taskId ++ events ∧ kindsOf events = kinds ∧
      events.map TaskEvent.sequence = List.range' (first + offset) kinds.length ∧
      (∀ other, other ≠ taskId → after.rowsOf other = store.rowsOf other) ∧
      after.maxEventsPerTask = store.maxEventsPerTask := by
  induction kinds generalizing offset store events with
  | nil =>
    cases Except.ok.inj inserted
    exact ⟨by simp, rfl, rfl, fun _ _ => rfl, rfl⟩
  | cons kind rest ih =>
    simp only [insertBatch, TaskEvent.now] at inserted
    split at inserted
    · cases inserted
    rename_i sequence sum
    have sum := checkedAdd_some sum
    subst sequence
    split at inserted
    · cases inserted
    rename_i event made
    split at made
    · cases made
    cases Except.ok.inj made
    split at inserted
    · cases inserted
    split at inserted
    · cases inserted
    rename_i middle row
    split at inserted
    · cases inserted
    rename_i tail final insertedTail
    cases Except.ok.inj inserted
    obtain ⟨own, others, limit⟩ := insertRow_grows row largest
    have above : ∀ e ∈ middle.rowsOf taskId, e.sequence < first + (offset + 1) := by
      intro e member
      rw [own, List.mem_append, List.mem_singleton] at member
      rcases member with old | rfl
      · have := largest e old
        omega
      · change first + offset < _
        omega
    obtain ⟨ownTail, ofKinds, sequences, othersTail, limitTail⟩ := ih insertedTail above
    refine ⟨?_, ?_, ?_, ?_, limitTail.trans limit⟩
    · rw [ownTail, own, List.append_assoc, List.singleton_append]
    · simpa [kindsOf] using ofKinds
    · simpa [List.range'_succ, Nat.add_assoc] using sequences
    · exact fun other distinct => (othersTail other distinct).trans (others other distinct)

theorem insertRow_next (store : SqliteEventStore) (io : AppendIo) {taskId : TaskId}
    (kind : TaskEventKind) {first offset : Nat} (positive : 0 < first)
    (inside : first + offset < 2 ^ 63)
    (largest : ∀ e ∈ store.rowsOf taskId, e.sequence < first + offset) :
    ∃ after, store.insertRow ⟨taskId, first + offset, io.unixTimeMs offset, kind⟩ = some after ∧
      ∀ e ∈ after.rowsOf taskId, e.sequence < first + (offset + 1) := by
  let event : TaskEvent := ⟨taskId, first + offset, io.unixTimeMs offset, kind⟩
  obtain ⟨after, row⟩ := store.insertRow_free event
    (by change 0 < first + offset; omega) inside largest
  refine ⟨after, row, ?_⟩
  intro e member
  have own : after.rowsOf taskId = store.rowsOf taskId ++ [event] := (insertRow_grows row largest).1
  rw [own, List.mem_append, List.mem_singleton] at member
  rcases member with old | rfl
  · have := largest e old
    omega
  · change first + offset < _
    omega

theorem insertBatch_succeeds {io : AppendIo} (calm : io.Calm) {taskId : TaskId}
    {first offset : Nat} (kinds : List TaskEventKind) (store : SqliteEventStore)
    (positive : 0 < first) (bounded : first + offset + kinds.length ≤ 2 ^ 63)
    (largest : ∀ e ∈ store.rowsOf taskId, e.sequence < first + offset) :
    ∃ result, insertBatch io taskId first offset kinds store = .ok result := by
  induction kinds generalizing offset store with
  | nil => exact ⟨_, rfl⟩
  | cons kind rest ih =>
    simp only [List.length_cons] at bounded
    have fits : first + offset < 2 ^ 64 := by omega
    have nonzero : ¬ first + offset = 0 := by omega
    have column : ¬ (2 ^ 63 ≤ first + offset ∨ 2 ^ 63 ≤ io.unixTimeMs offset) := by
      have := calm.2.2 offset
      omega
    obtain ⟨middle, row, above⟩ := store.insertRow_next io kind positive (by omega) largest
    obtain ⟨⟨tail, final⟩, insertedTail⟩ := ih middle (by omega) above
    refine ⟨(⟨taskId, first + offset, io.unixTimeMs offset, kind⟩ :: tail, final), ?_⟩
    simp only [insertBatch, checkedAdd, if_pos fits, TaskEvent.now, if_neg nonzero, if_neg column,
      row, insertedTail]

theorem insertBatch_exhausted {io : AppendIo} (calm : io.Calm) {taskId : TaskId}
    {first offset : Nat} (kinds : List TaskEventKind) (store : SqliteEventStore)
    (positive : 0 < first) (bounded : first + offset + kinds.length ≤ 2 ^ 64)
    (reaches : 2 ^ 63 < first + offset + kinds.length) (below : first + offset ≤ 2 ^ 63)
    (largest : ∀ e ∈ store.rowsOf taskId, e.sequence < first + offset) :
    insertBatch io taskId first offset kinds store = .error .sequenceExhausted := by
  induction kinds generalizing offset store with
  | nil =>
    simp only [List.length_nil] at reaches
    omega
  | cons kind rest ih =>
    simp only [List.length_cons] at bounded reaches
    have fits : first + offset < 2 ^ 64 := by omega
    have nonzero : ¬ first + offset = 0 := by omega
    simp only [insertBatch, checkedAdd, if_pos fits, TaskEvent.now, if_neg nonzero]
    rcases Nat.lt_or_ge (first + offset) (2 ^ 63) with inside | outside
    · have column : ¬ (2 ^ 63 ≤ first + offset ∨ 2 ^ 63 ≤ io.unixTimeMs offset) := by
        have := calm.2.2 offset
        omega
      obtain ⟨middle, row, above⟩ := store.insertRow_next io kind positive inside largest
      rw [if_neg column, row]
      simp only [ih middle (by omega) (by omega) (by omega) above]
    · rw [if_pos (.inl outside)]

/-- The three ways an append ends: nothing to do, a committed batch, or no change. -/
theorem appendBatch_cases (store : SqliteEventStore) (io : AppendIo) (taskId : TaskId)
    (kinds : List TaskEventKind) :
    (kinds = [] ∧ store.appendBatch io taskId kinds = (.ok [], store)) ∨
    (∃ events after, (store.rowsOf taskId).length + kinds.length ≤ store.maxEventsPerTask ∧
      insertBatch io taskId (lastSequence (store.rowsOf taskId) + 1) 0 kinds store =
        .ok (events, after) ∧
      store.appendBatch io taskId kinds = (.ok events, after)) ∨
    ∃ e, kinds ≠ [] ∧ store.appendBatch io taskId kinds = (.error e, store) := by
  rcases eq_or_ne kinds [] with rfl | nonempty
  · exact .inl ⟨rfl, rfl⟩
  have some_kinds : kinds.isEmpty = false := List.isEmpty_eq_false_iff.mpr nonempty
  simp only [appendBatch, some_kinds, Bool.false_eq_true, ↓reduceIte]
  right
  split
  · exact .inr ⟨_, nonempty, rfl⟩
  split
  · exact .inr ⟨_, nonempty, rfl⟩
  rename_i resulting added
  have total := checkedAdd_some added
  split
  · exact .inr ⟨_, nonempty, rfl⟩
  split
  · exact .inr ⟨_, nonempty, rfl⟩
  rename_i room _ first next
  have following := checkedAdd_some next
  split
  · exact .inr ⟨_, nonempty, rfl⟩
  rename_i events after inserted
  split
  · exact .inl ⟨events, after, by omega, following ▸ inserted, rfl⟩
  · exact .inr ⟨_, nonempty, rfl⟩

theorem lastSequence_below (store : SqliteEventStore) (taskId : TaskId) :
    ∀ e ∈ store.rowsOf taskId, e.sequence < lastSequence (store.rowsOf taskId) + 1 + 0 :=
  fun _ member => Nat.lt_succ_of_le (le_lastSequence member)

theorem grows_inserted {store after : SqliteEventStore} {io : AppendIo} {taskId : TaskId}
    {kinds : List TaskEventKind} {events : List TaskEvent}
    (inserted : insertBatch io taskId (lastSequence (store.rowsOf taskId) + 1) 0 kinds store =
      .ok (events, after)) :
    LogGrows store.rowsOf after.rowsOf taskId kinds ∧
      after.maxEventsPerTask = store.maxEventsPerTask := by
  obtain ⟨own, ofKinds, sequences, others, limit⟩ :=
    insertBatch_grows inserted (store.lastSequence_below taskId)
  have length : events.length = kinds.length := by rw [← ofKinds, kindsOf, List.length_map]
  refine ⟨⟨?_, own ▸ List.prefix_append _ _, others, ?_⟩, limit⟩
  · rw [own, kindsOf, List.map_append, ← kindsOf, ← kindsOf, ofKinds]
  · intro sequenced
    rw [lastSequence_sequenced sequenced] at sequences
    exact own ▸ sequenced.append (by simpa [length] using sequences)

theorem list_zero (store : SqliteEventStore) (taskId : TaskId) :
    store.list taskId 0 = .ok (store.rowsOf taskId) := by
  unfold list
  rw [if_neg (by decide)]
  refine congrArg Except.ok (List.filter_eq_self.mpr ?_)
  intro e member
  exact decide_eq_true (rowsOf_checked member).1

/-- In calm conditions a batch that fits both the limit and the column is committed. -/
theorem appendBatch_room (store : SqliteEventStore) {io : AppendIo} (calm : io.Calm)
    {taskId : TaskId} {kinds : List TaskEventKind} (nonempty : kinds ≠ [])
    (sequenced : Sequenced (store.rowsOf taskId))
    (room : (store.rowsOf taskId).length + kinds.length ≤ store.maxEventsPerTask)
    (column : (store.rowsOf taskId).length + kinds.length < 2 ^ 63) :
    ∃ events after,
      insertBatch io taskId (lastSequence (store.rowsOf taskId) + 1) 0 kinds store =
        .ok (events, after) ∧
      store.appendBatch io taskId kinds = (.ok events, after) := by
  have some_kinds : kinds.isEmpty = false := List.isEmpty_eq_false_iff.mpr nonempty
  have last := lastSequence_sequenced sequenced
  obtain ⟨⟨events, after⟩, inserted⟩ := insertBatch_succeeds calm kinds store
    (Nat.succ_pos (lastSequence (store.rowsOf taskId))) (by rw [last]; omega)
    (store.lastSequence_below taskId)
  refine ⟨events, after, inserted, ?_⟩
  have total : (store.rowsOf taskId).length + kinds.length < 2 ^ 64 := by omega
  have following : lastSequence (store.rowsOf taskId) + 1 < 2 ^ 64 := by omega
  simp only [appendBatch, some_kinds, calm.1, calm.2.1, checkedAdd, if_pos total,
    if_pos following, if_neg (Nat.not_lt.mpr room), inserted, Bool.not_true,
    Bool.false_eq_true, ↓reduceIte]

theorem appendBatch_exhausted (store : SqliteEventStore) {io : AppendIo} (calm : io.Calm)
    {taskId : TaskId} {kinds : List TaskEventKind} (sequenced : Sequenced (store.rowsOf taskId))
    (limit : store.maxEventsPerTask < 2 ^ 64)
    (room : (store.rowsOf taskId).length + kinds.length ≤ store.maxEventsPerTask)
    (column : 2 ^ 63 ≤ (store.rowsOf taskId).length + kinds.length) :
    store.appendBatch io taskId kinds = (.error .sequenceExhausted, store) := by
  have below := sequenced_length sequenced
  have nonempty : kinds ≠ [] := by
    rintro rfl
    simp only [List.length_nil] at column
    omega
  have some_kinds : kinds.isEmpty = false := List.isEmpty_eq_false_iff.mpr nonempty
  have last := lastSequence_sequenced sequenced
  have total : (store.rowsOf taskId).length + kinds.length < 2 ^ 64 := by omega
  have following : lastSequence (store.rowsOf taskId) + 1 < 2 ^ 64 := by omega
  have stops := insertBatch_exhausted calm kinds store
    (Nat.succ_pos (lastSequence (store.rowsOf taskId))) (by omega) (by omega) (by omega)
    (store.lastSequence_below taskId)
  simp only [appendBatch, some_kinds, calm.1, checkedAdd, if_pos total, if_pos following,
    if_neg (Nat.not_lt.mpr room), stops, Bool.not_true, Bool.false_eq_true, ↓reduceIte]

theorem appendBatch_full (store : SqliteEventStore) {io : AppendIo} (calm : io.Calm)
    {taskId : TaskId} {kinds : List TaskEventKind} (nonempty : kinds ≠ [])
    (full : store.maxEventsPerTask < (store.rowsOf taskId).length + kinds.length) :
    store.appendBatch io taskId kinds = (.error .capacityExceeded, store) := by
  have some_kinds : kinds.isEmpty = false := List.isEmpty_eq_false_iff.mpr nonempty
  simp only [appendBatch, some_kinds, calm.1, checkedAdd, Bool.not_true, Bool.false_eq_true,
    ↓reduceIte]
  split
  · rfl
  · rename_i total added
    split at added
    · cases Option.some.inj added
      rw [if_pos full]
    · cases added

instance : LawfulEventStore SqliteEventStore where
  log := rowsOf
  capacity := maxEventsPerTask
  list_all := by
    intro store taskId _
    exact store.list_zero taskId
  append_ok := by
    intro store after io taskId kinds events accepted
    change store.appendBatch io taskId kinds = _ at accepted
    rcases store.appendBatch_cases io taskId kinds with
      ⟨rfl, h⟩ | ⟨events, middle, _, inserted, h⟩ | ⟨e, _, h⟩
    · cases h.symm.trans accepted
      exact ⟨grows_nothing _ _, rfl⟩
    · cases h.symm.trans accepted
      exact grows_inserted inserted
    · cases h.symm.trans accepted
  append_error := by
    intro store after io taskId kinds e rejected
    change store.appendBatch io taskId kinds = _ at rejected
    rcases store.appendBatch_cases io taskId kinds with ⟨_, h⟩ | ⟨_, _, _, _, h⟩ | ⟨_, _, h⟩
    · cases h.symm.trans rejected
    · cases h.symm.trans rejected
    · exact (congrArg Prod.snd (h.symm.trans rejected)).symm
  append_room := by
    intro store io taskId kinds calm bounded sequenced room
    rcases eq_or_ne kinds [] with rfl | nonempty
    · exact ⟨[], store, rfl⟩
    obtain ⟨events, after, _, appended⟩ :=
      store.appendBatch_room calm nonempty sequenced room (by omega)
    exact ⟨events, after, appended⟩
  append_full := by
    intro store io taskId kinds nonempty full
    change ∃ e, store.appendBatch io taskId kinds = (.error e, store)
    rcases store.appendBatch_cases io taskId kinds with ⟨none, _⟩ | ⟨_, _, room, _, _⟩ | ⟨e, _, h⟩
    · exact absurd none nonempty
    · exact absurd full (Nat.not_lt.mpr room)
    · exact ⟨e, h⟩

theorem mem_taskIds {store : SqliteEventStore} {taskId : TaskId} :
    taskId ∈ store.taskIds ↔ store.rowsOf taskId ≠ [] := by
  simp only [taskIds, List.mem_dedup, List.mem_map, ne_eq, List.eq_nil_iff_forall_not_mem]
  constructor
  · rintro ⟨key, member, rfl⟩ none
    obtain ⟨row, found⟩ := Option.isSome_iff_exists.mp
      (Std.ExtTreeMap.mem_iff_isSome_getElem?.mp (Std.ExtTreeMap.mem_keys.mp member))
    exact none ⟨key.first, key.second, row.occurredAtUnixMs, row.kind⟩ (mem_rowsOf.mpr ⟨rfl, found⟩)
  · intro some
    obtain ⟨event, member⟩ := not_forall_not.mp some
    obtain ⟨owner, found⟩ := mem_rowsOf.mp member
    refine ⟨⟨event.taskId, event.sequence⟩, ?_, owner⟩
    exact Std.ExtTreeMap.mem_keys.mpr
      (Std.ExtTreeMap.mem_iff_isSome_getElem?.mpr (by rw [found]; rfl))

instance : LawfulRecoverableStore SqliteEventStore where
  recoverTaskSnapshots := recoverTaskSnapshots
  stored := taskIds
  stored_nodup := fun _ => List.nodup_dedup _
  mem_stored := mem_taskIds
  recovers := by
    intro store
    refine congrArg (fun f => store.taskIds.mapM f) (funext fun taskId => ?_)
    rw [list_zero]
    rfl
  short := by
    intro store taskId sequenced
    have := sequenced_length sequenced
    change (store.rowsOf taskId).length + 1 < 2 ^ 64
    omega

end SqliteEventStore

end AiOs
