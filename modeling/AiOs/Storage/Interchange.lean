import AiOs.Storage.Sqlite

/-! The two stores behind the `EventStore` interface, driven by one history of calls. They
number and bound events in different ways, a vector's length against `COUNT` and `MAX`, and
`u64` against a signed column; the relation between them is equality of the logs without
the timestamps. -/
namespace AiOs

/-- An event without the reading of the clock. -/
structure Untimed where
  taskId : TaskId
  sequence : Nat
  kind : TaskEventKind
  deriving DecidableEq, Repr

def TaskEvent.untimed (event : TaskEvent) : Untimed := ⟨event.taskId, event.sequence, event.kind⟩

inductive StoreCall where
  | appendBatch (taskId : TaskId) (kinds : List TaskEventKind)
  | list (taskId : TaskId) (afterSequence : Nat)

section interface
variable {S : Type} [EventStore S]

def StoreCall.run (call : StoreCall) (io : AppendIo) (store : S) :
    Except EventStoreError (List TaskEvent) × S :=
  match call with
  | .appendBatch taskId kinds => EventStore.appendBatch store io taskId kinds
  | .list taskId afterSequence => (EventStore.list store taskId afterSequence, store)

end interface

/-- What a caller sees of an answer, the timestamps apart. -/
def untimedAnswer (answer : Except EventStoreError (List TaskEvent)) :
    Except EventStoreError (List Untimed) :=
  answer.map (List.map TaskEvent.untimed)

/-- One call made to both stores. Each has its own clock; the database does not fail and its
clock fits the signed column. -/
structure Exchange where
  call : StoreCall
  memoryIo : AppendIo
  sqliteIo : AppendIo
  calm : sqliteIo.Calm

namespace Exchange

def onMemory (x : Exchange) (memory : InMemoryEventStore) :
    Except EventStoreError (List TaskEvent) × InMemoryEventStore := x.call.run x.memoryIo memory

def onSqlite (x : Exchange) (sqlite : SqliteEventStore) :
    Except EventStoreError (List TaskEvent) × SqliteEventStore := x.call.run x.sqliteIo sqlite

/-- The sequences of every log are one to its length, which is at most the limit. -/
def Numbered (log : TaskId → List TaskEvent) (limit : Nat) : Prop :=
  ∀ taskId, Sequenced (log taskId) ∧ (log taskId).length ≤ limit

/-- One call on both: the same answer, no trace of a rejected batch, well numbered logs. -/
structure Agrees (memory : InMemoryEventStore) (sqlite : SqliteEventStore) (limit : Nat)
    (x : Exchange) : Prop where
  answers : untimedAnswer (x.onMemory memory).1 = untimedAnswer (x.onSqlite sqlite).1
  memoryRejected : ∀ e, (x.onMemory memory).1 = .error e → (x.onMemory memory).2 = memory
  sqliteRejected : ∀ e, (x.onSqlite sqlite).1 = .error e → (x.onSqlite sqlite).2 = sqlite
  memoryNumbered : Numbered (x.onMemory memory).2.existing limit
  sqliteNumbered : Numbered (x.onSqlite sqlite).2.rowsOf limit

/-- Call by call along a history. -/
def AgreeAll (limit : Nat) : InMemoryEventStore → SqliteEventStore → List Exchange → Prop
  | _, _, [] => True
  | memory, sqlite, x :: rest =>
    x.Agrees memory sqlite limit ∧ AgreeAll limit (x.onMemory memory).2 (x.onSqlite sqlite).2 rest

/-- The call stays inside the signed column: a query position below its end, and a batch
that is empty, beyond the limit, or ends below the end of the column. -/
def InColumn (memory : InMemoryEventStore) (x : Exchange) : Prop :=
  match x.call with
  | .appendBatch taskId kinds =>
    kinds = [] ∨ memory.maxEventsPerTask < (memory.existing taskId).length + kinds.length ∨
      (memory.existing taskId).length + kinds.length < 2 ^ 63
  | .list _ afterSequence => afterSequence < 2 ^ 63

def InColumnAll : InMemoryEventStore → List Exchange → Prop
  | _, [] => True
  | memory, x :: rest => x.InColumn memory ∧ InColumnAll (x.onMemory memory).2 rest

end Exchange

/-! One batch and one query, on related stores. -/

theorem untimed_sequences (events : List TaskEvent) :
    (events.map TaskEvent.untimed).map Untimed.sequence = events.map TaskEvent.sequence := by
  rw [List.map_map]
  rfl

theorem untimed_determined {taskId : TaskId} {left right : List TaskEvent}
    (kinds : kindsOf left = kindsOf right)
    (sequences : left.map TaskEvent.sequence = right.map TaskEvent.sequence)
    (leftOwner : ∀ e ∈ left, e.taskId = taskId) (rightOwner : ∀ e ∈ right, e.taskId = taskId) :
    left.map TaskEvent.untimed = right.map TaskEvent.untimed := by
  induction left generalizing right with
  | nil =>
    cases right with
    | nil => rfl
    | cons event rest => cases kinds
  | cons event rest ih =>
    cases right with
    | nil => cases kinds
    | cons other others =>
      simp only [kindsOf, List.map_cons, List.cons.injEq] at kinds sequences
      simp only [List.mem_cons, forall_eq_or_imp] at leftOwner rightOwner
      have tail := ih kinds.2 sequences.2 leftOwner.2 rightOwner.2
      have head : event.untimed = other.untimed := by
        simp only [TaskEvent.untimed, kinds.1, sequences.1, leftOwner.1, rightOwner.1]
      rw [List.map_cons, List.map_cons, head, tail]

theorem untimed_filter (events : List TaskEvent) (afterSequence : Nat) :
    (events.filter (fun e => decide (afterSequence < e.sequence))).map TaskEvent.untimed =
      (events.map TaskEvent.untimed).filter (fun e => decide (afterSequence < e.sequence)) := by
  rw [List.filter_map]
  rfl

theorem Sequenced.of_untimed {left right : List TaskEvent} (sequenced : Sequenced left)
    (same : left.map TaskEvent.untimed = right.map TaskEvent.untimed) : Sequenced right := by
  have length : right.length = left.length := by
    simpa using congrArg List.length same.symm
  rw [Sequenced, ← untimed_sequences, ← same, untimed_sequences, sequenced, length]

/-- The two stores hold the same logs, timestamps apart, and each log is well numbered. -/
structure SameLogs (memory : InMemoryEventStore) (sqlite : SqliteEventStore) (limit : Nat) :
    Prop where
  memoryLimit : memory.maxEventsPerTask = limit
  sqliteLimit : sqlite.maxEventsPerTask = limit
  logs : ∀ taskId, (memory.existing taskId).map TaskEvent.untimed =
    (sqlite.rowsOf taskId).map TaskEvent.untimed
  numbered : Exchange.Numbered memory.existing limit

namespace SameLogs
variable {memory : InMemoryEventStore} {sqlite : SqliteEventStore} {limit : Nat}

theorem length (same : SameLogs memory sqlite limit) (taskId : TaskId) :
    (memory.existing taskId).length = (sqlite.rowsOf taskId).length := by
  simpa using congrArg List.length (same.logs taskId)

theorem sqliteNumbered (same : SameLogs memory sqlite limit) :
    Exchange.Numbered sqlite.rowsOf limit := by
  intro taskId
  obtain ⟨sequenced, bounded⟩ := same.numbered taskId
  exact ⟨sequenced.of_untimed (same.logs taskId), same.length taskId ▸ bounded⟩

theorem empty {memory : InMemoryEventStore} {sqlite : SqliteEventStore}
    (made : InMemoryEventStore.new limit = .ok memory)
    (opened : SqliteEventStore.openEmpty limit = .ok sqlite) : SameLogs memory sqlite limit := by
  unfold InMemoryEventStore.new at made
  unfold SqliteEventStore.openEmpty at opened
  split at made
  · cases made
  rename_i positive
  rw [if_neg positive] at opened
  cases made
  cases opened
  have none : ∀ taskId, (⟨∅, limit⟩ : InMemoryEventStore).existing taskId = [] := by
    intro taskId
    simp [InMemoryEventStore.existing]
  have rows : ∀ taskId,
      (⟨∅, limit, SqliteEventStore.checked_empty⟩ : SqliteEventStore).rowsOf taskId = [] := by
    intro taskId
    simp [SqliteEventStore.rowsOf]
  refine ⟨rfl, rfl, ?_, ?_⟩
  · intro taskId
    rw [none, rows]
  · intro taskId
    rw [none]
    exact ⟨rfl, Nat.zero_le _⟩

theorem append_accepted (same : SameLogs memory sqlite limit) (memoryIo : AppendIo)
    {sqliteIo : AppendIo} (calm : sqliteIo.Calm) {taskId : TaskId} {kinds : List TaskEventKind}
    (nonempty : kinds ≠ []) (usize : limit < 2 ^ 64)
    (room : (memory.existing taskId).length + kinds.length ≤ limit)
    (column : (memory.existing taskId).length + kinds.length < 2 ^ 63) :
    ∃ left right memory' sqlite',
      memory.appendBatch memoryIo taskId kinds = (.ok left, memory') ∧
      sqlite.appendBatch sqliteIo taskId kinds = (.ok right, sqlite') ∧
      left.map TaskEvent.untimed = right.map TaskEvent.untimed ∧
      SameLogs memory' sqlite' limit := by
  have length := same.length taskId
  have sequenced := (same.sqliteNumbered taskId).1
  obtain ⟨left, numbered, accepted⟩ := memory.appendBatch_room memoryIo nonempty
    (by rw [same.memoryLimit]; exact usize) (by rw [same.memoryLimit]; exact room)
  obtain ⟨right, sqlite', inserted, committed⟩ := sqlite.appendBatch_room calm nonempty sequenced
    (by rw [same.sqliteLimit, ← length]; exact room) (by rw [← length]; exact column)
  obtain ⟨leftKinds, leftSequences, leftOwner⟩ := numberEvents_ok numbered
  obtain ⟨own, rightKinds, rightSequences, others, sqliteLimit⟩ :=
    SqliteEventStore.insertBatch_grows inserted (sqlite.lastSequence_below taskId)
  rw [SqliteEventStore.lastSequence_sequenced sequenced, ← length] at rightSequences
  have rightOwner : ∀ e ∈ right, e.taskId = taskId := by
    intro e member
    have stored : e ∈ sqlite'.rowsOf taskId := own ▸ List.mem_append_right _ member
    exact (SqliteEventStore.mem_rowsOf.mp stored).1
  have appended : left.map TaskEvent.untimed = right.map TaskEvent.untimed :=
    untimed_determined (leftKinds.trans rightKinds.symm)
      (leftSequences.trans rightSequences.symm) leftOwner rightOwner
  have count : left.length = kinds.length := by
    rw [← leftKinds, kindsOf, List.length_map]
  have grows := memory.grows_extend numbered
  refine ⟨left, right, _, sqlite', accepted, committed, appended, same.memoryLimit,
    sqliteLimit.trans same.sqliteLimit, ?_, ?_⟩
  · intro other
    rw [InMemoryEventStore.existing_extend]
    split
    · rename_i this
      subst this
      rw [own, List.map_append, List.map_append, same.logs, appended]
    · rename_i distinct
      rw [others other (Ne.symm distinct), same.logs]
  · intro other
    by_cases this : other = taskId
    · subst this
      refine ⟨grows.sequenced (same.numbered other).1, ?_⟩
      rw [InMemoryEventStore.existing_extend, if_pos rfl, List.length_append, count]
      exact room
    · rw [grows.others other this]
      exact same.numbered other

/-- The step of the simulation: inside the column the stores agree and stay related. -/
theorem step (same : SameLogs memory sqlite limit) (usize : limit < 2 ^ 64) {x : Exchange}
    (inside : x.InColumn memory) :
    untimedAnswer (x.onMemory memory).1 = untimedAnswer (x.onSqlite sqlite).1 ∧
      SameLogs (x.onMemory memory).2 (x.onSqlite sqlite).2 limit := by
  obtain ⟨call, memoryIo, sqliteIo, calm⟩ := x
  cases call with
  | list taskId afterSequence =>
    have position : ¬ 2 ^ 63 ≤ afterSequence := Nat.not_le.mpr inside
    refine ⟨?_, same⟩
    change untimedAnswer (memory.list taskId afterSequence) =
      untimedAnswer (sqlite.list taskId afterSequence)
    rw [InMemoryEventStore.list, SqliteEventStore.list, if_neg position]
    refine congrArg Except.ok ?_
    rw [untimed_filter, untimed_filter, same.logs]
  | appendBatch taskId kinds =>
    change untimedAnswer (memory.appendBatch memoryIo taskId kinds).1 =
        untimedAnswer (sqlite.appendBatch sqliteIo taskId kinds).1 ∧
      SameLogs (memory.appendBatch memoryIo taskId kinds).2
        (sqlite.appendBatch sqliteIo taskId kinds).2 limit
    change kinds = [] ∨ memory.maxEventsPerTask < _ ∨ _ at inside
    rw [same.memoryLimit] at inside
    rcases eq_or_ne kinds [] with rfl | nonempty
    · exact ⟨rfl, same⟩
    rcases Nat.lt_or_ge limit ((memory.existing taskId).length + kinds.length) with full | room
    · rw [memory.appendBatch_full memoryIo nonempty (by rw [same.memoryLimit]; exact full),
        sqlite.appendBatch_full calm nonempty
          (by rw [same.sqliteLimit, ← same.length taskId]; exact full)]
      exact ⟨rfl, same⟩
    · have column : (memory.existing taskId).length + kinds.length < 2 ^ 63 := by
        rcases inside with none | full | column
        · exact absurd none nonempty
        · exact absurd full (Nat.not_lt.mpr room)
        · exact column
      obtain ⟨left, right, memory', sqlite', accepted, committed, appended, after⟩ :=
        same.append_accepted memoryIo calm nonempty usize room column
      rw [accepted, committed]
      exact ⟨congrArg Except.ok appended, after⟩

/-- Outside the column the database refuses what the process-local store accepts. -/
theorem diverges (same : SameLogs memory sqlite limit) (usize : limit < 2 ^ 64) {x : Exchange}
    (outside : ¬ x.InColumn memory) :
    untimedAnswer (x.onMemory memory).1 ≠ untimedAnswer (x.onSqlite sqlite).1 := by
  obtain ⟨call, memoryIo, sqliteIo, calm⟩ := x
  cases call with
  | list taskId afterSequence =>
    have position : 2 ^ 63 ≤ afterSequence := Nat.not_lt.mp outside
    change untimedAnswer (memory.list taskId afterSequence) ≠
      untimedAnswer (sqlite.list taskId afterSequence)
    rw [InMemoryEventStore.list, SqliteEventStore.list, if_pos position]
    intro same
    cases same
  | appendBatch taskId kinds =>
    change untimedAnswer (memory.appendBatch memoryIo taskId kinds).1 ≠
      untimedAnswer (sqlite.appendBatch sqliteIo taskId kinds).1
    change ¬ (kinds = [] ∨ memory.maxEventsPerTask < _ ∨ _) at outside
    rw [same.memoryLimit] at outside
    push Not at outside
    obtain ⟨nonempty, room, column⟩ := outside
    obtain ⟨left, _, accepted⟩ := memory.appendBatch_room memoryIo nonempty
      (by rw [same.memoryLimit]; exact usize) (by rw [same.memoryLimit]; exact room)
    rw [accepted, sqlite.appendBatch_exhausted calm (same.sqliteNumbered taskId).1
      (by rw [same.sqliteLimit]; exact usize)
      (by rw [same.sqliteLimit, ← same.length taskId]; exact room)
      (by rw [← same.length taskId]; exact column)]
    intro same
    cases same

end SameLogs

theorem StoreCall.run_rejected {S : Type} [LawfulEventStore S] (call : StoreCall) (io : AppendIo)
    (store : S) {e : EventStoreError} (rejected : (call.run io store).1 = .error e) :
    (call.run io store).2 = store := by
  cases call with
  | list taskId afterSequence => rfl
  | appendBatch taskId kinds =>
    exact LawfulEventStore.append_error (Prod.ext rejected rfl)

namespace Exchange
variable {memory : InMemoryEventStore} {sqlite : SqliteEventStore} {limit : Nat}

theorem agrees_iff (same : SameLogs memory sqlite limit) (usize : limit < 2 ^ 64) (x : Exchange) :
    x.Agrees memory sqlite limit ↔ x.InColumn memory := by
  constructor
  · intro agrees
    by_contra outside
    exact same.diverges usize outside agrees.answers
  · intro inside
    obtain ⟨answers, after⟩ := same.step usize inside
    exact ⟨answers, fun _ => x.call.run_rejected x.memoryIo memory,
      fun _ => x.call.run_rejected x.sqliteIo sqlite, after.numbered, after.sqliteNumbered⟩

theorem agreeAll_iff (usize : limit < 2 ^ 64) (history : List Exchange)
    (same : SameLogs memory sqlite limit) :
    AgreeAll limit memory sqlite history ↔ InColumnAll memory history := by
  induction history generalizing memory sqlite with
  | nil => exact Iff.rfl
  | cons x rest ih =>
    rw [AgreeAll, InColumnAll, agrees_iff same usize]
    refine and_congr_right ?_
    intro inside
    exact ih (same.step usize inside).2

end Exchange

/-- From empty stores, both answer every call of a history alike exactly when every call of
it stays inside the signed column. -/
theorem stores_interchangeable {limit : Nat} (usize : limit < 2 ^ 64)
    {memory : InMemoryEventStore} {sqlite : SqliteEventStore}
    (made : InMemoryEventStore.new limit = .ok memory)
    (opened : SqliteEventStore.openEmpty limit = .ok sqlite) (history : List Exchange) :
    Exchange.AgreeAll limit memory sqlite history ↔ Exchange.InColumnAll memory history :=
  Exchange.agreeAll_iff usize history (.empty made opened)

namespace Sample

def stillIo : AppendIo := ⟨true, true, fun _ => 0⟩

theorem stillIo_calm : stillIo.Calm := ⟨rfl, rfl, fun _ => Nat.two_pow_pos 63⟩

def exchange (call : StoreCall) : Exchange := ⟨call, stillIo, stillIo, stillIo_calm⟩

/-- The database answers a query position beyond its column with an error. -/
theorem stores_differ_far_position : ∃ memory sqlite,
    InMemoryEventStore.new 1 = .ok memory ∧ SqliteEventStore.openEmpty 1 = .ok sqlite ∧
      ¬ Exchange.AgreeAll 1 memory sqlite [exchange (.list ⟨0⟩ (2 ^ 63))] := by
  refine ⟨_, _, rfl, rfl, ?_⟩
  intro agree
  have answers : (Except.ok [] : Except EventStoreError (List Untimed)) =
      .error .sequenceExhausted := agree.1.answers
  cases answers

def shortHistory : List Exchange :=
  [exchange (.appendBatch ⟨0⟩ [.submitted]), exchange (.list ⟨0⟩ 0),
    exchange (.appendBatch ⟨0⟩ [.operationAllowed, .operationAllowed]),
    exchange (.appendBatch ⟨1⟩ [])]

theorem stores_interchangeable_short : ∃ memory sqlite,
    InMemoryEventStore.new 2 = .ok memory ∧ SqliteEventStore.openEmpty 2 = .ok sqlite ∧
      Exchange.AgreeAll 2 memory sqlite shortHistory := by
  refine ⟨⟨∅, 2⟩, ⟨∅, 2, SqliteEventStore.checked_empty⟩, rfl, rfl, ?_⟩
  refine (stores_interchangeable (by decide) rfl rfl shortHistory).mpr ?_
  refine ⟨.inr (.inr ?_), Nat.two_pow_pos 63, .inr (.inl ?_), .inl rfl, trivial⟩
  · decide +kernel
  · decide +kernel

end Sample

end AiOs
