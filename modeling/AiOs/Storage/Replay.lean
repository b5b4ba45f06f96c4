import AiOs.Runtime.Event

/-! Replay of one Task's log, `recover_snapshot` of `aios-storage-sqlite`. Its state machine
is written independently of the supervisor's: it is a table of which event is legal in which
state. The sequence check and the table separate, so proofs about batches only use the
table. -/
namespace AiOs

/-- One event against the replayed state and the flag for a recorded failure that still
lacks its transition. -/
def replayKind (state : Option TaskState) (pendingFailure : Bool) (kind : TaskEventKind) :
    Option (Option TaskState × Bool) :=
  if pendingFailure then
    match kind with
    | .stateTransitioned source target =>
      if state = some source ∧ target = .failed then some (some target, false) else none
    | _ => none
  else
    match kind with
    | .submitted => if state = none then some (some .submitted, false) else none
    | .stateTransitioned source target =>
      if state = some source ∧ source.canTransitionTo target = true then some (some target, false)
      else none
    | .validationFailed _ => if state = some .validating then some (state, false) else none
    | .taskFailed _ => if state.any (fun s => !s.isTerminal) then some (state, true) else none
    | .operationAllowed | .operationDenied _ | .approvalRequested .. | .approvalConsumed .. =>
      if state = some .running then some (state, false) else none
    | .approvalGranted .. | .approvalDenied .. | .approvalExpired .. =>
      if state = some .waitingApproval then some (state, false) else none
    | .approvalRevoked .. =>
      if state = some .running ∨ state = some .waitingApproval then some (state, false) else none

/-- The local variables of the replay loop. -/
structure Replay where
  state : Option TaskState
  expectedSequence : Nat
  pendingFailure : Bool
  deriving DecidableEq, Repr

def Replay.step (replay : Replay) (event : TaskEvent) : Except EventStoreError Replay :=
  if event.sequence ≠ replay.expectedSequence then .error .corrupt
  else
    match checkedAdd replay.expectedSequence 1 with
    | none => .error .sequenceExhausted
    | some next =>
      match replayKind replay.state replay.pendingFailure event.kind with
      | none => .error .corrupt
      | some (state, pendingFailure) => .ok ⟨state, next, pendingFailure⟩

def recoverSnapshot (taskId : TaskId) (events : List TaskEvent) :
    Except EventStoreError TaskSnapshot :=
  match events.foldlM Replay.step ⟨none, 1, false⟩ with
  | .error e => .error e
  | .ok replay =>
    if replay.pendingFailure then .error .corrupt
    else
      match replay.state with
      | some state => .ok ⟨taskId, state⟩
      | none => .error .corrupt

/-- The table alone, over a whole list of kinds. -/
def replayKinds (start : Option TaskState × Bool) (kinds : List TaskEventKind) :
    Option (Option TaskState × Bool) :=
  kinds.foldlM (fun current kind => replayKind current.1 current.2 kind) start

/-- The kinds are a complete log that ends in `state`. -/
def Replays (kinds : List TaskEventKind) (state : TaskState) : Prop :=
  replayKinds (none, false) kinds = some (some state, false)

/-- A batch leads from one settled state to another. -/
def Continues (source : TaskState) (kinds : List TaskEventKind) (target : TaskState) : Prop :=
  replayKinds (some source, false) kinds = some (some target, false)

instance (kinds : List TaskEventKind) (state : TaskState) : Decidable (Replays kinds state) :=
  inferInstanceAs (Decidable (_ = _))

@[simp] theorem replayKinds_nil (start : Option TaskState × Bool) :
    replayKinds start [] = some start := rfl

@[simp] theorem replayKinds_cons (start : Option TaskState × Bool) (kind : TaskEventKind)
    (rest : List TaskEventKind) :
    replayKinds start (kind :: rest) =
      (replayKind start.1 start.2 kind).bind (fun next => replayKinds next rest) := rfl

theorem replayKinds_append (start : Option TaskState × Bool) (xs ys : List TaskEventKind) :
    replayKinds start (xs ++ ys) =
      (replayKinds start xs).bind (fun next => replayKinds next ys) := by
  simp only [replayKinds, List.foldlM_append, Option.bind_eq_bind]

theorem Replays.append {kinds batch : List TaskEventKind} {source target : TaskState}
    (replays : Replays kinds source) (continues : Continues source batch target) :
    Replays (kinds ++ batch) target := by
  unfold Replays at *
  rw [replayKinds_append, replays]
  exact continues

theorem Continues.append {xs ys : List TaskEventKind} {a b c : TaskState}
    (first : Continues a xs b) (second : Continues b ys c) : Continues a (xs ++ ys) c := by
  unfold Continues at *
  rw [replayKinds_append, first]
  exact second

theorem Replays.unique {kinds : List TaskEventKind} {a b : TaskState} (ha : Replays kinds a)
    (hb : Replays kinds b) : a = b := by
  unfold Replays at *
  simpa using ha.symm.trans hb

theorem not_replays_nil (state : TaskState) : ¬ Replays [] state := by
  simp [Replays]

/-- The outcomes of a wait for an approval. -/
def TaskEventKind.settles : TaskEventKind → Bool
  | .approvalGranted .. | .approvalDenied .. | .approvalExpired .. => true
  | _ => false

/-- In an accepted log an outcome only stands where the Task waits. -/
theorem Replays.settled {before after : List TaskEventKind} {kind : TaskEventKind}
    {state : TaskState} (replays : Replays (before ++ kind :: after) state)
    (settles : kind.settles = true) : Replays before .waitingApproval := by
  unfold Replays at replays ⊢
  rw [replayKinds_append] at replays
  cases found : replayKinds (none, false) before with
  | none => simp [found] at replays
  | some reached =>
    obtain ⟨current, pendingFailure⟩ := reached
    simp only [found, Option.bind_some, replayKinds_cons] at replays
    cases legal : replayKind current pendingFailure kind with
    | none => simp [legal] at replays
    | some next =>
      cases pendingFailure <;> cases kind <;> simp_all [replayKind, TaskEventKind.settles]

theorem revocations_continue {state : TaskState} {kinds : List TaskEventKind}
    (live : state = .running ∨ state = .waitingApproval)
    (revoked : ∀ kind ∈ kinds, ∃ a o, kind = .approvalRevoked a o) :
    Continues state kinds state := by
  induction kinds with
  | nil => rfl
  | cons kind rest ih =>
    obtain ⟨a, o, rfl⟩ := revoked kind List.mem_cons_self
    have tail := ih (fun k hk => revoked k (List.mem_cons_of_mem _ hk))
    unfold Continues at *
    rcases live with rfl | rfl <;> simpa [replayKind] using tail

/-- The loop accepts exactly consecutive sequences over an accepted list of kinds. -/
theorem replay_loop (events : List TaskEvent) (start result : Replay)
    (small : start.expectedSequence < 2 ^ 64) :
    events.foldlM Replay.step start = .ok result ↔
      events.map TaskEvent.sequence = List.range' start.expectedSequence events.length ∧
      start.expectedSequence + events.length < 2 ^ 64 ∧
      replayKinds (start.state, start.pendingFailure) (kindsOf events) =
        some (result.state, result.pendingFailure) ∧
      result.expectedSequence = start.expectedSequence + events.length := by
  induction events generalizing start with
  | nil =>
    obtain ⟨state, expected, pending⟩ := start
    obtain ⟨state', expected', pending'⟩ := result
    simp only [List.foldlM_nil, kindsOf, List.map_nil, List.length_nil, List.range'_zero,
      replayKinds_nil, true_and, Nat.add_zero, Option.some.injEq, Prod.mk.injEq]
    constructor
    · intro h
      cases Except.ok.inj h
      exact ⟨small, ⟨rfl, rfl⟩, rfl⟩
    · rintro ⟨_, ⟨rfl, rfl⟩, rfl⟩
      rfl
  | cons event rest ih =>
    simp only [List.foldlM_cons, kindsOf, List.map_cons, List.length_cons, List.range'_succ,
      replayKinds_cons, List.cons.injEq, Replay.step]
    by_cases expected : event.sequence = start.expectedSequence
    · by_cases fits : start.expectedSequence + 1 < 2 ^ 64
      · simp only [expected, ne_eq, not_true_eq_false, ↓reduceIte, checkedAdd, fits, true_and]
        cases legal : replayKind start.state start.pendingFailure event.kind with
        | none => simp [bind, Except.bind]
        | some next =>
          obtain ⟨state, pending⟩ := next
          have tail := ih ⟨state, start.expectedSequence + 1, pending⟩ fits
          simp only [bind, Except.bind, Option.bind_some]
          rw [tail]
          simp only [kindsOf, Nat.add_assoc, Nat.add_comm 1]
      · have tooLong : ¬ start.expectedSequence + (rest.length + 1) < 2 ^ 64 := by omega
        have exhausted : checkedAdd start.expectedSequence 1 = none := if_neg fits
        rw [exhausted]
        simp only [expected, tooLong, bind, Except.bind, ne_eq, not_true_eq_false, ↓reduceIte,
          reduceCtorEq, false_and, and_false]
    · simp [expected, bind, Except.bind]

/-- Acceptance is numbering, length and the table; the result is the last state. -/
theorem recoverSnapshot_iff (taskId : TaskId) (events : List TaskEvent) (snapshot : TaskSnapshot) :
    recoverSnapshot taskId events = .ok snapshot ↔
      snapshot.taskId = taskId ∧ Sequenced events ∧ events.length + 1 < 2 ^ 64 ∧
      Replays (kindsOf events) snapshot.state := by
  have loop := fun result => replay_loop events ⟨none, 1, false⟩ result (by decide)
  simp only [Nat.add_comm 1] at loop
  unfold recoverSnapshot Sequenced Replays
  constructor
  · intro accepted
    split at accepted
    · cases accepted
    · rename_i replay ran
      obtain ⟨sequences, small, table, _⟩ := (loop replay).mp ran
      split at accepted
      · cases accepted
      · rename_i settled
        split at accepted
        · rename_i state last
          cases Except.ok.inj accepted
          exact ⟨rfl, sequences, small, by simpa [last, settled] using table⟩
        · cases accepted
  · rintro ⟨rfl, sequences, small, table⟩
    have ran := (loop ⟨some snapshot.state, events.length + 1, false⟩).mpr
      ⟨sequences, small, table, rfl⟩
    rw [ran]
    rfl

/-- A store whose snapshots are the replays of its logs, one for each Task that has one. -/
class LawfulRecoverableStore (S : Type) [LawfulEventStore S] extends RecoverableEventStore S where
  stored : S → List TaskId
  stored_nodup : ∀ store, (stored store).Nodup
  mem_stored : ∀ {store : S} {taskId : TaskId},
    taskId ∈ stored store ↔ LawfulEventStore.log store taskId ≠ []
  recovers : ∀ store, recoverTaskSnapshots store =
    (stored store).mapM (fun taskId => recoverSnapshot taskId (LawfulEventStore.log store taskId))
  short : ∀ {store : S} {taskId : TaskId}, Sequenced (LawfulEventStore.log store taskId) →
    (LawfulEventStore.log store taskId).length + 1 < 2 ^ 64

end AiOs
