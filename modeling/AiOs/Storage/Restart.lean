import Mathlib.Logic.Relation
import AiOs.Runtime.Discipline
import AiOs.Storage.Sqlite

/-! Restart recovery on the SQLite store: when it succeeds, what it leaves, that it can be
repeated and resumed, and that documented runs always leave logs it accepts. -/
namespace AiOs

open Fallible SqliteEventStore

/-- Some recovery of the first store stopped at a rejected batch and left the second. -/
def StopsAt (store after : SqliteEventStore) : Prop :=
  ∃ env world maxTasks later e, recover env world store maxTasks =
    (.error (.err (.eventStore e)), later, after)

/-- Any number of recoveries, each stopped at a rejected batch. -/
def StopsRepeatedly : SqliteEventStore → SqliteEventStore → Prop :=
  Relation.ReflTransGen StopsAt

/-- Every log in the database is accepted by the replay. -/
def Readable (store : SqliteEventStore) : Prop :=
  ∀ taskId ∈ store.taskIds, ∃ snapshot, recoverSnapshot taskId (store.rowsOf taskId) = .ok snapshot

theorem readable_iff {store : SqliteEventStore} : Readable store ↔ AllAccepted store := by
  constructor
  · intro readable taskId logged
    obtain ⟨⟨owner, state⟩, found⟩ := readable taskId (mem_taskIds.mpr logged)
    have same : owner = taskId := ((recoverSnapshot_iff _ _ _).mp found).1
    exact ⟨state, same ▸ found⟩
  · intro all taskId member
    obtain ⟨state, accepted⟩ := all taskId (mem_taskIds.mp member)
    exact ⟨_, accepted⟩

/-! The small daemon on a database. -/
namespace Sample

def database (maxEventsPerTask : Nat) : SqliteEventStore :=
  ⟨∅, maxEventsPerTask, checked_empty⟩

def stored (maxEventsPerTask : Nat) (calls : List Call) : Process SqliteEventStore :=
  Daemon.runCalls env ⟨Daemon.start, .new (database maxEventsPerTask)⟩ calls

theorem database_empty (maxEventsPerTask : Nat) (taskId : TaskId) :
    LawfulEventStore.log (database maxEventsPerTask) taskId = [] := by
  have rows : (database maxEventsPerTask).taskEvents.toList = [] :=
    Std.ExtTreeMap.toList_eq_nil_iff.mpr rfl
  change (database maxEventsPerTask).rowsOf taskId = []
  rw [rowsOf, rows]
  rfl

theorem stored_reached {permitted : Process SqliteEventStore → Call → Prop}
    {maxEventsPerTask : Nat} {calls : List Call}
    (follows : Daemon.Follows env permitted
      ⟨Daemon.start, .new (database maxEventsPerTask)⟩ calls) :
    Daemon.Reached env permitted (.up (stored maxEventsPerTask calls)) :=
  (Daemon.reached_new env permitted (database_empty maxEventsPerTask)).follow follows

theorem env_calm (i : Nat) : (env.io i).Calm := ⟨rfl, rfl, fun _ => Nat.two_pow_pos 63⟩

def queued (maxEventsPerTask : Nat) : SqliteEventStore :=
  (stored maxEventsPerTask [.submit spec]).supervisor.eventStore

theorem queued_replays :
    recoverSnapshot ⟨0⟩ ((queued 5).rowsOf ⟨0⟩) = .ok ⟨⟨0⟩, .queued⟩ := by decide +kernel

theorem queued_readable : Readable (queued 5) := by
  have only : (queued 5).taskIds = [⟨0⟩] := by decide +kernel
  intro taskId member
  rw [only, List.mem_singleton] at member
  subst member
  exact ⟨_, queued_replays⟩

def pair : SqliteEventStore :=
  (stored 5 [.submit spec, .submit { spec with idempotencyKey := "other" }]).supervisor.eventStore

theorem pair_readable : Readable pair := by
  have both : pair.taskIds = [⟨0⟩, ⟨1⟩] := by decide +kernel
  have first : recoverSnapshot ⟨0⟩ (pair.rowsOf ⟨0⟩) = .ok ⟨⟨0⟩, .queued⟩ := by decide +kernel
  have second : recoverSnapshot ⟨1⟩ (pair.rowsOf ⟨1⟩) = .ok ⟨⟨1⟩, .queued⟩ := by decide +kernel
  intro taskId member
  simp only [both, List.mem_cons, List.not_mem_nil, or_false] at member
  rcases member with rfl | rfl
  · exact ⟨_, first⟩
  · exact ⟨_, second⟩

/-- A storage that writes one batch and then no more. -/
def failingEnv : Env := { env with io := fun batch => ⟨true, batch == 0, fun _ => 0⟩ }

def failure {α : Type} : Except Stop α → Option Stop
  | .ok _ => none
  | .error stop => some stop

def interrupted : OrdMap TaskId TaskState := (∅ : OrdMap TaskId TaskState)
  |>.insert ⟨0⟩ .queued |>.insert ⟨1⟩ .queued

end Sample

theorem recover_ends (env : Env) (world : World) (store : SqliteEventStore) (maxTasks : Nat)
    {out : Except Stop (TaskSupervisor SqliteEventStore) × World × SqliteEventStore}
    (result : recover env world store maxTasks = out) : RecoverEnds env world store maxTasks out :=
  result ▸ recover_cases env world store maxTasks

/-- When recovery succeeds, and everything it leaves. -/
theorem recover_exact (env : Env) (world : World) (store : SqliteEventStore) (maxTasks : Nat)
    (calm : ∀ i, (env.io i).Calm) (bounded : store.maxEventsPerTask < 2 ^ 63) :
    ((∃ supervisor, (recover env world store maxTasks).1 = .ok supervisor) ↔
      0 < maxTasks ∧ Readable store ∧ store.taskIds.length ≤ maxTasks ∧
      ∀ taskId state, recoverSnapshot taskId (store.rowsOf taskId) = .ok ⟨taskId, state⟩ →
        state.isTerminal = false → (store.rowsOf taskId).length + 2 ≤ store.maxEventsPerTask) ∧
    ∀ supervisor later after,
      recover env world store maxTasks = (.ok supervisor, later, after) →
      supervisor.eventStore = after ∧
      (∀ taskId state, recoverSnapshot taskId (store.rowsOf taskId) = .ok ⟨taskId, state⟩ →
        state.isTerminal = true →
          supervisor.get taskId = some ⟨taskId, state⟩ ∧
            after.rowsOf taskId = store.rowsOf taskId) ∧
      (∀ taskId state, recoverSnapshot taskId (store.rowsOf taskId) = .ok ⟨taskId, state⟩ →
        state.isTerminal = false →
          supervisor.get taskId = some ⟨taskId, .failed⟩ ∧
            ∃ appended, after.rowsOf taskId = store.rowsOf taskId ++ appended ∧
              kindsOf appended =
                [.taskFailed .runtimeRestarted, .stateTransitioned state .failed]) ∧
      (∀ taskId, supervisor.get taskId = none ↔ store.rowsOf taskId = []) ∧ Readable after ∧
      supervisor.tasks = ∅ ∧ supervisor.idempotencyIndex = ∅ ∧
      supervisor.pendingOperations = ∅ ∧ supervisor.approvedOperations = ∅ := by
  constructor
  · constructor
    · rintro ⟨supervisor, result⟩
      have done := recover_ok (recover_ends env world store maxTasks (Prod.ext result rfl))
      exact ⟨done.positive, readable_iff.mpr done.all, done.limit, done.room⟩
    · rintro ⟨positive, readable, limit, room⟩
      obtain ⟨supervisor, later, after, result⟩ :=
        recover_calm calm world bounded positive (readable_iff.mp readable) limit room
      exact ⟨supervisor, by rw [result]⟩
  · intro supervisor later after result
    have ends := recover_ends env world store maxTasks result
    have done := recover_ok ends
    have known : ∀ taskId, supervisor.taskState taskId = supervisor.recoveredTasks[taskId]? := by
      intro taskId
      apply TaskSupervisor.taskState_of_recovered
      rw [done.fields]
      exact Std.ExtTreeMap.getElem?_empty
    refine ⟨by rw [done.fields]; rfl, ?_, ?_, ?_, ?_, by rw [done.fields]; rfl,
      by rw [done.fields]; rfl, by rw [done.fields]; rfl, by rw [done.fields]; rfl⟩
    · intro taskId state accepted terminal
      have kept := (done.states taskId state).mpr
        ⟨state, accepted, by rw [closedState, if_pos terminal]⟩
      have same := done.completes taskId state accepted
      rw [if_pos terminal] at same
      exact ⟨by rw [TaskSupervisor.get, known, kept]; rfl, same⟩
    · intro taskId state accepted live
      have failed := (done.states taskId .failed).mpr
        ⟨state, accepted, by rw [closedState, live]; rfl⟩
      have restarted := done.completes taskId state accepted
      rw [live] at restarted
      have restarted : RestartedLog (store.rowsOf taskId) (after.rowsOf taskId) state := restarted
      obtain ⟨appended, grown⟩ := restarted.grown
      refine ⟨by rw [TaskSupervisor.get, known, failed]; rfl, appended, grown.symm, ?_⟩
      have kinds := restarted.kinds
      rw [← grown, kindsOf, List.map_append] at kinds
      exact List.append_cancel_left kinds
    · intro taskId
      rw [TaskSupervisor.get, known, Option.map_eq_none_iff]
      constructor
      · intro unknown
        by_contra logged
        obtain ⟨state, accepted⟩ := done.all taskId logged
        have present := (done.states taskId (closedState state)).mpr ⟨state, accepted, rfl⟩
        rw [unknown] at present
        cases present
      · intro empty
        cases found : supervisor.recoveredTasks[taskId]? with
        | none => rfl
        | some state =>
          obtain ⟨old, accepted, _⟩ := (done.states taskId state).mp found
          exact absurd empty accepted.stored
    · exact readable_iff.mpr ((recover_advances ends).all done.all)

/-- Two free slots are the boundary: with five slots the queued Task recovers to failed,
with four the daemon cannot start. -/
theorem recover_exact_queued :
    (∃ supervisor, (recover Sample.env Daemon.start (Sample.queued 5) 1).1 = .ok supervisor) ∧
    ¬ ∃ supervisor, (recover Sample.env Daemon.start (Sample.queued 4) 1).1 = .ok supervisor := by
  constructor
  · refine ((recover_exact Sample.env Daemon.start (Sample.queued 5) 1 Sample.env_calm
      (by decide +kernel)).1).mpr
      ⟨by decide, Sample.queued_readable, by decide +kernel, ?_⟩
    intro taskId state replayed unfinished
    by_cases same : taskId = ⟨0⟩
    · rw [same]
      decide +kernel
    · have logged : (Sample.queued 5).rowsOf taskId ≠ [] := by
        intro empty
        rw [empty] at replayed
        exact absurd ((recoverSnapshot_iff _ _ _).mp replayed).2.2.2 (not_replays_nil _)
      have only : (Sample.queued 5).taskIds = [⟨0⟩] := by decide +kernel
      have member := mem_taskIds.mpr logged
      rw [only, List.mem_singleton] at member
      exact absurd member same
  · intro recovered
    have room := ((recover_exact Sample.env Daemon.start (Sample.queued 4) 1 Sample.env_calm
      (by decide +kernel)).1.mp recovered).2.2.2
    have full : ¬ ((Sample.queued 4).rowsOf ⟨0⟩).length + 2 ≤
        (Sample.queued 4).maxEventsPerTask := by decide +kernel
    exact full (room ⟨0⟩ .queued (by decide +kernel) rfl)

theorem stops_advance {store after : SqliteEventStore}
    (stops : StopsRepeatedly store after) (all : AllAccepted store) :
    AllAccepted after ∧ after.taskIds.Perm store.taskIds ∧
      ∀ taskId state, Accepted store taskId state →
        ∃ next, Accepted after taskId next ∧ closedState next = closedState state ∧
          closedKinds (kindsOf (after.rowsOf taskId)) =
            closedKinds (kindsOf (store.rowsOf taskId)) := by
  induction stops with
  | refl =>
    exact ⟨all, List.Perm.refl _, fun taskId state accepted => ⟨state, accepted, rfl, rfl⟩⟩
  | @tail middle last _ stop ih =>
    obtain ⟨allMiddle, tasks, each⟩ := ih
    obtain ⟨env, world, maxTasks, later, e, result⟩ := stop
    have advances : Advances middle last :=
      recover_advances (recover_ends env world middle maxTasks result)
    refine ⟨advances.all allMiddle, advances.stored_perm.trans tasks, ?_⟩
    intro taskId state accepted
    obtain ⟨next, acceptedNext, states, kinds⟩ := each taskId state accepted
    obtain ⟨final, acceptedFinal, statesFinal, kindsFinal⟩ := advances.accepted acceptedNext
    exact ⟨final, acceptedFinal, statesFinal.trans states, kindsFinal.trans kinds⟩

theorem RecoverOk.taskState {world : World} {store after : SqliteEventStore} {maxTasks : Nat}
    {supervisor : TaskSupervisor SqliteEventStore}
    (done : RecoverOk world store maxTasks supervisor after) (taskId : TaskId)
    (state : TaskState) :
    supervisor.taskState taskId = some state ↔
      ∃ old, Accepted store taskId old ∧ state = closedState old := by
  have empty : supervisor.tasks[taskId]? = none := by
    rw [done.fields]
    exact Std.ExtTreeMap.getElem?_empty
  rw [TaskSupervisor.taskState_of_recovered empty]
  exact done.states taskId state

/-- A recovery that may start ends well, or at a rejected batch of its own. -/
theorem recover_starts {env : Env} {world later : World} {store after : SqliteEventStore}
    {maxTasks : Nat} {result : Except Stop (TaskSupervisor SqliteEventStore)}
    (ends : RecoverEnds env world store maxTasks (result, later, after)) (all : AllAccepted store)
    (positive : 0 < maxTasks) (limit : store.taskIds.length ≤ maxTasks) :
    (∃ supervisor, result = .ok supervisor) ∨
      ∃ attempt ∈ later.attempts.drop world.attempts.length, attempt.accepted = false := by
  cases ends with
  | finished => exact .inl ⟨_, rfl⟩
  | refused stop reason =>
    rcases reason with zero | unread | many
    · omega
    · exact absurd all unread
    · exact absurd limit (Nat.not_le.mpr many)
  | interrupted recovered _ _ _ _ done _ taskId state mid left _ _ fails _ final =>
    refine .inr ⟨⟨taskId, restartEvents state, false⟩, ?_, rfl⟩
    rw [final]
    simp [World.record, fails.attempts, recovering]

theorem recover_again (env : Env) (world : World) {store : SqliteEventStore} {maxTasks : Nat}
    (all : AllAccepted store) (positive : 0 < maxTasks) (limit : store.taskIds.length ≤ maxTasks)
    (terminal : ∀ taskId state, Accepted store taskId state → state.isTerminal = true) :
    ∃ supervisor, recover env world store maxTasks = (.ok supervisor, world, store) := by
  have ends := recover_cases env world store maxTasks
  generalize recover env world store maxTasks = out at ends ⊢
  have none : ∀ recovered, Collected store recovered → interruptedTasks recovered = [] := by
    intro recovered collected
    apply List.eq_nil_iff_forall_not_mem.mpr
    rintro ⟨taskId, state⟩ member
    obtain ⟨present, live⟩ := mem_interruptedTasks.mp member
    rw [terminal taskId state ((collected taskId state).mp present)] at live
    cases live
  cases ends with
  | refused stop reason =>
    rcases reason with zero | unread | many
    · omega
    · exact absurd all unread
    · exact absurd limit (Nat.not_le.mpr many)
  | interrupted recovered _ _ _ collected _ _ _ _ _ _ _ order =>
    rw [none recovered collected] at order
    simp at order
  | finished recovered _ _ _ collected after fails =>
    rw [none recovered collected] at fails
    cases fails
    exact ⟨_, rfl⟩

/-- The result of a completed recovery depends only on the closed logs of where it began. -/
theorem recover_same {env₁ env₂ : Env} {world₁ world₂ later₁ later₂ : World}
    {store cut after₁ after₂ : SqliteEventStore} {max₁ max₂ : Nat}
    {first second : TaskSupervisor SqliteEventStore} (stops : StopsRepeatedly store cut)
    (all : AllAccepted store)
    (whole : recover env₁ world₁ store max₁ = (.ok first, later₁, after₁))
    (resumed : recover env₂ world₂ cut max₂ = (.ok second, later₂, after₂)) (taskId : TaskId) :
    kindsOf (after₂.rowsOf taskId) = kindsOf (after₁.rowsOf taskId) ∧
      second.get taskId = first.get taskId := by
  obtain ⟨allCut, tasks, each⟩ := stops_advance stops all
  have done₁ := recover_ok (recover_ends env₁ world₁ store max₁ whole)
  have done₂ := recover_ok (recover_ends env₂ world₂ cut max₂ resumed)
  have advances₁ : Advances store after₁ :=
    recover_advances (recover_ends env₁ world₁ store max₁ whole)
  have advances₂ : Advances cut after₂ :=
    recover_advances (recover_ends env₂ world₂ cut max₂ resumed)
  have logged : cut.rowsOf taskId ≠ [] ↔ store.rowsOf taskId ≠ [] := by
    rw [← mem_taskIds, ← mem_taskIds]
    exact tasks.mem_iff
  by_cases empty : store.rowsOf taskId = []
  · have emptyCut : cut.rowsOf taskId = [] := by
      by_contra some
      exact logged.mp some empty
    have empty₁ : after₁.rowsOf taskId = [] := by
      by_contra some
      exact (advances₁.stored taskId).mp some empty
    have empty₂ : after₂.rowsOf taskId = [] := by
      by_contra some
      exact (advances₂.stored taskId).mp some emptyCut
    refine ⟨by rw [empty₁, empty₂], congrArg (Option.map _) (Option.ext fun state => ?_)⟩
    rw [done₁.taskState, done₂.taskState]
    constructor
    · rintro ⟨old, accepted, _⟩
      exact absurd emptyCut accepted.stored
    · rintro ⟨old, accepted, _⟩
      exact absurd empty accepted.stored
  · obtain ⟨state, accepted⟩ := all taskId empty
    obtain ⟨next, acceptedCut, states, kinds⟩ := each taskId state accepted
    have closed₁ := (done₁.completes.closed accepted).1
    have closed₂ := (done₂.completes.closed acceptedCut).1
    refine ⟨closed₂.trans (kinds.trans closed₁.symm),
      congrArg (Option.map _) (Option.ext fun found => ?_)⟩
    rw [done₁.taskState, done₂.taskState]
    constructor
    · rintro ⟨old, acceptedOld, rfl⟩
      exact ⟨state, accepted, by rw [acceptedOld.unique acceptedCut, states]⟩
    · rintro ⟨old, acceptedOld, rfl⟩
      exact ⟨next, acceptedCut, by rw [acceptedOld.unique accepted, states]⟩

/-- The loop may take the interrupted Tasks in any order. -/
theorem failInterrupted_perm {env₁ env₂ : Env} {world₁ world₂ : World}
    {store : SqliteEventStore} {maxTasks : Nat} {recovered : OrdMap TaskId TaskState}
    {order : List (TaskId × TaskState)} {first second : Process SqliteEventStore}
    (perm : order.Perm (interruptedTasks recovered))
    (sorted : exec (failInterrupted env₁ (interruptedTasks recovered))
      (recovering world₁ store maxTasks recovered) = (.ok (), first))
    (shuffled : exec (failInterrupted env₂ order)
      (recovering world₂ store maxTasks recovered) = (.ok (), second)) (taskId : TaskId) :
    kindsOf (second.supervisor.eventStore.rowsOf taskId) =
        kindsOf (first.supervisor.eventStore.rowsOf taskId) ∧
      second.supervisor.get taskId = first.supervisor.get taskId := by
  have fails₁ := failInterrupted_cases env₁ (recovering world₁ store maxTasks recovered)
    (interruptedTasks recovered)
  have fails₂ := failInterrupted_cases env₂ (recovering world₂ store maxTasks recovered) order
  rw [sorted] at fails₁
  rw [shuffled] at fails₂
  have fails₁ : FailsAll (recovering world₁ store maxTasks recovered)
    (interruptedTasks recovered) first := fails₁
  have fails₂ : FailsAll (recovering world₂ store maxTasks recovered) order second := fails₂
  have distinct := interruptedTasks_nodup recovered
  have members : taskId ∈ order.map Prod.fst ↔
      taskId ∈ (interruptedTasks recovered).map Prod.fst := (perm.map _).mem_iff
  constructor
  · by_cases listed : taskId ∈ (interruptedTasks recovered).map Prod.fst
    · obtain ⟨⟨owner, state⟩, member, rfl⟩ := List.mem_map.mp listed
      have one := (fails₁.own distinct member).1.kinds
      have two := (fails₂.own ((perm.map _).nodup_iff.mpr distinct)
        (perm.mem_iff.mpr member)).1.kinds
      exact two.trans one.symm
    · exact congrArg kindsOf
        ((fails₂.others (mt members.mp listed)).trans (fails₁.others listed).symm)
  · have states : second.supervisor.taskState taskId = first.supervisor.taskState taskId := by
      rw [fails₁.frame.1, fails₂.frame.1]
      simp only [TaskSupervisor.taskState, OrdMap.get_foldl_insert, members]
      rfl
    rw [TaskSupervisor.get, TaskSupervisor.get, states]

/-- Recovery is idempotent, and stopped recoveries resume to the result of an uninterrupted
one, in any order of the Tasks. -/
theorem recover_idempotent_resumable (store : SqliteEventStore) (maxTasks : Nat)
    (readable : Readable store) (positive : 0 < maxTasks)
    (limit : store.taskIds.length ≤ maxTasks) :
    (∀ env world supervisor later after,
      recover env world store maxTasks = (.ok supervisor, later, after) →
      ∀ env' world', ∃ again, recover env' world' after maxTasks = (.ok again, world', after) ∧
        ∀ taskId, again.get taskId = supervisor.get taskId) ∧
    (∀ cut, StopsRepeatedly store cut →
      Readable cut ∧
      (∀ env world result later after,
        recover env world cut maxTasks = (result, later, after) →
        (∀ attempt ∈ later.attempts.drop world.attempts.length, attempt.accepted = true) →
        ∃ supervisor, result = .ok supervisor) ∧
      ∀ env₁ world₁ first later₁ after₁ env₂ world₂ second later₂ after₂,
        recover env₁ world₁ store maxTasks = (.ok first, later₁, after₁) →
        recover env₂ world₂ cut maxTasks = (.ok second, later₂, after₂) →
        ∀ taskId, kindsOf (after₂.rowsOf taskId) = kindsOf (after₁.rowsOf taskId) ∧
          second.get taskId = first.get taskId) ∧
    ∀ env₁ env₂ world₁ world₂ recovered order first second,
      order.Perm (interruptedTasks recovered) →
      exec (failInterrupted env₁ (interruptedTasks recovered))
        (recovering world₁ store maxTasks recovered) = (.ok (), first) →
      exec (failInterrupted env₂ order) (recovering world₂ store maxTasks recovered) =
        (.ok (), second) →
      ∀ taskId, kindsOf (second.supervisor.eventStore.rowsOf taskId) =
          kindsOf (first.supervisor.eventStore.rowsOf taskId) ∧
        second.supervisor.get taskId = first.supervisor.get taskId := by
  have all := readable_iff.mp readable
  refine ⟨?_, ?_, ?_⟩
  · intro env world supervisor later after result env' world'
    have ends := recover_ends env world store maxTasks result
    have done := recover_ok ends
    have advances : Advances store after := recover_advances ends
    have terminal : ∀ taskId state, Accepted after taskId state → state.isTerminal = true := by
      intro taskId state accepted
      obtain ⟨old, acceptedOld⟩ := all taskId ((advances.stored taskId).mp accepted.stored)
      rw [accepted.unique (done.completes.closed acceptedOld).2]
      exact closedState_terminal old
    obtain ⟨again, repeated⟩ := recover_again env' world' (advances.all all) positive
      (advances.stored_perm.length_eq ▸ limit) terminal
    refine ⟨again, repeated, ?_⟩
    intro taskId
    have repeatedDone := recover_ok (recover_ends env' world' after maxTasks repeated)
    refine congrArg (Option.map _) (Option.ext fun state => ?_)
    rw [repeatedDone.taskState, done.taskState]
    constructor
    · rintro ⟨old, accepted, rfl⟩
      obtain ⟨first, acceptedFirst⟩ := all taskId ((advances.stored taskId).mp accepted.stored)
      refine ⟨first, acceptedFirst, ?_⟩
      rw [accepted.unique (done.completes.closed acceptedFirst).2, closedState_idempotent]
    · rintro ⟨old, accepted, rfl⟩
      exact ⟨closedState old, (done.completes.closed accepted).2,
        (closedState_idempotent old).symm⟩
  · intro cut stops
    obtain ⟨allCut, tasks, _⟩ := stops_advance stops all
    refine ⟨readable_iff.mpr allCut, ?_, ?_⟩
    · intro env world result later after recovered accepted
      rcases recover_starts (recover_ends env world cut maxTasks recovered) allCut positive
        (tasks.length_eq ▸ limit) with done | ⟨attempt, member, rejected⟩
      · exact done
      · rw [accepted attempt member] at rejected
        cases rejected
    · intro env₁ world₁ first later₁ after₁ env₂ world₂ second later₂ after₂ whole resumed
      exact recover_same stops all whole resumed
  · intro env₁ env₂ world₁ world₂ recovered order first second perm sorted shuffled
    exact failInterrupted_perm perm sorted shuffled

set_option maxRecDepth 4000 in
/-- Two queued Tasks: a second recovery appends nothing, a recovery behind one that was stopped half
way ends as the whole one does, and so does one in the other order. -/
theorem recover_idempotent_queued :
    ∃ supervisor later after,
      recover Sample.env Daemon.start Sample.pair 2 = (.ok supervisor, later, after) ∧
      (∃ again, recover Sample.env later after 2 = (.ok again, later, after) ∧
        ∀ taskId, again.get taskId = supervisor.get taskId) ∧
      (∃ stopped cut resumed last complete,
        recover Sample.failingEnv Daemon.start Sample.pair 2 =
          (.error (.err (.eventStore .unavailable)), stopped, cut) ∧
        cut.taskEvents.size ≠ Sample.pair.taskEvents.size ∧
        recover Sample.env Daemon.start cut 2 = (.ok resumed, last, complete) ∧
        ∀ taskId, kindsOf (complete.rowsOf taskId) = kindsOf (after.rowsOf taskId) ∧
          resumed.get taskId = supervisor.get taskId) ∧
      ∃ first second,
        exec (failInterrupted Sample.env (interruptedTasks Sample.interrupted))
          (recovering Daemon.start Sample.pair 2 Sample.interrupted) = (.ok (), first) ∧
        exec (failInterrupted Sample.env (interruptedTasks Sample.interrupted).reverse)
          (recovering Daemon.start Sample.pair 2 Sample.interrupted) = (.ok (), second) ∧
        ∀ taskId, kindsOf (second.supervisor.eventStore.rowsOf taskId) =
            kindsOf (first.supervisor.eventStore.rowsOf taskId) ∧
          second.supervisor.get taskId = first.supervisor.get taskId := by
  obtain ⟨repeats, resumes, reorders⟩ := recover_idempotent_resumable Sample.pair 2
    Sample.pair_readable (by decide) (by decide +kernel)
  have ran : (recover Sample.env Daemon.start Sample.pair 2).1.isOk = true := by decide +kernel
  generalize whole : recover Sample.env Daemon.start Sample.pair 2 = result at ran ⊢
  obtain ⟨_ | supervisor, later, after⟩ := result
  · cases ran
  refine ⟨supervisor, later, after, rfl, repeats _ _ _ _ _ whole Sample.env later, ?_, ?_⟩
  · have failed : Sample.failure (recover Sample.failingEnv Daemon.start Sample.pair 2).1 =
          some (.err (.eventStore .unavailable)) ∧
        (recover Sample.failingEnv Daemon.start Sample.pair 2).2.2.taskEvents.size ≠
          Sample.pair.taskEvents.size ∧
        (recover Sample.env Daemon.start
          (recover Sample.failingEnv Daemon.start Sample.pair 2).2.2 2).1.isOk = true := by
      decide +kernel
    generalize stops : recover Sample.failingEnv Daemon.start Sample.pair 2 = result at failed ⊢
    obtain ⟨stop | _, stopped, cut⟩ := result
    · obtain ⟨told, shorter, completes⟩ := failed
      cases Option.some.inj told
      generalize resumed : recover Sample.env Daemon.start cut 2 = result at completes ⊢
      obtain ⟨_ | again, last, complete⟩ := result
      · cases completes
      exact ⟨stopped, cut, again, last, complete, rfl, shorter, resumed, (resumes cut (.single
        ⟨_, _, _, _, _, stops⟩)).2.2 _ _ _ _ _ _ _ _ _ _ whole resumed⟩
    · cases failed.1
  · have done : (exec (failInterrupted Sample.env (interruptedTasks Sample.interrupted))
          (recovering Daemon.start Sample.pair 2 Sample.interrupted)).1.isOk = true ∧
        (exec (failInterrupted Sample.env (interruptedTasks Sample.interrupted).reverse)
          (recovering Daemon.start Sample.pair 2 Sample.interrupted)).1.isOk = true := by
      decide +kernel
    generalize forward : exec (failInterrupted Sample.env (interruptedTasks Sample.interrupted))
      (recovering Daemon.start Sample.pair 2 Sample.interrupted) = out at done ⊢
    generalize back : exec (failInterrupted Sample.env
      (interruptedTasks Sample.interrupted).reverse)
      (recovering Daemon.start Sample.pair 2 Sample.interrupted) = out' at done ⊢
    obtain ⟨_ | _, first⟩ := out
    · cases done.1
    obtain ⟨_ | _, second⟩ := out'
    · cases done.2
    exact ⟨first, second, rfl, rfl, reorders _ _ _ _ _ _ _ _ (List.reverse_perm _) forward back⟩

namespace Daemon

/-- In documented runs with any restarts and storage failures, the complete event list of a
Task replays to the state that the supervisor reports. -/
theorem reported_state_replays {env : Env} (fresh : Function.Injective env.uuid)
    {p : Process SqliteEventStore} (reached : Reached env Documented (.up p)) (taskId : TaskId)
    (snapshot : TaskSnapshot) (known : p.supervisor.get taskId = some snapshot) :
    ∃ events, p.supervisor.events taskId 0 = .ok events ∧
      recoverSnapshot taskId events = .ok snapshot := by
  have coherent : Coherent env p := reached.sound fresh
  obtain ⟨state, reported, rfl⟩ := Option.map_eq_some_iff.mp known
  have sequenced := coherent.logs.sequenced taskId
  refine ⟨p.supervisor.eventStore.rowsOf taskId, ?_, ?_⟩
  · simp only [TaskSupervisor.events, reported, LawfulEventStore.list_all sequenced]
    rfl
  · rw [recoverSnapshot_iff]
    exact ⟨rfl, sequenced, LawfulRecoverableStore.short sequenced,
      (reached.faithful fresh).mirrored taskId state reported⟩

end Daemon

set_option maxRecDepth 4000 in
theorem reported_state_replays_running :
    (∃ events, (Sample.stored 20 Sample.consumed).supervisor.events ⟨0⟩ 0 = .ok events ∧
      recoverSnapshot ⟨0⟩ events = .ok ⟨⟨0⟩, .running⟩) :=
  Daemon.reported_state_replays Sample.uuid_injective
    (Sample.stored_reached (by decide +kernel)) ⟨0⟩ ⟨⟨0⟩, .running⟩ (by decide +kernel)

end AiOs
