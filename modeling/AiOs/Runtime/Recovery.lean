import AiOs.Runtime.Coherence
import AiOs.Storage.Replay

/-! Restart recovery, `TaskSupervisor::recover`: replay every log, then fail every Task that
was interrupted. What it makes of a log does not depend on the other logs, so the result is
described by one function on lists of kinds. -/
namespace AiOs

open Fallible

variable {S : Type}

def restartEvents (state : TaskState) : List TaskEventKind :=
  [.taskFailed .runtimeRestarted, .stateTransitioned state .failed]

def collectRecovered (recovered : OrdMap TaskId TaskState) :
    List TaskSnapshot → Except EventStoreError (OrdMap TaskId TaskState)
  | [] => .ok recovered
  | snapshot :: rest =>
    if recovered.contains snapshot.taskId then .error .corrupt
    else collectRecovered (recovered.insert snapshot.taskId snapshot.state) rest

def interruptedTasks (recovered : OrdMap TaskId TaskState) : List (TaskId × TaskState) :=
  recovered.toList.filter (fun e => !e.2.isTerminal)

def failInterrupted [EventStore S] (env : Env) : List (TaskId × TaskState) → SupervisorM S Unit
  | [] => pure ()
  | (taskId, state) :: rest => do
    appendBatch env taskId (restartEvents state)
    update (fun s => { s with recoveredTasks := s.recoveredTasks.insert taskId .failed })
    failInterrupted env rest

/-- Recovers the public Task states and fails every Task that was not terminal. A failed
recovery leaves a store behind, with what it has appended until then. -/
def recover [EventStore S] [RecoverableEventStore S] (env : Env) (world : World) (store : S)
    (maxTasks : Nat) :
    Except Stop (TaskSupervisor S) × World × S :=
  if maxTasks = 0 then (.error (.err .capacityExceeded), world, store)
  else
    match RecoverableEventStore.recoverTaskSnapshots store with
    | .error e => (.error (.err (.eventStore e)), world, store)
    | .ok snapshots =>
      if maxTasks < snapshots.length then (.error (.err .capacityExceeded), world, store)
      else
        match collectRecovered ∅ snapshots with
        | .error e => (.error (.err (.eventStore e)), world, store)
        | .ok recovered =>
          match TaskSupervisor.withMaxTasks store maxTasks with
          | .error e => (.error (.err e), world, store)
          | .ok supervisor =>
            match exec (failInterrupted env (interruptedTasks recovered))
              ⟨world, { supervisor with recoveredTasks := recovered }⟩ with
            | (.error stop, p) => (.error stop, p.world, p.supervisor.eventStore)
            | (.ok _, p) => (.ok p.supervisor, p.world, p.supervisor.eventStore)

/-! The abstract result: one log at a time. -/

/-- A complete log with its interrupted Task failed. -/
def closedKinds (kinds : List TaskEventKind) : List TaskEventKind :=
  match replayKinds (none, false) kinds with
  | some (some state, false) => if state.isTerminal then kinds else kinds ++ restartEvents state
  | _ => kinds

def closedState (state : TaskState) : TaskState := if state.isTerminal then state else .failed

theorem closedKinds_eq {kinds : List TaskEventKind} {state : TaskState}
    (replays : Replays kinds state) :
    closedKinds kinds = if state.isTerminal then kinds else kinds ++ restartEvents state := by
  have found : replayKinds (none, false) kinds = some (some state, false) := replays
  simp only [closedKinds, found]

/-- The failure pair is legal in every state that is not terminal, also where the ordinary
table has no way to fail. -/
theorem restartEvents_continue {state : TaskState} (interrupted : state.isTerminal = false) :
    Continues state (restartEvents state) .failed := by
  cases state <;> first | rfl | cases interrupted

theorem closedState_terminal (state : TaskState) : (closedState state).isTerminal = true := by
  unfold closedState
  split
  · assumption
  · rfl

theorem closedState_idempotent (state : TaskState) :
    closedState (closedState state) = closedState state :=
  if_pos (closedState_terminal state)

/-! The loop: which Tasks it has failed when it ends. -/
section loop
variable [LawfulEventStore S]

def failedOne (p : Process S) (store : S) (taskId : TaskId) (state : TaskState) : Process S :=
  ⟨p.world.record taskId (restartEvents state) true,
    { p.supervisor with
      eventStore := store
      recoveredTasks := p.supervisor.recoveredTasks.insert taskId .failed }⟩

inductive FailsAll : Process S → List (TaskId × TaskState) → Process S → Prop where
  | nil (p : Process S) : FailsAll p [] p
  | cons {p after : Process S} {taskId : TaskId} {state : TaskState}
      {rest : List (TaskId × TaskState)} (store : S)
      (appended : Appended p.supervisor.eventStore store taskId (restartEvents state))
      (others : FailsAll (failedOne p store taskId state) rest after) :
      FailsAll p ((taskId, state) :: rest) after

/-- A loop that stops has failed the Tasks before the one whose batch was rejected. -/
def LoopEnds (env : Env) (p : Process S) (tasks : List (TaskId × TaskState)) :
    Except Stop Unit × Process S → Prop
  | (.ok _, after) => FailsAll p tasks after
  | (.error stop, after) => ∃ done taskId state rest mid e,
    tasks = done ++ (taskId, state) :: rest ∧ FailsAll p done mid ∧
      stop = .err (.eventStore e) ∧
      exec (tryAppend env taskId (restartEvents state)) mid = (.ok (.error e), after) ∧
      after = ⟨mid.world.record taskId (restartEvents state) false, mid.supervisor⟩

theorem failInterrupted_cases (env : Env) (p : Process S) (tasks : List (TaskId × TaskState)) :
    LoopEnds env p tasks (exec (failInterrupted env tasks) p) := by
  induction tasks generalizing p with
  | nil => exact .nil p
  | cons entry rest ih =>
    obtain ⟨taskId, state⟩ := entry
    unfold failInterrupted appendBatch
    rw [bind_assoc]
    rcases tryAppend_cases env p taskId (restartEvents state) with
      ⟨events, store, appended, answer⟩ | ⟨e, answer⟩
    · rw [exec_bind_ok answer]
      change LoopEnds env p _ (exec (failInterrupted env rest) (failedOne p store taskId state))
      have tail := ih (failedOne p store taskId state)
      generalize exec (failInterrupted env rest) (failedOne p store taskId state) = out at tail ⊢
      obtain ⟨result, after⟩ := out
      cases result with
      | ok _ => exact .cons store appended tail
      | error stop =>
        obtain ⟨done, task, last, others, mid, e, split, failed, stopped, answer, left⟩ := tail
        exact ⟨(taskId, state) :: done, task, last, others, mid, e, by rw [split]; rfl,
          .cons store appended failed, stopped, answer, left⟩
    · rw [exec_bind_ok answer]
      exact ⟨[], taskId, state, rest, p, e, rfl, .nil p, rfl, answer, rfl⟩

structure RestartedLog (before after : List TaskEvent) (state : TaskState) : Prop where
  kinds : kindsOf after = kindsOf before ++ restartEvents state
  grown : before <+: after
  sequenced : Sequenced before → Sequenced after

namespace FailsAll
variable {p after : Process S} {tasks : List (TaskId × TaskState)}

theorem frame (fails : FailsAll p tasks after) :
    after.supervisor = { p.supervisor with
      eventStore := after.supervisor.eventStore
      recoveredTasks := tasks.foldl (fun m e => m.insert e.1 .failed)
        p.supervisor.recoveredTasks } ∧
    World.Moved p.world after.world (tasks.map (fun e => (e.1, restartEvents e.2))) ∧
    LawfulEventStore.capacity after.supervisor.eventStore =
      LawfulEventStore.capacity p.supervisor.eventStore := by
  induction fails with
  | nil p => exact ⟨rfl, World.Moved.refl _, rfl⟩
  | cons store appended _ ih =>
    obtain ⟨same, moved, capacity⟩ := ih
    refine ⟨?_, (World.moved_accepted _ _ _).trans moved, capacity.trans appended.capacity⟩
    rw [same]
    rfl

theorem attempts (fails : FailsAll p tasks after) :
    after.world.attempts = p.world.attempts ++
      tasks.map (fun e => ⟨e.1, restartEvents e.2, true⟩) := by
  induction fails with
  | nil => simp
  | cons store appended _ ih => simp [ih, failedOne, World.record]

theorem others (fails : FailsAll p tasks after) {taskId : TaskId}
    (absent : taskId ∉ tasks.map Prod.fst) :
    LawfulEventStore.log after.supervisor.eventStore taskId =
      LawfulEventStore.log p.supervisor.eventStore taskId := by
  induction fails with
  | nil => rfl
  | cons store appended _ ih =>
    simp only [List.map_cons, List.mem_cons, not_or] at absent
    exact (ih absent.2).trans (appended.grows.others taskId absent.1)

theorem own (fails : FailsAll p tasks after) (distinct : (tasks.map Prod.fst).Nodup)
    {taskId : TaskId} {state : TaskState} (member : (taskId, state) ∈ tasks) :
    RestartedLog (LawfulEventStore.log p.supervisor.eventStore taskId)
      (LawfulEventStore.log after.supervisor.eventStore taskId) state ∧
    (LawfulEventStore.log p.supervisor.eventStore taskId).length + 2 ≤
      LawfulEventStore.capacity p.supervisor.eventStore := by
  induction fails with
  | nil => cases member
  | @cons p after first firstState rest store appended others ih =>
    simp only [List.map_cons, List.nodup_cons] at distinct
    rcases List.mem_cons.mp member with same | later
    · cases same
      have kept := others.others distinct.1
      rw [kept]
      exact ⟨⟨appended.grows.own, appended.grows.grown, appended.grows.sequenced⟩,
        appended.room nofun⟩
    · have untouched : taskId ≠ first := by
        rintro rfl
        exact distinct.1 (List.mem_map_of_mem later)
      have before : LawfulEventStore.log store taskId =
          LawfulEventStore.log p.supervisor.eventStore taskId :=
        appended.grows.others taskId untouched
      obtain ⟨restarted, room⟩ := ih distinct.2 later
      simp only [failedOne] at restarted room
      rw [before] at restarted room
      exact ⟨restarted, appended.capacity ▸ room⟩

end FailsAll

end loop

end AiOs
