import AiOs.Api.Aiosd
import AiOs.Storage.Restart

/-! The life of `aiosd` on one database: it is started, serves connections, ends and is started
again, any number of times. What it writes to the log of a Task is one of a few short stories, and
so it can always be started on what it has left. -/
namespace AiOs.LocalApi

open Fallible

def defaultMaxEventsPerTask : Nat := 10000
def defaultMaxTasks : Nat := 10000

inductive Life (env : Env) (uuidText : Nat → String) (decoder : Decoder) :
    Daemon SqliteEventStore → Prop where
  | created {store : SqliteEventStore}
      (opened : SqliteEventStore.openEmpty defaultMaxEventsPerTask = .ok store) :
      Life env uuidText decoder (.down Daemon.start store)
  | booted {world later : World} {store after : SqliteEventStore}
      {supervisor : TaskSupervisor SqliteEventStore}
      (life : Life env uuidText decoder (.down world store))
      (result : recover env world store defaultMaxTasks = (.ok supervisor, later, after)) :
      Life env uuidText decoder (.up ⟨later, supervisor⟩)
  | refused {world later : World} {store after : SqliteEventStore} {stop : Stop}
      (life : Life env uuidText decoder (.down world store))
      (result : recover env world store defaultMaxTasks = (.error stop, later, after)) :
      Life env uuidText decoder (.down later after)
  | served {p : Process SqliteEventStore} (life : Life env uuidText decoder (.up p))
      (connections : List Connection) :
      Life env uuidText decoder (.up (serveForever uuidText env decoder .default connections p).2)
  | ended {p : Process SqliteEventStore} (life : Life env uuidText decoder (.up p)) :
      Life env uuidText decoder (.down p.world p.supervisor.eventStore)

def queuedStory : List TaskEventKind :=
  [.submitted, .stateTransitioned .submitted .validating, .stateTransitioned .validating .queued]

def runningStory : List TaskEventKind := queuedStory ++ [.stateTransitioned .queued .running]

/-- All that the log of a Task in this state may say. -/
inductive Story : TaskState → List TaskEventKind → Prop where
  | rejected (count : Nat) : Story .rejected [.submitted, .stateTransitioned .submitted .validating,
      .validationFailed count, .stateTransitioned .validating .rejected]
  | queued : Story .queued queuedStory
  | running : Story .running runningStory
  | succeeded : Story .succeeded (runningStory ++ [.stateTransitioned .running .succeeded])
  | failed : Story .failed (runningStory ++ [.stateTransitioned .running .failed])
  | withdrawn : Story .cancelled (queuedStory ++ [.stateTransitioned .queued .cancelled])
  | cancelled : Story .cancelled (runningStory ++ [.stateTransitioned .running .cancelled])
  | forgotten : Story .failed (queuedStory ++ restartEvents .queued)
  | interrupted : Story .failed (runningStory ++ restartEvents .running)

namespace Story
variable {state next : TaskState} {kinds : List TaskEventKind}

theorem replays (story : Story state kinds) : Replays kinds state := by
  cases story <;> rfl

theorem length_le (story : Story state kinds) : kinds.length ≤ 6 := by
  cases story <;> simp [queuedStory, runningStory, restartEvents]

/-- A Task that has not ended waits or runs. -/
theorem live (story : Story state kinds) (going : state.isTerminal = false) :
    state = .queued ∧ kinds = queuedStory ∨ state = .running ∧ kinds = runningStory := by
  cases story with
  | queued => exact .inl ⟨rfl, rfl⟩
  | running => exact .inr ⟨rfl, rfl⟩
  | rejected => cases going
  | succeeded => cases going
  | failed => cases going
  | withdrawn => cases going
  | cancelled => cases going
  | forgotten => cases going
  | interrupted => cases going

theorem launch (story : Story state kinds) (startable : state.canTransitionTo .running = true) :
    Story .running (kinds ++ [.stateTransitioned state .running]) := by
  rcases story.live (TaskState.not_terminal_of_transition startable) with ⟨rfl, rfl⟩ | ⟨rfl, rfl⟩
  · exact .running
  · cases startable

theorem finish (story : Story state kinds) (allowed : state.canTransitionTo next = true)
    (terminal : next.isTerminal = true) :
    Story next (kinds ++ [.stateTransitioned state next]) := by
  rcases story.live (TaskState.not_terminal_of_transition allowed) with ⟨rfl, rfl⟩ | ⟨rfl, rfl⟩
  · cases next with
    | cancelled => exact .withdrawn
    | submitted => cases terminal
    | validating => cases terminal
    | queued => cases terminal
    | running => cases terminal
    | waitingApproval => cases terminal
    | rejected => cases allowed
    | succeeded => cases allowed
    | failed => cases allowed
  · cases next with
    | cancelled => exact .cancelled
    | succeeded => exact .succeeded
    | failed => exact .failed
    | submitted => cases terminal
    | validating => cases terminal
    | queued => cases terminal
    | running => cases terminal
    | waitingApproval => cases terminal
    | rejected => cases allowed

theorem restart (story : Story state kinds) (going : state.isTerminal = false) :
    Story .failed (kinds ++ restartEvents state) := by
  rcases story.live going with ⟨rfl, rfl⟩ | ⟨rfl, rfl⟩
  · exact .forgotten
  · exact .interrupted

end Story

theorem submission_story (valid : Except ValidationErrors Unit) :
    Story (submissionEvents valid).1 (submissionEvents valid).2 := by
  cases valid with
  | ok _ => exact .queued
  | error errors => exact .rejected _

/-- The database of a daemon that is not running. -/
structure Shelved (store : SqliteEventStore) : Prop where
  told : ∀ taskId, LawfulEventStore.log store taskId = [] ∨
    ∃ state, Story state (kindsOf (LawfulEventStore.log store taskId))
  few : (LawfulRecoverableStore.stored store).length ≤ defaultMaxTasks
  capacity : LawfulEventStore.capacity store = defaultMaxEventsPerTask

/-- A daemon at work. It knows exactly the Tasks that are stored. -/
structure Working (p : Process SqliteEventStore) : Prop where
  pending : p.supervisor.pendingOperations = ∅
  approved : p.supervisor.approvedOperations = ∅
  told : ∀ taskId state, p.supervisor.taskState taskId = some state → Story state (p.kinds taskId)
  stored : ∀ taskId, p.kinds taskId ≠ [] → ∃ state, p.supervisor.taskState taskId = some state
  few : p.supervisor.tasks.size + p.supervisor.recoveredTasks.size ≤ p.supervisor.maxTasks
  limit : p.supervisor.maxTasks = defaultMaxTasks
  capacity : LawfulEventStore.capacity p.supervisor.eventStore = defaultMaxEventsPerTask

namespace Working
variable {env : Env} {p after : Process SqliteEventStore}

theorem quiet (working : Working p) (quiet : Quiet p after) : Working after := by
  obtain ⟨same, _⟩ := quiet
  obtain ⟨world, supervisor⟩ := after
  cases same
  exact ⟨working.pending, working.approved, working.told, working.stored, working.few,
    working.limit, working.capacity⟩

theorem revised {taskId : TaskId} {record : TaskRecord} {batch : List TaskEventKind}
    (working : Working p) (pending : after.supervisor.pendingOperations = ∅)
    (approved : after.supervisor.approvedOperations = ∅)
    (tasks : after.supervisor.tasks = p.supervisor.tasks.insert taskId record)
    (recovered : after.supervisor.recoveredTasks = p.supervisor.recoveredTasks)
    (maxTasks : after.supervisor.maxTasks = p.supervisor.maxTasks)
    (appended : Appended p.supervisor.eventStore after.supervisor.eventStore taskId batch)
    (few : after.supervisor.tasks.size + p.supervisor.recoveredTasks.size ≤ p.supervisor.maxTasks)
    (story : Story record.state (p.kinds taskId ++ batch)) : Working after := by
  have own : after.kinds taskId = p.kinds taskId ++ batch := appended.grown.own
  have others : ∀ other, other ≠ taskId → after.kinds other = p.kinds other :=
    appended.grown.others
  have known : after.supervisor.taskState taskId = some record.state := taskState_own tasks
  have same : ∀ other, other ≠ taskId →
      after.supervisor.taskState other = p.supervisor.taskState other :=
    fun other distinct => taskState_other p.supervisor tasks recovered distinct
  refine ⟨pending, approved, ?_, ?_, ?_, maxTasks.trans working.limit, ?_⟩
  · intro other state reported
    by_cases here : other = taskId
    · subst here
      cases Option.some.inj (known.symm.trans reported)
      exact own ▸ story
    · rw [same other here] at reported
      exact others other here ▸ working.told other state reported
  · intro other logged
    by_cases here : other = taskId
    · exact ⟨_, here ▸ known⟩
    · rw [others other here] at logged
      rw [same other here]
      exact working.stored other logged
  · rw [recovered, maxTasks]
    exact few
  · exact appended.capacity.trans working.capacity

theorem admits (coherent : Coherent env p) (working : Working p) {spec : TaskSpec}
    (admits : Admits env p spec after) : Working after := by
  obtain ⟨store, unused, room, appended⟩ := admits
  have new : p.supervisor.tasks[(⟨env.uuid p.world.ids⟩ : TaskId)]? = none := coherent.unused_task.1
  have blank : p.kinds ⟨env.uuid p.world.ids⟩ = [] := by
    rw [Process.kinds, coherent.unused_log]
    rfl
  refine working.revised working.pending working.approved rfl rfl rfl appended ?_ ?_
  · dsimp only
    rw [OrdMap.size_insert_new _ new]
    omega
  · rw [blank]
    exact submission_story spec.validate

theorem launches (working : Working p) {taskId : TaskId} (launches : Launches env p taskId after) :
    Working after := by
  obtain ⟨store, record, found, startable, appended⟩ := launches
  have told := working.told taskId record.state (TaskSupervisor.taskState_of_record found)
  refine working.revised working.pending working.approved rfl rfl rfl appended ?_ ?_
  · dsimp only
    rw [OrdMap.size_insert_old _ found]
    exact working.few
  · exact told.launch startable

/-- Without approvals there is nothing to revoke at the end of a Task. -/
theorem finishes (working : Working p) {taskId : TaskId} {next : TaskState}
    (finishes : Finishes p taskId next none after) : Working after := by
  obtain ⟨store, record, found, allowed, terminal, appended⟩ := finishes
  have told := working.told taskId record.state (TaskSupervisor.taskState_of_record found)
  have nothing : p.supervisor.revocationEvents taskId = [] := by
    rw [TaskSupervisor.revocationEvents, working.pending, working.approved]
    rfl
  have batch : finishedEvents p taskId record.state next none =
      [.stateTransitioned record.state next] := by
    rw [finishedEvents, nothing]
    rfl
  have ids : p.supervisor.pendingIds taskId = [] := by
    rw [TaskSupervisor.pendingIds, working.pending]
    rfl
  have same := TaskSupervisor.invalidateApprovals_eq p.supervisor taskId
  rw [ids] at same
  rw [batch] at appended
  refine working.revised ?_ ?_ rfl ?_ ?_ appended ?_ (told.finish allowed terminal)
  · rw [same]
    exact working.pending
  · rw [same]
    dsimp only
    rw [working.approved]
    rfl
  · rw [same]
  · rw [same]
  · dsimp only
    rw [OrdMap.size_insert_old _ found]
    exact working.few

theorem call (coherent : Coherent env p) (working : Working p) {call : Call}
    (known : Local p call) : Working (call.run env p).2 := by
  obtain ⟨start, closed, mid, began, among, closes, effect⟩ := call_effects env p coherent.orderly call
  have none_expired : call.expired env p = [] := by
    cases call <;> first | rfl | exact known.elim
  rw [none_expired, List.sublist_nil] at among
  subst among
  cases closes
  have there := working.quiet began
  have coherent := coherent.quiet began
  generalize (call.run env p).2 = after at effect
  cases effect with
  | idle quiet => exact there.quiet quiet
  | admits admits => exact there.admits coherent admits
  | launches _ launches => exact there.launches launches
  | allows => exact known.elim
  | refuses => exact known.elim
  | asks => exact known.elim
  | grants => exact known.elim
  | denies => exact known.elim
  | forgets => exact known.elim
  | consumes => exact known.elim
  | finishes ends finishes =>
    rcases ends with ⟨_, _, rfl⟩ | ⟨_, _, rfl⟩ | ⟨rfl, _, _⟩ | ⟨_, _, rfl⟩
    · exact there.finishes finishes
    · exact there.finishes finishes
    · exact known.elim
    · exact there.finishes finishes

theorem shelved (working : Working p) : Shelved p.supervisor.eventStore where
  told taskId := by
    by_cases logged : p.kinds taskId = []
    · exact .inl (List.map_eq_nil_iff.mp logged)
    · obtain ⟨state, reported⟩ := working.stored taskId logged
      exact .inr ⟨state, working.told taskId state reported⟩
  few := by
    have known : (LawfulRecoverableStore.stored p.supervisor.eventStore).length ≤
        p.supervisor.tasks.size + p.supervisor.recoveredTasks.size := by
      refine OrdMap.length_le_of_found (LawfulRecoverableStore.stored_nodup _) ?_
      intro taskId member
      have logged : p.kinds taskId ≠ [] := by
        intro blank
        exact LawfulRecoverableStore.mem_stored.mp member (List.map_eq_nil_iff.mp blank)
      obtain ⟨state, reported⟩ := working.stored taskId logged
      cases found : p.supervisor.tasks[taskId]? with
      | some record => exact .inl ⟨record, rfl⟩
      | none =>
        rw [TaskSupervisor.taskState_of_recovered found] at reported
        exact .inr ⟨state, reported⟩
    have few := working.few
    rw [working.limit] at few
    exact Nat.le_trans known few
  capacity := working.capacity

end Working

namespace Shelved
variable {env : Env} {world later : World} {store after : SqliteEventStore}

theorem accepted (shelved : Shelved store) {taskId : TaskId}
    (sequenced : Sequenced (LawfulEventStore.log store taskId))
    (logged : LawfulEventStore.log store taskId ≠ []) :
    ∃ state, Accepted store taskId state ∧
      Story state (kindsOf (LawfulEventStore.log store taskId)) := by
  rcases shelved.told taskId with blank | ⟨state, story⟩
  · exact absurd blank logged
  · exact ⟨state, accepted_iff.mpr ⟨sequenced, story.replays⟩, story⟩

theorem story (shelved : Shelved store) {taskId : TaskId} {state : TaskState}
    (accepted : Accepted store taskId state) :
    Story state (kindsOf (LawfulEventStore.log store taskId)) := by
  obtain ⟨sequenced, replays⟩ := accepted_iff.mp accepted
  obtain ⟨other, _, story⟩ := shelved.accepted sequenced accepted.stored
  rwa [replays.unique story.replays]

/-- What a recovery does to a log, it does to its story. -/
theorem advances (shelved : Shelved store) (advances : Advances store after)
    (capacity : LawfulEventStore.capacity after = LawfulEventStore.capacity store) :
    Shelved after where
  told taskId := by
    rcases advances taskId with same | ⟨state, accepted, live, restarted⟩
    · rw [same]
      exact shelved.told taskId
    · refine .inr ⟨.failed, ?_⟩
      rw [restarted.kinds]
      exact (shelved.story accepted).restart live
  few := by
    rw [advances.stored_perm.length_eq]
    exact shelved.few
  capacity := capacity.trans shelved.capacity

theorem working {supervisor : TaskSupervisor SqliteEventStore} (shelved : Shelved store)
    (done : RecoverOk world store defaultMaxTasks supervisor after) (advances : Advances store after)
    (capacity : LawfulEventStore.capacity after = LawfulEventStore.capacity store) :
    Working ⟨later, supervisor⟩ := by
  obtain ⟨_, all, _, _, completes, fields, states⟩ := done
  have store_after : supervisor.eventStore = after := by rw [fields]; rfl
  have empty : ∀ taskId : TaskId, supervisor.tasks[taskId]? = none := by
    intro taskId
    rw [fields]
    exact Std.ExtTreeMap.getElem?_empty
  have reports : ∀ taskId : TaskId, supervisor.taskState taskId = supervisor.recoveredTasks[taskId]? :=
    fun taskId => TaskSupervisor.taskState_of_recovered (empty taskId)
  refine ⟨by rw [fields]; rfl, by rw [fields]; rfl, ?_, ?_, ?_, by rw [fields]; rfl, ?_⟩
  · intro taskId state reported
    rw [reports] at reported
    obtain ⟨old, accepted, rfl⟩ := (states taskId state).mp reported
    have told := shelved.story accepted
    have result := completes taskId old accepted
    change Story _ (kindsOf (LawfulEventStore.log supervisor.eventStore taskId))
    rw [store_after]
    unfold closedState
    split
    · rename_i ended
      rw [if_pos ended] at result
      rwa [result]
    · rename_i going
      rw [if_neg going] at result
      rw [result.kinds]
      exact told.restart (Bool.eq_false_iff.mpr going)
  · intro taskId logged
    have stored : LawfulEventStore.log store taskId ≠ [] := by
      refine (advances.stored taskId).mp ?_
      intro blank
      apply logged
      change kindsOf (LawfulEventStore.log supervisor.eventStore taskId) = []
      rw [store_after, blank]
      rfl
    obtain ⟨state, accepted⟩ := all taskId stored
    rw [reports]
    exact ⟨_, (states taskId _).mpr ⟨state, accepted, rfl⟩⟩
  · have few : supervisor.recoveredTasks.size ≤ (LawfulRecoverableStore.stored store).length := by
      apply OrdMap.size_le_of_keys
      intro taskId state found
      obtain ⟨old, accepted, _⟩ := (states taskId state).mp found
      exact LawfulRecoverableStore.mem_stored.mpr accepted.stored
    have none : supervisor.tasks.size = 0 := by
      rw [fields]
      rfl
    have limit : supervisor.maxTasks = defaultMaxTasks := by
      rw [fields]
      rfl
    have bound := shelved.few
    dsimp only
    omega
  · dsimp only
    rw [store_after]
    exact capacity.trans shelved.capacity

end Shelved

theorem recover_capacity {env : Env} {world : World} {store : SqliteEventStore} {maxTasks : Nat}
    {out : Except Stop (TaskSupervisor SqliteEventStore) × World × SqliteEventStore}
    (ends : RecoverEnds env world store maxTasks out) :
    LawfulEventStore.capacity out.2.2 = LawfulEventStore.capacity store := by
  cases ends with
  | refused stop reason => rfl
  | interrupted recovered _ _ _ _ done rest _ _ mid after _ order fails _ left =>
    rw [left]
    exact fails.frame.2.2
  | finished recovered _ _ _ _ after fails => exact fails.frame.2.2

/-- What holds of the daemon all its life. -/
def Lived : Daemon SqliteEventStore → Prop
  | .up p => Working p
  | .down _ store => Shelved store

namespace Life
variable {env : Env} {uuidText : Nat → String} {decoder : Decoder} {d : Daemon SqliteEventStore}

/-- Every life is a run of the daemon with no calls but those of the local API. -/
theorem reached (fresh : Function.Injective env.uuid) (life : Life env uuidText decoder d) :
    Daemon.Reached env Local d := by
  induction life with
  | @created store opened =>
    have same : store = Sample.database defaultMaxEventsPerTask := by
      cases opened
      rfl
    exact ⟨store, same ▸ Sample.database_empty _, .refl⟩
  | booted _ result ih =>
    obtain ⟨store, empty, run⟩ := ih
    exact ⟨store, empty, run.tail (.recovered result)⟩
  | refused _ result ih =>
    obtain ⟨store, empty, run⟩ := ih
    exact ⟨store, empty, run.tail (.unrecovered result)⟩
  | served _ connections ih =>
    have kept := serveForever_reached fresh uuidText decoder .default connections
      (fun _ _ known => known) ih
    rw [kept.1]
    exact kept.2
  | ended _ ih =>
    obtain ⟨store, empty, run⟩ := ih
    exact ⟨store, empty, run.tail (.crash _)⟩

theorem runCalls_working (fresh : Function.Injective env.uuid) {p : Process SqliteEventStore}
    {calls : List Call} (known : ∀ call ∈ calls, Local p call)
    (coherent : Coherent env p) (working : Working p) :
    Working (Daemon.runCalls env p calls) := by
  induction calls generalizing p with
  | nil => exact working
  | cons call rest ih =>
    have first := known call List.mem_cons_self
    refine ih ?_ (Coherent.call fresh coherent call) (working.call coherent first)
    exact fun other member => known other (List.mem_cons_of_mem _ member)

theorem lived (fresh : Function.Injective env.uuid) (life : Life env uuidText decoder d) :
    Lived d := by
  induction life with
  | @created store opened =>
    have same : store = Sample.database defaultMaxEventsPerTask := by
      cases opened
      rfl
    have blank : ∀ taskId, LawfulEventStore.log store taskId = [] := same ▸ Sample.database_empty _
    have none_stored : LawfulRecoverableStore.stored store = [] := by
      apply List.eq_nil_iff_forall_not_mem.mpr
      intro taskId member
      exact LawfulRecoverableStore.mem_stored.mp member (blank taskId)
    refine ⟨fun taskId => .inl (blank taskId), ?_, ?_⟩
    · rw [none_stored]
      exact Nat.zero_le _
    · rw [same]
      rfl
  | @booted world later store after supervisor _ result ih =>
    have ends := recover_cases env world store defaultMaxTasks
    rw [result] at ends
    exact Shelved.working ih (recover_ok ends) (recover_advances ends) (recover_capacity ends)
  | @refused world later store after stop _ result ih =>
    have ends := recover_cases env world store defaultMaxTasks
    rw [result] at ends
    exact Shelved.advances ih (recover_advances ends) (recover_capacity ends)
  | @served p life connections ih =>
    have there := life.reached fresh
    have kept := serveForever_reached fresh uuidText decoder .default connections
      (fun _ _ known => known) there
    rw [kept.1]
    refine runCalls_working fresh ?_ (there.sound fresh) ih
    intro call member
    obtain ⟨connection, _, asked⟩ := List.mem_filterMap.mp member
    exact local_connection asked
  | ended _ ih => exact Working.shelved ih

/-- Whatever connections carried and however often the daemon was restarted, every log is one of
the stories, and a Task is reported in a state exactly when its log tells the story of it. -/
theorem logs_are_stories (fresh : Function.Injective env.uuid) (life : Life env uuidText decoder d)
    (taskId : TaskId) :
    (d.kinds taskId = [] ∨ ∃ state, Story state (d.kinds taskId)) ∧
      ∀ p, d = .up p → ∀ state,
        p.supervisor.taskState taskId = some state ↔ Story state (p.kinds taskId) := by
  have lived := life.lived fresh
  cases d with
  | down world store =>
    refine ⟨?_, nofun⟩
    rcases Shelved.told lived taskId with blank | told
    · refine .inl ?_
      change kindsOf (LawfulEventStore.log store taskId) = []
      rw [blank]
      rfl
    · exact .inr told
  | up p =>
    have working : Working p := lived
    constructor
    · by_cases blank : p.kinds taskId = []
      · exact .inl blank
      · obtain ⟨state, reported⟩ := working.stored taskId blank
        exact .inr ⟨state, working.told taskId state reported⟩
    · rintro _ ⟨⟩ state
      refine ⟨working.told taskId state, fun story => ?_⟩
      have logged : p.kinds taskId ≠ [] := by
        intro blank
        rw [blank] at story
        exact not_replays_nil _ story.replays
      obtain ⟨other, reported⟩ := working.stored taskId logged
      rw [reported, (working.told taskId other reported).replays.unique story.replays]

/-- The daemon can always be started again. With a storage that works, a recovery of what it has
left succeeds: it knows the Tasks that are stored, and all of them have ended. -/
theorem restarts (fresh : Function.Injective env.uuid) (calm : ∀ i, (env.io i).Calm)
    {world : World} {store : SqliteEventStore}
    (life : Life env uuidText decoder (.down world store)) :
    ∃ supervisor later after,
      recover env world store defaultMaxTasks = (.ok supervisor, later, after) ∧
      ∀ taskId, (LawfulEventStore.log store taskId ≠ [] ↔
          ∃ state, supervisor.taskState taskId = some state) ∧
        ∀ state, supervisor.taskState taskId = some state → state.isTerminal = true := by
  have shelved : Shelved store := life.lived fresh
  have archived : Daemon.Archived env world store := (life.reached fresh).sound fresh
  have all : AllAccepted store := by
    intro taskId logged
    obtain ⟨state, accepted, _⟩ := shelved.accepted (archived.logs.sequenced taskId) logged
    exact ⟨state, accepted⟩
  have room : ∀ taskId state, Accepted store taskId state → state.isTerminal = false →
      (LawfulEventStore.log store taskId).length + 2 ≤ LawfulEventStore.capacity store := by
    intro taskId state accepted _
    have short := (shelved.story accepted).length_le
    rw [kindsOf, List.length_map] at short
    rw [shelved.capacity, defaultMaxEventsPerTask]
    omega
  have bounded : LawfulEventStore.capacity store < 2 ^ 63 := by
    rw [shelved.capacity]
    decide
  obtain ⟨supervisor, later, after, result⟩ :=
    recover_calm calm world bounded (by decide) all shelved.few room
  refine ⟨supervisor, later, after, result, fun taskId => ?_⟩
  have ends := recover_cases env world store defaultMaxTasks
  rw [result] at ends
  have done := recover_ok ends
  refine ⟨⟨fun logged => ?_, ?_⟩, ?_⟩
  · obtain ⟨state, accepted⟩ := all taskId logged
    exact ⟨_, (done.taskState taskId _).mpr ⟨state, accepted, rfl⟩⟩
  · rintro ⟨state, reported⟩
    obtain ⟨old, accepted, _⟩ := (done.taskState taskId state).mp reported
    exact accepted.stored
  · intro state reported
    obtain ⟨old, _, rfl⟩ := (done.taskState taskId state).mp reported
    exact closedState_terminal old

end Life

namespace Sample

def firstStore : SqliteEventStore := AiOs.Sample.database defaultMaxEventsPerTask

theorem first_boot : recover AiOs.Sample.env Daemon.start firstStore defaultMaxTasks =
    (.ok (TaskSupervisor.empty firstStore defaultMaxTasks), Daemon.start, firstStore) := by
  rfl

def firstStart : Process SqliteEventStore :=
  ⟨Daemon.start, TaskSupervisor.empty firstStore defaultMaxTasks⟩

theorem firstStart_lived :
    Life AiOs.Sample.env hyphenated (knowing AiOs.Sample.spec) (.up firstStart) :=
  .booted (.created rfl) first_boot

def firstLife : Process SqliteEventStore :=
  (serveForever hyphenated AiOs.Sample.env (knowing AiOs.Sample.spec) .default threeConnections
    firstStart).2

theorem serveForever_first :
    serveForever hyphenated AiOs.Sample.env (knowing AiOs.Sample.spec) .default threeConnections
      firstStart = (none, Daemon.runCalls AiOs.Sample.env firstStart [.submit AiOs.Sample.spec]) := by
  have served := (serveForever_reached AiOs.Sample.uuid_injective hyphenated
    (knowing AiOs.Sample.spec) .default threeConnections (fun _ _ known => known)
    (firstStart_lived.reached AiOs.Sample.uuid_injective)).1
  rw [callsOf_three] at served
  exact served

theorem firstLife_eq :
    firstLife = Daemon.runCalls AiOs.Sample.env firstStart [.submit AiOs.Sample.spec] := by
  rw [firstLife, serveForever_first]

theorem firstLife_lived :
    Life AiOs.Sample.env hyphenated (knowing AiOs.Sample.spec) (.up firstLife) := by
  have lived := Life.served firstStart_lived threeConnections
  rw [serveForever_first] at lived
  rw [firstLife_eq]
  exact lived

end Sample

theorem logs_are_stories_first :
    Sample.firstLife.supervisor.taskState ⟨0⟩ = some .queued ∧
      Story .queued (Sample.firstLife.kinds ⟨0⟩) := by
  have known : Sample.firstLife.supervisor.taskState ⟨0⟩ = some .queued := by
    rw [Sample.firstLife_eq]
    decide +kernel
  exact ⟨known, ((Life.logs_are_stories AiOs.Sample.uuid_injective Sample.firstLife_lived ⟨0⟩).2 _ rfl
    .queued).mp known⟩

/-- The queued Task is found again, and has ended. -/
theorem restarts_first :
    ∃ supervisor later after, recover AiOs.Sample.env Sample.firstLife.world
        Sample.firstLife.supervisor.eventStore defaultMaxTasks = (.ok supervisor, later, after) ∧
      ∃ state, supervisor.taskState ⟨0⟩ = some state ∧ state.isTerminal = true := by
  obtain ⟨supervisor, later, after, result, tasks⟩ :=
    Life.restarts AiOs.Sample.uuid_injective AiOs.Sample.env_calm (.ended Sample.firstLife_lived)
  have logged : LawfulEventStore.log Sample.firstLife.supervisor.eventStore ⟨0⟩ ≠ [] := by
    rw [Sample.firstLife_eq]
    decide +kernel
  obtain ⟨state, reported⟩ := (tasks ⟨0⟩).1.mp logged
  exact ⟨supervisor, later, after, result, state, reported, (tasks ⟨0⟩).2 state reported⟩

end AiOs.LocalApi
