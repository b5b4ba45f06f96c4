import Mathlib.Data.List.Perm.Subperm
import AiOs.Runtime.Daemon

/-! The submission registry: the Tasks, the recovered Tasks and the index by idempotency key.
The three maps agree in every supervisor, on any store, and a retried submission finds the
Task of the first one. -/
namespace AiOs

open Fallible

variable {S : Type}

def TaskRecord.key (record : TaskRecord) : String := record.spec.idempotencyKey

/-- The index leads to every Task by its key, and the registry keeps to its limit. -/
structure Registered (s : TaskSupervisor S) : Prop where
  indexed : s.idempotencyIndex.Indexes s.tasks TaskRecord.key
  bounded : s.tasks.size + s.recoveredTasks.size ≤ s.maxTasks

/-- What stays of a registry: every stored specification and every entry of the index. -/
structure Retains (s after : TaskSupervisor S) : Prop where
  specs : ∀ (taskId : TaskId) (record : TaskRecord), s.tasks[taskId]? = some record →
    ∃ found, after.tasks[taskId]? = some found ∧ found.spec = record.spec
  index : ∀ (key : String) (taskId : TaskId), s.idempotencyIndex[key]? = some taskId →
    after.idempotencyIndex[key]? = some taskId

theorem Retains.refl (s : TaskSupervisor S) : Retains s s :=
  ⟨fun _ record found => ⟨record, found, rfl⟩, fun _ _ found => found⟩

theorem Retains.trans {a b c : TaskSupervisor S} (first : Retains a b) (second : Retains b c) :
    Retains a c := by
  constructor
  · intro taskId record found
    obtain ⟨middle, there, same⟩ := first.specs taskId record found
    obtain ⟨last, here, kept⟩ := second.specs taskId middle there
    exact ⟨last, here, kept.trans same⟩
  · intro key taskId found
    exact second.index key taskId (first.index key taskId found)

/-- What one step does to the registry: nothing, a new state of one Task, or a new Task under
a new key. -/
inductive Enrols (s : TaskSupervisor S) : TaskSupervisor S → Prop where
  | same {after : TaskSupervisor S} (tasks : after.tasks = s.tasks)
      (index : after.idempotencyIndex = s.idempotencyIndex)
      (recovered : after.recoveredTasks = s.recoveredTasks) (limit : after.maxTasks = s.maxTasks) :
      Enrols s after
  | revised {after : TaskSupervisor S} {taskId : TaskId} {record revised : TaskRecord}
      (found : s.tasks[taskId]? = some record)
      (tasks : after.tasks = s.tasks.insert taskId revised) (spec : revised.spec = record.spec)
      (index : after.idempotencyIndex = s.idempotencyIndex)
      (recovered : after.recoveredTasks = s.recoveredTasks) (limit : after.maxTasks = s.maxTasks) :
      Enrols s after
  | admitted {after : TaskSupervisor S} {taskId : TaskId} {record : TaskRecord}
      (tasks : after.tasks = s.tasks.insert taskId record)
      (unused : s.idempotencyIndex[record.key]? = none) (new : s.tasks[taskId]? = none)
      (room : s.tasks.size + s.recoveredTasks.size < s.maxTasks)
      (index : after.idempotencyIndex = s.idempotencyIndex.insert record.key taskId)
      (recovered : after.recoveredTasks = s.recoveredTasks) (limit : after.maxTasks = s.maxTasks) :
      Enrols s after

theorem Enrols.retains {s after : TaskSupervisor S} (enrols : Enrols s after) :
    Retains s after := by
  cases enrols with
  | same tasks index _ _ =>
    constructor
    · rw [tasks]
      exact (Retains.refl s).specs
    · rw [index]
      exact (Retains.refl s).index
  | @revised taskId record revised found tasks spec index _ _ =>
    constructor
    · intro other stored there
      rw [tasks, OrdMap.get_insert]
      split
      · rename_i same
        subst same
        cases Option.some.inj (found.symm.trans there)
        exact ⟨revised, rfl, spec⟩
      · exact ⟨stored, there, rfl⟩
    · rw [index]
      exact (Retains.refl s).index
  | @admitted taskId record tasks unused new _ index _ _ =>
    constructor
    · intro other stored there
      have distinct : ¬ taskId = other := by
        rintro rfl
        rw [new] at there
        cases there
      rw [tasks, OrdMap.get_insert, if_neg distinct]
      exact ⟨stored, there, rfl⟩
    · intro key other held
      have distinct : ¬ record.key = key := by
        rintro rfl
        rw [unused] at held
        cases held
      rw [index, OrdMap.get_insert, if_neg distinct]
      exact held

theorem Registered.enrols {s after : TaskSupervisor S} (registered : Registered s)
    (enrols : Enrols s after) : Registered after := by
  cases enrols with
  | same tasks index recovered limit =>
    constructor
    · rw [tasks, index]
      exact registered.indexed
    · rw [tasks, recovered, limit]
      exact registered.bounded
  | revised found tasks spec index recovered limit =>
    constructor
    · rw [tasks, index]
      exact registered.indexed.revise found (congrArg TaskSpec.idempotencyKey spec)
    · rw [tasks, recovered, limit, OrdMap.size_insert_old _ found]
      exact registered.bounded
  | admitted tasks unused new room index recovered limit =>
    constructor
    · rw [tasks, index]
      exact registered.indexed.admit unused new
    · rw [tasks, recovered, limit, OrdMap.size_insert_new _ new]
      omega

section runs
variable [LawfulEventStore S] {env : Env} {p after : Process S}

theorem Closes.enrols {id : ApprovalId} {closing : PendingOperation → TaskEventKind}
    (closes : Closes p id closing after) : Enrols p.supervisor after.supervisor := by
  obtain ⟨store, pending, record, waiting, found, failable, appended⟩ := closes
  exact .revised found rfl rfl rfl rfl rfl

theorem Effect.enrols {call : Call} (orderly : Orderly env p) (effect : Effect env p call after) :
    Enrols p.supervisor after.supervisor := by
  cases effect with
  | idle quiet =>
    rw [quiet.same]
    exact .same rfl rfl rfl rfl
  | admits admits =>
    obtain ⟨store, unused, room, appended⟩ := admits
    exact .admitted rfl unused orderly.unused_task.1 room rfl rfl rfl
  | launches _ launches =>
    obtain ⟨store, record, found, startable, appended⟩ := launches
    exact .revised found rfl rfl rfl rfl rfl
  | allows notes | refuses notes =>
    cases notes
    exact .same rfl rfl rfl rfl
  | asks asks =>
    obtain ⟨store, record, found, running, valid, decided, single, unindexed, room, appended⟩ :=
      asks
    exact .revised found rfl rfl rfl rfl rfl
  | grants grants =>
    obtain ⟨store, pending, record, entry, waiting, found, resumable, registered, early,
      appended⟩ := grants
    exact .revised found rfl rfl rfl rfl rfl
  | denies denies => exact denies.enrols
  | forgets forgets =>
    rw [forgets.same]
    exact .same rfl rfl rfl rfl
  | consumes consumes =>
    cases consumes
    exact .same rfl rfl rfl rfl
  | finishes _ finishes =>
    obtain ⟨store, record, found, allowed, terminal, appended⟩ := finishes
    rw [TaskSupervisor.invalidateApprovals_eq]
    exact .revised found rfl rfl rfl rfl rfl

theorem Registered.call (registered : Registered p.supervisor) (orderly : Orderly env p)
    (call : Call) :
    Registered (call.run env p).2.supervisor ∧
      Retains p.supervisor (call.run env p).2.supervisor := by
  have step : ∀ a b : Process S, Enrols a.supervisor b.supervisor →
      Registered a.supervisor ∧ Retains p.supervisor a.supervisor →
      Registered b.supervisor ∧ Retains p.supervisor b.supervisor :=
    fun a b enrols kept => ⟨kept.1.enrols enrols, kept.2.trans enrols.retains⟩
  refine orderly_rule
    (I := fun q => Registered q.supervisor ∧ Retains p.supervisor q.supervisor)
    (J := fun q => Registered q.supervisor ∧ Retains p.supervisor q.supervisor)
    orderly call ?_ ?_ ?_ ⟨registered, Retains.refl _⟩
  · intro a b kept quiet
    rw [quiet.same]
    exact kept
  · intro a b id _ _ kept closes
    exact step a b closes.enrols kept
  · intro a b there kept effect
    exact step a b (effect.enrols there) kept

/-- A supervisor as its constructors make it, on a store with any contents. The identifiers
of the Tasks in the store are not generated again. -/
inductive Constructed (env : Env) : Process S → Prop where
  | new (world : World) (store : S) : Constructed env ⟨world, .new store⟩
  | withMaxTasks {world : World} {store : S} {maxTasks : Nat} {supervisor : TaskSupervisor S}
      (made : TaskSupervisor.withMaxTasks store maxTasks = .ok supervisor) :
      Constructed env ⟨world, supervisor⟩
  | recovered [LawfulRecoverableStore S] {world later : World} {store after : S} {maxTasks : Nat}
      {supervisor : TaskSupervisor S}
      (unused : ∀ taskId, LawfulEventStore.log store taskId ≠ [] →
        env.Known world.ids taskId.uuid)
      (made : recover env world store maxTasks = (.ok supervisor, later, after)) :
      Constructed env ⟨later, supervisor⟩

omit [LawfulEventStore S] in
theorem registered_start {store : S} {maxTasks : Nat} {recovered : OrdMap TaskId TaskState}
    (limit : recovered.size ≤ maxTasks) :
    Registered { TaskSupervisor.empty store maxTasks with recoveredTasks := recovered } where
  indexed := by
    intro key taskId
    simp [TaskSupervisor.empty]
  bounded := by simpa [TaskSupervisor.empty] using limit

theorem RecoverOk.size [LawfulRecoverableStore S] {world : World} {store after : S}
    {maxTasks : Nat} {supervisor : TaskSupervisor S}
    (done : RecoverOk world store maxTasks supervisor after) :
    supervisor.recoveredTasks.size ≤ maxTasks := by
  have among : supervisor.recoveredTasks.toList.map Prod.fst ⊆
      LawfulRecoverableStore.stored store := by
    intro taskId member
    obtain ⟨⟨other, state⟩, present, rfl⟩ := List.mem_map.mp member
    obtain ⟨old, accepted, _⟩ := (done.states other state).mp (OrdMap.mem_toList.mp present)
    exact LawfulRecoverableStore.mem_stored.mpr accepted.stored
  have fewer := ((OrdMap.keys_nodup supervisor.recoveredTasks).subperm among).length_le
  rw [List.length_map, Std.ExtTreeMap.length_toList] at fewer
  exact Nat.le_trans fewer done.limit

theorem Constructed.registered (constructed : Constructed env p) :
    Orderly env p ∧ Registered p.supervisor := by
  cases constructed with
  | new world store =>
    exact ⟨Daemon.orderly_start _ _ ∅ (by simp), registered_start (by simp)⟩
  | withMaxTasks made =>
    obtain ⟨maxTasks, rfl⟩ := Daemon.built_empty (.inr ⟨_, made⟩)
    exact ⟨Daemon.orderly_start _ _ ∅ (by simp), registered_start (by simp)⟩
  | @recovered _ world later store after maxTasks supervisor unused made =>
    have ends := recover_cases env world store maxTasks
    rw [made] at ends
    have done := recover_ok ends
    have ids : world.ids ≤ later.ids := recover_ids ends
    rw [done.fields]
    refine ⟨Daemon.orderly_start _ _ _ ?_, registered_start done.size⟩
    intro taskId state found
    obtain ⟨old, accepted, rfl⟩ := (done.states taskId state).mp found
    exact ⟨closedState_terminal old, (unused taskId accepted.stored).mono ids⟩

theorem Constructed.runCalls (fresh : Function.Injective env.uuid)
    (constructed : Constructed env p) (calls : List Call) :
    Orderly env (Daemon.runCalls env p calls) ∧
      Registered (Daemon.runCalls env p calls).supervisor := by
  have start := constructed.registered
  clear constructed
  induction calls generalizing p with
  | nil => exact start
  | cons call rest ih => exact ih ⟨start.1.call fresh call, (start.2.call start.1 call).1⟩

theorem Retains.runCalls (fresh : Function.Injective env.uuid) (orderly : Orderly env p)
    (registered : Registered p.supervisor) (calls : List Call) :
    Retains p.supervisor (Daemon.runCalls env p calls).supervisor := by
  induction calls generalizing p with
  | nil => exact Retains.refl _
  | cons call rest ih =>
    have step := registered.call orderly call
    exact step.2.trans (ih (orderly.call fresh call) step.1)

theorem submit_registered {taskId : TaskId} {record : TaskRecord} {spec : TaskSpec}
    (indexed : p.supervisor.idempotencyIndex[spec.idempotencyKey]? = some taskId)
    (found : p.supervisor.tasks[taskId]? = some record) :
    exec (submit env spec) p =
      (if record.spec = spec then .ok (.existing ⟨taskId, record.state⟩)
        else .error (.err .idempotencyConflict), p) := by
  unfold submit
  rw [exec_bind_ok (exec_current p)]
  simp only [indexed]
  rw [exec_bind_ok (exec_okOr_found found _ _)]
  by_cases same : record.spec = spec
  · simp [same, ensure]
  · simp [same, ensure]

/-- A dangling entry of the index is the only way to lose a Task in a submission. -/
theorem submit_finds (registered : Registered p.supervisor) (spec : TaskSpec) :
    (exec (submit env spec) p).1 ≠ .error (.err .taskNotFound) := by
  cases indexed : p.supervisor.idempotencyIndex[spec.idempotencyKey]? with
  | some taskId =>
    obtain ⟨record, found, _⟩ := (registered.indexed _ taskId).mp indexed
    rw [submit_registered indexed found]
    split <;> exact nofun
  | none =>
    unfold submit
    rw [exec_bind_ok (exec_current p)]
    simp only [indexed]
    let finds (out : Except Stop SubmitResult × Process S) : Prop :=
      out.1 ≠ .error (.err .taskNotFound)
    apply ensure_rule (P := finds)
    · exact fun _ => nofun
    · intro room
      rw [exec_bind_ok (exec_newUuid env p)]
      apply append_rule env (P := finds)
      · exact fun _ => nofun
      · exact fun store appended => nofun

/-- The registry of a supervisor in any run from its construction on: the three maps agree
and keep to the limit, specifications stay, and a retried submission answers with the
original Task, or with a conflict, and changes nothing. -/
theorem submission_registry (fresh : Function.Injective env.uuid)
    (constructed : Constructed env p) (calls later : List Call) :
    let q := Daemon.runCalls env p calls
    let r := Daemon.runCalls env q later
    (∀ (key : String) (taskId : TaskId), q.supervisor.idempotencyIndex[key]? = some taskId →
      ∃ record, q.supervisor.tasks[taskId]? = some record ∧ record.spec.idempotencyKey = key) ∧
    (∀ (taskId : TaskId) (record : TaskRecord), q.supervisor.tasks[taskId]? = some record →
      ∀ key, q.supervisor.idempotencyIndex[key]? = some taskId ↔
        key = record.spec.idempotencyKey) ∧
    (∀ taskId, ¬ (taskId ∈ q.supervisor.tasks ∧ taskId ∈ q.supervisor.recoveredTasks)) ∧
    q.supervisor.tasks.size + q.supervisor.recoveredTasks.size ≤ q.supervisor.maxTasks ∧
    (∀ (taskId : TaskId) (record : TaskRecord), q.supervisor.tasks[taskId]? = some record →
      ∃ found, r.supervisor.tasks[taskId]? = some found ∧ found.spec = record.spec) ∧
    (∀ (spec : TaskSpec) (taskId : TaskId) (record : TaskRecord),
      q.supervisor.idempotencyIndex[spec.idempotencyKey]? = some taskId →
      q.supervisor.tasks[taskId]? = some record →
      ∃ snapshot, r.supervisor.get taskId = some snapshot ∧ snapshot.taskId = taskId ∧
        exec (submit env spec) r =
          (if record.spec = spec then .ok (.existing snapshot)
            else .error (.err .idempotencyConflict), r)) ∧
    ∀ spec, (exec (submit env spec) q).1 ≠ .error (.err .taskNotFound) := by
  intro q r
  obtain ⟨orderly, registered⟩ := constructed.runCalls fresh calls
  have retains : Retains q.supervisor r.supervisor :=
    Retains.runCalls fresh orderly registered later
  refine ⟨fun key taskId => (registered.indexed key taskId).mp, ?_, ?_, registered.bounded,
    retains.specs, ?_, submit_finds registered⟩
  · intro taskId record found key
    rw [registered.indexed key taskId, found]
    simp [TaskRecord.key, eq_comm]
  · rintro taskId ⟨live, recovered⟩
    rw [Std.ExtTreeMap.mem_iff_isSome_getElem?, Option.isSome_iff_exists] at live
    obtain ⟨record, found⟩ := live
    rw [Std.ExtTreeMap.mem_iff_isSome_getElem?,
      orderly.records.apart taskId record found] at recovered
    cases recovered
  · intro spec taskId record indexed found
    obtain ⟨current, there, same⟩ := retains.specs taskId record found
    refine ⟨⟨taskId, current.state⟩, ?_, rfl, ?_⟩
    · rw [TaskSupervisor.get, TaskSupervisor.taskState_of_record there]
      rfl
    · rw [submit_registered (retains.index _ taskId indexed) there, same]

end runs

namespace Sample

/-- A retry after the Task has started, and a different Task under the same key. -/
theorem submission_registry_retried :
    let p : Process InMemoryEventStore := ⟨Daemon.start, .new (store 10)⟩
    let q := Daemon.runCalls env p [.submit spec]
    let r := Daemon.runCalls env q [.start ⟨0⟩]
    r.supervisor.get ⟨0⟩ = some ⟨⟨0⟩, .running⟩ ∧
    exec (submit env spec) r = (.ok (.existing ⟨⟨0⟩, .running⟩), r) ∧
    exec (submit env { spec with goal := "other" }) r =
      (.error (.err .idempotencyConflict), r) := by
  intro p q r
  obtain ⟨_, _, _, _, _, retried, _⟩ := submission_registry uuid_injective
    (.new Daemon.start (store 10)) [.submit spec] [.start ⟨0⟩]
  have indexed : q.supervisor.idempotencyIndex["key"]? = some ⟨0⟩ := by decide +kernel
  have found : q.supervisor.tasks[(⟨0⟩ : TaskId)]? = some ⟨spec, .queued, none⟩ := by decide +kernel
  have state : r.supervisor.get ⟨0⟩ = some ⟨⟨0⟩, .running⟩ := by decide +kernel
  obtain ⟨snapshot, shown, _, same⟩ := retried spec ⟨0⟩ _ indexed found
  obtain ⟨_, _, _, other⟩ := retried { spec with goal := "other" } ⟨0⟩ _ indexed found
  cases Option.some.inj (shown.symm.trans state)
  refine ⟨state, ?_, ?_⟩
  · exact same.trans (by rw [if_pos rfl])
  · exact other.trans (by rw [if_neg (by decide)])

end Sample

end AiOs
