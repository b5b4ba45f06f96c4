import Mathlib.Logic.Relation
import AiOs.Runtime.Calls
import AiOs.Runtime.Restart

/-! Whole runs: supervisors come and go on one store. A run starts on an empty store; calls
come in any order, a process may end between any two of them, and a new supervisor is built
or recovered from what the store holds. A recovery may fail and be tried again. -/
namespace AiOs

open Account

variable {S : Type} [LawfulEventStore S]

/-- A store with or without a process on it. -/
inductive Daemon (S : Type) where
  | up (process : Process S)
  | down (world : World) (store : S)

namespace Daemon

/-- One step of a run. The calls are those that `permitted` allows from where they start. -/
inductive Step (env : Env) (permitted : Process S → Call → Prop) : Daemon S → Daemon S → Prop where
  | call {p : Process S} (call : Call) (allowed : permitted p call) :
      Step env permitted (.up p) (.up (call.run env p).2)
  | crash (p : Process S) : Step env permitted (.up p) (.down p.world p.supervisor.eventStore)
  | built {world : World} {store : S} {supervisor : TaskSupervisor S}
      (made : supervisor = .new store ∨
        ∃ maxTasks, TaskSupervisor.withMaxTasks store maxTasks = .ok supervisor) :
      Step env permitted (.down world store) (.up ⟨world, supervisor⟩)
  | recovered [LawfulRecoverableStore S] {world later : World} {store after : S} {maxTasks : Nat}
      {supervisor : TaskSupervisor S}
      (result : recover env world store maxTasks = (.ok supervisor, later, after)) :
      Step env permitted (.down world store) (.up ⟨later, supervisor⟩)
  | unrecovered [LawfulRecoverableStore S] {world later : World} {store after : S}
      {maxTasks : Nat} {stop : Stop}
      (result : recover env world store maxTasks = (.error stop, later, after)) :
      Step env permitted (.down world store) (.down later after)

def start : World := ⟨0, 0, []⟩

/-- Everything a run from an empty store can reach. -/
def Reached (env : Env) (permitted : Process S → Call → Prop) (d : Daemon S) : Prop :=
  ∃ store, (∀ taskId, LawfulEventStore.log store taskId = []) ∧
    Relation.ReflTransGen (Step env permitted) (.down start store) d

def Anything (_ : Process S) (_ : Call) : Prop := True

/-- What a store holds when no process is on it. -/
structure Archived (env : Env) (world : World) (store : S) : Prop where
  logs : Logs env world.ids (LawfulEventStore.log store)
  ledger : Ledger env world.ids (fun t => kindsOf (LawfulEventStore.log store t)) ∅ ∅

/-- The invariant of a run, with and without a process. -/
def Sound (env : Env) : Daemon S → Prop
  | .up p => Coherent env p
  | .down world store => Archived env world store

theorem archived_empty (env : Env) {store : S}
    (empty : ∀ taskId, LawfulEventStore.log store taskId = []) : Archived env start store where
  logs := ⟨fun taskId => by rw [empty]; rfl, fun taskId present => absurd (empty taskId) present⟩
  ledger := by
    have none : ∀ (id : ApprovalId) (taskId : TaskId),
        entries id (kindsOf (LawfulEventStore.log store taskId)) = [] := by
      intro id taskId
      rw [empty]
      rfl
    exact {
      requested := by simp
      granted := by simp
      linear := fun id => ⟨⟨0⟩, ⟨0⟩, [], .fresh (none id) _, linear_nil _ _⟩
      known := fun id taskId mentioned => absurd (none id taskId) mentioned }

theorem archived_crash {env : Env} {p : Process S} (coherent : Coherent env p) :
    Archived env p.world p.supervisor.eventStore :=
  ⟨coherent.logs, { coherent.ledger with requested := by simp, granted := by simp }⟩

omit [LawfulEventStore S] in
theorem orderly_start {env : Env} {world : World} (store : S) (maxTasks : Nat)
    (recovered : OrdMap TaskId TaskState)
    (terminal : ∀ (taskId : TaskId) (state : TaskState), recovered[taskId]? = some state →
      state.isTerminal = true ∧ env.Known world.ids taskId.uuid) :
    Orderly env ⟨world, { TaskSupervisor.empty store maxTasks with
      recoveredTasks := recovered }⟩ where
  registry := Registry.empty env world.ids
  records := {
    terminal := fun taskId state found => (terminal taskId state found).1
    apart := by simp [TaskSupervisor.empty]
    valid := by simp [TaskSupervisor.empty]
    unstarted := by simp [TaskSupervisor.empty]
    started := by simp [TaskSupervisor.empty]
    known := by simp [TaskSupervisor.empty]
    knownRecovered := fun taskId state found => (terminal taskId state found).2 }

/-- On a store in order, such a supervisor meets the whole invariant. -/
theorem coherent_start {env : Env} {world : World} {store : S}
    (archived : Archived env world store) (maxTasks : Nat)
    (recovered : OrdMap TaskId TaskState)
    (terminal : ∀ (taskId : TaskId) (state : TaskState), recovered[taskId]? = some state →
      state.isTerminal = true ∧ LawfulEventStore.log store taskId ≠ []) :
    Coherent env ⟨world, { TaskSupervisor.empty store maxTasks with
      recoveredTasks := recovered }⟩ := by
  have orderly : Orderly env ⟨world, { TaskSupervisor.empty store maxTasks with
      recoveredTasks := recovered }⟩ := by
    apply orderly_start
    intro taskId state found
    obtain ⟨ended, stored⟩ := terminal taskId state found
    exact ⟨ended, archived.logs.known taskId stored⟩
  refine ⟨orderly.registry, orderly.records, ?_, archived.logs, archived.ledger⟩
  exact ⟨by simp [TaskSupervisor.empty], by simp [TaskSupervisor.empty]⟩

theorem archived_fails {env : Env} {p after : Process S} {tasks : List (TaskId × TaskState)}
    (fails : FailsAll p tasks after) (archived : Archived env p.world p.supervisor.eventStore)
    (logged : ∀ e ∈ tasks, LawfulEventStore.log p.supervisor.eventStore e.1 ≠ []) :
    Archived env after.world after.supervisor.eventStore := by
  induction fails with
  | nil => exact archived
  | @cons p after taskId state rest store appended others ih =>
    apply ih
    · have known := archived.logs.known taskId (logged _ List.mem_cons_self)
      refine ⟨archived.logs.grow appended (Nat.le_refl _) known, ?_⟩
      exact archived.ledger.grow_plain appended.grown (Nat.le_refl _)
        (by simp [restartEvents, TaskEventKind.approval])
    · intro e member empty
      change LawfulEventStore.log store e.1 = [] at empty
      apply logged e (List.mem_cons_of_mem _ member)
      by_cases same : e.1 = taskId
      · have grown := appended.grows.grown
        rw [← same, empty] at grown
        exact List.prefix_nil.mp grown
      · rw [← appended.grows.others e.1 same]
        exact empty

/-- A recovery leaves a store in order, however it ends. -/
theorem archived_recover [LawfulRecoverableStore S] {env : Env} {world : World} {store : S}
    {maxTasks : Nat} {out : Except Stop (TaskSupervisor S) × World × S}
    (archived : Archived env world store) (ends : RecoverEnds env world store maxTasks out) :
    Archived env out.2.1 out.2.2 := by
  cases ends with
  | refused stop reason => exact archived
  | interrupted recovered _ _ _ collected done rest taskId state mid after e order fails _ left =>
    have there : Archived env mid.world mid.supervisor.eventStore := by
      apply archived_fails fails archived
      intro entry member
      have listed : entry ∈ interruptedTasks recovered := by
        rw [order]
        exact List.mem_append_left _ member
      exact ((collected _ _).mp (mem_interruptedTasks.mp listed).1).stored
    rw [left]
    exact ⟨there.logs, there.ledger⟩
  | finished recovered _ _ _ collected after fails =>
    apply archived_fails fails archived
    intro entry member
    exact ((collected _ _).mp (mem_interruptedTasks.mp member).1).stored

omit [LawfulEventStore S] in
theorem built_empty {store : S} {supervisor : TaskSupervisor S}
    (made : supervisor = .new store ∨
      ∃ maxTasks, TaskSupervisor.withMaxTasks store maxTasks = .ok supervisor) :
    ∃ maxTasks, supervisor = TaskSupervisor.empty store maxTasks := by
  rcases made with rfl | ⟨maxTasks, made⟩
  · exact ⟨_, rfl⟩
  · unfold TaskSupervisor.withMaxTasks at made
    split at made
    · cases made
    · exact ⟨maxTasks, (Except.ok.inj made).symm⟩

theorem sound_step {env : Env} (fresh : Function.Injective env.uuid)
    {permitted : Process S → Call → Prop} {d e : Daemon S} (step : Step env permitted d e)
    (sound : Sound env d) : Sound env e := by
  cases step with
  | call call _ => exact Coherent.call fresh sound call
  | crash p => exact archived_crash sound
  | built made =>
    obtain ⟨maxTasks, rfl⟩ := built_empty made
    exact coherent_start sound maxTasks ∅ (by simp)
  | recovered result =>
    rename_i world later store after maxTasks supervisor
    have ends := recover_cases env world store maxTasks
    rw [result] at ends
    have done := recover_ok ends
    have archived : Archived env later after := archived_recover sound ends
    have advances : Advances store after := recover_advances ends
    have coherent := coherent_start archived maxTasks supervisor.recoveredTasks (by
      intro taskId state found
      obtain ⟨old, accepted, rfl⟩ := (done.states taskId state).mp found
      exact ⟨closedState_terminal old, (advances.stored taskId).mpr accepted.stored⟩)
    rw [← done.fields] at coherent
    exact coherent
  | unrecovered result =>
    rename_i world later store after maxTasks stop
    have ends := recover_cases env world store maxTasks
    rw [result] at ends
    exact archived_recover sound ends

/-- Every run keeps the invariant. -/
theorem Reached.sound {env : Env} (fresh : Function.Injective env.uuid)
    {permitted : Process S → Call → Prop} {d : Daemon S} (reached : Reached env permitted d) :
    Sound env d := by
  obtain ⟨store, empty, run⟩ := reached
  induction run with
  | refl => exact archived_empty env empty
  | tail _ step ih => exact sound_step fresh step ih

/-- The rule for what holds in every process of a run: it holds of a supervisor that knows
nothing but recovered Tasks, and every permitted call keeps it. -/
theorem Reached.rule {env : Env} (fresh : Function.Injective env.uuid)
    {permitted : Process S → Call → Prop} {I : Process S → Prop}
    (empty : ∀ world store maxTasks recovered,
      I ⟨world, { TaskSupervisor.empty store maxTasks with recoveredTasks := recovered }⟩)
    (call : ∀ p call, Coherent env p → I p → permitted p call → I (call.run env p).2)
    {p : Process S} (reached : Reached env permitted (.up p)) : I p := by
  obtain ⟨store, none, run⟩ := reached
  generalize target : Daemon.up p = d at run
  induction run generalizing p with
  | refl => cases target
  | @tail middle last path step ih =>
    have sound : Sound env middle := Reached.sound fresh ⟨store, none, path⟩
    cases step with
    | call own allowed =>
      cases target
      exact call _ own sound (ih rfl) allowed
    | crash => cases target
    | built made =>
      cases target
      obtain ⟨maxTasks, rfl⟩ := built_empty made
      exact empty _ _ maxTasks ∅
    | recovered result =>
      cases target
      rename_i world later store after maxTasks supervisor
      have ends := recover_cases env world store maxTasks
      rw [result] at ends
      have fields := (recover_ok ends).fields
      have holds := empty later after maxTasks supervisor.recoveredTasks
      rw [← fields] at holds
      exact holds
    | unrecovered => cases target

def runCalls (env : Env) (p : Process S) (calls : List Call) : Process S :=
  calls.foldl (fun p call => (call.run env p).2) p

def Follows (env : Env) (permitted : Process S → Call → Prop) : Process S → List Call → Prop
  | _, [] => True
  | p, call :: rest => permitted p call ∧ Follows env permitted (call.run env p).2 rest

instance decidableFollows (env : Env) (permitted : Process S → Call → Prop)
    [∀ p, DecidablePred (permitted p)] :
    ∀ (p : Process S) (calls : List Call), Decidable (Follows env permitted p calls)
  | _, [] => isTrue trivial
  | p, call :: rest =>
    have := decidableFollows env permitted (call.run env p).2 rest
    inferInstanceAs (Decidable (permitted p call ∧ _))

instance (p : Process S) : DecidablePred (Anything p) := fun _ => isTrue trivial

theorem Reached.follow {env : Env} {permitted : Process S → Call → Prop} {p : Process S}
    (reached : Reached env permitted (.up p)) {calls : List Call}
    (follows : Follows env permitted p calls) :
    Reached env permitted (.up (runCalls env p calls)) := by
  induction calls generalizing p with
  | nil => exact reached
  | cons call rest ih =>
    obtain ⟨store, empty, run⟩ := reached
    exact ih ⟨store, empty, run.tail (.call call follows.1)⟩ follows.2

theorem reached_new (env : Env) (permitted : Process S → Call → Prop) {store : S}
    (empty : ∀ taskId, LawfulEventStore.log store taskId = []) :
    Reached env permitted (.up ⟨start, .new store⟩) :=
  ⟨store, empty, .single (.built (.inl rfl))⟩

def kinds : Daemon S → TaskId → List TaskEventKind
  | .up p => p.kinds
  | .down _ store => fun taskId => kindsOf (LawfulEventStore.log store taskId)

theorem Sound.linear {env : Env} {d : Daemon S} (sound : Sound env d) (id : ApprovalId) :
    ∃ home operationId events, Settled d.kinds id home events ∧ Linear id operationId events := by
  cases d with
  | up p => exact Coherent.ledger sound |>.linear id
  | down world store => exact Archived.ledger sound |>.linear id

/-- The audit log is a linear ledger: after any run, the events about an approval lie in one
log, name one operation, and are the beginning of one complete life. -/
theorem audit_ledger_linear {env : Env} (fresh : Function.Injective env.uuid) {d : Daemon S}
    (reached : Reached env Anything d) (id : ApprovalId) :
    ∃ home operationId, (∀ taskId, taskId ≠ home → entries id (d.kinds taskId) = []) ∧
      ∃ chain ∈ approvalChains id operationId, entries id (d.kinds home) <+: chain := by
  obtain ⟨home, operationId, events, settled, linear⟩ := (reached.sound fresh).linear id
  refine ⟨home, operationId, settled.elsewhere, ?_⟩
  rw [settled.here]
  exact linear

end Daemon

/-! A small daemon to look at: a clock that moves a millisecond with every reading,
identifiers in order, and a store that only fails by its capacity. -/
namespace Sample

def env : Env := ⟨fun reads => reads * 10 ^ 6, id, fun _ => ⟨true, true, fun _ => 0⟩⟩

def spec : TaskSpec := ⟨"key", "goal", ⟨[], .deny, ["git"]⟩, ⟨60, 1, 1⟩, ⟨["push"]⟩⟩

def push : CapabilityRequest := .tool "git" "push"

def store (maxEventsPerTask : Nat) : InMemoryEventStore := ⟨∅, maxEventsPerTask⟩

def process (maxEventsPerTask : Nat) (calls : List Call) : Process InMemoryEventStore :=
  Daemon.runCalls env ⟨Daemon.start, .new (store maxEventsPerTask)⟩ calls

theorem uuid_injective : Function.Injective env.uuid := Function.injective_id

theorem store_empty (maxEventsPerTask : Nat) (taskId : TaskId) :
    LawfulEventStore.log (store maxEventsPerTask) taskId = [] := by
  change ((∅ : OrdMap TaskId (List TaskEvent))[taskId]?).getD [] = []
  rw [Std.ExtTreeMap.getElem?_empty]
  rfl

theorem process_reached {permitted : Process InMemoryEventStore → Call → Prop}
    {maxEventsPerTask : Nat} {calls : List Call}
    (follows : Daemon.Follows env permitted ⟨Daemon.start, .new (store maxEventsPerTask)⟩ calls) :
    Daemon.Reached env permitted (.up (process maxEventsPerTask calls)) :=
  (Daemon.reached_new env permitted (store_empty maxEventsPerTask)).follow follows

def consumed : List Call :=
  [.submit spec, .start ⟨0⟩, .requestOperation ⟨0⟩ push (10 ^ 9), .approveOperation ⟨2⟩,
    .authorizeOperation ⟨0⟩ ⟨1⟩ push]

end Sample

set_option maxRecDepth 4000 in
/-- After a request, its approval and its use, the account of the approval is complete. -/
theorem audit_ledger_consumed :
    (∃ home operationId,
      (∀ taskId, taskId ≠ home →
        entries (⟨2⟩ : ApprovalId) ((Sample.process 20 Sample.consumed).kinds taskId) = []) ∧
      ∃ chain ∈ approvalChains ⟨2⟩ operationId,
        entries (⟨2⟩ : ApprovalId) ((Sample.process 20 Sample.consumed).kinds home) <+: chain) ∧
    entries (⟨2⟩ : ApprovalId) ((Sample.process 20 Sample.consumed).kinds ⟨0⟩) =
      [.approvalRequested ⟨2⟩ ⟨1⟩, .approvalGranted ⟨2⟩ ⟨1⟩, .approvalConsumed ⟨2⟩ ⟨1⟩] :=
  ⟨Daemon.audit_ledger_linear Sample.uuid_injective
    (Sample.process_reached (by decide)) ⟨2⟩, by decide +kernel⟩

end AiOs
