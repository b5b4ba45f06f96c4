import AiOs.Runtime.Gate

/-! The adapters' gates are facades: before an operation goes to the execution gate, its Task's
execution context is attached to it. The context is retained with the operation, so an adapter
that looks at it later sees the one start instant and the Budget of the Task, however long an
approval took. -/
namespace AiOs

open Fallible

/-- An operation with a place for the context of its Task, which is no part of its request. -/
class ContextualOperation (O : Type) extends GuardedOperation O where
  executionContext : O → Option TaskExecutionContext
  attach : TaskExecutionContext → O → O
  executionContext_attach : ∀ context operation,
    executionContext (attach context operation) = some context
  capabilityRequest_attach : ∀ context operation,
    capabilityRequest (attach context operation) = capabilityRequest operation

section
variable {S A O Output Err : Type} (env : Env) [EventStore S] [ContextualOperation O]
  [ExecutionAdapter A O Output Err]

/-- `request` of the three facades. -/
def requestInContext (taskId : TaskId) (operation : O) (approvalTtl : Duration) :
    GateM S A O Err (ExecutionOutcome Output) := do
  let σ ← currentSystem
  match σ.process.supervisor.executionContext taskId with
  | .error error => throw (.err (.supervisor error))
  | .ok context =>
    ExecutionGate.request env taskId (ContextualOperation.attach context operation) approvalTtl

namespace System

/-- What can happen in a system whose gate stands behind a facade: only `request` differs. -/
def serve (σ : System S A O) : Act O → System S A O
  | .request taskId operation approvalTtl =>
    (exec (requestInContext env taskId operation approvalTtl) σ).2
  | act => σ.run env act

def serveAll (σ : System S A O) (acts : List (Act O)) : System S A O :=
  acts.foldl (fun σ act => σ.serve env act) σ

theorem serve_cases (σ : System S A O) (act : Act O) :
    σ.serve env act = σ ∨
      (∃ taskId operation ttl context, act = .request taskId operation ttl ∧
        σ.process.supervisor.executionContext taskId = .ok context ∧
        σ.serve env act =
          σ.run env (.request taskId (ContextualOperation.attach context operation) ttl)) ∨
      ((∀ taskId operation ttl, act ≠ .request taskId operation ttl) ∧
        σ.serve env act = σ.run env act) := by
  cases act with
  | request taskId operation ttl =>
    cases known : σ.process.supervisor.executionContext taskId with
    | error error =>
      left
      simp only [serve, requestInContext, exec_bind, exec_currentSystem, known, exec_throw]
    | ok context =>
      right; left
      refine ⟨taskId, operation, ttl, context, rfl, known, ?_⟩
      simp only [serve, requestInContext, exec_bind, exec_currentSystem, known, run]
  | _ => exact .inr (.inr ⟨nofun, rfl⟩)

end System

end

/-- Calls that neither create nor start a Task. -/
def Call.inner : Call → Bool
  | .submit _ | .start _ | .startExecution _ => false
  | _ => true

def Act.gated {O : Type} : Act O → Bool
  | .direct _ | .elapse => false
  | _ => true

def Act.Documented {S O : Type} (p : Process S) : Act O → Prop
  | .direct call => AiOs.Documented p call
  | _ => True

instance {S O : Type} (p : Process S) (act : Act O) : Decidable (act.Documented p) :=
  match act with
  | .direct call => inferInstanceAs (Decidable (AiOs.Documented p call))
  | .request .. | .approveAndExecute _ | .deny _ | .expire | .cancel _ | .elapse =>
    isTrue trivial

section
variable {S A O Output Err : Type} [LawfulEventStore S] [GuardedOperation O]
  [ExecutionAdapter A O Output Err] {env : Env} {σ : System S A O}

/-- What holds when a method of the gate has taken its arguments. -/
def System.entered (σ : System S A O) : Act O → System S A O
  | .request taskId operation _ => { σ with requested := σ.requested ++ [(taskId, operation)] }
  | _ => σ

/-- A property of systems that the parts of a gate's method keep. -/
structure Stable (env : Env) (I : System S A O → Prop) : Prop where
  call : ∀ (σ : System S A O) (call : Call), call.inner = true → I σ →
    I { σ with process := (call.run env σ.process).2 }
  gate : ∀ (σ : System S A O) (gate : ExecutionGate A O), gate.adapter = σ.gate.adapter → I σ →
    I { σ with gate := gate }
  execute : ∀ (σ : System S A O) (before : Process S) (taskId : TaskId) (operation : O), I σ →
    I (σ.executing env before taskId operation)

namespace ExecutionGate

omit [LawfulEventStore S] [GuardedOperation O] [ExecutionAdapter A O Output Err] in
theorem adapter_foldl {β : Type} {step : ExecutionGate A O → β → ExecutionGate A O}
    (same : ∀ gate b, (step gate b).adapter = gate.adapter) (items : List β)
    (gate : ExecutionGate A O) : (items.foldl step gate).adapter = gate.adapter := by
  induction items generalizing gate with
  | nil => rfl
  | cons item rest ih => exact (ih (step gate item)).trans (same gate item)

omit [LawfulEventStore S] [GuardedOperation O] [ExecutionAdapter A O Output Err] in
theorem removeTask_adapter (gate : ExecutionGate A O) (taskId : TaskId) :
    (gate.removeTask taskId).adapter = gate.adapter := by
  apply adapter_foldl
  intro gate operationId
  unfold dropOperation
  split <;> rfl

omit [LawfulEventStore S] [GuardedOperation O] [ExecutionAdapter A O Output Err] in
theorem purgeTerminal_adapter (gate : ExecutionGate A O) (supervisor : TaskSupervisor S) :
    (gate.purgeTerminal supervisor).adapter = gate.adapter :=
  adapter_foldl removeTask_adapter _ gate

end ExecutionGate

namespace Stable
variable {I : System S A O → Prop}

omit [GuardedOperation O] in
theorem supervised (stable : Stable env I) (holds : I σ) {α : Type} (call : Call)
    {method : SupervisorM S α}
    (performs : (call.perform env : SupervisorM S Unit) = discard method)
    (inner : call.inner = true) {answer : Except Stop α} {after : Process S}
    (ran : exec method σ.process = (answer, after)) : I { σ with process := after } := by
  have called := stable.call σ call inner holds
  rw [run_of_exec call performs ran] at called
  exact called

/-- What is stable and holds when a method of the gate starts holds when it is done. -/
theorem run (stable : Stable env I) {act : Act O} (gated : act.gated = true)
    (entered : I (σ.entered act)) : I (σ.run env act) := by
  cases act with
  | request taskId operation ttl =>
    change I (exec _ σ).2
    unfold ExecutionGate.request
    rw [exec_bind_ok (exec_currentSystem σ), exec_bind_ok (exec_handOver taskId operation σ)]
    apply supervised_rule (P := fun out => I out.2)
    · intro stop after out ran
      exact stable.supervised entered (.requestOperation _ _ _) rfl rfl ran
    intro result after ran
    have called := stable.supervised entered (.requestOperation _ _ _) rfl rfl ran
    cases result with
    | allowed =>
      apply callAdapter_rule (P := fun out => I out.2)
      · exact fun _ => stable.execute _ _ _ _ called
      · exact fun _ => stable.execute _ _ _ _ called
    | denied reason => exact called
    | approvalRequired approval =>
      apply modifyGet_rule (P := fun out => I out.2)
      apply modifyGet_rule (P := fun out => I out.2)
      apply ensure_rule (P := fun out => I out.2)
      · exact fun _ => stable.gate _ _ rfl called
      · exact fun _ => stable.gate _ _ rfl (stable.gate _ _ rfl called)
  | approveAndExecute approvalId =>
    change I (exec _ σ).2
    unfold ExecutionGate.approveAndExecute
    rw [exec_bind_ok (exec_currentSystem σ)]
    apply okOr_rule (P := fun out => I out.2)
    · exact fun _ => entered
    intro operationId indexed
    apply ensure_rule (P := fun out => I out.2)
    · exact fun _ => entered
    intro _
    apply supervised_rule (P := fun out => I out.2)
    · intro stop after out ran
      exact stable.supervised entered (.approveOperation _) rfl rfl ran
    intro snapshot granted ran
    have approved := stable.supervised entered (.approveOperation _) rfl rfl ran
    have taken := stable.gate { σ with process := granted }
      (σ.gate.removePending approvalId operationId).2 rfl approved
    apply modifyGet_rule (P := fun out => I out.2)
    apply okOr_rule (P := fun out => I out.2)
    · exact fun _ => taken
    intro pending found
    apply supervised_rule (P := fun out => I out.2)
    · intro stop after out ran
      exact stable.supervised taken (.authorizeOperation _ _ _) rfl rfl ran
    intro receipt after ran
    have used := stable.supervised taken (.authorizeOperation _ _ _) rfl rfl ran
    apply callAdapter_rule (P := fun out => I out.2)
    · exact fun _ => stable.execute _ _ _ _ used
    · exact fun _ => stable.execute _ _ _ _ used
  | deny approvalId =>
    change I (exec _ σ).2
    unfold ExecutionGate.deny
    rw [exec_bind_ok (exec_currentSystem σ)]
    apply okOr_rule (P := fun out => I out.2)
    · exact fun _ => entered
    intro operationId indexed
    apply supervised_rule (P := fun out => I out.2)
    · intro stop after out ran
      exact stable.supervised entered (.denyOperation _) rfl rfl ran
    intro snapshot after ran
    exact stable.gate _ _ rfl (stable.supervised entered (.denyOperation _) rfl rfl ran)
  | expire =>
    change I (exec _ σ).2
    unfold ExecutionGate.expire
    apply supervised_rule (P := fun out => I out.2)
    · intro stop after out ran
      exact stable.supervised entered .expireApprovals rfl rfl ran
    intro count after ran
    exact stable.gate _ _ (ExecutionGate.purgeTerminal_adapter _ _)
      (stable.supervised entered .expireApprovals rfl rfl ran)
  | cancel taskId =>
    change I (exec _ σ).2
    unfold ExecutionGate.cancel
    apply supervised_rule (P := fun out => I out.2)
    · intro stop after out ran
      exact stable.supervised entered (.cancel taskId) rfl rfl ran
    intro changed after ran
    exact stable.gate _ _ (ExecutionGate.removeTask_adapter _ taskId)
      (stable.supervised entered (.cancel taskId) rfl rfl ran)
  | direct call => cases gated
  | elapse => cases gated

end Stable

/-- What became of an adapter: every recorded execution, in order. -/
def replay (env : Env) (origin : A) (executed : List (Execution S O)) : A :=
  executed.foldl (fun adapter x =>
    (ExecutionAdapter.execute env.clock adapter x.operation x.moment.world.reads).2.1) origin

omit [LawfulEventStore S] [GuardedOperation O] in
theorem replay_snoc (env : Env) (origin : A) (executed : List (Execution S O))
    (x : Execution S O) :
    replay env origin (executed ++ [x]) = (ExecutionAdapter.execute env.clock
      (replay env origin executed) x.operation x.moment.world.reads).2.1 := by
  rw [replay, List.foldl_append]
  rfl

omit [GuardedOperation O] in
theorem stable_replay (env : Env) (origin : A) :
    Stable env (fun σ : System S A O => σ.gate.adapter = replay env origin σ.executed) where
  call _ _ _ holds := holds
  gate _ _ same holds := same.trans holds
  execute σ before taskId operation holds := by
    change (ExecutionAdapter.execute env.clock σ.gate.adapter operation _).2.1 =
      replay env origin (σ.executed ++ [_])
    rw [replay_snoc, ← holds]

omit [GuardedOperation O] in
theorem stable_histories (env : Env) (requested : List (TaskId × O))
    (submitted : List (TaskId × TaskSpec)) (started : List (TaskId × Instant)) :
    Stable env (fun σ : System S A O =>
      σ.requested = requested ∧ σ.submitted = submitted ∧ σ.started = started) where
  call _ _ _ holds := holds
  gate _ _ _ holds := holds
  execute _ _ _ _ holds := holds

def TaskSupervisor.startInstant (s : TaskSupervisor S) (taskId : TaskId) : Option Instant :=
  s.tasks[taskId]?.bind TaskRecord.startedAt

/-- The history of starts holds exactly the start instants of the records, and no Task
twice. -/
structure Starts (p : Process S) (started : List (TaskId × Instant)) : Prop where
  exact : ∀ taskId instant,
    (taskId, instant) ∈ started ↔ p.supervisor.startInstant taskId = some instant
  once : (started.map Prod.fst).Nodup

end

section starts
variable {S : Type} [LawfulEventStore S] {env : Env} {p after : Process S}

theorem Revises.startInstant (coherent : Coherent env p) {call : Call}
    {tasks : OrdMap TaskId TaskRecord} (revises : Revises env p call tasks)
    (other : ∀ owner, call ≠ .start owner ∧ call ≠ .startExecution owner) (taskId : TaskId) :
    tasks[taskId]?.bind TaskRecord.startedAt = p.supervisor.startInstant taskId := by
  unfold TaskSupervisor.startInstant
  cases revises with
  | same => rfl
  | admitted spec state submitted =>
    rw [OrdMap.get_insert]
    split
    · rename_i same
      rw [← same, coherent.unused_task.1]
      rfl
    · rfl
  | launched owner record start found startable =>
    rcases start with same | same
    · exact absurd same (other owner).1
    · exact absurd same (other owner).2
  | moved owner record next found allowed resumed =>
    rw [OrdMap.get_insert]
    split
    · rename_i same
      rw [← same, found]
      rfl
    · rfl

namespace Starts
variable {started : List (TaskId × Instant)}

theorem call (starts : Starts p started) (coherent : Coherent env p) (call : Call)
    (other : ∀ owner, call ≠ .start owner ∧ call ≠ .startExecution owner) :
    Starts (call.run env p).2 started := by
  have same : ∀ taskId, (call.run env p).2.supervisor.startInstant taskId =
      p.supervisor.startInstant taskId := by
    apply call_rule (I := fun q => ∀ taskId, q.supervisor.startInstant taskId =
        p.supervisor.startInstant taskId)
      (J := fun q => ∀ taskId, q.supervisor.startInstant taskId =
        p.supervisor.startInstant taskId) coherent call
    · intro a b same quiet
      rw [quiet.same]
      exact same
    · intro a b id member coherent same closes taskId
      have revises : Revises env a .expireApprovals b.supervisor.tasks := (closes.revises _).1
      exact (revises.startInstant coherent (fun _ => ⟨nofun, nofun⟩) taskId).trans (same taskId)
    · intro a b coherent same effect taskId
      exact (effect.revises.1.startInstant coherent other taskId).trans (same taskId)
    · exact fun _ => rfl
  refine ⟨?_, starts.once⟩
  intro taskId instant
  rw [same]
  exact starts.exact taskId instant

theorem launch (starts : Starts p started) (coherent : Coherent env p) {taskId : TaskId}
    (idle : p.supervisor.taskState taskId ≠ some .waitingApproval)
    (launches : Launches env p taskId after) :
    Starts after (started ++ [(taskId, env.clock p.world.reads)]) := by
  obtain ⟨store, record, found, startable, appended⟩ := launches
  have unstarted : p.supervisor.startInstant taskId = none := by
    rw [TaskSupervisor.startInstant, found]
    rcases TaskState.transition_to_running.mp startable with queued | waiting
    · exact coherent.records.unstarted taskId record found queued
    · rw [TaskSupervisor.taskState_of_record found, waiting] at idle
      exact absurd rfl idle
  have before : ∀ instant, (taskId, instant) ∉ started := by
    intro instant member
    rw [starts.exact, unstarted] at member
    cases member
  constructor
  · intro other instant
    have now : (p.supervisor.tasks.insert taskId { record with
        state := .running, startedAt := some (env.clock p.world.reads) })[other]?.bind
          TaskRecord.startedAt = if taskId = other then some (env.clock p.world.reads)
            else p.supervisor.startInstant other := by
      rw [OrdMap.get_insert, TaskSupervisor.startInstant]
      split <;> rfl
    refine Iff.trans ?_ (Eq.congr_left now).symm
    rw [List.mem_append, List.mem_singleton, starts.exact]
    by_cases same : taskId = other
    · subst same
      rw [if_pos rfl, unstarted]
      constructor
      · rintro (impossible | new)
        · cases impossible
        · rw [(Prod.mk.inj new).2]
      · intro new
        exact .inr (by rw [Option.some.inj new])
    · rw [if_neg same]
      constructor
      · rintro (old | new)
        · exact old
        · exact absurd (Prod.mk.inj new).1.symm same
      · exact .inl
  · rw [List.map_append, List.nodup_append]
    refine ⟨starts.once, List.pairwise_singleton _ _, ?_⟩
    intro old oldMember new newMember same
    obtain ⟨⟨owner, instant⟩, member, rfl⟩ := List.mem_map.mp oldMember
    rw [List.mem_singleton.mp newMember] at same
    subst same
    exact before instant member

theorem attempt (starts : Starts p started) (coherent : Coherent env p) {taskId : TaskId}
    (idle : p.supervisor.taskState taskId ≠ some .waitingApproval)
    {out : Except Stop Unit × Process S}
    (cases : StopsOr p (fun _ after => Launches env p taskId after) out) :
    Starts out.2 (if out.1.isOk then started ++ [(taskId, env.clock p.world.reads)]
      else started) := by
  obtain ⟨stop | value, after⟩ := out
  · have quiet : Quiet p after := cases
    refine ⟨?_, starts.once⟩
    rw [quiet.same]
    exact starts.exact
  · exact starts.launch coherent idle cases

end Starts

theorem startExecution_run (env : Env) (p : Process S)
    (recovered : RecoveredTerminal p.supervisor) (taskId : TaskId) :
    StopsOr p (fun _ after => Launches env p taskId after)
      ((Call.startExecution taskId).run env p) := by
  have cases := startExecution_cases env p recovered taskId
  rw [Call.run, Call.perform, exec_discard]
  generalize exec (startExecution env taskId) p = out at cases ⊢
  obtain ⟨stop | input, after⟩ := out <;> exact cases

end starts

section served
variable {S A O Output Err : Type} [LawfulEventStore S] [ContextualOperation O]
  [ExecutionAdapter A O Output Err] {env : Env} {σ : System S A O}

omit [ContextualOperation O] in
theorem stable_starts (fresh : Function.Injective env.uuid) :
    Stable env (fun σ : System S A O =>
      Coherent env σ.process ∧ Starts σ.process σ.started) where
  call σ call inner holds := by
    refine ⟨holds.1.call fresh call, holds.2.call holds.1 call ?_⟩
    rintro owner
    constructor <;> rintro rfl <;> cases inner
  gate _ _ _ holds := holds
  execute _ _ _ _ holds := ⟨holds.1.reads _, holds.2.exact, holds.2.once⟩

/-- The operation carries the context of its Task: the instant of the Task's start and the
limits of the specification that was submitted. -/
def InContext (submitted : List (TaskId × TaskSpec)) (started : List (TaskId × Instant))
    (taskId : TaskId) (operation : O) : Prop :=
  ∃ startedAt spec, (taskId, startedAt) ∈ started ∧ (taskId, spec) ∈ submitted ∧
    ContextualOperation.executionContext operation =
      some ⟨taskId, spec.budget, spec.capabilities.filesystem, startedAt⟩

omit [LawfulEventStore S] in
theorem InContext.mono {submitted moreSubmitted : List (TaskId × TaskSpec)}
    {started moreStarted : List (TaskId × Instant)} {taskId : TaskId} {operation : O}
    (inContext : InContext submitted started taskId operation)
    (submissions : submitted ⊆ moreSubmitted) (starts : started ⊆ moreStarted) :
    InContext moreSubmitted moreStarted taskId operation := by
  obtain ⟨startedAt, spec, start, submission, attached⟩ := inContext
  exact ⟨startedAt, spec, starts start, submissions submission, attached⟩

namespace System

/-- The runs of a gate behind its facade in which no waiting Task is started. -/
inductive Served (env : Env) (origin : A) : System S A O → Prop where
  | start {process : Process S} (reached : Daemon.Reached env Daemon.Anything (.up process))
      (empty : process.supervisor.tasks = ∅) : Served env origin (start process origin)
  | step {σ : System S A O} (served : Served env origin σ) (act : Act O)
      (documented : act.Documented σ.process) : Served env origin (σ.serve env act)

/-- What the facade achieves. -/
structure Attended (env : Env) (origin : A) (σ : System S A O) : Prop where
  replayed : σ.gate.adapter = replay env origin σ.executed
  starts : Starts σ.process σ.started
  contexts : ∀ e ∈ σ.requested, InContext σ.submitted σ.started e.1 e.2

theorem Served.reached {origin : A} (served : Served env origin σ) : Reached env σ := by
  induction served with
  | start reached empty => exact .start reached empty origin
  | @step σ _ act _ ih =>
    rcases serve_cases env σ act with same | ⟨_, _, _, _, _, _, same⟩ | ⟨_, same⟩
    · rw [same]
      exact ih
    · rw [same]
      exact ih.step _
    · rw [same]
      exact ih.step _

theorem Attended.run {origin : A} (attended : Attended env origin σ)
    (fresh : Function.Injective env.uuid) (coherent : Coherent env σ.process) {act : Act O}
    (gated : act.gated = true)
    (contexts : ∀ e ∈ (σ.entered act).requested, InContext σ.submitted σ.started e.1 e.2) :
    Attended env origin (σ.run env act) := by
  obtain ⟨requested, submitted, started⟩ : (σ.run env act).requested =
      (σ.entered act).requested ∧ (σ.run env act).submitted = σ.submitted ∧
        (σ.run env act).started = σ.started :=
    (stable_histories env _ _ _).run gated (by cases act <;> exact ⟨rfl, rfl, rfl⟩)
  refine ⟨?_, ?_, ?_⟩
  · exact (stable_replay env origin).run gated (by cases act <;> exact attended.replayed)
  · exact ((stable_starts fresh).run gated
      (by cases act <;> exact ⟨coherent, attended.starts⟩)).2
  · rw [requested, submitted, started]
    exact contexts

omit [ContextualOperation O] [ExecutionAdapter A O Output Err] in
/-- The history of starts follows the direct calls. -/
theorem starts_direct (coherent : Coherent env σ.process) (starts : Starts σ.process σ.started)
    {call : Call} (documented : Documented σ.process call) :
    Starts (σ.direct env call).process (σ.direct env call).started := by
  cases call with
  | start taskId =>
    have cases : StopsOr σ.process (fun _ after => Launches env σ.process taskId after)
        ((Call.start taskId).run env σ.process) :=
      start_cases env σ.process coherent.recoveredTerminal taskId
    have after := starts.attempt coherent documented cases
    unfold direct
    dsimp only
    split
    · rename_i ok
      rw [if_pos ok] at after
      exact after
    · rename_i stopped
      rw [if_neg stopped] at after
      exact after
  | startExecution taskId =>
    have cases := startExecution_run env σ.process coherent.recoveredTerminal taskId
    have after := starts.attempt coherent documented cases
    unfold direct
    dsimp only
    split
    · rename_i ok
      rw [if_pos ok] at after
      exact after
    · rename_i stopped
      rw [if_neg stopped] at after
      exact after
  | _ => exact starts.call coherent _ (fun _ => ⟨nofun, nofun⟩)

omit [ContextualOperation O] [ExecutionAdapter A O Output Err] in
theorem direct_grows (env : Env) (σ : System S A O) (call : Call) :
    σ.submitted ⊆ (σ.direct env call).submitted ∧ σ.started ⊆ (σ.direct env call).started := by
  unfold direct
  dsimp only
  split
  · exact ⟨List.subset_append_left _ _, List.Subset.refl _⟩
  · split
    · exact ⟨List.Subset.refl _, List.subset_append_left _ _⟩
    · exact ⟨List.Subset.refl _, List.Subset.refl _⟩
  · split
    · exact ⟨List.Subset.refl _, List.subset_append_left _ _⟩
    · exact ⟨List.Subset.refl _, List.Subset.refl _⟩
  · exact ⟨List.Subset.refl _, List.Subset.refl _⟩

theorem Attended.direct {origin : A} (attended : Attended env origin σ)
    (coherent : Coherent env σ.process) {call : Call} (documented : Documented σ.process call) :
    Attended env origin (σ.direct env call) := by
  obtain ⟨_, gate, requested, executed⟩ := direct_same env σ call
  refine ⟨?_, starts_direct coherent attended.starts documented, ?_⟩
  · rw [gate, executed]
    exact attended.replayed
  · rw [requested]
    intro e member
    exact (attended.contexts e member).mono (direct_grows env σ call).1 (direct_grows env σ call).2

omit [LawfulEventStore S] in
theorem Attended.context {origin : A} (attended : Attended env origin σ)
    (submissions : Submissions env σ.process σ.submitted) {taskId : TaskId}
    {context : TaskExecutionContext}
    (answered : σ.process.supervisor.executionContext taskId = .ok context) (operation : O) :
    InContext σ.submitted σ.started taskId (ContextualOperation.attach context operation) := by
  unfold TaskSupervisor.executionContext at answered
  split at answered
  · cases answered
  rename_i record found
  split at answered
  · cases answered
  split at answered
  · cases answered
  rename_i startedAt started
  cases answered
  refine ⟨startedAt, record.spec, ?_, submissions.specs taskId record found,
    ContextualOperation.executionContext_attach _ _⟩
  rw [attended.starts.exact, TaskSupervisor.startInstant, found]
  exact started

theorem Served.attended (fresh : Function.Injective env.uuid) {origin : A}
    (served : Served env origin σ) : Attended env origin σ := by
  induction served with
  | @start process reached empty =>
    refine ⟨rfl, ⟨?_, List.nodup_nil⟩, nofun⟩
    intro taskId instant
    have nothing : process.supervisor.startInstant taskId = none := by
      rw [TaskSupervisor.startInstant, empty]
      exact congrArg (Option.bind · _) Std.ExtTreeMap.getElem?_empty
    rw [System.start, nothing]
    constructor <;> intro impossible <;> cases impossible
  | @step σ served act documented ih =>
    have guarded := served.reached.guarded fresh
    rcases serve_cases env σ act with same | ⟨taskId, operation, ttl, context, _, answered, same⟩ |
      ⟨other, same⟩
    · rw [same]
      exact ih
    · rw [same]
      apply ih.run fresh guarded.coherent rfl
      intro e member
      rcases List.mem_append.mp member with old | new
      · exact ih.contexts e old
      · rw [List.mem_singleton.mp new]
        exact ih.context guarded.submissions answered operation
    · rw [same]
      cases act with
      | request taskId operation ttl => exact absurd rfl (other taskId operation ttl)
      | direct call => exact ih.direct guarded.coherent documented
      | elapse => exact ⟨ih.replayed, ⟨ih.starts.exact, ih.starts.once⟩, ih.contexts⟩
      | _ => exact ih.run fresh guarded.coherent rfl ih.contexts

/-- Every operation given to the adapter carries the context of its Task. -/
theorem Served.executed_in_context (fresh : Function.Injective env.uuid) {origin : A}
    (served : Served env origin σ) (x : Execution S O) (member : x ∈ σ.executed) :
    InContext σ.submitted σ.started x.taskId x.operation := by
  have linear := (served.reached.guarded fresh).linear
  have requested : (x.taskId, x.operation) ∈ σ.requested := by
    apply linear.subset
    rw [List.append_nil]
    exact List.mem_append_left _ (List.mem_map.mpr ⟨x, member, rfl⟩)
  exact (served.attended fresh).contexts _ requested

/-- The facade is called as documented all along a list of calls. -/
def Serves (env : Env) : System S A O → List (Act O) → Prop
  | _, [] => True
  | σ, act :: rest => act.Documented σ.process ∧ Serves env (σ.serve env act) rest

instance decidableServes (env : Env) :
    (σ : System S A O) → (acts : List (Act O)) → Decidable (Serves env σ acts)
  | _, [] => isTrue trivial
  | σ, act :: rest =>
    have := decidableServes env (σ.serve env act) rest
    inferInstanceAs (Decidable (_ ∧ _))

theorem Served.serveAll {origin : A} (served : Served env origin σ) {acts : List (Act O)}
    (serves : Serves env σ acts) : Served env origin (σ.serveAll env acts) := by
  induction acts generalizing σ with
  | nil => exact served
  | cons act rest ih => exact ih (served.step act serves.1) serves.2

end System

end served

end AiOs
