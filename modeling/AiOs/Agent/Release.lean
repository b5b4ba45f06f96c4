import AiOs.Agent.Outcome
import AiOs.Runtime.Attempts

/-! When `expire` frees the slot of the Agent. It asks the supervisor for the wall time of the
session's Task first, and the supervisor has no answer for a Task that has ended: such a
session is never dropped. A Task that ends during the call takes its session with it. -/
namespace AiOs.Agent

open Fallible

section expire
variable {S M C E H : Type} [LawfulEventStore S] [ToolHandler H] {env : Env}
  {σ : AgentSystem S M C E H} {active : ActiveSession C}

def Terminal (σ : AgentSystem S M C E H) (taskId : TaskId) : Prop :=
  (σ.process.supervisor.get taskId).any (fun task => task.state.isTerminal) = true

instance (σ : AgentSystem S M C E H) (taskId : TaskId) : Decidable (Terminal σ taskId) :=
  inferInstanceAs (Decidable (_ = true))

theorem expireThrough_rule {A O Output Err : Type} [ContextualOperation O]
    [ExecutionAdapter A O Output Err] [DecidableEq Err] {port : Port M C H A O Output Err}
    (lawful : port.Lawful) {P : Except AgentStop Nat × AgentSystem S M C E H → Prop}
    (missing : P (.error (.err .invalidState), σ))
    (stopped : ∀ stop refusal process τ, exec (expireApprovals env) σ.process =
      (.error stop, process) → τ.process = process → τ.agent.active = σ.agent.active →
      P (.error refusal, τ))
    (expired : ∀ count process τ, exec (expireApprovals env) σ.process = (.ok count, process) →
      τ.process = process → τ.agent.active = σ.agent.active → P (.ok count, τ)) :
    P (exec (expireThrough env port) σ) := by
  unfold expireThrough
  cases found : port.gate σ.agent with
  | none =>
    rw [exec_bind_error (Port.exec_run_missing found _)]
    exact missing
  | some gate =>
    have kept : ∀ gate : ExecutionGate A O, (port.setGate σ.agent gate).active = σ.agent.active :=
      lawful.active σ.agent
    have ran : exec (ExecutionGate.expire env : GateM S A O Err Nat) (Port.system σ gate) = _ :=
      ExecutionGate.exec_expire env _
    rw [exec_bind_ok (Port.exec_run found _)]
    rcases passed : exec (expireApprovals env) σ.process with ⟨(error | message) | count, process⟩
    · simp only [Port.system, passed] at ran
      rw [Port.system, ran]
      exact stopped _ _ process _ passed rfl (kept _)
    · simp only [Port.system, passed] at ran
      rw [Port.system, ran]
      exact stopped _ _ process _ passed rfl (kept _)
    · simp only [Port.system, passed] at ran
      rw [Port.system, ran]
      exact expired count process _ passed rfl (kept _)

theorem expireAdapter_rule {P : Except AgentStop Nat × AgentSystem S M C E H → Prop}
    (adapter : PendingAdapter) (missing : P (.error (.err .invalidState), σ))
    (stopped : ∀ stop refusal process τ, exec (expireApprovals env) σ.process =
      (.error stop, process) → τ.process = process → τ.agent.active = σ.agent.active →
      P (.error refusal, τ))
    (expired : ∀ count process τ, exec (expireApprovals env) σ.process = (.ok count, process) →
      τ.process = process → τ.agent.active = σ.agent.active → P (.ok count, τ)) :
    P (exec (expireAdapter env adapter) σ) := by
  cases adapter with
  | tool => exact expireThrough_rule Port.toolPort_lawful missing stopped expired
  | network => exact expireThrough_rule Port.networkPort_lawful missing stopped expired

/-- The wall time of the session's Task decides which way `expire` takes. -/
theorem expire_rule {P : Except AgentStop Nat × AgentSystem S M C E H → Prop}
    (session : σ.agent.active = some active)
    (refused : ∀ error, σ.process.supervisor.wallTimeExceeded active.taskId
      (env.clock σ.process.world.reads) = .error error → P (.error (.err (.supervisor error)), σ))
    (answered : ∀ exceeded adapter, σ.process.supervisor.wallTimeExceeded active.taskId
      (env.clock σ.process.world.reads) = .ok exceeded →
      P (exec (if exceeded then do
          failBudgetActive env active.taskId
          let _ ← expireAdapter env adapter
          throw (.err .budgetExceeded)
        else do
          let expired ← expireAdapter env adapter
          releaseTerminal
          pure expired) (σ.ticked (σ.process.world.reads + 1)))) :
    P (exec (expire env) σ) := by
  have overdrawn : exec (overdrawn env) σ =
      exec (supervising (wallTimeExceededNow env active.taskId) >>= fun exceeded =>
        pure (if exceeded then some active.taskId else none)) σ := by
    unfold Agent.overdrawn
    rw [exec_bind_ok (exec_currentAgent σ), session]
  unfold expire
  rw [exec_bind_ok (exec_currentAgent σ), exec_bind, overdrawn, exec_bind, exec_wallTimeExceeded]
  cases read : σ.process.supervisor.wallTimeExceeded active.taskId
    (env.clock σ.process.world.reads) with
  | error error => exact refused error read
  | ok exceeded =>
    have goes := answered exceeded (σ.agent.pendingAdapter.getD .tool) read
    cases exceeded <;> exact goes

omit [LawfulEventStore S] [ToolHandler H] in
theorem live_of_wallTimeExceeded {s : TaskSupervisor S} {taskId : TaskId} {now : Instant}
    {exceeded : Bool} (answered : s.wallTimeExceeded taskId now = .ok exceeded) :
    ∃ state, s.taskState taskId = some state ∧ state.isTerminal = false := by
  unfold TaskSupervisor.wallTimeExceeded at answered
  split at answered
  · cases answered
  · rename_i record found
    refine ⟨record.state, TaskSupervisor.taskState_of_record found, ?_⟩
    split at answered
    · cases answered
    · rename_i live
      by_cases running : record.state = .running
      · rw [running]
        rfl
      · by_cases waiting : record.state = .waitingApproval
        · rw [waiting]
          rfl
        · exact absurd ⟨running, waiting⟩ live

theorem expireAdapter_idle (adapter : PendingAdapter) :
    Keeps (fun τ : AgentSystem S M C E H => τ.agent.active = none) (expireAdapter env adapter) := by
  intro τ idle
  apply expireAdapter_rule (P := fun out => out.2.agent.active = none)
  · exact idle
  · exact fun _ _ _ _ _ _ same => same.trans idle
  · exact fun _ _ _ _ _ same => same.trans idle

omit [LawfulEventStore S] [ToolHandler H] in
theorem exec_releaseTerminal (session : σ.agent.active = some active) :
    exec (releaseTerminal : AgentM S M C E H Unit) σ =
      (.ok (), if Terminal σ active.taskId then σ.drop σ.process else σ) := by
  unfold releaseTerminal
  rw [exec_bind_ok (exec_currentAgent σ), session, Option.any_some]
  by_cases terminal : Terminal σ active.taskId
  · rw [if_pos terminal]
    unfold Terminal at terminal
    rw [if_pos terminal]
    rfl
  · rw [if_neg terminal]
    unfold Terminal at terminal
    rw [if_neg terminal]
    rfl

/-- A pass that was not disturbed ends, and then a session whose Task has ended is dropped. -/
theorem expire_inTime (orderly : Orderly env σ.process) (adapter : PendingAdapter)
    (session : σ.agent.active = some active) (live : ¬ Terminal σ active.taskId) :
    let out := exec (expireAdapter env adapter >>= fun expired => do
      releaseTerminal
      pure expired) σ
    Undisturbed σ.process out.2.process → Terminal out.2 active.taskId →
      out.2.agent.active = none := by
  intro out
  let rest : Nat → AgentM S M C E H Nat := fun expired => do
    releaseTerminal
    pure expired
  have same : out = andThen rest (exec (expireAdapter env adapter) σ) := exec_andThen _ _ _
  rw [same]
  apply expireAdapter_rule (P := fun out => Undisturbed σ.process (andThen rest out).2.process →
    Terminal (andThen rest out).2 active.taskId → (andThen rest out).2.agent.active = none)
  · exact fun _ terminal => absurd terminal live
  · rintro stop refusal process τ failed rfl _ undisturbed _
    obtain ⟨_, _, _, _, _, made, attempt, rejected, attempts⟩ :=
      expireApprovals_rejected orderly failed
    exact absurd undisturbed (disturbed_of_rejected rejected attempts)
  · intro count process τ _ _ kept _
    have released : andThen rest (.ok count, τ) =
        (.ok count, if Terminal τ active.taskId then τ.drop τ.process else τ) :=
      exec_bind_ok (exec_releaseTerminal (kept.trans session))
    rw [released]
    by_cases terminal : Terminal τ active.taskId
    · rw [if_pos terminal]
      exact fun _ => rfl
    · rw [if_neg terminal]
      exact fun ended => absurd ended terminal

theorem expire_released (orderly : Orderly env σ.process)
    (session : σ.agent.active = some active)
    (undisturbed : Undisturbed σ.process (exec (expire env) σ).2.process)
    (ended : Terminal σ active.taskId ∨ Terminal (exec (expire env) σ).2 active.taskId) :
    (exec (expire env) σ).2.agent.active = none ↔ ¬ Terminal σ active.taskId := by
  revert undisturbed ended
  apply expire_rule (P := fun out => Undisturbed σ.process out.2.process →
    Terminal σ active.taskId ∨ Terminal out.2 active.taskId →
    (out.2.agent.active = none ↔ ¬ Terminal σ active.taskId)) session
  · intro error _ _ ended
    rw [session]
    exact ⟨nofun, fun live => absurd (ended.elim id id) live⟩
  · intro exceeded adapter answered
    obtain ⟨state, known, open_⟩ := live_of_wallTimeExceeded answered
    have live : ∀ τ : AgentSystem S M C E H, τ.process.supervisor = σ.process.supervisor →
        ¬ Terminal τ active.taskId := by
      intro τ same
      rw [Terminal, same, TaskSupervisor.get, known]
      simp [open_]
    let τ := σ.ticked (σ.process.world.reads + 1)
    have ready : Orderly env τ.process := ⟨orderly.registry, orderly.records⟩
    cases exceeded with
    | true =>
      intro _ _
      refine ⟨fun _ => live σ rfl, fun _ => ?_⟩
      -- the session is dropped before anything can fail
      have supervised : Keeps (fun τ : AgentSystem S M C E H => τ.agent.active = none)
          (supervising (failBudgetExceeded env active.taskId)) := by
        intro τ idle
        rw [exec_supervising]
        exact idle
      have expires : ∀ adapter, Keeps (fun τ : AgentSystem S M C E H => τ.agent.active = none)
          (expireAdapter env adapter) := expireAdapter_idle
      have rest := supervised.bind fun _ => (expires adapter).bind fun _ =>
        keeps_throw (α := Nat) (AgentStop.err .budgetExceeded)
      rw [if_pos rfl, failBudgetActive, bind_assoc, exec_bind_ok (exec_setActive none _)]
      exact rest _ rfl
    | false =>
      intro undisturbed ended
      refine ⟨fun _ => live σ rfl, fun _ => ?_⟩
      exact expire_inTime ready adapter session (live τ rfl) undisturbed
        (ended.resolve_left (live σ rfl))

end expire

/-- An undisturbed `expire` frees the slot of a Task that has ended exactly when the Task had
not ended before the call; then the next `start` is not refused for capacity. -/
theorem AgentSystem.expire_releases_slot {S M C E H : Type} [LawfulEventStore S]
    [ModelSession C E] [ModelAdapter M C E] [ToolHandler H] {env : Env}
    {σ : AgentSystem S M C E H} (fresh : Function.Injective env.uuid) (runs : Runs env σ)
    {taskId : TaskId} (session : σ.agent.activeTask = some taskId)
    (undisturbed : Undisturbed σ.process (σ.run env .expire).process)
    (ended : Terminal σ taskId ∨ Terminal (σ.run env .expire) taskId) :
    ((σ.run env .expire).agent.activeTask = none ∧
      ∀ other, (exec (start env other) (σ.run env .expire)).1 ≠ .error (.err .capacityExceeded)) ↔
        ¬ Terminal σ taskId := by
  obtain ⟨active, there, rfl⟩ := Option.map_eq_some_iff.mp session
  have released : (σ.run env .expire).agent.active = none ↔ ¬ Terminal σ active.taskId :=
    expire_released (runs.joined fresh).orderly there undisturbed ended
  have joined := (runs.step .expire).joined fresh
  constructor
  · exact fun free => released.mp (Option.map_eq_none_iff.mp free.1)
  · intro live
    have free := released.mpr live
    refine ⟨Option.map_eq_none_iff.mpr free, fun other refused => ?_⟩
    have agrees := agrees_start fresh joined other
    generalize exec (start env other) (σ.run env .expire) = out at agrees refused
    obtain ⟨answer, τ⟩ := out
    cases refused
    exact agrees.2 free

namespace Sample

def waiting : List AgentAct :=
  [.direct (.submit AiOs.Sample.spec), .direct (.submit { AiOs.Sample.spec with
    idempotencyKey := "other" }), .start ⟨0⟩]

set_option maxRecDepth 4000 in
/-- A Task that is cancelled behind the session's back keeps the slot for ever. -/
theorem slot_kept_after_cancel :
    let σ := agent (toolCall "push") (waiting ++ [.direct (.cancel ⟨0⟩)])
    let after := σ.run AiOs.Sample.env .expire
    σ.Runs AiOs.Sample.env ∧ σ.agent.activeTask = some ⟨0⟩ ∧ Terminal σ ⟨0⟩ ∧
      Undisturbed σ.process after.process ∧ after.agent.activeTask = some ⟨0⟩ ∧
      (exec (start AiOs.Sample.env ⟨1⟩) after).1 = .error (.err .capacityExceeded) :=
  ⟨agent_runs _ _, by decide +kernel⟩

def late : Scripted := agentWith hasty (toolCall "push") (waiting ++ [.elapse, .elapse])

set_option maxRecDepth 4000 in
/-- A Task whose approval expires during the call gives the slot back. -/
theorem slot_released_by_expiry :
    (((late.run AiOs.Sample.env .expire).agent.activeTask = none ∧
      ∀ other, (exec (start AiOs.Sample.env other) (late.run AiOs.Sample.env .expire)).1 ≠
        .error (.err .capacityExceeded)) ↔ ¬ Terminal late ⟨0⟩) ∧ ¬ Terminal late ⟨0⟩ := by
  have runs : late.Runs AiOs.Sample.env := agentWith_runs _ _ _
  have session : late.agent.activeTask = some ⟨0⟩ := by decide +kernel
  have undisturbed : Undisturbed late.process (late.run AiOs.Sample.env .expire).process := by
    decide +kernel
  have ended : Terminal (late.run AiOs.Sample.env .expire) ⟨0⟩ := by decide +kernel
  refine ⟨AgentSystem.expire_releases_slot AiOs.Sample.uuid_injective runs session undisturbed
    (.inr ended), ?_⟩
  decide +kernel

end Sample

end AiOs.Agent
