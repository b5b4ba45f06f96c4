import AiOs.Agent.Upkeep

/-! The model's side of a run. Every call of a model session is told its number and the bytes
of the operation that its last decision stood for, whether that operation was executed at once
or after an approval; a session is asked at most as often as the configuration allows, and the
loop always comes to its end. -/
namespace AiOs.Agent

open Fallible

section trace
variable {C E : Type}

/-- How often the last session has been asked. -/
def turnsSince : List (AgentEvent C E) → Nat
  | [] => 0
  | .opened .. :: _ => 0
  | .decided .. :: before => turnsSince before + 1
  | .executed .. :: before => turnsSince before

/-- What a session is told next, by what came right before: a new session has no output yet,
and an old one gets the bytes of the operation it has just decided on. -/
def HandedOver (model : C) (previous : Option (List UInt8)) : List (AgentEvent C E) → Prop
  | .opened _ _ (.ok opened) :: _ => model = opened ∧ previous = none
  | .executed operation (some bytes) :: .decided _ _ (.ok decision) after :: _ =>
    model = after ∧ previous = some bytes ∧ decision.Describes operation
  | _ => False

variable [ModelSession C E] {H : Type} [ToolHandler H]

variable (H) in
/-- Every call of a session in the trace is in order: it is numbered from one, within the
limit, made on the session as its last call has left it, told what is handed over, and answered
by the session itself. The bytes of an execution are those of the operation's adapter. -/
def Ordered (clock : Nat → Instant) (maxSteps : Nat) : List (AgentEvent C E) → Prop
  | [] => True
  | .decided model request answer after :: before =>
    (request.step = turnsSince before + 1 ∧ request.step ≤ maxSteps ∧
      HandedOver model request.previousOperationOutput before ∧
      ModelSession.decide model request = (answer, after)) ∧ Ordered clock maxSteps before
  | .opened .. :: before => Ordered clock maxSteps before
  | .executed operation output :: before =>
    (∀ bytes ∈ output, operation.Produces H clock bytes) ∧ Ordered clock maxSteps before

theorem Ordered.failed {clock : Nat → Instant} {maxSteps : Nat} {trace : List (AgentEvent C E)}
    (ordered : Ordered H clock maxSteps trace) (operation : AgentOperation) :
    Ordered H clock maxSteps (.executed operation none :: trace) :=
  ⟨by simp, ordered⟩

theorem Ordered.produced {clock : Nat → Instant} {maxSteps : Nat} {trace : List (AgentEvent C E)}
    (ordered : Ordered H clock maxSteps trace) {operation : AgentOperation} {bytes : List UInt8}
    (produced : operation.Produces H clock bytes) :
    Ordered H clock maxSteps (.executed operation (some bytes) :: trace) := by
  refine ⟨?_, ordered⟩
  intro other same
  cases Option.some.inj same
  exact produced

end trace

section session
variable {S M C E H : Type} [ModelSession C E] [ToolHandler H]

/-- A session that waits has decided on the operation that is kept for it. -/
structure Awaits (σ : AgentSystem S M C E H) (active : ActiveSession C)
    (pending : PendingApproval) : Prop where
  counted : active.nextStep = turnsSince σ.trace + 1
  asked : ∃ model request decision before,
    σ.trace = .decided model request (.ok decision) active.model :: before ∧
      ∀ operation, σ.agent.Retains pending.adapter pending.approvalId operation →
        decision.Describes operation

/-- The invariant between calls. -/
structure Talks (env : Env) (σ : AgentSystem S M C E H) : Prop where
  ordered : Ordered H env.clock σ.agent.config.maxSteps σ.trace
  bounded : ∀ active, σ.agent.active = some active →
    active.nextStep ≤ σ.agent.config.maxSteps + 1
  waiting : ∀ active, σ.agent.active = some active → ∀ pending,
    active.pendingApproval = some pending → Awaits σ active pending

/-- The invariant of the loop, with the turns that are left. -/
structure Driving (env : Env) (turns : Nat) (σ : AgentSystem S M C E H)
    (active : ActiveSession C) : Prop where
  session : σ.agent.active = some active
  free : active.pendingApproval = none
  ordered : Ordered H env.clock σ.agent.config.maxSteps σ.trace
  bounded : active.nextStep ≤ σ.agent.config.maxSteps + 1
  counted : active.nextStep = turnsSince σ.trace + 1
  handed : HandedOver active.model active.previousOperationOutput σ.trace
  turns : σ.agent.config.maxSteps + 2 ≤ turns + active.nextStep

/-- A call is done: the invariant holds again, and the loop did come to its end. -/
def Done (env : Env) {α : Type} (out : Except AgentStop α × AgentSystem S M C E H) : Prop :=
  Talks env out.2 ∧ out.1 ≠ .error .unfinished

variable {env : Env}

theorem Talks.idle {σ : AgentSystem S M C E H}
    (ordered : Ordered H env.clock σ.agent.config.maxSteps σ.trace)
    (idle : σ.agent.active = none) : Talks env σ where
  ordered := ordered
  bounded active there := by
    rw [idle] at there
    cases there
  waiting active there := by
    rw [idle] at there
    cases there

theorem AgentStop.ofStop_ne_unfinished (stop : Stop) : AgentStop.ofStop stop ≠ .unfinished := by
  cases stop <;> exact AgentStop.noConfusion

theorem finished_ok {α : Type} (value : α) :
    (.ok value : Except AgentStop α) ≠ .error .unfinished := by
  intro same
  cases same

theorem finished_err {α : Type} (error : AgentError) :
    (.error (.err error) : Except AgentStop α) ≠ .error .unfinished := by
  intro same
  cases same

theorem finished_panic {α : Type} (message : String) :
    (.error (.panic message) : Except AgentStop α) ≠ .error .unfinished := by
  intro same
  cases same

omit [ModelSession C E] [ToolHandler H] in
theorem Ends.finished [EventStore S] {taskId : TaskId} {method : SupervisorM S Unit}
    {answer : Except AgentStop AgentRunOutcome} (ends : Ends env taskId method answer) :
    answer ≠ .error .unfinished := by
  cases ends <;> rintro ⟨⟩

theorem done_concluded {α : Type} {σ : AgentSystem S M C E H} {method : SupervisorM S Unit}
    {answer : Except AgentStop α} (ordered : Ordered H env.clock σ.agent.config.maxSteps σ.trace)
    (finished : answer ≠ .error .unfinished) : Done env (concluded method answer σ) := by
  refine ⟨.idle ordered rfl, ?_⟩
  unfold concluded
  rcases exec method σ.process with ⟨stop | value, after⟩
  · intro same
    exact AgentStop.ofStop_ne_unfinished stop (Except.error.inj same)
  · exact finished

end session

section loop
variable {S M C E H : Type} [EventStore S] [ModelSession C E] [ToolHandler H] {env : Env}
  {σ : AgentSystem S M C E H} {active : ActiveSession C} {turns : Nat}

omit [EventStore S] in
theorem Driving.heard (driving : Driving env turns σ active)
    (steps : active.nextStep ≤ σ.agent.config.maxSteps) {answer : Except E ModelDecision}
    {after : C} (decided : ModelSession.decide active.model
      ⟨active.nextStep, active.previousOperationOutput⟩ = (answer, after)) :
    Ordered H env.clock σ.agent.config.maxSteps (.decided active.model
      ⟨active.nextStep, active.previousOperationOutput⟩ answer after :: σ.trace) :=
  ⟨⟨driving.counted, steps, driving.handed, decided⟩, driving.ordered⟩

omit [EventStore S] in
theorem Driving.saw (driving : Driving env turns σ active) {τ : AgentSystem S M C E H}
    (saw : Saw σ active τ) : Ordered H env.clock τ.agent.config.maxSteps τ.trace := by
  obtain ⟨session, agent⟩ := saw.agent
  rw [agent]
  rcases saw.trace with same | ⟨steps, answer, after, decided, same⟩
  · rw [same]
    exact driving.ordered
  · rw [same]
    exact driving.heard steps decided

section port
variable {A O Output Err : Type} [ContextualOperation O] [ExecutionAdapter A O Output Err]
  [DecidableEq Err] {port : Port M C H A O Output Err} {gate : ExecutionGate A O}

theorem driving_submitted (lawful : port.Lawful) (driving : Driving env (turns + 1) σ active)
    (steps : active.nextStep ≤ σ.agent.config.maxSteps) {decision : ModelDecision} {after : C}
    (decided : ModelSession.decide active.model
      ⟨active.nextStep, active.previousOperationOutput⟩ = (.ok decision, after))
    {operation : O} (described : decision.Describes (port.operation operation))
    (answer : Except Stop OperationAuthorization) (process : Process S) :
    Leads (fun τ => ∃ session, Driving env turns τ session) (Done env)
      (submitted env port (σ.poised active (.ok decision, after)) gate
        { active with model := after, nextStep := active.nextStep + 1 } operation
        answer process) := by
  have heard := driving.heard steps decided
  have config : ∀ gate : ExecutionGate A O,
      (port.setGate (σ.poised active (.ok decision, after)).agent gate).config = σ.agent.config :=
    fun gate => lawful.config _ gate
  have ordered : ∀ (gate : ExecutionGate A O) (process : Process S),
      Ordered H env.clock (port.served (σ.poised active (.ok decision, after)) gate process []).agent.config.maxSteps
        (port.served (σ.poised active (.ok decision, after)) gate process []).trace := by
    intro gate process
    change Ordered H env.clock (port.setGate _ gate).config.maxSteps _
    rw [config]
    exact heard
  have counted : active.nextStep + 1 = turnsSince (.decided active.model
      ⟨active.nextStep, active.previousOperationOutput⟩ (.ok decision) after :: σ.trace) + 1 :=
    congrArg Nat.succ driving.counted
  have unsettled : ∀ (gate : ExecutionGate A O) (process : Process S),
      Talks env (port.served (σ.poised active (.ok decision, after)) gate process []) := by
    intro gate process
    have session : (port.served (σ.poised active (.ok decision, after)) gate process
        []).agent.active = some { active with model := after, nextStep := active.nextStep + 1 } :=
      lawful.active _ _
    refine ⟨ordered gate process, ?_, ?_⟩
    · intro other there
      cases Option.some.inj (session.symm.trans there)
      change active.nextStep + 1 ≤ (port.setGate _ gate).config.maxSteps + 1
      rw [config]
      exact Nat.succ_le_succ steps
    · intro other there pending waits
      cases Option.some.inj (session.symm.trans there)
      rw [driving.free] at waits
      cases waits
  rcases answer with (error | message) | allowed | reason | approval
  · exact ⟨.idle (ordered gate process) rfl, finished_err _⟩
  · exact ⟨unsettled gate process, finished_panic _⟩
  · rcases ran : ExecutionAdapter.execute env.clock gate.adapter operation
      process.world.reads with ⟨error | output, adapter, reads⟩
    · have ended : ∀ method (answer : Except AgentStop AgentRunOutcome),
          answer ≠ .error .unfinished →
          Leads (fun τ => ∃ session, Driving env turns τ session) (Done env)
            (concluded method (answer.map some) (port.served (σ.poised active (.ok decision, after))
              { gate with adapter := adapter }
              { process with world := { process.world with reads := reads } }
              [.executed (port.operation operation) none])) :=
        fun method answer finished =>
          leads_concluded (done_concluded ((ordered _ process).failed _) finished)
      rw [submitted, ran]
      dsimp only
      split
      · exact ended _ (.error (.err .budgetExceeded)) (finished_err _)
      · exact ended _ (.error (.err port.failed)) (finished_err _)
    · rw [submitted, ran]
      have produced := lawful.produces env.clock gate.adapter operation process.world.reads output
        (congrArg Prod.fst ran)
      refine ⟨_, rfl, driving.free, (ordered _ process).produced produced, ?_, counted,
        ⟨rfl, rfl, described⟩, ?_⟩
      · change active.nextStep + 1 ≤ (port.setGate _ _).config.maxSteps + 1
        rw [config]
        exact Nat.succ_le_succ steps
      · change (port.setGate _ _).config.maxSteps + 2 ≤ turns + (active.nextStep + 1)
        rw [config]
        have := driving.turns
        omega
  · have ended : Done env (concluded (failTask env active.taskId)
        (.ok (AgentRunOutcome.denied reason))
        (port.served (σ.poised active (.ok decision, after)) gate process [])) :=
      done_concluded (ordered gate process) (finished_ok _)
    exact leads_concluded ended
  · simp only [submitted]
    split
    · refine ⟨⟨ordered _ process, ?_, ?_⟩, finished_ok _⟩
      · intro other there
        cases Option.some.inj there
        change active.nextStep + 1 ≤ (port.setGate _ _).config.maxSteps + 1
        rw [config]
        exact Nat.succ_le_succ steps
      · intro other there pending waits
        cases Option.some.inj there
        cases Option.some.inj waits
        refine ⟨counted, _, _, decision, _, rfl, ?_⟩
        intro kept retained
        obtain ⟨own, held, found, holding, rfl⟩ := lawful.retains.mp retained
        have own_is := found.symm.trans ((lawful.session _ _).trans (lawful.installed _ _))
        cases Option.some.inj own_is
        rw [← holds_retain.mp holding]
        exact described
    · exact ⟨unsettled _ process, finished_panic _⟩

omit [EventStore S] [DecidableEq Err] in
theorem Talks.served (talks : Talks env σ) (lawful : port.Lawful)
    (found : port.gate σ.agent = some gate) {after : ExecutionGate A O} (fewer : Fewer gate after)
    (process : Process S) : Talks env (port.served σ after process []) := by
  have config : (port.setGate σ.agent after).config = σ.agent.config := lawful.config _ _
  have same : (port.setGate σ.agent after).active = σ.agent.active := lawful.active _ _
  refine ⟨?_, ?_, ?_⟩
  · change Ordered H env.clock (port.setGate σ.agent after).config.maxSteps σ.trace
    rw [config]
    exact talks.ordered
  · intro active there
    change active.nextStep ≤ (port.setGate σ.agent after).config.maxSteps + 1
    rw [config]
    exact talks.bounded active (same.symm.trans there)
  · intro active there pending waits
    obtain ⟨counted, model, request, decision, before, trace, describes⟩ :=
      talks.waiting active (same.symm.trans there) pending waits
    refine ⟨counted, model, request, decision, before, trace, ?_⟩
    intro operation retained
    apply describes
    by_cases own : pending.adapter = port.adapter
    · rw [own] at retained ⊢
      obtain ⟨gate', kept, installed, held, shown⟩ := lawful.retains.mp retained
      cases Option.some.inj (installed.symm.trans (lawful.installed _ _))
      exact lawful.retains.mpr ⟨gate, kept, found, fewer.holds held, shown⟩
    · have apart := lawful.apart σ.agent after pending.adapter own
      exact apart ▸ retained

end port

theorem driving_turn (driving : Driving env (turns + 1) σ active) :
    Leads (fun τ => ∃ session, Driving env turns τ session) (Done env) (exec (turn env) σ) := by
  apply turn_rule driving.session
  · intro error _
    refine ⟨⟨driving.ordered, ?_, ?_⟩, finished_err _⟩
    · intro other there
      cases Option.some.inj (driving.session.symm.trans there)
      exact driving.bounded
    · intro other there pending waits
      cases Option.some.inj (driving.session.symm.trans there)
      rw [driving.free] at waits
      cases waits
  · intro τ method answer context saw ends _ _
    exact leads_concluded (done_concluded (driving.saw saw) ends.finished)
  · intro A O Output Err _ _ _ port gate context operation decision after answer process lawful
      proposes found described _ _
    exact driving_submitted lawful driving proposes.steps proposes.decided
      (lawful.describes decision context operation described) answer process

theorem driving_done (driving : Driving env (σ.agent.config.maxSteps + 1) σ active) :
    Done env (exec (drive env) σ) := by
  rw [exec_drive]
  refine drive_rule (I := fun turns τ => ∃ session, Driving env turns τ session) ?_ ?_
    ⟨active, driving⟩
  · rintro τ ⟨session, driving⟩
    -- one turn more than there are steps left
    have := driving.turns
    have := driving.bounded
    omega
  · rintro turns τ ⟨session, driving⟩
    exact driving_turn driving

theorem Talks.start [ModelAdapter M C E] (talks : Talks env σ) (taskId : TaskId) :
    Done env (exec (start env taskId) σ) := by
  apply enter_rule
  apply openFor_rule
  · exact fun _ => ⟨talks, finished_err _⟩
  · intro stop process idle _
    refine ⟨.idle talks.ordered idle, fun same => ?_⟩
    exact AgentStop.ofStop_ne_unfinished stop (Except.error.inj same)
  · intro input process idle _
    exact enters_concluded (done_concluded talks.ordered (finished_err _))
  · intro input process model idle _ answered
    have handed : HandedOver model none (AgentEvent.opened taskId (σ.agent.startRequest input)
        (ModelAdapter.startSession σ.agent.modelAdapter (σ.agent.startRequest input)).1 ::
          σ.trace) := by
      rw [answered]
      exact ⟨rfl, rfl⟩
    apply driving_done
    exact ⟨rfl, rfl, talks.ordered, Nat.le_add_left 1 _, rfl, handed, Nat.le_refl _⟩

section port
variable {A O Output Err : Type} [ContextualOperation O] [ExecutionAdapter A O Output Err]
  [DecidableEq Err] {port : Port M C H A O Output Err}

theorem Talks.resume (talks : Talks env σ) (lawful : port.Lawful)
    (session : σ.agent.active = some active) {pending : PendingApproval}
    (waits : active.pendingApproval = some pending) (own : pending.adapter = port.adapter) :
    Enters (fun τ => Done env (exec (drive env) τ)) (Done env) (exec (do
      let output ← approveThrough env port active.taskId pending.approvalId
      updateActive (fun active => { active with
        pendingApproval := none, previousOperationOutput := some output })) σ) := by
  cases found : port.gate σ.agent with
  | none =>
    have missing : exec (approveThrough env port active.taskId pending.approvalId) σ =
        (.error (.err .invalidState), σ) := exec_bind_error (Port.exec_run_missing found _)
    rw [exec_bind_error missing]
    exact ⟨talks, finished_err _⟩
  | some gate =>
    have awaits := talks.waiting active session pending waits
    have config : ∀ gate : ExecutionGate A O,
        (port.setGate σ.agent gate).config = σ.agent.config := lawful.config σ.agent
    have ordered : ∀ gate : ExecutionGate A O,
        Ordered H env.clock (port.setGate σ.agent gate).config.maxSteps σ.trace := by
      intro gate
      rw [config]
      exact talks.ordered
    have stopping : ∀ (stop : Stop) {after : ExecutionGate A O} (process : Process S),
        Fewer gate after → Done env ((.error (.ofStop stop), port.served σ after process []) :
          Except AgentStop AgentRunOutcome × AgentSystem S M C E H) := by
      intro stop after process fewer
      refine ⟨talks.served lawful found fewer process, fun same => ?_⟩
      exact AgentStop.ofStop_ne_unfinished stop (Except.error.inj same)
    have approves : Approves env port σ gate active.taskId pending.approvalId _ :=
      approveThrough_cases lawful found
    rw [exec_andThen]
    generalize exec (approveThrough env port active.taskId pending.approvalId) σ = out at approves ⊢
    cases approves with
    | gone _ =>
      rw [andThen_concluded]
      exact enters_concluded (done_concluded (ordered gate) (finished_err _))
    | stopped _ => exact stopping _ _ (.refl gate)
    | @unused operationId => exact stopping _ _ (.erase gate _ operationId)
    | broke approved _ _ ends =>
      rw [andThen_concluded]
      exact enters_concluded (done_concluded ((ordered _).failed _) ends.finished)
    | @executed operationId kept granted receipt process output adapter reads approved _ ran =>
      have produced := lawful.produces env.clock gate.adapter kept.operation process.world.reads
        output (congrArg Prod.fst ran)
      obtain ⟨counted, model, request, decision, before, trace, describes⟩ := awaits
      have described : decision.Describes (port.operation kept.operation) := by
        apply describes
        rw [own]
        exact lawful.retains.mpr ⟨gate, kept.operation, found,
          ⟨operationId, kept, approved.indexed, approved.retained, rfl⟩, rfl⟩
      have handed : HandedOver active.model (some (port.bytes output))
          (AgentEvent.executed (port.operation kept.operation) (some (port.bytes output)) ::
            σ.trace) := by
        rw [trace]
        exact ⟨rfl, rfl, described⟩
      have bounded := talks.bounded active session
      rw [andThen, exec_updateActive ((lawful.active σ.agent _).trans session)]
      apply driving_done
      refine ⟨rfl, rfl, (ordered _).produced produced, ?_, counted, handed, ?_⟩
      · change active.nextStep ≤ (port.setGate _ _).config.maxSteps + 1
        rw [config]
        exact bounded
      · change (port.setGate _ _).config.maxSteps + 2 ≤
          (port.setGate _ _).config.maxSteps + 1 + active.nextStep
        omega

end port

theorem Talks.approveAndResume (talks : Talks env σ) (approvalId : ApprovalId) :
    Done env (exec (approveAndResume env approvalId) σ) := by
  apply enter_rule
  apply takeUp_rule
  · exact ⟨talks, finished_err _⟩
  · rintro active ⟨id, adapter⟩ session waits rfl
    cases adapter with
    | tool => exact talks.resume Port.toolPort_lawful session waits rfl
    | network => exact talks.resume Port.networkPort_lawful session waits rfl

end loop

section methods
variable {S M C E H : Type} [EventStore S] [ModelSession C E] [ToolHandler H] {env : Env}
  {σ : AgentSystem S M C E H}

omit [EventStore S] in
theorem talks_setActive_none : Keeps (Talks env) (setActive none : AgentM S M C E H Unit) :=
  fun _ talks => .idle talks.ordered rfl

omit [EventStore S] in
theorem Talks.process (talks : Talks env σ) (process : Process S) :
    Talks env { σ with process := process } where
  ordered := talks.ordered
  bounded := talks.bounded
  waiting active there pending waits :=
    ⟨(talks.waiting active there pending waits).counted,
      (talks.waiting active there pending waits).asked⟩

omit [EventStore S] in
theorem talks_supervising {α : Type} (method : SupervisorM S α) :
    Keeps (Talks env) (supervising method : AgentM S M C E H α) := by
  intro σ talks
  rw [exec_supervising]
  exact talks.process _

section port
variable {A O Output Err α : Type} [ContextualOperation O] [ExecutionAdapter A O Output Err]
  {port : Port M C H A O Output Err}

/-- A method of the gate that executes nothing and retains nothing new. -/
def Sheds (method : GateM S A O Err α) : Prop :=
  ∀ σ : System S A O, (exec method σ).2.executed = σ.executed ∧
    Fewer σ.gate (exec method σ).2.gate

omit [EventStore S] [ContextualOperation O] [ExecutionAdapter A O Output Err] in
theorem sheds_deny [EventStore S] (approvalId : ApprovalId) :
    Sheds (ExecutionGate.deny env approvalId : GateM S A O Err TaskSnapshot) := by
  intro σ
  rw [ExecutionGate.exec_deny]
  split
  · exact ⟨rfl, .refl _⟩
  · split
    · exact ⟨rfl, .refl _⟩
    · exact ⟨rfl, .erase _ _ _⟩

omit [EventStore S] [ContextualOperation O] [ExecutionAdapter A O Output Err] in
theorem sheds_expire [EventStore S] : Sheds (ExecutionGate.expire env : GateM S A O Err Nat) := by
  intro σ
  rw [ExecutionGate.exec_expire]
  split
  · exact ⟨rfl, .refl _⟩
  · exact ⟨rfl, .purgeTerminal _ _⟩

omit [EventStore S] [ContextualOperation O] [ExecutionAdapter A O Output Err] in
theorem sheds_cancel [EventStore S] (taskId : TaskId) :
    Sheds (ExecutionGate.cancel env taskId : GateM S A O Err Bool) := by
  intro σ
  rw [ExecutionGate.exec_cancel]
  split
  · exact ⟨rfl, .refl _⟩
  · exact ⟨rfl, .removeTask _ _⟩

omit [EventStore S] in
theorem talks_run (lawful : port.Lawful) {method : GateM S A O Err α} (sheds : Sheds method) :
    Keeps (Talks env) (port.run env method : AgentM S M C E H _) := by
  intro σ talks
  cases found : port.gate σ.agent with
  | none =>
    rw [Port.exec_run_missing found]
    exact talks
  | some gate =>
    obtain ⟨executed, fewer⟩ := sheds (Port.system σ gate)
    have kept := talks.served lawful found fewer (exec method (Port.system σ gate)).2.process
    rw [Port.exec_run found, Port.absorb, executed]
    exact kept

end port

theorem talks_deny (approvalId : ApprovalId) :
    Keeps (Talks env) (deny env approvalId : AgentM S M C E H Unit) :=
  keeps_deny talks_setActive_none (keeps_denyAdapter fun _ lawful =>
    talks_run lawful (sheds_deny approvalId))

theorem talks_expire : Keeps (Talks env) (expire env : AgentM S M C E H Nat) :=
  keeps_expire talks_setActive_none (fun _ => talks_supervising _) (fun _ => talks_supervising _)
    (keeps_expireAdapter fun _ lawful => talks_run lawful sheds_expire)

theorem talks_cancel (taskId : TaskId) :
    Keeps (Talks env) (cancel env taskId : AgentM S M C E H Bool) :=
  keeps_cancel talks_setActive_none (keeps_cancelAdapter fun _ lawful =>
    talks_run lawful (sheds_cancel taskId))

end methods

namespace AgentSystem
variable {S M C E H : Type} [LawfulEventStore S] [ModelSession C E] [ModelAdapter M C E]
  [ToolHandler H] {env : Env} {σ : AgentSystem S M C E H}

theorem Runs.talks (runs : Runs env σ) : Talks env σ := by
  induction runs with
  | start constructed modelAdapter catalog site config => exact .idle trivial rfl
  | @step σ runs act ih =>
    cases act with
    | start taskId => exact (ih.start taskId).1
    | approveAndResume approvalId => exact (ih.approveAndResume approvalId).1
    | deny approvalId => exact talks_deny approvalId σ ih
    | expire => exact talks_expire σ ih
    | cancel taskId => exact talks_cancel taskId σ ih
    | withNetworkGate site =>
      refine ⟨ih.ordered, ih.bounded, ?_⟩
      rintro active there ⟨approvalId, adapter⟩ waits
      obtain ⟨counted, model, request, decision, before, trace, describes⟩ :=
        ih.waiting active there _ waits
      refine ⟨counted, model, request, decision, before, trace, ?_⟩
      intro operation retained
      cases adapter with
      | tool => exact describes operation retained
      | network =>
        -- the new gate retains nothing
        obtain ⟨gate, kept, installed, ⟨operationId, pending, indexed, _⟩, _⟩ := retained
        cases Option.some.inj installed
        cases indexed
    | direct call => exact ih.process _
    | elapse => exact ih.process _

/-- Model turns are ordered, isolated and bounded: in every run, each call of a session is
told its number and what its last decision has produced, no session is asked more often than
the configuration allows, and every call that drives a session ends. -/
theorem turns_ordered (runs : Runs env σ) :
    Ordered H env.clock σ.agent.config.maxSteps σ.trace ∧
      (∀ active, σ.agent.active = some active →
        active.nextStep ≤ σ.agent.config.maxSteps + 1) ∧
      (∀ taskId, (exec (start env taskId) σ).1 ≠ .error .unfinished) ∧
      ∀ approvalId, (exec (approveAndResume env approvalId) σ).1 ≠ .error .unfinished :=
  ⟨runs.talks.ordered, runs.talks.bounded, fun taskId => (runs.talks.start taskId).2,
    fun approvalId => (runs.talks.approveAndResume approvalId).2⟩

end AgentSystem

def AgentEvent.told {C E : Type} : AgentEvent C E → Option ModelTurnRequest
  | .decided _ request _ _ => some request
  | .opened .. | .executed .. => none

set_option maxRecDepth 4000 in
/-- The second step of this session is told the output of an operation that was executed at
once, the third that of one that had to wait. -/
theorem turns_ordered_resumed :
    let σ := Sample.agent (Sample.toolCall "status" ++ Sample.toolCall "push" ++ Sample.finish)
      [.direct (.submit AiOs.Sample.spec), .start ⟨0⟩, .approveAndResume ⟨2⟩]
    (Ordered Sample.Counter AiOs.Sample.env.clock σ.agent.config.maxSteps σ.trace ∧
      (∀ active, σ.agent.active = some active →
        active.nextStep ≤ σ.agent.config.maxSteps + 1) ∧
      (∀ taskId, (exec (start AiOs.Sample.env taskId) σ).1 ≠ .error .unfinished) ∧
      ∀ approvalId, (exec (approveAndResume AiOs.Sample.env approvalId) σ).1 ≠
        .error .unfinished) ∧
    σ.trace.reverse.filterMap AgentEvent.told =
      [⟨1, none⟩, ⟨2, some [10]⟩, ⟨3, some [0]⟩] :=
  ⟨AgentSystem.turns_ordered (Sample.agent_runs _ _), by decide +kernel⟩

end AiOs.Agent
