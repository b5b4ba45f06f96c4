import AiOs.Agent.Turns
import AiOs.Core.Reference
import AiOs.Adapter.Routes

/-! The scope a model session is shown. The catalog filters its routes by the Task's Tools and the
runtime filters the Task's destinations by the network catalog, while the policy decides on each
operation for itself; the two agree. -/
namespace AiOs

/-- The crates that check identifiers have their own copies of one check. -/
theorem identifier_checks_agree (value : String) :
    Tool.isValidIdentifier value = isValidIdentifier value maxToolNameBytes ∧
      Tool.isValidIdentifier value = isValidIdentifier value maxActionBytes ∧
      Tool.isValidIdentifier value = isValidIdentifier value maxIdentifierBytes ∧
      Tool.isValidIdentifier value = Agent.isValidIdentifier value :=
  ⟨rfl, rfl, rfl, rfl⟩

def PolicyDecision.Denies (decision : PolicyDecision) : Prop := ∃ reason, decision = .deny reason

namespace CapabilityPolicy
variable {policy : CapabilityPolicy}

theorem finish_denies {granted : Bool} {action : String} :
    (policy.finish granted action).Denies ↔ granted = false := by
  cases granted with
  | false => simp [finish, PolicyDecision.Denies]
  | true =>
    unfold finish PolicyDecision.Denies
    simp only [Bool.not_true, Bool.false_eq_true, if_false]
    split
    · simp
    · simp

theorem finish_form {granted : Bool} {action : String} :
    policy.finish granted action ≠ .deny .invalidRequest := by
  unfold finish
  split
  · simp
  · split
    · simp
    · simp

theorem evaluateTool_denies {tool action : String} (named : Tool.isValidIdentifier tool = true)
    (acting : Tool.isValidIdentifier action = true) :
    (policy.evaluate (.tool tool action)).Denies ↔ tool ∉ policy.task.capabilities.tools := by
  have formed : (!isValidIdentifier tool maxToolNameBytes ||
      !isValidIdentifier action maxActionBytes) = false := by
    rw [← (identifier_checks_agree tool).1, ← (identifier_checks_agree action).2.1, named, acting]
    rfl
  simp only [evaluate, evaluateTool, formed, Bool.false_eq_true, if_false]
  rw [finish_denies, ← Bool.not_eq_true, List.any_beq']
  simp

theorem evaluateTool_form {tool action : String} (named : Tool.isValidIdentifier tool = true)
    (acting : Tool.isValidIdentifier action = true) :
    policy.evaluate (.tool tool action) ≠ .deny .invalidRequest := by
  have formed : (!isValidIdentifier tool maxToolNameBytes ||
      !isValidIdentifier action maxActionBytes) = false := by
    rw [← (identifier_checks_agree tool).1, ← (identifier_checks_agree action).2.1, named, acting]
    rfl
  simp only [evaluate, evaluateTool, formed, Bool.false_eq_true, if_false]
  exact finish_form

theorem evaluateNetwork_denies {host : String} {port : UInt16}
    (hosted : isValidNetworkHost host = true) (nonzero : port ≠ 0) :
    (policy.evaluate (.network host .tcp port)).Denies ↔
      ∀ destinations, policy.task.capabilities.network = .allow destinations →
        ⟨host, .tcp, port⟩ ∉ destinations := by
  have formed : (!isValidNetworkHost host || port == 0) = false := by
    simp [hosted, nonzero]
  simp only [evaluate, evaluateNetwork, formed, Bool.false_eq_true, if_false]
  rw [finish_denies]
  cases policy.task.capabilities.network with
  | deny => simp
  | allow destinations =>
    simp only [List.any_eq_false, NetworkPolicy.allow.injEq, forall_eq']
    constructor
    · intro none member
      exact none _ member (by simp)
    · intro absent destination member
      obtain ⟨found, transport, number⟩ := destination
      intro same
      simp only [Bool.and_eq_true, beq_iff_eq, decide_eq_true_eq] at same
      obtain ⟨⟨rfl, -⟩, rfl⟩ := same
      cases transport
      exact absent member

theorem granted_of_evaluateNetwork {host : String} {port : UInt16}
    (lets : ¬ (policy.evaluate (.network host .tcp port)).Denies) :
    ∃ destinations, policy.task.capabilities.network = .allow destinations ∧
      ⟨host, .tcp, port⟩ ∈ destinations := by
  by_cases formed : isValidNetworkHost host = true ∧ port ≠ 0
  · rw [evaluateNetwork_denies formed.1 formed.2] at lets
    simp only [not_forall, not_not] at lets
    obtain ⟨destinations, allows, listed⟩ := lets
    exact ⟨destinations, allows, listed⟩
  · refine absurd ⟨.invalidRequest, ?_⟩ lets
    have malformed : (!isValidNetworkHost host || port == 0) = true := by
      simp only [not_and, Decidable.not_not] at formed
      cases hosted : isValidNetworkHost host with
      | false => rfl
      | true => simp [formed hosted]
    simp [evaluate, evaluateNetwork, malformed]

end CapabilityPolicy

theorem NetworkPolicy.mem_destinations {network : NetworkPolicy} {destination : NetworkDestination} :
    destination ∈ network.destinations ↔
      ∃ destinations, network = .allow destinations ∧ destination ∈ destinations := by
  cases network with
  | deny => simp [destinations]
  | allow destinations => simp [NetworkPolicy.destinations]

section input
variable {S : Type} [EventStore S] {env : Env} {p after : Process S} {taskId : TaskId}

theorem startExecution_input {record : TaskRecord} {input : TaskExecutionInput}
    (known : p.supervisor.tasks[taskId]? = some record)
    (started : Fallible.exec (startExecution env taskId) p = (.ok input, after)) :
    input = ⟨record.spec.goal, record.spec.capabilities.tools,
      record.spec.capabilities.network.destinations⟩ := by
  unfold startExecution at started
  rw [Fallible.exec_bind_ok (exec_current p), Fallible.exec_bind_ok (Fallible.exec_okOr_found known _ _),
    Fallible.exec_bind] at started
  rcases ran : Fallible.exec (start env taskId) p with ⟨stop | _, process⟩
  · rw [ran] at started
    cases started
  · rw [ran] at started
    cases started
    cases record.spec.capabilities.network <;> rfl

end input

theorem ToolCatalog.prepare_request {catalog : ToolCatalog} {route : String}
    {arguments : List String} {operation : ToolOperation}
    (prepared : catalog.prepare route arguments = .ok operation) :
    ∃ definition, catalog.definitions[route]? = some definition ∧
      GuardedOperation.capabilityRequest operation =
        .tool definition.capabilityTool definition.action := by
  unfold prepare at prepared
  split at prepared
  · cases prepared
  · rename_i definition found
    split at prepared
    · cases prepared
    · cases prepared
      exact ⟨definition, found, rfl⟩

theorem ToolCatalog.prepare_valid {catalog : ToolCatalog} {route : String}
    {arguments : List String} {definition : RouteDefinition}
    (found : catalog.definitions[route]? = some definition)
    (valid : validateArguments arguments = .ok ()) :
    ∃ operation, catalog.prepare route arguments = .ok operation := by
  unfold prepare
  split
  · rename_i missing
    rw [found] at missing
    cases missing
  · split
    · rename_i error refused
      rw [refused] at valid
      cases valid
    · exact ⟨_, rfl⟩

theorem prepareTcpExchange_request {host : String} {port : UInt16} {request : List UInt8}
    {operation : TcpExchangeOperation}
    (prepared : prepareTcpExchange host port request = .ok operation) :
    GuardedOperation.capabilityRequest operation = .network host .tcp port := by
  unfold prepareTcpExchange at prepared
  split at prepared
  · cases prepared
  · cases prepared
    rfl

namespace Agent

open Fallible

section scope
variable (policy : CapabilityPolicy)

/-- The policy lets through what the catalog prepares for a route and some arguments. -/
def GrantsRoute (catalog : ToolCatalog) (route : String) (arguments : List String) : Prop :=
  ∃ operation, catalog.prepare route arguments = .ok operation ∧
    ¬ (policy.evaluate (GuardedOperation.capabilityRequest operation)).Denies

/-- The policy lets through what the network catalog prepares for a host and a port. -/
def GrantsDestination (host : String) (port : UInt16) : Prop :=
  ∃ operation, prepareTcpExchange host port [] = .ok operation ∧
    ¬ (policy.evaluate (GuardedOperation.capabilityRequest operation)).Denies

end scope

def ModelStartRequest.Lists (request : ModelStartRequest) (host : String) (port : UInt16) : Prop :=
  ∃ destination ∈ request.networkDestinations, destination.host = host ∧ destination.port = port

section listed
variable {H : Type} (policy : CapabilityPolicy)

theorem route_listed_iff {builder : ToolAdapterBuilder H}
    {registrations : List (ToolRegistration H)} (built : builder.Built registrations)
    {route : String} {arguments : List String} (valid : validateArguments arguments = .ok ()) :
    route ∈ builder.build.1.routeNamesForTools policy.task.capabilities.tools ↔
      builder.build.1.definitions[route]?.isSome ∧
        GrantsRoute policy builder.build.1 route arguments := by
  simp only [ToolCatalog.routeNamesForTools, List.mem_map, List.mem_filter, List.contains_iff_mem,
    Prod.exists, exists_and_right, exists_eq_right, OrdMap.mem_toList]
  constructor
  · rintro ⟨definition, found, granted⟩
    obtain ⟨operation, prepared⟩ := ToolCatalog.prepare_valid found valid
    obtain ⟨same, found', request⟩ := ToolCatalog.prepare_request prepared
    cases Option.some.inj (found.symm.trans found')
    obtain ⟨named, acting⟩ := built.named route definition found
    refine ⟨by rw [found]; rfl, operation, prepared, ?_⟩
    rw [request, CapabilityPolicy.evaluateTool_denies named acting]
    exact fun absent => absent granted
  · rintro ⟨-, operation, prepared, lets⟩
    obtain ⟨definition, found, request⟩ := ToolCatalog.prepare_request prepared
    obtain ⟨named, acting⟩ := built.named route definition found
    rw [request, CapabilityPolicy.evaluateTool_denies named acting, not_not] at lets
    exact ⟨definition, found, lets⟩

/-- No registered route is denied for its form. -/
theorem registered_form {builder : ToolAdapterBuilder H}
    {registrations : List (ToolRegistration H)} (built : builder.Built registrations)
    {route : String} {arguments : List String} {operation : ToolOperation}
    (prepared : builder.build.1.prepare route arguments = .ok operation) :
    policy.evaluate (GuardedOperation.capabilityRequest operation) ≠ .deny .invalidRequest := by
  obtain ⟨definition, found, request⟩ := ToolCatalog.prepare_request prepared
  obtain ⟨named, acting⟩ := built.named route definition found
  rw [request]
  exact CapabilityPolicy.evaluateTool_form named acting

/-- What a Task allows is listed as far as the network catalog accepts it. -/
theorem destination_listed_iff {request : ModelStartRequest}
    (shown : request.networkDestinations = policy.task.capabilities.network.destinations.filter
      (fun destination => (prepareTcpExchange destination.host destination.port []).isOk))
    (host : String) (port : UInt16) :
    request.Lists host port ↔ GrantsDestination policy host port := by
  unfold ModelStartRequest.Lists GrantsDestination
  rw [shown]
  constructor
  · rintro ⟨⟨host, transport, port⟩, member, rfl, rfl⟩
    cases transport
    obtain ⟨allowed, accepted⟩ := List.mem_filter.mp member
    obtain ⟨destinations, allows, listed⟩ := NetworkPolicy.mem_destinations.mp allowed
    obtain ⟨hosted, nonzero⟩ := policy.valid.destination allows _ listed
    dsimp only at accepted hosted nonzero ⊢
    cases prepared : prepareTcpExchange host port [] with
    | error error =>
      rw [prepared] at accepted
      cases accepted
    | ok operation =>
      refine ⟨operation, rfl, ?_⟩
      rw [prepareTcpExchange_request prepared,
        CapabilityPolicy.evaluateNetwork_denies hosted nonzero]
      exact fun absent => absent destinations allows listed
  · rintro ⟨operation, prepared, lets⟩
    rw [prepareTcpExchange_request prepared] at lets
    obtain ⟨destinations, allows, listed⟩ := CapabilityPolicy.granted_of_evaluateNetwork lets
    refine ⟨⟨host, .tcp, port⟩, List.mem_filter.mpr ⟨?_, ?_⟩, rfl, rfl⟩
    · exact NetworkPolicy.mem_destinations.mpr ⟨destinations, allows, listed⟩
    · rw [prepared]
      rfl

end listed

section loop
variable {S M C E H : Type}

def AgentEvent.opening : AgentEvent C E → Option (TaskId × ModelStartRequest × Except E C)
  | .opened taskId request answer => some (taskId, request, answer)
  | .decided .. | .executed .. => none

/-- The sessions that were asked for, newest first, with what the model adapter answered. -/
def openings (trace : List (AgentEvent C E)) : List (TaskId × ModelStartRequest × Except E C) :=
  trace.filterMap AgentEvent.opening

variable [EventStore S] {env : Env} {σ : AgentSystem S M C E H} {active : ActiveSession C}

/-- The loop is in a session, and these sessions were asked for. -/
def Inside (asked : List (TaskId × ModelStartRequest × Except E C))
    (τ : AgentSystem S M C E H) : Prop :=
  (∃ session, τ.agent.active = some session) ∧ openings τ.trace = asked

def Asked {α : Type} (asked : List (TaskId × ModelStartRequest × Except E C))
    (out : Except AgentStop α × AgentSystem S M C E H) : Prop := openings out.2.trace = asked

theorem asked_submitted {A O Output Err : Type} [ContextualOperation O]
    [ExecutionAdapter A O Output Err] [DecidableEq Err] (port : Port M C H A O Output Err)
    (gate : ExecutionGate A O) (operation : O) (answer : Except Stop OperationAuthorization)
    (process : Process S) :
    Leads (Inside (openings σ.trace)) (Asked (openings σ.trace))
      (submitted env port σ gate active operation answer process) := by
  have ended : ∀ (method : SupervisorM S Unit) (answer : Except AgentStop AgentRunOutcome)
      (τ : AgentSystem S M C E H), openings τ.trace = openings σ.trace →
      Leads (Inside (openings σ.trace)) (Asked (openings σ.trace))
        (concluded method (answer.map some) τ) :=
    fun _ _ _ same => leads_concluded same
  rcases answer with (error | message) | allowed | reason | approval
  · rfl
  · rfl
  · rw [submitted]
    rcases ExecutionAdapter.execute env.clock gate.adapter operation process.world.reads
      with ⟨error | output, adapter, reads⟩
    · dsimp only
      split
      · exact ended _ (.error (.err .budgetExceeded)) _ rfl
      · exact ended _ (.error (.err port.failed)) _ rfl
    · exact ⟨⟨_, rfl⟩, rfl⟩
  · exact ended _ (.ok (.denied reason)) _ rfl
  · rw [submitted]
    split
    · rfl
    · rfl

variable [ModelSession C E] [ToolHandler H]

theorem asked_turn {asked : List (TaskId × ModelStartRequest × Except E C)}
    (inside : Inside asked σ) :
    Leads (Inside asked) (Asked asked) (exec (turn env) σ) := by
  obtain ⟨⟨active, session⟩, rfl⟩ := inside
  apply turn_rule session
  · intro error _
    rfl
  · intro τ method answer context saw ends _ _
    apply leads_concluded
    change openings τ.trace = openings σ.trace
    rcases saw.trace with same | ⟨_, heard, after, _, same⟩
    · rw [same]
    · rw [same]
      rfl
  · intro A O Output Err _ _ _ port gate context operation decision after answer process _ _ _ _ _ _
    exact asked_submitted port gate _ answer process

theorem asked_drive {asked : List (TaskId × ModelStartRequest × Except E C)}
    (inside : Inside asked σ) :
    Asked asked (exec (drive env) σ) := by
  rw [exec_drive]
  refine drive_rule (I := fun _ => Inside asked) ?_ ?_ inside
  · intro τ inside
    exact inside.2
  · intro turns τ inside
    exact asked_turn inside

/-- What a session is shown of a Task whose policy is given: the routes that the policy grants,
and, where there is a network gate, the destinations that it grants. -/
structure ExactScope (agent : AgentRuntime M C H) (policy : CapabilityPolicy)
    (request : ModelStartRequest) : Prop where
  routes : ∀ route arguments, validateArguments arguments = .ok () →
    (route ∈ request.toolRoutes ↔ agent.toolCatalog.definitions[route]?.isSome ∧
      GrantsRoute policy agent.toolCatalog route arguments)
  destinations : agent.network.isSome → ∀ host port,
    (request.Lists host port ↔ GrantsDestination policy host port)
  offline : agent.network = none → request.networkDestinations = []

variable {builder : ToolAdapterBuilder H} {registrations : List (ToolRegistration H)}
  {taskId : TaskId} {record : TaskRecord}

omit [EventStore S] [ModelSession C E] [ToolHandler H] in
theorem startRequest_exact (built : builder.Built registrations)
    (catalog : σ.agent.toolCatalog = builder.build.1) (valid : record.spec.Valid) :
    ExactScope σ.agent ⟨record.spec, valid⟩ (σ.agent.startRequest
      ⟨record.spec.goal, record.spec.capabilities.tools,
        record.spec.capabilities.network.destinations⟩) := by
  constructor
  · intro route arguments fit
    have listed : route ∈ builder.build.1.routeNamesForTools record.spec.capabilities.tools ↔
        builder.build.1.definitions[route]?.isSome ∧
          GrantsRoute ⟨record.spec, valid⟩ builder.build.1 route arguments :=
      route_listed_iff ⟨record.spec, valid⟩ built fit
    rw [catalog, ← listed, ← catalog]
    rfl
  · intro networked host port
    apply destination_listed_iff
    obtain ⟨gate, present⟩ := Option.isSome_iff_exists.mp networked
    simp [AgentRuntime.startRequest, present]
  · intro missing
    simp [AgentRuntime.startRequest, missing]

variable (env) in
/-- The scope shown to the model is the scope that the policy grants: whatever the catalog and
the Task, `start` calls the model adapter at most once, and with exactly that scope; and the form
of a registered route is never a reason to deny it. -/
theorem scope_shown_exact [ModelAdapter M C E] (built : builder.Built registrations)
    (catalog : σ.agent.toolCatalog = builder.build.1)
    (known : σ.process.supervisor.tasks[taskId]? = some record) (valid : record.spec.Valid) :
    (openings (exec (start env taskId) σ).2.trace = openings σ.trace ∨
      ∃ request, openings (exec (start env taskId) σ).2.trace =
          (taskId, request, (ModelAdapter.startSession σ.agent.modelAdapter request).1) ::
            openings σ.trace ∧
        ExactScope σ.agent ⟨record.spec, valid⟩ request) ∧
    (∀ value, Tool.isValidIdentifier value = AiOs.isValidIdentifier value maxToolNameBytes ∧
      Tool.isValidIdentifier value = AiOs.isValidIdentifier value maxActionBytes ∧
      Tool.isValidIdentifier value = AiOs.isValidIdentifier value maxIdentifierBytes ∧
      Tool.isValidIdentifier value = isValidIdentifier value) ∧
    ∀ (policy : CapabilityPolicy) route arguments operation,
      builder.build.1.prepare route arguments = .ok operation →
        policy.evaluate (GuardedOperation.capabilityRequest operation) ≠ .deny .invalidRequest := by
  refine ⟨?_, identifier_checks_agree, fun policy _ _ _ => registered_form policy built⟩
  have exact_scope : ∀ input process, exec (startExecution env taskId) σ.process =
      (.ok input, process) → ExactScope σ.agent ⟨record.spec, valid⟩ (σ.agent.startRequest input) := by
    intro input process started
    rw [startExecution_input known started]
    exact startRequest_exact built catalog valid
  apply enter_rule (P := fun out => openings out.2.trace = openings σ.trace ∨
    ∃ request, openings out.2.trace =
        (taskId, request, (ModelAdapter.startSession σ.agent.modelAdapter request).1) ::
          openings σ.trace ∧
      ExactScope σ.agent ⟨record.spec, valid⟩ request)
  apply openFor_rule
  · exact fun _ => .inl rfl
  · exact fun _ _ _ _ => .inl rfl
  · intro input process _ started
    apply enters_concluded
    exact .inr ⟨σ.agent.startRequest input, rfl, exact_scope input process started⟩
  · intro input process model _ started _
    have inside : Inside ((taskId, σ.agent.startRequest input,
        (ModelAdapter.startSession σ.agent.modelAdapter (σ.agent.startRequest input)).1) ::
          openings σ.trace) ((σ.opened taskId input process).withActive ⟨taskId, model, 1, none, none⟩) :=
      ⟨⟨_, rfl⟩, rfl⟩
    exact .inr ⟨σ.agent.startRequest input, asked_drive inside, exact_scope input process started⟩

end loop

namespace Sample

def reaching : TaskSpec := { AiOs.Sample.spec with
  capabilities := ⟨[], .allow [⟨"127.0.0.1", .tcp, 80⟩, ⟨"0.0.0.0", .tcp, 80⟩], ["git"]⟩ }

def ready (network : Option NetworkGate) : AgentSystem InMemoryEventStore ScriptedModelAdapter
    ScriptedModelSession ScriptedModelError AiOs.Sample.Silent :=
  ⟨((Call.submit reaching).run AiOs.Sample.env ⟨Daemon.start, .new (AiOs.Sample.store 20)⟩).2,
    { AgentRuntime.new ⟨some finish⟩ (AiOs.Sample.builder "fetch").build.1
        (.new ⟨(AiOs.Sample.builder "fetch").build.2, (), []⟩) .default with network := network }, []⟩

end Sample

set_option maxRecDepth 4000 in
/-- Without a network gate no destination is listed, not even one that the policy grants. -/
theorem offline_destination_unlisted :
    ∃ (valid : Sample.reaching.Valid) (request : ModelStartRequest),
      openings (exec (start AiOs.Sample.env ⟨0⟩) (Sample.ready none)).2.trace =
        [(⟨0⟩, request, (ModelAdapter.startSession (Sample.ready none).agent.modelAdapter
          request).1)] ∧
        ¬ (request.Lists "127.0.0.1" 80 ↔
          GrantsDestination ⟨Sample.reaching, valid⟩ "127.0.0.1" 80) := by
  have valid : Sample.reaching.Valid := by decide +kernel
  refine ⟨valid, ⟨"goal", ["pull", "push"], []⟩, by decide +kernel, ?_⟩
  rintro ⟨-, listed⟩
  have granted : GrantsDestination ⟨Sample.reaching, valid⟩ "127.0.0.1" 80 := by
    refine ⟨⟨"127.0.0.1", 80, [], none, by decide +kernel⟩, by decide +kernel, ?_⟩
    rintro ⟨reason, denied⟩
    have allowed : CapabilityPolicy.evaluate ⟨Sample.reaching, valid⟩
        (.network "127.0.0.1" .tcp 80) = .allow := rfl
    cases allowed.symm.trans denied
  obtain ⟨destination, member, _⟩ := listed granted
  cases member

set_option maxRecDepth 4000 in
/-- With a network gate the session is shown both routes and the one host. -/
theorem scope_shown_exact_networked :
    ∃ valid : Sample.reaching.Valid,
      openings (exec (start AiOs.Sample.env ⟨0⟩)
          (Sample.ready (some (.new AiOs.Sample.networkSite)))).2.trace =
        [(⟨0⟩, ⟨"goal", ["pull", "push"], [⟨"127.0.0.1", .tcp, 80⟩]⟩, .ok ⟨Sample.finish⟩)] ∧
      ExactScope (Sample.ready (some (.new AiOs.Sample.networkSite))).agent
        ⟨Sample.reaching, valid⟩ ⟨"goal", ["pull", "push"], [⟨"127.0.0.1", .tcp, 80⟩]⟩ := by
  have valid : Sample.reaching.Valid := by decide +kernel
  have shown : openings (exec (start AiOs.Sample.env ⟨0⟩)
      (Sample.ready (some (.new AiOs.Sample.networkSite)))).2.trace =
        [(⟨0⟩, ⟨"goal", ["pull", "push"], [⟨"127.0.0.1", .tcp, 80⟩]⟩, .ok ⟨Sample.finish⟩)] := by decide +kernel
  refine ⟨valid, shown, ?_⟩
  have known : (Sample.ready (some (.new AiOs.Sample.networkSite))).process.supervisor.tasks[
      (⟨0⟩ : TaskId)]? = some ⟨Sample.reaching, .queued, none⟩ := by decide +kernel
  have either := (scope_shown_exact AiOs.Sample.env (AiOs.Sample.builder_built "fetch") rfl known
    valid).1
  rw [shown] at either
  rcases either with none | ⟨request, same, scope⟩
  · cases none
  · cases same
    exact scope

end Agent

end AiOs
