import AiOs.Adapter.WallTime
import AiOs.Runtime.Context

/-! Catalogs and gates need not come from one builder. The catalog fixes the scope of an
operation, the supervisor authorizes that scope, and the adapter calls a handler only when its
own definition of the route is the same. -/
namespace AiOs

open Fallible Timed

structure ToolRegistration (H : Type) where
  route : String
  capabilityTool : String
  action : String
  handler : H

namespace ToolAdapterBuilder
variable {H : Type}

def attempt (builder : ToolAdapterBuilder H) (registration : ToolRegistration H) :
    ToolAdapterBuilder H :=
  match builder.register registration.route registration.capabilityTool registration.action
    registration.handler with
  | .ok after => after
  | .error _ => builder

/-- What comes out of a new builder and some registrations. -/
def Built (builder : ToolAdapterBuilder H) (registrations : List (ToolRegistration H)) : Prop :=
  ∃ maxRoutes start, new maxRoutes = .ok start ∧ builder = registrations.foldl attempt start

/-- Every route was registered, with its scope and its handler. -/
def Registered (builder : ToolAdapterBuilder H) (registrations : List (ToolRegistration H)) :
    Prop :=
  ∀ route definition, builder.definitions[route]? = some definition →
    ∃ registration ∈ registrations, registration.route = route ∧
      ⟨registration.capabilityTool, registration.action⟩ = definition ∧
      builder.handlers[route]? = some registration.handler

theorem register_ok {builder after : ToolAdapterBuilder H} {route capabilityTool action : String}
    {handler : H} (accepted : builder.register route capabilityTool action handler = .ok after) :
    Tool.isValidIdentifier capabilityTool = true ∧ Tool.isValidIdentifier action = true ∧
      after = { builder with
        definitions := builder.definitions.insert route ⟨capabilityTool, action⟩
        handlers := builder.handlers.insert route handler } := by
  unfold register at accepted
  split at accepted
  · cases accepted
  rename_i named
  split at accepted
  · cases accepted
  split at accepted
  · cases accepted
  cases accepted
  simp only [Bool.or_eq_true, Bool.not_eq_true', not_or, Bool.not_eq_false] at named
  exact ⟨named.1.2, named.2, rfl⟩

/-- One registration after the other, whether it is accepted or refused. -/
theorem Built.rule {P : List (ToolRegistration H) → ToolAdapterBuilder H → Prop}
    (start : ∀ maxRoutes, P [] ⟨∅, ∅, maxRoutes⟩)
    (refused : ∀ done builder registration, P done builder → P (done ++ [registration]) builder)
    (accepted : ∀ done builder registration after, P done builder →
      builder.register registration.route registration.capabilityTool registration.action
        registration.handler = .ok after → P (done ++ [registration]) after)
    {builder : ToolAdapterBuilder H} {registrations : List (ToolRegistration H)}
    (built : builder.Built registrations) : P registrations builder := by
  obtain ⟨maxRoutes, first, made, rfl⟩ := built
  have initial : P [] first := by
    unfold new at made
    split at made
    · cases made
    · cases made
      exact start maxRoutes
  have all : ∀ (rest done : List (ToolRegistration H)) (builder : ToolAdapterBuilder H),
      P done builder → P (done ++ rest) (rest.foldl attempt builder) := by
    intro rest
    induction rest with
    | nil =>
      intro done builder holds
      rw [List.append_nil]
      exact holds
    | cons registration rest ih =>
      intro done builder holds
      have one : P (done ++ [registration]) (builder.attempt registration) := by
        unfold attempt
        split
        · rename_i after accepts
          exact accepted done builder registration after holds accepts
        · exact refused done builder registration holds
      have after := ih (done ++ [registration]) (builder.attempt registration) one
      rwa [List.append_assoc] at after
  exact all registrations [] first initial

theorem Built.registered {builder : ToolAdapterBuilder H}
    {registrations : List (ToolRegistration H)} (built : builder.Built registrations) :
    builder.Registered registrations := by
  have kept : ∀ (done : List (ToolRegistration H)) (builder : ToolAdapterBuilder H)
      (registration : ToolRegistration H), builder.Registered done →
        builder.Registered (done ++ [registration]) := by
    intro done builder registration registered route definition found
    obtain ⟨old, member, rest⟩ := registered route definition found
    exact ⟨old, List.mem_append_left _ member, rest⟩
  refine built.rule ?_ kept ?_
  · intro maxRoutes route definition found
    simp at found
  · intro done builder registration after registered accepts
    obtain ⟨_, _, rfl⟩ := register_ok accepts
    intro route definition found
    rw [OrdMap.get_insert] at found ⊢
    split at found
    · rename_i same
      cases Option.some.inj found
      exact ⟨registration, List.mem_append_right _ List.mem_cons_self, same, rfl, if_pos same⟩
    · rename_i distinct
      rw [if_neg distinct]
      exact kept done builder registration registered route definition found

/-- The fixed scope of a route is written in identifiers. -/
def Named (builder : ToolAdapterBuilder H) : Prop :=
  ∀ (route : String) (definition : RouteDefinition), builder.definitions[route]? = some definition →
    Tool.isValidIdentifier definition.capabilityTool = true ∧
      Tool.isValidIdentifier definition.action = true

theorem Built.named {builder : ToolAdapterBuilder H} {registrations : List (ToolRegistration H)}
    (built : builder.Built registrations) : builder.Named := by
  refine built.rule (P := fun _ builder => builder.Named) ?_ (fun _ _ _ holds => holds) ?_
  · intro maxRoutes route definition found
    simp at found
  · intro done builder registration after holds accepts route definition found
    obtain ⟨tool, action, rfl⟩ := register_ok accepts
    rw [OrdMap.get_insert] at found
    split at found
    · cases Option.some.inj found
      exact ⟨tool, action⟩
    · exact holds route definition found

end ToolAdapterBuilder

def invocation : AdapterEvent ToolDeed → Option (TaskExecutionContext × String × List String)
  | .deed context (.invoke route arguments) => some (context, route, arguments)
  | .reading _ => none

def invocations (trace : List (AdapterEvent ToolDeed)) :
    List (TaskExecutionContext × String × List String) := trace.filterMap invocation

def ToolFailure.reported : ToolFailure → ToolAdapterError
  | ⟨.failed⟩ => .handlerFailed
  | ⟨.budgetExceeded⟩ => .budgetExceeded

section calls
variable {S H : Type} [ToolHandler H]

/-- The outcome of an execution that calls this handler, with the arguments and the context of
the operation: the answer is the handler's, and the handler stays as the call leaves it. -/
def calledHandler (clock : Nat → Instant) (operation : ToolOperation) (reads : Nat)
    (before : ToolSite H) (context : TaskExecutionContext) (handler : H) :
    Except ToolAdapterError ToolOutput × ToolSite H × Nat :=
  let answer := ToolHandler.executeForTask clock handler context operation.arguments (reads + 1)
  (answer.1.mapError ToolFailure.reported,
    { before with
      adapter := { before.adapter with
        handlers := before.adapter.handlers.insert operation.route answer.2.1 }
      trace := before.trace ++ [.reading (clock reads),
        .deed context (.invoke operation.route operation.arguments)] },
    answer.2.2)

/-- What one execution does: it is refused and calls no handler, or it calls the one under the
route, which the adapter defines as the operation has it. -/
inductive Handles (clock : Nat → Instant) (operation : ToolOperation) (reads : Nat)
    (before : ToolSite H) : Except ToolAdapterError ToolOutput × ToolSite H × Nat → Prop where
  | refused {error : ToolAdapterError} {after : ToolSite H} {later : Nat}
      (same : after.adapter = before.adapter)
      (silent : invocations after.trace = invocations before.trace) :
      Handles clock operation reads before (.error error, after, later)
  | called {context : TaskExecutionContext} {handler : H}
      (attached : operation.executionContext = some context)
      (defined : before.adapter.definitions[operation.route]? =
        some ⟨operation.capabilityTool, operation.action⟩)
      (found : before.adapter.handlers[operation.route]? = some handler) :
      Handles clock operation reads before
        (calledHandler clock operation reads before context handler)

theorem execute_handles (clock : Nat → Instant) (operation : ToolOperation) (site : ToolSite H)
    (reads : Nat) :
    Handles clock operation reads site (ExecutionAdapter.execute clock site operation reads) := by
  let s : Session (ToolAdapter H) Unit ToolDeed := ⟨site, reads⟩
  have silent : invocations (s.read clock).trace = invocations site.trace := by
    simp [invocations, invocation, Session.read, s]
  let P := fun out : Except ToolAdapterError ToolOutput × Session (ToolAdapter H) Unit ToolDeed =>
    Handles clock operation reads site (out.1, out.2.toSite, out.2.reads)
  change P (exec (ToolAdapter.execute clock operation) s)
  unfold ToolAdapter.execute
  apply propagate_rule (P := P)
  · exact fun _ _ => .refused rfl rfl
  intro _ _
  apply okOr_rule (P := P)
  · exact fun _ => .refused rfl rfl
  intro context attached
  rw [exec_bind_ok (exec_remainingWallTime clock context s)]
  apply ensure_rule (P := P)
  · exact fun _ => .refused rfl silent
  intro _
  rw [exec_bind_ok (exec_get _)]
  apply okOr_rule (P := P)
  · exact fun _ => .refused rfl silent
  intro definition defined
  apply ensure_rule (P := P)
  · exact fun _ => .refused rfl silent
  intro matched
  apply okOr_rule (P := P)
  · exact fun _ => .refused rfl silent
  intro handler found
  obtain ⟨sameTool, sameAction⟩ := of_decide_eq_true matched
  have own : site.adapter.definitions[operation.route]? =
      some ⟨operation.capabilityTool, operation.action⟩ := by
    rw [← sameTool, ← sameAction]
    exact defined
  rw [exec_bind_ok (exec_acts _ _ _ _)]
  apply modifyGet_rule (P := P)
  have called : Handles clock operation reads site
      (calledHandler clock operation reads site context handler) := .called attached own found
  simp only [calledHandler] at called
  dsimp only [Session.read, Session.does, s]
  rw [List.append_assoc]
  generalize ToolHandler.executeForTask clock handler context operation.arguments (reads + 1) =
    answer at called ⊢
  obtain ⟨⟨⟨kind⟩⟩ | output, changed, later⟩ := answer
  · cases kind <;> exact called
  · exact called

/-- The executions of a gate one after the other: each is refused, or the handler that is under
its route by then is called. Those that call one have the property. -/
inductive Handled (env : Env) (P : Execution S ToolOperation → Prop) :
    ToolSite H → List (Execution S ToolOperation) → ToolSite H → Prop where
  | nil (site : ToolSite H) : Handled env P site [] site
  | refused {site after last : ToolSite H} {x : Execution S ToolOperation}
      {rest : List (Execution S ToolOperation)} {error : ToolAdapterError} {later : Nat}
      (ran : ExecutionAdapter.execute env.clock site x.operation x.moment.world.reads =
        (.error error, after, later))
      (same : after.adapter = site.adapter)
      (silent : invocations after.trace = invocations site.trace)
      (next : Handled env P after rest last) : Handled env P site (x :: rest) last
  | called {site last : ToolSite H} {x : Execution S ToolOperation}
      {rest : List (Execution S ToolOperation)} {context : TaskExecutionContext} {handler : H}
      (holds : P x) (attached : x.operation.executionContext = some context)
      (found : site.adapter.handlers[x.operation.route]? = some handler)
      (ran : ExecutionAdapter.execute env.clock site x.operation x.moment.world.reads =
        calledHandler env.clock x.operation x.moment.world.reads site context handler)
      (next : Handled env P
        (calledHandler env.clock x.operation x.moment.world.reads site context handler).2.1
        rest last) : Handled env P site (x :: rest) last

theorem replay_handled (env : Env) {P : Execution S ToolOperation → Prop}
    {definitions : OrdMap String RouteDefinition} (executed : List (Execution S ToolOperation))
    (holds : ∀ x ∈ executed, definitions[x.operation.route]? =
      some ⟨x.operation.capabilityTool, x.operation.action⟩ → P x)
    (site : ToolSite H) (own : site.adapter.definitions = definitions) :
    Handled env P site executed (replay env site executed) := by
  induction executed generalizing site with
  | nil => exact .nil site
  | cons x rest ih =>
    have others := fun y member => holds y (List.mem_cons_of_mem x member)
    have handles := execute_handles env.clock x.operation site x.moment.world.reads
    change Handled env P site (x :: rest) (replay env (ExecutionAdapter.execute env.clock site
      x.operation x.moment.world.reads).2.1 rest)
    generalize ran : ExecutionAdapter.execute env.clock site x.operation x.moment.world.reads =
      out at handles ⊢
    cases handles with
    | refused same silent => exact .refused ran same silent (ih others _ (by rw [same, own]))
    | called attached defined found =>
      exact .called (holds x List.mem_cons_self (own ▸ defined)) attached found ran (ih others _ own)

/-- What an execution hands to a handler, if it comes to that. -/
def Execution.handed (x : Execution S ToolOperation) :
    Option (TaskExecutionContext × String × List String) :=
  x.operation.executionContext.map (fun context => (context, x.operation.route, x.operation.arguments))

theorem Handled.invoked {env : Env} {P : Execution S ToolOperation → Prop}
    {executed : List (Execution S ToolOperation)} {site last : ToolSite H}
    (handled : Handled env P site executed last) :
    ∃ invoked : List (Execution S ToolOperation), invoked.Sublist executed ∧
      (invocations last.trace).map some =
        (invocations site.trace).map some ++ invoked.map Execution.handed ∧
      ∀ x ∈ invoked, P x := by
  induction handled with
  | nil site => exact ⟨[], List.Sublist.slnil, by simp, by simp⟩
  | refused ran same silent next ih =>
    obtain ⟨invoked, among, traced, each⟩ := ih
    exact ⟨invoked, among.cons _, silent ▸ traced, each⟩
  | @called site last x rest context handler holds attached found ran next ih =>
    obtain ⟨invoked, among, traced, each⟩ := ih
    refine ⟨x :: invoked, among.cons_cons x, ?_, ?_⟩
    · have handed : x.handed = some (context, x.operation.route, x.operation.arguments) := by
        rw [Execution.handed, attached]
        rfl
      rw [traced, List.map_cons, handed]
      simp only [calledHandler, invocations, List.filterMap_append, List.map_append,
        List.append_assoc]
      rfl
    · intro y member
      rcases List.mem_cons.mp member with rfl | old
      · exact holds
      · exact each y old

end calls

/-- The requests of a run bring what the catalog has prepared. -/
def ToolCatalog.Supplies (catalog : ToolCatalog) (act : Act ToolOperation) : Prop :=
  ∀ taskId operation ttl, act = .request taskId operation ttl →
    ∃ route arguments, catalog.prepare route arguments = .ok operation

theorem ToolCatalog.prepare_ok {catalog : ToolCatalog} {route : String} {arguments : List String}
    {operation : ToolOperation} (prepared : catalog.prepare route arguments = .ok operation) :
    operation.route = route ∧ operation.arguments = arguments ∧
      catalog.definitions[route]? = some ⟨operation.capabilityTool, operation.action⟩ := by
  unfold ToolCatalog.prepare at prepared
  split at prepared
  · cases prepared
  · rename_i definition found
    split at prepared
    · cases prepared
    · cases prepared
      exact ⟨rfl, rfl, found⟩

theorem CapabilityPolicy.fromTask_task {task : TaskSpec} {policy : CapabilityPolicy}
    (made : fromTask task = .ok policy) : policy.task = task := by
  unfold fromTask at made
  split at made
  · cases made
    rfl
  · cases made

theorem CapabilityPolicy.tool_listed {policy : CapabilityPolicy} {tool action : String}
    (used : policy.evaluate (.tool tool action) = .allow ∨
      policy.evaluate (.tool tool action) = .approvalRequired) :
    tool ∈ policy.task.capabilities.tools := by
  by_contra absent
  have none : policy.task.capabilities.tools.any (· == tool) = false := by
    rw [List.any_eq_false]
    intro other member same
    exact absent (beq_iff_eq.mp same ▸ member)
  simp only [evaluate, evaluateTool, finish, none] at used
  split at used <;> simp at used

section scope
variable {S H K : Type} [LawfulEventStore S] [ToolHandler H] {env : Env}

/-- An execution that comes to a handler: the route has one meaning in the catalog and in the
gate, the operation is the prepared one, its Task lists the Tool and the policy of the Task
has let it pass, with an approval consumed in the call where one was needed. -/
structure InScope (env : Env) (catalog : ToolCatalog) (adapter : ToolAdapter H)
    (registrations : List (ToolRegistration H)) (submitted : List (TaskId × TaskSpec))
    (x : Execution S ToolOperation) : Prop where
  registered : ∃ registration ∈ registrations, registration.route = x.operation.route ∧
    registration.capabilityTool = x.operation.capabilityTool ∧
    registration.action = x.operation.action ∧
    adapter.handlers[x.operation.route]? = some registration.handler
  defined : adapter.definitions[x.operation.route]? =
    some ⟨x.operation.capabilityTool, x.operation.action⟩
  cataloged : catalog.definitions[x.operation.route]? =
    some ⟨x.operation.capabilityTool, x.operation.action⟩
  prepared : ∃ operation context,
    catalog.prepare x.operation.route x.operation.arguments = .ok operation ∧
      x.operation = ContextualOperation.attach context operation
  listed : ∃ record, x.moment.supervisor.tasks[x.taskId]? = some record ∧
    x.operation.capabilityTool ∈ record.spec.capabilities.tools
  authorized : Authorized env submitted x
  context : OwnContext x.moment x.taskId x.operation

omit [ToolHandler H] in
theorem Authorized.tool_listed {submitted : List (TaskId × TaskSpec)}
    {x : Execution S ToolOperation} (authorized : Authorized env submitted x) :
    ∃ record, x.moment.supervisor.tasks[x.taskId]? = some record ∧
      x.operation.capabilityTool ∈ record.spec.capabilities.tools := by
  obtain ⟨record, policy, found, _, _, made, decided⟩ := authorized
  refine ⟨record, found, ?_⟩
  rw [← CapabilityPolicy.fromTask_task made]
  rcases decided with ⟨allowed, _⟩ | ⟨required, _⟩
  · exact CapabilityPolicy.tool_listed (.inl allowed)
  · exact CapabilityPolicy.tool_listed (.inr required)

/-- The executions of a gate, of which only those in scope call a handler; the invocations, each
with its own execution in scope; and none under a route that the catalog defines otherwise. -/
def ScopeKept (env : Env) (catalog : ToolCatalog) (adapter : ToolAdapter H)
    (registrations : List (ToolRegistration H)) (σ : System S (ToolSite H) ToolOperation) : Prop :=
  Handled env (InScope env catalog adapter registrations σ.submitted) ⟨adapter, (), []⟩
    σ.executed σ.gate.adapter ∧
  (∃ invoked : List (Execution S ToolOperation), invoked.Sublist σ.executed ∧
    (invocations σ.gate.adapter.trace).map some = invoked.map Execution.handed ∧
    ∀ x ∈ invoked, InScope env catalog adapter registrations σ.submitted x) ∧
  ∀ route context arguments, catalog.definitions[route]? ≠ adapter.definitions[route]? →
    (context, route, arguments) ∉ invocations σ.gate.adapter.trace

/-- Tool scope survives mixed builders: whatever the catalog and the gate were built from, and
in every run in which the catalog prepares what the gate is asked to do. -/
theorem tool_scope_kept (fresh : Function.Injective env.uuid) (first : ToolAdapterBuilder K)
    (second : ToolAdapterBuilder H) (cataloged : List (ToolRegistration K))
    (gated : List (ToolRegistration H)) :
    first.Built cataloged → second.Built gated → ∀ σ : System S (ToolSite H) ToolOperation,
      System.Fronted env ⟨second.build.2, (), []⟩ first.build.1.Supplies σ →
        ScopeKept env first.build.1 second.build.2 gated σ := by
  intro _ built σ fronted
  have guarded := fronted.reached.guarded fresh
  have placed := fronted.placed fresh
  have inScope : ∀ x ∈ σ.executed, second.build.2.definitions[x.operation.route]? =
      some ⟨x.operation.capabilityTool, x.operation.action⟩ →
      InScope env first.build.1 second.build.2 gated σ.submitted x := by
    intro x executed defined
    have handed : (x.taskId, x.operation) ∈ σ.requested := by
      apply guarded.linear.subset
      rw [List.append_nil]
      exact List.mem_append_left _ (List.mem_map.mpr ⟨x, executed, rfl⟩)
    obtain ⟨operation, ttl, context, supplied, attached⟩ := fronted.requested _ handed
    dsimp only at attached
    obtain ⟨route, arguments, prepared⟩ := supplied x.taskId operation ttl rfl
    obtain ⟨sameRoute, sameArguments, found⟩ := ToolCatalog.prepare_ok prepared
    have own : x.operation.route = route ∧ x.operation.arguments = arguments ∧
        x.operation.capabilityTool = operation.capabilityTool ∧
        x.operation.action = operation.action := by
      rw [attached]
      exact ⟨sameRoute, sameArguments, rfl, rfl⟩
    obtain ⟨registration, registered, named, scope, handler⟩ :=
      built.registered _ _ defined
    obtain ⟨tool, action⟩ := RouteDefinition.mk.inj scope
    have authorized := guarded.authorized x executed
    exact {
      registered := ⟨registration, registered, named, tool, action, handler⟩
      defined := defined
      cataloged := by
        rw [own.1, own.2.2.1, own.2.2.2]
        exact found
      prepared := by
        rw [own.1, own.2.1]
        exact ⟨operation, context, prepared, attached⟩
      listed := authorized.tool_listed
      authorized := authorized
      context := placed.executed x executed }
  have handled := replay_handled env σ.executed inScope ⟨second.build.2, (), []⟩ rfl
  rw [← fronted.replayed] at handled
  obtain ⟨invoked, among, traced, each⟩ := handled.invoked
  refine ⟨handled, ⟨invoked, among, traced, each⟩, ?_⟩
  intro route context arguments different called
  have listed := List.mem_map_of_mem (f := some) called
  rw [traced] at listed
  obtain ⟨x, member, handed⟩ := List.mem_map.mp listed
  obtain ⟨_, _, same⟩ := Option.map_eq_some_iff.mp handed
  have named : x.operation.route = route := congrArg (fun e => e.2.1) same
  apply different
  rw [← named, (each x member).cataloged, (each x member).defined]

end scope

namespace Sample

def registrations (pull : String) : List (ToolRegistration Silent) :=
  [⟨"push", "git", "push", .silent⟩, ⟨"pull", "git", pull, .silent⟩]

def builder (pull : String) : ToolAdapterBuilder Silent :=
  (registrations pull).foldl ToolAdapterBuilder.attempt ⟨∅, ∅, 2⟩

theorem builder_built (pull : String) : (builder pull).Built (registrations pull) :=
  ⟨2, ⟨∅, ∅, 2⟩, rfl, rfl⟩

def mixedActs : List (Act ToolOperation) :=
  [.direct (.submit spec), .direct (.start ⟨0⟩),
    .request ⟨0⟩ ⟨"push", "git", "push", ["origin"], none, by decide⟩ (10 ^ 9),
    .approveAndExecute ⟨2⟩, .request ⟨0⟩ ⟨"pull", "git", "fetch", [], none, by decide⟩ (10 ^ 9)]

def mixed : System InMemoryEventStore (ToolSite Silent) ToolOperation :=
  served ⟨(builder "merge").build.2, (), []⟩ mixedActs

theorem mixed_supplied : ∀ act ∈ mixedActs, (builder "fetch").build.1.Supplies act := by
  intro act member taskId operation ttl asked
  subst asked
  simp only [mixedActs, List.mem_cons, reduceCtorEq, Act.request.injEq, List.not_mem_nil,
    or_false, false_or] at member
  rcases member with ⟨_, rfl, _⟩ | ⟨_, rfl, _⟩
  · exact ⟨"push", ["origin"], by decide +kernel⟩
  · exact ⟨"pull", [], by decide +kernel⟩

end Sample

set_option maxRecDepth 4000 in
/-- Both calls are authorized, and only the one under the common route reaches a handler. -/
theorem tool_scope_kept_mixed :
    ScopeKept Sample.env (Sample.builder "fetch").build.1 (Sample.builder "merge").build.2
      (Sample.registrations "merge") Sample.mixed ∧
    Sample.mixed.executed.length = 2 ∧
    invocations Sample.mixed.gate.adapter.trace =
      [(⟨⟨0⟩, Sample.spec.budget, [], 0⟩, "push", ["origin"])] := by
  refine ⟨?_, by decide +kernel⟩
  apply tool_scope_kept Sample.uuid_injective (Sample.builder "fetch") (Sample.builder "merge")
    (Sample.registrations "fetch") (Sample.registrations "merge") (Sample.builder_built _)
    (Sample.builder_built _)
  exact (System.Fronted.start (Daemon.reached_new _ _ (Sample.store_empty 20)) rfl).serveAll
    Sample.mixed_supplied

end AiOs
