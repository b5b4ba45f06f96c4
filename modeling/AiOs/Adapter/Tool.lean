import AiOs.Adapter.Site
import AiOs.Lib.Checks

/-! The Tool Adapter: trusted code registers handlers under route names and fixes the
capability identifiers of each route; a catalog prepares bounded operations, and the adapter
calls the handler of a route within the Task's wall time. -/
namespace AiOs

open Fallible Timed

def defaultMaxRoutes : Nat := 256
def maxMaxRoutes : Nat := 4096
def maxArguments : Nat := 64
def maxArgumentBytes : Nat := 4096
def maxTotalArgumentBytes : Nat := 64 * 1024
def maxOutputBytes : Nat := 1024 * 1024

def Tool.maxIdentifierBytes : Nat := 64

/-- The crate's own copy of the identifier check. -/
def Tool.isValidIdentifier (value : String) : Bool :=
  !value.isEmpty && decide (value.utf8ByteSize ≤ Tool.maxIdentifierBytes)
    && value.toList.all (fun c =>
      c.isAlphanum || c == '.' || c == '_' || c == ':' || c == '-')

structure RouteDefinition where
  capabilityTool : String
  action : String
  deriving DecidableEq, Repr

inductive ToolFailureKind where
  | failed
  | budgetExceeded
  deriving DecidableEq, Repr

structure ToolFailure where
  kind : ToolFailureKind
  deriving DecidableEq, Repr

inductive ToolAdapterError where
  | invalidConfig
  | invalidRegistration
  | capacityExceeded
  | duplicateRoute
  | routeNotFound
  | invalidArguments
  | scopeMismatch
  | handlerFailed
  | budgetExceeded
  | outputTooLarge
  deriving DecidableEq, Repr

structure ToolOutput where
  bytes : List UInt8
  bounded : bytes.length ≤ maxOutputBytes
  deriving DecidableEq

def ToolOutput.fromBytes (bytes : List UInt8) : Except ToolAdapterError ToolOutput :=
  if bounded : bytes.length ≤ maxOutputBytes then .ok ⟨bytes, bounded⟩ else .error .outputTooLarge

/-- One round of the loop over the arguments. -/
def countArgument (total : Nat) (argument : String) : Except ToolAdapterError Nat :=
  if maxArgumentBytes < argument.utf8ByteSize ∨ '\x00' ∈ argument.toList then
    .error .invalidArguments
  else match checkedAdd total argument.utf8ByteSize with
    | none => .error .invalidArguments
    | some total =>
      if maxTotalArgumentBytes < total then .error .invalidArguments else .ok total

def validateArguments (arguments : List String) : Except ToolAdapterError Unit :=
  if maxArguments < arguments.length then .error .invalidArguments
  else (arguments.foldlM countArgument 0).map (fun _ => ())

/-- A prepared Tool call. Only a catalog builds one, from arguments it has validated. -/
structure ToolOperation where
  route : String
  capabilityTool : String
  action : String
  arguments : List String
  executionContext : Option TaskExecutionContext
  valid : validateArguments arguments = .ok ()
  deriving DecidableEq

instance : ContextualOperation ToolOperation where
  capabilityRequest operation := .tool operation.capabilityTool operation.action
  executionContext := ToolOperation.executionContext
  attach context operation := { operation with executionContext := some context }
  executionContext_attach _ _ := rfl
  capabilityRequest_attach _ _ := rfl

/-- An in-process handler. It may change its own state and read the clock. -/
class ToolHandler (H : Type) where
  execute : (clock : Nat → Instant) → H → List String → (reads : Nat) →
    Except ToolFailure ToolOutput × H × Nat
  executeForTask : (clock : Nat → Instant) → H → TaskExecutionContext → List String →
    (reads : Nat) → Except ToolFailure ToolOutput × H × Nat :=
    fun clock handler _ arguments reads => execute clock handler arguments reads

structure ToolCatalog where
  definitions : OrdMap String RouteDefinition

structure ToolAdapter (H : Type) where
  definitions : OrdMap String RouteDefinition
  handlers : OrdMap String H

structure ToolAdapterBuilder (H : Type) where
  definitions : OrdMap String RouteDefinition
  handlers : OrdMap String H
  maxRoutes : Nat

namespace ToolAdapterBuilder
variable {H : Type}

def new (maxRoutes : Nat) : Except ToolAdapterError (ToolAdapterBuilder H) :=
  if maxRoutes = 0 ∨ maxMaxRoutes < maxRoutes then .error .invalidConfig
  else .ok ⟨∅, ∅, maxRoutes⟩

def register (builder : ToolAdapterBuilder H) (route capabilityTool action : String)
    (handler : H) : Except ToolAdapterError (ToolAdapterBuilder H) :=
  if !Tool.isValidIdentifier route || !Tool.isValidIdentifier capabilityTool
      || !Tool.isValidIdentifier action then
    .error .invalidRegistration
  else if builder.definitions[route]?.isSome then .error .duplicateRoute
  else if builder.maxRoutes ≤ builder.definitions.size then .error .capacityExceeded
  else .ok { builder with
    definitions := builder.definitions.insert route ⟨capabilityTool, action⟩
    handlers := builder.handlers.insert route handler }

def build (builder : ToolAdapterBuilder H) : ToolCatalog × ToolAdapter H :=
  (⟨builder.definitions⟩, ⟨builder.definitions, builder.handlers⟩)

end ToolAdapterBuilder

namespace ToolCatalog

def prepare (catalog : ToolCatalog) (route : String) (arguments : List String) :
    Except ToolAdapterError ToolOperation :=
  match catalog.definitions[route]? with
  | none => .error .routeNotFound
  | some definition =>
    match valid : validateArguments arguments with
    | .error e => .error e
    | .ok () => .ok ⟨route, definition.capabilityTool, definition.action, arguments, none, valid⟩

def routeCount (catalog : ToolCatalog) : Nat := catalog.definitions.size

def routeNamesForTools (catalog : ToolCatalog) (capabilityTools : List String) : List String :=
  (catalog.definitions.toList.filter (fun e => capabilityTools.contains e.2.capabilityTool)).map
    Prod.fst

end ToolCatalog

inductive ToolDeed where
  | invoke (route : String) (arguments : List String)
  deriving DecidableEq, Repr

instance : Checked ToolDeed := ⟨fun _ => true, fun _ => none⟩

/-- Where a Tool Adapter works: its handlers are its own, so nothing is outside. -/
abbrev ToolSite (H : Type) := Site (ToolAdapter H) Unit ToolDeed

section
variable {H : Type} [ToolHandler H] (clock : Nat → Instant)

/-- `handler.execute_for_task(context, arguments)` on the handler in its map. -/
def callHandler (context : TaskExecutionContext) (route : String) (handler : H)
    (arguments : List String) :
    AdapterM (ToolAdapter H) Unit ToolDeed ToolAdapterError (Except ToolFailure ToolOutput) :=
  modifyGet (fun s =>
    let answer := ToolHandler.executeForTask clock handler context arguments s.reads
    (answer.1, { s with
      adapter := { s.adapter with handlers := s.adapter.handlers.insert route answer.2.1 }
      reads := answer.2.2 }))

def ToolAdapter.execute (operation : ToolOperation) :
    AdapterM (ToolAdapter H) Unit ToolDeed ToolAdapterError ToolOutput := do
  propagate (validateArguments operation.arguments)
  let context ← okOr operation.executionContext .scopeMismatch
  let remaining ← remainingWallTime clock context
  ensure (decide (remaining ≠ 0)) .budgetExceeded
  let s ← get
  let definition ← okOr s.adapter.definitions[operation.route]? .routeNotFound
  ensure (decide (definition.capabilityTool = operation.capabilityTool ∧
    definition.action = operation.action)) .scopeMismatch
  let handler ← okOr s.adapter.handlers[operation.route]? .routeNotFound
  acts context (.invoke operation.route operation.arguments) (fun _ _ => ())
  let answer ← callHandler clock context operation.route handler operation.arguments
  match answer with
  | .ok output => pure output
  | .error ⟨.failed⟩ => throw .handlerFailed
  | .error ⟨.budgetExceeded⟩ => throw .budgetExceeded

instance : ExecutionAdapter (ToolSite H) ToolOperation ToolOutput ToolAdapterError :=
  ⟨fun clock site operation reads => site.run (ToolAdapter.execute clock operation) reads⟩

theorem tool_timely (operation : ToolOperation) {context : TaskExecutionContext}
    (attached : operation.executionContext = some context)
    {admits : TaskExecutionContext → ToolDeed → Instant → Prop}
    (within : ∀ deed now, WithinBudget 0 context deed now → admits context deed now)
    (s : Session (ToolAdapter H) Unit ToolDeed)
    (timely : s.Timely admits) :
    LeavesTimely admits (exec (ToolAdapter.execute clock operation) s) := by
  have read := Session.timely_read timely clock
  unfold ToolAdapter.execute
  apply propagate_rule (P := LeavesTimely admits)
  · exact fun _ _ => timely
  intro _ _
  rw [exec_bind_ok (exec_okOr_found attached _ _),
    exec_bind_ok (exec_remainingWallTime clock context s)]
  apply ensure_rule (P := LeavesTimely admits)
  · exact fun _ => read
  intro left
  have early := TaskExecutionContext.before_deadline (of_decide_eq_true left)
  rw [exec_bind_ok (exec_get _)]
  apply okOr_rule (P := LeavesTimely admits)
  · exact fun _ => read
  intro definition _
  apply ensure_rule (P := LeavesTimely admits)
  · exact fun _ => read
  intro _
  apply okOr_rule (P := LeavesTimely admits)
  · exact fun _ => read
  intro handler _
  have invoked := Session.timely_checked read
    (within (.invoke operation.route operation.arguments) _ ⟨early, nofun⟩)
  rw [exec_bind_ok (exec_acts _ _ _ _)]
  apply modifyGet_rule (P := LeavesTimely admits)
  split <;> exact invoked

theorem tool_spent (operation : ToolOperation) {context : TaskExecutionContext}
    (attached : operation.executionContext = some context)
    (s : Session (ToolAdapter H) Unit ToolDeed) (late : context.deadline ≤ clock s.reads) :
    exec (ToolAdapter.execute clock operation) s = (.error .budgetExceeded, s.read clock) := by
  unfold ToolAdapter.execute
  rw [operation.valid, propagate]
  rw [exec_bind_ok (exec_pure _ _), exec_bind_ok (exec_okOr_found attached _ _),
    exec_bind_ok (exec_remainingWallTime clock context s), TaskExecutionContext.no_time_left late]
  rfl

theorem tool_respects_wall_time :
    RespectsWallTime Unit ToolDeed ToolOperation (fun _ : ToolAdapter H => 0)
      ToolAdapterError.budgetExceeded where
  timely clock site operation reads context admits attached within timely :=
    ⟨tool_timely clock operation attached within ⟨site, reads⟩ timely, rfl⟩
  spent clock site operation reads context attached late := by
    change Site.run site (ToolAdapter.execute clock operation) reads = _
    rw [Site.run, tool_spent clock operation attached ⟨site, reads⟩ late]
    rfl

end

end AiOs
