import AiOs.Adapter.Network
import AiOs.Adapter.Tool

/-! The model side of `aios-agent`: the limits a model cannot change, what a model session is
told, and the proposals it may answer with. A proposal is only built through its checks. -/
namespace AiOs.Agent

def defaultMaxModelSteps : Nat := 16
def maxModelSteps : Nat := 64
def maxFinalOutputBytes : Nat := 1024 * 1024
def defaultApprovalTtl : Duration := Duration.fromSecs (5 * 60)
def maxApprovalTtl : Duration := Duration.fromSecs (15 * 60)

inductive AgentError where
  | invalidConfig
  | capacityExceeded
  | invalidState
  | invalidDecision
  | stepLimitExceeded
  | modelFailed
  | toolFailed
  | networkFailed
  | budgetExceeded
  | supervisor (error : SupervisorError)
  deriving DecidableEq, Repr

/-- Trusted runtime limits, as `AgentConfig::new` accepts them. -/
structure AgentConfig where
  maxSteps : Nat
  approvalTtl : Duration
  stepsPositive : 0 < maxSteps
  stepsBounded : maxSteps ≤ maxModelSteps
  ttlPositive : Duration.fromMillis 1 ≤ approvalTtl
  ttlBounded : approvalTtl ≤ maxApprovalTtl

def AgentConfig.new (maxSteps : Nat) (approvalTtl : Duration) : Except AgentError AgentConfig :=
  if accepted : (0 < maxSteps ∧ maxSteps ≤ maxModelSteps) ∧
      Duration.fromMillis 1 ≤ approvalTtl ∧ approvalTtl ≤ maxApprovalTtl then
    .ok ⟨maxSteps, approvalTtl, accepted.1.1, accepted.1.2, accepted.2.1, accepted.2.2⟩
  else .error .invalidConfig

def AgentConfig.default : AgentConfig :=
  ⟨defaultMaxModelSteps, defaultApprovalTtl, by decide, by decide, by decide, by decide⟩

structure ModelStartRequest where
  goal : String
  toolRoutes : List String
  networkDestinations : List NetworkDestination
  deriving DecidableEq, Repr

structure ModelTurnRequest where
  step : Nat
  previousOperationOutput : Option (List UInt8)
  deriving DecidableEq, Repr

inductive ModelDecisionError where
  | invalidFinalOutput
  | invalidToolRequest
  | invalidNetworkRequest
  deriving DecidableEq, Repr

def isFinalOutput (text : String) : Bool :=
  !(text.isEmpty || decide (maxFinalOutputBytes < text.utf8ByteSize)
    || text.toList.contains '\x00')

structure AgentOutput where
  text : String
  valid : isFinalOutput text = true
  deriving DecidableEq, Repr

def AgentOutput.fromText (text : String) : Except ModelDecisionError AgentOutput :=
  if valid : isFinalOutput text = true then .ok ⟨text, valid⟩ else .error .invalidFinalOutput

/-- The crate's own copy of the identifier check, with the Tool Adapter's limit. -/
def isValidIdentifier (value : String) : Bool :=
  !value.isEmpty && decide (value.utf8ByteSize ≤ Tool.maxIdentifierBytes)
    && value.toList.all (fun c =>
      c.isAlphanum || c == '.' || c == '_' || c == ':' || c == '-')

/-- One round of the loop over the arguments; `none` is `return false`. -/
def addArgument (total : Nat) (argument : String) : Option Nat :=
  if maxArgumentBytes < argument.utf8ByteSize ∨ '\x00' ∈ argument.toList then none
  else match checkedAdd total argument.utf8ByteSize with
    | none => none
    | some total => if maxTotalArgumentBytes < total then none else some total

def areValidArguments (arguments : List String) : Bool :=
  if maxArguments < arguments.length then false
  else (arguments.foldlM addArgument 0).isSome

def isTcpRequest (host : String) (port : UInt16) (request : List UInt8) : Bool :=
  !(host.isEmpty || decide (maxNetworkHostBytes < host.utf8ByteSize) || port == 0
    || decide (maxTcpRequestBytes < request.length))

/-- A validated model proposal. -/
inductive ModelDecision where
  | finish (output : AgentOutput)
  | callTool (route : String) (arguments : List String)
      (valid : (isValidIdentifier route && areValidArguments arguments) = true)
  | tcpExchange (host : String) (port : UInt16) (request : List UInt8)
      (valid : isTcpRequest host port request = true)
  deriving DecidableEq

namespace ModelDecision

def ofText (text : String) : Except ModelDecisionError ModelDecision :=
  (AgentOutput.fromText text).map finish

def ofTool (route : String) (arguments : List String) : Except ModelDecisionError ModelDecision :=
  if valid : (isValidIdentifier route && areValidArguments arguments) = true then
    .ok (.callTool route arguments valid)
  else .error .invalidToolRequest

def ofTcp (host : String) (port : UInt16) (request : List UInt8) :
    Except ModelDecisionError ModelDecision :=
  if valid : isTcpRequest host port request = true then .ok (.tcpExchange host port request valid)
  else .error .invalidNetworkRequest

end ModelDecision

/-- One Task-scoped model conversation. -/
class ModelSession (C : Type) (E : outParam Type) where
  decide : C → ModelTurnRequest → Except E ModelDecision × C

/-- Creates isolated model sessions for individual Tasks. -/
class ModelAdapter (M : Type) (C E : outParam Type) where
  startSession : M → ModelStartRequest → Except E C × M

/-- Supplies one decision sequence to one session. -/
structure ScriptedModelAdapter where
  script : Option (List ModelDecision)
  deriving DecidableEq

structure ScriptedModelSession where
  decisions : List ModelDecision
  deriving DecidableEq

inductive ScriptedModelError where
  | invalidScript
  | unavailable
  | exhausted
  deriving DecidableEq, Repr

def ScriptedModelAdapter.new (decisions : List ModelDecision) :
    Except ScriptedModelError ScriptedModelAdapter :=
  if decisions.isEmpty || decide (maxModelSteps < decisions.length) then .error .invalidScript
  else .ok ⟨some decisions⟩

instance : ModelAdapter ScriptedModelAdapter ScriptedModelSession ScriptedModelError where
  startSession adapter _ :=
    match adapter.script with
    | some decisions => (.ok ⟨decisions⟩, ⟨none⟩)
    | none => (.error .unavailable, ⟨none⟩)

instance : ModelSession ScriptedModelSession ScriptedModelError where
  decide session _ :=
    match session.decisions with
    | decision :: rest => (.ok decision, ⟨rest⟩)
    | [] => (.error .exhausted, ⟨[]⟩)

end AiOs.Agent
