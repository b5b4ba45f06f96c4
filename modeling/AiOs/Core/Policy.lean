import AiOs.Core.Task

/-! The deterministic capability policy of `aios-core`. A request is checked for its
form, then for a matching capability, and only then for a required approval. -/
namespace AiOs

def maxActionBytes : Nat := 64
def maxToolNameBytes : Nat := 64

/-- A resource operation presented to the policy. The supervisor's owned copy of a
request carries the same values, so one type stands for both. -/
inductive CapabilityRequest where
  | file (path : String) (access : FileAccess)
  | network (host : String) (transport : NetworkTransport) (port : UInt16)
  | tool (tool action : String)
  deriving DecidableEq, Repr

inductive DenialReason where
  | invalidRequest
  | capabilityNotGranted
  deriving DecidableEq, Repr

inductive PolicyDecision where
  | allow
  | deny (reason : DenialReason)
  | approvalRequired
  deriving DecidableEq, Repr

def FileAccess.action : FileAccess → String
  | .read => "filesystem.read"
  | .write => "filesystem.write"

/-- The action identifier an approval is bound to. -/
def CapabilityRequest.action : CapabilityRequest → String
  | .file _ access => access.action
  | .network .. => "network.egress"
  | .tool _ action => action

/-- A policy exists only for a Task whose whole contract is valid. -/
structure CapabilityPolicy where
  task : TaskSpec
  valid : task.Valid

namespace CapabilityPolicy

def fromTask (task : TaskSpec) : Except ValidationErrors CapabilityPolicy :=
  match h : task.validate with
  | .ok () => .ok ⟨task, h⟩
  | .error errors => .error errors

def pathIsWithin (path capabilityPath : String) : Bool :=
  path == capabilityPath
    || (capabilityPath.toList.isPrefixOf path.toList
      && (path.toList.drop capabilityPath.toList.length).head? == some '/')

def finish (policy : CapabilityPolicy) (granted : Bool) (action : String) : PolicyDecision :=
  if !granted then .deny .capabilityNotGranted
  else if policy.task.approval.requiredFor.any (· == action) then .approvalRequired
  else .allow

def evaluateFile (policy : CapabilityPolicy) (path : String) (access : FileAccess) :
    PolicyDecision :=
  if !isNormalizedAbsolutePath path then .deny .invalidRequest
  else policy.finish
    (policy.task.capabilities.filesystem.any
      (fun c => decide (c.access = access) && pathIsWithin path c.path))
    access.action

def evaluateNetwork (policy : CapabilityPolicy) (host : String) (transport : NetworkTransport)
    (port : UInt16) : PolicyDecision :=
  if !isValidNetworkHost host || port == 0 then .deny .invalidRequest
  else policy.finish
    (match policy.task.capabilities.network with
      | .deny => false
      | .allow destinations => destinations.any (fun d =>
          d.host == host && decide (d.transport = transport) && d.port == port))
    "network.egress"

def evaluateTool (policy : CapabilityPolicy) (tool action : String) : PolicyDecision :=
  if !isValidIdentifier tool maxToolNameBytes || !isValidIdentifier action maxActionBytes then
    .deny .invalidRequest
  else policy.finish (policy.task.capabilities.tools.any (· == tool)) action

def evaluate (policy : CapabilityPolicy) : CapabilityRequest → PolicyDecision
  | .file path access => policy.evaluateFile path access
  | .network host transport port => policy.evaluateNetwork host transport port
  | .tool tool action => policy.evaluateTool tool action

theorem fromTask_valid {task : TaskSpec} (valid : task.Valid) :
    fromTask task = .ok ⟨task, valid⟩ := by
  unfold fromTask
  split
  · rfl
  · rename_i errors h
    rw [TaskSpec.Valid, h] at valid
    cases valid

end CapabilityPolicy

end AiOs
