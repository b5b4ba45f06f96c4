import AiOs.Runtime.Supervisor

/-! The requests, the responses and the service of `aios-local-api`. A request is one method call
on the supervisor, or a reading of it; a panic of the supervisor is not answered. -/
namespace AiOs.LocalApi

open Fallible

def defaultMaxFrameBytes : Nat := 64 * 1024
def maxEventPageSize : Nat := 256

def minSupportedProtocolVersion : Nat := 4
def maxSupportedProtocolVersion : Nat := 4
def protocolVersion : Nat := maxSupportedProtocolVersion

def isSupportedProtocolVersion (version : Nat) : Bool :=
  decide (minSupportedProtocolVersion ≤ version) && decide (version ≤ maxSupportedProtocolVersion)

inductive ApiMethod where
  | health
  | submit (task : TaskSpec)
  | getTask (taskId : TaskId)
  | events (taskId : TaskId) (afterSequence limit : Nat)
  | start (taskId : TaskId)
  | succeed (taskId : TaskId)
  | fail (taskId : TaskId)
  | cancel (taskId : TaskId)

structure ApiRequest where
  protocolVersion : Nat
  request : ApiMethod

def ApiRequest.new (request : ApiMethod) : ApiRequest := ⟨LocalApi.protocolVersion, request⟩

/-- Inclusive protocol-version window advertised by the daemon. -/
structure ProtocolVersionRange where
  minimum : Nat
  maximum : Nat
  deriving DecidableEq, Repr

def ProtocolVersionRange.supported : ProtocolVersionRange :=
  ⟨minSupportedProtocolVersion, maxSupportedProtocolVersion⟩

inductive SubmissionDisposition where
  | accepted
  | existing
  | rejected
  deriving DecidableEq, Repr

structure TaskView where
  taskId : TaskId
  state : TaskState
  deriving DecidableEq, Repr

def TaskView.from (task : TaskSnapshot) : TaskView := ⟨task.taskId, task.state⟩

structure ValidationIssue where
  field : String
  message : String
  deriving DecidableEq, Repr

inductive ApiResult where
  | healthy (supportedProtocolVersions : ProtocolVersionRange)
  | submitted (disposition : SubmissionDisposition) (task : TaskView)
      (validationErrors : List ValidationIssue)
  | task (task : TaskView)
  | events (events : List TaskEvent) (hasMore : Bool)
  | cancelled (task : TaskView) (changed : Bool)
  deriving DecidableEq, Repr

inductive ApiErrorCode where
  | invalidRequest
  | unsupportedProtocolVersion
  | frameTooLarge
  | taskNotFound
  | idempotencyConflict
  | capacityExceeded
  | invalidStateTransition
  | approvalFailed
  | storageUnavailable
  | responseTooLarge
  deriving DecidableEq, Repr

structure ApiError where
  code : ApiErrorCode
  message : String
  deriving DecidableEq, Repr

inductive ApiOutcome where
  | ok (result : ApiResult)
  | error (error : ApiError)
  deriving DecidableEq, Repr

structure ApiResponse where
  protocolVersion : Nat
  outcome : ApiOutcome
  deriving DecidableEq, Repr

def ok (result : ApiResult) : ApiResponse := ⟨protocolVersion, .ok result⟩

def apiError (code : ApiErrorCode) (message : String) : ApiResponse :=
  ⟨protocolVersion, .error ⟨code, message⟩⟩

def invalidRequest : ApiResponse := apiError .invalidRequest "request is invalid"

def supervisorErrorResponse : SupervisorError → ApiResponse
  | .taskNotFound => apiError .taskNotFound "task not found"
  | .idempotencyConflict =>
    apiError .idempotencyConflict "idempotency key conflicts with existing input"
  | .capacityExceeded => apiError .capacityExceeded "task capacity exceeded"
  | .taskNotRunning | .invalidStateTransition _ =>
    apiError .invalidStateTransition "requested task transition is not allowed"
  | .approval _ => apiError .approvalFailed "approval operation failed"
  | .eventStore _ => apiError .storageUnavailable "event storage is unavailable"

def validationIssues (errors : ValidationErrors) : List ValidationIssue :=
  errors.errors.map (fun error => ⟨error.field, error.message⟩)

def submissionResponse : SubmitResult → ApiResponse
  | .accepted task => ok (.submitted .accepted (.from task) [])
  | .existing task => ok (.submitted .existing (.from task) [])
  | .rejected task errors => ok (.submitted .rejected (.from task) (validationIssues errors))

variable {S : Type}

def taskResponse (supervisor : TaskSupervisor S) (taskId : TaskId) (result : TaskView → ApiResult) :
    ApiResponse :=
  match supervisor.get taskId with
  | none => apiError .taskNotFound "task not found"
  | some task => ok (result (.from task))

/-- The answer to `supervisor.events(..)`: one page, and whether more is there. -/
def eventsResponse (limit : Nat) : Except SupervisorError (List TaskEvent) → ApiResponse
  | .ok events => ok (.events (events.take limit) (decide (limit < events.length)))
  | .error error => supervisorErrorResponse error

/-- `match call { Ok(value) => ..., Err(error) => supervisor_error_response(error) }` -/
def respond {α : Type} (response : α → Process S → ApiResponse) :
    Except Stop α × Process S → Except Stop ApiResponse × Process S
  | (.ok value, p) => (.ok (response value p), p)
  | (.error (.err error), p) => (.ok (supervisorErrorResponse error), p)
  | (.error (.panic message), p) => (.error (.panic message), p)

def transitionResponse (taskId : TaskId) (transition : Except Stop Unit × Process S) :
    Except Stop ApiResponse × Process S :=
  respond (fun _ p => taskResponse p.supervisor taskId .task) transition

variable [EventStore S] (env : Env)

def handleMethod (p : Process S) : ApiMethod → Except Stop ApiResponse × Process S
  | .health => (.ok (ok (.healthy .supported)), p)
  | .submit task => respond (fun result _ => submissionResponse result) (exec (submit env task) p)
  | .getTask taskId => (.ok (taskResponse p.supervisor taskId .task), p)
  | .events taskId afterSequence limit =>
    if limit = 0 ∨ maxEventPageSize < limit then (.ok invalidRequest, p)
    else (.ok (eventsResponse limit (p.supervisor.events taskId afterSequence)), p)
  | .start taskId => transitionResponse taskId (exec (start env taskId) p)
  | .succeed taskId => transitionResponse taskId (exec (succeed env taskId) p)
  | .fail taskId => transitionResponse taskId (exec (failTask env taskId) p)
  | .cancel taskId =>
    respond (fun changed p => taskResponse p.supervisor taskId (.cancelled · changed))
      (exec (cancel env taskId) p)

/-- `ApiService::handle`. -/
def handle (request : ApiRequest) (p : Process S) : Except Stop ApiResponse × Process S :=
  if isSupportedProtocolVersion request.protocolVersion then handleMethod env p request.request
  else (.ok (apiError .unsupportedProtocolVersion "protocol version is not supported"), p)

end AiOs.LocalApi
