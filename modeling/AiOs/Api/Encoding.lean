import AiOs.Api.Service
import AiOs.Lib.Bytes
import AiOs.Lib.Json

/-! Responses on the wire: the JSON text that the `serde` attributes of the response types
describe, and the frame around it. An identifier is written as its UUID text, which is a
parameter. -/
namespace AiOs.LocalApi

def stateName : TaskState → String
  | .submitted => "submitted"
  | .validating => "validating"
  | .rejected => "rejected"
  | .queued => "queued"
  | .running => "running"
  | .waitingApproval => "waiting_approval"
  | .succeeded => "succeeded"
  | .failed => "failed"
  | .cancelled => "cancelled"

def errorCodeName : ErrorCode → String
  | .invalidTask => "INVALID_TASK"
  | .idempotencyConflict => "IDEMPOTENCY_CONFLICT"
  | .capabilityDenied => "CAPABILITY_DENIED"
  | .approvalExpired => "APPROVAL_EXPIRED"
  | .budgetExceeded => "BUDGET_EXCEEDED"
  | .runtimeRestarted => "RUNTIME_RESTARTED"
  | .runtimeUnavailable => "RUNTIME_UNAVAILABLE"
  | .internalError => "INTERNAL_ERROR"

def denialReasonName : DenialReason → String
  | .invalidRequest => "INVALID_REQUEST"
  | .capabilityNotGranted => "CAPABILITY_NOT_GRANTED"

def apiErrorCodeName : ApiErrorCode → String
  | .invalidRequest => "INVALID_REQUEST"
  | .unsupportedProtocolVersion => "UNSUPPORTED_PROTOCOL_VERSION"
  | .frameTooLarge => "FRAME_TOO_LARGE"
  | .taskNotFound => "TASK_NOT_FOUND"
  | .idempotencyConflict => "IDEMPOTENCY_CONFLICT"
  | .capacityExceeded => "CAPACITY_EXCEEDED"
  | .invalidStateTransition => "INVALID_STATE_TRANSITION"
  | .approvalFailed => "APPROVAL_FAILED"
  | .storageUnavailable => "STORAGE_UNAVAILABLE"
  | .responseTooLarge => "RESPONSE_TOO_LARGE"

def dispositionName : SubmissionDisposition → String
  | .accepted => "accepted"
  | .existing => "existing"
  | .rejected => "rejected"

/-- An internally tagged variant. -/
def tagged (tag name : String) (fields : List (String × Json)) : Json :=
  .object ((tag, .string name) :: fields)

section
variable (uuidText : Nat → String)

def encodeId {kind : IdKind} (id : Id kind) : Json := .string (uuidText id.uuid)

def encodeApproval (name : String) (approvalId : ApprovalId) (operationId : OperationId) : Json :=
  tagged "type" name
    [("approval_id", encodeId uuidText approvalId), ("operation_id", encodeId uuidText operationId)]

def encodeKind : TaskEventKind → Json
  | .submitted => tagged "type" "submitted" []
  | .stateTransitioned source target => tagged "type" "state_transitioned"
      [("from", .string (stateName source)), ("to", .string (stateName target))]
  | .validationFailed errorCount =>
    tagged "type" "validation_failed" [("error_count", .number errorCount)]
  | .taskFailed code => tagged "type" "task_failed" [("code", .string (errorCodeName code))]
  | .operationAllowed => tagged "type" "operation_allowed" []
  | .operationDenied reason =>
    tagged "type" "operation_denied" [("reason", .string (denialReasonName reason))]
  | .approvalRequested approvalId operationId =>
    encodeApproval uuidText "approval_requested" approvalId operationId
  | .approvalGranted approvalId operationId =>
    encodeApproval uuidText "approval_granted" approvalId operationId
  | .approvalDenied approvalId operationId =>
    encodeApproval uuidText "approval_denied" approvalId operationId
  | .approvalExpired approvalId operationId =>
    encodeApproval uuidText "approval_expired" approvalId operationId
  | .approvalRevoked approvalId operationId =>
    encodeApproval uuidText "approval_revoked" approvalId operationId
  | .approvalConsumed approvalId operationId =>
    encodeApproval uuidText "approval_consumed" approvalId operationId

def encodeEvent (event : TaskEvent) : Json :=
  .object [("task_id", encodeId uuidText event.taskId), ("sequence", .number event.sequence),
    ("occurred_at_unix_ms", .number event.occurredAtUnixMs),
    ("kind", encodeKind uuidText event.kind)]

def encodeTaskView (task : TaskView) : Json :=
  .object [("task_id", encodeId uuidText task.taskId), ("state", .string (stateName task.state))]

def encodeIssue (issue : ValidationIssue) : Json :=
  .object [("field", .string issue.field), ("message", .string issue.message)]

/-- `skip_serializing_if = "Vec::is_empty"` -/
def encodeIssues (issues : List ValidationIssue) : List (String × Json) :=
  if issues.isEmpty then [] else [("validation_errors", .array (issues.map encodeIssue))]

def encodeResult : ApiResult → Json
  | .healthy versions => tagged "type" "healthy" [("supported_protocol_versions",
      .object [("minimum", .number versions.minimum), ("maximum", .number versions.maximum)])]
  | .submitted disposition task issues => tagged "type" "submitted"
      ([("disposition", .string (dispositionName disposition)),
        ("task", encodeTaskView uuidText task)] ++ encodeIssues issues)
  | .task task => tagged "type" "task" [("task", encodeTaskView uuidText task)]
  | .events events hasMore => tagged "type" "events"
      [("events", .array (events.map (encodeEvent uuidText))), ("has_more", .bool hasMore)]
  | .cancelled task changed => tagged "type" "cancelled"
      [("task", encodeTaskView uuidText task), ("changed", .bool changed)]

/-- The fields of the flattened outcome. -/
def encodeOutcome : ApiOutcome → List (String × Json)
  | .ok result => [("status", .string "ok"), ("result", encodeResult uuidText result)]
  | .error error => [("status", .string "error"), ("error",
      .object [("code", .string (apiErrorCodeName error.code)), ("message", .string error.message)])]

def encodeResponse (response : ApiResponse) : Json :=
  .object (("protocol_version", .number response.protocolVersion)
    :: encodeOutcome uuidText response.outcome)

inductive LocalApiError where
  | frameTooLarge
  | protocol
  deriving DecidableEq, Repr

/-- The bytes of one frame: a length of four bytes, then the payload. -/
def writeFrame (payload : List UInt8) (maxFrameBytes : Nat) : Except LocalApiError (List UInt8) :=
  if payload.isEmpty ∨ maxFrameBytes < payload.length then .error .frameTooLarge
  else if 2 ^ 32 ≤ payload.length then .error .frameTooLarge
  else .ok (Bytes.bigEndian 4 payload.length ++ payload)

def responseTooLarge : ApiResponse :=
  apiError .responseTooLarge "response exceeds configured limit"

def fitResponse (response : ApiResponse) (maxFrameBytes : Nat) : ApiResponse :=
  if maxFrameBytes < (encodeResponse uuidText response).size then responseTooLarge else response

def writeResponse (response : ApiResponse) (maxFrameBytes : Nat) :
    Except LocalApiError (List UInt8) :=
  writeFrame (encodeResponse uuidText (fitResponse uuidText response maxFrameBytes)).bytes
    maxFrameBytes

end

end AiOs.LocalApi
