import AiOs.Api.Frame
import AiOs.Api.Server

/-! Requests and responses read back from JSON documents, as the derived decoders of
`aios-local-api` and of the types in its messages do. A request is buffered while its tag is
looked for, with the Task inside it; a response skips fields that it does not know, and its
outcome is flattened beside the version. The text of a UUID is read by a parameter. -/
namespace AiOs

open Serde

/-- The unit variants of an enumeration that is read out of a buffer. -/
def named {α : Type} (name : α → String) (values : List α) : Json → Option α :=
  variant isUnit (values.map fun value => (name value, value))

namespace FileCapability

def deserializeBuffered (json : Json) : Option FileCapability :=
  if isRecord fields json then do
    let path ← required text (entry fields "path" json)
    let access ← required (named FileAccess.name [.read, .write]) (entry fields "access" json)
    some ⟨path, access⟩
  else none

end FileCapability

namespace NetworkPolicy

def deserializeBuffered (json : Json) : Option NetworkPolicy :=
  match untagBuffered "mode" ["deny", "allow"] json with
  | none => none
  | some (name, content) =>
    if name = "deny" then
      if isSkipped content then some .deny else none
    else if name = "allow" then
      if isRecord allowFields content then
        (required (array NetworkDestination.deserialize)
          (entry allowFields "destinations" content)).map .allow
      else none
    else none

theorem deserializeBuffered_serialize (policy : NetworkPolicy) :
    deserializeBuffered policy.serialize = some policy := by
  have same : deserializeBuffered policy.serialize = deserialize policy.serialize := by
    cases policy <;> rfl
  rw [same, deserialize_serialize]

end NetworkPolicy

namespace CapabilitySet

def deserializeBuffered (json : Json) : Option CapabilitySet :=
  if isRecord fields json then do
    let filesystem ← defaulted (array FileCapability.deserializeBuffered) []
      (entry fields "filesystem" json)
    let network ← defaulted NetworkPolicy.deserializeBuffered .deny (entry fields "network" json)
    let tools ← defaulted (array text) [] (entry fields "tools" json)
    some ⟨filesystem, network, tools⟩
  else none

end CapabilitySet

namespace TaskSpec

/-- A Task inside a request. -/
def deserializeBuffered (json : Json) : Option TaskSpec :=
  if isRecord fields json then do
    let idempotencyKey ← required text (entry fields "idempotency_key" json)
    let goal ← required text (entry fields "goal" json)
    let capabilities ← required CapabilitySet.deserializeBuffered (entry fields "capabilities" json)
    let budget ← required Budget.deserialize (entry fields "budget" json)
    let approval ← required ApprovalPolicy.deserialize (entry fields "approval" json)
    some ⟨idempotencyKey, goal, capabilities, budget, approval⟩
  else none

theorem deserializeBuffered_serialize (spec : TaskSpec) :
    deserializeBuffered spec.serialize = some spec := by
  have capability : ∀ capability : FileCapability,
      FileCapability.deserializeBuffered capability.serialize = some capability := by
    rintro ⟨path, access⟩
    cases access <;> rfl
  have files : array FileCapability.deserializeBuffered
      (.array (spec.capabilities.filesystem.map FileCapability.serialize)) =
      some spec.capabilities.filesystem :=
    array_map (fun held _ => capability held)
  have set : CapabilitySet.deserializeBuffered spec.capabilities.serialize =
      some spec.capabilities := by
    have record : isRecord CapabilitySet.fields spec.capabilities.serialize = true := rfl
    have filesystem : entry CapabilitySet.fields "filesystem" spec.capabilities.serialize =
        some (.array (spec.capabilities.filesystem.map FileCapability.serialize)) := rfl
    have network : entry CapabilitySet.fields "network" spec.capabilities.serialize =
        some spec.capabilities.network.serialize := rfl
    have tools : entry CapabilitySet.fields "tools" spec.capabilities.serialize =
        some (.array (spec.capabilities.tools.map .string)) := rfl
    simp [CapabilitySet.deserializeBuffered, record, filesystem, network, tools, files, array_text,
      NetworkPolicy.deserializeBuffered_serialize]
  have record : isRecord fields spec.serialize = true := rfl
  have key : entry fields "idempotency_key" spec.serialize =
      some (.string spec.idempotencyKey) := rfl
  have goal : entry fields "goal" spec.serialize = some (.string spec.goal) := rfl
  have capabilities : entry fields "capabilities" spec.serialize =
      some spec.capabilities.serialize := rfl
  have budget : entry fields "budget" spec.serialize = some spec.budget.serialize := rfl
  have approval : entry fields "approval" spec.serialize = some spec.approval.serialize := rfl
  simp [deserializeBuffered, record, key, goal, capabilities, budget, approval, set,
    Budget.deserialize_serialize, ApprovalPolicy.deserialize_serialize]

end TaskSpec

namespace LocalApi

/-- A record that skips unknown fields. The known ones stand once. -/
def isLenient (names : List String) : Json → Bool
  | .array items => decide (items.length ≤ names.length)
  | .object fields => decide ((fields.map Prod.fst).filter (names.contains ·)).Nodup
  | _ => false

def boolean : Json → Option Bool
  | .bool value => some value
  | _ => none

section decoders
variable (parseUuid : String → Option Nat)

def decodeId {kind : IdKind} (json : Json) : Option (Id kind) :=
  ((text json).bind parseUuid).map Id.mk

def decodeTaskMethod (method : TaskId → ApiMethod) (content : Json) : Option ApiMethod :=
  if isRecord ["task_id"] content then
    (required (decodeId parseUuid) (entry ["task_id"] "task_id" content)).map method
  else none

def defaultEventPageSize : Nat := 100

def eventsFields : List String := ["task_id", "after_sequence", "limit"]

def decodeMethod (json : Json) : Option ApiMethod :=
  match untag "method" json with
  | none => none
  | some (name, content) =>
    match name with
    | "health" => if isRecord [] content then some .health else none
    | "submit" =>
      if isRecord ["task"] content then
        (required TaskSpec.deserializeBuffered (entry ["task"] "task" content)).map .submit
      else none
    | "get_task" => decodeTaskMethod parseUuid .getTask content
    | "events" =>
      if isRecord eventsFields content then do
        let taskId ← required (decodeId parseUuid) (entry eventsFields "task_id" content)
        let afterSequence ← defaulted (unsigned (2 ^ 64)) 0
          (entry eventsFields "after_sequence" content)
        let limit ← defaulted (unsigned (2 ^ 16)) defaultEventPageSize
          (entry eventsFields "limit" content)
        some (.events taskId afterSequence limit)
      else none
    | "start" => decodeTaskMethod parseUuid .start content
    | "succeed" => decodeTaskMethod parseUuid .succeed content
    | "fail" => decodeTaskMethod parseUuid .fail content
    | "cancel" => decodeTaskMethod parseUuid .cancel content
    | _ => none

def requestFields : List String := ["protocol_version", "request"]

def decodeRequest (json : Json) : Option ApiRequest :=
  if isRecord requestFields json then do
    let version ← required (unsigned (2 ^ 16)) (entry requestFields "protocol_version" json)
    let request ← required (decodeMethod parseUuid) (entry requestFields "request" json)
    some ⟨version, request⟩
  else none

/-- `ProtocolProbe` -/
def decodeProbe (json : Json) : Option Nat :=
  if isLenient ["protocol_version"] json then
    required (unsigned (2 ^ 16)) (entry ["protocol_version"] "protocol_version" json)
  else none

def decodeState : Json → Option TaskState :=
  named stateName [.submitted, .validating, .rejected, .queued, .running, .waitingApproval,
    .succeeded, .failed, .cancelled]

def decodeErrorCode : Json → Option ErrorCode :=
  named errorCodeName [.invalidTask, .idempotencyConflict, .capabilityDenied, .approvalExpired,
    .budgetExceeded, .runtimeRestarted, .runtimeUnavailable, .internalError]

def decodeDenialReason : Json → Option DenialReason :=
  named denialReasonName [.invalidRequest, .capabilityNotGranted]

def decodeApiErrorCode : Json → Option ApiErrorCode :=
  named apiErrorCodeName [.invalidRequest, .unsupportedProtocolVersion, .frameTooLarge,
    .taskNotFound, .idempotencyConflict, .capacityExceeded, .invalidStateTransition,
    .approvalFailed, .storageUnavailable, .responseTooLarge]

def decodeDisposition : Json → Option SubmissionDisposition :=
  named dispositionName [.accepted, .existing, .rejected]

def approvalFields : List String := ["approval_id", "operation_id"]

def decodeApproval (kind : ApprovalId → OperationId → TaskEventKind) (content : Json) :
    Option TaskEventKind :=
  if isRecord approvalFields content then do
    let approvalId ← required (decodeId parseUuid) (entry approvalFields "approval_id" content)
    let operationId ← required (decodeId parseUuid) (entry approvalFields "operation_id" content)
    some (kind approvalId operationId)
  else none

def transitionFields : List String := ["from", "to"]

def kindNames : List String :=
  ["submitted", "state_transitioned", "validation_failed", "task_failed", "operation_allowed",
    "operation_denied", "approval_requested", "approval_granted", "approval_denied",
    "approval_expired", "approval_revoked", "approval_consumed"]

def decodeKind (json : Json) : Option TaskEventKind :=
  match untagBuffered "type" kindNames json with
  | none => none
  | some (name, content) =>
    match name with
    | "submitted" => if isSkipped content then some .submitted else none
    | "state_transitioned" =>
      if isRecord transitionFields content then do
        let source ← required decodeState (entry transitionFields "from" content)
        let target ← required decodeState (entry transitionFields "to" content)
        some (.stateTransitioned source target)
      else none
    | "validation_failed" =>
      if isRecord ["error_count"] content then
        (required (unsigned (2 ^ 64)) (entry ["error_count"] "error_count" content)).map
          .validationFailed
      else none
    | "task_failed" =>
      if isRecord ["code"] content then
        (required decodeErrorCode (entry ["code"] "code" content)).map .taskFailed
      else none
    | "operation_allowed" => if isSkipped content then some .operationAllowed else none
    | "operation_denied" =>
      if isRecord ["reason"] content then
        (required decodeDenialReason (entry ["reason"] "reason" content)).map .operationDenied
      else none
    | "approval_requested" => decodeApproval parseUuid .approvalRequested content
    | "approval_granted" => decodeApproval parseUuid .approvalGranted content
    | "approval_denied" => decodeApproval parseUuid .approvalDenied content
    | "approval_expired" => decodeApproval parseUuid .approvalExpired content
    | "approval_revoked" => decodeApproval parseUuid .approvalRevoked content
    | "approval_consumed" => decodeApproval parseUuid .approvalConsumed content
    | _ => none

def eventFields : List String := ["task_id", "sequence", "occurred_at_unix_ms", "kind"]

def decodeEvent (json : Json) : Option TaskEvent :=
  if isLenient eventFields json then do
    let taskId ← required (decodeId parseUuid) (entry eventFields "task_id" json)
    let sequence ← required (unsigned (2 ^ 64)) (entry eventFields "sequence" json)
    let occurredAtUnixMs ← required (unsigned (2 ^ 64)) (entry eventFields "occurred_at_unix_ms" json)
    let kind ← required (decodeKind parseUuid) (entry eventFields "kind" json)
    some ⟨taskId, sequence, occurredAtUnixMs, kind⟩
  else none

def viewFields : List String := ["task_id", "state"]

def decodeTaskView (json : Json) : Option TaskView :=
  if isLenient viewFields json then do
    let taskId ← required (decodeId parseUuid) (entry viewFields "task_id" json)
    let state ← required decodeState (entry viewFields "state" json)
    some ⟨taskId, state⟩
  else none

def issueFields : List String := ["field", "message"]

def decodeIssue (json : Json) : Option ValidationIssue :=
  if isLenient issueFields json then do
    let field ← required text (entry issueFields "field" json)
    let message ← required text (entry issueFields "message" json)
    some ⟨field, message⟩
  else none

def rangeFields : List String := ["minimum", "maximum"]

def decodeRange (json : Json) : Option ProtocolVersionRange :=
  if isRecord rangeFields json then do
    let minimum ← required (unsigned (2 ^ 16)) (entry rangeFields "minimum" json)
    let maximum ← required (unsigned (2 ^ 16)) (entry rangeFields "maximum" json)
    some ⟨minimum, maximum⟩
  else none

def submittedFields : List String := ["disposition", "task", "validation_errors"]

def eventsResultFields : List String := ["events", "has_more"]

def cancelledFields : List String := ["task", "changed"]

def decodeResult (json : Json) : Option ApiResult :=
  match untagBuffered "type" ["healthy", "submitted", "task", "events", "cancelled"] json with
  | none => none
  | some (name, content) =>
    match name with
    | "healthy" =>
      if isLenient ["supported_protocol_versions"] content then
        (required decodeRange
          (entry ["supported_protocol_versions"] "supported_protocol_versions" content)).map .healthy
      else none
    | "submitted" =>
      if isLenient submittedFields content then do
        let disposition ← required decodeDisposition (entry submittedFields "disposition" content)
        let task ← required (decodeTaskView parseUuid) (entry submittedFields "task" content)
        let issues ← defaulted (array decodeIssue) []
          (entry submittedFields "validation_errors" content)
        some (.submitted disposition task issues)
      else none
    | "task" =>
      if isLenient ["task"] content then
        (required (decodeTaskView parseUuid) (entry ["task"] "task" content)).map .task
      else none
    | "events" =>
      if isLenient eventsResultFields content then do
        let events ← required (array (decodeEvent parseUuid))
          (entry eventsResultFields "events" content)
        let hasMore ← required boolean (entry eventsResultFields "has_more" content)
        some (.events events hasMore)
      else none
    | "cancelled" =>
      if isLenient cancelledFields content then do
        let task ← required (decodeTaskView parseUuid) (entry cancelledFields "task" content)
        let changed ← required boolean (entry cancelledFields "changed" content)
        some (.cancelled task changed)
      else none
    | _ => none

def errorFields : List String := ["code", "message"]

def decodeApiError (json : Json) : Option ApiError :=
  if isLenient errorFields json then do
    let code ← required decodeApiErrorCode (entry errorFields "code" json)
    let message ← required text (entry errorFields "message" json)
    some ⟨code, message⟩
  else none

def decodeOutcome (json : Json) : Option ApiOutcome :=
  match untagBuffered "status" ["ok", "error"] json with
  | none => none
  | some (name, content) =>
    match name with
    | "ok" =>
      if isLenient ["result"] content then
        (required (decodeResult parseUuid) (entry ["result"] "result" content)).map .ok
      else none
    | "error" =>
      if isLenient ["error"] content then
        (required decodeApiError (entry ["error"] "error" content)).map .error
      else none
    | _ => none

/-- The outcome is made of all the fields but the version. -/
def decodeResponse : Json → Option ApiResponse
  | .object fields =>
    match fields.filter (fun field => field.1 == "protocol_version") with
    | [(_, version)] => do
      let version ← unsigned (2 ^ 16) version
      let outcome ← decodeOutcome parseUuid
        (.object (fields.filter fun field => field.1 != "protocol_version"))
      some ⟨version, outcome⟩
    | _ => none
  | _ => none

end decoders

section sizes

/-- The numbers of a message are those of its Rust types. -/
def Id.Sized {kind : IdKind} (id : Id kind) : Prop := id.uuid < 2 ^ 128

def ApiMethod.Sized : ApiMethod → Prop
  | .health => True
  | .submit _ => True
  | .events taskId afterSequence limit =>
    Id.Sized taskId ∧ afterSequence < 2 ^ 64 ∧ limit < 2 ^ 16
  | .getTask taskId => Id.Sized taskId
  | .start taskId => Id.Sized taskId
  | .succeed taskId => Id.Sized taskId
  | .fail taskId => Id.Sized taskId
  | .cancel taskId => Id.Sized taskId

def KindSized : TaskEventKind → Prop
  | .validationFailed errorCount => errorCount < 2 ^ 64
  | .approvalRequested approvalId operationId => Id.Sized approvalId ∧ Id.Sized operationId
  | .approvalGranted approvalId operationId => Id.Sized approvalId ∧ Id.Sized operationId
  | .approvalDenied approvalId operationId => Id.Sized approvalId ∧ Id.Sized operationId
  | .approvalExpired approvalId operationId => Id.Sized approvalId ∧ Id.Sized operationId
  | .approvalRevoked approvalId operationId => Id.Sized approvalId ∧ Id.Sized operationId
  | .approvalConsumed approvalId operationId => Id.Sized approvalId ∧ Id.Sized operationId
  | _ => True

structure EventSized (event : TaskEvent) : Prop where
  taskId : Id.Sized event.taskId
  sequence : event.sequence < 2 ^ 64
  occurredAtUnixMs : event.occurredAtUnixMs < 2 ^ 64
  kind : KindSized event.kind

def ApiResult.Sized : ApiResult → Prop
  | .healthy versions => versions.minimum < 2 ^ 16 ∧ versions.maximum < 2 ^ 16
  | .submitted _ view _ => Id.Sized view.taskId
  | .task view => Id.Sized view.taskId
  | .events page _ => ∀ event ∈ page, EventSized event
  | .cancelled view _ => Id.Sized view.taskId

def ApiOutcome.Sized : ApiOutcome → Prop
  | .ok result => result.Sized
  | .error _ => True

structure ApiResponse.Sized (response : ApiResponse) : Prop where
  protocolVersion : response.protocolVersion < 2 ^ 16
  outcome : response.outcome.Sized

end sizes

section roundtrip
variable {uuidText : Nat → String} {parseUuid : String → Option Nat}

/-- What `Uuid::parse_str` makes of the text of a UUID. -/
def ReadsUuid (uuidText : Nat → String) (parseUuid : String → Option Nat) : Prop :=
  ∀ uuid < 2 ^ 128, parseUuid (uuidText uuid) = some uuid

variable (reads : ReadsUuid uuidText parseUuid)
include reads

theorem decodeId_encodeId {kind : IdKind} {id : Id kind} (sized : Id.Sized id) :
    decodeId parseUuid (encodeId uuidText id) = some id := by
  simp [decodeId, encodeId, reads id.uuid sized]

theorem decodeTaskMethod_encode (method : TaskId → ApiMethod) {taskId : TaskId}
    (sized : Id.Sized taskId) :
    decodeTaskMethod parseUuid method (.object [("task_id", encodeId uuidText taskId)]) =
      some (method taskId) := by
  have record : isRecord ["task_id"] (.object [("task_id", encodeId uuidText taskId)]) = true := rfl
  have found : entry ["task_id"] "task_id" (.object [("task_id", encodeId uuidText taskId)]) =
      some (encodeId uuidText taskId) := rfl
  simp [decodeTaskMethod, record, found, decodeId_encodeId reads sized]

theorem decodeMethod_encodeMethod {method : ApiMethod} (sized : method.Sized) :
    decodeMethod parseUuid (encodeMethod uuidText method) = some method := by
  cases method with
  | health => rfl
  | submit task =>
    have whole : decodeMethod parseUuid (encodeMethod uuidText (.submit task)) =
        (TaskSpec.deserializeBuffered task.serialize).map .submit := rfl
    rw [whole, TaskSpec.deserializeBuffered_serialize]
    rfl
  | events taskId afterSequence limit =>
    obtain ⟨known, after, page⟩ := sized
    have whole : decodeMethod parseUuid (encodeMethod uuidText (.events taskId afterSequence limit)) =
        (do
          let taskId ← decodeId parseUuid (encodeId uuidText taskId)
          let afterSequence ← unsigned (2 ^ 64) (.number afterSequence)
          let limit ← unsigned (2 ^ 16) (.number limit)
          some (.events taskId afterSequence limit)) := rfl
    rw [whole, decodeId_encodeId reads known, unsigned_number after, unsigned_number page]
    rfl
  | getTask taskId => exact decodeTaskMethod_encode reads .getTask sized
  | start taskId => exact decodeTaskMethod_encode reads .start sized
  | succeed taskId => exact decodeTaskMethod_encode reads .succeed sized
  | fail taskId => exact decodeTaskMethod_encode reads .fail sized
  | cancel taskId => exact decodeTaskMethod_encode reads .cancel sized

theorem decodeRequest_encodeRequest {request : ApiRequest}
    (version : request.protocolVersion < 2 ^ 16) (sized : request.request.Sized) :
    decodeRequest parseUuid (encodeRequest uuidText request) = some request := by
  have whole : decodeRequest parseUuid (encodeRequest uuidText request) =
      (do
        let version ← unsigned (2 ^ 16) (.number request.protocolVersion)
        let method ← decodeMethod parseUuid (encodeMethod uuidText request.request)
        some ⟨version, method⟩) := rfl
  rw [whole, unsigned_number version, decodeMethod_encodeMethod reads sized]
  rfl

theorem decodeApproval_encode (kind : ApprovalId → OperationId → TaskEventKind)
    {approvalId : ApprovalId} {operationId : OperationId}
    (sized : Id.Sized approvalId ∧ Id.Sized operationId) :
    decodeApproval parseUuid kind (.object [("approval_id", encodeId uuidText approvalId),
      ("operation_id", encodeId uuidText operationId)]) = some (kind approvalId operationId) := by
  have whole : decodeApproval parseUuid kind (.object [("approval_id", encodeId uuidText approvalId),
      ("operation_id", encodeId uuidText operationId)]) = (do
        let approvalId ← decodeId parseUuid (encodeId uuidText approvalId)
        let operationId ← decodeId parseUuid (encodeId uuidText operationId)
        some (kind approvalId operationId)) := rfl
  rw [whole, decodeId_encodeId reads sized.1, decodeId_encodeId reads sized.2]
  rfl

omit reads in
theorem decodeState_name (state : TaskState) :
    decodeState (.string (stateName state)) = some state := by
  cases state <;> rfl

theorem decodeKind_encodeKind {kind : TaskEventKind} (sized : KindSized kind) :
    decodeKind parseUuid (encodeKind uuidText kind) = some kind := by
  cases kind with
  | submitted => rfl
  | stateTransitioned source target =>
    have whole : decodeKind parseUuid (encodeKind uuidText (.stateTransitioned source target)) =
        (do
          let source ← decodeState (.string (stateName source))
          let target ← decodeState (.string (stateName target))
          some (.stateTransitioned source target)) := rfl
    rw [whole, decodeState_name, decodeState_name]
    rfl
  | validationFailed errorCount =>
    have whole : decodeKind parseUuid (encodeKind uuidText (.validationFailed errorCount)) =
        (unsigned (2 ^ 64) (.number errorCount)).map .validationFailed := rfl
    rw [whole, unsigned_number sized]
    rfl
  | taskFailed code => cases code <;> rfl
  | operationAllowed => rfl
  | operationDenied reason => cases reason <;> rfl
  | approvalRequested => exact decodeApproval_encode reads .approvalRequested sized
  | approvalGranted => exact decodeApproval_encode reads .approvalGranted sized
  | approvalDenied => exact decodeApproval_encode reads .approvalDenied sized
  | approvalExpired => exact decodeApproval_encode reads .approvalExpired sized
  | approvalRevoked => exact decodeApproval_encode reads .approvalRevoked sized
  | approvalConsumed => exact decodeApproval_encode reads .approvalConsumed sized

theorem decodeEvent_encodeEvent {event : TaskEvent} (sized : EventSized event) :
    decodeEvent parseUuid (encodeEvent uuidText event) = some event := by
  have whole : decodeEvent parseUuid (encodeEvent uuidText event) = (do
      let taskId ← decodeId parseUuid (encodeId uuidText event.taskId)
      let sequence ← unsigned (2 ^ 64) (.number event.sequence)
      let occurredAtUnixMs ← unsigned (2 ^ 64) (.number event.occurredAtUnixMs)
      let kind ← decodeKind parseUuid (encodeKind uuidText event.kind)
      some ⟨taskId, sequence, occurredAtUnixMs, kind⟩) := rfl
  rw [whole, decodeId_encodeId reads sized.taskId, unsigned_number sized.sequence,
    unsigned_number sized.occurredAtUnixMs, decodeKind_encodeKind reads sized.kind]
  rfl

theorem decodeTaskView_encode {task : TaskView} (sized : Id.Sized task.taskId) :
    decodeTaskView parseUuid (encodeTaskView uuidText task) = some task := by
  have whole : decodeTaskView parseUuid (encodeTaskView uuidText task) = (do
      let taskId ← decodeId parseUuid (encodeId uuidText task.taskId)
      let state ← decodeState (.string (stateName task.state))
      some ⟨taskId, state⟩) := rfl
  rw [whole, decodeId_encodeId reads sized, decodeState_name]
  rfl

theorem decodeResult_encodeResult {result : ApiResult} (sized : result.Sized) :
    decodeResult parseUuid (encodeResult uuidText result) = some result := by
  cases result with
  | healthy versions =>
    have whole : decodeResult parseUuid (encodeResult uuidText (.healthy versions)) =
        ((do
          let minimum ← unsigned (2 ^ 16) (.number versions.minimum)
          let maximum ← unsigned (2 ^ 16) (.number versions.maximum)
          some ⟨minimum, maximum⟩ : Option ProtocolVersionRange).map .healthy) := rfl
    rw [whole, unsigned_number sized.1, unsigned_number sized.2]
    rfl
  | submitted disposition task issues =>
    have known : decodeDisposition (.string (dispositionName disposition)) = some disposition := by
      cases disposition <;> rfl
    have each : array decodeIssue (.array (issues.map encodeIssue)) = some issues :=
      array_map fun issue _ => rfl
    have empty : decodeResult parseUuid (encodeResult uuidText (.submitted disposition task [])) =
        (do
          let disposition ← decodeDisposition (.string (dispositionName disposition))
          let task ← decodeTaskView parseUuid (encodeTaskView uuidText task)
          some (.submitted disposition task [])) := rfl
    cases issues with
    | nil =>
      rw [empty, known, decodeTaskView_encode reads sized]
      rfl
    | cons issue issues =>
      have whole : decodeResult parseUuid
            (encodeResult uuidText (.submitted disposition task (issue :: issues))) =
          (do
            let disposition ← decodeDisposition (.string (dispositionName disposition))
            let task ← decodeTaskView parseUuid (encodeTaskView uuidText task)
            let issues ← array decodeIssue (.array ((issue :: issues).map encodeIssue))
            some (.submitted disposition task issues)) := rfl
      rw [whole, known, decodeTaskView_encode reads sized, each]
      rfl
  | task task =>
    have whole : decodeResult parseUuid (encodeResult uuidText (.task task)) =
        (decodeTaskView parseUuid (encodeTaskView uuidText task)).map .task := rfl
    rw [whole, decodeTaskView_encode reads sized]
    rfl
  | events events hasMore =>
    have each : array (decodeEvent parseUuid) (.array (events.map (encodeEvent uuidText))) =
        some events :=
      array_map fun event member => decodeEvent_encodeEvent reads (sized event member)
    have whole : decodeResult parseUuid (encodeResult uuidText (.events events hasMore)) =
        (do
          let events ← array (decodeEvent parseUuid) (.array (events.map (encodeEvent uuidText)))
          some (.events events hasMore)) := rfl
    rw [whole, each]
    rfl
  | cancelled task changed =>
    have whole : decodeResult parseUuid (encodeResult uuidText (.cancelled task changed)) =
        (do
          let task ← decodeTaskView parseUuid (encodeTaskView uuidText task)
          some (.cancelled task changed)) := rfl
    rw [whole, decodeTaskView_encode reads sized]
    rfl

theorem decodeResponse_encodeResponse {response : ApiResponse} (sized : response.Sized) :
    decodeResponse parseUuid (encodeResponse uuidText response) = some response := by
  obtain ⟨version, outcome⟩ := response
  cases outcome with
  | ok result =>
    have whole : decodeResponse parseUuid (encodeResponse uuidText ⟨version, .ok result⟩) =
        (do
          let version ← unsigned (2 ^ 16) (.number version)
          let outcome ← (decodeResult parseUuid (encodeResult uuidText result)).map ApiOutcome.ok
          some ⟨version, outcome⟩) := rfl
    rw [whole, unsigned_number sized.protocolVersion,
      decodeResult_encodeResult reads sized.outcome]
    rfl
  | error error =>
    obtain ⟨code, message⟩ := error
    have whole : decodeResponse parseUuid
          (encodeResponse uuidText ⟨version, .error ⟨code, message⟩⟩) =
        (do
          let version ← unsigned (2 ^ 16) (.number version)
          let outcome ← (do
            let code ← decodeApiErrorCode (.string (apiErrorCodeName code))
            some ⟨code, message⟩ : Option ApiError).map ApiOutcome.error
          some ⟨version, outcome⟩) := rfl
    have known : decodeApiErrorCode (.string (apiErrorCodeName code)) = some code := by
      cases code <;> rfl
    rw [whole, unsigned_number sized.protocolVersion, known]
    rfl

end roundtrip

end LocalApi

end AiOs
