import AiOs.Api.Encoding
import AiOs.Api.Paging

/-! A page of events fits into a frame of the default size. The longest event is a request for an
approval with a sequence of five digits and a time of twenty. -/
namespace AiOs.LocalApi

open Json

/-- The text of a UUID: 36 characters, none of which JSON escapes. -/
structure UuidText (uuidText : Nat → String) : Prop where
  long : ∀ uuid, (uuidText uuid).toList.length = 36
  plain : ∀ uuid, (uuidText uuid).toList.all isPlain = true

/-- The count that an event carries, if any. -/
def errorCountOf : TaskEventKind → Nat
  | .validationFailed errorCount => errorCount
  | _ => 0

/-- The numbers of an event are `u64` values. -/
def Fits64 (event : TaskEvent) : Prop :=
  event.occurredAtUnixMs < 2 ^ 64 ∧ errorCountOf event.kind < 2 ^ 64

instance (event : TaskEvent) : Decidable (Fits64 event) := inferInstanceAs (Decidable (_ ∧ _))

section sizes
variable {uuidText : Nat → String} (uuids : UuidText uuidText)
include uuids

theorem size_encodeId {kind : IdKind} (id : Id kind) : size (encodeId uuidText id) = 38 := by
  rw [encodeId, size_string (uuids.plain id.uuid), uuids.long]

omit uuids in
theorem size_stateName (state : TaskState) : size (.string (stateName state)) ≤ 18 := by
  cases state <;> decide

omit uuids in
theorem size_errorCodeName (code : ErrorCode) : size (.string (errorCodeName code)) ≤ 22 := by
  cases code <;> decide

omit uuids in
theorem size_denialReasonName (reason : DenialReason) :
    size (.string (denialReasonName reason)) ≤ 24 := by
  cases reason <;> decide

theorem size_encodeApproval {name : String} (short : size (.string name) ≤ 20)
    (approvalId : ApprovalId) (operationId : OperationId) :
    size (encodeApproval uuidText name approvalId operationId) ≤ 136 := by
  have names : (quoted "type").length = 6 ∧ (quoted "approval_id").length = 13 ∧
      (quoted "operation_id").length = 14 := by decide
  simp only [encodeApproval, tagged, size_object, fieldsSize, names, size_encodeId uuids,
    List.length_cons, List.length_nil]
  omega

theorem size_encodeKind {kind : TaskEventKind} (count : errorCountOf kind < 2 ^ 64) :
    size (encodeKind uuidText kind) ≤ 136 := by
  have names : (quoted "type").length = 6 ∧ (quoted "from").length = 6 ∧ (quoted "to").length = 4 ∧
      (quoted "error_count").length = 13 ∧ (quoted "code").length = 6 ∧
      (quoted "reason").length = 8 := by decide
  have tags : size (.string "state_transitioned") = 20 ∧ size (.string "validation_failed") = 19 ∧
      size (.string "task_failed") = 13 ∧ size (.string "operation_denied") = 18 := by decide
  cases kind with
  | submitted => exact (by decide : size (.object [("type", .string "submitted")]) ≤ 136)
  | operationAllowed =>
    exact (by decide : size (.object [("type", .string "operation_allowed")]) ≤ 136)
  | stateTransitioned source target =>
    have first := size_stateName source
    have second := size_stateName target
    simp only [encodeKind, tagged, size_object, fieldsSize, names, tags, List.length_cons,
      List.length_nil]
    omega
  | validationFailed errorCount =>
    have digits : size (.number errorCount) ≤ 20 :=
      size_number_le (by decide) (Nat.lt_trans count (by decide))
    simp only [encodeKind, tagged, size_object, fieldsSize, names, tags, List.length_cons,
      List.length_nil]
    omega
  | taskFailed code =>
    have short := size_errorCodeName code
    simp only [encodeKind, tagged, size_object, fieldsSize, names, tags, List.length_cons,
      List.length_nil]
    omega
  | operationDenied reason =>
    have short := size_denialReasonName reason
    simp only [encodeKind, tagged, size_object, fieldsSize, names, tags, List.length_cons,
      List.length_nil]
    omega
  | approvalRequested | approvalGranted | approvalDenied | approvalExpired | approvalRevoked
  | approvalConsumed => exact size_encodeApproval uuids (by decide) _ _

theorem size_encodeEvent {event : TaskEvent} (fits : Fits64 event)
    (early : event.sequence ≤ 10000) : size (encodeEvent uuidText event) ≤ 254 := by
  have names : (quoted "task_id").length = 9 ∧ (quoted "sequence").length = 10 ∧
      (quoted "occurred_at_unix_ms").length = 21 ∧ (quoted "kind").length = 6 := by decide
  have sequence : size (.number event.sequence) ≤ 5 := size_number_le (by decide) (by omega)
  have time : size (.number event.occurredAtUnixMs) ≤ 20 :=
    size_number_le (by decide) (Nat.lt_trans fits.1 (by decide))
  have kind := size_encodeKind uuids fits.2
  simp only [encodeEvent, size_object, fieldsSize, names, size_encodeId uuids, List.length_cons,
    List.length_nil]
  omega

theorem size_encodeEvents {events : List TaskEvent} (hasMore : Bool)
    (few : events.length ≤ maxEventPageSize)
    (each : ∀ event ∈ events, Fits64 event ∧ event.sequence ≤ 10000) :
    size (encodeResponse uuidText (ok (.events events hasMore))) ≤ 65371 := by
  have names : (quoted "protocol_version").length = 18 ∧ (quoted "status").length = 8 ∧
      (quoted "result").length = 8 ∧ (quoted "type").length = 6 ∧ (quoted "events").length = 8 ∧
      (quoted "has_more").length = 10 := by decide
  have values : size (.number protocolVersion) = 1 ∧ size (.string "ok") = 4 ∧
      size (.string "events") = 8 := by decide
  have flag : size (.bool hasMore) ≤ 5 := by cases hasMore <;> decide
  have items : size (.array (events.map (encodeEvent uuidText))) ≤ 256 * 254 + 255 + 2 := by
    have bound : ∀ item ∈ events.map (encodeEvent uuidText), size item ≤ 254 := by
      intro item member
      obtain ⟨event, listed, rfl⟩ := List.mem_map.mp member
      exact size_encodeEvent uuids (each event listed).1 (each event listed).2
    have total := size_array_le bound
    have most : events.length * 254 ≤ 256 * 254 := Nat.mul_le_mul_right _ few
    have commas : events.length - 1 ≤ 255 := Nat.sub_le_sub_right few 1
    rw [List.length_map] at total
    exact Nat.le_trans total (Nat.add_le_add_right (Nat.add_le_add most commas) 2)
  simp only [encodeResponse, ok, encodeOutcome, encodeResult, tagged, size_object, fieldsSize,
    names, values, List.length_cons, List.length_nil]
  omega

omit uuids in
theorem size_apiError (code : ApiErrorCode) (message : String) :
    size (encodeResponse uuidText (apiError code message)) =
      size (.string (apiErrorCodeName code)) + size (.string message) + 68 := by
  have names : (quoted "protocol_version").length = 18 ∧ (quoted "status").length = 8 ∧
      (quoted "error").length = 7 ∧ (quoted "code").length = 6 ∧
      (quoted "message").length = 9 := by decide
  have values : size (.number protocolVersion) = 1 ∧ size (.string "error") = 7 := by decide
  simp only [encodeResponse, apiError, encodeOutcome, size_object, fieldsSize, names, values,
    List.length_cons, List.length_nil]
  omega

omit uuids in
theorem size_supervisorErrorResponse (error : SupervisorError) :
    size (encodeResponse uuidText (supervisorErrorResponse error)) ≤ 1000 := by
  cases error <;> simp only [supervisorErrorResponse, size_apiError] <;> decide

end sizes

theorem events_sublist {S : Type} [PagedEventStore S] {supervisor : TaskSupervisor S}
    {taskId : TaskId} {after : Nat} {events : List TaskEvent}
    (listed : supervisor.events taskId after = .ok events) :
    events.Sublist (LawfulEventStore.log supervisor.eventStore taskId) := by
  unfold TaskSupervisor.events at listed
  split at listed
  · cases listed
  · split at listed
    · rename_i found
      cases Except.ok.inj listed
      exact PagedEventStore.list_sublist found
    · cases listed

theorem sequence_le {log : List TaskEvent} (sequenced : Sequenced log) {event : TaskEvent}
    (member : event ∈ log) : event.sequence ≤ log.length := by
  have listed : event.sequence ∈ log.map TaskEvent.sequence := List.mem_map_of_mem member
  rw [sequenced, List.mem_range'_1] at listed
  omega

theorem bytes_ne_nil_object (fields : List (String × Json)) : bytes (.object fields) ≠ [] := by
  rw [bytes]
  exact List.cons_ne_nil _ _

theorem writeResponse_fits {uuidText : Nat → String} {response : ApiResponse}
    {maxFrameBytes : Nat} (wide : maxFrameBytes < 2 ^ 32)
    (fits : size (encodeResponse uuidText response) ≤ maxFrameBytes) :
    writeResponse uuidText response maxFrameBytes =
      .ok (Bytes.bigEndian 4 (size (encodeResponse uuidText response))
        ++ bytes (encodeResponse uuidText response)) := by
  have kept : fitResponse uuidText response maxFrameBytes = response :=
    if_neg (Nat.not_lt.mpr fits)
  have some_byte : (bytes (encodeResponse uuidText response)).isEmpty = false :=
    List.isEmpty_eq_false_iff.mpr (bytes_ne_nil_object _)
  have room : ¬ maxFrameBytes < (bytes (encodeResponse uuidText response)).length :=
    Nat.not_lt.mpr fits
  have narrow : ¬ 2 ^ 32 ≤ (bytes (encodeResponse uuidText response)).length :=
    Nat.not_le.mpr (Nat.lt_of_le_of_lt fits wide)
  simp only [writeResponse, kept, writeFrame, some_byte, room, narrow, Bool.false_eq_true,
    or_self, if_false, size]

/-- Every answer to an `Events` request is sent as it is, and for a known Task and a position of
its log the answer is a page. -/
theorem events_page_fits {S : Type} [PagedEventStore S] {uuidText : Nat → String}
    (uuids : UuidText uuidText) (env : Env) (p : Process S) {taskId : TaskId}
    (sequenced : Sequenced (LawfulEventStore.log p.supervisor.eventStore taskId))
    (short : (LawfulEventStore.log p.supervisor.eventStore taskId).length ≤ 10000)
    (numbers : ∀ event ∈ LawfulEventStore.log p.supervisor.eventStore taskId, Fits64 event)
    (after : Nat) {limit : Nat} (positive : 1 ≤ limit) (small : limit ≤ maxEventPageSize) :
    ∃ response, handle env (.new (.events taskId after limit)) p = (.ok response, p) ∧
      size (encodeResponse uuidText response) ≤ defaultMaxFrameBytes ∧
      writeResponse uuidText response defaultMaxFrameBytes =
        .ok (Bytes.bigEndian 4 (size (encodeResponse uuidText response))
          ++ bytes (encodeResponse uuidText response)) ∧
      (p.supervisor.taskState taskId ≠ none →
        after ≤ (LawfulEventStore.log p.supervisor.eventStore taskId).length →
        response.page = some (Paging.pageOf limit
          ((LawfulEventStore.log p.supervisor.eventStore taskId).drop after))) := by
  have version : isSupportedProtocolVersion protocolVersion = true := by decide
  have accepted : ¬ (limit = 0 ∨ maxEventPageSize < limit) := by omega
  have answer : handle env (.new (.events taskId after limit)) p =
      (.ok (eventsResponse limit (p.supervisor.events taskId after)), p) := by
    simp only [handle, ApiRequest.new, version, if_true, handleMethod, if_neg accepted]
  have fits : size (encodeResponse uuidText
      (eventsResponse limit (p.supervisor.events taskId after))) ≤ defaultMaxFrameBytes := by
    cases listed : p.supervisor.events taskId after with
    | error error => exact Nat.le_trans (size_supervisorErrorResponse error) (by decide)
    | ok events =>
      refine Nat.le_trans (size_encodeEvents uuids _ ?_ ?_) (by decide)
      · exact Nat.le_trans (List.length_take_le limit events) small
      · intro event member
        have inside : event ∈ LawfulEventStore.log p.supervisor.eventStore taskId :=
          (events_sublist listed).subset (List.mem_of_mem_take member)
        exact ⟨numbers event inside, Nat.le_trans (sequence_le sequenced inside) short⟩
  refine ⟨_, answer, fits, writeResponse_fits (by decide) fits, ?_⟩
  intro known inside
  have page : readPage env taskId limit p after = some (Paging.pageOf limit
      ((LawfulEventStore.log p.supervisor.eventStore taskId).drop after)) :=
    readPage_known positive small known sequenced inside
  simpa only [readPage, answer] using page

def hexGroup (uuid shift count : Nat) : List Char :=
  (List.range count).map (fun i => Nat.digitChar (uuid / 16 ^ (shift + (count - 1 - i)) % 16))

def hyphenated (uuid : Nat) : String :=
  String.ofList (hexGroup uuid 24 8 ++ '-' :: hexGroup uuid 20 4 ++ '-' :: hexGroup uuid 16 4
    ++ '-' :: hexGroup uuid 12 4 ++ '-' :: hexGroup uuid 0 12)

theorem uuidText_hyphenated : UuidText hyphenated := by
  have digits : ∀ digit < 16, isPlain (Nat.digitChar digit) = true := by decide
  have hyphen : isPlain '-' = true := by decide
  have groups : ∀ uuid shift count, (hexGroup uuid shift count).all isPlain = true := by
    intro uuid shift count
    refine List.all_eq_true.mpr (fun c member => ?_)
    obtain ⟨i, -, rfl⟩ := List.mem_map.mp member
    exact digits _ (Nat.mod_lt _ (by decide))
  constructor
  · intro uuid
    simp [hyphenated, hexGroup]
  · intro uuid
    simp only [hyphenated, String.toList_ofList, List.all_append, List.all_cons, groups, hyphen,
      Bool.and_self]

set_option maxRecDepth 4000 in
theorem events_page_fits_started :
    ∃ response, handle Sample.env (.new (.events ⟨0⟩ 1 256))
        (Sample.process 20 [.submit Sample.spec, .start ⟨0⟩]) =
        (.ok response, Sample.process 20 [.submit Sample.spec, .start ⟨0⟩]) ∧
      size (encodeResponse hyphenated response) ≤ defaultMaxFrameBytes ∧
      response.page = some (Paging.pageOf 256 ((LawfulEventStore.log
        (Sample.process 20 [.submit Sample.spec, .start ⟨0⟩]).supervisor.eventStore ⟨0⟩).drop 1)) := by
  obtain ⟨response, answer, fits, _, page⟩ := events_page_fits uuidText_hyphenated Sample.env
    (Sample.process 20 [.submit Sample.spec, .start ⟨0⟩])
    (by unfold Sequenced; decide +kernel : Sequenced (LawfulEventStore.log
      (Sample.process 20 [.submit Sample.spec, .start ⟨0⟩]).supervisor.eventStore ⟨0⟩))
    (by decide +kernel) (by decide +kernel) 1 (by decide : 1 ≤ 256) (by decide)
  exact ⟨response, answer, fits, page (by decide +kernel) (by decide +kernel)⟩

end AiOs.LocalApi
