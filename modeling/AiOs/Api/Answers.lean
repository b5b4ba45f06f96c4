import AiOs.Api.Frame
import AiOs.Api.Server
import AiOs.Runtime.Discipline

/-! What an answer says about the supervisor. An error response says that nothing happened and a
change is reported, except that a rejected submission with a long list of problems is recorded and
then answered with an error, because its response does not fit into a frame. -/
namespace AiOs.LocalApi

open Fallible Json

def ApiResponse.isError : ApiResponse → Bool
  | ⟨_, .error _⟩ => true
  | ⟨_, .ok _⟩ => false

/-- The Task whose new state a result reports. -/
def ApiResult.change? : ApiResult → Option TaskView
  | .submitted .accepted view _ | .submitted .rejected view _ => some view
  | .task view => some view
  | .cancelled view true => some view
  | _ => none

section records
variable {S : Type} [LawfulEventStore S]

/-- The Task records, the index of keys, the approval maps and every log. -/
structure SameRecords (p after : Process S) : Prop where
  tasks : after.supervisor.tasks = p.supervisor.tasks
  recovered : after.supervisor.recoveredTasks = p.supervisor.recoveredTasks
  index : after.supervisor.idempotencyIndex = p.supervisor.idempotencyIndex
  authority : after.supervisor.approvalAuthority = p.supervisor.approvalAuthority
  pending : after.supervisor.pendingOperations = p.supervisor.pendingOperations
  approved : after.supervisor.approvedOperations = p.supervisor.approvedOperations
  logs : ∀ taskId, LawfulEventStore.log after.supervisor.eventStore taskId =
    LawfulEventStore.log p.supervisor.eventStore taskId

/-- One Task has moved to the state of the view, and no other Task has changed. -/
structure Moves (p after : Process S) (view : TaskView) : Prop where
  before : p.supervisor.taskState view.taskId ≠ some view.state
  now : after.supervisor.taskState view.taskId = some view.state
  tasks : ∀ other, other ≠ view.taskId →
    after.supervisor.tasks[other]? = p.supervisor.tasks[other]?
  recovered : after.supervisor.recoveredTasks = p.supervisor.recoveredTasks
  pending : ∀ (id : ApprovalId) (operation : PendingOperation), operation.taskId ≠ view.taskId →
    (after.supervisor.pendingOperations[id]? = some operation ↔
      p.supervisor.pendingOperations[id]? = some operation)
  approved : ∀ (id : OperationId) (operation : ApprovedOperation), operation.taskId ≠ view.taskId →
    (after.supervisor.approvedOperations[id]? = some operation ↔
      p.supervisor.approvedOperations[id]? = some operation)
  logs : ∀ other, other ≠ view.taskId → LawfulEventStore.log after.supervisor.eventStore other =
    LawfulEventStore.log p.supervisor.eventStore other

def Reports (p after : Process S) (response : ApiResponse) : Prop :=
  ∃ result view, response.outcome = .ok result ∧ result.change? = some view ∧ Moves p after view

/-- An error response means that nothing happened, and a change is reported by a success. -/
structure Honest (p : Process S) (served : Served) (after : Process S) : Prop where
  failed : ∀ response frame, served = .written response frame → response.isError = true →
    SameRecords p after
  changed : ¬ SameRecords p after →
    ∃ response frame, served = .written response frame ∧ Reports p after response

theorem SameRecords.of_same {p after : Process S} (same : after.supervisor = p.supervisor) :
    SameRecords p after := by
  constructor <;> simp [same]

theorem SameRecords.honest {p after : Process S} (same : SameRecords p after) (served : Served) :
    Honest p served after :=
  ⟨fun _ _ _ _ => same, fun changed => absurd same changed⟩

theorem Moves.not_same {p after : Process S} {view : TaskView} (moves : Moves p after view) :
    ¬ SameRecords p after := by
  intro same
  have now := moves.now
  rw [TaskSupervisor.taskState, same.tasks, same.recovered] at now
  exact moves.before now

theorem Moves.of_record {p after : Process S} {view : TaskView} {record : TaskRecord}
    (before : p.supervisor.taskState view.taskId ≠ some view.state)
    (tasks : after.supervisor.tasks = p.supervisor.tasks.insert view.taskId record)
    (state : record.state = view.state)
    (recovered : after.supervisor.recoveredTasks = p.supervisor.recoveredTasks)
    (pending : ∀ (id : ApprovalId) (operation : PendingOperation), operation.taskId ≠ view.taskId →
      (after.supervisor.pendingOperations[id]? = some operation ↔
        p.supervisor.pendingOperations[id]? = some operation))
    (approved : ∀ (id : OperationId) (operation : ApprovedOperation),
      operation.taskId ≠ view.taskId →
      (after.supervisor.approvedOperations[id]? = some operation ↔
        p.supervisor.approvedOperations[id]? = some operation))
    {kinds : List TaskEventKind} (appended : Appended p.supervisor.eventStore
      after.supervisor.eventStore view.taskId kinds) : Moves p after view where
  before := before
  now := by rw [taskState_own tasks, state]
  tasks other distinct := by rw [tasks, OrdMap.get_insert, if_neg (Ne.symm distinct)]
  recovered := recovered
  pending := pending
  approved := approved
  logs := appended.grows.others

theorem admits_moves {env : Env} {p after : Process S} {spec : TaskSpec} (orderly : Orderly env p)
    (admits : Admits env p spec after) :
    Moves p after ⟨⟨env.uuid p.world.ids⟩, (submissionEvents spec.validate).1⟩ := by
  obtain ⟨store, unused, room, appended⟩ := admits
  obtain ⟨noTask, noRecovered⟩ := orderly.unused_task
  refine .of_record ?_ rfl rfl rfl (fun _ _ _ => Iff.rfl) (fun _ _ _ => Iff.rfl) appended
  simp [TaskSupervisor.taskState, noTask, noRecovered]

theorem launches_moves {env : Env} {p after : Process S} {taskId : TaskId}
    (launches : Launches env p taskId after) : Moves p after ⟨taskId, .running⟩ := by
  obtain ⟨store, record, found, startable, appended⟩ := launches
  refine .of_record ?_ rfl rfl rfl (fun _ _ _ => Iff.rfl) (fun _ _ _ => Iff.rfl) appended
  rw [TaskSupervisor.taskState_of_record found]
  intro same
  have running : record.state = .running := Option.some.inj same
  rw [running] at startable
  exact absurd startable (by decide)

theorem finishes_moves {p after : Process S} {taskId : TaskId} {next : TaskState}
    {failure : Option ErrorCode} (finishes : Finishes p taskId next failure after) :
    Moves p after ⟨taskId, next⟩ := by
  obtain ⟨store, record, found, allowed, terminal, appended⟩ := finishes
  refine .of_record ?_ rfl rfl ?_ (fun id operation distinct => ?_)
    (fun id operation distinct => ?_) appended
  · rw [TaskSupervisor.taskState_of_record found]
    intro same
    have live := TaskState.not_terminal_of_transition allowed
    rw [Option.some.inj same, terminal] at live
    cases live
  · rw [TaskSupervisor.invalidateApprovals_eq]
  · rw [TaskSupervisor.invalidateApprovals_eq, OrdMap.get_foldl_erase]
    by_cases own : id ∈ p.supervisor.pendingIds taskId
    · obtain ⟨found, present, owner⟩ := TaskSupervisor.mem_pendingIds.mp own
      rw [if_pos own, present]
      constructor
      · intro none
        cases none
      · intro same
        cases Option.some.inj same
        exact absurd owner distinct
    · rw [if_neg own]
  · rw [TaskSupervisor.invalidateApprovals_eq, OrdMap.get_filter, Option.filter_eq_some_iff]
    simp [distinct]

end records

section sizes
variable {uuidText : Nat → String}

theorem size_fitResponse (response : ApiResponse) :
    size (encodeResponse uuidText (fitResponse uuidText response defaultMaxFrameBytes)) ≤
      defaultMaxFrameBytes := by
  unfold fitResponse
  split
  · rw [responseTooLarge, size_apiError]
    decide
  · rename_i fits
    exact Nat.le_of_not_lt fits

theorem fitResponse_of_fits {response : ApiResponse} {maxFrameBytes : Nat}
    (fits : size (encodeResponse uuidText response) ≤ maxFrameBytes) :
    fitResponse uuidText response maxFrameBytes = response :=
  if_neg (Nat.not_lt.mpr fits)

theorem sendResponse_written (response : ApiResponse) :
    ∃ frame, sendResponse uuidText response defaultMaxFrameBytes =
      .written (fitResponse uuidText response defaultMaxFrameBytes) frame := by
  have fits : size (encodeResponse uuidText (fitResponse uuidText response defaultMaxFrameBytes)) ≤
      defaultMaxFrameBytes := size_fitResponse response
  have sent := writeResponse_fits (by decide) fits
  rw [writeResponse, fitResponse_of_fits fits, ← writeResponse] at sent
  exact ⟨_, by rw [sendResponse, sent]⟩

variable (uuids : UuidText uuidText)
include uuids

theorem size_encodeTaskView (view : TaskView) :
    size (encodeTaskView uuidText view) = size (.string (stateName view.state)) + 59 := by
  have names : (quoted "task_id").length = 9 ∧ (quoted "state").length = 7 := by decide
  simp only [encodeTaskView, size_object, fieldsSize, names, size_encodeId uuids, List.length_cons,
    List.length_nil]
  omega

theorem size_taskResult (view : TaskView) :
    size (encodeResponse uuidText (ok (.task view))) ≤ defaultMaxFrameBytes := by
  have names : (quoted "protocol_version").length = 18 ∧ (quoted "status").length = 8 ∧
      (quoted "result").length = 8 ∧ (quoted "type").length = 6 ∧
      (quoted "task").length = 6 := by decide
  have values : size (.number protocolVersion) = 1 ∧ size (.string "ok") = 4 ∧
      size (.string "task") = 6 := by decide
  have state := size_stateName view.state
  simp only [encodeResponse, ok, encodeOutcome, encodeResult, tagged, size_object, fieldsSize,
    names, values, size_encodeTaskView uuids, List.length_cons, List.length_nil,
    defaultMaxFrameBytes]
  omega

theorem size_cancelledResult (view : TaskView) (changed : Bool) :
    size (encodeResponse uuidText (ok (.cancelled view changed))) ≤ defaultMaxFrameBytes := by
  have names : (quoted "protocol_version").length = 18 ∧ (quoted "status").length = 8 ∧
      (quoted "result").length = 8 ∧ (quoted "type").length = 6 ∧ (quoted "task").length = 6 ∧
      (quoted "changed").length = 9 := by decide
  have values : size (.number protocolVersion) = 1 ∧ size (.string "ok") = 4 ∧
      size (.string "cancelled") = 11 := by decide
  have state := size_stateName view.state
  have flag : size (.bool changed) ≤ 5 := by cases changed <;> decide
  simp only [encodeResponse, ok, encodeOutcome, encodeResult, tagged, size_object, fieldsSize,
    names, values, size_encodeTaskView uuids, List.length_cons, List.length_nil,
    defaultMaxFrameBytes]
  omega

theorem size_acceptedResult (taskId : TaskId) :
    size (encodeResponse uuidText (ok (.submitted .accepted ⟨taskId, .queued⟩ []))) ≤
      defaultMaxFrameBytes := by
  have names : (quoted "protocol_version").length = 18 ∧ (quoted "status").length = 8 ∧
      (quoted "result").length = 8 ∧ (quoted "type").length = 6 ∧ (quoted "task").length = 6 ∧
      (quoted "disposition").length = 13 := by decide
  have values : size (.number protocolVersion) = 1 ∧ size (.string "ok") = 4 ∧
      size (.string "submitted") = 11 ∧ size (.string (dispositionName .accepted)) = 10 ∧
      size (.string (stateName .queued)) = 8 := by decide
  simp only [encodeResponse, ok, encodeOutcome, encodeResult, encodeIssues, List.isEmpty_nil,
    if_true, List.append_nil, tagged, size_object, fieldsSize, names, values,
    size_encodeTaskView uuids, List.length_cons, List.length_nil, defaultMaxFrameBytes]
  omega

theorem size_rejectedResult (taskId : TaskId) {issues : List ValidationIssue}
    (present : issues ≠ []) :
    size (encodeResponse uuidText (ok (.submitted .rejected ⟨taskId, .rejected⟩ issues))) =
      size (.array (issues.map encodeIssue)) + 189 := by
  have names : (quoted "protocol_version").length = 18 ∧ (quoted "status").length = 8 ∧
      (quoted "result").length = 8 ∧ (quoted "type").length = 6 ∧ (quoted "task").length = 6 ∧
      (quoted "disposition").length = 13 ∧ (quoted "validation_errors").length = 19 := by decide
  have values : size (.number protocolVersion) = 1 ∧ size (.string "ok") = 4 ∧
      size (.string "submitted") = 11 ∧ size (.string (dispositionName .rejected)) = 10 ∧
      size (.string (stateName .rejected)) = 10 := by decide
  have listed : encodeIssues issues = [("validation_errors", .array (issues.map encodeIssue))] := by
    rw [encodeIssues, List.isEmpty_eq_false_iff.mpr present]
    rfl
  simp only [encodeResponse, ok, encodeOutcome, encodeResult, listed, List.cons_append,
    List.nil_append, tagged, size_object, fieldsSize, names, values, size_encodeTaskView uuids,
    List.length_cons, List.length_nil]
  omega

end sizes

def Submits (decoder : Decoder) (stream : List UInt8) (spec : TaskSpec) : Prop :=
  ∃ payload version named, (parseFrame defaultMaxFrameBytes stream).1 = .ok (some payload) ∧
    decoder.probe payload = some version ∧ isSupportedProtocolVersion version = true ∧
    decoder.request payload = some ⟨named, .submit spec⟩ ∧
    isSupportedProtocolVersion named = true

/-- A submission that makes a new Task: its key is unused, there is room, and the store takes the
first events. -/
structure Admissible {S : Type} [EventStore S] (env : Env) (p : Process S) (spec : TaskSpec) :
    Prop where
  unused : p.supervisor.idempotencyIndex[spec.idempotencyKey]? = none
  room : p.supervisor.tasks.size + p.supervisor.recoveredTasks.size < p.supervisor.maxTasks
  stored : (EventStore.appendBatch p.supervisor.eventStore (env.io p.world.attempts.length)
    ⟨env.uuid p.world.ids⟩ (submissionEvents spec.validate).2).1.isOk = true

section submission
variable {S : Type} [LawfulEventStore S] (env : Env) (p : Process S)

/-- A submission makes a new Task exactly when it is admissible. -/
def SubmitEnds (spec : TaskSpec) (out : Except Stop SubmitResult × Process S) : Prop :=
  (Admissible env p spec ∧
    out.1 = .ok (submitResult ⟨⟨env.uuid p.world.ids⟩, (submissionEvents spec.validate).1⟩
      spec.validate) ∧ Admits env p spec out.2) ∨
  (¬ Admissible env p spec ∧ StopsOr p (fun _ after => after = p) out)

theorem submit_outcome (spec : TaskSpec) : SubmitEnds env p spec (exec (submit env spec) p) := by
  unfold submit appendBatch
  rw [exec_bind_ok (exec_current p)]
  split
  · rename_i taskId used
    have inadmissible : ¬ Admissible env p spec := by
      intro admissible
      rw [admissible.unused] at used
      cases used
    apply okOr_rule
    · exact fun _ => .inr ⟨inadmissible, Quiet.refl p⟩
    · intro existing found
      apply ensure_rule
      · exact fun _ => .inr ⟨inadmissible, Quiet.refl p⟩
      · exact fun _ => .inr ⟨inadmissible, rfl⟩
  · rename_i unused
    apply ensure_rule
    · intro full
      refine .inr ⟨fun admissible => ?_, Quiet.refl p⟩
      rw [decide_eq_true admissible.room] at full
      cases full
    · intro room
      rw [exec_bind_ok (exec_newUuid env p), bind_assoc]
      -- the answer of the store is the one that admissibility speaks of
      have asked : (exec (tryAppend env ⟨env.uuid p.world.ids⟩
            (submissionEvents spec.validate).2) ⟨p.world.generate, p.supervisor⟩).1 =
          .ok (EventStore.appendBatch p.supervisor.eventStore (env.io p.world.attempts.length)
            ⟨env.uuid p.world.ids⟩ (submissionEvents spec.validate).2).1 := rfl
      rcases tryAppend_cases env ⟨p.world.generate, p.supervisor⟩ ⟨env.uuid p.world.ids⟩
        (submissionEvents spec.validate).2 with ⟨events, store, appended, ran⟩ | ⟨error, ran⟩
      · rw [ran] at asked
        rw [exec_bind_ok ran]
        refine .inl ⟨⟨unused, of_decide_eq_true room, ?_⟩, rfl,
          .mk store unused (of_decide_eq_true room) appended⟩
        rw [← Except.ok.inj asked]
        rfl
      · rw [ran] at asked
        rw [exec_bind_ok ran]
        refine .inr ⟨fun admissible => ?_, ?_⟩
        · have stored := admissible.stored
          rw [← Except.ok.inj asked] at stored
          cases stored
        · exact ⟨rfl, (World.moved_generate _).trans (World.moved_rejected _ _ _)⟩

end submission

section answers
variable {S : Type} [LawfulEventStore S] {uuidText : Nat → String} {env : Env} {p after : Process S}

theorem Moves.honest {response : ApiResponse} {result : ApiResult} {view : TaskView}
    (moves : Moves p after view) (outcome : response.outcome = .ok result)
    (reported : result.change? = some view)
    (fits : size (encodeResponse uuidText response) ≤ defaultMaxFrameBytes) :
    Honest p (sendResponse uuidText response defaultMaxFrameBytes) after := by
  obtain ⟨frame, sent⟩ : ∃ frame, sendResponse uuidText response defaultMaxFrameBytes =
      .written (fitResponse uuidText response defaultMaxFrameBytes) frame :=
    sendResponse_written response
  rw [sent, fitResponse_of_fits fits]
  constructor
  · intro other frame same error
    cases same
    obtain ⟨version, answer⟩ := response
    cases outcome
    cases error
  · exact fun _ => ⟨response, frame, rfl, result, view, outcome, reported, moves⟩

theorem Moves.dishonest {response : ApiResponse} {view : TaskView} (moves : Moves p after view)
    (large : defaultMaxFrameBytes < size (encodeResponse uuidText response)) :
    ¬ Honest p (sendResponse uuidText response defaultMaxFrameBytes) after := by
  intro honest
  obtain ⟨frame, sent⟩ : ∃ frame, sendResponse uuidText response defaultMaxFrameBytes =
      .written (fitResponse uuidText response defaultMaxFrameBytes) frame :=
    sendResponse_written response
  have swapped : fitResponse uuidText response defaultMaxFrameBytes = responseTooLarge :=
    if_pos large
  rw [swapped] at sent
  exact moves.not_same (honest.failed responseTooLarge frame sent rfl)

def HonestOut (p : Process S) (out : Served × Process S) : Prop := Honest p out.1 out.2

theorem honestOut_ok {response : ApiResponse} : HonestOut p
    (conclude uuidText defaultMaxFrameBytes (.ok response, after)) ↔
      Honest p (sendResponse uuidText response defaultMaxFrameBytes) after := Iff.rfl

/-- A method that stops has changed nothing, so only its success has to be looked at. -/
theorem respond_honest {α : Type} {response : α → Process S → ApiResponse}
    {effect : α → Process S → Prop} {call : Except Stop α × Process S}
    (cases : StopsOr p effect call)
    (answered : ∀ value after, effect value after →
      Honest p (sendResponse uuidText (response value after) defaultMaxFrameBytes) after) :
    HonestOut p (conclude uuidText defaultMaxFrameBytes (respond response call)) := by
  obtain ⟨result, after⟩ := call
  cases result with
  | ok value => exact answered value after cases
  | error stop =>
    have same : SameRecords p after := .of_same (Quiet.same cases)
    cases stop with
    | err error => exact same.honest _
    | panic message => exact same.honest _

omit [LawfulEventStore S] in
theorem taskResponse_known {supervisor : TaskSupervisor S} {taskId : TaskId} {state : TaskState}
    (known : supervisor.taskState taskId = some state) (result : TaskView → ApiResult) :
    taskResponse supervisor taskId result = ok (result ⟨taskId, state⟩) := by
  simp [taskResponse, TaskSupervisor.get, known, TaskView.from]

variable (uuids : UuidText uuidText)
include uuids

theorem transition_honest {taskId : TaskId} {next : TaskState}
    {effect : Process S → Prop} {call : Except Stop Unit × Process S}
    (cases : StopsOr p (fun _ after => effect after) call)
    (moves : ∀ after, effect after → Moves p after ⟨taskId, next⟩) :
    HonestOut p (conclude uuidText defaultMaxFrameBytes (transitionResponse taskId call)) := by
  refine respond_honest cases (fun _ after done => ?_)
  have moved := moves after done
  rw [taskResponse_known moved.now]
  exact moved.honest rfl rfl (size_taskResult uuids _)

theorem cancel_honest (orderly : Orderly env p) (taskId : TaskId) :
    HonestOut p (conclude uuidText defaultMaxFrameBytes (handleMethod env p (.cancel taskId))) := by
  refine respond_honest (cancel_cases env p orderly.recoveredTerminal taskId)
    (fun changed after ends => ?_)
  rcases ends with ⟨rfl, rfl⟩ | ⟨rfl, finishes⟩
  · exact (SameRecords.of_same rfl).honest _
  · have moved := finishes_moves finishes
    rw [taskResponse_known moved.now]
    exact moved.honest rfl rfl (size_cancelledResult uuids _ _)

theorem handleMethod_honest (orderly : Orderly env p) {method : ApiMethod}
    (other : ∀ spec, method ≠ .submit spec) :
    HonestOut p (conclude uuidText defaultMaxFrameBytes (handleMethod env p method)) := by
  have recovered := orderly.recoveredTerminal
  have same : SameRecords p p := .of_same rfl
  cases method with
  | health => exact same.honest _
  | submit spec => exact absurd rfl (other spec)
  | getTask taskId => exact same.honest _
  | events taskId afterSequence limit =>
    rw [handleMethod]
    split
    · exact same.honest _
    · exact same.honest _
  | start taskId =>
    exact transition_honest uuids (start_cases env p recovered taskId) fun _ => launches_moves
  | succeed taskId =>
    exact transition_honest uuids (succeed_cases env p recovered taskId) fun _ => finishes_moves
  | fail taskId =>
    exact transition_honest uuids (failTask_cases env p recovered taskId) fun _ => finishes_moves
  | cancel taskId => exact cancel_honest uuids orderly taskId

/-- A rejected Task is recorded before the size of its report is known. -/
theorem submit_honest_iff (orderly : Orderly env p) (spec : TaskSpec) :
    HonestOut p (conclude uuidText defaultMaxFrameBytes (handleMethod env p (.submit spec))) ↔
      ¬ (Admissible env p spec ∧ ∃ errors, spec.validate = .error errors ∧
        65347 < size (.array ((validationIssues errors).map encodeIssue))) := by
  have ends := submit_outcome env p spec
  rw [handleMethod]
  generalize exec (submit env spec) p = out at ends ⊢
  rcases ends with ⟨admissible, answered, admits⟩ | ⟨refused, stops⟩
  · obtain ⟨answer, after⟩ := out
    cases answered
    have moved := admits_moves orderly admits
    rw [respond, honestOut_ok]
    cases valid : spec.validate with
    | ok _ =>
      rw [valid] at moved
      have accepted : submissionResponse (submitResult ⟨⟨env.uuid p.world.ids⟩,
          (submissionEvents (.ok ())).1⟩ (.ok ())) =
          ok (.submitted .accepted ⟨⟨env.uuid p.world.ids⟩, .queued⟩ []) := rfl
      rw [accepted]
      have honest := moved.honest rfl rfl (size_acceptedResult uuids _)
      refine ⟨fun _ lost => ?_, fun _ => honest⟩
      obtain ⟨_, errors, invalid, _⟩ := lost
      cases invalid
    | error errors =>
      rw [valid] at moved
      have rejected : submissionResponse (submitResult ⟨⟨env.uuid p.world.ids⟩,
          (submissionEvents (.error errors)).1⟩ (.error errors)) =
          ok (.submitted .rejected ⟨⟨env.uuid p.world.ids⟩, .rejected⟩ (validationIssues errors)) :=
        rfl
      rw [rejected]
      have present : validationIssues errors ≠ [] := by
        rw [validationIssues, Ne, List.map_eq_nil_iff]
        exact errors.nonempty
      have total := size_rejectedResult uuids ⟨env.uuid p.world.ids⟩ present
      by_cases long : 65347 < size (.array ((validationIssues errors).map encodeIssue))
      · have large : defaultMaxFrameBytes < size (encodeResponse uuidText (ok (.submitted .rejected
            ⟨⟨env.uuid p.world.ids⟩, .rejected⟩ (validationIssues errors)))) := by
          rw [total, defaultMaxFrameBytes]
          omega
        exact ⟨fun honest => absurd honest (moved.dishonest large),
          fun kept => absurd ⟨admissible, errors, rfl, long⟩ kept⟩
      · have fits : size (encodeResponse uuidText (ok (.submitted .rejected
            ⟨⟨env.uuid p.world.ids⟩, .rejected⟩ (validationIssues errors)))) ≤
            defaultMaxFrameBytes := by
          rw [total, defaultMaxFrameBytes]
          omega
        have honest := moved.honest rfl rfl fits
        refine ⟨fun _ lost => ?_, fun _ => honest⟩
        obtain ⟨_, same, invalid, large⟩ := lost
        cases invalid
        exact long large
  · have honest : HonestOut p (conclude uuidText defaultMaxFrameBytes
        (respond (fun result _ => submissionResponse result) out)) :=
      respond_honest stops fun _ after same => (SameRecords.of_same (by rw [same])).honest _
    exact ⟨fun _ lost => refused lost.1, fun _ => honest⟩

/-- The report on a new Task does not fit into a frame: the Task is rejected for more reasons than
a frame holds. -/
def Overflows (env : Env) (p : Process S) (spec : TaskSpec) : Prop :=
  Admissible env p spec ∧ ∃ errors, spec.validate = .error errors ∧
    65347 < size (.array ((validationIssues errors).map encodeIssue))

theorem servePayload_honest_iff (orderly : Orderly env p) (decoder : Decoder)
    (payload : List UInt8) :
    HonestOut p (servePayload uuidText decoder env payload defaultMaxFrameBytes p) ↔
      ¬ ∃ version named spec, decoder.probe payload = some version ∧
        isSupportedProtocolVersion version = true ∧
        decoder.request payload = some ⟨named, .submit spec⟩ ∧
        isSupportedProtocolVersion named = true ∧ Overflows env p spec := by
  have same : SameRecords p p := .of_same rfl
  have unchanged : ∀ served, HonestOut p (served, p) := same.honest
  unfold servePayload
  cases probed : decoder.probe payload with
  | none => simp [unchanged]
  | some version =>
    by_cases supported : isSupportedProtocolVersion version = true
    · cases decoded : decoder.request payload with
      | none => simp [supported, unchanged]
      | some request =>
        obtain ⟨named, method⟩ := request
        by_cases agreed : isSupportedProtocolVersion named = true
        · simp only [supported, if_true, handle, agreed]
          by_cases submits : ∃ spec, method = .submit spec
          · obtain ⟨spec, rfl⟩ := submits
            rw [submit_honest_iff uuids orderly spec]
            simp [Overflows, agreed, supported]
          · have other : ∀ spec, method ≠ .submit spec := fun spec found => submits ⟨spec, found⟩
            refine ⟨fun _ lost => ?_, fun _ => handleMethod_honest uuids orderly other⟩
            obtain ⟨_, _, spec, _, _, found, _⟩ := lost
            cases Option.some.inj found
            exact submits ⟨spec, rfl⟩
        · have honest : HonestOut p (conclude uuidText defaultMaxFrameBytes
              (handle env ⟨named, method⟩ p)) := by
            rw [handle, if_neg agreed]
            exact unchanged _
          simp only [supported, if_true]
          refine ⟨fun _ lost => ?_, fun _ => honest⟩
          obtain ⟨_, _, spec, _, _, found, accepted, _⟩ := lost
          cases Option.some.inj found
          exact agreed accepted
    · simp only [supported]
      refine ⟨fun _ lost => ?_, fun _ => unchanged _⟩
      obtain ⟨_, _, spec, found, accepted, _⟩ := lost
      cases Option.some.inj found
      exact supported accepted

theorem serveStream_honest_iff (orderly : Orderly env p) (decoder : Decoder)
    (chunk : Nat → Nat) (reader : Stream.Reader) :
    HonestOut p (serveStream uuidText decoder env chunk reader defaultMaxFrameBytes p) ↔
      ¬ ∃ spec, Submits decoder reader.unread spec ∧ Overflows env p spec := by
  have same : SameRecords p p := .of_same rfl
  have unchanged : ∀ served, HonestOut p (served, p) := same.honest
  obtain ⟨later, read⟩ := readFrame_eq chunk defaultMaxFrameBytes reader
  unfold serveStream Submits
  rw [read]
  dsimp only
  rcases (parseFrame defaultMaxFrameBytes reader.unread).1 with (_ | _) | (_ | payload)
  · simp [unchanged]
  · simp [unchanged]
  · simp [unchanged]
  · simp only
    rw [servePayload_honest_iff uuids orderly decoder payload, not_iff_not]
    constructor
    · rintro ⟨version, named, spec, probed, supported, decoded, agreed, overflows⟩
      exact ⟨spec, ⟨payload, version, named, rfl, probed, supported, decoded, agreed⟩, overflows⟩
    · rintro ⟨spec, ⟨_, version, named, found, probed, supported, decoded, agreed⟩, overflows⟩
      cases Option.some.inj (Except.ok.inj found)
      exact ⟨version, named, spec, probed, supported, decoded, agreed, overflows⟩

/-- For every reachable supervisor and everything that a peer may send, in whatever pieces: an
error response means that nothing happened, and a change is reported, exactly when the frame does
not submit a new Task with more problems than a response holds. -/
theorem error_means_unchanged_iff (fresh : Function.Injective env.uuid)
    (reached : Daemon.Reached env Daemon.Anything (.up p)) (decoder : Decoder)
    (chunk : Nat → Nat) (reader : Stream.Reader) :
    Honest p (serveStream uuidText decoder env chunk reader defaultMaxFrameBytes p).1
        (serveStream uuidText decoder env chunk reader defaultMaxFrameBytes p).2 ↔
      ¬ ∃ spec, Submits decoder reader.unread spec ∧ Overflows env p spec := by
  have coherent : Coherent env p := reached.sound fresh
  exact serveStream_honest_iff uuids ⟨coherent.registry, coherent.records⟩ decoder chunk reader

end answers

namespace Sample

def crowded (count : Nat) : TaskSpec :=
  { AiOs.Sample.spec with capabilities := ⟨[], .deny, List.replicate count ""⟩ }

def submission (spec : TaskSpec) : List UInt8 :=
  (encodeRequest hyphenated (.new (.submit spec))).bytes

def knowing (spec : TaskSpec) : Decoder where
  probe payload := if payload = submission spec then some protocolVersion else none
  request payload := if payload = submission spec then some (.new (.submit spec)) else none

theorem submission_crowded (count : Nat) : (submission (crowded count)).length ≤ 3 * count + 400 := by
  have names : (quoted "protocol_version").length = 18 ∧ (quoted "request").length = 9 ∧
      (quoted "method").length = 8 ∧ (quoted "task").length = 6 ∧
      (quoted "idempotency_key").length = 17 ∧ (quoted "goal").length = 6 ∧
      (quoted "capabilities").length = 14 ∧ (quoted "budget").length = 8 ∧
      (quoted "approval").length = 10 ∧ (quoted "filesystem").length = 12 ∧
      (quoted "network").length = 9 ∧ (quoted "tools").length = 7 := by decide
  have values : size (.number protocolVersion) = 1 ∧ size (.string "submit") = 8 ∧
      size (.string "key") = 5 ∧ size (.string "goal") = 6 ∧
      size (.array (([] : List FileCapability).map FileCapability.serialize)) = 2 ∧
      size NetworkPolicy.deny.serialize = 15 ∧ size (Budget.serialize ⟨60, 1, 1⟩) = 65 ∧
      size (ApprovalPolicy.serialize ⟨["push"]⟩) = 25 := by decide
  have tools : size (.array ((List.replicate count "").map Json.string)) ≤
      count * 2 + (count - 1) + 2 := by
    have each : ∀ item ∈ (List.replicate count "").map Json.string, size item ≤ 2 := by
      intro item member
      rw [List.map_replicate] at member
      rw [List.eq_of_mem_replicate member]
      decide
    have total := size_array_le each
    rwa [List.length_map, List.length_replicate] at total
  change size (encodeRequest hyphenated (.new (.submit (crowded count)))) ≤ _
  simp only [encodeRequest, encodeMethod, ApiRequest.new, tagged, TaskSpec.serialize, crowded,
    AiOs.Sample.spec, CapabilitySet.serialize, size_object, fieldsSize, names, values,
    List.length_cons, List.length_nil]
  omega

theorem crowded_invalid (count : Nat) {errors : ValidationErrors}
    (invalid : (crowded count).validate = .error errors) : count ≤ errors.errors.length := by
  have nameless : ∀ tool ∈ List.replicate count "",
      validateIdentifier "capabilities.tools" tool maxIdentifierBytes ≠ [] := by
    intro tool member
    rw [List.eq_of_mem_replicate member]
    decide
  have tools : (List.replicate count "").length ≤ (validateEntries
      (fun tool => validateIdentifier "capabilities.tools" tool maxIdentifierBytes) id
      ⟨"capabilities.tools", "must not contain duplicate entries"⟩ []
      (List.replicate count "")).length := validateEntries_length nameless
  rw [List.length_replicate] at tools
  rw [TaskSpec.errors_of_validate invalid]
  simp only [crowded, CapabilitySet.validate, List.length_append]
  omega

theorem size_issues (issues : List ValidationIssue) :
    issues.length * 21 ≤ size (.array (issues.map encodeIssue)) := by
  have names : (quoted "field").length = 7 ∧ (quoted "message").length = 9 := by decide
  have each : ∀ issue : ValidationIssue, 21 ≤ size (encodeIssue issue) := by
    intro issue
    simp only [encodeIssue, size_object, fieldsSize, names, List.length_cons, List.length_nil]
    omega
  have total : issues.length * 21 ≤ ((issues.map encodeIssue).map size).sum := by
    induction issues with
    | nil => simp
    | cons issue rest ih =>
      have one := each issue
      simp only [List.length_cons, List.map_cons, List.sum_cons]
      omega
  rw [size_array]
  omega

theorem crowded_rejected (count : Nat) (some_tool : 0 < count) :
    ∃ errors, (crowded count).validate = .error errors := by
  cases valid : (crowded count).validate with
  | error errors => exact ⟨errors, rfl⟩
  | ok _ =>
    have capabilities := ((crowded count).valid_iff.mp valid).2.2.1
    simp only [crowded, CapabilitySet.validate, List.append_eq_nil_iff] at capabilities
    have first := validateEntries_nil capabilities.2 "" (List.mem_replicate.mpr ⟨by omega, rfl⟩)
    exact absurd first (by decide)

theorem crowded_overflows : Overflows AiOs.Sample.env (AiOs.Sample.process 20 []) (crowded 4000) := by
  obtain ⟨errors, invalid⟩ := crowded_rejected 4000 (by decide)
  refine ⟨⟨by decide +kernel, by decide +kernel, ?_⟩, errors, invalid, ?_⟩
  · rw [invalid]
    rfl
  · have many := crowded_invalid 4000 invalid
    have large := size_issues (validationIssues errors)
    rw [validationIssues, List.length_map] at large
    rw [validationIssues]
    omega

theorem submission_some (spec : TaskSpec) : 1 ≤ (submission spec).length :=
  List.length_pos_iff.mpr (bytes_ne_nil_object _)

theorem knowing_submits {spec : TaskSpec}
    (small : (submission spec).length ≤ defaultMaxFrameBytes) :
    Submits (knowing spec) (frame (submission spec)) spec := by
  have parsed := parseFrame_frame (by decide) (submission_some spec) small []
  rw [List.append_nil] at parsed
  exact ⟨submission spec, protocolVersion, protocolVersion, by rw [parsed], if_pos rfl, by decide,
    if_pos rfl, by decide⟩

theorem requestFrame_submission {spec : TaskSpec}
    (small : (submission spec).length ≤ defaultMaxFrameBytes) :
    requestFrame hyphenated (.new (.submit spec)) defaultMaxFrameBytes =
      .ok (frame (submission spec)) := by
  have some_byte : (submission spec).isEmpty = false :=
    List.isEmpty_eq_false_iff.mpr (bytes_ne_nil_object _)
  have narrow : ¬ 2 ^ 32 ≤ (submission spec).length := by
    rw [defaultMaxFrameBytes] at small
    omega
  have room : ¬ ((submission spec).isEmpty = true ∨ defaultMaxFrameBytes < (submission spec).length) := by
    simp [some_byte, small]
  change writeFrame (submission spec) defaultMaxFrameBytes = _
  rw [writeFrame, if_neg room, if_neg narrow]
  rfl

end Sample

/-- The list of problems is too long for a frame: the rejected Task is recorded, and its client is
told that the request failed. -/
theorem crowded_rejection_unreported :
    Daemon.Reached AiOs.Sample.env Daemon.Anything (.up (AiOs.Sample.process 20 [])) ∧
    ∃ sent, requestFrame hyphenated (.new (.submit (Sample.crowded 4000))) defaultMaxFrameBytes =
        .ok sent ∧
      ¬ Honest (AiOs.Sample.process 20 [])
        (serveStream hyphenated (Sample.knowing (Sample.crowded 4000)) AiOs.Sample.env (fun _ => 1)
          ⟨sent, 0⟩ defaultMaxFrameBytes (AiOs.Sample.process 20 [])).1
        (serveStream hyphenated (Sample.knowing (Sample.crowded 4000)) AiOs.Sample.env (fun _ => 1)
          ⟨sent, 0⟩ defaultMaxFrameBytes (AiOs.Sample.process 20 [])).2 := by
  have reached : Daemon.Reached AiOs.Sample.env Daemon.Anything
      (.up (AiOs.Sample.process 20 [])) := AiOs.Sample.process_reached (by decide)
  have coherent := reached.sound AiOs.Sample.uuid_injective
  have small : (Sample.submission (Sample.crowded 4000)).length ≤ defaultMaxFrameBytes :=
    Nat.le_trans (Sample.submission_crowded 4000) (by decide)
  refine ⟨reached, _, Sample.requestFrame_submission small, fun honest => ?_⟩
  have kept := (serveStream_honest_iff uuidText_hyphenated ⟨coherent.registry, coherent.records⟩
    (Sample.knowing (Sample.crowded 4000)) (fun _ => 1)
    ⟨frame (Sample.submission (Sample.crowded 4000)), 0⟩).mp honest
  exact kept ⟨_, Sample.knowing_submits small, Sample.crowded_overflows⟩

/-- A valid Task. -/
theorem error_means_unchanged_valid :
    Honest (AiOs.Sample.process 20 [])
      (serveStream hyphenated (Sample.knowing AiOs.Sample.spec) AiOs.Sample.env (fun _ => 1)
        ⟨frame (Sample.submission AiOs.Sample.spec), 0⟩ defaultMaxFrameBytes
        (AiOs.Sample.process 20 [])).1
      (serveStream hyphenated (Sample.knowing AiOs.Sample.spec) AiOs.Sample.env (fun _ => 1)
        ⟨frame (Sample.submission AiOs.Sample.spec), 0⟩ defaultMaxFrameBytes
        (AiOs.Sample.process 20 [])).2 := by
  refine (error_means_unchanged_iff uuidText_hyphenated AiOs.Sample.uuid_injective
    (AiOs.Sample.process_reached (by decide)) _ _ _).mpr ?_
  rintro ⟨spec, ⟨payload, _, named, _, _, _, decoded, _⟩, _, errors, invalid, _⟩
  have valid : AiOs.Sample.spec.validate = .ok () := by decide +kernel
  simp only [Sample.knowing] at decoded
  split at decoded
  · cases Option.some.inj decoded
    rw [valid] at invalid
    cases invalid
  · cases decoded

end AiOs.LocalApi
