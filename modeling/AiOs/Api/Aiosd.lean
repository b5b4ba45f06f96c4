import AiOs.Api.Exchange
import AiOs.Runtime.Safety

/-! The daemon over its whole life: it recovers what its store holds, serves connections with any
bytes on them, ends at any time and is started again. Behind the bytes there are only calls of
five methods. -/
namespace AiOs.LocalApi

open Stream Fallible

/-- The call of the supervisor behind a method, if it is more than a reading. -/
def ApiMethod.call? : ApiMethod → Option Call
  | .health => none
  | .submit task => some (.submit task)
  | .getTask _ => none
  | .events _ _ _ => none
  | .start taskId => some (.start taskId)
  | .succeed taskId => some (.succeed taskId)
  | .fail taskId => some (.fail taskId)
  | .cancel taskId => some (.cancel taskId)

def ApiRequest.call? (request : ApiRequest) : Option Call :=
  if isSupportedProtocolVersion request.protocolVersion then request.request.call? else none

/-- The call in a payload of a supported version that decodes. -/
def Decoder.call? (decoder : Decoder) (payload : List UInt8) : Option Call :=
  match decoder.probe payload with
  | none => none
  | some version =>
    if isSupportedProtocolVersion version then (decoder.request payload).bind ApiRequest.call?
    else none

/-- The call that a connection asks for. -/
def Connection.call? (decoder : Decoder) (maxFrameBytes : Nat) (connection : Connection) :
    Option Call :=
  if connection.configured then
    match (parseFrame maxFrameBytes connection.bytes).1 with
    | .ok (some payload) => decoder.call? payload
    | .ok none => none
    | .error _ => none
  else none

def attempted {S : Type} [EventStore S] (env : Env) (p : Process S) (call : Option Call) :
    Process S :=
  match call with
  | none => p
  | some call => (call.run env p).2

section calls
variable {S : Type} [LawfulEventStore S] {env : Env} {p : Process S}

omit [LawfulEventStore S] in
theorem respond_sane {α : Type} (response : α → Process S → ApiResponse)
    {call : Except Stop α × Process S} (sane : Sane call) :
    ∃ answer, respond response call = (.ok answer, call.2) := by
  obtain ⟨result, after⟩ := call
  cases result with
  | ok value => exact ⟨_, rfl⟩
  | error stop =>
    cases stop with
    | err error => exact ⟨_, rfl⟩
    | panic message => exact (sane _ rfl).elim

/-- A method is answered after the call behind it, and does nothing else. -/
theorem handleMethod_runs (orderly : Orderly env p) (method : ApiMethod) :
    ∃ response, handleMethod env p method = (.ok response, attempted env p method.call?) := by
  -- a method that returns a value is the call with its value forgotten
  have forgotten : ∀ {α : Type} {method : SupervisorM S α}, Sane (exec (discard method) p) →
      Sane (exec method p) :=
    fun sane stop raised => sane stop (exec_discard_error.mpr raised)
  have after : ∀ {α : Type} (method : SupervisorM S α),
      (exec method p).2 = (exec (discard method) p).2 := by
    intro α method
    rw [exec_discard]
  cases method with
  | health => exact ⟨_, rfl⟩
  | getTask taskId => exact ⟨_, rfl⟩
  | events taskId afterSequence limit =>
    simp only [handleMethod]
    split
    · exact ⟨_, rfl⟩
    · exact ⟨_, rfl⟩
  | submit task =>
    obtain ⟨answer, told⟩ := respond_sane (fun result _ => submissionResponse result)
      (forgotten (call_sane orderly (.submit task)))
    rw [after] at told
    exact ⟨answer, told⟩
  | start taskId => exact respond_sane _ (call_sane orderly (.start taskId))
  | succeed taskId => exact respond_sane _ (call_sane orderly (.succeed taskId))
  | fail taskId => exact respond_sane _ (call_sane orderly (.fail taskId))
  | cancel taskId =>
    obtain ⟨answer, told⟩ := respond_sane
      (fun changed p => taskResponse p.supervisor taskId (.cancelled · changed))
      (forgotten (call_sane orderly (.cancel taskId)))
    rw [after] at told
    exact ⟨answer, told⟩

theorem handle_runs (orderly : Orderly env p) (request : ApiRequest) :
    ∃ response, handle env request p = (.ok response, attempted env p request.call?) := by
  unfold handle ApiRequest.call?
  split
  · exact handleMethod_runs orderly request.request
  · exact ⟨_, rfl⟩

/-- A connection that ends well or badly, but not the server, after the given call. -/
structure Survived (env : Env) (p : Process S) (call : Option Call) (out : Served × Process S) :
    Prop where
  alive : ∀ stop, out.1 ≠ .stopped stop
  after : out.2 = attempted env p call

variable {uuidText : Nat → String} {decoder : Decoder} {maxFrameBytes : Nat}

theorem survived_sent {call : Option Call} (response : ApiResponse) {after : Process S}
    (same : after = attempted env p call) :
    Survived env p call (sendResponse uuidText response maxFrameBytes, after) := by
  refine ⟨?_, same⟩
  intro stop
  unfold sendResponse
  split
  · exact nofun
  · exact nofun

theorem survived_payload (orderly : Orderly env p) (payload : List UInt8) :
    Survived env p (decoder.call? payload)
      (servePayload uuidText decoder env payload maxFrameBytes p) := by
  unfold servePayload Decoder.call?
  cases decoder.probe payload with
  | none => exact survived_sent _ rfl
  | some version =>
    dsimp only
    split
    · cases decoder.request payload with
      | none => exact survived_sent _ rfl
      | some request =>
        obtain ⟨response, answer⟩ := handle_runs orderly request
        simp only [answer, conclude, Option.bind_some]
        exact survived_sent response rfl
    · exact survived_sent _ rfl

theorem survived_stream (orderly : Orderly env p) (chunk : Nat → Nat) (bytes : List UInt8) :
    Survived env p (Connection.call? decoder maxFrameBytes ⟨true, chunk, bytes⟩)
      (serveStream uuidText decoder env chunk ⟨bytes, 0⟩ maxFrameBytes p) := by
  obtain ⟨later, read⟩ := readFrame_eq chunk maxFrameBytes ⟨bytes, 0⟩
  unfold serveStream Connection.call?
  rw [read]
  cases (parseFrame maxFrameBytes bytes).1 with
  | ok frame =>
    cases frame with
    | none => exact ⟨nofun, rfl⟩
    | some payload => exact survived_payload orderly payload
  | error error =>
    cases error with
    | frameTooLarge => exact survived_sent _ rfl
    | protocol => exact ⟨nofun, rfl⟩

/-- The calls that come through the local API. -/
def Local (_ : Process S) : Call → Prop
  | .submit _ => True
  | .start _ => True
  | .succeed _ => True
  | .fail _ => True
  | .cancel _ => True
  | _ => False

omit [LawfulEventStore S] in
theorem local_method {method : ApiMethod} {call : Call} (asked : method.call? = some call) :
    Local p call := by
  cases method <;> cases asked <;> trivial

omit [LawfulEventStore S] in
theorem local_connection {connection : Connection} {call : Call}
    (asked : connection.call? decoder maxFrameBytes = some call) : Local p call := by
  unfold Connection.call? at asked
  split at asked
  · split at asked
    · unfold Decoder.call? at asked
      split at asked
      · cases asked
      · split at asked
        · obtain ⟨request, _, behind⟩ := Option.bind_eq_some_iff.mp asked
          unfold ApiRequest.call? at behind
          split at behind
          · exact local_method behind
          · cases behind
        · cases asked
    · cases asked
    · cases asked
  · cases asked

end calls

section forever
variable {S : Type} [LawfulEventStore S] {env : Env} {permitted : Process S → Call → Prop}

def callsOf (decoder : Decoder) (config : ServerConfig) (connections : List Connection) :
    List Call :=
  connections.filterMap (Connection.call? decoder config.maxFrameBytes)

/-- Over the connections: each leaves a process of a run, from which the next is served. -/
theorem serveForever_reached (fresh : Function.Injective env.uuid) (uuidText : Nat → String)
    (decoder : Decoder) (config : ServerConfig) (connections : List Connection)
    (allowed : ∀ p call, Local p call → permitted p call) {p : Process S}
    (reached : Daemon.Reached env permitted (.up p)) :
    serveForever uuidText env decoder config connections p =
        (none, Daemon.runCalls env p (callsOf decoder config connections)) ∧
      Daemon.Reached env permitted
        (.up (Daemon.runCalls env p (callsOf decoder config connections))) := by
  induction connections generalizing p with
  | nil => exact ⟨rfl, reached⟩
  | cons connection rest ih =>
    have orderly : Orderly env p := (reached.sound fresh).orderly
    have here : ∀ call, Local p call → Daemon.Follows env permitted p [call] :=
      fun call known => ⟨allowed p call known, trivial⟩
    have next : Daemon.Reached env permitted
        (.up (attempted env p (connection.call? decoder config.maxFrameBytes))) := by
      cases asked : connection.call? decoder config.maxFrameBytes with
      | none => exact reached
      | some call => exact reached.follow (here call (local_connection asked))
    have later := ih next
    have calls : Daemon.runCalls env p (callsOf decoder config (connection :: rest)) =
        Daemon.runCalls env (attempted env p (connection.call? decoder config.maxFrameBytes))
          (callsOf decoder config rest) := by
      unfold callsOf
      rw [List.filterMap_cons]
      cases connection.call? decoder config.maxFrameBytes with
      | none => rfl
      | some call => rfl
    rw [calls]
    refine ⟨?_, later.2⟩
    obtain ⟨configured, chunk, bytes⟩ := connection
    cases configured with
    | false => exact later.1
    | true =>
      obtain ⟨alive, after⟩ := @survived_stream S _ env p uuidText decoder config.maxFrameBytes
        orderly chunk bytes
      simp only [serveForever, if_true]
      generalize serveStream uuidText decoder env chunk ⟨bytes, 0⟩ config.maxFrameBytes p = out
        at alive after
      obtain ⟨served, left⟩ := out
      cases after
      cases served with
      | stopped stop => exact absurd rfl (alive stop)
      | written response frame => exact later.1
      | failed error => exact later.1

/-- A daemon that has come from an empty store serves connection after connection, whatever bytes
they carry and however these are split: it never stops, and it leaves what the decoded calls
leave, one after the other. -/
theorem serve_forever_runs_calls (fresh : Function.Injective env.uuid) (uuidText : Nat → String)
    (decoder : Decoder) (config : ServerConfig) (connections : List Connection) {p : Process S}
    (reached : Daemon.Reached env Daemon.Anything (.up p)) :
    serveForever uuidText env decoder config connections p =
        (none, Daemon.runCalls env p (callsOf decoder config connections)) ∧
      Daemon.Reached env Daemon.Anything
        (.up (Daemon.runCalls env p (callsOf decoder config connections))) :=
  serveForever_reached fresh uuidText decoder config connections (fun _ _ _ => trivial) reached

end forever

namespace Sample

def threeConnections : List Connection :=
  [⟨false, fun _ => 1, submission AiOs.Sample.spec⟩, ⟨true, fun _ => 1, [0, 0, 1]⟩,
    ⟨true, fun _ => 7, frame (submission AiOs.Sample.spec)⟩]

theorem callsOf_three :
    callsOf (knowing AiOs.Sample.spec) .default threeConnections = [.submit AiOs.Sample.spec] := by
  decide +kernel

end Sample

theorem serve_forever_runs_calls_three :
    serveForever hyphenated AiOs.Sample.env (Sample.knowing AiOs.Sample.spec) .default
        Sample.threeConnections (AiOs.Sample.process 20 []) =
      (none, AiOs.Sample.process 20 [.submit AiOs.Sample.spec]) := by
  have reached : Daemon.Reached AiOs.Sample.env Daemon.Anything
      (.up (AiOs.Sample.process 20 [])) := AiOs.Sample.process_reached (by decide)
  have served := serve_forever_runs_calls AiOs.Sample.uuid_injective hyphenated
    (Sample.knowing AiOs.Sample.spec) .default Sample.threeConnections reached
  rw [Sample.callsOf_three] at served
  exact served.1

end AiOs.LocalApi
