import AiOs.Api.Answers
import AiOs.Api.Reading

/-! Both ends of the local API. A client writes one frame and reads one, over a connection that
splits the bytes as it likes and may break in either direction, by an error or at the time limit;
the server takes connection after connection. JSON text is read by a parameter, of which only the
documents of this API are expected to be read back. -/
namespace AiOs.LocalApi

open Stream

def minMaxFrameBytes : Nat := 1024
def maxMaxFrameBytes : Nat := 1024 * 1024

structure ServerConfig where
  maxFrameBytes : Nat
  connectionTimeout : Duration
  wide : minMaxFrameBytes ≤ maxFrameBytes
  narrow : maxFrameBytes ≤ maxMaxFrameBytes
  timed : connectionTimeout ≠ 0

def ServerConfig.validate (maxFrameBytes : Nat) (connectionTimeout : Duration) :
    Option ServerConfig :=
  if valid : minMaxFrameBytes ≤ maxFrameBytes ∧ maxFrameBytes ≤ maxMaxFrameBytes ∧
      connectionTimeout ≠ 0 then
    some ⟨maxFrameBytes, connectionTimeout, valid.1, valid.2.1, valid.2.2⟩
  else none

def ServerConfig.default : ServerConfig :=
  ⟨defaultMaxFrameBytes, Duration.fromSecs 5, by decide, by decide, by decide⟩

section exchange
variable (uuidText : Nat → String) (parseUuid : String → Option Nat)
  (parse : List UInt8 → Option Json)

/-- `serde_json::from_slice` for the probe and for the request. -/
def jsonDecoder : Decoder where
  probe payload := (parse payload).bind decodeProbe
  request payload := (parse payload).bind (decodeRequest parseUuid)

/-- What becomes of one connection. Each of the four limits is a direction at one end: a stream
that breaks there lets so many bytes through, and the next read or write fails. -/
structure Link where
  configured : Bool
  accepted : Bool
  requestWrite : Option Nat
  requestRead : Option Nat
  responseWrite : Option Nat
  responseRead : Option Nat
  clientChunk : Nat → Nat
  serverChunk : Nat → Nat

/-- The part of `LocalApiError` that a client meets. -/
inductive SendError where
  | io
  | failed (error : LocalApiError)
  deriving DecidableEq, Repr

/-- `send_request` behind its own frame. Only the first byte of a frame is read by itself, so a
stream that breaks behind it looks like a cut frame. -/
def receive (config : ServerConfig) (link : Link) (answer : List UInt8) :
    Except SendError ApiResponse := do
  let arrived := through link.responseRead answer
  check (!(link.responseRead.isSome && arrived.isEmpty)) .io
  let read ← (readFrame link.clientChunk config.maxFrameBytes ⟨arrived, 0⟩).1.mapError .failed
  let payload ← orError read (.failed .protocol)
  let response ← orError ((parse payload).bind (decodeResponse parseUuid)) (.failed .protocol)
  check (response.protocolVersion == protocolVersion) (.failed .protocol)
  pure response

def Served.bytes : Served → List UInt8
  | .written _ frame => frame
  | .failed _ => []
  | .stopped _ => []

variable {S : Type} [EventStore S] (env : Env)

/-- One connection in `serve_forever`, with what the stream takes of the answer. A connection that
is not accepted or not configured is dropped, and so is one that breaks at the first byte. -/
def serve (config : ServerConfig) (link : Link) (sent : List UInt8) (p : Process S) :
    List UInt8 × Process S :=
  let arrived := through link.requestRead sent
  if !link.accepted || (link.requestRead.isSome && arrived.isEmpty) then ([], p)
  else
    let out := serveStream uuidText (jsonDecoder parseUuid parse) env link.serverChunk
      ⟨arrived, 0⟩ config.maxFrameBytes p
    (through link.responseWrite out.1.bytes, out.2)

/-- `send_request` on one side and the server on the other. A client that has nothing to send
closes the connection. -/
def exchange (config : ServerConfig) (link : Link) (request : ApiRequest) (p : Process S) :
    Except SendError ApiResponse × Process S :=
  let serve := fun sent => serve uuidText parseUuid parse env config link sent p
  if link.configured then
    match requestFrame uuidText request config.maxFrameBytes with
    | .error error => (.error (.failed error), (serve []).2)
    | .ok frame =>
      let served := serve (through link.requestWrite frame)
      if passes link.requestWrite frame then
        (receive parseUuid parse config link served.1, served.2)
      else (.error .io, served.2)
  else (.error .io, (serve []).2)

structure Connection where
  configured : Bool
  chunk : Nat → Nat
  bytes : List UInt8

/-- `serve_forever`, until an `accept` fails, which ends the list, or until a panic. -/
def serveForever (decoder : Decoder) (config : ServerConfig) :
    List Connection → Process S → Option Stop × Process S
  | [], p => (none, p)
  | connection :: rest, p =>
    if connection.configured then
      match serveStream uuidText decoder env connection.chunk ⟨connection.bytes, 0⟩
          config.maxFrameBytes p with
      | (.stopped stop, after) => (some stop, after)
      | (_, after) => serveForever decoder config rest after
    else serveForever decoder config rest p

end exchange

section sides
variable {uuidText : Nat → String} {parseUuid : String → Option Nat}
  {parse : List UInt8 → Option Json} {config : ServerConfig}

theorem ServerConfig.short (config : ServerConfig) : config.maxFrameBytes < 2 ^ 32 :=
  lt_of_le_of_lt config.narrow (by decide)

theorem size_fitted (response : ApiResponse) :
    (encodeResponse uuidText (fitResponse uuidText response config.maxFrameBytes)).size ≤
      config.maxFrameBytes := by
  unfold fitResponse
  split
  · have small : (encodeResponse uuidText responseTooLarge).size ≤ minMaxFrameBytes := by
      rw [responseTooLarge, size_apiError]
      decide
    exact Nat.le_trans small config.wide
  · rename_i fits
    exact Nat.le_of_not_lt fits

theorem writeFrame_fits {payload : List UInt8} (present : payload ≠ [])
    (fits : payload.length ≤ config.maxFrameBytes) :
    writeFrame payload config.maxFrameBytes = .ok (frame payload) := by
  have room : ¬ (payload.isEmpty = true ∨ config.maxFrameBytes < payload.length) := by
    simp [present, fits]
  rw [writeFrame, if_neg room, if_neg (Nat.not_le.mpr (Nat.lt_of_le_of_lt fits config.short)), frame]

theorem writeFrame_large {payload : List UInt8} (large : config.maxFrameBytes < payload.length) :
    writeFrame payload config.maxFrameBytes = .error .frameTooLarge := by
  rw [writeFrame, if_pos (.inr large)]

theorem readFrame_frame {payload : List UInt8} (present : payload ≠ [])
    (fits : payload.length ≤ config.maxFrameBytes) (chunk : Nat → Nat) :
    (readFrame chunk config.maxFrameBytes ⟨frame payload, 0⟩).1 = .ok (some payload) := by
  obtain ⟨later, read⟩ := readFrame_eq chunk config.maxFrameBytes ⟨frame payload, 0⟩
  have parsed := parseFrame_frame config.short (List.length_pos_iff.mpr present) fits []
  rw [List.append_nil] at parsed
  rw [read]
  dsimp only
  rw [parsed]

theorem readFrame_nothing (chunk : Nat → Nat) (maxFrameBytes : Nat) :
    (readFrame chunk maxFrameBytes ⟨[], 0⟩).1 = .ok none := by
  obtain ⟨later, read⟩ := readFrame_eq chunk maxFrameBytes ⟨[], 0⟩
  rw [read]
  rfl

/-- A part of a frame is no frame. -/
theorem readFrame_cut {payload cut : List UInt8} (fits : payload.length ≤ config.maxFrameBytes)
    (start : cut <+: frame payload) (proper : cut.length < (frame payload).length)
    (chunk : Nat → Nat) :
    (readFrame chunk config.maxFrameBytes ⟨cut, 0⟩).1 = .ok none ∨
      (readFrame chunk config.maxFrameBytes ⟨cut, 0⟩).1 = .error .protocol := by
  by_cases nothing : cut = []
  · subst nothing
    exact .inl (readFrame_nothing chunk _)
  · obtain ⟨later, read⟩ := readFrame_eq chunk config.maxFrameBytes ⟨cut, 0⟩
    have other : cut ≠ frame payload := by
      intro same
      rw [same] at proper
      exact Nat.lt_irrefl _ proper
    rw [read]
    exact .inr (parseFrame_cut config.short fits start nothing other)

theorem serveStream_cut {S : Type} [EventStore S] {env : Env} {decoder : Decoder} {p : Process S}
    {payload cut : List UInt8} (fits : payload.length ≤ config.maxFrameBytes)
    (start : cut <+: frame payload) (proper : cut.length < (frame payload).length)
    (chunk : Nat → Nat) :
    serveStream uuidText decoder env chunk ⟨cut, 0⟩ config.maxFrameBytes p =
      (.failed .protocol, p) := by
  have read := readFrame_cut fits start proper chunk
  unfold serveStream
  rcases read with read | read <;> rw [read]

theorem bytes_encodeRequest (request : ApiRequest) : (encodeRequest uuidText request).bytes ≠ [] :=
  bytes_ne_nil_object _

theorem bytes_encodeResponse (response : ApiResponse) :
    (encodeResponse uuidText response).bytes ≠ [] :=
  bytes_ne_nil_object _

theorem sendResponse_bytes (response : ApiResponse) :
    (sendResponse uuidText response config.maxFrameBytes).bytes =
      frame (encodeResponse uuidText (fitResponse uuidText response config.maxFrameBytes)).bytes := by
  have fits := @size_fitted uuidText config response
  have written := writeFrame_fits (bytes_encodeResponse _) fits
  rw [sendResponse, writeResponse, written]
  rfl

theorem decodeProbe_encodeRequest {request : ApiRequest}
    (version : request.protocolVersion < 2 ^ 16) :
    decodeProbe (encodeRequest uuidText request) = some request.protocolVersion := by
  have whole : decodeProbe (encodeRequest uuidText request) =
      Serde.unsigned (2 ^ 16) (.number request.protocolVersion) := rfl
  rw [whole, Serde.unsigned_number version]

variable {S : Type} [EventStore S] {env : Env}

omit [EventStore S] in
theorem respond_version {α : Type} {response : α → Process S → ApiResponse}
    (each : ∀ value p, (response value p).protocolVersion = protocolVersion)
    {call : Except Stop α × Process S} {answer : ApiResponse} {after : Process S}
    (told : respond response call = (.ok answer, after)) :
    answer.protocolVersion = protocolVersion := by
  obtain ⟨result, later⟩ := call
  cases result with
  | ok value =>
    cases told
    exact each value _
  | error stop =>
    cases stop with
    | panic message => cases told
    | err error =>
      cases told
      cases error <;> rfl

omit [EventStore S] in
theorem taskResponse_version (supervisor : TaskSupervisor S) (taskId : TaskId)
    (result : TaskView → ApiResult) :
    (taskResponse supervisor taskId result).protocolVersion = protocolVersion := by
  unfold taskResponse
  split <;> rfl

/-- Whatever the service answers bears the version of this protocol. -/
theorem handleMethod_version {p after : Process S} {method : ApiMethod} {response : ApiResponse}
    (answer : handleMethod env p method = (.ok response, after)) :
    response.protocolVersion = protocolVersion := by
  cases method with
  | health =>
    cases answer
    rfl
  | submit task =>
    refine respond_version (fun result _ => ?_) answer
    cases result <;> rfl
  | getTask taskId =>
    cases answer
    exact taskResponse_version _ _ _
  | events taskId afterSequence limit =>
    simp only [handleMethod] at answer
    split at answer
    · cases answer
      rfl
    · cases answer
      cases p.supervisor.events taskId afterSequence with
      | ok events => rfl
      | error error => cases error <;> rfl
  | start taskId => exact respond_version (fun _ p => taskResponse_version _ _ _) answer
  | succeed taskId => exact respond_version (fun _ p => taskResponse_version _ _ _) answer
  | fail taskId => exact respond_version (fun _ p => taskResponse_version _ _ _) answer
  | cancel taskId => exact respond_version (fun _ p => taskResponse_version _ _ _) answer

theorem fitResponse_version {response : ApiResponse} (max : Nat)
    (version : response.protocolVersion = protocolVersion) :
    (fitResponse uuidText response max).protocolVersion = protocolVersion := by
  unfold fitResponse
  split
  · rfl
  · exact version

theorem fitResponse_sized {response : ApiResponse} (max : Nat) (sized : response.Sized) :
    (fitResponse uuidText response max).Sized := by
  unfold fitResponse
  split
  · exact ⟨by decide, trivial⟩
  · exact sized

end sides

/-- What the client is left with when the call ends so and all its answer comes back. -/
def delivered (uuidText : Nat → String) (maxFrameBytes : Nat) :
    Except Stop ApiResponse → Except SendError ApiResponse
  | .ok response => .ok (fitResponse uuidText response maxFrameBytes)
  | .error _ => .error (.failed .protocol)

/-- The server gets this frame from the client. -/
def Link.arrives (link : Link) (sent : List UInt8) : Bool :=
  link.configured && link.accepted && passes link.requestWrite sent && passes link.requestRead sent

/-- The client gets what comes of a call: the answer, or the end of the stream. -/
def Link.returns (link : Link) (uuidText : Nat → String) (maxFrameBytes : Nat) :
    Except Stop ApiResponse → Bool
  | .ok response =>
    let sent := frame (encodeResponse uuidText (fitResponse uuidText response maxFrameBytes)).bytes
    passes link.responseWrite sent && passes link.responseRead sent
  | .error _ => link.responseRead.isNone

/-- Neither side fails to accept, to configure, to read or to write. -/
def Link.Unbroken (link : Link) : Prop :=
  link.configured = true ∧ link.accepted = true ∧ link.requestWrite = none ∧
    link.requestRead = none ∧ link.responseWrite = none ∧ link.responseRead = none

/-- What comes of a request that is sent in one frame: the call once, when the frame arrives, and
its answer, when that comes back as well. -/
structure Exchanged {S : Type} (uuidText : Nat → String) (config : ServerConfig) (link : Link)
    (sent : List UInt8) (p : Process S) (called : Except Stop ApiResponse × Process S)
    (out : Except SendError ApiResponse × Process S) : Prop where
  once : out.2 = if link.arrives sent then called.2 else p
  answered : link.arrives sent = true → link.returns uuidText config.maxFrameBytes called.1 = true →
    out.1 = delivered uuidText config.maxFrameBytes called.1
  lost : (link.arrives sent && link.returns uuidText config.maxFrameBytes called.1) = false →
    out.1 = .error .io ∨ out.1 = .error (.failed .protocol)

theorem Link.Unbroken.arrives {link : Link} (unbroken : link.Unbroken) (sent : List UInt8) :
    link.arrives sent = true := by
  obtain ⟨configured, accepted, write, read, _, _⟩ := unbroken
  simp [Link.arrives, configured, accepted, write, read, passes]

theorem Link.Unbroken.returns {link : Link} (unbroken : link.Unbroken) (uuidText : Nat → String)
    (maxFrameBytes : Nat) (called : Except Stop ApiResponse) :
    link.returns uuidText maxFrameBytes called = true := by
  obtain ⟨_, _, _, _, write, read⟩ := unbroken
  cases called <;> simp [Link.returns, write, read, passes]

section calls
variable {uuidText : Nat → String} {parseUuid : String → Option Nat}
  {parse : List UInt8 → Option Json} {config : ServerConfig} {link : Link}

theorem receive_frame (reads : ReadsUuid uuidText parseUuid) {response : ApiResponse}
    (sized : response.Sized) (version : response.protocolVersion = protocolVersion)
    (fits : (encodeResponse uuidText response).size ≤ config.maxFrameBytes)
    (told : parse (encodeResponse uuidText response).bytes = some (encodeResponse uuidText response))
    (whole : passes link.responseRead (frame (encodeResponse uuidText response).bytes) = true) :
    receive parseUuid parse config link (frame (encodeResponse uuidText response).bytes) =
      .ok response := by
  have read := readFrame_frame (bytes_encodeResponse response) fits link.clientChunk
  have same : (response.protocolVersion == protocolVersion) = true := beq_iff_eq.mpr version
  have some_byte := List.isEmpty_eq_false_iff.mpr
    (frame_ne_nil (encodeResponse uuidText response).bytes)
  unfold receive
  simp only [through_of_passes whole, some_byte, read, orError, told, Option.bind_some, check,
    decodeResponse_encodeResponse reads sized, same, Except.mapError, bind, Except.bind, pure,
    Except.pure, Bool.and_false, Bool.not_false, if_true]

theorem receive_nothing (ended : link.responseRead.isNone = true) :
    receive parseUuid parse config link [] = .error (.failed .protocol) := by
  have silent := Option.isNone_iff_eq_none.mp ended
  unfold receive
  simp only [silent, through, readFrame_nothing]
  rfl

theorem receive_cut {payload answer : List UInt8} (fits : payload.length ≤ config.maxFrameBytes)
    (start : answer <+: frame payload)
    (proper : (through link.responseRead answer).length < (frame payload).length) :
    receive parseUuid parse config link answer = .error .io ∨
      receive parseUuid parse config link answer = .error (.failed .protocol) := by
  have read := readFrame_cut fits ((prefix_through link.responseRead answer).trans start) proper
    link.clientChunk
  unfold receive
  by_cases broken : (!(link.responseRead.isSome &&
      (through link.responseRead answer).isEmpty)) = true
  · right
    rcases read with read | read <;>
      simp only [broken, read, check, orError, Except.mapError, bind, Except.bind, if_true]
  · left
    simp only [broken, check, bind, Except.bind, Bool.false_eq_true, if_false]

theorem length_through_nil_lt (limit : Option Nat) :
    (through limit []).length < (frame []).length := by
  rw [through_nil, length_frame]
  decide

theorem receive_silence : receive parseUuid parse config link [] = .error .io ∨
    receive parseUuid parse config link [] = .error (.failed .protocol) := by
  exact receive_cut (Nat.zero_le _) List.nil_prefix (length_through_nil_lt _)

variable {S : Type} [EventStore S] {env : Env} {p : Process S} {method : ApiMethod}

theorem serveStream_request (reads : ReadsUuid uuidText parseUuid) (sized : method.Sized)
    (fits : (encodeRequest uuidText (.new method)).size ≤ config.maxFrameBytes)
    (asked : parse (encodeRequest uuidText (.new method)).bytes =
      some (encodeRequest uuidText (.new method))) (chunk : Nat → Nat) :
    serveStream uuidText (jsonDecoder parseUuid parse) env chunk
        ⟨frame (encodeRequest uuidText (.new method)).bytes, 0⟩ config.maxFrameBytes p =
      conclude uuidText config.maxFrameBytes (handle env (.new method) p) := by
  have small : (ApiRequest.new method).protocolVersion < 2 ^ 16 := by
    change protocolVersion < 2 ^ 16
    decide
  have supported : isSupportedProtocolVersion (ApiRequest.new method).protocolVersion = true := rfl
  have probed := @decodeProbe_encodeRequest uuidText _ small
  have decoded := decodeRequest_encodeRequest reads small sized
  unfold serveStream
  rw [readFrame_frame (bytes_encodeRequest _) fits chunk]
  simp only [servePayload, jsonDecoder, asked, Option.bind_some, probed, decoded, supported, if_true]

theorem serve_cut {payload sent : List UInt8} (fits : payload.length ≤ config.maxFrameBytes)
    (start : sent <+: frame payload)
    (proper : link.accepted = false ∨
      (through link.requestRead sent).length < (frame payload).length) :
    serve uuidText parseUuid parse env config link sent p = ([], p) := by
  unfold serve
  dsimp only
  split
  · rfl
  · rename_i served
    have accepted : link.accepted = true := by
      by_contra refused
      simp [refused] at served
    have short := proper.resolve_left (by simp [accepted])
    rw [serveStream_cut fits ((prefix_through link.requestRead sent).trans start) short]
    exact Prod.ext (through_nil link.responseWrite) rfl

theorem serve_nothing : serve uuidText parseUuid parse env config link [] p = ([], p) := by
  exact serve_cut (Nat.zero_le _) List.nil_prefix (.inr (length_through_nil_lt _))

theorem serve_request (reads : ReadsUuid uuidText parseUuid) (sized : method.Sized)
    (fits : (encodeRequest uuidText (.new method)).size ≤ config.maxFrameBytes)
    (asked : parse (encodeRequest uuidText (.new method)).bytes =
      some (encodeRequest uuidText (.new method)))
    (accepted : link.accepted = true)
    (whole : passes link.requestRead (frame (encodeRequest uuidText (.new method)).bytes) = true) :
    serve uuidText parseUuid parse env config link
        (frame (encodeRequest uuidText (.new method)).bytes) p =
      (through link.responseWrite
        (conclude uuidText config.maxFrameBytes (handle env (.new method) p)).1.bytes,
        (handle env (.new method) p).2) := by
  have some_byte := List.isEmpty_eq_false_iff.mpr
    (frame_ne_nil (encodeRequest uuidText (.new method)).bytes)
  have called := @serveStream_request _ _ _ config S _ env p _ reads sized fits asked link.serverChunk
  unfold serve
  simp only [through_of_passes whole, some_byte, accepted, called, Bool.not_true, Bool.and_false,
    Bool.or_self, Bool.false_eq_true, if_false]
  generalize handle env (.new method) p = out
  obtain ⟨result, after⟩ := out
  cases result <;> rfl

/-- What the client makes of what the server has written after a call. -/
theorem receive_conclude (reads : ReadsUuid uuidText parseUuid)
    (answered : ∀ response, (handle env (.new method) p).1 = .ok response → response.Sized)
    (told : ∀ response, (handle env (.new method) p).1 = .ok response →
      parse (encodeResponse uuidText (fitResponse uuidText response config.maxFrameBytes)).bytes =
        some (encodeResponse uuidText (fitResponse uuidText response config.maxFrameBytes))) :
    let called := handle env (.new method) p
    let answer := receive parseUuid parse config link (through link.responseWrite
      (conclude uuidText config.maxFrameBytes called).1.bytes)
    if link.returns uuidText config.maxFrameBytes called.1 then
      answer = delivered uuidText config.maxFrameBytes called.1
    else answer = .error .io ∨ answer = .error (.failed .protocol) := by
  dsimp only
  generalize outcome : handle env (.new method) p = out at answered told
  obtain ⟨result, after⟩ := out
  cases result with
  | error stop =>
    simp only [conclude, Served.bytes, through_nil, Link.returns, delivered]
    split
    · rename_i ended
      exact receive_nothing ended
    · exact receive_silence
  | ok response =>
    have version : response.protocolVersion = protocolVersion := handleMethod_version outcome
    have size := @size_fitted uuidText config response
    simp only [conclude, sendResponse_bytes, delivered, Link.returns, Bool.and_eq_true]
    split
    · rename_i whole
      rw [through_of_passes whole.1]
      exact receive_frame reads (fitResponse_sized _ (answered response rfl))
        (fitResponse_version _ version) size (told response rfl) whole.2
    · rename_i lost
      refine receive_cut size (prefix_through _ _) ?_
      cases written : passes link.responseWrite (frame (encodeResponse uuidText
          (fitResponse uuidText response config.maxFrameBytes)).bytes) with
      | true =>
        rw [through_of_passes written]
        apply length_through_lt
        simpa [written] using lost
      | false =>
        exact Nat.lt_of_le_of_lt (prefix_through link.responseRead _).length_le
          (length_through_lt written)

theorem exchange_arrives (reads : ReadsUuid uuidText parseUuid) (sized : method.Sized)
    (fits : (encodeRequest uuidText (.new method)).size ≤ config.maxFrameBytes)
    (asked : parse (encodeRequest uuidText (.new method)).bytes =
      some (encodeRequest uuidText (.new method)))
    (arrives : link.arrives (frame (encodeRequest uuidText (.new method)).bytes) = true) :
    exchange uuidText parseUuid parse env config link (.new method) p =
      (receive parseUuid parse config link (through link.responseWrite
        (conclude uuidText config.maxFrameBytes (handle env (.new method) p)).1.bytes),
        (handle env (.new method) p).2) := by
  simp only [Link.arrives, Bool.and_eq_true] at arrives
  obtain ⟨⟨⟨configured, accepted⟩, written⟩, read⟩ := arrives
  have sent : requestFrame uuidText (.new method) config.maxFrameBytes = _ :=
    writeFrame_fits (bytes_encodeRequest _) fits
  have served := @serve_request _ _ _ config link S _ env p _ reads sized fits asked accepted read
  unfold exchange
  simp only [configured, sent, written, through_of_passes written, served, if_true]

theorem exchange_lost (fits : (encodeRequest uuidText (.new method)).size ≤ config.maxFrameBytes)
    (lost : link.arrives (frame (encodeRequest uuidText (.new method)).bytes) = false) :
    (exchange uuidText parseUuid parse env config link (.new method) p).2 = p ∧
      ((exchange uuidText parseUuid parse env config link (.new method) p).1 = .error .io ∨
        (exchange uuidText parseUuid parse env config link (.new method) p).1 =
          .error (.failed .protocol)) := by
  have sent : requestFrame uuidText (.new method) config.maxFrameBytes = _ :=
    writeFrame_fits (bytes_encodeRequest _) fits
  unfold exchange
  by_cases configured : link.configured = true
  · simp only [configured, sent, if_true]
    have cut : link.accepted = false ∨ (through link.requestRead (through link.requestWrite
        (frame (encodeRequest uuidText (.new method)).bytes))).length <
          (frame (encodeRequest uuidText (.new method)).bytes).length := by
      by_cases written : passes link.requestWrite
          (frame (encodeRequest uuidText (.new method)).bytes) = true
      · rw [through_of_passes written]
        simp only [Link.arrives, configured, written, Bool.true_and, Bool.and_true,
          Bool.and_eq_false_iff] at lost
        exact lost.imp_right length_through_lt
      · exact .inr (Nat.lt_of_le_of_lt (prefix_through link.requestRead _).length_le
          (length_through_lt (Bool.eq_false_iff.mpr written)))
    rw [serve_cut fits (prefix_through _ _) cut]
    split
    · exact ⟨rfl, receive_silence⟩
    · exact ⟨rfl, .inl rfl⟩
  · rw [if_neg configured]
    exact ⟨congrArg Prod.snd serve_nothing, .inl rfl⟩

theorem exchange_outcome (reads : ReadsUuid uuidText parseUuid) (config : ServerConfig)
    (link : Link) (env : Env) (p : Process S) {method : ApiMethod} (sized : method.Sized)
    (answered : ∀ response, (handle env (.new method) p).1 = .ok response → response.Sized)
    (asked : parse (encodeRequest uuidText (.new method)).bytes =
      some (encodeRequest uuidText (.new method)))
    (told : ∀ response, (handle env (.new method) p).1 = .ok response →
      parse (encodeResponse uuidText (fitResponse uuidText response config.maxFrameBytes)).bytes =
        some (encodeResponse uuidText (fitResponse uuidText response config.maxFrameBytes)))
    (fits : (encodeRequest uuidText (.new method)).size ≤ config.maxFrameBytes) :
    Exchanged uuidText config link (frame (encodeRequest uuidText (.new method)).bytes) p
      (handle env (.new method) p)
      (exchange uuidText parseUuid parse env config link (.new method) p) := by
  cases arrives : link.arrives (frame (encodeRequest uuidText (.new method)).bytes) with
  | true =>
    have outcome := @receive_conclude uuidText parseUuid parse config link S _ env p method reads
      answered told
    dsimp only at outcome
    rw [exchange_arrives reads sized fits asked arrives]
    refine ⟨by rw [if_pos arrives], fun _ returns => ?_, fun lost => ?_⟩
    · rwa [if_pos returns] at outcome
    · rw [arrives, Bool.true_and] at lost
      rwa [if_neg (by simp [lost])] at outcome
  | false =>
    obtain ⟨unchanged, told⟩ := @exchange_lost uuidText parseUuid parse config link S _ env p method
      fits arrives
    refine ⟨by simp [unchanged, arrives], fun arrived => ?_, fun _ => told⟩
    rw [arrives] at arrived
    cases arrived

theorem exchange_large (config : ServerConfig) (link : Link) (env : Env) (p : Process S)
    {method : ApiMethod}
    (large : config.maxFrameBytes < (encodeRequest uuidText (.new method)).size) :
    exchange uuidText parseUuid parse env config link (.new method) p =
      (.error (if link.configured then .failed .frameTooLarge else .io), p) := by
  have refused : requestFrame uuidText (.new method) config.maxFrameBytes = _ :=
    writeFrame_large large
  unfold exchange
  rw [refused]
  have closed : (serve uuidText parseUuid parse env config link [] p).2 = p :=
    congrArg Prod.snd serve_nothing
  cases configured : link.configured with
  | true => exact Prod.ext rfl closed
  | false => exact Prod.ext rfl closed

/-- A request that fits a frame is a call, whatever becomes of the connection. The call is made
once, when the frame arrives, and otherwise the process stays as it was; the client gets the answer
of the service, or the one that stands for an answer too large to send, when that comes back, and
otherwise an error, also for a call that was made. No other response is ever taken for the answer.
A larger request is refused before anything is sent. -/
theorem exchange_is_call (reads : ReadsUuid uuidText parseUuid) (config : ServerConfig)
    (link : Link) (env : Env) (p : Process S) {method : ApiMethod} (sized : method.Sized)
    (answered : ∀ response, (handle env (.new method) p).1 = .ok response → response.Sized)
    (asked : parse (encodeRequest uuidText (.new method)).bytes =
      some (encodeRequest uuidText (.new method)))
    (told : ∀ response, (handle env (.new method) p).1 = .ok response →
      parse (encodeResponse uuidText (fitResponse uuidText response config.maxFrameBytes)).bytes =
        some (encodeResponse uuidText (fitResponse uuidText response config.maxFrameBytes))) :
    ((encodeRequest uuidText (.new method)).size ≤ config.maxFrameBytes →
      Exchanged uuidText config link (frame (encodeRequest uuidText (.new method)).bytes) p
        (handle env (.new method) p)
        (exchange uuidText parseUuid parse env config link (.new method) p) ∧
      (link.Unbroken → exchange uuidText parseUuid parse env config link (.new method) p =
        (delivered uuidText config.maxFrameBytes (handle env (.new method) p).1,
          (handle env (.new method) p).2))) ∧
    (config.maxFrameBytes < (encodeRequest uuidText (.new method)).size →
      exchange uuidText parseUuid parse env config link (.new method) p =
        (.error (if link.configured then .failed .frameTooLarge else .io), p)) := by
  refine ⟨fun fits => ?_, exchange_large config link env p⟩
  have outcome := exchange_outcome reads config link env p sized answered asked told fits
  refine ⟨outcome, fun unbroken => ?_⟩
  have arrives := unbroken.arrives (frame (encodeRequest uuidText (.new method)).bytes)
  have made := outcome.once
  rw [if_pos arrives] at made
  exact Prod.ext (outcome.answered arrives (unbroken.returns _ _ _)) made

end calls

namespace Sample

/-- The value of hexadecimal digits, with hyphens skipped. -/
def digitsValue (value : Nat) : List Char → Nat
  | [] => value
  | c :: rest =>
    if c = '-' then digitsValue value rest
    else digitsValue (value * 16 + "0123456789abcdef".toList.idxOf c) rest

def unhyphenated (text : String) : Option Nat := some (digitsValue 0 text.toList)

theorem hexGroup_succ (uuid shift count : Nat) :
    hexGroup uuid shift (count + 1) =
      Nat.digitChar (uuid / 16 ^ (shift + count) % 16) :: hexGroup uuid shift count := by
  simp only [hexGroup, List.range_succ_eq_map, List.map_cons, List.map_map]
  congr 1
  apply List.map_congr_left
  intro i small
  have below := List.mem_range.mp small
  have index : count + 1 - 1 - (i + 1) = count - 1 - i := by omega
  simp only [Function.comp, Nat.succ_eq_add_one, index]

/-- Reading the digits of a group appends them to the value read before. -/
theorem digitsValue_hexGroup (uuid shift count value : Nat) (rest : List Char) :
    digitsValue value (hexGroup uuid shift count ++ rest) =
      digitsValue (value * 16 ^ count + uuid / 16 ^ shift % 16 ^ count) rest := by
  have digits : ∀ digit < 16, Nat.digitChar digit ≠ '-' ∧
      "0123456789abcdef".toList.idxOf (Nat.digitChar digit) = digit := by decide
  induction count generalizing value with
  | zero => simp [hexGroup, Nat.mod_one]
  | succ count ih =>
    obtain ⟨shown, read⟩ := digits (uuid / 16 ^ (shift + count) % 16) (Nat.mod_lt _ (by decide))
    have upper : uuid / 16 ^ shift % 16 ^ (count + 1) =
        uuid / 16 ^ shift % 16 ^ count + 16 ^ count * (uuid / 16 ^ (shift + count) % 16) := by
      rw [Nat.mod_pow_succ, Nat.div_div_eq_div_mul, Nat.pow_add]
    rw [hexGroup_succ, List.cons_append, digitsValue, if_neg shown, read, ih, upper]
    congr 1
    grind

theorem reads_hyphenated : ReadsUuid hyphenated unhyphenated := by
  intro uuid small
  have last : hexGroup uuid 0 12 = hexGroup uuid 0 12 ++ [] := (List.append_nil _).symm
  rw [unhyphenated, hyphenated, String.toList_ofList, last]
  simp only [List.append_assoc, List.cons_append, digitsValue_hexGroup, digitsValue,
    if_true, Option.some.injEq]
  omega

def startRequest : Json := encodeRequest hyphenated (.new (.start ⟨0⟩))

def startResponse : ApiResponse := ok (.task ⟨⟨0⟩, .running⟩)

def knowingBoth (payload : List UInt8) : Option Json :=
  if payload = startRequest.bytes then some startRequest
  else if payload = (encodeResponse hyphenated startResponse).bytes then
    some (encodeResponse hyphenated startResponse)
  else none

end Sample

/-- A connection that carries a byte at a time and does not break. -/
def Sample.link : Link := ⟨true, true, none, none, none, none, fun _ => 1, fun _ => 1⟩

/-- A connection that breaks before anything comes back. -/
def Sample.brokenLink : Link := { Sample.link with responseRead := some 0 }

theorem Sample.brokenLink_returns (uuidText : Nat → String) (maxFrameBytes : Nat)
    (response : ApiResponse) :
    Sample.brokenLink.returns uuidText maxFrameBytes (.ok response) = false := by
  simp only [Link.returns, Sample.brokenLink, Sample.link, passes, Bool.true_and, length_frame]
  exact decide_eq_false (by omega)

set_option maxRecDepth 4000 in
/-- A start: answered over the one link, and made but not answered over the other. -/
theorem exchange_is_call_start :
    (exchange hyphenated Sample.unhyphenated Sample.knowingBoth AiOs.Sample.env .default
      Sample.link (.new (.start ⟨0⟩)) (AiOs.Sample.process 20 [.submit AiOs.Sample.spec])).1 =
        .ok Sample.startResponse ∧
    (exchange hyphenated Sample.unhyphenated Sample.knowingBoth AiOs.Sample.env .default
      Sample.brokenLink (.new (.start ⟨0⟩)) (AiOs.Sample.process 20 [.submit AiOs.Sample.spec])).2 =
        (handle AiOs.Sample.env (.new (.start ⟨0⟩))
          (AiOs.Sample.process 20 [.submit AiOs.Sample.spec])).2 ∧
    ∀ response, (exchange hyphenated Sample.unhyphenated Sample.knowingBoth AiOs.Sample.env .default
      Sample.brokenLink (.new (.start ⟨0⟩))
        (AiOs.Sample.process 20 [.submit AiOs.Sample.spec])).1 ≠ .ok response := by
  have outcome : (handle AiOs.Sample.env (.new (.start ⟨0⟩))
      (AiOs.Sample.process 20 [.submit AiOs.Sample.spec])).1 = .ok Sample.startResponse := by
    decide +kernel
  have fits : fitResponse hyphenated Sample.startResponse ServerConfig.default.maxFrameBytes =
      Sample.startResponse := fitResponse_of_fits (by decide +kernel)
  have asked : Sample.knowingBoth (encodeRequest hyphenated (.new (.start ⟨0⟩))).bytes =
      some (encodeRequest hyphenated (.new (.start ⟨0⟩))) := if_pos rfl
  have other : (encodeResponse hyphenated Sample.startResponse).bytes ≠ Sample.startRequest.bytes := by
    decide +kernel
  have zero : (ApiMethod.start ⟨0⟩).Sized := Nat.two_pow_pos 128
  have small : (encodeRequest hyphenated (.new (.start ⟨0⟩))).size ≤
      ServerConfig.default.maxFrameBytes := by decide +kernel
  have called := fun link => exchange_is_call Sample.reads_hyphenated .default link
    AiOs.Sample.env (AiOs.Sample.process 20 [.submit AiOs.Sample.spec]) zero
    (by
      intro response same
      cases (Except.ok.inj (outcome.symm.trans same))
      exact ⟨by decide, zero⟩)
    asked
    (by
      intro response same
      cases (Except.ok.inj (outcome.symm.trans same))
      rw [fits]
      exact (if_neg other).trans (if_pos rfl))
  refine ⟨?_, ?_, fun response told => ?_⟩
  · rw [((called Sample.link).1 small).2 ⟨rfl, rfl, rfl, rfl, rfl, rfl⟩]
    simp only [outcome, delivered, fits]
  · exact ((called Sample.brokenLink).1 small).1.once.trans (if_pos rfl)
  · rcases ((called Sample.brokenLink).1 small).1.lost
      (by rw [outcome, Sample.brokenLink_returns, Bool.and_false]) with failed | failed
    all_goals
      rw [failed] at told
      cases told

end AiOs.LocalApi
