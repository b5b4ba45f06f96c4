import AiOs.Api.Exchange
import AiOs.Lib.Decimal

/-! The command line of the local API: one command is read from the arguments, sent as one request,
and its answer is printed. The task file, what becomes of the connection and the text of a UUID are
outside. -/
namespace AiOs.LocalApi

def usage : String :=
  "usage: aiosctl --socket PATH <health|submit|get|events|start|succeed|fail|cancel> [ARGUMENTS]"

inductive CliError where
  | usage
  | invalidTaskId
  | invalidNumber
  | taskFileTooLarge
  | invalidTaskFile
  | taskFileIo
  | transport (error : SendError)
  deriving DecidableEq

def CliError.message : CliError → String
  | .usage => LocalApi.usage
  | .invalidTaskId => "task ID is invalid"
  | .invalidNumber => "numeric argument is invalid"
  | .taskFileTooLarge => "task file exceeds the 65,536-byte limit"
  | .invalidTaskFile => "task file is not valid Task JSON"
  | .taskFileIo => "task file could not be read"
  | .transport _ => "local API request failed"

inductive Command where
  | health
  | submit (path : String)
  | get (taskId : TaskId)
  | events (taskId : TaskId) (afterSequence limit : Nat)
  | start (taskId : TaskId)
  | succeed (taskId : TaskId)
  | fail (taskId : TaskId)
  | cancel (taskId : TaskId)
  deriving DecidableEq

structure CtlOptions where
  socket : String
  command : Command
  deriving DecidableEq

section reading
variable (parseUuid : String → Option Nat)

def parseTaskId (value : String) : Except CliError TaskId :=
  orError ((parseUuid value).map Id.mk) .invalidTaskId

def parseNumber (limit : Nat) (value : String) : Except CliError Nat :=
  orError (parseUnsigned limit value) .invalidNumber

def Command.parse (name : String) (values : List String) : Except CliError Command :=
  match name, values with
  | "health", [] => .ok .health
  | "submit", [path] => .ok (.submit path)
  | "get", [taskId] => do
    let taskId ← parseTaskId parseUuid taskId
    pure (.get taskId)
  | "events", [taskId] => do
    let taskId ← parseTaskId parseUuid taskId
    pure (.events taskId 0 defaultEventPageSize)
  | "events", [taskId, afterSequence] => do
    let taskId ← parseTaskId parseUuid taskId
    let afterSequence ← parseNumber (2 ^ 64) afterSequence
    pure (.events taskId afterSequence defaultEventPageSize)
  | "events", [taskId, afterSequence, limit] => do
    let taskId ← parseTaskId parseUuid taskId
    let afterSequence ← parseNumber (2 ^ 64) afterSequence
    let limit ← parseNumber (2 ^ 16) limit
    pure (.events taskId afterSequence limit)
  | "start", [taskId] => do
    let taskId ← parseTaskId parseUuid taskId
    pure (.start taskId)
  | "succeed", [taskId] => do
    let taskId ← parseTaskId parseUuid taskId
    pure (.succeed taskId)
  | "fail", [taskId] => do
    let taskId ← parseTaskId parseUuid taskId
    pure (.fail taskId)
  | "cancel", [taskId] => do
    let taskId ← parseTaskId parseUuid taskId
    pure (.cancel taskId)
  | _, _ => .error .usage

def CtlOptions.parse : List String → Except CliError CtlOptions
  | flag :: rest =>
    if flag ≠ "--socket" then .error .usage
    else match rest with
      | socket :: command :: values =>
        if socket.isEmpty then .error .usage
        else do
          let command ← Command.parse parseUuid command values
          pure ⟨socket, command⟩
      | _ => .error .usage
  | [] => .error .usage

end reading

section sending
variable (uuidText : Nat → String) (parseUuid : String → Option Nat)
  (parse : List UInt8 → Option Json) (files : String → Option (List UInt8))

def loadTask (path : String) : Except CliError TaskSpec := do
  let contents ← orError (files path) .taskFileIo
  let bytes := contents.take (defaultMaxFrameBytes + 1)
  check (decide (bytes.length ≤ defaultMaxFrameBytes)) .taskFileTooLarge
  orError ((parse bytes).bind TaskSpec.deserialize) .invalidTaskFile

def Command.intoMethod : Command → Except CliError ApiMethod
  | .health => .ok .health
  | .submit path => do
    let task ← loadTask parse files path
    pure (.submit task)
  | .get taskId => .ok (.getTask taskId)
  | .events taskId afterSequence limit => .ok (.events taskId afterSequence limit)
  | .start taskId => .ok (.start taskId)
  | .succeed taskId => .ok (.succeed taskId)
  | .fail taskId => .ok (.fail taskId)
  | .cancel taskId => .ok (.cancel taskId)

def plan (arguments : List String) : Except CliError (String × ApiMethod) := do
  let options ← CtlOptions.parse parseUuid arguments
  let method ← options.command.intoMethod parse files
  pure (options.socket, method)

variable {S : Type} [EventStore S] (connect : String → Option Link) (env : Env)

/-- `run`, with the server on the other side of the sockets that can be connected to. -/
def run (arguments : List String) (p : Process S) : Except CliError ApiResponse × Process S :=
  match plan parseUuid parse files arguments with
  | .error error => (.error error, p)
  | .ok (socket, method) =>
    match connect socket with
    | none => (.error (.transport .io), p)
    | some link =>
      let out := exchange uuidText parseUuid parse env .default link (.new method) p
      (out.1.mapError .transport, out.2)

/-- What is printed, and the exit code. The response is printed as JSON. -/
structure Printed where
  stdout : Option ApiResponse
  stderr : Option String
  code : Nat
  deriving DecidableEq

def report : Except CliError ApiResponse → Printed
  | .ok response =>
    match response.outcome with
    | .ok _ => ⟨some response, none, 0⟩
    | .error _ => ⟨some response, none, 2⟩
  | .error (.transport error) => ⟨none, some (CliError.transport error).message, 1⟩
  | .error error => ⟨none, some error.message, 2⟩

def main (arguments : List String) (p : Process S) : Printed × Process S :=
  let out := run uuidText parseUuid parse files connect env arguments p
  (report out.1, out.2)

end sending

/-- The identifiers and numbers of a command are those of its Rust types. -/
def Command.Sized : Command → Prop
  | .health => True
  | .submit _ => True
  | .events taskId afterSequence limit =>
    Id.Sized taskId ∧ afterSequence < 2 ^ 64 ∧ limit < 2 ^ 16
  | .get taskId => Id.Sized taskId
  | .start taskId => Id.Sized taskId
  | .succeed taskId => Id.Sized taskId
  | .fail taskId => Id.Sized taskId
  | .cancel taskId => Id.Sized taskId

/-- A command as it is typed, with everything spelled out. -/
def Command.words (uuidText : Nat → String) : Command → List String
  | .health => ["health"]
  | .submit path => ["submit", path]
  | .get taskId => ["get", uuidText taskId.uuid]
  | .events taskId afterSequence limit =>
    ["events", uuidText taskId.uuid, toString afterSequence, toString limit]
  | .start taskId => ["start", uuidText taskId.uuid]
  | .succeed taskId => ["succeed", uuidText taskId.uuid]
  | .fail taskId => ["fail", uuidText taskId.uuid]
  | .cancel taskId => ["cancel", uuidText taskId.uuid]

section words
variable {uuidText : Nat → String} {parseUuid : String → Option Nat}
  {parse : List UInt8 → Option Json} {files : String → Option (List UInt8)}

/-- A UUID has 128 bits. -/
def BoundsUuid (parseUuid : String → Option Nat) : Prop :=
  ∀ text uuid, parseUuid text = some uuid → uuid < 2 ^ 128

theorem parseTaskId_text (reads : ReadsUuid uuidText parseUuid) {taskId : TaskId}
    (sized : Id.Sized taskId) : parseTaskId parseUuid (uuidText taskId.uuid) = .ok taskId := by
  rw [parseTaskId, reads taskId.uuid sized]
  rfl

theorem parseNumber_text {limit n : Nat} (small : n < limit) :
    parseNumber limit (toString n) = .ok n := by
  rw [parseNumber, parseUnsigned_toString small]
  rfl

theorem parseNumber_lt {limit n : Nat} {text : String} (read : parseNumber limit text = .ok n) :
    n < limit := by
  simp only [parseNumber, orError_ok] at read
  exact parseUnsigned_lt read

theorem parseTaskId_sized (bounds : BoundsUuid parseUuid) {text : String} {taskId : TaskId}
    (read : parseTaskId parseUuid text = .ok taskId) : Id.Sized taskId := by
  simp only [parseTaskId, orError_ok, Option.map_eq_some_iff] at read
  obtain ⟨uuid, found, rfl⟩ := read
  exact bounds text uuid found

theorem parse_command (reads : ReadsUuid uuidText parseUuid) {command : Command}
    (sized : command.Sized) : ∃ name values, command.words uuidText = name :: values ∧
      Command.parse parseUuid name values = .ok command := by
  have single : ∀ (taskId : TaskId) (typed : TaskId → Command), Id.Sized taskId →
      (do let taskId ← parseTaskId parseUuid (uuidText taskId.uuid); pure (typed taskId)) =
        Except.ok (typed taskId) := by
    intro taskId typed sized
    rw [parseTaskId_text reads sized]
    rfl
  cases command with
  | health => exact ⟨_, _, rfl, rfl⟩
  | submit path => exact ⟨_, _, rfl, rfl⟩
  | events taskId afterSequence limit =>
    obtain ⟨id, after, room⟩ := sized
    refine ⟨_, _, rfl, ?_⟩
    simp only [Command.parse, parseTaskId_text reads id, parseNumber_text after,
      parseNumber_text room, bind, Except.bind, pure, Except.pure]
  | get taskId => exact ⟨_, _, rfl, single taskId .get sized⟩
  | start taskId => exact ⟨_, _, rfl, single taskId .start sized⟩
  | succeed taskId => exact ⟨_, _, rfl, single taskId .succeed sized⟩
  | fail taskId => exact ⟨_, _, rfl, single taskId .fail sized⟩
  | cancel taskId => exact ⟨_, _, rfl, single taskId .cancel sized⟩

theorem parse_words (reads : ReadsUuid uuidText parseUuid) {socket : String} (named : socket ≠ "")
    {command : Command} (sized : command.Sized) :
    CtlOptions.parse parseUuid ("--socket" :: socket :: command.words uuidText) =
      .ok ⟨socket, command⟩ := by
  have present : socket.isEmpty = false := by simpa using named
  obtain ⟨name, values, typed, parsed⟩ := parse_command reads sized
  simp [typed, CtlOptions.parse, present, parsed, bind, Except.bind, pure, Except.pure]

theorem parse_sized (bounds : BoundsUuid parseUuid) {name : String} {values : List String}
    {command : Command} (parsed : Command.parse parseUuid name values = .ok command) :
    command.Sized := by
  unfold Command.parse at parsed
  split at parsed
  all_goals simp only [bind_ok, pure_ok, Except.ok.injEq, reduceCtorEq] at parsed
  · exact parsed ▸ trivial
  · exact parsed ▸ trivial
  · obtain ⟨taskId, read, rfl⟩ := parsed
    exact parseTaskId_sized bounds read
  · obtain ⟨taskId, read, rfl⟩ := parsed
    exact ⟨parseTaskId_sized bounds read, by decide, by decide⟩
  · obtain ⟨taskId, read, afterSequence, after, rfl⟩ := parsed
    exact ⟨parseTaskId_sized bounds read, parseNumber_lt after, by decide⟩
  · obtain ⟨taskId, read, afterSequence, after, limit, room, rfl⟩ := parsed
    exact ⟨parseTaskId_sized bounds read, parseNumber_lt after, parseNumber_lt room⟩
  all_goals
    obtain ⟨taskId, read, rfl⟩ := parsed
    exact parseTaskId_sized bounds read

theorem plan_sized (bounds : BoundsUuid parseUuid) {arguments : List String} {socket : String}
    {method : ApiMethod} (planned : plan parseUuid parse files arguments = .ok (socket, method)) :
    method.Sized := by
  simp only [plan, bind_ok, pure_ok, Prod.mk.injEq] at planned
  obtain ⟨options, parsed, asked, into, rfl, rfl⟩ := planned
  have sized : options.command.Sized := by
    unfold CtlOptions.parse at parsed
    split at parsed
    · split at parsed
      · cases parsed
      · split at parsed
        · split at parsed
          · cases parsed
          · simp only [bind_ok, pure_ok] at parsed
            obtain ⟨command, parsed, rfl⟩ := parsed
            exact parse_sized bounds parsed
        · cases parsed
    · cases parsed
  cases commanded : options.command with
  | submit path =>
    rw [commanded] at into
    simp only [Command.intoMethod, bind_ok, pure_ok] at into
    obtain ⟨task, _, rfl⟩ := into
    trivial
  | _ =>
    rw [commanded] at into sized
    cases into
    exact sized

end words

section calls
variable {uuidText : Nat → String} {parseUuid : String → Option Nat}
  {parse : List UInt8 → Option Json} {files : String → Option (List UInt8)}
  {S : Type} [EventStore S] {env : Env} {p : Process S}

theorem CtlOptions.parse_not_transport {arguments : List String} {error : CliError}
    (failed : CtlOptions.parse parseUuid arguments = .error error) (inner : SendError) :
    error ≠ .transport inner := by
  have id : ∀ text, FailsIn (parseTaskId parseUuid text) (· ≠ .transport inner) :=
    fun text => failsIn_orError _ nofun
  have number : ∀ limit text, FailsIn (parseNumber limit text) (· ≠ .transport inner) :=
    fun limit text => failsIn_orError _ nofun
  have command : ∀ name values,
      FailsIn (Command.parse parseUuid name values) (· ≠ .transport inner) := by
    intro name values
    unfold Command.parse
    split
    · exact failsIn_ok _
    · exact failsIn_ok _
    · exact (id _).bind fun _ _ => failsIn_ok _
    · exact (id _).bind fun _ _ => failsIn_ok _
    · exact (id _).bind fun _ _ => (number _ _).bind fun _ _ => failsIn_ok _
    · exact (id _).bind fun _ _ => (number _ _).bind fun _ _ => (number _ _).bind fun _ _ =>
        failsIn_ok _
    · exact (id _).bind fun _ _ => failsIn_ok _
    · exact (id _).bind fun _ _ => failsIn_ok _
    · exact (id _).bind fun _ _ => failsIn_ok _
    · exact (id _).bind fun _ _ => failsIn_ok _
    · exact failsIn_error nofun
  have whole : FailsIn (CtlOptions.parse parseUuid arguments) (· ≠ .transport inner) := by
    unfold CtlOptions.parse
    split
    · split
      · exact failsIn_error nofun
      · split
        · split
          · exact failsIn_error nofun
          · exact (command _ _).bind fun _ _ => failsIn_ok _
        · exact failsIn_error nofun
    · exact failsIn_error nofun
  exact whole error failed

theorem plan_not_transport {arguments : List String} {error : CliError}
    (failed : plan parseUuid parse files arguments = .error error) (inner : SendError) :
    error ≠ .transport inner := by
  have load : ∀ path, FailsIn (loadTask parse files path) (· ≠ .transport inner) := fun path =>
    (failsIn_orError _ nofun).bind fun _ _ => (failsIn_check _ nofun).bind fun _ _ =>
      failsIn_orError _ nofun
  have into : ∀ command : Command,
      FailsIn (command.intoMethod parse files) (· ≠ .transport inner) := by
    intro command
    cases command with
    | submit path => exact (load path).bind fun _ _ => failsIn_ok _
    | _ => exact failsIn_ok _
  have options : FailsIn (CtlOptions.parse parseUuid arguments) (· ≠ .transport inner) :=
    fun e failed => CtlOptions.parse_not_transport failed inner
  exact options.bind (fun options _ => (into options.command).bind fun _ _ => failsIn_ok _) error failed

def shown (uuidText : Nat → String) (called : Except Stop ApiResponse) : Printed :=
  report ((delivered uuidText defaultMaxFrameBytes called).mapError .transport)

/-- What the user sees of a request that fails. -/
def unsent : Printed := ⟨none, some "local API request failed", 1⟩

theorem shown_success (called : Except Stop ApiResponse) :
    (shown uuidText called).code = 0 ↔ ∃ response result, called = .ok response ∧
      (fitResponse uuidText response defaultMaxFrameBytes).outcome = .ok result := by
  cases called with
  | error stop => simp [shown, delivered, Except.mapError, report]
  | ok response =>
    cases outcome : (fitResponse uuidText response defaultMaxFrameBytes).outcome with
    | ok result => simp [shown, delivered, Except.mapError, report, outcome]
    | error error => simp [shown, delivered, Except.mapError, report, outcome]

theorem main_unplanned {connect : String → Option Link} {arguments : List String} {error : CliError}
    (failed : plan parseUuid parse files arguments = .error error) :
    main uuidText parseUuid parse files connect env arguments p =
      (⟨none, some error.message, 2⟩, p) := by
  have kind := plan_not_transport failed
  simp only [main, run, failed]
  cases error with
  | transport inner => exact absurd rfl (kind inner)
  | _ => rfl

theorem main_unconnected {connect : String → Option Link} {arguments : List String}
    {socket : String} {method : ApiMethod}
    (planned : plan parseUuid parse files arguments = .ok (socket, method))
    (silent : connect socket = none) :
    main uuidText parseUuid parse files connect env arguments p = (unsent, p) := by
  simp only [main, run, planned, silent]
  rfl

theorem main_connected {connect : String → Option Link} {arguments : List String}
    {socket : String} {method : ApiMethod} {link : Link}
    (planned : plan parseUuid parse files arguments = .ok (socket, method))
    (connected : connect socket = some link) :
    main uuidText parseUuid parse files connect env arguments p =
      (report ((exchange uuidText parseUuid parse env .default link (.new method) p).1.mapError
        .transport), (exchange uuidText parseUuid parse env .default link (.new method) p).2) := by
  simp only [main, run, planned, connected]

/-- What a command comes to that is sent over a connection: the call once, when its frame arrives,
and its answer on the screen, when that comes back as well. -/
structure Commanded (uuidText : Nat → String) (link : Link) (request : Json) (p : Process S)
    (called : Except Stop ApiResponse × Process S) (out : Printed × Process S) : Prop where
  once : out.2 = if request.size ≤ defaultMaxFrameBytes ∧ link.arrives (frame request.bytes) = true
    then called.2 else p
  printed : out.1 = if request.size ≤ defaultMaxFrameBytes ∧
      link.arrives (frame request.bytes) = true ∧
      link.returns uuidText defaultMaxFrameBytes called.1 = true
    then shown uuidText called.1 else unsent

/-- A command is a call, whatever becomes of the connection. What is typed in full is read back;
what cannot be read or loaded is reported and never sent; a method is called once, when its request
fits a frame and the frame arrives; its answer is printed when that comes back, with the exit code
0 exactly for an answer that is no error; and otherwise nothing is printed and the exit code is 1,
also for a call that was made. -/
theorem aiosctl_is_call (reads : ReadsUuid uuidText parseUuid) (bounds : BoundsUuid parseUuid)
    (env : Env) (p : Process S) (connect : String → Option Link)
    (files : String → Option (List UInt8)) :
    (∀ socket command, socket ≠ "" → Command.Sized command →
      CtlOptions.parse parseUuid ("--socket" :: socket :: command.words uuidText) =
        .ok ⟨socket, command⟩) ∧
    (∀ arguments error, plan parseUuid parse files arguments = .error error →
      main uuidText parseUuid parse files connect env arguments p =
        (⟨none, some error.message, 2⟩, p)) ∧
    (∀ arguments socket method, plan parseUuid parse files arguments = .ok (socket, method) →
      connect socket = none →
      main uuidText parseUuid parse files connect env arguments p = (unsent, p)) ∧
    (∀ arguments socket method link,
      plan parseUuid parse files arguments = .ok (socket, method) → connect socket = some link →
      (∀ response, (handle env (.new method) p).1 = .ok response → response.Sized) →
      parse (encodeRequest uuidText (.new method)).bytes =
        some (encodeRequest uuidText (.new method)) →
      (∀ response, (handle env (.new method) p).1 = .ok response →
        parse (encodeResponse uuidText (fitResponse uuidText response defaultMaxFrameBytes)).bytes =
          some (encodeResponse uuidText (fitResponse uuidText response defaultMaxFrameBytes))) →
      Commanded uuidText link (encodeRequest uuidText (.new method)) p (handle env (.new method) p)
        (main uuidText parseUuid parse files connect env arguments p)) ∧
    (∀ called, (shown uuidText called).code = 0 ↔ ∃ response result, called = .ok response ∧
      (fitResponse uuidText response defaultMaxFrameBytes).outcome = .ok result) := by
  refine ⟨?_, ?_, ?_, ?_, shown_success⟩
  · exact fun socket command named sized => parse_words reads named sized
  · exact fun arguments error failed => main_unplanned failed
  · exact fun arguments socket method planned silent => main_unconnected planned silent
  · intro arguments socket method link planned connected answered asked told
    rw [main_connected planned connected]
    by_cases fits : (encodeRequest uuidText (.new method)).size ≤ defaultMaxFrameBytes
    · have outcome := exchange_outcome reads .default link env p (plan_sized bounds planned)
        answered asked told fits
      refine ⟨?_, ?_⟩
      · simp only [outcome.once, fits, true_and]
      · simp only [fits, true_and]
        split
        · rename_i whole
          rw [outcome.answered whole.1 whole.2]
          rfl
        · rename_i cut
          rw [← Bool.and_eq_true, Bool.not_eq_true] at cut
          rcases outcome.lost cut with failed | failed <;> rw [failed] <;> rfl
    · rw [exchange_large .default link env p (Nat.lt_of_not_le fits)]
      refine ⟨?_, ?_⟩
      · simp only [fits, false_and, if_false]
      · simp only [fits, false_and, if_false]
        rfl

end calls

namespace Sample

def strictUuid (text : String) : Option Nat := (unhyphenated text).filter (· < 2 ^ 128)

theorem reads_strict : ReadsUuid hyphenated strictUuid := by
  intro uuid small
  rw [strictUuid, reads_hyphenated uuid small]
  simpa using small

theorem bounds_strict : BoundsUuid strictUuid := by
  intro text uuid read
  simpa using (Option.filter_eq_some_iff.mp read).2

def typed : List String := ["--socket", "/run/aios.sock", "start", hyphenated 0]

end Sample

theorem aiosctl_is_call_start :
    (main hyphenated Sample.strictUuid Sample.knowingBoth (fun _ => none)
      (fun _ => some Sample.link) AiOs.Sample.env Sample.typed
      (AiOs.Sample.process 20 [.submit AiOs.Sample.spec])).1 =
        ⟨some Sample.startResponse, none, 0⟩ ∧
    (main hyphenated Sample.strictUuid Sample.knowingBoth (fun _ => none)
      (fun _ => some Sample.brokenLink) AiOs.Sample.env Sample.typed
      (AiOs.Sample.process 20 [.submit AiOs.Sample.spec])) =
        (⟨none, some "local API request failed", 1⟩,
          (handle AiOs.Sample.env (.new (.start ⟨0⟩))
            (AiOs.Sample.process 20 [.submit AiOs.Sample.spec])).2) := by
  have outcome : (handle AiOs.Sample.env (.new (.start ⟨0⟩))
      (AiOs.Sample.process 20 [.submit AiOs.Sample.spec])).1 = .ok Sample.startResponse := by
    decide +kernel
  have fits : fitResponse hyphenated Sample.startResponse defaultMaxFrameBytes =
      Sample.startResponse := fitResponse_of_fits (by decide +kernel)
  have small : (encodeRequest hyphenated (.new (.start ⟨0⟩))).size ≤ defaultMaxFrameBytes := by
    decide +kernel
  have other : (encodeResponse hyphenated Sample.startResponse).bytes ≠ Sample.startRequest.bytes := by
    decide +kernel
  have zero : (ApiMethod.start ⟨0⟩).Sized := Nat.two_pow_pos 128
  have whole := fun link => @aiosctl_is_call _ _ Sample.knowingBoth _ _ Sample.reads_strict
    Sample.bounds_strict AiOs.Sample.env (AiOs.Sample.process 20 [.submit AiOs.Sample.spec])
    (fun _ => some link) (fun _ => none)
  have planned : plan Sample.strictUuid Sample.knowingBoth (fun _ => none) Sample.typed =
      .ok ("/run/aios.sock", .start ⟨0⟩) := by
    have options : CtlOptions.parse Sample.strictUuid Sample.typed = _ :=
      (whole Sample.link).1 "/run/aios.sock" (.start ⟨0⟩) (by decide) zero
    simp [plan, options, Command.intoMethod, bind, Except.bind, pure, Except.pure]
  have called := fun link => (whole link).2.2.2.1 _ _ _ link planned rfl
    (by
      intro response same
      cases (Except.ok.inj (outcome.symm.trans same))
      exact ⟨by decide, zero⟩)
    (if_pos rfl)
    (by
      intro response same
      cases (Except.ok.inj (outcome.symm.trans same))
      rw [fits]
      exact (if_neg other).trans (if_pos rfl))
  refine ⟨?_, Prod.ext ?_ ?_⟩
  · rw [(called Sample.link).printed, if_pos ⟨small, rfl, by rw [outcome]; rfl⟩]
    simp only [shown, outcome, delivered, fits]
    rfl
  · refine (called Sample.brokenLink).printed.trans (if_neg fun returned => ?_)
    rw [outcome, Sample.brokenLink_returns] at returned
    cases returned.2.2
  · exact (called Sample.brokenLink).once.trans (if_pos ⟨small, rfl⟩)

end AiOs.LocalApi
