import AiOs.Adapter.Tool
import AiOs.Process.Outside

/-! A run of a handler behind its spawn: the child is watched until it has exited, has used up
a limit of its cgroup or has run out of time, and then it is terminated and waited for. -/
namespace AiOs.ProcessAdapter

open Fallible OsString

def waitPollInterval : Duration := Duration.fromMillis 5

variable {δ : Type}

def validateTaskCgroupIdentity (host : Host δ) (directory : OsString)
    (expectedIdentity : FileIdentity) : Except ProcessAdapterError Unit := do
  let metadata ← orError (host.symlinkMetadata directory) .invalidResourceControl
  check (!metadata.isSymlink && metadata.isDir) .invalidResourceControl
  let identity ← (readDirectoryIdentity host directory).mapError fun _ => .invalidResourceControl
  check (identity = expectedIdentity) .invalidResourceControl
  check (cgroupFiles.all fun name =>
    (host.metadata (join directory (osStr name))).any FileMetadata.isFile) .invalidResourceControl

theorem validateIdentity_eq (cgroup : TaskCgroupState) (host : Host δ) :
    cgroup.validateIdentity host =
      validateTaskCgroupIdentity host cgroup.directory cgroup.directoryIdentity := rfl

def killFile (directory : OsString) : OsString := join directory (osStr "cgroup.kill")

def terminateTaskCgroup (directory : OsString) (expectedIdentity : FileIdentity) :
    MachineM δ Unit := do
  let valid ← look fun host => validateTaskCgroupIdentity host directory expectedIdentity
  propagate valid
  let written ← writeFile (killFile directory) "1"
  ensure written .invalidResourceControl

def TaskCgroupState.terminate (cgroup : TaskCgroupState) : MachineM δ Unit :=
  terminateTaskCgroup cgroup.directory cgroup.directoryIdentity

theorem validateTaskCgroupIdentity_failsIn (host : Host δ) (directory : OsString)
    (expectedIdentity : FileIdentity) :
    FailsIn (validateTaskCgroupIdentity host directory expectedIdentity)
      (· = .invalidResourceControl) := by
  unfold validateTaskCgroupIdentity
  exact .bind (failsIn_orError _ rfl) fun _ _ => .bind (failsIn_check _ rfl) fun _ _ =>
    .bind (failsIn_mapError fun _ _ => rfl) fun _ _ => .bind (failsIn_check _ rfl) fun _ _ =>
      failsIn_check _ rfl

/-- `limit_reached` while a run goes on. -/
def measure (cgroup : TaskCgroupState) : MachineM δ (Except ProcessAdapterError Bool) :=
  perform (fun outside trace => cgroup.limitReached (outside.host trace)) .measured

/-- The child is killed and waited for, whatever comes of the cgroup. -/
def terminateCgroupChild (cgroup : TaskCgroupState) : MachineM δ Unit := do
  let termination ← attempt cgroup.terminate
  let _ ← kill
  let waited ← wait
  ensure waited .waitFailed
  propagate termination

def abandon : Option TaskCgroupState → MachineM δ Unit
  | some cgroup => do
    let _ ← attempt (terminateCgroupChild cgroup)
  | none => do
    let _ ← kill
    let _ ← wait

def requireWithinLimits : Option TaskCgroupState → MachineM δ Unit
  | none => pure ()
  | some cgroup => do
    let answer ← measure cgroup
    let reached ← propagate answer
    ensure (!reached) .resourceLimitExceeded

def expelOverLimit : Option TaskCgroupState → MachineM δ Unit
  | none => pure ()
  | some cgroup => do
    match ← measure cgroup with
    | .ok true =>
      terminateCgroupChild cgroup
      throw .resourceLimitExceeded
    | .ok false => pure ()
    | .error error =>
      terminateCgroupChild cgroup
      throw error

/-- The deadline has passed. A child that cannot be killed may just have exited. -/
def timeOut : Option TaskCgroupState → MachineM δ Unit
  | some cgroup => terminateCgroupChild cgroup
  | none => do
    if ← kill then
      let waited ← wait
      ensure waited .waitFailed
    else
      let answer ← tryWait
      let status ← okOr answer .waitFailed
      ensure status.isSome .waitFailed

/-- One round of the loop in `run_checked_with_timeout`. -/
def watchRound (deadline : Instant) (cgroup : Option TaskCgroupState) :
    MachineM δ (Option ToolOutput) := do
  match ← tryWait with
  | none =>
    abandon cgroup
    throw .waitFailed
  | some (some success) =>
    requireWithinLimits cgroup
    if success then
      let output ← propagate ((ToolOutput.fromBytes []).mapError fun _ => .outputFailed)
      pure (some output)
    else throw .exitFailed
  | some none =>
    let now ← readClock
    expelOverLimit cgroup
    if deadline ≤ now then
      timeOut cgroup
      throw .timedOut
    else
      sleep (min waitPollInterval (deadline - now))
      pure none

namespace ProcessToolHandler
variable (handler : ProcessToolHandler δ)

/-- The checks and the command of a run, on the system as it is now. -/
def prepareNow (dynamicArguments : List String) (timeout : Duration) (authorized : Bool) :
    MachineM δ (Launch δ) := do
  let answer ← perform (fun outside trace => handler.prepare (outside.site trace)
    dynamicArguments timeout authorized) fun _ => .looked
  propagate answer

/-- `sender.send(...)`, for a child that gets descriptors. -/
def transfer (launch : Launch δ) : MachineM δ Unit :=
  if launch.descriptors.isSome then do
    if ← send then pure ()
    else
      abandon handler.taskCgroup
      throw .descriptorTransferFailed
  else pure ()

/-- `run_checked_with_timeout`, with so many rounds of its loop. -/
def runCheckedWithTimeout (fuel : Nat) (dynamicArguments : List String) (timeout : Duration)
    (filesystemCapabilitiesAuthorized : Bool) : MachineM δ (Option ToolOutput) := do
  let launch ← handler.prepareNow dynamicArguments timeout filesystemCapabilitiesAuthorized
  let now ← readClock
  let started ← spawn launch.command
  ensure started .spawnFailed
  handler.transfer launch
  rounds (watchRound (now + timeout) handler.taskCgroup) fuel

def runChecked (fuel : Nat) (dynamicArguments : List String) : MachineM δ (Option ToolOutput) :=
  handler.runCheckedWithTimeout fuel dynamicArguments handler.timeout false

/-- `execute_for_task`, to its end. -/
def runForTask (fuel : Nat) (context : TaskExecutionContext) (arguments : List String) :
    MachineM δ (Except ToolFailure (Option ToolOutput)) := do
  let now ← readClock
  let remaining := context.remainingWallTime now
  if remaining = 0 then pure (.error .budgetExceeded)
  else match handler.taskTimeout context remaining with
    | .error failure => pure (.error failure)
    | .ok (timeout, timeoutIsTaskBudget) => do
      let answer ← attempt (handler.runCheckedWithTimeout fuel arguments timeout true)
      pure (answer.mapError fun error =>
        if error = .resourceLimitExceeded ∨ error = .timedOut ∧ timeoutIsTaskBudget then
          .budgetExceeded
        else .failed)

end ProcessToolHandler

section child

def Reaped (events : List SystemEvent) : Prop :=
  .waited true ∈ events ∨ ∃ success, .polled (some (some success)) ∈ events

def KillAsked (events : List SystemEvent) : Prop := ∃ answer, .killed answer ∈ events

def Wakeful (events : List SystemEvent) : Prop := ∀ duration, .slept duration ∉ events

/-- How the end of a child comes out: it was asked for, and the child is gone unless it could
not be waited for. -/
structure Terminated (answer : Except ProcessAdapterError Unit) (events : List SystemEvent) :
    Prop where
  asked : KillAsked events
  reaped : Reaped events ∨ answer = .error .waitFailed
  wakeful : Wakeful events
  kind : ∀ e, answer = .error e → e = .waitFailed ∨ e = .invalidResourceControl

theorem Reaped.append_left {events : List SystemEvent} (reaped : Reaped events)
    (earlier : List SystemEvent) : Reaped (earlier ++ events) := by
  rcases reaped with waited | ⟨success, polled⟩
  · exact .inl (List.mem_append_right _ waited)
  · exact .inr ⟨success, List.mem_append_right _ polled⟩

theorem KillAsked.append_left {events : List SystemEvent} (asked : KillAsked events)
    (earlier : List SystemEvent) : KillAsked (earlier ++ events) := by
  obtain ⟨answer, member⟩ := asked
  exact ⟨answer, List.mem_append_right _ member⟩

variable {m : Machine δ}

theorem limitReached_failsIn (host : Host δ) (cgroup : TaskCgroupState) :
    FailsIn (cgroup.limitReached host) (· = .invalidResourceControl) := by
  have keyed : ∀ path key,
      FailsIn (readKeyedU64 host path key) (· = .invalidResourceControl) := by
    intro path key
    unfold readKeyedU64
    exact .bind (failsIn_orError _ rfl) fun _ _ => .bind (failsIn_orError _ rfl) fun _ _ =>
      failsIn_orError _ rfl
  have valid : FailsIn (cgroup.validate host) (· = .invalidResourceControl) := by
    unfold TaskCgroupState.validate
    rw [validateIdentity_eq]
    exact .bind (validateTaskCgroupIdentity_failsIn host _ _) fun _ _ =>
      .bind (failsIn_orError _ rfl) fun _ _ => .bind (failsIn_orError _ rfl) fun _ _ =>
        .bind (failsIn_orError _ rfl) fun _ _ => failsIn_check _ rfl
  unfold TaskCgroupState.limitReached
  exact .bind valid fun _ _ => .bind (keyed _ _) fun _ _ => .bind (keyed _ _) fun _ _ =>
    .bind (keyed _ _) fun _ _ => failsIn_ok _

theorem terminate_leaves (cgroup : TaskCgroupState) :
    Leaves m (fun answer events => Wakeful events ∧ FailsIn answer (· = .invalidResourceControl))
      (exec (cgroup.terminate : MachineM δ Unit) m) := by
  unfold TaskCgroupState.terminate terminateTaskCgroup
  apply perform_rule (P := Leaves m _)
  intro valid seen
  apply leaves_after
  have kind : FailsIn valid (· = .invalidResourceControl) :=
    seen ▸ validateTaskCgroupIdentity_failsIn _ _ _
  apply propagate_rule (P := Leaves _ _)
  · intro e failed
    refine leaves_stop ⟨by simp [Wakeful], fun e same => ?_⟩
    cases same
    exact kind _ failed
  · intro _ _
    apply leaves_perform
    intro written
    cases written with
    | false => exact leaves_stop ⟨by simp [Wakeful], fun _ same => by cases same; rfl⟩
    | true => exact leaves_stop ⟨by simp [Wakeful], nofun⟩

theorem terminateCgroupChild_leaves (cgroup : TaskCgroupState) :
    Leaves m Terminated (exec (terminateCgroupChild cgroup : MachineM δ Unit) m) := by
  unfold terminateCgroupChild
  apply leaves_attempt (terminate_leaves cgroup)
  rintro termination events ⟨wakeful, kind⟩
  apply leaves_perform
  intro killed
  apply leaves_perform
  intro waited
  have asked : KillAsked (events ++ [.killed killed, .waited waited]) :=
    ⟨killed, by simp⟩
  have still : Wakeful (events ++ [.killed killed, .waited waited]) := by
    intro duration member
    simp only [List.mem_append, List.mem_cons, reduceCtorEq, List.not_mem_nil, or_false] at member
    exact wakeful duration member
  cases waited with
  | false =>
    exact leaves_stop ⟨asked, .inr rfl, still, fun _ same => by cases same; exact .inl rfl⟩
  | true =>
    have gone : Reaped (events ++ [.killed killed, .waited true]) := .inl (by simp)
    cases termination with
    | error e =>
      exact leaves_stop ⟨asked, .inl gone, still, fun _ same => by
        cases same
        exact .inr (kind _ rfl)⟩
    | ok value =>
      refine leaves_stop ⟨asked, .inl gone, still, ?_⟩
      rintro _ ⟨⟩

theorem abandon_leaves (cgroup : Option TaskCgroupState) :
    Leaves m (fun answer events => answer = .ok () ∧ KillAsked events ∧ Wakeful events)
      (exec (abandon cgroup : MachineM δ Unit) m) := by
  cases cgroup with
  | none =>
    apply leaves_perform
    intro killed
    apply leaves_perform
    intro waited
    exact leaves_stop ⟨rfl, ⟨killed, by simp⟩, by simp [Wakeful]⟩
  | some cgroup =>
    apply leaves_attempt (terminateCgroupChild_leaves cgroup)
    intro answer events terminated
    refine leaves_stop ⟨rfl, ?_, ?_⟩
    · rw [List.append_nil]
      exact terminated.asked
    · rw [List.append_nil]
      exact terminated.wakeful

theorem timeOut_leaves (cgroup : Option TaskCgroupState) :
    Leaves m Terminated (exec (timeOut cgroup : MachineM δ Unit) m) := by
  cases cgroup with
  | some cgroup => exact terminateCgroupChild_leaves cgroup
  | none =>
    apply leaves_perform
    intro killed
    have asked : ∀ last, KillAsked [.killed killed, last] := fun last => ⟨killed, by simp⟩
    cases killed with
    | true =>
      apply leaves_perform
      intro waited
      cases waited with
      | false =>
        exact leaves_stop ⟨asked _, .inr rfl, by simp [Wakeful],
          fun _ same => by cases same; exact .inl rfl⟩
      | true => exact leaves_stop ⟨asked _, .inl (.inl (by simp)), by simp [Wakeful], nofun⟩
    | false =>
      apply leaves_perform
      intro status
      rcases status with _ | _ | success
      · exact leaves_stop ⟨asked _, .inr rfl, by simp [Wakeful],
          fun _ same => by cases same; exact .inl rfl⟩
      · exact leaves_stop ⟨asked _, .inr rfl, by simp [Wakeful],
          fun _ same => by cases same; exact .inl rfl⟩
      · exact leaves_stop ⟨asked _, .inl (.inr ⟨success, by simp⟩), by simp [Wakeful], nofun⟩

end child

section rounds

/-- What a look at the limits leaves that found none of them reached. -/
def calm : Option TaskCgroupState → List SystemEvent
  | none => []
  | some _ => [.measured (.ok false)]

/-- A round that the loop goes on from. -/
def idle (cgroup : Option TaskCgroupState) (deadline now : Instant) : List SystemEvent :=
  .polled (some none) :: .read now :: calm cgroup
    ++ [.slept (min waitPollInterval (deadline - now))]

def Verdict (cgroup : Option TaskCgroupState) (deadline : Instant) (events : List SystemEvent) :
    Except ProcessAdapterError (Option ToolOutput) → Prop
  | .ok none => events = []
  | .ok (some output) => output.bytes = [] ∧ events = .polled (some (some true)) :: calm cgroup
  | .error .exitFailed => events = .polled (some (some false)) :: calm cgroup
  | .error .timedOut => ∃ now ending, deadline ≤ now ∧ KillAsked ending ∧ Reaped ending ∧
      events = .polled (some none) :: .read now :: calm cgroup ++ ending
  | .error .resourceLimitExceeded =>
      cgroup.isSome = true ∧ Reaped events ∧ .measured (.ok true) ∈ events
  | .error .invalidResourceControl => Reaped events
  | .error .waitFailed => KillAsked events
  | .error .descriptorTransferFailed => KillAsked events
  | .error _ => False

variable {m : Machine δ} {cgroup : Option TaskCgroupState} {deadline : Instant}

theorem Wakeful.append {first second : List SystemEvent} (here : Wakeful first)
    (there : Wakeful second) : Wakeful (first ++ second) := by
  intro duration member
  rcases List.mem_append.mp member with inside | inside
  · exact here duration inside
  · exact there duration inside

/-- A check of the limits goes on quietly, or it has the error of the run. -/
structure Checked (cgroup : Option TaskCgroupState) (answer : Except ProcessAdapterError Unit)
    (events : List SystemEvent) : Prop where
  wakeful : Wakeful events
  quiet : answer = .ok () → events = calm cgroup
  reached : answer = .error .resourceLimitExceeded →
    cgroup.isSome = true ∧ .measured (.ok true) ∈ events
  kind : ∀ e, answer = .error e →
    e = .resourceLimitExceeded ∨ e = .invalidResourceControl ∨ e = .waitFailed

theorem requireWithinLimits_leaves (cgroup : Option TaskCgroupState) :
    Leaves m (fun answer events => Checked cgroup answer events ∧ answer ≠ .error .waitFailed)
      (exec (requireWithinLimits cgroup : MachineM δ Unit) m) := by
  cases cgroup with
  | none => exact leaves_stop ⟨⟨by simp [Wakeful], fun _ => rfl, nofun, nofun⟩, nofun⟩
  | some cgroup =>
    apply leaves_seen
    intro answer seen
    have kind : FailsIn answer (· = .invalidResourceControl) := seen ▸ limitReached_failsIn _ cgroup
    rcases answer with e | reached
    · obtain rfl := kind e rfl
      exact leaves_stop ⟨⟨by simp [Wakeful], nofun, nofun, fun _ same => by cases same; simp⟩, nofun⟩
    · cases reached with
      | true =>
        exact leaves_stop ⟨⟨by simp [Wakeful], nofun, by simp, fun _ same => by
          cases same
          simp⟩, nofun⟩
      | false => exact leaves_stop ⟨⟨by simp [Wakeful], fun _ => rfl, nofun, nofun⟩, nofun⟩

/-- An expelled child is gone before the error is returned. -/
structure Expelled (error : ProcessAdapterError) (answer : Except ProcessAdapterError Unit)
    (events : List SystemEvent) : Prop where
  wakeful : Wakeful events
  asked : KillAsked events
  failed : answer = .error error ∨ answer = .error .waitFailed ∨
    answer = .error .invalidResourceControl
  reaped : Reaped events ∨ answer = .error .waitFailed

theorem expel_leaves (cgroup : TaskCgroupState) (error : ProcessAdapterError) :
    Leaves m (Expelled error)
      (exec (terminateCgroupChild cgroup >>= fun _ => throw error : MachineM δ Unit) m) := by
  apply leaves_bind (terminateCgroupChild_leaves cgroup)
  · intro e events terminated
    refine ⟨terminated.wakeful, terminated.asked, .inr ?_, ?_⟩
    · rcases terminated.kind e rfl with rfl | rfl
      · exact .inl rfl
      · exact .inr rfl
    · exact terminated.reaped.imp id fun waited => by cases waited; rfl
  · intro _ events terminated
    apply leaves_stop
    rw [List.append_nil]
    exact ⟨terminated.wakeful, terminated.asked, .inl rfl,
      .inl (terminated.reaped.resolve_right nofun)⟩

theorem expelOverLimit_leaves (cgroup : Option TaskCgroupState) :
    Leaves m (fun answer events => Checked cgroup answer events ∧
        (∀ e, answer = .error e → KillAsked events ∧ (Reaped events ∨ e = .waitFailed)))
      (exec (expelOverLimit cgroup : MachineM δ Unit) m) := by
  cases cgroup with
  | none => exact leaves_stop ⟨⟨by simp [Wakeful], fun _ => rfl, nofun, nofun⟩, nofun⟩
  | some cgroup =>
    apply leaves_seen
    intro answer seen
    have kind : FailsIn answer (· = .invalidResourceControl) := seen ▸ limitReached_failsIn _ cgroup
    have ended : ∀ (error : ProcessAdapterError) (result : Except ProcessAdapterError Unit)
        (later : List SystemEvent), Expelled error result later →
        error = .invalidResourceControl ∨ error = .resourceLimitExceeded ∧ answer = .ok true →
        Checked (some cgroup) result (.measured answer :: later) ∧ (∀ e, result = .error e →
          KillAsked (.measured answer :: later) ∧
            (Reaped (.measured answer :: later) ∨ e = .waitFailed)) := by
      intro error result later expelled known
      refine ⟨⟨Wakeful.append (by simp [Wakeful] : Wakeful [.measured answer]) expelled.wakeful,
        ?_, ?_, ?_⟩, ?_⟩
      · rintro rfl
        rcases expelled.failed with same | same | same <;> cases same
      · rintro rfl
        rcases known with rfl | ⟨rfl, rfl⟩
        · rcases expelled.failed with same | same | same <;> cases same
        · simp
      · rintro e rfl
        rcases expelled.failed with same | same | same <;> cases same
        · exact known.elim (fun invalid => .inr (.inl invalid)) fun reached => .inl reached.1
        · exact .inr (.inr rfl)
        · exact .inr (.inl rfl)
      · rintro e rfl
        refine ⟨expelled.asked.append_left [.measured answer], ?_⟩
        exact expelled.reaped.imp (fun reaped => reaped.append_left [.measured answer])
          fun waited => by cases waited; rfl
    rcases answer with e | reached
    · obtain rfl := kind e rfl
      exact (expel_leaves cgroup _).mono fun result later expelled =>
        ended _ result later expelled (.inl rfl)
    · cases reached with
      | true =>
        exact (expel_leaves cgroup _).mono fun result later expelled =>
          ended _ result later expelled (.inr ⟨rfl, rfl⟩)
      | false => exact leaves_stop ⟨⟨by simp [Wakeful], fun _ => rfl, nofun, nofun⟩, nofun⟩

/-- What a round leaves: a nap that ends before the deadline, or the answer of the run. -/
structure Round (m : Machine δ) (cgroup : Option TaskCgroupState) (deadline : Instant)
    (answer : Except ProcessAdapterError (Option ToolOutput)) (events : List SystemEvent) : Prop where
  goes : answer = .ok none → m.outside.now (m.trace ++ [.polled (some none)]) < deadline ∧
    events = idle cgroup deadline (m.outside.now (m.trace ++ [.polled (some none)]))
  ends : answer ≠ .ok none → Wakeful events ∧ Verdict cgroup deadline events answer

theorem exited_leaves (cgroup : Option TaskCgroupState) (deadline : Instant) (success : Bool) :
    Leaves m (fun answer events => answer ≠ .ok none ∧
        Wakeful (.polled (some (some success)) :: events) ∧
        Verdict cgroup deadline (.polled (some (some success)) :: events) answer)
      (exec (do
        requireWithinLimits cgroup
        if success then
          let output ← propagate ((ToolOutput.fromBytes []).mapError fun _ => .outputFailed)
          pure (some output)
        else throw .exitFailed : MachineM δ (Option ToolOutput)) m) := by
  have still : ∀ events, Wakeful events → Wakeful (.polled (some (some success)) :: events) :=
    fun events wakeful => Wakeful.append (by simp [Wakeful] : Wakeful [_]) wakeful
  apply leaves_bind (requireWithinLimits_leaves cgroup)
  · rintro e events ⟨checked, waits⟩
    refine ⟨nofun, still _ checked.wakeful, ?_⟩
    have gone : Reaped (.polled (some (some success)) :: events) := .inr ⟨success, by simp⟩
    rcases checked.kind e rfl with rfl | rfl | rfl
    · obtain ⟨limited, measured⟩ := checked.reached rfl
      exact ⟨limited, gone, List.mem_cons_of_mem _ measured⟩
    · exact gone
    · exact absurd rfl waits
  · rintro _ events ⟨checked, _⟩
    obtain rfl := checked.quiet rfl
    cases success with
    | true =>
      exact leaves_stop ⟨nofun, by simpa using still _ checked.wakeful, rfl, by simp⟩
    | false => exact leaves_stop ⟨nofun, by simpa using still _ checked.wakeful, by simp [Verdict]⟩

theorem watchRound_leaves (m : Machine δ) (cgroup : Option TaskCgroupState) (deadline : Instant) :
    Leaves m (Round m cgroup deadline) (exec (watchRound deadline cgroup) m) := by
  unfold watchRound
  apply leaves_perform
  intro status
  rcases status with _ | _ | success
  · -- the child cannot be polled
    apply leaves_bind (abandon_leaves cgroup)
    · rintro e events ⟨failed, _⟩
      cases failed
    · rintro _ events ⟨_, asked, wakeful⟩
      refine leaves_stop ⟨nofun, fun _ => ⟨?_, ?_⟩⟩
      · simpa using Wakeful.append (by simp [Wakeful] : Wakeful [.polled none]) wakeful
      · simpa [Verdict] using asked.append_left [.polled none]
  · -- it runs
    apply leaves_seen
    intro now seen
    have early : Wakeful [.polled (some none), .read now] := by simp [Wakeful]
    apply leaves_bind (expelOverLimit_leaves cgroup)
    · rintro e events ⟨checked, expelled⟩
      obtain ⟨asked, gone⟩ := expelled e rfl
      have still := early.append checked.wakeful
      refine ⟨nofun, fun _ => ⟨still, ?_⟩⟩
      rcases checked.kind e rfl with rfl | rfl | rfl
      · obtain ⟨limited, measured⟩ := checked.reached rfl
        exact ⟨limited, (gone.resolve_right nofun).append_left [.polled (some none), .read now],
          by simp [measured]⟩
      · exact (gone.resolve_right nofun).append_left [.polled (some none), .read now]
      · exact asked.append_left [.polled (some none), .read now]
    · rintro _ events ⟨checked, _⟩
      obtain rfl := checked.quiet rfl
      have still := early.append checked.wakeful
      by_cases late : deadline ≤ now
      · rw [if_pos late]
        apply leaves_bind (timeOut_leaves cgroup)
        · intro e ending terminated
          have asleep := still.append terminated.wakeful
          refine ⟨nofun, fun _ => ⟨by simpa using asleep, ?_⟩⟩
          have asked := terminated.asked.append_left (.polled (some none) :: .read now :: calm cgroup)
          rcases terminated.kind e rfl with rfl | rfl
          · simpa [Verdict] using asked
          · have gone := terminated.reaped.resolve_right nofun
            simpa [Verdict] using gone.append_left (.polled (some none) :: .read now :: calm cgroup)
        · intro _ ending terminated
          have asleep := still.append terminated.wakeful
          refine leaves_stop ⟨nofun, fun _ => ⟨by simpa using asleep, ?_⟩⟩
          exact ⟨now, ending, late, terminated.asked, terminated.reaped.resolve_right nofun,
            by simp⟩
      · rw [if_neg late]
        apply leaves_perform
        intro _
        refine leaves_stop ⟨fun _ => ?_, fun other => absurd rfl other⟩
        have here : m.outside.now (m.trace ++ [.polled (some none)]) = now := seen
        rw [here]
        exact ⟨Nat.lt_of_not_le late, by simp [idle]⟩
  · -- it has exited
    refine (exited_leaves cgroup deadline success).mono ?_
    rintro answer events ⟨ended, wakeful, verdict⟩
    exact ⟨fun goes => absurd goes ended, fun _ => ⟨wakeful, verdict⟩⟩

/-- Naps only, each begun before the deadline. -/
def Napped (m : Machine δ) (cgroup : Option TaskCgroupState) (deadline : Instant)
    (s : Machine δ) : Prop :=
  ∃ readings : List Instant, s = m.after (readings.flatMap (idle cgroup deadline)) ∧
    ∀ now ∈ readings, now < deadline

/-- All the rounds of a child: the naps, and then the last round. -/
def Watched (cgroup : Option TaskCgroupState) (deadline : Instant)
    (answer : Except ProcessAdapterError (Option ToolOutput)) (events : List SystemEvent) : Prop :=
  ∃ (readings : List Instant) (last : List SystemEvent),
    events = readings.flatMap (idle cgroup deadline) ++ last ∧
      (∀ now ∈ readings, now < deadline) ∧ Wakeful last ∧ Verdict cgroup deadline last answer

def WatchedOut (m : Machine δ) (cgroup : Option TaskCgroupState) (deadline : Instant)
    (out : Except ProcessAdapterError ToolOutput × Machine δ) : Prop :=
  Leaves m (Watched cgroup deadline) (out.1.map some, out.2)

theorem watchRound_comes {s : Machine δ} (napped : Napped m cgroup deadline s) :
    Comes (Napped m cgroup deadline) (WatchedOut m cgroup deadline)
      (exec (watchRound deadline cgroup) s) := by
  obtain ⟨readings, rfl, early⟩ := napped
  obtain ⟨events, same, round⟩ :=
    watchRound_leaves (m.after (readings.flatMap (idle cgroup deadline))) cgroup deadline
  rcases ran : exec (watchRound deadline cgroup)
    (m.after (readings.flatMap (idle cgroup deadline))) with ⟨e | (_ | output), t⟩
  · rw [ran] at same round
    obtain ⟨wakeful, verdict⟩ := round.ends nofun
    exact ⟨_, same.trans (m.after_after _ _), readings, events, rfl, early, wakeful, verdict⟩
  · rw [ran] at same round
    obtain ⟨earlier, shape⟩ := round.goes rfl
    generalize (m.after _).outside.now _ = now at earlier shape
    refine ⟨readings ++ [now], ?_, ?_⟩
    · subst shape
      rw [List.flatMap_append, List.flatMap_singleton]
      exact same.trans (m.after_after _ _)
    · intro reading member
      rcases List.mem_append.mp member with before | here
      · exact early reading before
      · rw [List.mem_singleton.mp here]
        exact earlier
  · rw [ran] at same round
    obtain ⟨wakeful, verdict⟩ := round.ends nofun
    exact ⟨_, same.trans (m.after_after _ _), readings, events, rfl, early, wakeful, verdict⟩

theorem watch_leaves (m : Machine δ) (cgroup : Option TaskCgroupState) (deadline : Instant)
    (fuel : Nat) : Leaves m (Watched cgroup deadline)
      (exec (rounds (watchRound deadline cgroup) fuel) m) := by
  have start : Napped m cgroup deadline m := ⟨[], m.after_nil.symm, by simp⟩
  have runs := rounds_rule (fun s => watchRound_comes (s := s)) fuel start
  rcases ran : exec (rounds (watchRound deadline cgroup) fuel) m with ⟨e | (_ | output), t⟩
  · rw [ran] at runs
    exact runs
  · rw [ran] at runs
    obtain ⟨readings, same, early⟩ := runs
    exact ⟨_, same, readings, [], by simp, early, by simp [Wakeful], rfl⟩
  · rw [ran] at runs
    exact runs

end rounds

section run
variable (handler : ProcessToolHandler δ) {m : Machine δ}

/-- A whole run: refused before the spawn, not spawned, or a child that is accounted for. -/
def Accounted (site : Site δ) (arguments : List String) (timeout : Duration) (authorized : Bool)
    (answer : Except ProcessAdapterError (Option ToolOutput)) (events : List SystemEvent) : Prop :=
  (∃ e, handler.prepare site arguments timeout authorized = .error e ∧ answer = .error e ∧
    events = [.looked]) ∨
  ∃ launch, handler.prepare site arguments timeout authorized = .ok launch ∧
    (answer = .error .spawnFailed ∧
      events = [.looked, .read site.now, .spawned launch.command false] ∨
    ∃ handover watched, (handover = [] ∨ handover = [.sent true]) ∧
      events = .looked :: .read site.now :: .spawned launch.command true :: handover ++ watched ∧
      Watched handler.taskCgroup (site.now + timeout) answer watched)

theorem transfer_leaves (launch : Launch δ) (deadline : Instant) :
    Leaves m (fun answer events => (answer = .ok () ∧ (events = [] ∨ events = [.sent true])) ∨
        ∃ e, answer = .error e ∧ Watched handler.taskCgroup deadline (.error e) events)
      (exec (handler.transfer launch) m) := by
  unfold ProcessToolHandler.transfer
  split
  · apply leaves_perform
    intro sent
    cases sent with
    | true => exact leaves_stop (.inl ⟨rfl, .inr rfl⟩)
    | false =>
      apply leaves_bind (abandon_leaves handler.taskCgroup)
      · rintro e events ⟨failed, _⟩
        cases failed
      · rintro _ events ⟨_, asked, wakeful⟩
        refine leaves_stop (.inr ⟨_, rfl, [], .sent false :: events, by simp, by simp, ?_, ?_⟩)
        · exact Wakeful.append (by simp [Wakeful] : Wakeful [.sent false]) wakeful
        · exact asked.append_left [.sent false]
  · exact leaves_stop (.inl ⟨rfl, .inl rfl⟩)

theorem run_leaves (fuel : Nat) (arguments : List String) (timeout : Duration)
    (authorized : Bool) (m : Machine δ) :
    Leaves m (Accounted handler (m.outside.site m.trace) arguments timeout authorized)
      (exec (handler.runCheckedWithTimeout fuel arguments timeout authorized) m) := by
  unfold ProcessToolHandler.runCheckedWithTimeout ProcessToolHandler.prepareNow
  rw [bind_assoc]
  apply leaves_seen
  intro answer prepared
  apply propagate_rule (P := Leaves _ _)
  · rintro e rfl
    exact leaves_stop (.inl ⟨e, prepared, rfl, rfl⟩)
  rintro launch rfl
  apply leaves_seen
  intro now read
  obtain rfl : (m.outside.site m.trace).now = now := read
  apply leaves_perform
  intro started
  apply ensure_rule (P := Leaves _ _)
  · rintro rfl
    exact leaves_stop (.inr ⟨launch, prepared, .inl ⟨rfl, rfl⟩⟩)
  rintro rfl
  apply leaves_bind (transfer_leaves handler launch ((m.outside.site m.trace).now + timeout))
  · rintro e events (⟨sent, _⟩ | ⟨_, same, watched⟩)
    · cases sent
    · cases same
      exact .inr ⟨launch, prepared, .inr ⟨[], events, .inl rfl, by simp, watched⟩⟩
  · rintro _ handover (⟨_, shape⟩ | ⟨_, failed, _⟩)
    · refine (watch_leaves _ handler.taskCgroup _ fuel).mono ?_
      intro answer watched holds
      exact .inr ⟨launch, prepared, .inr ⟨handover, watched, shape, by simp, holds⟩⟩
    · cases failed

theorem nap_nearer {deadline before now after interval : Nat} (later : before ≤ now)
    (early : now < deadline) (woken : now + min interval (deadline - now) ≤ after)
    (positive : 0 < interval) :
    (deadline - after + (interval - 1)) / interval <
      (deadline - before + (interval - 1)) / interval := by
  by_cases whole : interval ≤ deadline - now
  · calc (deadline - after + (interval - 1)) / interval
        < (deadline - after + (interval - 1) + interval) / interval := by
          rw [Nat.add_div_right _ positive]
          omega
      _ ≤ (deadline - before + (interval - 1)) / interval := Nat.div_le_div_right (by omega)
  · have past : deadline - after + (interval - 1) < interval := by omega
    rw [Nat.div_eq_of_lt past]
    exact Nat.div_pos (by omega) positive

theorem naps_within {start timeout now interval : Nat} (begun : start ≤ now)
    (positive : 0 < interval) :
    (start + timeout - now + (interval - 1)) / interval < timeout / interval + 2 := by
  calc (start + timeout - now + (interval - 1)) / interval
      ≤ (timeout + interval) / interval := Nat.div_le_div_right (by omega)
    _ < timeout / interval + 2 := by
      rw [Nat.add_div_right _ positive]
      omega

/-- The rounds that are left if every nap is a whole one. -/
def roundsLeft (deadline : Instant) (m : Machine δ) : Nat :=
  (deadline - m.outside.now m.trace + (waitPollInterval - 1)) / waitPollInterval

theorem watchRound_nearer {cgroup : Option TaskCgroupState} {deadline : Instant} {s t : Machine δ}
    (punctual : s.outside.Punctual) (goes : exec (watchRound deadline cgroup) s = (.ok none, t)) :
    t.outside.Punctual ∧ roundsLeft deadline t < roundsLeft deadline s := by
  obtain ⟨events, same, round⟩ := watchRound_leaves s cgroup deadline
  rw [goes] at same round
  obtain ⟨early, rfl⟩ := round.goes rfl
  obtain rfl : t = _ := same
  refine ⟨punctual, ?_⟩
  generalize read : s.outside.now (s.trace ++ [.polled (some none)]) = now at early
  have later : s.outside.now s.trace ≤ now := read ▸ punctual.forward s.trace _
  have woken : now + min waitPollInterval (deadline - now) ≤
      s.outside.now (s.trace ++ idle cgroup deadline now) := by
    have through := punctual.after (s.trace ++ [.polled (some none)]) (.read now :: calm cgroup)
    rw [read] at through
    have whole := punctual.slept
      (s.trace ++ [.polled (some none)] ++ .read now :: calm cgroup)
      (min waitPollInterval (deadline - now))
    have shape : s.trace ++ idle cgroup deadline now =
        s.trace ++ [.polled (some none)] ++ .read now :: calm cgroup
          ++ [.slept (min waitPollInterval (deadline - now))] := by
      simp [idle]
    rw [shape]
    exact (Nat.add_le_add_right through _).trans whole
  exact nap_nearer later early woken (by decide)

/-- With a clock that goes on, the loop has its answer after so many rounds. -/
theorem watch_answers {cgroup : Option TaskCgroupState} {start : Instant} {timeout : Duration}
    {fuel : Nat} (punctual : m.outside.Punctual) (begun : start ≤ m.outside.now m.trace)
    (enough : timeout / waitPollInterval + 2 ≤ fuel) :
    Answers (exec (rounds (watchRound (start + timeout) cgroup) fuel) m) := by
  apply rounds_enough (I := fun s => s.outside.Punctual)
    (fun s t punctual goes => watchRound_nearer punctual goes) punctual
  exact (naps_within begun (by decide)).trans_le enough

/-- Before its loop, a run only prepares, spawns and hands over. -/
theorem run_answers {fuel : Nat} {arguments : List String} {timeout : Duration}
    {authorized : Bool} (punctual : m.outside.Punctual)
    (enough : timeout / waitPollInterval + 2 ≤ fuel) :
    Answers (exec (handler.runCheckedWithTimeout fuel arguments timeout authorized) m) := by
  unfold ProcessToolHandler.runCheckedWithTimeout ProcessToolHandler.prepareNow
  rw [bind_assoc]
  apply perform_rule (P := Answers)
  intro answer _
  apply propagate_rule (P := Answers) (fun _ _ => nofun)
  intro launch _
  apply perform_rule (P := Answers)
  intro now read
  apply perform_rule (P := Answers)
  intro started _
  apply ensure_rule (P := Answers) (fun _ => nofun)
  intro _
  obtain ⟨events, same, _⟩ := transfer_leaves handler launch (now + timeout)
  apply bind_rule (P := Answers) (fun _ _ _ => nofun)
  intro _ t ran
  rw [ran] at same
  obtain rfl : t = _ := same
  have begun := punctual.after (m.trace ++ [.looked])
    (.read now :: .spawned launch.command started :: events)
  have start : m.outside.now (m.trace ++ [.looked]) = now := read
  rw [start] at begun
  simp only [Machine.after_after]
  exact watch_answers (m := m.after _) punctual (by simpa [Machine.after] using begun) enough

/-- Whatever the system does, no child is left without a word, and a system whose clock goes on
gets the answer of the run. -/
theorem child_accounted_for (fuel : Nat) (arguments : List String) (timeout : Duration)
    (authorized : Bool) (m : Machine δ) :
    Leaves m (Accounted handler (m.outside.site m.trace) arguments timeout authorized)
        (exec (handler.runCheckedWithTimeout fuel arguments timeout authorized) m) ∧
      (m.outside.Punctual → timeout / waitPollInterval + 2 ≤ fuel →
        (exec (handler.runCheckedWithTimeout fuel arguments timeout authorized) m).1 ≠ .ok none) :=
  ⟨run_leaves handler fuel arguments timeout authorized m, run_answers handler⟩

namespace Sample

def toolHost : Host Unit where
  metadata path := if path = osStr "/bin/tool" then
      some ⟨false, true, false, 0o755, 1, 2⟩
    else none
  symlinkMetadata _ := none
  canonicalize _ := none
  readToString _ := none
  openDirectory _ := none
  measureTree _ := none

def tool : ProcessToolHandler Unit where
  executable := osStr "/bin/tool"
  executableIdentity := ⟨1, 2⟩
  workingDirectory := osStr "/"
  workingDirectoryIdentity := none
  fixedArguments := []
  environment := ∅
  timeout := Duration.fromSecs 30
  argumentPolicy := fun _ => true
  launcher := .direct

/-- A clock on which every event takes the same time, and a sleep takes its duration too. -/
def ticking (tick : Duration) (trace : List SystemEvent) : Instant :=
  (trace.map fun
    | .slept duration => duration + tick
    | _ => tick).sum

theorem punctual_of_ticking {outside : Outside δ} {tick : Duration}
    (ticks : outside.now = ticking tick) : outside.Punctual := by
  refine ⟨fun trace event => ?_, fun trace duration => ?_⟩
  · rw [ticks, ticking, ticking, List.map_append, List.sum_append]
    exact Nat.le_add_right _ _
  · rw [ticks, ticking, ticking, List.map_append, List.sum_append]
    exact Nat.add_le_add_left (Nat.le_add_right duration _) _

/-- Every event takes half a second, and the child never exits by itself. -/
def slow : Machine Unit where
  outside :=
    { now := ticking (Duration.fromMillis 500)
      host := fun _ => toolHost
      notFound := fun _ _ => true
      seccompFilter := fun _ => none
      descriptorChannel := fun _ => true
      createDir := fun _ _ => false
      setMode := fun _ _ _ => false
      removeDir := fun _ _ => false
      write := fun _ _ _ => false
      spawn := fun _ _ => true
      send := fun _ => true
      tryWait := fun _ => some none
      kill := fun _ => true
      wait := fun _ => true }
  trace := []

theorem slow_punctual : slow.outside.Punctual := punctual_of_ticking rfl

theorem child_accounted_for_slow :
    (exec (tool.runCheckedWithTimeout 202 [] (Duration.fromSecs 1) false) slow).1 ≠ .ok none :=
  (child_accounted_for tool 202 [] (Duration.fromSecs 1) false slow).2 slow_punctual (by decide)

end Sample

end run

section budget

/-- An error that does not speak of the Task's Budget. -/
def Plain (e : ProcessAdapterError) : Prop := e ≠ .timedOut ∧ e ≠ .resourceLimitExceeded

def LimitSeen (handler : ProcessToolHandler δ) (host : Host δ) : Prop :=
  ∃ cgroup, handler.taskCgroup = some cgroup ∧ cgroup.limitReached host = .ok true

variable {handler : ProcessToolHandler δ}

theorem failsIn_checkSome {α : Type} {allowed : ProcessAdapterError → Prop} (o : Option α)
    {f : α → Except ProcessAdapterError Unit} (known : ∀ a, o = some a → FailsIn (f a) allowed) :
    FailsIn (checkSome o f) allowed := by
  cases o with
  | none => exact failsIn_ok ()
  | some a => exact known a rfl

theorem validateArguments_failsIn (fixed dynamic : List String) :
    FailsIn (validateArguments fixed dynamic) (· = .invalidArguments) := by
  have counted : ∀ total argument,
      FailsIn (countArgument total argument) (· = .invalidArguments) := by
    intro total argument
    unfold countArgument
    split
    · exact failsIn_error rfl
    · split
      · exact failsIn_error rfl
      · split
        · exact failsIn_error rfl
        · exact failsIn_ok _
  unfold validateArguments
  split
  · exact failsIn_error rfl
  · split
    · exact failsIn_error rfl
    · exact (failsIn_foldlM counted _ 0).map _

theorem readExecutableIdentity_failsIn (host : Host δ) (path : OsString) :
    FailsIn (readExecutableIdentity host path) (· = .executableChanged) := by
  unfold readExecutableIdentity
  exact .bind (failsIn_orError _ rfl) fun _ _ => .bind (failsIn_check _ rfl) fun _ _ =>
    failsIn_ok _

theorem validateDirectoryMode_failsIn (host : Host δ) (mask : UInt32) (path : OsString) :
    FailsIn (validateDirectoryMode host mask path) (· = .invalidSandbox) := by
  unfold validateDirectoryMode
  exact .bind (failsIn_orError _ rfl) fun _ _ => failsIn_check _ rfl

theorem readDirectoryIdentity_failsIn (host : Host δ) (path : OsString) :
    FailsIn (readDirectoryIdentity host path) (· = .invalidSandbox) := by
  unfold readDirectoryIdentity
  exact .bind (failsIn_orError _ rfl) fun _ _ => .bind (failsIn_check _ rfl) fun _ _ =>
    failsIn_ok _

theorem failsIn_plain {α : Type} {x : Except ProcessAdapterError α} {error : ProcessAdapterError}
    (fails : FailsIn x (· = error)) (known : Plain error) : FailsIn x Plain :=
  fails.mono fun _ same => same ▸ known

theorem validateVerifiedRootFilesystem_plain (host : Host δ) (directory : OsString)
    (state : VerifiedRootFilesystemState) :
    FailsIn (validateVerifiedRootFilesystem host directory state) Plain := by
  unfold validateVerifiedRootFilesystem
  have sandbox : Plain .invalidSandbox := ⟨nofun, nofun⟩
  exact .bind (failsIn_plain (validateDirectoryMode_failsIn host _ directory) sandbox) fun _ _ =>
    .bind (failsIn_plain (readDirectoryIdentity_failsIn host directory) sandbox) fun _ _ =>
      .bind (failsIn_check _ sandbox) fun _ _ => .bind (failsIn_orError _ sandbox) fun _ _ =>
        failsIn_check _ sandbox

theorem sandboxCommand_plain (outside : Outside δ) (trace : List SystemEvent) (sandbox : Bubblewrap δ) (seccomp : SeccompFilterFile δ) :
    FailsIn (ProcessToolHandler.sandboxCommand sandbox seccomp (outside.site trace)) Plain := by
  have changed : Plain .executableChanged := ⟨nofun, nofun⟩
  have executable : ∀ path,
      FailsIn (readExecutableIdentity (outside.site trace).host path) Plain :=
    fun path => failsIn_plain (readExecutableIdentity_failsIn _ path) changed
  unfold ProcessToolHandler.sandboxCommand
  refine .bind (executable _) fun _ _ => .bind (failsIn_check _ changed) fun _ _ =>
    .bind (failsIn_checkSome _ fun state _ => ?_) fun _ _ =>
      .bind (failsIn_checkSome _ fun launch _ => ?_) fun _ _ => ?_
  · exact validateVerifiedRootFilesystem_plain _ _ state
  · exact .bind (executable _) fun _ _ => failsIn_check _ changed
  · dsimp only
    split
    · split
      · exact failsIn_ok _
      · exact .bind (failsIn_check _ ⟨nofun, nofun⟩) fun _ _ => failsIn_ok _
    · exact .bind (failsIn_check _ ⟨nofun, nofun⟩) fun _ _ => failsIn_ok _

theorem launchFor_plain (outside : Outside δ) (trace : List SystemEvent) (arguments : List String) (authorized : Bool) :
    FailsIn (handler.launchFor (outside.site trace) arguments authorized) Plain := by
  unfold ProcessToolHandler.launchFor
  split
  · exact failsIn_ok _
  · unfold ProcessToolHandler.sandboxLaunch
    exact .bind (failsIn_check _ ⟨nofun, nofun⟩) fun _ _ =>
      .bind (failsIn_orError _ ⟨nofun, nofun⟩) fun _ _ =>
        .bind (sandboxCommand_plain outside trace _ _) fun _ _ => failsIn_ok _

/-- Before the spawn, only a limit that was reached speaks of the Budget. -/
theorem prepare_failsIn (outside : Outside δ) (trace : List SystemEvent) (arguments : List String) (timeout : Duration) (authorized : Bool) :
    FailsIn (handler.prepare (outside.site trace) arguments timeout authorized)
      (fun e => Plain e ∨ e = .resourceLimitExceeded ∧ LimitSeen handler (outside.host trace)) := by
  have plain : ∀ {α : Type} {x : Except ProcessAdapterError α}, FailsIn x Plain →
      FailsIn x fun e =>
        Plain e ∨ e = .resourceLimitExceeded ∧ LimitSeen handler (outside.host trace) :=
    fun fails => fails.mono fun _ known => .inl known
  unfold ProcessToolHandler.prepare
  refine .bind (plain (failsIn_check _ ⟨nofun, nofun⟩)) fun _ _ =>
    .bind (plain (failsIn_plain (validateArguments_failsIn _ _) ⟨nofun, nofun⟩)) fun _ _ =>
      .bind (plain (failsIn_check _ ⟨nofun, nofun⟩)) fun _ _ =>
        .bind (plain (failsIn_plain (readExecutableIdentity_failsIn _ _) ⟨nofun, nofun⟩)) fun _ _ =>
          .bind (plain (failsIn_check _ ⟨nofun, nofun⟩)) fun _ _ =>
            .bind (plain (failsIn_checkSome _ fun _ _ => ?_)) fun _ _ =>
              .bind (plain (launchFor_plain outside trace arguments authorized)) fun _ _ =>
                .bind (failsIn_checkSome _ fun cgroup own => ?_) fun _ _ =>
                  .bind (plain (failsIn_check _ ⟨nofun, nofun⟩)) fun _ _ => failsIn_ok _
  · unfold validateTaskScratchIdentity validateOwnerOnlyDirectory
    have sandbox : Plain .invalidSandbox := ⟨nofun, nofun⟩
    exact .bind (failsIn_plain (validateDirectoryMode_failsIn _ _ _) sandbox) fun _ _ =>
      .bind (failsIn_plain (readDirectoryIdentity_failsIn _ _) sandbox) fun _ _ =>
        failsIn_check _ sandbox
  · refine .bind (plain (failsIn_plain (limitReached_failsIn _ cgroup) ⟨nofun, nofun⟩))
      fun reached seen => ?_
    cases reached with
    | false => exact failsIn_ok ()
    | true => exact failsIn_error (.inr ⟨rfl, cgroup, own, seen⟩)

theorem taskTimeout_ok {context : TaskExecutionContext} {remaining timeout : Duration} {own : Bool}
    (chosen : handler.taskTimeout context remaining = .ok (timeout, own)) :
    (own = true → timeout = remaining) ∧
      ∀ cgroup, handler.taskCgroup = some cgroup → cgroup.taskId = context.taskId := by
  unfold ProcessToolHandler.taskTimeout at chosen
  split at chosen
  · rename_i direct
    cases chosen
    refine ⟨fun own => min_eq_right (of_decide_eq_true own), ?_⟩
    simp [ProcessToolHandler.taskCgroup, direct]
  · rename_i sandbox launcher
    split at chosen
    · cases chosen
    · rename_i launch found
      simp only [bind_ok, mapError_ok, check_ok, Bool.and_eq_true, decide_eq_true_eq,
        pure_ok] at chosen
      obtain ⟨_, _, _, ⟨⟨same, _⟩, _⟩, pair⟩ := chosen
      cases pair
      refine ⟨fun _ => rfl, ?_⟩
      simpa [ProcessToolHandler.taskCgroup, launcher, found] using same

theorem taskTimeout_failsIn (handler : ProcessToolHandler δ) (context : TaskExecutionContext)
    (remaining : Duration) : FailsIn (handler.taskTimeout context remaining) (· = .failed) := by
  unfold ProcessToolHandler.taskTimeout
  split
  · exact failsIn_ok _
  · split
    · exact failsIn_error rfl
    · exact .bind (failsIn_mapError fun _ _ => rfl) fun _ _ =>
        .bind (failsIn_check _ rfl) fun _ _ => failsIn_ok _

theorem remainingWallTime_spent {context : TaskExecutionContext} {first start now : Instant}
    (started : context.startedAt ≤ first) (later : first ≤ start)
    (late : start + context.remainingWallTime first ≤ now) :
    context.remainingWallTime now = 0 := by
  simp only [TaskExecutionContext.remainingWallTime, Instant, Duration] at *
  generalize (context.budget.wallTime : Nat) = wall at *
  omega

theorem Accounted.timedOut {outside : Outside δ} {trace events : List SystemEvent} {arguments : List String} {timeout : Duration}
    {authorized : Bool} (accounted : Accounted handler (outside.site trace) arguments timeout
      authorized (.error .timedOut) events) :
    ∃ now, .read now ∈ events ∧ (outside.site trace).now + timeout ≤ now := by
  rcases accounted with ⟨e, prepared, same, _⟩ | ⟨launch, _, ⟨same, _⟩ | ⟨handover, watched, _,
    rfl, readings, last, rfl, _, _, now, ending, late, _, _, rfl⟩⟩
  · cases same
    rcases prepare_failsIn outside _ _ _ _ _ prepared with plain | ⟨other, _⟩
    · exact absurd rfl plain.1
    · cases other
  · cases same
  · exact ⟨now, by simp, late⟩

theorem Accounted.limit {outside : Outside δ} {trace events : List SystemEvent} {arguments : List String} {timeout : Duration}
    {authorized : Bool} (accounted : Accounted handler (outside.site trace) arguments timeout
      authorized (.error .resourceLimitExceeded) events) :
    LimitSeen handler (outside.host trace) ∨
      handler.taskCgroup.isSome = true ∧ .measured (.ok true) ∈ events := by
  rcases accounted with ⟨e, prepared, same, _⟩ | ⟨launch, _, ⟨same, _⟩ | ⟨handover, watched, _,
    rfl, readings, last, rfl, _, _, limited, _, measured⟩⟩
  · cases same
    rcases prepare_failsIn outside _ _ _ _ _ prepared with plain | ⟨_, seen⟩
    · exact absurd rfl plain.2
    · exact .inl seen
  · cases same
  · exact .inr ⟨limited, by simp [measured]⟩

/-- A Task is told that its Budget is used up only when it is: its wall time has run out at a
reading of the clock, or a limit of its own cgroup was reached. -/
theorem budget_exceeded_for_cause (handler : ProcessToolHandler δ) (fuel : Nat)
    (context : TaskExecutionContext) (arguments : List String) (m : Machine δ)
    (punctual : m.outside.Punctual)
    (started : context.startedAt ≤ m.outside.now m.trace) :
    Leaves m (fun answer events => answer = .ok (.error .budgetExceeded) →
        (∃ now, .read now ∈ events ∧ context.remainingWallTime now = 0) ∨
        ∃ cgroup, handler.taskCgroup = some cgroup ∧ cgroup.taskId = context.taskId ∧
          (.measured (.ok true) ∈ events ∨ cgroup.limitReached
            (m.outside.host (m.trace ++ [.read (m.outside.now m.trace)])) = .ok true))
      (exec (handler.runForTask fuel context arguments) m) := by
  unfold ProcessToolHandler.runForTask
  apply leaves_seen
  intro first read
  by_cases gone : context.remainingWallTime first = 0
  · rw [if_pos gone]
    exact leaves_stop fun _ => .inl ⟨first, by simp, gone⟩
  rw [if_neg gone]
  cases chosen : handler.taskTimeout context (context.remainingWallTime first) with
  | error failure =>
    apply leaves_stop
    obtain rfl := taskTimeout_failsIn handler context _ _ chosen
    exact nofun
  | ok timing =>
    obtain ⟨timeout, own⟩ := timing
    obtain ⟨whole, task⟩ := taskTimeout_ok chosen
    apply leaves_attempt (run_leaves handler fuel arguments timeout true _)
    intro answer events accounted
    apply leaves_stop
    intro verdict
    rw [List.append_nil]
    rcases answer with e | output
    · obtain limit | ⟨rfl, rfl⟩ : e = .resourceLimitExceeded ∨ e = .timedOut ∧ own = true := by
        by_contra other
        simp [Except.mapError, other] at verdict
      · subst limit
        refine .inr ?_
        rcases accounted.limit with ⟨cgroup, found, seen⟩ | ⟨found, measured⟩
        · refine ⟨cgroup, found, task cgroup found, .inr ?_⟩
          rw [(read : m.outside.now m.trace = first)]
          exact seen
        · obtain ⟨cgroup, found⟩ := Option.isSome_iff_exists.mp found
          exact ⟨cgroup, found, task cgroup found, .inl (List.mem_cons_of_mem _ measured)⟩
      · obtain ⟨now, member, late⟩ := accounted.timedOut
        refine .inl ⟨now, List.mem_cons_of_mem _ member, ?_⟩
        have later : first ≤ (m.outside.site (m.trace ++ [.read first])).now := by
          have through := punctual.after m.trace ([.read first] ++ [.looked])
          rw [(read : m.outside.now m.trace = first), ← List.append_assoc] at through
          exact through
        rw [whole rfl] at late
        rw [(read : m.outside.now m.trace = first)] at started
        exact remainingWallTime_spent started later late
    · simp [Except.mapError] at verdict

namespace Sample

def oneSecond : TaskExecutionContext := ⟨⟨0⟩, ⟨1, 1, 1⟩, [], 0⟩

/-- The child of a Task with one second is killed, and the Task is told of its Budget. -/
theorem budget_exceeded_slow :
    (exec (tool.runForTask 3 oneSecond []) slow).1 = .ok (.error .budgetExceeded) ∧
      ∃ events, (exec (tool.runForTask 3 oneSecond []) slow).2 = slow.after events ∧
        ∃ now, .read now ∈ events ∧ oneSecond.remainingWallTime now = 0 := by
  have told : (exec (tool.runForTask 3 oneSecond []) slow).1 = .ok (.error .budgetExceeded) := by
    decide +kernel
  obtain ⟨events, same, cause⟩ := budget_exceeded_for_cause tool 3 oneSecond [] slow slow_punctual
    (by decide)
  refine ⟨told, events, same, (cause told).resolve_right ?_⟩
  rintro ⟨cgroup, found, _⟩
  cases found

end Sample

end budget

end AiOs.ProcessAdapter
