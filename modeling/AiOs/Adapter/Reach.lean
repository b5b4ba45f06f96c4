import AiOs.Adapter.Destination
import AiOs.Adapter.WallTime
import AiOs.Core.Reference

/-! What reaches the outside. The trace of a site is cut into one segment for each execution, in
their order; what stands in a segment was done for its operation, and that operation was granted
to its Task. -/
namespace AiOs

open Fallible Timed

section segments
variable {A W D Err α : Type}

/-- The deeds of a trace, without the readings of the clock. -/
def deedsOf : List (AdapterEvent D) → List (TaskExecutionContext × D)
  | [] => []
  | .reading _ :: rest => deedsOf rest
  | .deed context deed :: rest => (context, deed) :: deedsOf rest

/-- The outcome of a program that has added such events to its trace and changed nothing else. -/
structure Adds (Q : List (AdapterEvent D) → Prop) (s : Session A W D)
    (out : Except Err α × Session A W D) : Prop where
  adapter : out.2.adapter = s.adapter
  outside : out.2.outside = s.outside
  added : ∃ events, out.2.trace = s.trace ++ events ∧ Q events

variable {Q : List (AdapterEvent D) → Prop} {s : Session A W D}
  {out : Except Err α × Session A W D}

theorem adds_stop {answer : Except Err α} (none : Q []) : Adds Q s (answer, s) :=
  ⟨rfl, rfl, [], (List.append_nil _).symm, none⟩

theorem Adds.reading (clock : Nat → Instant)
    (rest : Adds (fun events => Q (.reading (clock s.reads) :: events)) (s.read clock) out) :
    Adds Q s out := by
  obtain ⟨adapter, outside, events, same, holds⟩ := rest
  refine ⟨adapter, outside, .reading (clock s.reads) :: events, ?_, holds⟩
  rw [same, Session.read, List.append_assoc, List.singleton_append]

theorem Adds.deed (context : TaskExecutionContext) (deed : D)
    (rest : Adds (fun events => Q (.deed context deed :: events)) (s.does context deed) out) :
    Adds Q s out := by
  obtain ⟨adapter, outside, events, same, holds⟩ := rest
  refine ⟨adapter, outside, .deed context deed :: events, ?_, holds⟩
  rw [same, Session.does, List.append_assoc, List.singleton_append]

theorem Adds.mono {R : List (AdapterEvent D) → Prop} (adds : Adds Q s out)
    (weaker : ∀ events, Q events → R events) : Adds R s out := by
  obtain ⟨adapter, outside, events, same, holds⟩ := adds
  exact ⟨adapter, outside, events, same, weaker _ holds⟩

theorem Adds.site (adds : Adds Q s out) : ∃ events,
    out.2.toSite = { s.toSite with trace := s.trace ++ events } ∧ Q events := by
  obtain ⟨answer, ⟨adapter, outside, trace⟩, reads⟩ := out
  obtain ⟨same, kept, events, grown, holds⟩ := adds
  cases same
  cases kept
  cases grown
  exact ⟨events, rfl, holds⟩

end segments

section runs
variable {S A W D O Output Err : Type} [LawfulEventStore S] [ContextualOperation O]
  [ExecutionAdapter (Site A W D) O Output Err] {env : Env}

variable (Output Err) in
/-- An execution adds a segment to the site that fits its operation. -/
def Confines (segment : Site A W D → O → TaskExecutionContext → List (AdapterEvent D) → Prop) :
    Prop :=
  ∀ (clock : Nat → Instant) (site : Site A W D) (operation : O) (reads : Nat)
    (context : TaskExecutionContext), ContextualOperation.executionContext operation = some context →
    ∃ events, (ExecutionAdapter.execute clock site operation reads).2.1 =
        { site with trace := site.trace ++ events } ∧
      segment site operation context events

/-- The request is well formed, and the valid specification of the Task grants it. -/
def Entitled (submitted : List (TaskId × TaskSpec)) (taskId : TaskId)
    (request : CapabilityRequest) : Prop :=
  ∃ spec, (taskId, spec) ∈ submitted ∧ spec.Valid ∧ request.WellFormed ∧
    spec.capabilities.Grants request

/-- What a segment of the trace has to do with the execution it comes from. -/
structure Reaches
    (segment : Site A W D → O → TaskExecutionContext → List (AdapterEvent D) → Prop)
    (submitted : List (TaskId × TaskSpec)) (site : Site A W D) (x : Execution S O)
    (events : List (AdapterEvent D)) : Prop where
  entitled : Entitled submitted x.taskId (GuardedOperation.capabilityRequest x.operation)
  fits : ∃ context, ContextualOperation.executionContext x.operation = some context ∧
    context.taskId = x.taskId ∧ segment site x.operation context events

/-- One segment for each execution, and each on the site that the ones before have left. -/
inductive Segments
    (segment : Site A W D → O → TaskExecutionContext → List (AdapterEvent D) → Prop)
    (submitted : List (TaskId × TaskSpec)) :
    Site A W D → List (Execution S O) → List (List (AdapterEvent D)) → Prop where
  | nil (site : Site A W D) : Segments segment submitted site [] []
  | cons (site : Site A W D) (x : Execution S O) (events : List (AdapterEvent D))
      (rest : List (Execution S O)) (segments : List (List (AdapterEvent D)))
      (reaches : Reaches segment submitted site x events)
      (later : Segments segment submitted { site with trace := site.trace ++ events } rest
        segments) :
      Segments segment submitted site (x :: rest) (events :: segments)

theorem Authorized.entitled {submitted : List (TaskId × TaskSpec)} {x : Execution S O}
    (authorized : Authorized env submitted x) :
    Entitled submitted x.taskId (GuardedOperation.capabilityRequest x.operation) := by
  obtain ⟨record, policy, _, _, submission, built, decided⟩ := authorized
  have same : policy.task = record.spec := by
    unfold CapabilityPolicy.fromTask at built
    split at built
    · cases built
      rfl
    · cases built
  have grants : (GuardedOperation.capabilityRequest x.operation).WellFormed ∧
      policy.task.capabilities.Grants (GuardedOperation.capabilityRequest x.operation) := by
    rcases decided with ⟨allowed, _⟩ | ⟨asked, _⟩
    · rcases (policy.evaluate_iff _ _).mp allowed with ⟨_, other⟩ | ⟨formed, ⟨_, other⟩ | ⟨_, _, other⟩ |
        ⟨granted, _⟩⟩
      · cases other
      · cases other
      · cases other
      · exact ⟨formed, granted⟩
    · rcases (policy.evaluate_iff _ _).mp asked with ⟨_, other⟩ | ⟨formed, ⟨_, other⟩ | ⟨granted, _⟩ |
        ⟨_, _, other⟩⟩
      · cases other
      · cases other
      · exact ⟨formed, granted⟩
      · cases other
  refine ⟨record.spec, submission, same ▸ policy.valid, grants.1, same ▸ grants.2⟩

theorem replay_segments
    {segment : Site A W D → O → TaskExecutionContext → List (AdapterEvent D) → Prop}
    (confines : Confines Output Err segment) {submitted : List (TaskId × TaskSpec)}
    {started : List (TaskId × Instant)} (executed : List (Execution S O))
    (contexts : ∀ x ∈ executed, InContext submitted started x.taskId x.operation)
    (authorized : ∀ x ∈ executed, Authorized env submitted x) (origin : Site A W D) :
    ∃ segments, replay env origin executed =
        { origin with trace := origin.trace ++ segments.flatten } ∧
      Segments segment submitted origin executed segments := by
  induction executed generalizing origin with
  | nil => exact ⟨[], by rw [List.flatten_nil, List.append_nil]; rfl, .nil origin⟩
  | cons x rest ih =>
    obtain ⟨startedAt, spec, _, _, attached⟩ := contexts x List.mem_cons_self
    obtain ⟨events, same, fits⟩ := confines env.clock origin x.operation x.moment.world.reads _ attached
    obtain ⟨segments, later, each⟩ := ih
      (fun y member => contexts y (List.mem_cons_of_mem _ member))
      (fun y member => authorized y (List.mem_cons_of_mem _ member))
      { origin with trace := origin.trace ++ events }
    have entitled := (authorized x List.mem_cons_self).entitled
    refine ⟨events :: segments, ?_, .cons _ _ _ _ _ ⟨entitled, _, attached, rfl, fits⟩ each⟩
    change replay env (ExecutionAdapter.execute env.clock origin x.operation
      x.moment.world.reads).2.1 rest = _
    rw [same, later, List.flatten_cons, List.append_assoc]

/-- Behind its facade such an adapter reaches nothing but what was granted. -/
theorem served_segments
    {segment : Site A W D → O → TaskExecutionContext → List (AdapterEvent D) → Prop}
    (confines : Confines Output Err segment) (fresh : Function.Injective env.uuid)
    {origin : Site A W D} (blank : origin.trace = []) {σ : System S (Site A W D) O}
    (served : System.Served env origin σ) :
    ∃ segments, σ.gate.adapter.trace = segments.flatten ∧
      Segments segment σ.submitted origin σ.executed segments := by
  have attended := served.attended fresh
  have guarded := served.reached.guarded fresh
  obtain ⟨segments, same, each⟩ := replay_segments confines σ.executed
    (served.executed_in_context fresh) guarded.authorized origin
  refine ⟨segments, ?_, each⟩
  rw [attended.replayed, same, blank]
  rfl

end runs

section filesystem
variable {clock : Nat → Instant} {context : TaskExecutionContext}
  {s : Session FilesystemAdapter FilesystemOutside FilesystemDeed}

/-- What is done for one write, by what the kernel answers: nothing once the time is over; a call
that creates the file; and only behind its success the contents, into that very file, and then its
way to the disk. -/
inductive FileEvents (site : FilesystemSite) (relative : String) (contents : List UInt8)
    (context : TaskExecutionContext) : List (AdapterEvent FilesystemDeed) → Prop where
  | spent (now : Instant) : FileEvents site relative contents context [.reading now]
  | unopened (before : Instant)
      (refused : site.outside.openat2 (site.trace ++ [.reading before]) = none) :
      FileEvents site relative contents context
        [.reading before, .deed context (.openat2 site.adapter.root relative createHow)]
  | opened (before now : Instant) (descriptor : Nat)
      (created : site.outside.openat2 (site.trace ++ [.reading before]) = some descriptor)
      (later : List (AdapterEvent FilesystemDeed))
      (begins : later <+: [.deed context (.writeAll descriptor contents),
        .deed context (.syncData descriptor)] ∨ ∃ last, later =
        [.deed context (.writeAll descriptor contents), .deed context (.syncData descriptor),
          .reading last]) :
      FileEvents site relative contents context
        (.reading before :: .deed context (.openat2 site.adapter.root relative createHow) ::
          .reading now :: later)

/-- The path of the operation is beneath the root, and its contents are bounded. -/
def FilesystemSegment (site : FilesystemSite) (operation : FilesystemWriteOperation)
    (context : TaskExecutionContext) (events : List (AdapterEvent FilesystemDeed)) : Prop :=
  operation.contents.length ≤ maxCreateBytes ∧ ∃ relative, "/" ++ relative = operation.path ∧
    FileEvents site relative operation.contents context events

theorem stripRoot_some {path relative : String}
    (stripped : FilesystemAdapter.stripRoot path = some relative) : "/" ++ relative = path := by
  unfold FilesystemAdapter.stripRoot at stripped
  split at stripped
  · rename_i absolute
    cases stripped
    obtain ⟨rest, shape⟩ : ∃ rest, path.toList = '/' :: rest := by
      cases chars : path.toList with
      | nil => simp [chars] at absolute
      | cons first rest =>
        rw [chars, List.head?_cons, Option.some.injEq] at absolute
        exact ⟨rest, by rw [absolute]⟩
    apply String.ext
    simp [shape]
  · cases stripped

theorem operation_shape (operation : FilesystemWriteOperation) :
    operation.contents.length ≤ maxCreateBytes ∧
      ∃ relative, FilesystemAdapter.stripRoot operation.path = some relative := by
  have valid := operation.valid
  unfold FilesystemAdapter.validateOperation at valid
  split at valid
  · cases valid
  · rename_i fine
    simp only [not_or, not_not, Nat.not_lt] at fine
    exact ⟨fine.1, _, if_pos fine.2.1⟩

theorem createNew_adds (operation : FilesystemWriteOperation)
    (attached : operation.executionContext = some context) :
    Adds (FilesystemSegment s.toSite operation context) s
      (exec (FilesystemAdapter.createNew clock operation) s) := by
  obtain ⟨bounded, relative, stripped⟩ := operation_shape operation
  have some_of : ∀ {events : List (AdapterEvent FilesystemDeed)},
      FileEvents s.toSite relative operation.contents context events →
      FilesystemSegment s.toSite operation context events :=
    fun events => ⟨bounded, relative, stripRoot_some stripped, events⟩
  unfold FilesystemAdapter.createNew
  rw [exec_bind_ok (exec_okOr_found attached _ _)]
  apply requireRemainingBudget_rule (P := Adds _ s)
  · exact .reading clock (adds_stop (some_of (.spent _)))
  intro _
  rw [exec_bind_ok (exec_okOr_found stripped _ _), exec_bind_ok (exec_get _),
    exec_bind_ok (exec_acts _ _ _ _)]
  refine .reading clock (.deed context (.openat2 s.adapter.root relative createHow) ?_)
  apply okOr_rule (P := Adds _ _)
  · exact fun refused => adds_stop (some_of (.unopened _ refused))
  intro descriptor created
  have opened : ∀ {now : Instant} {later : List (AdapterEvent FilesystemDeed)}, _ →
      FilesystemSegment s.toSite operation context (.reading (clock s.reads) ::
        .deed context (.openat2 s.adapter.root relative createHow) :: .reading now :: later) :=
    fun begins => some_of (.opened _ _ descriptor created _ begins)
  apply requireRemainingBudget_rule (P := Adds _ _)
  · exact .reading clock (adds_stop (opened (.inl ⟨_, rfl⟩)))
  intro _
  rw [exec_bind_ok (exec_acts _ _ _ _)]
  refine .reading clock (.deed context (.writeAll descriptor operation.contents) ?_)
  apply ensure_rule (P := Adds _ _)
  · exact fun _ => adds_stop (opened (.inl ⟨_, rfl⟩))
  intro _
  rw [exec_bind_ok (exec_acts _ _ _ _)]
  refine .deed context (.syncData descriptor) ?_
  apply ensure_rule (P := Adds _ _)
  · exact fun _ => adds_stop (opened (.inl ⟨_, rfl⟩))
  intro _
  apply requireRemainingBudget_rule (P := Adds _ _)
  · exact .reading clock (adds_stop (opened (.inr ⟨_, rfl⟩)))
  · exact fun _ => .reading clock (adds_stop (opened (.inr ⟨_, rfl⟩)))

theorem filesystem_confines :
    Confines FilesystemWriteReceipt FilesystemAdapterError FilesystemSegment := by
  intro clock site operation reads context attached
  have adds := @createNew_adds clock context ⟨site, reads⟩ operation attached
  have same : FilesystemAdapter.execute clock operation = FilesystemAdapter.createNew clock operation := by
    rw [FilesystemAdapter.execute, operation.valid]
    rfl
  rw [← same] at adds
  exact adds.site

/-- Every file that a run creates lies where a write capability of its Task covers it; each
execution opens one at most, writes its operation's contents into it, and touches nothing else. -/
theorem filesystem_confined {S : Type} [LawfulEventStore S] {env : Env}
    (fresh : Function.Injective env.uuid) {origin : FilesystemSite} (blank : origin.trace = [])
    {σ : System S FilesystemSite FilesystemWriteOperation} (served : System.Served env origin σ) :
    ∃ segments, σ.gate.adapter.trace = segments.flatten ∧
      Segments FilesystemSegment σ.submitted origin σ.executed segments :=
  served_segments filesystem_confines fresh blank served

set_option maxRecDepth 4000 in
theorem filesystem_confined_file :
    (∃ segments, (Sample.served Sample.filesystemSite
        Sample.filesystemActs).gate.adapter.trace = segments.flatten ∧
      Segments FilesystemSegment
        (Sample.served Sample.filesystemSite Sample.filesystemActs).submitted Sample.filesystemSite
        (Sample.served Sample.filesystemSite Sample.filesystemActs).executed segments) ∧
    (Sample.served Sample.filesystemSite Sample.filesystemActs).executed.length = 1 := by
  refine ⟨filesystem_confined Sample.uuid_injective rfl (Sample.served_reached ?_), ?_⟩
  · decide +kernel
  · decide +kernel

end filesystem

section network
variable {clock : Nat → Instant} {context : TaskExecutionContext} {β : Type}
  {s : Session NetworkAdapter NetworkOutside NetworkDeed}

/-- What is done on a connection that has been verified: no other one is started, and no byte
leaves that is not of the request. -/
def OnConnection (request : List UInt8) : NetworkDeed → Prop
  | .connect _ _ => False
  | .write bytes => bytes <:+ request
  | .peerAddr | .setWriteTimeout _ | .shutdown | .setReadTimeout _ | .read _ => True

def Exchanges (request : List UInt8) (context : TaskExecutionContext)
    (events : List (AdapterEvent NetworkDeed)) : Prop :=
  ∀ deed ∈ deedsOf events, deed.1 = context ∧ OnConnection request deed.2

/-- Nothing, or one connection to the address that the host spells. Before the peer has been found
to be that address, nothing but its name is asked for. -/
inductive NetworkSegment (site : NetworkSite) (operation : TcpExchangeOperation)
    (context : TaskExecutionContext) : List (AdapterEvent NetworkDeed) → Prop where
  | spent (now : Instant) : NetworkSegment site operation context [.reading now]
  | unconnected (ip : IpAddr) (timeout : Duration) (before now : Instant)
      (named : IpAddr.parse operation.host = some ip) (plain : ip.isSpecial = false) :
      NetworkSegment site operation context
        [.reading before, .deed context (.connect ⟨ip, operation.port⟩ timeout), .reading now]
  | connected (ip : IpAddr) (timeout : Duration) (before now : Instant)
      (named : IpAddr.parse operation.host = some ip) (plain : ip.isSpecial = false)
      (later : List (AdapterEvent NetworkDeed))
      (verified : later ≠ [] →
        site.outside.peerAddr (site.trace ++ [.reading before,
          .deed context (.connect ⟨ip, operation.port⟩ timeout), .reading now]) =
          some ⟨ip, operation.port⟩)
      (exchanges : Exchanges operation.request context later) :
      NetworkSegment site operation context
        (.reading before :: .deed context (.connect ⟨ip, operation.port⟩ timeout) ::
          .reading now :: .deed context .peerAddr :: later)

section exchange
variable {request : List UInt8} {out : Except NetworkAdapterError β ×
  Session NetworkAdapter NetworkOutside NetworkDeed}

theorem exchanges_nil : Exchanges request context [] := by
  intro deed member
  cases member

theorem Adds.exchange_reading (clock : Nat → Instant)
    (rest : Adds (Exchanges request context) (s.read clock) out) :
    Adds (Exchanges request context) s out :=
  .reading clock rest

theorem Adds.exchange_deed (deed : NetworkDeed) (fits : OnConnection request deed)
    (rest : Adds (Exchanges request context) (s.does context deed) out) :
    Adds (Exchanges request context) s out := by
  refine .deed context deed (rest.mono ?_)
  intro events each other member
  rcases List.mem_cons.mp member with rfl | member
  · exact ⟨rfl, fits⟩
  · exact each other member

theorem installTimeout_adds {configuredTimeout : Duration} (positive : 0 < configuredTimeout)
    {deed : Duration → NetworkDeed} (fits : ∀ timeout, OnConnection request (deed timeout))
    {installed : Option Duration} {f : Duration → NetworkM β}
    (continued : ∀ timeout t, Adds (Exchanges request context) t (exec (f timeout) t)) :
    Adds (Exchanges request context) s
      (exec (NetworkAdapter.installTimeout clock deed context configuredTimeout installed >>= f) s) := by
  unfold NetworkAdapter.installTimeout
  rw [bind_assoc]
  apply NetworkAdapter.effectiveTimeout_rule (P := Adds _ s) positive
  · exact .exchange_reading clock (adds_stop exchanges_nil)
  intro timeout _
  apply Adds.exchange_reading clock
  split
  · rw [bind_assoc, exec_bind_ok (exec_acts _ _ _ _), bind_assoc]
    apply Adds.exchange_deed (deed timeout) (fits timeout)
    apply NetworkAdapter.orIoFailure_rule (P := Adds _ _)
    · exact fun _ => .exchange_reading clock (adds_stop exchanges_nil)
    · exact fun _ _ => continued timeout _
  · exact continued timeout _

theorem writeRequest_adds {configuredTimeout : Duration} (positive : 0 < configuredTimeout)
    {f : Unit → NetworkM β}
    (continued : ∀ t, Adds (Exchanges request context) t (exec (f ()) t))
    (installed : Option Duration) (rest : List UInt8) (last : rest <:+ request)
    (s : Session NetworkAdapter NetworkOutside NetworkDeed) :
    Adds (Exchanges request context) s
      (exec (NetworkAdapter.writeRequest clock context configuredTimeout installed rest >>= f) s) := by
  induction size : rest.length using Nat.strongRecOn generalizing rest installed s with
  | _ size ih =>
    rw [NetworkAdapter.writeRequest]
    split
    · exact continued s
    rw [bind_assoc]
    apply installTimeout_adds positive
    · exact fun _ => trivial
    intro timeout t
    rw [bind_assoc, exec_bind_ok (exec_acts _ _ _ _), bind_assoc]
    apply Adds.exchange_deed (.write rest) last
    apply NetworkAdapter.orIoFailure_rule (P := Adds _ _)
    · exact fun _ => .exchange_reading clock (adds_stop exchanges_nil)
    intro written _
    split
    · exact adds_stop exchanges_nil
    · rename_i moved
      apply ih (rest.drop written).length _ _ _ ((List.drop_suffix _ _).trans last) _ rfl
      have positive : 0 < written.val := Fin.pos_iff_ne_zero.mpr moved
      have unfinished : 0 < rest.length := List.length_pos_iff.mpr (by assumption)
      rw [List.length_drop]
      omega

theorem readResponse_adds {configuredTimeout : Duration} (positive : 0 < configuredTimeout)
    {f : List UInt8 → NetworkM β}
    (continued : ∀ bytes t, Adds (Exchanges request context) t (exec (f bytes) t))
    (installed : Option Duration) (bytes : List UInt8)
    (s : Session NetworkAdapter NetworkOutside NetworkDeed) :
    Adds (Exchanges request context) s
      (exec (NetworkAdapter.readResponse clock context configuredTimeout installed bytes >>= f) s) := by
  induction room : maxTcpResponseBytes + 1 - bytes.length using Nat.strongRecOn
    generalizing bytes installed s with
  | _ room ih =>
    rw [NetworkAdapter.readResponse, bind_assoc]
    apply installTimeout_adds positive
    · exact fun _ => trivial
    intro timeout t
    rw [bind_assoc, exec_bind_ok (exec_acts _ _ _ _), bind_assoc]
    apply Adds.exchange_deed
      (.read (min (maxTcpResponseBytes + 1 - bytes.length) readBufferBytes)) trivial
    apply NetworkAdapter.orIoFailure_rule (P := Adds _ _)
    · exact fun _ => .exchange_reading clock (adds_stop exchanges_nil)
    intro chunk _
    split
    · rw [bind_assoc]
      apply NetworkAdapter.requireRemainingBudget_rule (P := Adds _ _)
      · exact .exchange_reading clock (adds_stop exchanges_nil)
      · exact .exchange_reading clock (continued bytes _)
    rename_i unfinished
    split
    · exact adds_stop exchanges_nil
    · apply ih _ _ _ _ _ rfl
      have more : 0 < chunk.val.length := List.length_pos_iff.mpr unfinished
      have within : chunk.val.length ≤ maxTcpResponseBytes + 1 - bytes.length :=
        Nat.le_trans chunk.property (Nat.min_le_left _ _)
      rw [List.length_append]
      omega

end exchange

theorem network_adds (operation : TcpExchangeOperation)
    (attached : operation.executionContext = some context) :
    Adds (NetworkSegment s.toSite operation context) s
      (exec (NetworkAdapter.execute clock operation) s) := by
  have positive := s.adapter.positive
  unfold NetworkAdapter.execute
  apply propagate_rule (P := Adds _ s)
  · intro e failed
    have valid := operation.valid
    rw [failed] at valid
    cases valid
  intro ip validated
  obtain ⟨_, _, _, named, plain⟩ := NetworkAdapter.validateOperation_ok.mp validated
  rw [exec_bind_ok (exec_okOr_found attached _ _), exec_bind_ok (exec_get _)]
  apply NetworkAdapter.effectiveTimeout_rule (P := Adds _ s) positive
  · exact .reading clock (adds_stop (.spent _))
  intro timeout _
  rw [exec_bind_ok (exec_acts _ _ _ _)]
  refine .reading clock (.deed context (.connect ⟨ip, operation.port⟩ timeout) ?_)
  apply NetworkAdapter.orIoFailure_rule (P := Adds _ _)
  · exact fun _ => .reading clock (adds_stop (.unconnected ip timeout _ _ named plain))
  intro _ _
  apply NetworkAdapter.requireRemainingBudget_rule (P := Adds _ _)
  · exact .reading clock (adds_stop (.unconnected ip timeout _ _ named plain))
  rw [exec_bind_ok (exec_acts _ _ _ _)]
  refine .reading clock (.deed context .peerAddr ?_)
  apply ensure_rule (P := Adds _ _)
  · intro _
    exact adds_stop (.connected ip timeout _ _ named plain [] (fun more => absurd rfl more)
      exchanges_nil)
  intro same
  have verified := of_decide_eq_true same
  refine Adds.mono ?_ (fun events exchanges => .connected ip timeout _ _ named plain events
    (fun _ => ?_) exchanges)
  · apply writeRequest_adds positive _ none operation.request (List.suffix_refl _)
    intro t
    apply NetworkAdapter.requireRemainingBudget_rule (P := Adds _ t)
    · exact .exchange_reading clock (adds_stop exchanges_nil)
    rw [exec_bind_ok (exec_acts _ _ _ _)]
    apply Adds.exchange_reading clock
    apply Adds.exchange_deed .shutdown trivial
    apply NetworkAdapter.orIoFailure_rule (P := Adds _ _)
    · exact fun _ => .exchange_reading clock (adds_stop exchanges_nil)
    intro _ _
    apply readResponse_adds positive _ none []
    exact fun _ _ => adds_stop exchanges_nil
  · rw [← verified]
    simp [Session.read, Session.does]

theorem network_confines :
    Confines TcpExchangeResponse NetworkAdapterError NetworkSegment :=
  fun _ _ operation _ _ attached => (network_adds operation attached).site

/-- Every connection of a run goes to the address that a granted host spells, at the granted port;
each execution starts one at most, and sends nothing but its request, to a verified peer. -/
theorem network_confined {S : Type} [LawfulEventStore S] {env : Env}
    (fresh : Function.Injective env.uuid) {origin : NetworkSite} (blank : origin.trace = [])
    {σ : System S NetworkSite TcpExchangeOperation} (served : System.Served env origin σ) :
    ∃ segments, σ.gate.adapter.trace = segments.flatten ∧
      Segments NetworkSegment σ.submitted origin σ.executed segments :=
  served_segments network_confines fresh blank served

def Sample.strangerSite : NetworkSite :=
  { networkSite with
    outside := ⟨fun _ => some (), fun _ => some ⟨.v4 0x7F000001, 81⟩, fun _ => none,
      fun _ _ => none, fun _ => none, fun _ _ => none⟩ }

set_option maxRecDepth 4000 in
/-- Nothing is sent to it. -/
theorem network_confined_stranger :
    (∃ segments, (Sample.served Sample.strangerSite Sample.networkActs).gate.adapter.trace =
        segments.flatten ∧
      Segments NetworkSegment
        (Sample.served Sample.strangerSite Sample.networkActs).submitted Sample.strangerSite
        (Sample.served Sample.strangerSite Sample.networkActs).executed segments) ∧
    (deedsOf (Sample.served Sample.strangerSite Sample.networkActs).gate.adapter.trace).map
        Prod.snd = [.connect ⟨.v4 0x7F000001, 80⟩ (10 ^ 9), .peerAddr] := by
  refine ⟨network_confined Sample.uuid_injective rfl (Sample.served_reached ?_), ?_⟩
  · decide +kernel
  · decide +kernel

end network

end AiOs
