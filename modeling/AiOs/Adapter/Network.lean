import AiOs.Adapter.Site

/-! The Network Adapter: one bounded TCP exchange with an explicit address. It connects, writes
the request, closes the write half and reads a bounded response; every wait has a time limit
from the configuration and from the wall time that is left. The peer and the kernel are the
outside. -/
namespace AiOs

open Fallible

def maxNetworkHostBytes : Nat := 253
def maxTcpRequestBytes : Nat := 64 * 1024
def maxTcpResponseBytes : Nat := 1024 * 1024
def maxNetworkTimeout : Duration := Duration.fromSecs 30
def readBufferBytes : Nat := 8 * 1024

inductive NetworkAdapterError where
  | invalidConfig
  | invalidOperation
  | unsupportedDestination
  | scopeMismatch
  | budgetExceeded
  | connectFailed
  | socketConfigurationFailed
  | peerMismatch
  | writeFailed
  | readFailed
  | responseTooLarge
  deriving DecidableEq, Repr

structure TcpExchangeResponse where
  bytes : List UInt8
  deriving DecidableEq, Repr

structure SocketAddr where
  ip : IpAddr
  port : UInt16
  deriving DecidableEq, Repr

/-- The configured time limit, as `NetworkAdapter::new` accepts it. -/
structure NetworkAdapter where
  timeout : Duration
  positive : 0 < timeout
  bounded : timeout ≤ maxNetworkTimeout
  deriving DecidableEq

inductive NetworkDeed where
  | connect (destination : SocketAddr) (timeout : Duration)
  | peerAddr
  | setWriteTimeout (timeout : Duration)
  | write (bytes : List UInt8)
  | shutdown
  | setReadTimeout (timeout : Duration)
  | read (limit : Nat)
  deriving DecidableEq, Repr

def NetworkDeed.timeout : NetworkDeed → Option Duration
  | .connect _ timeout | .setWriteTimeout timeout | .setReadTimeout timeout => some timeout
  | .peerAddr | .write _ | .shutdown | .read _ => none

/-- The connection and every time limit need a check. -/
instance : Checked NetworkDeed := ⟨fun deed => deed.timeout.isSome, NetworkDeed.timeout⟩

/-- How the outside answers, after all that has happened. Neither a write nor a read moves
more bytes than it was given room for. -/
structure NetworkOutside where
  connect : List (AdapterEvent NetworkDeed) → Option Unit
  peerAddr : List (AdapterEvent NetworkDeed) → Option SocketAddr
  setTimeout : List (AdapterEvent NetworkDeed) → Option Unit
  write : List (AdapterEvent NetworkDeed) → (limit : Nat) → Option (Fin (limit + 1))
  shutdown : List (AdapterEvent NetworkDeed) → Option Unit
  read : List (AdapterEvent NetworkDeed) → (limit : Nat) →
    Option { bytes : List UInt8 // bytes.length ≤ limit }

abbrev NetworkSite := Site NetworkAdapter NetworkOutside NetworkDeed

abbrev NetworkM := AdapterM NetworkAdapter NetworkOutside NetworkDeed NetworkAdapterError

namespace NetworkAdapter

def new (timeout : Duration) : Except NetworkAdapterError NetworkAdapter :=
  if accepted : 0 < timeout ∧ timeout ≤ maxNetworkTimeout then
    .ok ⟨timeout, accepted.1, accepted.2⟩
  else .error .invalidConfig

def validateOperation (host : String) (port : UInt16) (request : List UInt8) :
    Except NetworkAdapterError IpAddr :=
  if host.isEmpty || decide (maxNetworkHostBytes < host.utf8ByteSize) || port == 0
      || decide (maxTcpRequestBytes < request.length) then
    .error .invalidOperation
  else match IpAddr.parse host with
    | none => .error .unsupportedDestination
    | some ip =>
      if ip.isUnspecified || ip.isMulticast || ip == IpAddr.broadcast then
        .error .unsupportedDestination
      else .ok ip

end NetworkAdapter

/-- A prepared exchange. Only the catalog builds one, from values it has validated. -/
structure TcpExchangeOperation where
  host : String
  port : UInt16
  request : List UInt8
  executionContext : Option TaskExecutionContext
  valid : (NetworkAdapter.validateOperation host port request).isOk = true
  deriving DecidableEq

instance : ContextualOperation TcpExchangeOperation where
  capabilityRequest operation := .network operation.host .tcp operation.port
  executionContext := TcpExchangeOperation.executionContext
  attach context operation := { operation with executionContext := some context }
  executionContext_attach _ _ := rfl
  capabilityRequest_attach _ _ := rfl

/-- `NetworkCatalog::prepare_tcp_exchange` -/
def prepareTcpExchange (host : String) (port : UInt16) (request : List UInt8) :
    Except NetworkAdapterError TcpExchangeOperation :=
  match valid : NetworkAdapter.validateOperation host port request with
  | .error e => .error e
  | .ok _ => .ok ⟨host, port, request, none, by rw [valid]; rfl⟩

namespace NetworkAdapter
variable (clock : Nat → Instant)

def effectiveTimeout (context : TaskExecutionContext) (configuredTimeout : Duration) :
    NetworkM Duration := do
  let remaining ← remainingWallTime clock context
  ensure (decide (remaining ≠ 0)) .budgetExceeded
  pure (min remaining configuredTimeout)

def requireRemainingBudget (context : TaskExecutionContext) : NetworkM Unit := do
  let _ ← effectiveTimeout clock context maxNetworkTimeout

/-- `.map_err(|_| io_failure(context, fallback))?` -/
def orIoFailure {α : Type} (context : TaskExecutionContext) (fallback : NetworkAdapterError)
    (answer : Option α) : NetworkM α :=
  match answer with
  | some a => pure a
  | none => do
    let remaining ← remainingWallTime clock context
    throw (if remaining = 0 then .budgetExceeded else fallback)

/-- The time limit of the next wait, installed unless it is the installed one. -/
def installTimeout (deed : Duration → NetworkDeed) (context : TaskExecutionContext)
    (configuredTimeout : Duration) (installed : Option Duration) : NetworkM Duration := do
  let timeout ← effectiveTimeout clock context configuredTimeout
  if installed ≠ some timeout then
    let answer ← acts context (deed timeout) NetworkOutside.setTimeout
    orIoFailure clock context .socketConfigurationFailed answer
  pure timeout

/-- The loop of `write_request`, on the bytes that are left. -/
def writeRequest (context : TaskExecutionContext) (configuredTimeout : Duration)
    (installed : Option Duration) (rest : List UInt8) : NetworkM Unit :=
  if rest = [] then pure ()
  else do
    let timeout ← installTimeout clock .setWriteTimeout context configuredTimeout installed
    let answer ← acts context (.write rest) (fun outside trace => outside.write trace rest.length)
    let written ← orIoFailure clock context .writeFailed answer
    if _nothing : written = 0 then throw .writeFailed
    else writeRequest context configuredTimeout (some timeout) (rest.drop written)
termination_by rest.length
decreasing_by
  have moved : 0 < written.val := Fin.pos_iff_ne_zero.mpr _nothing
  rw [List.length_drop]
  omega

/-- The loop of `read_response`, on the bytes that were read. -/
def readResponse (context : TaskExecutionContext) (configuredTimeout : Duration)
    (installed : Option Duration) (bytes : List UInt8) : NetworkM (List UInt8) := do
  let timeout ← installTimeout clock .setReadTimeout context configuredTimeout installed
  let readLimit := min (maxTcpResponseBytes + 1 - bytes.length) readBufferBytes
  let answer ← acts context (.read readLimit) (fun outside trace => outside.read trace readLimit)
  let chunk ← orIoFailure clock context .readFailed answer
  if _finished : chunk.val = [] then
    requireRemainingBudget clock context
    pure bytes
  else if maxTcpResponseBytes < (bytes ++ chunk.val).length then throw .responseTooLarge
  else readResponse context configuredTimeout (some timeout) (bytes ++ chunk.val)
termination_by maxTcpResponseBytes + 1 - bytes.length
decreasing_by
  have more : 0 < chunk.val.length := List.length_pos_iff.mpr _finished
  have within : chunk.val.length ≤ maxTcpResponseBytes + 1 - bytes.length :=
    Nat.le_trans chunk.property (Nat.min_le_left _ _)
  rw [List.length_append]
  omega

def execute (operation : TcpExchangeOperation) : NetworkM TcpExchangeResponse := do
  let ip ← propagate (validateOperation operation.host operation.port operation.request)
  let context ← okOr operation.executionContext .scopeMismatch
  let destination : SocketAddr := ⟨ip, operation.port⟩
  let s ← get
  let connectTimeout ← effectiveTimeout clock context s.adapter.timeout
  let answer ← acts context (.connect destination connectTimeout) NetworkOutside.connect
  orIoFailure clock context .connectFailed answer
  requireRemainingBudget clock context
  let peer ← acts context .peerAddr NetworkOutside.peerAddr
  ensure (decide (peer = some destination)) .peerMismatch
  writeRequest clock context s.adapter.timeout none operation.request
  requireRemainingBudget clock context
  let answer ← acts context .shutdown NetworkOutside.shutdown
  orIoFailure clock context .writeFailed answer
  let bytes ← readResponse clock context s.adapter.timeout none []
  pure ⟨bytes⟩

end NetworkAdapter

instance : ExecutionAdapter NetworkSite TcpExchangeOperation TcpExchangeResponse
    NetworkAdapterError :=
  ⟨fun clock site operation reads => site.run (NetworkAdapter.execute clock operation) reads⟩

namespace NetworkAdapter
variable {clock : Nat → Instant} {context : TaskExecutionContext} {β : Type}
  {s : Session NetworkAdapter NetworkOutside NetworkDeed}
  {P : Except NetworkAdapterError β × Session NetworkAdapter NetworkOutside NetworkDeed → Prop}

/-- A time limit that a check allows is positive, configured and left. -/
def Allowed (context : TaskExecutionContext) (configuredTimeout timeout : Duration)
    (now : Instant) : Prop :=
  now < context.deadline ∧ 0 < timeout ∧ timeout ≤ configuredTimeout ∧
    timeout ≤ context.remainingWallTime now

theorem effectiveTimeout_rule {configuredTimeout : Duration} (positive : 0 < configuredTimeout)
    {f : Duration → NetworkM β} (spent : P (.error .budgetExceeded, s.read clock))
    (early : ∀ timeout, Allowed context configuredTimeout timeout (clock s.reads) →
      P (exec (f timeout) (s.read clock))) :
    P (exec (effectiveTimeout clock context configuredTimeout >>= f) s) := by
  unfold effectiveTimeout
  rw [bind_assoc, exec_bind_ok (exec_remainingWallTime clock context s), bind_assoc]
  apply ensure_rule
  · exact fun _ => spent
  intro left
  have left := of_decide_eq_true left
  exact early _ ⟨TaskExecutionContext.before_deadline left,
    Nat.lt_min.mpr ⟨Nat.pos_of_ne_zero left, positive⟩, Nat.min_le_right _ _,
    Nat.min_le_left _ _⟩

theorem requireRemainingBudget_rule {f : Unit → NetworkM β}
    (spent : P (.error .budgetExceeded, s.read clock)) (early : P (exec (f ()) (s.read clock))) :
    P (exec (requireRemainingBudget clock context >>= f) s) := by
  unfold requireRemainingBudget
  rw [bind_assoc]
  apply effectiveTimeout_rule (by decide)
  · exact spent
  · exact fun _ _ => early

theorem orIoFailure_rule {α : Type} {fallback : NetworkAdapterError} {answer : Option α}
    {f : α → NetworkM β} (failed : ∀ error, P (.error error, s.read clock))
    (answered : ∀ a, answer = some a → P (exec (f a) s)) :
    P (exec (orIoFailure clock context fallback answer >>= f) s) := by
  cases answer with
  | none => exact failed _
  | some a => exact answered a rfl

section fit
variable {admits : TaskExecutionContext → NetworkDeed → Instant → Prop}
  {configuredTimeout : Duration}

/-- A timely trace, and the time limit still as configured. -/
def Fit (admits : TaskExecutionContext → NetworkDeed → Instant → Prop)
    (configuredTimeout : Duration) (s : Session NetworkAdapter NetworkOutside NetworkDeed) :
    Prop :=
  s.Timely admits ∧ s.adapter.timeout = configuredTimeout

def LeavesFit (admits : TaskExecutionContext → NetworkDeed → Instant → Prop)
    (configuredTimeout : Duration)
    (out : Except NetworkAdapterError β × Session NetworkAdapter NetworkOutside NetworkDeed) :
    Prop :=
  Fit admits configuredTimeout out.2

theorem Fit.read (fit : Fit admits configuredTimeout s) (clock : Nat → Instant) :
    Fit admits configuredTimeout (s.read clock) :=
  ⟨Session.timely_read fit.1 clock, fit.2⟩

theorem Fit.free (fit : Fit admits configuredTimeout s) (context : TaskExecutionContext)
    (deed : NetworkDeed) (free : deed.timeout = none) :
    Fit admits configuredTimeout (s.does context deed) :=
  ⟨Session.timely_free fit.1 context deed (congrArg Option.isSome free), fit.2⟩

theorem Fit.checked (fit : Fit admits configuredTimeout (s.read clock))
    (within : ∀ deed now, WithinBudget configuredTimeout context deed now →
      admits context deed now) {timeout : Duration}
    (allowed : Allowed context configuredTimeout timeout (clock s.reads)) {deed : NetworkDeed}
    (installs : deed.timeout = some timeout) :
    Fit admits configuredTimeout ((s.read clock).does context deed) := by
  refine ⟨Session.timely_checked fit.1 (within deed _ ⟨allowed.1, ?_⟩), fit.2⟩
  intro other same
  cases installs.symm.trans same
  exact allowed.2

/-- The rule for the head of both loops. -/
theorem installTimeout_fit (positive : 0 < configuredTimeout)
    {deed : Duration → NetworkDeed} (installs : ∀ timeout, (deed timeout).timeout = some timeout)
    (within : ∀ deed now, WithinBudget configuredTimeout context deed now →
      admits context deed now)
    {installed : Option Duration} {f : Duration → NetworkM β} (fit : Fit admits configuredTimeout s)
    (continued : ∀ timeout t, Fit admits configuredTimeout t → LeavesFit admits configuredTimeout (exec (f timeout) t)) :
    LeavesFit admits configuredTimeout
      (exec (installTimeout clock deed context configuredTimeout installed >>= f) s) := by
  have read := fit.read clock
  unfold installTimeout
  rw [bind_assoc]
  apply effectiveTimeout_rule (P := LeavesFit admits configuredTimeout) positive
  · exact read
  intro timeout allowed
  split
  · have set := read.checked within allowed (installs timeout)
    rw [bind_assoc, exec_bind_ok (exec_acts _ _ _ _), bind_assoc]
    apply orIoFailure_rule (P := LeavesFit admits configuredTimeout)
    · exact fun _ => set.read clock
    · exact fun _ _ => continued timeout _ set
  · exact continued timeout _ read

theorem writeRequest_fit (positive : 0 < configuredTimeout)
    (within : ∀ deed now, WithinBudget configuredTimeout context deed now →
      admits context deed now)
    {f : Unit → NetworkM β}
    (continued : ∀ t, Fit admits configuredTimeout t → LeavesFit admits configuredTimeout (exec (f ()) t))
    (installed : Option Duration) (rest : List UInt8)
    (s : Session NetworkAdapter NetworkOutside NetworkDeed) (fit : Fit admits configuredTimeout s) :
    LeavesFit admits configuredTimeout
      (exec (writeRequest clock context configuredTimeout installed rest >>= f) s) := by
  induction size : rest.length using Nat.strongRecOn generalizing rest installed s with
  | _ size ih =>
    rw [writeRequest]
    split
    · exact continued s fit
    rename_i unfinished
    rw [bind_assoc]
    apply installTimeout_fit positive (fun _ => rfl) within fit
    intro timeout t fit
    have wrote := fit.free context (.write rest) rfl
    rw [bind_assoc, exec_bind_ok (exec_acts _ _ _ _), bind_assoc]
    apply orIoFailure_rule (P := LeavesFit admits configuredTimeout)
    · exact fun _ => wrote.read clock
    intro written _
    split
    · exact wrote
    · rename_i moved
      apply ih (rest.drop written).length _ _ _ _ wrote rfl
      have positive : 0 < written.val := Fin.pos_iff_ne_zero.mpr moved
      rw [List.length_drop]
      omega

theorem readResponse_fit (positive : 0 < configuredTimeout)
    (within : ∀ deed now, WithinBudget configuredTimeout context deed now →
      admits context deed now)
    {f : List UInt8 → NetworkM β}
    (continued : ∀ bytes t, Fit admits configuredTimeout t → LeavesFit admits configuredTimeout (exec (f bytes) t))
    (installed : Option Duration) (bytes : List UInt8)
    (s : Session NetworkAdapter NetworkOutside NetworkDeed) (fit : Fit admits configuredTimeout s) :
    LeavesFit admits configuredTimeout
      (exec (readResponse clock context configuredTimeout installed bytes >>= f) s) := by
  induction room : maxTcpResponseBytes + 1 - bytes.length using Nat.strongRecOn
    generalizing bytes installed s with
  | _ room ih =>
    rw [readResponse, bind_assoc]
    apply installTimeout_fit positive (fun _ => rfl) within fit
    intro timeout t fit
    rw [bind_assoc, exec_bind_ok (exec_acts _ _ _ _), bind_assoc]
    have asked := fit.free context
      (.read (min (maxTcpResponseBytes + 1 - bytes.length) readBufferBytes)) rfl
    apply orIoFailure_rule (P := LeavesFit admits configuredTimeout)
    · exact fun _ => asked.read clock
    intro chunk _
    split
    · rw [bind_assoc]
      have checked := asked.read clock
      apply requireRemainingBudget_rule (P := LeavesFit admits configuredTimeout)
      · exact checked
      · exact continued bytes _ checked
    rename_i unfinished
    split
    · exact asked
    · apply ih _ _ _ _ _ asked rfl
      have more : 0 < chunk.val.length := List.length_pos_iff.mpr unfinished
      have fits : chunk.val.length ≤ maxTcpResponseBytes + 1 - bytes.length :=
        Nat.le_trans chunk.property (Nat.min_le_left _ _)
      rw [List.length_append]
      omega

theorem execute_fit (operation : TcpExchangeOperation)
    (attached : operation.executionContext = some context)
    (within : ∀ deed now, WithinBudget s.adapter.timeout context deed now →
      admits context deed now) (timely : s.Timely admits) :
    LeavesFit admits s.adapter.timeout (exec (execute clock operation) s) := by
  have fit : Fit admits s.adapter.timeout s := ⟨timely, rfl⟩
  have positive := s.adapter.positive
  unfold execute
  apply propagate_rule (P := LeavesFit admits s.adapter.timeout)
  · exact fun _ _ => fit
  intro ip _
  rw [exec_bind_ok (exec_okOr_found attached _ _), exec_bind_ok (exec_get _)]
  have first := fit.read clock
  apply effectiveTimeout_rule (P := LeavesFit admits s.adapter.timeout) positive
  · exact first
  intro timeout allowed
  rw [exec_bind_ok (exec_acts _ _ _ _)]
  have connected : Fit admits _ ((s.read clock).does context
      (.connect ⟨ip, operation.port⟩ timeout)) := first.checked within allowed rfl
  apply orIoFailure_rule (P := LeavesFit admits s.adapter.timeout)
  · exact fun _ => connected.read clock
  intro _ _
  have second := connected.read clock
  apply requireRemainingBudget_rule (P := LeavesFit admits s.adapter.timeout)
  · exact second
  rw [exec_bind_ok (exec_acts _ _ _ _)]
  have asked := second.free context .peerAddr rfl
  apply ensure_rule (P := LeavesFit admits s.adapter.timeout)
  · exact fun _ => asked
  intro _
  apply writeRequest_fit positive within _ none operation.request _ asked
  intro t written
  have third := written.read clock
  apply requireRemainingBudget_rule (P := LeavesFit admits s.adapter.timeout)
  · exact third
  rw [exec_bind_ok (exec_acts _ _ _ _)]
  have closed := third.free context .shutdown rfl
  apply orIoFailure_rule (P := LeavesFit admits s.adapter.timeout)
  · exact fun _ => closed.read clock
  intro _ _
  apply readResponse_fit positive within _ none [] _ closed
  exact fun _ _ read => read

end fit

theorem execute_spent (operation : TcpExchangeOperation)
    (attached : operation.executionContext = some context)
    (late : context.deadline ≤ clock s.reads) :
    exec (execute clock operation) s = (.error .budgetExceeded, s.read clock) := by
  unfold execute
  apply propagate_rule (P := fun out => out = (Except.error NetworkAdapterError.budgetExceeded, s.read clock))
  · intro e failed
    have valid := operation.valid
    rw [failed] at valid
    cases valid
  intro ip _
  rw [exec_bind_ok (exec_okOr_found attached _ _), exec_bind_ok (exec_get _)]
  apply effectiveTimeout_rule (P := fun out => out = (Except.error NetworkAdapterError.budgetExceeded, s.read clock))
    s.adapter.positive
  · rfl
  · intro timeout allowed
    exact absurd allowed.1 (Nat.not_lt.mpr late)

end NetworkAdapter

theorem network_respects_wall_time :
    RespectsWallTime NetworkOutside NetworkDeed TcpExchangeOperation NetworkAdapter.timeout
      NetworkAdapterError.budgetExceeded where
  timely _ _ operation _ _ _ attached within timely :=
    NetworkAdapter.execute_fit operation attached within timely
  spent clock site operation reads context attached late := by
    change Site.run site (NetworkAdapter.execute clock operation) reads = _
    rw [Site.run, NetworkAdapter.execute_spent operation attached late]
    rfl

end AiOs
