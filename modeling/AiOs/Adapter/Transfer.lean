import AiOs.Adapter.Network

/-! The two loops of a TCP exchange are exact, however the socket splits the bytes. A run is read
off its trace: it consists of rounds, each with a reading of the clock within the Budget and one
transfer, and of an end without a transfer. -/
namespace AiOs.NetworkAdapter

open Fallible Timed

abbrev NetworkEvent := AdapterEvent NetworkDeed

abbrev NetworkSession := Session NetworkAdapter NetworkOutside NetworkDeed

def isReading : NetworkEvent → Bool
  | .reading _ => true
  | .deed .. => false

def isTransfer : NetworkEvent → Bool
  | .deed _ (.read _) | .deed _ (.write _) => true
  | _ => false

@[simp] theorem isTransfer_reading (now : Instant) : isTransfer (.reading now) = false := rfl

def after (s : NetworkSession) (events : List NetworkEvent) : NetworkSession :=
  { s with trace := s.trace ++ events, reads := s.reads + events.countP isReading }

theorem after_nil (s : NetworkSession) : after s [] = s := by
  simp [after]

theorem after_after (s : NetworkSession) (first second : List NetworkEvent) :
    after (after s first) second = after s (first ++ second) := by
  simp [after, Nat.add_assoc]

theorem does_eq_after (s : NetworkSession) (context : TaskExecutionContext) (deed : NetworkDeed) :
    s.does context deed = after s [.deed context deed] := rfl

section bytes
variable (moved : List NetworkEvent → NetworkEvent → List UInt8)

/-- The bytes that the events moved, where each is asked with all that came before. -/
def gather (origin : List NetworkEvent) : List NetworkEvent → List UInt8
  | [] => []
  | event :: rest => moved origin event ++ gather (origin ++ [event]) rest

theorem gather_append (origin first second : List NetworkEvent) :
    gather moved origin (first ++ second) =
      gather moved origin first ++ gather moved (origin ++ first) second := by
  induction first generalizing origin with
  | nil => simp [gather]
  | cons event rest ih => simp [gather, ih]

end bytes

def arriving (outside : NetworkOutside) (before : List NetworkEvent) : NetworkEvent → List UInt8
  | .deed _ (.read limit) =>
    match outside.read before limit with
    | some bytes => bytes.val
    | none => []
  | _ => []

def leaving (outside : NetworkOutside) (before : List NetworkEvent) : NetworkEvent → List UInt8
  | .deed _ (.write bytes) =>
    match outside.write before bytes.length with
    | some written => bytes.take written
    | none => []
  | _ => []

def received (outside : NetworkOutside) : List NetworkEvent → List NetworkEvent → List UInt8 :=
  gather (arriving outside)

def sent (outside : NetworkOutside) : List NetworkEvent → List NetworkEvent → List UInt8 :=
  gather (leaving outside)

/-- From `origin` on, reads that succeed deliver a stream in order. A read with room for a byte
brings none only at the end. -/
def Serves (outside : NetworkOutside) (origin : List NetworkEvent) (stream : List UInt8) : Prop :=
  ∀ events limit bytes, outside.read (origin ++ events) limit = some bytes →
    bytes.val <+: stream.drop (received outside origin events).length ∧
      (bytes.val = [] → 0 < limit → stream.length ≤ (received outside origin events).length)

section rounds
variable (context : TaskExecutionContext) (install : Duration → NetworkDeed)

/-- The head of a round: a reading within the Budget, and a time limit where it is a new one. -/
inductive Heads : List NetworkEvent → Prop where
  | kept {now : Instant} (left : context.remainingWallTime now ≠ 0) : Heads [.reading now]
  | set {now : Instant} {timeout : Duration} (left : context.remainingWallTime now ≠ 0) :
      Heads [.reading now, .deed context (install timeout)]

/-- Rounds with one admitted transfer each, and an end without one. -/
inductive Rounds (admits : List NetworkEvent → NetworkDeed → Prop) :
    List NetworkEvent → List NetworkEvent → Prop where
  | done {before idle : List NetworkEvent} (quiet : ∀ event ∈ idle, isTransfer event = false) :
      Rounds admits before idle
  | round {before head rest : List NetworkEvent} {deed : NetworkDeed}
      (heads : Heads context install head) (admitted : admits (before ++ head) deed)
      (others : Rounds admits (before ++ head ++ [.deed context deed]) rest) :
      Rounds admits before (head ++ .deed context deed :: rest)

end rounds

/-- Why a loop gives up. -/
inductive Excused (clock : Nat → Instant) (context : TaskExecutionContext)
    (outside : NetworkOutside) (reads : Nat) : NetworkAdapterError → Prop where
  | spent {n : Nat} (later : reads ≤ n) (gone : context.remainingWallTime (clock n) = 0) :
      Excused clock context outside reads .budgetExceeded
  | unset {trace : List NetworkEvent} (refused : outside.setTimeout trace = none) :
      Excused clock context outside reads .socketConfigurationFailed
  | unread {trace : List NetworkEvent} {limit : Nat} (refused : outside.read trace limit = none) :
      Excused clock context outside reads .readFailed
  | unwritten {trace : List NetworkEvent} {limit : Nat} (offered : 0 < limit)
      (refused : ∀ written, outside.write trace limit = some written → written = 0) :
      Excused clock context outside reads .writeFailed

theorem Excused.mono {clock : Nat → Instant} {context : TaskExecutionContext}
    {outside : NetworkOutside} {reads later : Nat} {error : NetworkAdapterError}
    (excused : Excused clock context outside later error) (le : reads ≤ later) :
    Excused clock context outside reads error := by
  cases excused with
  | spent after gone => exact .spent (Nat.le_trans le after) gone
  | unset refused => exact .unset refused
  | unread refused => exact .unread refused
  | unwritten offered refused => exact .unwritten offered refused

section steps
variable {clock : Nat → Instant} {context : TaskExecutionContext} {configuredTimeout : Duration}

theorem exec_orIoFailure_none {α : Type} (fallback : NetworkAdapterError) (s : NetworkSession) :
    exec (orIoFailure clock context fallback (none : Option α)) s =
      (.error (if context.remainingWallTime (clock s.reads) = 0 then .budgetExceeded else fallback),
        after s [.reading (clock s.reads)]) := rfl

theorem exec_orIoFailure_some {α : Type} (fallback : NetworkAdapterError) (a : α)
    (s : NetworkSession) :
    exec (orIoFailure clock context fallback (some a)) s = (.ok a, s) := rfl

/-- The reading that follows a failure may itself be the failure. -/
theorem Excused.fallback {outside : NetworkOutside} {reads n : Nat} {fallback : NetworkAdapterError}
    (excused : Excused clock context outside reads fallback) (later : reads ≤ n) :
    Excused clock context outside reads
      (if context.remainingWallTime (clock n) = 0 then .budgetExceeded else fallback) := by
  split
  · rename_i gone
    exact .spent later gone
  · exact excused

theorem exec_effectiveTimeout_spent {s : NetworkSession}
    (gone : context.remainingWallTime (clock s.reads) = 0) :
    exec (effectiveTimeout clock context configuredTimeout) s =
      (.error .budgetExceeded, after s [.reading (clock s.reads)]) := by
  unfold effectiveTimeout
  rw [exec_bind_ok (exec_remainingWallTime clock context s)]
  apply ensure_rule (P := fun out => out = _)
  · exact fun _ => rfl
  · intro left
    exact absurd gone (of_decide_eq_true left)

theorem exec_effectiveTimeout_left {s : NetworkSession}
    (left : context.remainingWallTime (clock s.reads) ≠ 0) :
    exec (effectiveTimeout clock context configuredTimeout) s =
      (.ok (min (context.remainingWallTime (clock s.reads)) configuredTimeout),
        after s [.reading (clock s.reads)]) := by
  unfold effectiveTimeout
  rw [exec_bind_ok (exec_remainingWallTime clock context s)]
  apply ensure_rule (P := fun out => out = _)
  · intro gone
    exact absurd left (of_decide_eq_false gone)
  · exact fun _ => rfl

theorem installTimeout_cases {install : Duration → NetworkDeed}
    (limits : ∀ timeout, isTransfer (.deed context (install timeout)) = false)
    (installed : Option Duration) (s : NetworkSession) :
    (∃ head timeout, Heads context install head ∧
      exec (installTimeout clock install context configuredTimeout installed) s =
        (.ok timeout, after s head)) ∨
    ∃ idle error, (∀ event ∈ idle, isTransfer event = false) ∧
      Excused clock context s.outside s.reads error ∧
      exec (installTimeout clock install context configuredTimeout installed) s =
        (.error error, after s idle) := by
  unfold installTimeout
  by_cases gone : context.remainingWallTime (clock s.reads) = 0
  · rw [exec_bind_error (exec_effectiveTimeout_spent gone)]
    exact .inr ⟨_, _, by simp, .spent (Nat.le_refl _) gone, rfl⟩
  rw [exec_bind_ok (exec_effectiveTimeout_left gone)]
  generalize min (context.remainingWallTime (clock s.reads)) configuredTimeout = timeout
  split
  · rw [exec_bind_ok (exec_acts _ _ _ _), does_eq_after, after_after]
    cases answer : (after s [.reading (clock s.reads)]).outside.setTimeout
      (after s [.reading (clock s.reads)]).trace with
    | some u => exact .inl ⟨_, timeout, .set gone, rfl⟩
    | none =>
      rw [exec_bind_error (exec_orIoFailure_none _ _), after_after]
      have excused : Excused clock context s.outside s.reads .socketConfigurationFailed :=
        .unset answer
      refine .inr ⟨_, _, ?_, excused.fallback (Nat.le_add_right _ _), rfl⟩
      simp [limits timeout]
  · exact .inl ⟨_, timeout, .kept gone, rfl⟩

theorem Heads.gather_eq_nil {install : Duration → NetworkDeed} {head : List NetworkEvent}
    (heads : Heads context install head) {moved : List NetworkEvent → NetworkEvent → List UInt8}
    (reading : ∀ before now, moved before (.reading now) = [])
    (limit : ∀ before timeout, moved before (.deed context (install timeout)) = [])
    (origin : List NetworkEvent) : gather moved origin head = [] := by
  cases heads <;> simp [gather, reading, limit]

theorem Heads.no_transfer {install : Duration → NetworkDeed} {head : List NetworkEvent}
    (heads : Heads context install head)
    (limits : ∀ timeout, isTransfer (.deed context (install timeout)) = false) :
    head.countP isTransfer = 0 := by
  cases heads <;> simp [limits]

theorem Heads.count_round {install : Duration → NetworkDeed} {head : List NetworkEvent}
    (heads : Heads context install head)
    (limits : ∀ timeout, isTransfer (.deed context (install timeout)) = false)
    {deed : NetworkDeed} (transfer : isTransfer (.deed context deed) = true)
    (rest : List NetworkEvent) :
    (head ++ .deed context deed :: rest).countP isTransfer = rest.countP isTransfer + 1 := by
  rw [List.countP_append, heads.no_transfer limits, List.countP_cons_of_pos transfer, Nat.zero_add]

end steps

section reading
variable {clock : Nat → Instant} {context : TaskExecutionContext} {configuredTimeout : Duration}

/-- A read is made with room for at least one byte and for at most one byte too much. -/
def OffersRead (outside : NetworkOutside) (origin before : List NetworkEvent)
    (deed : NetworkDeed) : Prop :=
  ∃ limit, deed = .read limit ∧ (received outside origin before).length ≤ maxTcpResponseBytes ∧
    limit = min (maxTcpResponseBytes + 1 - (received outside origin before).length)
      readBufferBytes ∧ 0 < limit

/-- How the read loop ends: with the whole stream after one more reading within the Budget, with
one byte too much, or with an excuse. -/
inductive ReadEnds (clock : Nat → Instant) (context : TaskExecutionContext)
    (outside : NetworkOutside) (reads : Nat) (origin events : List NetworkEvent)
    (stream : List UInt8) :
    Except NetworkAdapterError (List UInt8) → List NetworkEvent → Prop where
  | complete {earlier : List NetworkEvent} {limit : Nat} {now : Instant}
      (small : stream.length ≤ maxTcpResponseBytes)
      (left : context.remainingWallTime now ≠ 0) :
      ReadEnds clock context outside reads origin events stream (.ok stream)
        (earlier ++ [.deed context (.read limit), .reading now])
  | tooLarge {more : List NetworkEvent}
      (exceeded : (received outside origin (events ++ more)).length = maxTcpResponseBytes + 1)
      (start : received outside origin (events ++ more) <+: stream) :
      ReadEnds clock context outside reads origin events stream (.error .responseTooLarge) more
  | excused {error : NetworkAdapterError} {more : List NetworkEvent}
      (excuse : Excused clock context outside reads error) :
      ReadEnds clock context outside reads origin events stream (.error error) more

theorem ReadEnds.after_round {outside : NetworkOutside} {reads later : Nat}
    {origin events first more : List NetworkEvent} {stream : List UInt8}
    {result : Except NetworkAdapterError (List UInt8)}
    (ends : ReadEnds clock context outside later origin (events ++ first) stream result more)
    (le : reads ≤ later) :
    ReadEnds clock context outside reads origin events stream result (first ++ more) := by
  cases ends with
  | complete small left =>
    rw [← List.append_assoc]
    exact .complete small left
  | tooLarge exceeded start =>
    rw [List.append_assoc] at exceeded start
    exact .tooLarge exceeded start
  | excused excuse => exact .excused (excuse.mono le)

theorem received_head {outside : NetworkOutside} {origin before head : List NetworkEvent}
    (heads : Heads context .setReadTimeout head) :
    received outside origin (before ++ head) = received outside origin before := by
  rw [received, gather_append, heads.gather_eq_nil (fun _ _ => rfl) (fun _ _ => rfl),
    List.append_nil]

theorem received_read {outside : NetworkOutside} {origin before : List NetworkEvent} {limit : Nat}
    {chunk : { bytes : List UInt8 // bytes.length ≤ limit }}
    (answer : outside.read (origin ++ before) limit = some chunk) :
    received outside origin (before ++ [.deed context (.read limit)]) =
      received outside origin before ++ chunk.val := by
  unfold received
  rw [gather_append]
  simp only [gather, arriving, answer, List.append_nil]

theorem readResponse_run {outside : NetworkOutside} {origin : List NetworkEvent}
    {stream : List UInt8} (serves : Serves outside origin stream) (installed : Option Duration)
    (bytes : List UInt8) (s : NetworkSession) (events : List NetworkEvent)
    (same : s.outside = outside) (trace : s.trace = origin ++ events)
    (held : received outside origin events = bytes) (room : bytes.length ≤ maxTcpResponseBytes)
    (start : bytes <+: stream) :
    ∃ more, (exec (readResponse clock context configuredTimeout installed bytes) s).2 =
        after s more ∧
      Rounds context .setReadTimeout (OffersRead outside origin) events more ∧
      more.countP isTransfer ≤ maxTcpResponseBytes + 1 - bytes.length ∧
      ReadEnds clock context outside s.reads origin events stream
        (exec (readResponse clock context configuredTimeout installed bytes) s).1 more := by
  induction size : maxTcpResponseBytes + 1 - bytes.length using Nat.strongRecOn
    generalizing bytes installed s events with
  | _ most ih =>
    subst size
    have limits : ∀ timeout, isTransfer (.deed context (.setReadTimeout timeout)) = false :=
      fun _ => rfl
    rw [readResponse]
    rcases installTimeout_cases limits installed s with
      ⟨head, timeout, heads, done⟩ | ⟨idle, error, quiet, excused, failed⟩
    · rw [exec_bind_ok done, exec_bind_ok (exec_acts _ _ _ _), does_eq_after, after_after]
      have offer : ∃ limit, min (maxTcpResponseBytes + 1 - bytes.length) readBufferBytes = limit ∧
          0 < limit ∧ limit ≤ maxTcpResponseBytes + 1 - bytes.length := by
        refine ⟨_, rfl, ?_, Nat.min_le_left _ _⟩
        have buffer : 0 < readBufferBytes := by decide
        omega
      obtain ⟨limit, offered, positive, within⟩ := offer
      have held_head : received outside origin (events ++ head) = bytes := by
        rw [received_head heads, held]
      have admitted : OffersRead outside origin (events ++ head) (.read limit) :=
        ⟨limit, rfl, held_head ▸ room, held_head ▸ offered.symm, positive⟩
      have transfer : isTransfer (.deed context (.read limit)) = true := rfl
      have asked : (after s head).outside.read (after s head).trace limit =
          outside.read (origin ++ (events ++ head)) limit := by
        change s.outside.read (s.trace ++ head) limit = _
        rw [same, trace, List.append_assoc]
      rw [offered, asked]
      cases answer : outside.read (origin ++ (events ++ head)) limit with
      | none =>
        rw [exec_bind_error (exec_orIoFailure_none _ _), after_after]
        have excused : Excused clock context outside s.reads .readFailed := .unread answer
        refine ⟨_, rfl, ?_, ?_, .excused (excused.fallback (Nat.le_add_right _ _))⟩
        · rw [List.append_assoc]
          exact .round heads admitted (.done (by simp))
        · rw [List.append_assoc, List.singleton_append, heads.count_round limits transfer,
            List.countP_singleton]
          exact Nat.le_trans positive within
      | some chunk =>
        rw [exec_bind_ok (exec_orIoFailure_some _ _ _)]
        obtain ⟨next, ended⟩ := serves (events ++ head) limit chunk answer
        rw [held_head] at next ended
        have fits := chunk.property
        have got : received outside origin (events ++ head ++ [.deed context (.read limit)]) =
            bytes ++ chunk.val := by
          rw [received_read answer, held_head]
        have begun : bytes ++ chunk.val <+: stream := by
          obtain ⟨rest, rfl⟩ := start
          rw [List.drop_left] at next
          exact (List.prefix_append_right_inj bytes).mpr next
        split
        · rename_i finished
          have whole : bytes = stream := start.eq_of_length_le (ended finished positive)
          by_cases gone : context.remainingWallTime
              (clock (after s (head ++ [.deed context (.read limit)])).reads) = 0
          · have spent : exec (requireRemainingBudget clock context)
                (after s (head ++ [.deed context (.read limit)])) = _ :=
              exec_bind_error (exec_effectiveTimeout_spent gone)
            rw [exec_bind_error spent, after_after, List.append_assoc, List.singleton_append]
            refine ⟨_, rfl, .round heads admitted (.done (by simp)), ?_,
              .excused (.spent (Nat.le_add_right _ _) gone)⟩
            rw [heads.count_round limits transfer, List.countP_singleton]
            exact Nat.le_trans positive within
          · have checked : exec (requireRemainingBudget clock context)
                (after s (head ++ [.deed context (.read limit)])) = _ :=
              exec_bind_ok (exec_effectiveTimeout_left gone)
            rw [exec_bind_ok checked, exec_pure, after_after, List.append_assoc,
              List.singleton_append]
            refine ⟨_, rfl, .round heads admitted (.done (by simp)), ?_, ?_⟩
            · rw [heads.count_round limits transfer, List.countP_singleton]
              exact Nat.le_trans positive within
            · rw [whole]
              exact .complete (whole ▸ room) gone
        · rename_i more
          have some_byte : 0 < chunk.val.length := List.length_pos_iff.mpr more
          split
          · rename_i exceeded
            rw [exec_throw]
            refine ⟨_, rfl, .round heads admitted (.done (by simp)), ?_, .tooLarge ?_ ?_⟩
            · rw [heads.count_round limits transfer, List.countP_nil]
              exact Nat.le_trans positive within
            · rw [← List.append_assoc, got]
              rw [List.length_append] at exceeded ⊢
              omega
            · rw [← List.append_assoc, got]
              exact begun
          · rename_i inside
            have shorter : maxTcpResponseBytes + 1 - (bytes ++ chunk.val).length <
                maxTcpResponseBytes + 1 - bytes.length := by
              rw [List.length_append]
              omega
            obtain ⟨more, final, rounds, few, ends⟩ := ih _ shorter (some timeout)
              (bytes ++ chunk.val) (after s (head ++ [.deed context (.read limit)]))
              (events ++ head ++ [.deed context (.read limit)]) same
              (by rw [after, trace, List.append_assoc, List.append_assoc]) got
              (Nat.le_of_not_lt inside) begun rfl
            refine ⟨head ++ .deed context (.read limit) :: more, ?_, .round heads admitted rounds,
              ?_, ?_⟩
            · rw [final, after_after, List.append_assoc, List.singleton_append]
            · rw [heads.count_round limits transfer]
              omega
            · rw [List.append_assoc] at ends
              have moved := ends.after_round (Nat.le_add_right s.reads _)
              rw [List.append_assoc, List.singleton_append] at moved
              exact moved
    · rw [exec_bind_error failed]
      refine ⟨idle, rfl, .done quiet, ?_, .excused (same ▸ excused)⟩
      rw [List.countP_eq_zero.mpr (fun event member => by simp [quiet event member])]
      exact Nat.zero_le _

end reading

section writing
variable {clock : Nat → Instant} {context : TaskExecutionContext} {configuredTimeout : Duration}

/-- A write offers exactly the bytes that were not sent yet. -/
def OffersWrite (outside : NetworkOutside) (origin : List NetworkEvent) (request : List UInt8)
    (before : List NetworkEvent) (deed : NetworkDeed) : Prop :=
  ∃ rest, deed = .write rest ∧ rest ≠ [] ∧ sent outside origin before ++ rest = request

theorem sent_head {outside : NetworkOutside} {origin before head : List NetworkEvent}
    (heads : Heads context .setWriteTimeout head) :
    sent outside origin (before ++ head) = sent outside origin before := by
  rw [sent, gather_append, heads.gather_eq_nil (fun _ _ => rfl) (fun _ _ => rfl),
    List.append_nil]

theorem sent_idle {outside : NetworkOutside} {origin before idle : List NetworkEvent}
    (quiet : ∀ event ∈ idle, isTransfer event = false) :
    sent outside origin (before ++ idle) = sent outside origin before := by
  have nothing : ∀ (origin events : List NetworkEvent),
      (∀ event ∈ events, isTransfer event = false) → gather (leaving outside) origin events = [] := by
    intro origin events quiet
    induction events generalizing origin with
    | nil => rfl
    | cons event rest ih =>
      have none : leaving outside origin event = [] := by
        have free := quiet event List.mem_cons_self
        cases event with
        | reading now => rfl
        | deed context deed => cases deed <;> first | rfl | cases free
      rw [gather, none, ih _ (fun other member => quiet other (List.mem_cons_of_mem _ member)),
        List.append_nil]
  rw [sent, gather_append, nothing _ _ quiet, List.append_nil]

theorem sent_refused {outside : NetworkOutside} {origin before : List NetworkEvent}
    {bytes : List UInt8} (answer : outside.write (origin ++ before) bytes.length = none) :
    sent outside origin (before ++ [.deed context (.write bytes)]) = sent outside origin before := by
  unfold sent
  rw [gather_append]
  simp only [gather, leaving, answer, List.append_nil]

theorem sent_write {outside : NetworkOutside} {origin before : List NetworkEvent}
    {bytes : List UInt8} {written : Fin (bytes.length + 1)}
    (answer : outside.write (origin ++ before) bytes.length = some written) :
    sent outside origin (before ++ [.deed context (.write bytes)]) =
      sent outside origin before ++ bytes.take written := by
  unfold sent
  rw [gather_append]
  simp only [gather, leaving, answer, List.append_nil]

/-- How the write loop ends: with every byte sent, or with an excuse and some of them sent. -/
inductive WriteEnds (clock : Nat → Instant) (context : TaskExecutionContext)
    (outside : NetworkOutside) (reads : Nat) (request transferred : List UInt8) :
    Except NetworkAdapterError Unit → Prop where
  | complete (all : transferred = request) :
      WriteEnds clock context outside reads request transferred (.ok ())
  | excused {error : NetworkAdapterError} (excuse : Excused clock context outside reads error)
      (some_bytes : transferred <+: request) :
      WriteEnds clock context outside reads request transferred (.error error)

theorem WriteEnds.mono {outside : NetworkOutside} {reads later : Nat}
    {request transferred : List UInt8} {result : Except NetworkAdapterError Unit}
    (ends : WriteEnds clock context outside later request transferred result) (le : reads ≤ later) :
    WriteEnds clock context outside reads request transferred result := by
  cases ends with
  | complete all => exact .complete all
  | excused excuse some_bytes => exact .excused (excuse.mono le) some_bytes

theorem writeRequest_run {outside : NetworkOutside} {origin : List NetworkEvent}
    {request : List UInt8} (installed : Option Duration) (rest : List UInt8) (s : NetworkSession)
    (events : List NetworkEvent) (same : s.outside = outside) (trace : s.trace = origin ++ events)
    (held : sent outside origin events ++ rest = request) :
    ∃ more, (exec (writeRequest clock context configuredTimeout installed rest) s).2 =
        after s more ∧
      Rounds context .setWriteTimeout (OffersWrite outside origin request) events more ∧
      more.countP isTransfer ≤ rest.length ∧
      WriteEnds clock context outside s.reads request (sent outside origin (events ++ more))
        (exec (writeRequest clock context configuredTimeout installed rest) s).1 := by
  induction size : rest.length using Nat.strongRecOn generalizing rest installed s events with
  | _ most ih =>
    subst size
    have limits : ∀ timeout, isTransfer (.deed context (.setWriteTimeout timeout)) = false :=
      fun _ => rfl
    rw [writeRequest]
    split
    · rename_i finished
      subst finished
      rw [List.append_nil] at held
      refine ⟨[], (after_nil s).symm, .done (by simp), Nat.zero_le _, .complete ?_⟩
      rw [List.append_nil, held]
    rename_i unfinished
    have some_left : 0 < rest.length := List.length_pos_iff.mpr unfinished
    have partly : sent outside origin events <+: request := held ▸ List.prefix_append _ _
    rcases installTimeout_cases limits installed s with
      ⟨head, timeout, heads, done⟩ | ⟨idle, error, quiet, excused, failed⟩
    · rw [exec_bind_ok done, exec_bind_ok (exec_acts _ _ _ _), does_eq_after, after_after]
      have admitted : OffersWrite outside origin request (events ++ head) (.write rest) :=
        ⟨rest, rfl, unfinished, by rw [sent_head heads, held]⟩
      have transfer : isTransfer (.deed context (.write rest)) = true := rfl
      have asked : (after s head).outside.write (after s head).trace rest.length =
          outside.write (origin ++ (events ++ head)) rest.length := by
        change s.outside.write (s.trace ++ head) rest.length = _
        rw [same, trace, List.append_assoc]
      rw [asked]
      cases answer : outside.write (origin ++ (events ++ head)) rest.length with
      | none =>
        rw [exec_bind_error (exec_orIoFailure_none _ _), after_after, List.append_assoc,
          List.singleton_append]
        have unwritten : ∀ written, outside.write (origin ++ (events ++ head)) rest.length =
            some written → written = 0 := by
          intro written wrote
          rw [answer] at wrote
          cases wrote
        have excused : Excused clock context outside s.reads .writeFailed :=
          .unwritten some_left unwritten
        refine ⟨_, rfl, .round heads admitted (.done (by simp)), ?_,
          .excused (excused.fallback (Nat.le_add_right _ _)) ?_⟩
        · rw [heads.count_round limits transfer, List.countP_singleton]
          exact some_left
        · have none_sent : sent outside origin (events ++ (head ++ [.deed context (.write rest)])) =
              sent outside origin events := by
            rw [← List.append_assoc, sent_refused answer, sent_head heads]
          have regrouped : events ++ (head ++ [.deed context (.write rest),
              .reading (clock (after s (head ++ [.deed context (.write rest)])).reads)]) =
            events ++ (head ++ [.deed context (.write rest)]) ++
              [.reading (clock (after s (head ++ [.deed context (.write rest)])).reads)] := by
            simp
          rw [regrouped, sent_idle (by simp), none_sent]
          exact partly
      | some written =>
        rw [exec_bind_ok (exec_orIoFailure_some _ _ _)]
        have moved : sent outside origin (events ++ head ++ [.deed context (.write rest)]) =
            sent outside origin events ++ rest.take written := by
          rw [sent_write answer, sent_head heads]
        split
        · rename_i nothing
          subst nothing
          rw [exec_throw]
          refine ⟨_, rfl, .round heads admitted (.done (by simp)), ?_, .excused ?_ ?_⟩
          · rw [heads.count_round limits transfer, List.countP_nil]
            exact some_left
          · have unwritten : ∀ written, outside.write (origin ++ (events ++ head)) rest.length =
                some written → written = 0 :=
              fun _ wrote => Option.some.inj (wrote.symm.trans answer)
            exact .unwritten some_left unwritten
          · rw [← List.append_assoc, moved]
            simpa using partly
        · rename_i something
          have positive : 0 < written.val := Fin.pos_iff_ne_zero.mpr something
          have shorter : (rest.drop written).length < rest.length := by
            rw [List.length_drop]
            omega
          obtain ⟨more, final, rounds, few, ends⟩ := ih _ shorter (some timeout)
            (rest.drop written) (after s (head ++ [.deed context (.write rest)]))
            (events ++ head ++ [.deed context (.write rest)]) same
            (by rw [after, trace, List.append_assoc, List.append_assoc])
            (by rw [moved, List.append_assoc, List.take_append_drop, held]) rfl
          refine ⟨head ++ .deed context (.write rest) :: more, ?_, .round heads admitted rounds,
            ?_, ?_⟩
          · rw [final, after_after, List.append_assoc, List.singleton_append]
          · rw [heads.count_round limits transfer]
            omega
          · have later := ends.mono (Nat.le_add_right s.reads _)
            rw [List.append_assoc, List.append_assoc, List.singleton_append] at later
            exact later
    · rw [exec_bind_error failed]
      refine ⟨idle, rfl, .done quiet, ?_, .excused (same ▸ excused) ?_⟩
      · rw [List.countP_eq_zero.mpr (fun event member => by simp [quiet event member])]
        exact Nat.zero_le _
      · rw [sent_idle quiet]
        exact partly

end writing

/-- Nothing goes wrong at the socket, and every write takes a byte. -/
structure Untroubled (outside : NetworkOutside) : Prop where
  limits : ∀ trace, outside.setTimeout trace ≠ none
  reads : ∀ trace limit, outside.read trace limit ≠ none
  writes : ∀ trace limit, 0 < limit → ∃ written, outside.write trace limit = some written ∧
    written ≠ 0

/-- From one reading of the clock on, the Budget lasts. -/
def Lasts (clock : Nat → Instant) (context : TaskExecutionContext) (reads : Nat) : Prop :=
  ∀ n, reads ≤ n → context.remainingWallTime (clock n) ≠ 0

theorem Untroubled.no_excuse {clock : Nat → Instant} {context : TaskExecutionContext}
    {outside : NetworkOutside} {reads : Nat} (untroubled : Untroubled outside)
    (lasts : Lasts clock context reads) {error : NetworkAdapterError} :
    ¬ Excused clock context outside reads error := by
  intro excused
  cases excused with
  | spent later gone => exact lasts _ later gone
  | unset refused => exact untroubled.limits _ refused
  | unread refused => exact untroubled.reads _ _ refused
  | unwritten offered refused =>
    obtain ⟨written, wrote, positive⟩ := untroubled.writes _ _ offered
    exact positive (refused written wrote)

/-- Both loops are exact. Reading ends with the whole stream within the Budget, with one byte more
than is allowed, or with an excuse; writing sends the request in order, or a part of it with an
excuse; no round begins without a check of the Budget, and their number is bounded. -/
theorem transfers_exact (clock : Nat → Instant) (context : TaskExecutionContext)
    (configuredTimeout : Duration) (s : NetworkSession) :
    (∀ stream, Serves s.outside s.trace stream → ∃ more,
      (exec (readResponse clock context configuredTimeout none []) s).2 = after s more ∧
      Rounds context .setReadTimeout (OffersRead s.outside s.trace) [] more ∧
      more.countP isTransfer ≤ maxTcpResponseBytes + 1 ∧
      ReadEnds clock context s.outside s.reads s.trace [] stream
        (exec (readResponse clock context configuredTimeout none []) s).1 more ∧
      (Untroubled s.outside → Lasts clock context s.reads →
        (stream.length ≤ maxTcpResponseBytes →
          (exec (readResponse clock context configuredTimeout none []) s).1 = .ok stream) ∧
        (maxTcpResponseBytes < stream.length →
          (exec (readResponse clock context configuredTimeout none []) s).1 =
            .error .responseTooLarge ∧
          (received s.outside s.trace more).length = maxTcpResponseBytes + 1))) ∧
    (∀ request : List UInt8, ∃ more,
      (exec (writeRequest clock context configuredTimeout none request) s).2 = after s more ∧
      Rounds context .setWriteTimeout (OffersWrite s.outside s.trace request) [] more ∧
      more.countP isTransfer ≤ request.length ∧
      WriteEnds clock context s.outside s.reads request (sent s.outside s.trace more)
        (exec (writeRequest clock context configuredTimeout none request) s).1 ∧
      (Untroubled s.outside → Lasts clock context s.reads →
        (exec (writeRequest clock context configuredTimeout none request) s).1 = .ok () ∧
          sent s.outside s.trace more = request)) := by
  have trace : s.trace = s.trace ++ [] := (List.append_nil _).symm
  constructor
  · intro stream serves
    obtain ⟨more, final, rounds, few, ends⟩ := @readResponse_run clock context configuredTimeout
      s.outside s.trace stream serves none [] s [] rfl trace rfl (Nat.zero_le _) List.nil_prefix
    refine ⟨more, final, rounds, few, ends, fun untroubled lasts => ?_⟩
    generalize (exec (readResponse clock context configuredTimeout none []) s).1 = result at ends
    cases ends with
    | complete small left => exact ⟨fun _ => rfl, fun large => absurd small (Nat.not_le.mpr large)⟩
    | tooLarge exceeded start =>
      have long := start.length_le
      rw [exceeded] at long
      exact ⟨fun small => by omega, fun _ => ⟨rfl, exceeded⟩⟩
    | excused excuse => exact absurd excuse (untroubled.no_excuse lasts)
  · intro request
    obtain ⟨more, final, rounds, few, ends⟩ := @writeRequest_run clock context configuredTimeout
      s.outside s.trace request none request s [] rfl trace rfl
    refine ⟨more, final, rounds, few, ends, fun untroubled lasts => ?_⟩
    generalize (exec (writeRequest clock context configuredTimeout none request) s).1 = result
      at ends
    cases ends with
    | complete all => exact ⟨rfl, all⟩
    | excused excuse some_bytes => exact absurd excuse (untroubled.no_excuse lasts)

def isRoomyRead : NetworkEvent → Bool
  | .deed _ (.read (_ + 1)) => true
  | _ => false

/-- A peer that delivers its stream byte by byte and takes one byte with every write. -/
def byByte (stream : List UInt8) : NetworkOutside where
  connect _ := some ()
  peerAddr _ := none
  setTimeout _ := some ()
  write _ limit := some (Fin.ofNat (limit + 1) (min 1 limit))
  shutdown _ := some ()
  read trace limit :=
    some ⟨(stream.drop (trace.countP isRoomyRead)).take (min 1 limit), by
      rw [List.length_take]
      omega⟩

theorem arriving_byByte (stream : List UInt8) (origin : List NetworkEvent) (event : NetworkEvent) :
    arriving (byByte stream) origin event =
      (stream.drop (origin.countP isRoomyRead)).take (if isRoomyRead event then 1 else 0) := by
  cases event with
  | reading now => rfl
  | deed context deed =>
    cases deed with
    | read limit => cases limit <;> simp [arriving, byByte, isRoomyRead]
    | _ => rfl

theorem received_byByte (stream : List UInt8) (origin events : List NetworkEvent) :
    received (byByte stream) origin events =
      (stream.drop (origin.countP isRoomyRead)).take (events.countP isRoomyRead) := by
  induction events generalizing origin with
  | nil => simp [received, gather]
  | cons event rest ih =>
    rw [received, gather, arriving_byByte, ← received, ih, List.countP_append,
      List.countP_singleton, ← List.drop_drop, ← List.take_add, List.countP_cons, Nat.add_comm]

theorem serves_byByte (stream : List UInt8) : Serves (byByte stream) [] stream := by
  intro events limit bytes delivered
  cases Option.some.inj delivered
  have count : (received (byByte stream) [] events).length =
      min (events.countP isRoomyRead) stream.length := by
    rw [received_byByte]
    simp
  have next : stream.drop (received (byByte stream) [] events).length =
      stream.drop (events.countP isRoomyRead) := by
    rw [count]
    rcases Nat.le_total (events.countP isRoomyRead) stream.length with inside | beyond
    · rw [Nat.min_eq_left inside]
    · rw [Nat.min_eq_right beyond, List.drop_of_length_le (Nat.le_refl _),
        List.drop_of_length_le beyond]
  constructor
  · rw [next, List.nil_append]
    exact List.take_prefix _ _
  · intro nothing room
    rw [count]
    simp only [List.nil_append, List.take_eq_nil_iff, List.drop_eq_nil_iff] at nothing
    omega

theorem untroubled_byByte (stream : List UInt8) : Untroubled (byByte stream) where
  limits _ := Option.some_ne_none _
  reads _ _ := Option.some_ne_none _
  writes trace limit room := by
    refine ⟨_, rfl, fun zero => ?_⟩
    have value := congrArg Fin.val zero
    rw [Fin.val_ofNat, Nat.min_eq_left room, Nat.mod_eq_of_lt (by omega)] at value
    cases value

theorem transfers_exact_by_byte :
    (exec (readResponse (fun _ => 0) ⟨⟨0⟩, ⟨60, 1, 1⟩, [], 0⟩ 1 none [])
      ⟨⟨⟨1, by decide, by decide⟩, byByte [104, 105, 33], []⟩, 0⟩).1 = .ok [104, 105, 33] := by
  obtain ⟨more, _, _, _, _, calm⟩ := (transfers_exact (fun _ => 0) ⟨⟨0⟩, ⟨60, 1, 1⟩, [], 0⟩ 1
    ⟨⟨⟨1, by decide, by decide⟩, byByte [104, 105, 33], []⟩, 0⟩).1 [104, 105, 33]
      (serves_byByte [104, 105, 33])
  have lasts : Lasts (fun _ => 0) ⟨⟨0⟩, ⟨60, 1, 1⟩, [], 0⟩ 0 := by
    intro n _
    exact (by decide : (⟨⟨0⟩, ⟨60, 1, 1⟩, [], 0⟩ : TaskExecutionContext).remainingWallTime 0 ≠ 0)
  exact (calm (untroubled_byByte _) lasts).1 (by decide)

end AiOs.NetworkAdapter
