import Mathlib.Data.List.Induction
import AiOs.Lib.Timed
import AiOs.Runtime.Facade

/-! What the adapters share. An adapter works at a site: next to its own state there is the
outside it acts on, and a trace of every reading of the clock and of everything it did. An
adapter that respects the wall time checks the context of an operation right before it acts,
and behind its facade that check is one against the start of the Task. -/
namespace AiOs

open Fallible Timed

abbrev AdapterEvent (D : Type) := Event Instant TaskExecutionContext D

structure Site (A W D : Type) where
  adapter : A
  outside : W
  trace : List (AdapterEvent D)

structure Session (A W D : Type) extends Site A W D where
  reads : Nat

abbrev AdapterM (A W D Err : Type) := Fallible (Session A W D) Err

section
variable {A W D Err α : Type} (clock : Nat → Instant)

namespace Session

def read (s : Session A W D) : Session A W D :=
  { s with reads := s.reads + 1, trace := s.trace ++ [.reading (clock s.reads)] }

def does (s : Session A W D) (context : TaskExecutionContext) (deed : D) : Session A W D :=
  { s with trace := s.trace ++ [.deed context deed] }

end Session

/-- `context.remaining_wall_time()` -/
def remainingWallTime (context : TaskExecutionContext) : AdapterM A W D Err Duration :=
  modifyGet (fun s => (context.remainingWallTime (clock s.reads), s.read clock))

/-- The adapter acts, and the outside answers as the whole trace makes it. -/
def acts (context : TaskExecutionContext) (deed : D)
    (answer : W → List (AdapterEvent D) → α) : AdapterM A W D Err α :=
  modifyGet (fun s => (answer s.outside s.trace, s.does context deed))

def Site.run (site : Site A W D) (program : AdapterM A W D Err α) (reads : Nat) :
    Except Err α × Site A W D × Nat :=
  let out := exec program ⟨site, reads⟩
  (out.1, out.2.toSite, out.2.reads)

theorem exec_remainingWallTime (context : TaskExecutionContext) (s : Session A W D) :
    exec (remainingWallTime clock context : AdapterM A W D Err Duration) s =
      (.ok (context.remainingWallTime (clock s.reads)), s.read clock) := rfl

theorem exec_acts (context : TaskExecutionContext) (deed : D)
    (answer : W → List (AdapterEvent D) → α) (s : Session A W D) :
    exec (acts context deed answer : AdapterM A W D Err α) s =
      (.ok (answer s.outside s.trace), s.does context deed) := rfl

end

def TaskExecutionContext.deadline (context : TaskExecutionContext) : Instant :=
  context.startedAt + context.budget.wallTime

theorem TaskExecutionContext.no_time_left {context : TaskExecutionContext} {now : Instant}
    (late : context.deadline ≤ now) : context.remainingWallTime now = 0 := by
  apply Nat.sub_eq_zero_of_le
  apply Nat.le_sub_of_add_le
  rw [Nat.add_comm]
  exact late

theorem TaskExecutionContext.before_deadline {context : TaskExecutionContext} {now : Instant}
    (left : context.remainingWallTime now ≠ 0) : now < context.deadline := by
  by_contra late
  exact left (no_time_left (Nat.le_of_not_lt late))

/-- Which deeds need a check, and the time limit a deed installs. -/
class Checked (D : Type) where
  guarded : D → Bool
  timeout : D → Option Duration

/-- Every deed that needs a check comes right after a reading that admits it. -/
def Site.Timely {A W D : Type} [Checked D] (site : Site A W D)
    (admits : TaskExecutionContext → D → Instant → Prop) : Prop :=
  Timed.Timely (fun deed => Checked.guarded deed = true) admits site.trace

/-- The outcome of a program that left a timely trace. -/
def LeavesTimely {A W D Err α : Type} [Checked D]
    (admits : TaskExecutionContext → D → Instant → Prop) (out : Except Err α × Session A W D) :
    Prop :=
  out.2.Timely admits

namespace Session
variable {A W D : Type} [Checked D] {s : Session A W D}
  {admits : TaskExecutionContext → D → Instant → Prop}

theorem timely_read (timely : s.Timely admits) (clock : Nat → Instant) :
    (s.read clock).Timely admits :=
  Timed.Timely.reading timely _

theorem timely_free (timely : s.Timely admits) (context : TaskExecutionContext) (deed : D)
    (free : Checked.guarded deed = false) : (s.does context deed).Timely admits :=
  Timed.Timely.free timely context (by rw [free]; exact Bool.false_ne_true)

theorem timely_checked {clock : Nat → Instant} (timely : (s.read clock).Timely admits)
    {context : TaskExecutionContext} {deed : D} (admitted : admits context deed (clock s.reads)) :
    ((s.read clock).does context deed).Timely admits :=
  Timed.Timely.deed timely admitted

end Session

/-- The wall time was checked: the reading is before the deadline, and a time limit that is
installed is positive, within the configured one and within the time that is left. -/
def WithinBudget {D : Type} [Checked D] (limit : Duration) (context : TaskExecutionContext)
    (deed : D) (now : Instant) : Prop :=
  now < context.deadline ∧ ∀ timeout, Checked.timeout deed = some timeout →
    0 < timeout ∧ timeout ≤ limit ∧ timeout ≤ context.remainingWallTime now

section
variable {A Output Err : Type} (W D O : Type) [Checked D] [ContextualOperation O]
  [ExecutionAdapter (Site A W D) O Output Err]

/-- An adapter that respects the wall time: it keeps every trace timely, and an operation
whose time is over is answered with `exceeded` and leaves nothing but the reading. -/
structure RespectsWallTime (limit : A → Duration) (exceeded : Err) : Prop where
  timely : ∀ (clock : Nat → Instant) (site : Site A W D) (operation : O) (reads : Nat)
    (context : TaskExecutionContext) (admits : TaskExecutionContext → D → Instant → Prop),
    ContextualOperation.executionContext operation = some context →
    (∀ deed now, WithinBudget (limit site.adapter) context deed now → admits context deed now) →
    site.Timely admits →
    (ExecutionAdapter.execute clock site operation reads).2.1.Timely admits ∧
      limit (ExecutionAdapter.execute clock site operation reads).2.1.adapter = limit site.adapter
  spent : ∀ (clock : Nat → Instant) (site : Site A W D) (operation : O) (reads : Nat)
    (context : TaskExecutionContext),
    ContextualOperation.executionContext operation = some context →
    context.deadline ≤ clock reads →
    ExecutionAdapter.execute clock site operation reads =
      (.error exceeded, { site with trace := site.trace ++ [.reading (clock reads)] }, reads + 1)

end

section
variable {S A W D O Output Err : Type} [Checked D] [LawfulEventStore S] [ContextualOperation O]
  [ExecutionAdapter (Site A W D) O Output Err] {env : Env} {limit : A → Duration} {exceeded : Err}

/-- A deed for a Task was checked against the Task's start and its submitted Budget. -/
def WithinTask (submitted : List (TaskId × TaskSpec)) (started : List (TaskId × Instant))
    (limit : Duration) (context : TaskExecutionContext) (deed : D) (now : Instant) : Prop :=
  ∃ startedAt spec, (context.taskId, startedAt) ∈ started ∧ (context.taskId, spec) ∈ submitted ∧
    now < startedAt + spec.budget.wallTime ∧ ∀ timeout, Checked.timeout deed = some timeout →
      0 < timeout ∧ timeout ≤ limit ∧ timeout ≤ spec.budget.wallTime - (now - startedAt)

/-- The wall time of every Task is enforced: a Task has one start and one specification, what
was done for it was checked before, and an operation that comes too late has no effect. -/
structure WallTimeEnforced (env : Env) (limit : A → Duration) (exceeded : Err)
    (σ : System S (Site A W D) O) : Prop where
  once : (σ.started.map Prod.fst).Nodup ∧ (σ.submitted.map Prod.fst).Nodup
  timely : σ.gate.adapter.Timely
    (WithinTask σ.submitted σ.started (limit σ.gate.adapter.adapter))
  spent : ∀ x ∈ σ.executed, ∃ startedAt spec, (x.taskId, startedAt) ∈ σ.started ∧
    (x.taskId, spec) ∈ σ.submitted ∧
    (startedAt + spec.budget.wallTime ≤ env.clock x.moment.world.reads →
      ∀ site : Site A W D,
        ExecutionAdapter.execute env.clock site x.operation x.moment.world.reads =
          (.error exceeded,
            { site with trace := site.trace ++ [.reading (env.clock x.moment.world.reads)] },
            x.moment.world.reads + 1))

omit [LawfulEventStore S] in
variable (env) in
theorem replay_timely (respects : RespectsWallTime W D O limit exceeded) {origin : Site A W D}
    (blank : origin.trace = []) {submitted : List (TaskId × TaskSpec)}
    {started : List (TaskId × Instant)} (executed : List (Execution S O))
    (contexts : ∀ x ∈ executed, InContext submitted started x.taskId x.operation) :
    (replay env origin executed).Timely
      (WithinTask submitted started (limit origin.adapter)) ∧
    limit (replay env origin executed).adapter = limit origin.adapter := by
  induction executed using List.reverseRecOn with
  | nil =>
    refine ⟨?_, rfl⟩
    change Timed.Timely _ _ origin.trace
    rw [blank]
    exact timely_nil
  | append_singleton earlier x ih =>
    obtain ⟨timely, same⟩ := ih (fun y member => contexts y (List.mem_append_left _ member))
    obtain ⟨startedAt, spec, start, submission, attached⟩ :=
      contexts x (List.mem_append_right _ (List.mem_singleton.mpr rfl))
    have after := respects.timely env.clock _ x.operation x.moment.world.reads _ _ attached (by
      intro deed now within
      rw [same] at within
      exact ⟨startedAt, spec, start, submission, within⟩) timely
    rw [replay_snoc]
    exact ⟨after.1, after.2.trans same⟩

/-- Behind its facade, an adapter that respects the wall time enforces it over whole runs,
whatever the approvals took. -/
theorem enforces_wall_time (respects : RespectsWallTime W D O limit exceeded)
    (fresh : Function.Injective env.uuid) {origin : Site A W D} (blank : origin.trace = [])
    {σ : System S (Site A W D) O} (served : System.Served env origin σ) :
    WallTimeEnforced env limit exceeded σ := by
  have attended := served.attended fresh
  have contexts := served.executed_in_context fresh
  have guarded := served.reached.guarded fresh
  refine ⟨⟨attended.starts.once, guarded.submissions.once⟩, ?_, ?_⟩
  · obtain ⟨timely, same⟩ := replay_timely env respects blank σ.executed contexts
    rw [attended.replayed, same]
    exact timely
  · intro x member
    obtain ⟨startedAt, spec, start, submission, attached⟩ := contexts x member
    refine ⟨startedAt, spec, start, submission, ?_⟩
    intro late site
    exact respects.spent env.clock site x.operation _ _ attached late

end

end AiOs
