import AiOs.Lib.Loop
import AiOs.Process.Spawn

/-! The system around the Process Adapter as it changes: what the adapter has done to it, in
order, and how it answers. Every answer may depend on all that was done before, so that two
looks at one file may differ. -/
namespace AiOs.ProcessAdapter

open Fallible OsString

/-- What was done, with the answer. A look at files changes nothing. -/
inductive SystemEvent where
  | looked
  | read (now : Instant)
  | slept (duration : Duration)
  | createdDir (path : OsString) (mode : Option UInt32) (answer : Bool)
  | setMode (path : OsString) (mode : UInt32) (answer : Bool)
  | removedDir (path : OsString) (answer : Bool)
  | wrote (path : OsString) (contents : String) (answer : Bool)
  | spawned (command : Command) (answer : Bool)
  | sent (answer : Bool)
  | polled (status : Option (Option Bool))
  | killed (answer : Bool)
  | waited (answer : Bool)
  | measured (answer : Except ProcessAdapterError Bool)

/-- How the system answers. `tryWait` fails, finds the child running, or finds that it has
exited, successfully or not. `notFound` is the kind of the error of a look at a path. -/
structure Outside (δ : Type) where
  now : List SystemEvent → Instant
  host : List SystemEvent → Host δ
  notFound : List SystemEvent → OsString → Bool
  seccompFilter : List SystemEvent → Option (SeccompFilterFile δ)
  descriptorChannel : List SystemEvent → Bool
  createDir : List SystemEvent → OsString → Bool
  setMode : List SystemEvent → OsString → UInt32 → Bool
  removeDir : List SystemEvent → OsString → Bool
  write : List SystemEvent → OsString → String → Bool
  spawn : List SystemEvent → Command → Bool
  send : List SystemEvent → Bool
  tryWait : List SystemEvent → Option (Option Bool)
  kill : List SystemEvent → Bool
  wait : List SystemEvent → Bool

/-- What a run finds when it begins. Its checks come before it reads the clock. -/
def Outside.site {δ : Type} (outside : Outside δ) (trace : List SystemEvent) : Site δ :=
  ⟨outside.host trace, orError (outside.seccompFilter trace) .seccompUnavailable,
    check (outside.descriptorChannel trace) .descriptorTransferFailed,
    outside.now (trace ++ [.looked])⟩

/-- The clock never goes back, and a sleep is not cut short. -/
structure Outside.Punctual {δ : Type} (outside : Outside δ) : Prop where
  forward : ∀ trace event, outside.now trace ≤ outside.now (trace ++ [event])
  slept : ∀ trace duration,
    outside.now trace + duration ≤ outside.now (trace ++ [.slept duration])

/-- The system, and all that was done to it so far. -/
structure Machine (δ : Type) where
  outside : Outside δ
  trace : List SystemEvent

abbrev MachineM (δ : Type) := Fallible (Machine δ) ProcessAdapterError

variable {δ α : Type}

def Machine.after (m : Machine δ) (events : List SystemEvent) : Machine δ :=
  ⟨m.outside, m.trace ++ events⟩

def perform (answer : Outside δ → List SystemEvent → α) (event : α → SystemEvent) : MachineM δ α :=
  modifyGet fun m => (answer m.outside m.trace, m.after [event (answer m.outside m.trace)])

/-- One look at the files of the host. -/
def look (f : Host δ → α) : MachineM δ α :=
  perform (fun outside trace => f (outside.host trace)) fun _ => .looked

/-- `Instant::now()` -/
def readClock : MachineM δ Instant := perform Outside.now .read

def sleep (duration : Duration) : MachineM δ Unit :=
  perform (fun _ _ => ()) fun _ => .slept duration

def createDir (path : OsString) (mode : Option UInt32) : MachineM δ Bool :=
  perform (fun outside trace => outside.createDir trace path) (.createdDir path mode)

def setMode (path : OsString) (mode : UInt32) : MachineM δ Bool :=
  perform (fun outside trace => outside.setMode trace path mode) (.setMode path mode)

def removeDir (path : OsString) : MachineM δ Bool :=
  perform (fun outside trace => outside.removeDir trace path) (.removedDir path)

def writeFile (path : OsString) (contents : String) : MachineM δ Bool :=
  perform (fun outside trace => outside.write trace path contents) (.wrote path contents)

def spawn (command : Command) : MachineM δ Bool :=
  perform (fun outside trace => outside.spawn trace command) (.spawned command)

def send : MachineM δ Bool := perform Outside.send .sent

def tryWait : MachineM δ (Option (Option Bool)) := perform Outside.tryWait .polled

def kill : MachineM δ Bool := perform Outside.kill .killed

def wait : MachineM δ Bool := perform Outside.wait .waited

theorem exec_perform (answer : Outside δ → List SystemEvent → α) (event : α → SystemEvent)
    (m : Machine δ) : exec (perform answer event) m =
      (.ok (answer m.outside m.trace), m.after [event (answer m.outside m.trace)]) := rfl

theorem Machine.after_after (m : Machine δ) (first second : List SystemEvent) :
    (m.after first).after second = m.after (first ++ second) := by
  simp [Machine.after]

theorem Machine.after_inj (m : Machine δ) {xs ys : List SystemEvent}
    (same : m.after xs = m.after ys) : xs = ys :=
  List.append_cancel_left (congrArg Machine.trace same)

theorem Machine.after_nil (m : Machine δ) : m.after [] = m := by
  simp [Machine.after]

/-- Every outcome of a primitive is one event with the system's answer. -/
theorem perform_rule {β : Type} {answer : Outside δ → List SystemEvent → α}
    {event : α → SystemEvent} {f : α → MachineM δ β} {m : Machine δ}
    {P : Except ProcessAdapterError β × Machine δ → Prop}
    (any : ∀ a, answer m.outside m.trace = a → P (exec (f a) (m.after [event a]))) :
    P (exec (perform answer event >>= f) m) := by
  rw [exec_bind_ok (exec_perform answer event m)]
  exact any _ rfl

theorem Outside.Punctual.after {outside : Outside δ} (punctual : outside.Punctual)
    (trace events : List SystemEvent) : outside.now trace ≤ outside.now (trace ++ events) := by
  induction events generalizing trace with
  | nil => simp
  | cons event events ih =>
    have later := ih (trace ++ [event])
    rw [List.append_assoc, List.singleton_append] at later
    exact (punctual.forward trace event).trans later

/-- An outcome, by the events that a computation has added. -/
def Leaves (m : Machine δ) (Q : Except ProcessAdapterError α → List SystemEvent → Prop)
    (out : Except ProcessAdapterError α × Machine δ) : Prop :=
  ∃ events, out.2 = m.after events ∧ Q out.1 events

section leaves
variable {β : Type} {m : Machine δ} {Q : Except ProcessAdapterError α → List SystemEvent → Prop}

theorem leaves_stop {answer : Except ProcessAdapterError α} (holds : Q answer []) :
    Leaves m Q (answer, m) :=
  ⟨[], m.after_nil.symm, holds⟩

theorem leaves_after {events : List SystemEvent} {out : Except ProcessAdapterError α × Machine δ}
    (rest : Leaves (m.after events) (fun answer later => Q answer (events ++ later)) out) :
    Leaves m Q out := by
  obtain ⟨later, same, holds⟩ := rest
  exact ⟨events ++ later, same.trans (m.after_after _ _), holds⟩

theorem leaves_seen {answer : Outside δ → List SystemEvent → β} {event : β → SystemEvent}
    {f : β → MachineM δ α}
    (any : ∀ b, answer m.outside m.trace = b → Leaves (m.after [event b])
      (fun answer later => Q answer (event b :: later)) (exec (f b) (m.after [event b]))) :
    Leaves m Q (exec (perform answer event >>= f) m) := by
  apply perform_rule
  exact fun b seen => leaves_after (any b seen)

theorem leaves_perform {answer : Outside δ → List SystemEvent → β} {event : β → SystemEvent}
    {f : β → MachineM δ α}
    (any : ∀ b, Leaves (m.after [event b]) (fun answer later => Q answer (event b :: later))
      (exec (f b) (m.after [event b]))) :
    Leaves m Q (exec (perform answer event >>= f) m) :=
  leaves_seen fun b _ => any b

theorem leaves_bind {R : Except ProcessAdapterError β → List SystemEvent → Prop}
    {x : MachineM δ β} {f : β → MachineM δ α} (first : Leaves m R (exec x m))
    (failed : ∀ e events, R (.error e) events → Q (.error e) events)
    (continued : ∀ b events, R (.ok b) events → Leaves (m.after events)
      (fun answer later => Q answer (events ++ later)) (exec (f b) (m.after events))) :
    Leaves m Q (exec (x >>= f) m) := by
  obtain ⟨events, same, holds⟩ := first
  apply bind_rule
  · intro e t ran
    rw [ran] at same holds
    exact ⟨events, same, failed e events holds⟩
  · intro b t ran
    rw [ran] at same holds
    cases same
    exact leaves_after (continued b events holds)

theorem leaves_attempt {R : Except ProcessAdapterError β → List SystemEvent → Prop}
    {x : MachineM δ β} {f : Except ProcessAdapterError β → MachineM δ α}
    (first : Leaves m R (exec x m))
    (continued : ∀ answer events, R answer events → Leaves (m.after events)
      (fun answer later => Q answer (events ++ later)) (exec (f answer) (m.after events))) :
    Leaves m Q (exec (attempt x >>= f) m) := by
  obtain ⟨events, same, holds⟩ := first
  rw [attempt, exec_bind_ok (exec_modifyGet (exec x) m), same]
  exact leaves_after (continued _ events holds)

theorem Leaves.mono {R : Except ProcessAdapterError α → List SystemEvent → Prop}
    {out : Except ProcessAdapterError α × Machine δ} (leaves : Leaves m R out)
    (weaker : ∀ answer events, R answer events → Q answer events) : Leaves m Q out := by
  obtain ⟨events, same, holds⟩ := leaves
  exact ⟨events, same, weaker _ _ holds⟩

end leaves

end AiOs.ProcessAdapter
